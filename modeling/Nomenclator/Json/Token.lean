import Nomenclator.Json.Number

/-!
# Tokens of JSON

A text is cut into tokens before anything else is decided about it. Where it stops making sense
the tokens end in a broken one, so that whoever reads them in order meets the faults in order:
a wrong token in front of a broken one is a wrong token.
-/

namespace Nomenclator.Json

/-- The smallest meaningful pieces of a JSON text. -/
inductive Token where
  | openList
  | closeList
  | openObject
  | closeObject
  | comma
  | colon
  | null
  | bool (value : Bool)
  | int (value : Int)
  /-- A number that need not be whole; none if it is too large. -/
  | real (value : Option Binary)
  /-- A string; none if it names half of a surrogate pair, which no string can hold. -/
  | text (value : Option String)
  /-- From here on the text makes no sense. -/
  | broken
  deriving Repr, DecidableEq, Inhabited

namespace Token

/-- The four blanks of JSON. -/
def isSpace (c : Char) : Bool := c == ' ' || c == '\t' || c == '\n' || c == '\x0d'

/-- Four hexadecimal digits as a number. -/
def unit? (a b c d : Char) : Option Nat := Text.digits? 16 [a, b, c, d]

/-- The unit is the first of a surrogate pair. -/
def isHigh (n : Nat) : Bool := 0xD800 ≤ n && n ≤ 0xDBFF

/-- The unit is the second of a surrogate pair. -/
def isLow (n : Nat) : Bool := 0xDC00 ≤ n && n ≤ 0xDFFF

/-- The character that a short escape stands for. -/
def shortEscape? : Char → Option Char
  | '"' => some '"'
  | '\\' => some '\\'
  | '/' => some '/'
  | 'b' => some '\x08'
  | 'f' => some '\x0c'
  | 'n' => some '\n'
  | 'r' => some '\x0d'
  | 't' => some '\t'
  | _ => none

/-- What the scan of a string has collected: its units, last one first. -/
abbrev Units := List Nat

/-- Scans a string behind its opening quote, and gives its units and the rest. -/
def scan (units : Units) : List Char → Option (Units × List Char)
  | [] => none
  | '"' :: rest => some (units, rest)
  | '\\' :: 'u' :: a :: b :: c :: d :: rest =>
    match unit? a b c d with
    | some n => scan (n :: units) rest
    | none => none
  | '\\' :: e :: rest =>
    match shortEscape? e with
    | some c => scan (c.toNat :: units) rest
    | none => none
  | c :: rest => if c.toNat < 0x20 || c == '\\' then none else scan (c.toNat :: units) rest

theorem scan_length {units : Units} {s : List Char} {r : Units × List Char}
    (h : scan units s = some r) : r.2.length < s.length := by
  fun_induction scan units s with
  | case1 => simp at h
  | case2 units rest => simp only [Option.some.injEq] at h; subst h; simp
  | case3 _ _ _ _ _ _ _ _ ih => have := ih h; simp only [List.length_cons]; omega
  | case4 => simp at h
  | case5 _ _ _ _ _ _ ih => have := ih h; simp only [List.length_cons]; omega
  | case6 => simp at h
  | case7 => simp at h
  | case8 _ _ _ _ _ _ _ ih => have := ih h; simp only [List.length_cons]; omega

/-- The string that units stand for, last one first; pairs of surrogates become one character,
and a surrogate that is left over makes it impossible. -/
def combined? (done : List Char) : Units → Option (List Char)
  | [] => some done
  | low :: high :: rest =>
    if isLow low && isHigh high then
      combined? (Char.ofNat (0x10000 + (high - 0xD800) * 0x400 + (low - 0xDC00)) :: done) rest
    else if isLow low || isHigh low then none
    else combined? (Char.ofNat low :: done) (high :: rest)
  | [n] => if isLow n || isHigh n then none else some (Char.ofNat n :: done)

/-- Takes decimal digits off the front; at least one is needed. -/
def digits1 (s : List Char) : Option (List Char × List Char) :=
  match s.takeWhile Char.isDigit with
  | [] => none
  | ds => some (ds, s.dropWhile Char.isDigit)

/-- Takes the digits of a fraction off the front, if there is one. -/
def fraction : List Char → Option (List Char × List Char)
  | '.' :: s => digits1 s
  | s => some ([], s)

/-- Takes a sign off the front; true is minus. -/
def signed : List Char → Bool × List Char
  | '+' :: s => (false, s)
  | '-' :: s => (true, s)
  | s => (false, s)

/-- Takes an exponent with its sign off the front, if there is one. -/
def exponent : List Char → Option (Option (Bool × List Char) × List Char)
  | c :: s =>
    if c == 'e' || c == 'E' then
      (digits1 (signed s).2).map fun r => (some ((signed s).1, r.1), r.2)
    else some (none, c :: s)
  | [] => some (none, [])

/-- Some digits begin with a zero that adds nothing. -/
def isPadded (ds : List Char) : Bool := 1 < ds.length && ds.head? == some '0'

/-- The token of a number. -/
def ofNumber (w : Number.Written) : Token :=
  match w.int? with
  | some n => .int n
  | none => .real w.real?

/-- Reads a number behind its sign: no superfluous zeros, and digits on both sides of a point. -/
def number (negative : Bool) (s : List Char) : Option (Token × List Char) :=
  match digits1 s with
  | none => none
  | some (whole, afterDigits) =>
    if isPadded whole then none
    else match fraction afterDigits with
      | none => none
      | some (places, afterFraction) =>
        match exponent afterFraction with
        | none => none
        | some (scale, rest) => some (ofNumber ⟨negative, whole, places, scale⟩, rest)

/-- The rest of a text behind a word in front of it. -/
def behind? : List Char → List Char → Option (List Char)
  | [], s => some s
  | c :: w, d :: s => if c == d then behind? w s else none
  | _ :: _, [] => none

/-- A token spelled as a word. -/
def word (w : String) (t : Token) (s : List Char) : Option (Token × List Char) :=
  (behind? w.toList s).map fun rest => (t, rest)

/-- The first token of a text that does not begin with a blank, with the rest. -/
def first (s : List Char) : Option (Token × List Char) :=
  match s with
  | [] => none
  | '[' :: rest => some (.openList, rest)
  | ']' :: rest => some (.closeList, rest)
  | '\x7b' :: rest => some (.openObject, rest)
  | '\x7d' :: rest => some (.closeObject, rest)
  | ',' :: rest => some (.comma, rest)
  | ':' :: rest => some (.colon, rest)
  | '"' :: rest => (scan [] rest).map fun r => (.text ((combined? [] r.1).map String.ofList), r.2)
  | 'n' :: _ => word "null" .null s
  | 't' :: _ => word "true" (.bool true) s
  | 'f' :: _ => word "false" (.bool false) s
  | '-' :: rest => number true rest
  | c :: rest => if c.isDigit then number false (c :: rest) else none

theorem digits1_length {s : List Char} {r : List Char × List Char} (h : digits1 s = some r) :
    r.2.length < s.length := by
  unfold digits1 at h
  split at h
  · simp at h
  · rename_i ds hne
    simp only [Option.some.injEq] at h
    subst h
    cases s with
    | nil => simp at hne
    | cons c rest =>
      have hc : c.isDigit = true := by
        cases hd : c.isDigit with
        | true => rfl
        | false => simp [hd] at hne
      simp only [List.dropWhile_cons, hc, if_true, List.length_cons]
      exact Nat.lt_succ_of_le (List.dropWhile_suffix _).length_le

theorem fraction_length {s : List Char} {r : List Char × List Char} (h : fraction s = some r) :
    r.2.length ≤ s.length := by
  unfold fraction at h
  split at h
  · have := digits1_length h
    simp only [List.length_cons]
    omega
  · simp only [Option.some.injEq] at h
    subst h
    simp

theorem signed_length (s : List Char) : (signed s).2.length ≤ s.length := by
  unfold signed
  split <;> simp

theorem exponent_length {s : List Char} {r : Option (Bool × List Char) × List Char}
    (h : exponent s = some r) : r.2.length ≤ s.length := by
  cases s with
  | nil => simp only [exponent, Option.some.injEq] at h; subst h; simp
  | cons c s =>
    simp only [exponent] at h
    split at h
    · obtain ⟨d, hd, rfl⟩ := Option.map_eq_some_iff.1 h
      have := digits1_length hd
      have := signed_length s
      simp only [List.length_cons]
      omega
    · simp only [Option.some.injEq] at h
      subst h
      simp

theorem number_length {negative : Bool} {s : List Char} {r : Token × List Char}
    (h : number negative s = some r) : r.2.length < s.length := by
  unfold number at h
  split at h
  · simp at h
  · rename_i hd
    have h1 := digits1_length hd
    split at h
    · simp at h
    · split at h
      · simp at h
      · rename_i hf
        have h2 := fraction_length hf
        split at h
        · simp at h
        · rename_i he
          have h3 := exponent_length he
          simp only [Option.some.injEq] at h
          subst h
          dsimp only at *
          omega

theorem behind?_length {w s r : List Char} (h : behind? w s = some r) :
    r.length + w.length = s.length := by
  induction w generalizing s with
  | nil => simp only [behind?, Option.some.injEq] at h; simp [h]
  | cons c w ih =>
    cases s with
    | nil => simp [behind?] at h
    | cons d s =>
      unfold behind? at h
      split at h
      · have := ih h
        simp only [List.length_cons]
        omega
      · simp at h

theorem word_length {w : String} {t : Token} {s : List Char} {r : Token × List Char}
    (hw : 0 < w.toList.length) (h : word w t s = some r) : r.2.length < s.length := by
  obtain ⟨d, hd, rfl⟩ := Option.map_eq_some_iff.1 h
  have := behind?_length hd
  dsimp only
  omega

theorem first_length {s : List Char} {r : Token × List Char} (h : first s = some r) :
    r.2.length < s.length := by
  unfold first at h
  split at h
  case h_8 =>
    obtain ⟨d, hd, rfl⟩ := Option.map_eq_some_iff.1 h
    have := scan_length hd
    simp only [List.length_cons]
    omega
  case h_9 | h_10 | h_11 => exact word_length (by decide) h
  case h_12 =>
    have := number_length h
    simp only [List.length_cons]
    omega
  case h_13 =>
    split at h
    · exact number_length h
    · simp at h
  case h_1 => simp at h
  all_goals
    simp only [Option.some.injEq] at h
    subst h
    simp

/-- The tokens of a text, behind those already read, last one first. -/
def readFrom (done : List Token) (s : List Char) : List Token :=
  match s with
  | [] => done.reverse
  | c :: rest =>
    if isSpace c then readFrom done rest
    else match _h : first (c :: rest) with
      | none => (.broken :: done).reverse
      | some (t, after) => readFrom (t :: done) after
termination_by s.length
decreasing_by
  · simp
  · exact first_length _h

/-- The tokens of a text. -/
def ofText (s : List Char) : List Token := readFrom [] s

end Token

end Nomenclator.Json
