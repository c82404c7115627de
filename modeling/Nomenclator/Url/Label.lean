import Nomenclator.Text.Form

/-!
# Labels of domain names

Domain names hold ASCII characters only: a label with others is written as `xn--` and its
Punycode, which lists the ASCII characters of the label and then, in ascending order, where each
of the others has to be put in.
-/

namespace Nomenclator.Url.Label

/-- A digit in base thirty-six: letters first. -/
def digit (n : Nat) : Char :=
  if n < 26 then Char.ofNat ('a'.toNat + n) else Char.ofNat ('0'.toNat + (n - 26))

/-- The least value that does not end a number at a place. -/
def threshold (bias place : Nat) : Nat :=
  if place ≤ bias then 1 else min (place - bias) 26

theorem threshold_bounds (bias place : Nat) :
    1 ≤ threshold bias place ∧ threshold bias place ≤ 26 := by
  unfold threshold
  split <;> omega

/-- A number in digits whose weights depend on the bias; it ends by itself. -/
def number (bias place n : Nat) : List Char :=
  let t := threshold bias place
  if n < t then [digit n]
  else digit (t + (n - t) % (36 - t)) :: number bias (place + 36) ((n - t) / (36 - t))
termination_by n
decreasing_by
  have h := threshold_bounds bias place
  have : (n - threshold bias place) / (36 - threshold bias place) ≤ n - threshold bias place :=
    Nat.div_le_self _ _
  omega

/-- Scales a delta down until it is small, counting the places. -/
def scale (delta places : Nat) : Nat :=
  if 455 < delta then scale (delta / 35) (places + 36)
  else places + 36 * delta / (delta + 38)
termination_by delta
decreasing_by omega

/-- The bias that suits the deltas to come, given the last one. -/
def adapt (delta points : Nat) (first : Bool) : Nat :=
  let d := if first then delta / 700 else delta / 2
  scale (d + d / points) 0

/-- How far the writing of a label has come. -/
structure Progress where
  written : List Char
  delta : Nat
  bias : Nat
  points : Nat

/-- Passes one character of the label while those at `point` are put in. -/
def pass (basic point : Nat) (p : Progress) (c : Char) : Progress :=
  if c.toNat < point then { p with delta := p.delta + 1 }
  else if c.toNat = point then
    { written := p.written ++ number p.bias 36 p.delta
      delta := 0
      bias := adapt p.delta (p.points + 1) (p.points == basic)
      points := p.points + 1 }
  else p

/-- Puts in the characters at the given points, which ascend. -/
def putIn (s : List Char) (basic : Nat) : List Nat → Nat → Progress → Progress
  | [], _, p => p
  | point :: rest, from_, p =>
    let p := { p with delta := p.delta + (point - from_) * (p.points + 1) }
    let p := s.foldl (pass basic point) p
    putIn s basic rest (point + 1) { p with delta := p.delta + 1 }

/-- The points of a label beyond ASCII, ascending and each once. -/
def points (s : List Char) : List Nat :=
  let sorted := ((s.map Char.toNat).filter (0x80 ≤ ·)).mergeSort fun a b => decide (a ≤ b)
  sorted.eraseDups

/-- The Punycode of a label. -/
def punycode (s : List Char) : List Char :=
  let basic := s.filter fun c => c.toNat < 0x80
  let start := if basic.isEmpty then [] else basic ++ ['-']
  (putIn s basic.length (points s) 0x80 ⟨start, 0, 72, basic.length⟩).written

/-- What labels that stand for others begin with. -/
def mark : List Char := "xn--".toList

/-- A label in ASCII. -/
def toAscii (s : List Char) : List Char :=
  if s.all fun c => c.toNat < 0x80 then s else mark ++ punycode s

/-- The value of a digit in base thirty-six. -/
def digitValue? (c : Char) : Option Nat :=
  if 'a' ≤ c && c ≤ 'z' then some (c.toNat - 'a'.toNat)
  else if c.isDigit then some (c.toNat - '0'.toNat + 26)
  else none

/-- The greatest number that may be read. -/
def numberLimit : Nat := 0xFFFFFFFF

/-- Reads a number behind the digits of lower weight, which make up `n`, and leaves the rest. -/
def readNumber (bias place weight n : Nat) : List Char → Option (Nat × List Char)
  | [] => none
  | c :: rest =>
    match digitValue? c with
    | none => none
    | some d =>
      let t := threshold bias place
      let n := n + d * weight
      if numberLimit < n then none
      else if d < t then some (n, rest)
      else if numberLimit < weight * (36 - t) then none
      else readNumber bias (place + 36) (weight * (36 - t)) n rest

theorem readNumber_length {bias place weight n : Nat} {s : List Char} {r : Nat × List Char}
    (h : readNumber bias place weight n s = some r) : r.2.length < s.length := by
  induction s generalizing place weight n with
  | nil => simp [readNumber] at h
  | cons c rest ih =>
    unfold readNumber at h
    split at h
    · simp at h
    · dsimp only at h
      split at h
      · simp at h
      · split at h
        · simp only [Option.some.injEq] at h
          subst h
          simp
        · split at h
          · simp at h
          · exact Nat.lt_succ_of_lt (ih h)

/-- The character of a code point. -/
def character? (n : Nat) : Option Char :=
  if n < 0xD800 || (0xDFFF < n && n < 0x110000) then some (Char.ofNat n) else none

/-- Puts the characters that some digits name into a label. They come in ascending order, and
`place` is where the last one was put. -/
def putBack (label : List Char) (point place bias : Nat) (digits : List Char) :
    Option (List Char) :=
  match digits with
  | [] => some label
  | c :: rest =>
    match _h : readNumber bias 36 1 0 (c :: rest) with
    | none => none
    | some (delta, rest) =>
      let places := label.length + 1
      let point := point + (place + delta) / places
      let here := (place + delta) % places
      match character? point with
      | none => none
      | some c =>
        putBack (label.take here ++ c :: label.drop here) point (here + 1)
          (adapt delta places (place == 0)) rest
termination_by digits.length
decreasing_by
  have := readNumber_length _h
  exact this

/-- The label that a Punycode stands for. -/
def ofPunycode? (s : List Char) : Option (List Char) :=
  let backwards := s.reverse
  let digits := (backwards.takeWhile (· != '-')).reverse
  match (backwards.dropWhile (· != '-')).reverse with
  | [] => putBack [] 0x80 0 72 digits
  | ['-'] => none
  | basic => putBack basic.dropLast 0x80 0 72 digits

end Nomenclator.Url.Label
