import Nomenclator.Binary.Reader
import Nomenclator.Json
import Nomenclator.Text.Blank
import Nomenclator.Text.Number

/-!
# Relaxed JSON

A notation of the same values that is easier to write by hand: there may be comments, commas at
the end, strings in either kind of quotes, keys without any, and numbers in more forms.
-/

namespace Nomenclator.Json.Relaxed

/-- The character ends a line. -/
def isBreak (c : Char) : Bool :=
  c == '\n' || c == '\x0d' || c.toNat == 0x2028 || c.toNat == 0x2029

/-- The character separates tokens. -/
def isSpace (c : Char) : Bool := (Text.isBlank c && c.toNat != 0x85) || c.toNat == 0xFEFF

/-- Drops a comment up to its end. -/
def afterComment : List Char → Option (List Char)
  | '*' :: '/' :: s => some s
  | _ :: s => afterComment s
  | [] => none

/-- Drops what separates tokens; a comment takes two characters at least, so the length of the
text is fuel enough. -/
def skip : Nat → List Char → List Char
  | 0, s => s
  | fuel + 1, s =>
    match s with
    | '/' :: '/' :: rest => skip fuel (rest.dropWhile fun c => !isBreak c)
    | '/' :: '*' :: rest =>
      match afterComment rest with
      | some rest => skip fuel rest
      | none => s
    | c :: rest => if isSpace c then skip fuel rest else s
    | [] => []

/-- Drops what separates tokens in front. -/
def trimmed (s : List Char) : List Char := skip s.length s

/-- The character that a short escape stands for. -/
def shortEscape (c : Char) : Char :=
  match c with
  | 'b' => '\x08'
  | 'f' => '\x0c'
  | 'n' => '\n'
  | 'r' => '\x0d'
  | 't' => '\t'
  | 'v' => '\x0b'
  | '0' => '\x00'
  | c => c

/-- Reads a string up to its quote. -/
def stringFrom (quote : Char) (done : List Char) : List Char → Option (List Char × List Char)
  | [] => none
  | '\\' :: 'u' :: a :: b :: c :: d :: s =>
    match Text.digits? 16 [a, b, c, d] with
    | some n =>
      if 0xD800 ≤ n && n ≤ 0xDFFF then none else stringFrom quote (Char.ofNat n :: done) s
    | none => none
  | '\\' :: 'x' :: a :: b :: s =>
    match Text.digits? 16 [a, b] with
    | some n => stringFrom quote (Char.ofNat n :: done) s
    | none => none
  | '\\' :: '\x0d' :: '\n' :: s => stringFrom quote done s
  | '\\' :: c :: s =>
    if isBreak c then stringFrom quote done s
    else if c == 'u' || c == 'x' || (c.isDigit && c != '0')
        || (c == '0' && s.head?.any Char.isDigit) then none
    else stringFrom quote (shortEscape c :: done) s
  | c :: s =>
    if c == quote then some (done.reverse, s)
    else if c == '\\' || c == '\n' || c == '\x0d' then none
    else stringFrom quote (c :: done) s

/-- The character may stand in a key without quotes, but need not begin one. -/
def isKeyChar (c : Char) : Bool := c.isAlphanum || c == '$' || c == '_' || 0x80 ≤ c.toNat

/-- Reads a key. -/
def key? (s : List Char) : Option (String × List Char) :=
  match s with
  | '"' :: rest => (stringFrom '"' [] rest).map fun r => (String.ofList r.1, r.2)
  | '\'' :: rest => (stringFrom '\'' [] rest).map fun r => (String.ofList r.1, r.2)
  | s =>
    match s.takeWhile fun c => isKeyChar c && !isSpace c with
    | [] => none
    | c :: name =>
      if c.isDigit then none
      else some (String.ofList (c :: name), s.dropWhile fun c => isKeyChar c && !isSpace c)

/-- The character may stand in a word that is a value. -/
def isWordChar (c : Char) : Bool := c.isAlphanum || ['+', '-', '.', '_', '$'].contains c

/-- A whole number of sixty-four bits. -/
def whole? (negative : Bool) (n : Nat) : Option Json :=
  let n : Int := if negative then -n else n
  if Text.isWord n then some (.int n) else none

/-- Decimal digits without a superfluous zero in front. -/
def isPlain (ds : List Char) : Bool :=
  !ds.isEmpty && ds.all Char.isDigit && (ds.length == 1 || ds.head? != some '0')

/-- A number behind its sign. -/
def number? (negative : Bool) (s : List Char) : Option Json :=
  if s == "Infinity".toList then some (.real (.infinite negative))
  else if s == "NaN".toList then some (.real .undefined)
  else match s with
    | '0' :: 'x' :: ds | '0' :: 'X' :: ds => (Text.digits? 16 ds).bind (whole? negative)
    | s =>
      if isPlain s then whole? negative (Text.valueOf 10 s)
      else
        let front := s.takeWhile Char.isDigit
        if front.isEmpty || isPlain front then (Binary.magnitude? negative s).map .real else none

/-- A word as a value. -/
def word? (s : List Char) : Option Json :=
  if s == "null".toList then some .null
  else if s == "true".toList then some (.bool true)
  else if s == "false".toList then some (.bool false)
  else
    let (negative, body) := Binary.splitSign s
    number? negative body

mutual

/-- Reads a value. -/
def value : Nat → List Char → Option (Json × List Char)
  | 0, _ => none
  | fuel + 1, s =>
    match trimmed s with
    | '[' :: rest => items fuel [] (trimmed rest)
    | '\x7b' :: rest => fields fuel [] (trimmed rest)
    | '"' :: rest => (stringFrom '"' [] rest).map fun r => (.text (String.ofList r.1), r.2)
    | '\'' :: rest => (stringFrom '\'' [] rest).map fun r => (.text (String.ofList r.1), r.2)
    | s => (word? (s.takeWhile isWordChar)).map fun v => (v, s.dropWhile isWordChar)

/-- Reads the items of a list. -/
def items : Nat → List Json → List Char → Option (Json × List Char)
  | 0, _, _ => none
  | fuel + 1, done, s =>
    match s with
    | ']' :: rest => some (.list done.reverse, rest)
    | s =>
      match value fuel s with
      | none => none
      | some (v, rest) =>
        match trimmed rest with
        | ',' :: rest => items fuel (v :: done) (trimmed rest)
        | ']' :: rest => some (.list (v :: done).reverse, rest)
        | _ => none

/-- Reads the fields of an object. -/
def fields : Nat → List (String × Json) → List Char → Option (Json × List Char)
  | 0, _, _ => none
  | fuel + 1, done, s =>
    match s with
    | '\x7d' :: rest => some (.object done.reverse, rest)
    | s =>
      match key? s with
      | none => none
      | some (name, rest) =>
        match trimmed rest with
        | ':' :: rest =>
          match value fuel rest with
          | none => none
          | some (v, rest) =>
            match trimmed rest with
            | ',' :: rest => fields fuel ((name, v) :: done) (trimmed rest)
            | '\x7d' :: rest => some (.object ((name, v) :: done).reverse, rest)
            | _ => none
        | _ => none

end

/-- Reads a text that is one value. -/
def parse (s : List Char) : Option Json :=
  match value (2 * s.length + 2) s with
  | some (v, rest) => if (trimmed rest).isEmpty then some v else none
  | none => none

end Nomenclator.Json.Relaxed
