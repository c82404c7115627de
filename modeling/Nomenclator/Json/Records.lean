import Nomenclator.Json.Relaxed

/-!
# Records in parentheses

A notation of JSON values in which the fields of an object stand in parentheses, under names
without quotes; what has no names there is a list. Braces hold keys of any text. A value that may
be missing is written as such.
-/

namespace Nomenclator.Json.Records

open Relaxed (afterComment isSpace)

/-- Drops a comment up to its end, with the comments inside. -/
def afterNested : Nat → Nat → List Char → Option (List Char)
  | 0, _, _ => none
  | _ + 1, 0, s => some s
  | fuel + 1, depth + 1, s =>
    match s with
    | '*' :: '/' :: s => afterNested fuel depth s
    | '/' :: '*' :: s => afterNested fuel (depth + 2) s
    | _ :: s => afterNested fuel (depth + 1) s
    | [] => none

/-- Drops what separates tokens. -/
def skip : Nat → List Char → List Char
  | 0, s => s
  | fuel + 1, s =>
    match s with
    | '/' :: '/' :: rest => skip fuel (rest.dropWhile (· != '\n'))
    | '/' :: '*' :: rest =>
      match afterNested (rest.length + 2) 1 rest with
      | some rest => skip fuel rest
      | none => s
    | c :: rest => if isSpace c then skip fuel rest else s
    | [] => []

/-- Drops what separates tokens in front. -/
def trimmed (s : List Char) : List Char := skip s.length s

/-- The character that a short escape stands for. -/
def shortEscape? : Char → Option Char
  | '"' => some '"'
  | '\'' => some '\''
  | '\\' => some '\\'
  | 'n' => some '\n'
  | 'r' => some '\x0d'
  | 't' => some '\t'
  | '0' => some '\x00'
  | _ => none

/-- Reads a string up to its quote. -/
def stringFrom (quote : Char) (done : List Char) : Nat → List Char → Option (List Char × List Char)
  | 0, _ | _, [] => none
  | fuel + 1, '\\' :: 'x' :: a :: b :: s =>
    (Text.digits? 16 [a, b]).bind fun n => stringFrom quote (Char.ofNat n :: done) fuel s
  | fuel + 1, '\\' :: 'u' :: '\x7b' :: s =>
    let ds := s.takeWhile (· != '\x7d')
    match Text.digits? 16 ds with
    | some n =>
      if 6 < ds.length || 0x110000 ≤ n || (0xD800 ≤ n && n ≤ 0xDFFF) then none
      else stringFrom quote (Char.ofNat n :: done) fuel (s.drop (ds.length + 1))
    | none => none
  | fuel + 1, '\\' :: c :: s =>
    (shortEscape? c).bind fun c => stringFrom quote (c :: done) fuel s
  | fuel + 1, c :: s =>
    if c == quote then some (done.reverse, s)
    else if c == '\\' then none
    else stringFrom quote (c :: done) fuel s

/-- Reads a string behind its quote. -/
def string? (s : List Char) : Option (String × List Char) :=
  (stringFrom '"' [] (s.length + 1) s).map fun r => (String.ofList r.1, r.2)

/-- The character may stand in a name, but need not begin one. -/
def isNameChar (c : Char) : Bool := c.isAlphanum || c == '_'

/-- Takes a name off the front. -/
def name? (s : List Char) : Option (String × List Char) :=
  match s.takeWhile isNameChar with
  | [] => none
  | c :: name =>
    if c.isDigit then none else some (String.ofList (c :: name), s.dropWhile isNameChar)

/-- Digits of a base without the underscores between them. -/
def spaced (ds : List Char) : List Char := ds.filter (· != '_')

/-- The character may stand in a number. -/
def isNumberChar (c : Char) : Bool := c.isAlphanum || ['+', '-', '.', '_'].contains c

/-- A number behind its sign. -/
def number? (negative : Bool) (s : List Char) : Option Json :=
  match s with
  | '0' :: 'x' :: ds => (Text.digits? 16 (spaced ds)).bind (Relaxed.whole? negative)
  | '0' :: 'o' :: ds => (Text.digits? 8 (spaced ds)).bind (Relaxed.whole? negative)
  | '0' :: 'b' :: ds => (Text.digits? 2 (spaced ds)).bind (Relaxed.whole? negative)
  | s =>
    let ds := spaced s
    if ds.all Char.isDigit then (Text.digits? 10 ds).bind (Relaxed.whole? negative)
    else (Binary.magnitude? negative ds).map .real

/-- Takes a number off the front. -/
def takeNumber? (s : List Char) : Option (Json × List Char) :=
  let (negative, body) := Binary.splitSign s
  (number? negative (body.takeWhile isNumberChar)).map fun v => (v, body.dropWhile isNumberChar)

/-- The names that are values of their own. -/
def word? : String → Option Json
  | "true" => some (.bool true)
  | "false" => some (.bool false)
  | "None" => some .null
  | "inf" => some (.real (.infinite false))
  | "NaN" => some (.real .undefined)
  | _ => none

/-- The fields in parentheses have names: a name and a colon come first. -/
def hasNames (s : List Char) : Bool :=
  match name? s with
  | some (_, rest) => (trimmed rest).head? == some ':'
  | none => false

/-- The text that a key is. -/
def keyText? : Json → Option String
  | .text s => some s
  | _ => none

mutual

/-- Reads a value. -/
def value : Nat → List Char → Option (Json × List Char)
  | 0, _ => none
  | fuel + 1, s =>
    match trimmed s with
    | '[' :: rest => items fuel ']' [] (trimmed rest)
    | '\x7b' :: rest => entries fuel [] (trimmed rest)
    | '(' :: rest => group fuel (trimmed rest)
    | '"' :: rest => (string? rest).map fun r => (.text r.1, r.2)
    | '\'' :: c :: '\'' :: rest => some (.text (String.ofList [c]), rest)
    | s =>
      match name? s with
      | none => takeNumber? s
      | some (name, rest) =>
        match word? name, trimmed rest with
        | some v, _ => some (v, rest)
        | none, '(' :: inner =>
          if name == "Some" then
            match value fuel inner with
            | some (v, rest) =>
              match trimmed rest with
              | ')' :: rest => some (v, rest)
              | _ => none
            | none => none
          else group fuel (trimmed inner)
        | none, _ => none

/-- Reads what stands in parentheses: nothing, fields with names, or a list. -/
def group : Nat → List Char → Option (Json × List Char)
  | 0, _ => none
  | fuel + 1, s =>
    match s with
    | ')' :: rest => some (.null, rest)
    | s => if hasNames s then fields fuel [] s else items fuel ')' [] s

/-- Reads the items of a list up to its closing bracket. -/
def items : Nat → Char → List Json → List Char → Option (Json × List Char)
  | 0, _, _, _ => none
  | fuel + 1, closing, done, s =>
    if s.head? == some closing then some (.list done.reverse, s.drop 1)
    else
      match value fuel s with
      | none => none
      | some (v, rest) =>
        match trimmed rest with
        | ',' :: rest => items fuel closing (v :: done) (trimmed rest)
        | rest =>
          if rest.head? == some closing then some (.list (v :: done).reverse, rest.drop 1)
          else none

/-- Reads fields with names up to the closing parenthesis. -/
def fields : Nat → List (String × Json) → List Char → Option (Json × List Char)
  | 0, _, _ => none
  | fuel + 1, done, s =>
    match s with
    | ')' :: rest => some (.object done.reverse, rest)
    | s =>
      match name? s with
      | none => none
      | some (name, rest) =>
        match trimmed rest with
        | ':' :: rest =>
          match value fuel rest with
          | none => none
          | some (v, rest) =>
            match trimmed rest with
            | ',' :: rest => fields fuel ((name, v) :: done) (trimmed rest)
            | ')' :: rest => some (.object ((name, v) :: done).reverse, rest)
            | _ => none
        | _ => none

/-- Reads entries whose keys are texts up to the closing brace. -/
def entries : Nat → List (String × Json) → List Char → Option (Json × List Char)
  | 0, _, _ => none
  | fuel + 1, done, s =>
    match s with
    | '\x7d' :: rest => some (.object done.reverse, rest)
    | s =>
      match value fuel s with
      | none => none
      | some (k, rest) =>
        match keyText? k, trimmed rest with
        | some name, ':' :: rest =>
          match value fuel rest with
          | none => none
          | some (v, rest) =>
            match trimmed rest with
            | ',' :: rest => entries fuel ((name, v) :: done) (trimmed rest)
            | '\x7d' :: rest => some (.object ((name, v) :: done).reverse, rest)
            | _ => none
        | _, _ => none

end

/-- Reads a text that is one value. -/
def parse (s : List Char) : Option Json :=
  match value (2 * s.length + 2) s with
  | some (v, rest) => if (trimmed rest).isEmpty then some v else none
  | none => none

end Nomenclator.Json.Records
