import Nomenclator.Binary.Shortest
import Nomenclator.Json
import Nomenclator.Text.Number
import Nomenclator.Text.Blank

/-!
# Writing JSON

Values are written for people: every entry on a line of its own, two blanks deeper than its
container, and a container without entries as its two brackets.
-/

namespace Nomenclator.Json

/-- A character inside a string. Quotes, backslashes and controls are escaped, the usual ones in
short form. -/
def escaped (c : Char) : String :=
  match c with
  | '"' => "\\\""
  | '\\' => "\\\\"
  | '\x08' => "\\b"
  | '\x0c' => "\\f"
  | '\n' => "\\n"
  | '\x0d' => "\\r"
  | '\t' => "\\t"
  | c =>
    if c.toNat < 0x20 then
      String.ofList ['\\', 'u', '0', '0', Text.hexDigit (c.toNat / 16) false,
        Text.hexDigit (c.toNat % 16) false]
    else c.toString

/-- A string in quotes. -/
def quoted (s : String) : String :=
  "\"" ++ String.join (s.toList.map escaped) ++ "\""

/-- The beginning of a line at a depth. -/
def indent (depth : Nat) : String := "\n" ++ String.ofList (List.replicate (2 * depth) ' ')

/-- Entries between brackets, each on its own line. -/
def bracketed (opening closing : String) (depth : Nat) : List String → String
  | [] => opening ++ closing
  | entries =>
    opening ++ Text.joinWith "," (entries.map fun e => indent (depth + 1) ++ e) ++ indent depth
      ++ closing

mutual

/-- A value at a depth. -/
def renderAt (depth : Nat) : Json → String
  | .null => "null"
  | .bool b => if b then "true" else "false"
  | .int n => toString n
  | .real x => x.render
  | .text s => quoted s
  | .list items => bracketed "[" "]" depth (renderItems (depth + 1) items)
  | .object fields => bracketed "\x7b" "\x7d" depth (renderFields (depth + 1) fields)

/-- The items of a list at a depth. -/
def renderItems (depth : Nat) : List Json → List String
  | [] => []
  | v :: rest => renderAt depth v :: renderItems depth rest

/-- The fields of an object at a depth. -/
def renderFields (depth : Nat) : List (String × Json) → List String
  | [] => []
  | (name, v) :: rest => (quoted name ++ ": " ++ renderAt depth v) :: renderFields depth rest

end

/-- A value in written form. -/
def render (v : Json) : String := renderAt 0 v

end Nomenclator.Json
