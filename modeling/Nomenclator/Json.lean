import Nomenclator.Binary
import Nomenclator.Term

/-!
# JSON values

The values that arrive over the wire and in files. Whole numbers are exact as far as sixty-four
bits go; all others are binary fractions.
-/

namespace Nomenclator

/-- A JSON value; the fields of an object stand as they are written. -/
inductive Json where
  | null
  | bool (value : Bool)
  | int (value : Int)
  /-- A number that need not be whole. -/
  | real (value : Binary)
  | text (value : String)
  | list (items : List Json)
  | object (fields : List (String × Json))
  deriving Inhabited

namespace Json

/-- The string that a value is. -/
def text? : Json → Option String
  | .text s => some s
  | _ => none

/-- The value of a field; of repeated fields the last one counts. -/
def field? (fields : List (String × Json)) (name : String) : Option Json :=
  (fields.reverse.find? (·.1 == name)).map (·.2)

/-- The strings that a list holds, if it holds strings only. -/
def texts? : Json → Option (List String)
  | .list items => items.mapM text?
  | _ => none

end Json

/-- The text and the language of a display text. -/
def TextValue.ofParts? (text : Json) (language : Option Json) : Option TextValue := do
  let text ← text.text?
  match language with
  | none => return .plain text
  | some tag => return .tagged text (← tag.text?)

/-- Reads a display text: an object with its `text` and perhaps its `language`, or a list of one
or both in this order. -/
def TextValue.ofJson? : Json → Option TextValue
  | .object fields => do
    let text ← Json.field? fields "text"
    ofParts? text (Json.field? fields "language")
  | .list [text] => ofParts? text none
  | .list [text, language] => ofParts? text (some language)
  | _ => none

end Nomenclator
