import Nomenclator.Binary.Reader
import Nomenclator.Text.Number

/-!
# YAML documents

A document is a scalar, a list, or a mapping from values to values. A scalar without quotes means
what it looks like: nothing, a truth value, a number, or else a text.
-/

namespace Nomenclator

/-- A value of a YAML document. -/
inductive Yaml where
  | null
  | bool (value : Bool)
  | int (value : Int)
  /-- A number that need not be whole, as it is written. -/
  | real (written : String)
  | text (value : String)
  | list (items : List Yaml)
  | mapping (entries : List (Yaml × Yaml))
  deriving Inhabited, BEq

namespace Yaml

/-- A whole number of sixty-four bits. -/
def word? (n : Int) : Option Int := if Text.isWord n then some n else none

/-- A whole number with a sign or in another base. -/
def int? (s : List Char) : Option Int :=
  match s with
  | '0' :: 'x' :: ds => (Text.digits? 16 ds).bind fun n => word? n
  | '0' :: 'o' :: ds => (Text.digits? 8 ds).bind fun n => word? n
  | s => (Text.signed? s).bind word?

/-- The words for numbers that are no numbers. -/
def specials : List String :=
  [".inf", ".Inf", ".INF", "+.inf", "+.Inf", "+.INF", "-.inf", "-.Inf", "-.INF", ".nan", ".NaN",
    ".NAN"]

/-- What a scalar without quotes means. -/
def ofPlain (s : String) : Yaml :=
  if s == "~" || s == "null" || s.isEmpty then .null
  else if s == "true" then .bool true
  else if s == "false" then .bool false
  else match int? s.toList with
    | some n => .int n
    | none =>
      if specials.contains s || (Binary.ofText? s.toList).isSome then .real s else .text s

/-- What a scalar without quotes means if its type is given. -/
def ofTagged (type s : String) : Yaml :=
  match type with
  | "bool" => if s == "true" then .bool true else if s == "false" then .bool false else .null
  | "int" => match (Text.signed? s.toList).bind word? with
    | some n => .int n
    | none => .null
  | "float" =>
    if specials.contains s || (Binary.ofText? s.toList).isSome then .real s else .null
  | "null" => .null
  | _ => .text s

end Yaml

end Nomenclator
