import Nomenclator.Text.Blank
import Nomenclator.Text.Form

/-!
# Requests

A request as it comes over the wire, and what its parts stand for: the path and the named values
in its target, and the name under which the client wants to find it again.
-/

namespace Nomenclator.Http

/-- A request. -/
structure Request where
  method : String
  target : String
  contentType : Option String
  /-- The name that the client gave to the request. -/
  id : Option String
  body : String
  deriving Repr, DecidableEq, Inhabited

/-- The name of a request: the client's, or a fresh one. -/
inductive RequestId where
  | given (text : String)
  | fresh
  deriving Repr, DecidableEq, Inhabited

namespace Request

/-- The character may stand in a scheme. -/
def isSchemeChar (c : Char) : Bool := c.isAlphanum || c == '+' || c == '-' || c == '.'

/-- The character ends the name of a server. -/
def endsServer (c : Char) : Bool := c == '/' || c == '?'

/-- The target without a fragment, and without the server if it names one. A target that does not
begin with a path after that has none. -/
def plainTarget (r : Request) : List Char :=
  let target := r.target.toList.takeWhile (· != '#')
  match target.head?, target.dropWhile isSchemeChar with
  | some '/', _ => target
  | _, ':' :: '/' :: '/' :: rest => rest.dropWhile fun c => !endsServer c
  | _, _ => []

/-- The path, as it is written; on a server it is never empty. -/
def path (r : Request) : String :=
  match r.plainTarget.takeWhile (· != '?') with
  | [] => "/"
  | path => String.ofList path

/-- The named values behind the path. -/
def values (r : Request) : List (String × String) :=
  Text.Form.decodePairs ((r.plainTarget.dropWhile (· != '?')).drop 1)

/-- The most octets that a name of a request may have. -/
def idLimit : Nat := 128

/-- The character may stand in a header that is text. -/
def isHeaderText (c : Char) : Bool := c == '\t' || (0x20 ≤ c.toNat && c.toNat < 0x7F)

/-- The name under which the request is answered: the client's name without blanks around it, if
it is text, not empty and not too long. -/
def answerId (r : Request) : RequestId :=
  match r.id with
  | none => .fresh
  | some text =>
    let id := Text.trimmed text
    if text.toList.all isHeaderText && !id.isEmpty && id.utf8ByteSize ≤ idLimit then .given id
    else .fresh

end Request

/-- The value of a field that may stand in a query at most once; none if it is repeated. -/
def single? (values : List (String × String)) (name : String) : Option (Option String) :=
  match values.filter (·.1 == name) with
  | [] => some none
  | [v] => some (some v.2)
  | _ => none

end Nomenclator.Http
