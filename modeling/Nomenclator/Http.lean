import Nomenclator.Application
import Nomenclator.Http.Failure
import Nomenclator.Http.Media
import Nomenclator.Http.Request
import Nomenclator.Json.Strings

/-!
# The HTTP surface

Two questions, one command, and a sign of life. A request is looked at from outside to inside: its
path and method, the values of its query, the media type, the size and the form of its body, and
only then what it means. The first fault decides the answer.

What a request means is kept apart from how it is written: `lookup` and `invalidate` take values,
and `respond` reads them off a request. A request whose lookup panics has no answer: the connection
is closed without one.

Two texts of the JSON reader are left out, as they are its own: the plain body of a refusal, and the
hint of an invalidation that cannot be read.
-/

namespace Nomenclator.Http

/-- An answer to a request. -/
structure Response where
  status : Nat
  /-- The JSON body, if the answer has one. -/
  body : Option Json
  /-- What goes to the log if the request failed. -/
  failure : Option Failure
  deriving Inhabited

namespace Response

/-- An answer that is nothing but a status. -/
def bare (status : Nat) : Response := ⟨status, none, none⟩

/-- The answer to a request that failed. -/
def ofFailure (f : Failure) : Response := ⟨f.status, some f.body, some f⟩

/-- The answer with a body. -/
def json (status : Nat) (body : Json) : Response := ⟨status, some body, none⟩

end Response

/-- What can be asked for. -/
inductive Route where
  | health
  | texts (kind : Lookup.TextKind)
  | invalidate
  deriving Repr, DecidableEq

/-- The route at a path. -/
def Route.at? : String → Option Route
  | "/health" => some .health
  | "/api/v1/labels" => some (.texts .label)
  | "/api/v1/descriptions" => some (.texts .description)
  | "/api/v1/cache/invalidate" => some .invalidate
  | _ => none

/-- A method may be used on a route. What can be got can be got without its body, too. -/
def Route.allows : Route → String → Bool
  | .health, method => method == "GET" || method == "HEAD"
  | .texts _, method | .invalidate, method => method == "POST"

/-- The most octets that a body may have. -/
def bodyLimit : Nat := 2097152

/-- The body is too large. -/
def isTooLarge (r : Request) : Bool := bodyLimit < r.body.utf8ByteSize

/-- The name of a store in a query; a blank one is none. -/
def storeName? (repository : Option String) : Option StoreName :=
  (repository.map Text.trimmed).filter fun name => !name.isEmpty

/-- The resources that a list of identifiers stands for: trimmed, each once, and no blank ones. -/
def resources (ids : List String) : List ResourceId :=
  distinct ((ids.map Text.trimmed).filter fun id => !id.isEmpty)

/-- The texts that were found, in ascending order of their resources. -/
def foundTexts (values : Table ResourceId (Option TextValue)) : List (ResourceId × String) :=
  (values.filterMap fun e => e.2.map fun v => (e.1, v.text)).mergeSort
    fun a b => decide (a.1 ≤ b.1)

variable {γ ε : Type}

/-- The response to what a lookup of texts has come to; what has no text is left out. -/
def textsResponse? (answer : Except ResolveError (Table ResourceId (Option TextValue))) :
    Option Response :=
  match answer with
  | .ok values => some (.json 200 (.object ((foundTexts values).map fun e => (e.1, .text e.2))))
  | .error e => (Failure.ofResolve? e).map .ofFailure

/-- Answers with the texts of some resources. -/
def lookup (kind : Lookup.TextKind) (repository preferred : Option String) (ids : List String)
    (app : Application γ ε) : Option Response × Application γ ε :=
  match storeName? repository with
  | none =>
    let hint := "pass the `repository` query parameter"
    (some (.ofFailure (.badRequest "Missing repository" (some hint))), app)
  | some store =>
    let (answer, app) := app.texts store (resources ids) preferred kind
    (textsResponse? answer, app)

/-- The change that an invalidation stands for, with its name: of resources if some are named,
else of a store, else of everything. -/
def changeOf (repository : Option String) (ids : List String) :
    String × Invalidation.Change :=
  if !ids.isEmpty then ("resources_changed", .resources ids)
  else match storeName? repository with
    | some name => ("store_changed", .store name)
    | none => ("manual_reload", .reload)

/-- Takes the effect of a change at once, and answers with its name and the number of changes
that are still pending. -/
def invalidate (repository : Option String) (ids : List String) (app : Application γ ε) :
    (String × Nat) × Application γ ε :=
  let (name, change) := changeOf repository ids
  let app := app.trigger change true
  ((name, app.pending), app)

/-- A body of blanks names no resources. -/
def isBlankBody (s : List Char) : Bool :=
  s.all fun c => Json.Token.isSpace c || c == '\x0c'

/-- Answers a question for texts. -/
def respondTexts (kind : Lookup.TextKind) (r : Request) (app : Application γ ε) :
    Option Response × Application γ ε :=
  match single? r.values "repository", single? r.values "preferredLanguage" with
  | some repository, some preferred =>
    if !(r.contentType.any Media.isJson) then (some (.bare 415), app)
    else if isTooLarge r then (some (.bare 413), app)
    else match Json.parseStrings r.body.toList with
      | .error .malformed => (some (.bare 400), app)
      | .error .mismatch => (some (.bare 422), app)
      | .ok ids => lookup kind repository preferred ids app
  | _, _ => (some (.bare 400), app)

/-- Answers the command to invalidate. -/
def respondInvalidate (r : Request) (app : Application γ ε) : Response × Application γ ε :=
  match single? r.values "repository" with
  | none => (.bare 400, app)
  | some repository =>
    if isTooLarge r then (.bare 413, app)
    else
      let body := r.body.toList
      let ids := if isBlankBody body then some [] else Json.parseOptionalStrings "ids" body
      match ids with
      | none => (.ofFailure (.badRequest "Invalid invalidation request" none), app)
      | some ids =>
        let ((name, pending), app) := invalidate repository ids app
        (.json 202 (.object [("event", .text name), ("pending", .int pending)]), app)

/-- Answers a request. -/
def respond (r : Request) (app : Application γ ε) : Option Response × Application γ ε :=
  match Route.at? r.path with
  | none => (some (.bare 404), app)
  | some route =>
    if !route.allows r.method then (some (.bare 405), app)
    else match route with
      | .health => (some (.bare 204), app)
      | .texts kind => respondTexts kind r app
      | .invalidate =>
        let (response, app) := respondInvalidate r app
        (some response, app)

end Nomenclator.Http
