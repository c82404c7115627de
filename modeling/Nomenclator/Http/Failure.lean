import Nomenclator.Failure
import Nomenclator.Json

/-!
# Failures on the wire

What a client is told when a request fails: a status, a code for programs, a message for people,
and perhaps a hint. For the log there are the texts of the error and of what is behind it; the
client does not see them.
-/

namespace Nomenclator.Http

/-- A failed request. -/
structure Failure where
  status : Nat
  code : String
  message : String
  hint : Option String
  /-- The part of the program that reports the failure. -/
  source : String
  /-- The texts for the log. -/
  messages : List String
  deriving Repr, DecidableEq, Inhabited

namespace Failure

/-- A request that asks for something impossible. The log shows the hint, or else the message. -/
def badRequest (message : String) (hint : Option String) : Failure where
  status := 400
  code := "bad_request"
  message := message
  hint := hint
  source := "infra::http"
  messages := ["bad_request: " ++ hint.getD message]

/-- A failed lookup. Only a store that does not exist is the fault of the client. Of a panic the
client learns nothing. -/
def ofResolve? (e : ResolveError) : Option Failure :=
  let failure (status : Nat) (code message : String) (hint : Option String) : Option Failure :=
    some ⟨status, code, message, hint, "infra::http::lookup", e.messages⟩
  match e with
  | .store name (.unknownStore _) =>
    failure 404 "not_found" "Unknown repository" (some s!"repository `{name}` does not exist")
  | .store _ _ => failure 502 "store_error" "Graph store query failed" none
  | .configuration cause =>
    failure 500 "resolver_misconfigured" "Candidate properties are misconfigured"
      (some cause.message)
  | .timeout .. => failure 504 "resolution_timeout" "Resolution timed out" none
  | .worker _ | .domain _ => failure 500 "internal_error" "Resolution failed" none
  | .panic _ => none

/-- The body of the response. -/
def body (f : Failure) : Json :=
  .object [("error", .object
    ([("code", .text f.code), ("message", .text f.message)]
      ++ (f.hint.map fun h => ("hint", Json.text h)).toList))]

end Failure

end Nomenclator.Http
