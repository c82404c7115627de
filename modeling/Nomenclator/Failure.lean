import Nomenclator.Language.Preference
import Nomenclator.Query

/-!
# Why a lookup fails

A lookup either answers for every resource or fails as a whole. The causes are told apart here,
each with its text; some of them carry the error of a lower layer as their source. A panic stands
beside them, because it ends a lookup as an error does, but nobody is told of it as of an error: it
goes on to end whatever the lookup was part of.
-/

namespace Nomenclator

/-- A span of milliseconds in its shortest usual unit: nothing is `0ns`, less than a second is
given in milliseconds, and longer spans in seconds with no superfluous zeros. -/
def renderDuration (milliseconds : Nat) : String :=
  if milliseconds = 0 then "0ns"
  else if milliseconds < 1000 then s!"{milliseconds}ms"
  else
    let fraction := milliseconds % 1000
    let digits := (toString (1000 + fraction)).toList.drop 1
    let kept := (digits.reverse.dropWhile (· == '0')).reverse
    if kept.isEmpty then s!"{milliseconds / 1000}s"
    else s!"{milliseconds / 1000}.{String.ofList kept}s"

/-- A lookup failed as a whole. -/
inductive ResolveError where
  /-- The candidate properties make no query. -/
  | configuration (cause : PatternError)
  | store (store : StoreName) (cause : StoreError)
  /-- The batches were not done in time. -/
  | timeout (store : StoreName) (milliseconds batches : Nat)
  | worker (message : String)
  | domain (cause : Language.DomainError)
  /-- Something was asked for that must never be asked for. No caller handles this. -/
  | panic (message : String)
  deriving DecidableEq

namespace ResolveError

/-- The text of a failure, without the texts of its sources. -/
def message : ResolveError → String
  | .configuration cause => s!"invalid candidate properties: {cause.message}"
  | .store name _ => s!"store `{name}` failed"
  | .timeout name milliseconds batches =>
    s!"resolution against `{name}` timed out after "
      ++ s!"{renderDuration milliseconds} ({batches} batches)"
  | .worker m => s!"batch worker failed: {m}"
  | .domain cause => cause.message
  | .panic m => m

/-- The texts of the errors behind a failure. A domain error is shown in place of the failure
itself, so it is not repeated here. -/
def sources : ResolveError → List String
  | .configuration cause => [cause.message]
  | .store _ cause => [cause.message]
  | .timeout .. | .worker _ | .domain _ | .panic _ => []

/-- The text of a failure followed by the texts of its sources. -/
def messages (e : ResolveError) : List String := e.message :: e.sources

end ResolveError

/-- What looking up several keys gives. -/
abbrev Answers (κ α : Type) := Table κ (Resolution α)

/-- An action on a state that may fail; what it did to the state remains when it fails. -/
abbrev Effect (σ : Type) := ExceptT ResolveError (StateM σ)

end Nomenclator
