import Nomenclator.Path.Parser
import Nomenclator.Table
import Nomenclator.Term

/-!
# Pattern queries

A pattern query asks one store for the values of several resources under several candidate
properties at once. The position of a candidate is its priority, so the rows that come back are
regrouped candidate by candidate before anyone chooses among them.
-/

namespace Nomenclator

/-- Candidate properties in order of priority. -/
abbrev Candidates := List Path

/-- Reads the candidates from position `index` on and stops at the first that fails. -/
def Candidates.parseFrom (index : Nat) : List String → Except PatternError Candidates
  | [] => .ok []
  | p :: rest => do
    if Text.allBlank p then throw (.emptyPattern index)
    let path ← Path.parse p
    let paths ← parseFrom (index + 1) rest
    return path :: paths

/-- Reads a list of patterns; at least one is needed. -/
def Candidates.parse : List String → Except PatternError Candidates
  | [] => .error .emptyCandidateList
  | patterns => Candidates.parseFrom 0 patterns

/-- One query: a branch per candidate, asked for every resource. -/
structure PatternQuery where
  resources : List ResourceId
  branches : Candidates
  deriving DecidableEq, Inhabited

/-- One binding: the value of a resource under the candidate at a position. -/
structure Row where
  resource : ResourceId
  index : Nat
  value : Term
  deriving DecidableEq, Inhabited

/-- Why a store did not answer a query. -/
inductive StoreError where
  | unknownStore (store : StoreName)
  | execution (message : String)
  | malformed (message : String)
  deriving Repr, DecidableEq

/-- The text of a store error. -/
def StoreError.message : StoreError → String
  | .unknownStore store => s!"unknown store `{store}`"
  | .execution m => s!"query execution failed: {m}"
  | .malformed m => s!"malformed query result: {m}"

namespace PatternQuery

/-- The query for some patterns and resources. -/
def build (patterns : List String) (resources : List ResourceId) :
    Except PatternError PatternQuery := do
  let branches ← Candidates.parse patterns
  return ⟨resources, branches⟩

/-- The text of one branch: the values along its path, marked with its position. -/
def renderBranch (path : Path) (index : Nat) : String :=
  "  \x7b ?resource " ++ path.render ++ " ?value . BIND(" ++ toString index
    ++ " AS ?index) \x7d\n"

/-- The query in SPARQL. -/
def text (q : PatternQuery) : String :=
  "SELECT ?resource ?index ?value WHERE \x7b\n  VALUES ?resource \x7b "
    ++ Text.joinWith " " (q.resources.map fun r => "<" ++ r ++ ">")
    ++ " \x7d\n"
    ++ Text.joinWith "  UNION\n" (q.branches.zipIdx.map fun b => renderBranch b.1 b.2)
    ++ "\x7d"

/-- The first row, if any, that belongs to no candidate. -/
def strayRow? (q : PatternQuery) (rows : List Row) : Option Row :=
  rows.find? fun row => q.branches.length ≤ row.index

/-- The accepted values of one resource, candidate by candidate and in row order within. -/
def matchesOf {α : Type} (q : PatternQuery) (extract : Term → Option α) (rows : List Row)
    (resource : ResourceId) : List α :=
  (List.range q.branches.length).flatMap fun index =>
    rows.filterMap fun row =>
      if row.resource == resource && row.index == index then extract row.value else none

/-- The resources with at least one accepted row, each at its first place. -/
def matchedResources {α : Type} (extract : Term → Option α) (rows : List Row) :
    List ResourceId :=
  distinct (rows.filterMap fun row => (extract row.value).map fun _ => row.resource)

/-- Groups the accepted values by resource. One row that belongs to no candidate spoils the
whole answer, whether its value would be accepted or not. -/
def collect {α : Type} (q : PatternQuery) (extract : Term → Option α) (rows : List Row) :
    Except StoreError (Table ResourceId (List α)) :=
  match q.strayRow? rows with
  | some row => .error (.malformed
      s!"property index {row.index} out of range for {q.branches.length} candidates")
  | none => .ok ((matchedResources extract rows).map fun r =>
      (r, q.matchesOf extract rows r))

end PatternQuery

end Nomenclator
