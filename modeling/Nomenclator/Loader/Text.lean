import Nomenclator.Batch.Run
import Nomenclator.Cache.Key
import Nomenclator.Graph.Source
import Nomenclator.Language.Choice

/-!
# Loading texts

A text is loaded by one query per batch of keys. Among the texts that the candidates lead to, in
their order of priority, the preference of the key picks the best. Terms that are no texts do
not count.
-/

namespace Nomenclator.Loader

open Cache (Key)

/-- Where values come from: the candidate properties and how their queries are split up. -/
structure Origin where
  candidates : List String
  batch : Batch.Settings
  deriving Inhabited

/-- What a loader did: the answers, the queries it asked and the batches it counted. -/
structure Report (κ α : Type) where
  result : Except ResolveError (Answers κ α)
  queries : List PatternQuery
  tally : Batch.Tally

/-- Asks one query and regroups the accepted values by resource. -/
def matchesFor {γ α : Type} [Graph.Source γ] (graph : γ) (store : StoreName)
    (extract : Term → Option α) (query : PatternQuery) :
    Except ResolveError (Table ResourceId (List α)) :=
  (do let rows ← Graph.Source.answer graph store query
      query.collect extract rows).mapError (.store store ·)

namespace Text

variable {γ : Type} [Graph.Source γ]

/-- The resources of some keys, each once and in ascending order. -/
def resources (keys : List Key) : List ResourceId :=
  (distinct (keys.map (·.resource))).mergeSort fun a b => decide (a ≤ b)

/-- The query of one batch. -/
def query (o : Origin) (keys : List Key) : Except PatternError PatternQuery :=
  PatternQuery.build o.candidates (resources keys)

/-- The best text for a key among those of its resource. -/
def choice (found : Table ResourceId (List TextValue)) (key : Key) : Resolution TextValue :=
  .ofOption (Language.choose key.languages.effective key.languages.fallbacks
    ((found.get? key.resource).getD []))

/-- The work for one batch of keys. -/
def task (graph : γ) (store : StoreName) (o : Origin) (keys : List Key) :
    Batch.Task Key (Resolution TextValue) :=
  match query o keys with
  | .error e => ⟨0, .error (.configuration e)⟩
  | .ok q =>
    ⟨Graph.Source.latency graph,
      (matchesFor graph store Term.text? q).map fun found =>
        keys.map fun k => (k, choice found k)⟩

/-- Loads the texts of several keys; of equal keys the first one counts. -/
def resolve (graph : γ) (o : Origin) (store : StoreName) (keys : List Key) :
    Report Key TextValue :=
  let run := Batch.run o.batch store (distinct keys) (task graph store o)
  ⟨run.result, run.started.filterMap fun ks => (query o ks).toOption, run.tally⟩

end Text

namespace Kind

variable {γ : Type} [Graph.Source γ]

/-- The work for one batch of resources: the first identifier that a candidate leads to is the
type, whatever texts stand before it. -/
def task (graph : γ) (store : StoreName) (o : Origin) (ids : List ResourceId) :
    Batch.Task ResourceId (Resolution ResourceId) :=
  match PatternQuery.build o.candidates ids with
  | .error e => ⟨0, .error (.configuration e)⟩
  | .ok q =>
    ⟨Graph.Source.latency graph,
      (matchesFor graph store Term.iri? q).map fun found =>
        ids.map fun id => (id, .ofOption ((found.get? id).getD []).head?)⟩

/-- Loads the types of several resources, in ascending order of their identifiers. -/
def resolve (graph : γ) (o : Origin) (store : StoreName) (ids : List ResourceId) :
    Report ResourceId ResourceId :=
  let sorted := (distinct ids).mergeSort fun a b => decide (a ≤ b)
  let run := Batch.run o.batch store sorted (task graph store o)
  ⟨run.result, run.started.filterMap fun ks => (PatternQuery.build o.candidates ks).toOption,
    run.tally⟩

end Kind

end Nomenclator.Loader
