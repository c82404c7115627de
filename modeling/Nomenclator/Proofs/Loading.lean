import Nomenclator.Loader.Text
import Nomenclator.Proofs.Regrouping
import Nomenclator.Proofs.Splitting

/-!
# What loading from a store in memory means

A loader splits its keys into batches, asks one query for each, regroups the
rows and chooses among the values. Over a store in memory all of this comes to
one function of the key alone, `reached`: the values that the candidates lead
to from its resource, in the order of the candidates and of their paths. The
function knows nothing of batches, of workers, or of the other keys.

Failures are of two kinds, and neither depends on the keys: candidates that
make no query, and a store that is not there. The first hides the second.
-/

namespace Nomenclator.Loader

open Nomenclator.Graph (Indexed Memory)
open Nomenclator.Language (Tag)

/-- The values that some candidates lead to from a resource, one candidate after
the other and each in the order of its path. -/
def reached {α : Type} (g : Indexed) (extract : Term → Option α)
    (paths : Candidates) (id : ResourceId) : List α :=
  paths.flatMap fun p => (g.evaluate id p).filterMap extract

/-- What a store in memory has under some candidates, unless the candidates make
no query or the store is not there. -/
def contents {α : Type} (m : Memory) (extract : Term → Option α)
    (candidates : List String) (store : StoreName) :
    Except ResolveError (ResourceId → List α) :=
  match Candidates.parse candidates with
  | .error e => .error (.configuration e)
  | .ok paths =>
      match m.stores.get? store with
      | none => .error (.store store (.unknownStore store))
      | some g => .ok (reached g extract paths)

/-- One query to a store in memory, regrouped. -/
theorem matchesFor_memory {α : Type} (m : Memory) (store : StoreName)
    (extract : Term → Option α) {candidates : List String}
    {resources : List ResourceId} (hres : resources.Nodup) {paths : Candidates}
    (hpaths : Candidates.parse candidates = .ok paths) :
    match contents m extract candidates store with
    | .error e => matchesFor m store extract ⟨resources, paths⟩ = .error e
    | .ok values =>
        ∃ found, matchesFor m store extract ⟨resources, paths⟩ = .ok found ∧
          ∀ r ∈ resources, (found.get? r).getD [] = values r := by
  have hanswer : Graph.Source.answer m store ⟨resources, paths⟩ =
      m.answer store ⟨resources, paths⟩ := rfl
  unfold contents matchesFor
  rw [hpaths, hanswer, Memory.answer]
  cases hstore : m.stores.get? store with
  | none => rfl
  | some g =>
      obtain ⟨found, hfound, hget⟩ :=
        PatternQuery.collect_rows g ⟨resources, paths⟩ extract hres
      refine ⟨found, ?_, hget⟩
      show (PatternQuery.collect _ extract (Memory.rows g _)).mapError _ = _
      rw [hfound]
      rfl

theorem build_eq (candidates : List String) (resources : List ResourceId) :
    PatternQuery.build candidates resources =
      (Candidates.parse candidates).map fun paths => ⟨resources, paths⟩ := by
  unfold PatternQuery.build
  cases Candidates.parse candidates <;> rfl

/-- The work for a batch comes to a choice for each key among what its resource
has. The resources of the query have to be those of the keys. -/
theorem task_memory {κ α ν : Type} (m : Memory) (store : StoreName)
    (extract : Term → Option α) (candidates : List String)
    {resources : List ResourceId} (hres : resources.Nodup) {keys : List κ}
    {resource : κ → ResourceId} (hkeys : ∀ k ∈ keys, resource k ∈ resources)
    (choice : κ → List α → ν) :
    (match PatternQuery.build candidates resources with
      | .error e => (⟨0, .error (.configuration e)⟩ : Batch.Task κ ν)
      | .ok q =>
          ⟨Graph.Source.latency m, (matchesFor m store extract q).map
            fun (found : Table ResourceId (List α)) =>
              keys.map fun k => (k, choice k ((found.get? (resource k)).getD []))⟩) =
      ⟨0, (contents m extract candidates store).map
        fun (values : ResourceId → List α) =>
          keys.map fun k => (k, choice k (values (resource k)))⟩ := by
  rw [build_eq]
  cases hpaths : Candidates.parse candidates with
  | error e =>
      have hcontents : contents m extract candidates store =
          .error (.configuration e) := by
        unfold contents
        rw [hpaths]
      rw [hcontents]
      rfl
  | ok paths =>
      have hmatches := matchesFor_memory m store extract hres hpaths
      cases hcontents : contents m extract candidates store with
      | error e =>
          rw [hcontents] at hmatches
          simp only [Except.map, hmatches]
          rfl
      | ok values =>
          rw [hcontents] at hmatches
          obtain ⟨found, hfound, hget⟩ := hmatches
          have hbatch : (keys.map fun k =>
              (k, choice k ((found.get? (resource k)).getD []))) =
              keys.map fun k => (k, choice k (values (resource k))) := by
            refine List.map_congr_left fun k hk => ?_
            rw [hget (resource k) (hkeys k hk)]
          simp only [Except.map, hfound, hbatch]
          rfl

/-! ## Texts -/

namespace Text

open Cache (Key)

/-- The text for a key, given what its resource has. -/
def best (values : ResourceId → List TextValue) (k : Key) : Resolution TextValue :=
  .ofOption (Language.choose k.languages.effective k.languages.fallbacks
    (values k.resource))

theorem resources_nodup (keys : List Key) : (resources keys).Nodup :=
  (List.mergeSort_perm _ _).nodup_iff.2
    (unrepeated_iff_nodup.1 (distinct_unrepeated _))

theorem mem_resources {keys : List Key} {k : Key} (hk : k ∈ keys) :
    k.resource ∈ resources keys := by
  unfold resources
  rw [List.mem_mergeSort, mem_distinct]
  exact List.mem_map_of_mem hk

/-- The work for a batch treats every key by itself. -/
theorem task_uniform (m : Memory) (o : Origin) (store : StoreName) :
    Batch.Uniform (task m store o)
      ((contents m Term.text? o.candidates store).map best) := by
  intro keys _ _
  refine (task_memory m store Term.text? o.candidates (resources_nodup keys)
    (fun k hk => mem_resources hk) fun k texts => Resolution.ofOption (Language.choose
      k.languages.effective k.languages.fallbacks texts)).trans ?_
  cases contents m Term.text? o.candidates store <;> rfl

/-- Loading no text asks nothing. -/
theorem resolve_nil (m : Memory) (o : Origin) (store : StoreName) :
    resolve m o store [] = ⟨.ok [], [], {}⟩ := rfl

/-- Loading texts from a store in memory, whatever the batches. -/
theorem result_resolve (m : Memory) {o : Origin} (htime : 0 < o.batch.timeout)
    (store : StoreName) {keys : List Key} (hpool : o.batch.Admits (distinct keys).length)
    (hne : keys ≠ []) :
    (resolve m o store keys).result =
      (contents m Term.text? o.candidates store).map fun values =>
        (distinct keys).map fun k => (k, best values k) := by
  have hrun := Batch.run_uniform store hpool (.inr htime) (distinct_unrepeated keys)
    (task_uniform m o store) (fun h => hne (distinct_eq_nil.1 h))
  show (Batch.run o.batch store (distinct keys) (task m store o)).result = _
  rw [hrun]
  cases contents m Term.text? o.candidates store <;> rfl

/-- Texts of several batches cannot be loaded without a pool. -/
theorem resolve_of_not_admits (m : Memory) {o : Origin} (store : StoreName) {keys : List Key}
    (hpanic : ¬ o.batch.Admits (distinct keys).length) :
    (resolve m o store keys).result = .error (.panic Batch.tooManyWorkers) := by
  show (Batch.run o.batch store (distinct keys) (task m store o)).result = _
  rw [Batch.run_of_not_admits hpanic]

/-- What loading texts means: candidates that make no query fail the call, else
a store that is not there does, and else every key gets the best of the texts
that the candidates lead to from its resource. How the keys are split up, and
in which order they come, is nowhere in it, as long as there can be a pool for them if
they need one. Without keys nothing is asked. -/
theorem resolve_reference (m : Memory) (o : Origin)
    (htime : 0 < o.batch.timeout) (store : StoreName) (keys : List Key)
    (hpool : o.batch.Admits (distinct keys).length) :
    (keys = [] → (resolve m o store keys).result = .ok [] ∧
      (resolve m o store keys).queries = []) ∧
    (keys ≠ [] → (resolve m o store keys).result =
      match Candidates.parse o.candidates, m.stores.get? store with
      | .error e, _ => .error (.configuration e)
      | .ok _, none => .error (.store store (.unknownStore store))
      | .ok paths, some g => .ok ((distinct keys).map fun k =>
          (k, .ofOption (Language.choose k.languages.effective
            k.languages.fallbacks (paths.flatMap fun p =>
              (g.evaluate k.resource p).filterMap Term.text?))))) := by
  constructor
  · rintro rfl
    rw [resolve_nil]
    exact ⟨rfl, rfl⟩
  · intro hne
    rw [result_resolve m htime store hpool hne, contents]
    cases Candidates.parse o.candidates with
    | error e => rfl
    | ok paths =>
        cases m.stores.get? store with
        | none => rfl
        | some g => rfl

/-- A store that names a dog in two languages. -/
def dogs : Memory :=
  Memory.empty.insert "s" "dog" "p" (.text (.tagged "Hund" "de"))
    |>.insert "s" "dog" "p" (.text (.tagged "dog" "en"))

/-- The keys of a dog in two languages. -/
def dogKeys : List Key :=
  [⟨"dog", .single (Tag.ofString "en")⟩, ⟨"dog", .single (Tag.ofString "de")⟩]

/-- A key in two languages, asked for in batches of one. -/
theorem resolve_reference_two_languages :
    let o : Origin := ⟨["p"], { batchSize := 1 }⟩
    0 < o.batch.timeout ∧ o.batch.Admits (distinct dogKeys).length ∧
      (resolve dogs o "s" dogKeys).result = .ok
        [(⟨"dog", .single (Tag.ofString "en")⟩, .found (.tagged "dog" "en")),
          (⟨"dog", .single (Tag.ofString "de")⟩, .found (.tagged "Hund" "de"))] := by
  intro o
  have hpool : o.batch.Admits (distinct dogKeys).length := .inr (by decide)
  refine ⟨by decide, hpool, ?_⟩
  rw [(resolve_reference dogs o (by decide) "s" dogKeys hpool).2 (by simp [dogKeys])]
  rfl

/-- The same with one worker more than a pool can have. -/
theorem resolve_reference_without_pool :
    let o : Origin := ⟨["p"], { batchSize := 1, workers := Batch.maxWorkers + 1 }⟩
    0 < o.batch.timeout ∧ Candidates.parse o.candidates = .ok [[⟨"p", false⟩]] ∧
      dogs.has "s" = true ∧
      (resolve dogs o "s" dogKeys).result = .error (.panic Batch.tooManyWorkers) := by
  intro o
  have hpanic : ¬ o.batch.Admits (distinct dogKeys).length := not_or.2 (by decide)
  exact ⟨by decide, rfl, rfl, resolve_of_not_admits dogs "s" hpanic⟩

end Text

/-! ## Types -/

namespace Kind

/-- The type of a resource, given what it has. -/
def first (values : ResourceId → List ResourceId) (id : ResourceId) :
    Resolution ResourceId :=
  .ofOption (values id).head?

/-- The work for a batch treats every resource by itself. -/
theorem task_uniform (m : Memory) (o : Origin) (store : StoreName) :
    Batch.Uniform (task m store o)
      ((contents m Term.iri? o.candidates store).map first) := by
  intro ids _ hids
  refine (task_memory m store Term.iri? o.candidates
    (unrepeated_iff_nodup.1 hids) (fun id hid => hid)
    fun _ found => Resolution.ofOption found.head?).trans ?_
  cases contents m Term.iri? o.candidates store <;> rfl

/-- The resources of a run: each once, in ascending order. -/
def ascending (ids : List ResourceId) : List ResourceId :=
  (distinct ids).mergeSort fun a b => decide (a ≤ b)

theorem ascending_perm (ids : List ResourceId) : (ascending ids).Perm (distinct ids) :=
  List.mergeSort_perm _ _

theorem mem_ascending {ids : List ResourceId} {id : ResourceId} :
    id ∈ ascending ids ↔ id ∈ ids := by
  rw [(ascending_perm ids).mem_iff, mem_distinct]

/-- The types of some resources in ascending order. -/
def typed (values : ResourceId → List ResourceId) (ids : List ResourceId) :
    Answers ResourceId ResourceId :=
  (ascending ids).map fun id => (id, first values id)

theorem keys_typed (values : ResourceId → List ResourceId) (ids : List ResourceId) :
    (typed values ids).keys = ascending ids :=
  Table.keys_map _ _

theorem get?_typed {values : ResourceId → List ResourceId} {ids : List ResourceId}
    {id : ResourceId} (hid : id ∈ ids) :
    (typed values ids).get? id = some (first values id) :=
  Table.get?_map_of_mem (mem_ascending.2 hid)

/-- Loading types from a store in memory, whatever the batches. -/
theorem result_resolve (m : Memory) {o : Origin} (store : StoreName) {ids : List ResourceId}
    (hpool : o.batch.Admits (distinct ids).length)
    (htime : (distinct ids).length ≤ max o.batch.batchSize 1 ∨ 0 < o.batch.timeout)
    (hne : ids ≠ []) :
    (resolve m o store ids).result =
      (contents m Term.iri? o.candidates store).map fun values => typed values ids := by
  have hlength : (ascending ids).length = (distinct ids).length :=
    (ascending_perm ids).length_eq
  have hsome : ascending ids ≠ [] := by
    intro h
    rw [h, List.length_nil, eq_comm, List.length_eq_zero_iff] at hlength
    exact hne (distinct_eq_nil.1 hlength)
  have hunrepeated : Unrepeated (ascending ids) :=
    (distinct_unrepeated ids).perm (ascending_perm ids).symm
  have hrun := Batch.run_uniform store (hlength ▸ hpool) (hlength ▸ htime) hunrepeated
    (task_uniform m o store) hsome
  show (Batch.run o.batch store _ (task m store o)).result = _
  refine hrun.trans ?_
  cases contents m Term.iri? o.candidates store <;> rfl

/-- Types of several batches cannot be loaded without a pool. -/
theorem resolve_of_not_admits (m : Memory) {o : Origin} (store : StoreName)
    {ids : List ResourceId} (hpanic : ¬ o.batch.Admits (distinct ids).length) :
    (resolve m o store ids).result = .error (.panic Batch.tooManyWorkers) := by
  rw [← (ascending_perm ids).length_eq] at hpanic
  show (Batch.run o.batch store (ascending ids) (task m store o)).result = _
  rw [Batch.run_of_not_admits hpanic]

end Kind

end Nomenclator.Loader
