import Nomenclator.Application.World
import Nomenclator.Proofs.Loading

/-!
# The type of a resource

The candidates lead from a resource to texts and to identifiers, one candidate
after the other. The type is the identifier that comes first among them, whatever
texts stand before it; a candidate that leads to texts only counts for nothing.
This is a statement about one resource. Which resources are asked for together,
and in which batches, has no place in it.

A single load asks for one resource as a lookup of several would, and reports what
it finds there: it cannot be that the lookup has no answer for the resource.
-/

namespace Nomenclator.Loader.Kind

open Nomenclator.Graph (Indexed Memory)

/-- The terms that some candidates lead to from a resource, one candidate after the
other and each in the order of its path. -/
def reachable (g : Indexed) (paths : Candidates) (id : ResourceId) : List Term :=
  paths.flatMap fun p => g.evaluate id p

/-- An identifier comes first among some terms: only texts stand before it. -/
def FirstIri (terms : List Term) (t : ResourceId) : Prop :=
  ∃ before after, terms = before ++ .iri t :: after ∧ ∀ x ∈ before, ∃ v, x = .text v

theorem iri?_eq_none {x : Term} : x.iri? = none ↔ ∃ v, x = .text v := by
  cases x <;> simp [Term.iri?]

theorem iri?_eq_some {x : Term} {t : ResourceId} : x.iri? = some t ↔ x = .iri t := by
  cases x <;> simp [Term.iri?]

theorem head?_iris_eq_some {terms : List Term} {t : ResourceId} :
    (terms.filterMap Term.iri?).head? = some t ↔ FirstIri terms t := by
  rw [List.head?_filterMap, List.findSome?_eq_some_iff]
  constructor
  · rintro ⟨before, x, after, hsplit, hx, hbefore⟩
    rw [iri?_eq_some.1 hx] at hsplit
    exact ⟨before, after, hsplit, fun y hy => iri?_eq_none.1 (hbefore y hy)⟩
  · rintro ⟨before, after, hsplit, hbefore⟩
    exact ⟨before, .iri t, after, hsplit, rfl, fun y hy => iri?_eq_none.2 (hbefore y hy)⟩

theorem head?_iris_eq_none {terms : List Term} :
    (terms.filterMap Term.iri?).head? = none ↔ ∀ t, Term.iri t ∉ terms := by
  rw [List.head?_filterMap, List.findSome?_eq_none_iff]
  constructor
  · intro h t ht
    exact nomatch h (.iri t) ht
  · intro h x hx
    cases x with
    | text v => rfl
    | iri t => exact absurd hx (h t)

theorem first_reached (g : Indexed) (paths : Candidates) (id : ResourceId) :
    first (reached g Term.iri? paths) id =
      .ofOption ((reachable g paths id).filterMap Term.iri?).head? := by
  unfold first reached reachable
  rw [List.filterMap_flatMap]

/-- An answer for a resource: its type if there is one, and else that there is none. -/
structure Answered (terms : List Term) (answer : Option (Resolution ResourceId)) : Prop where
  found : ∀ t, answer = some (.found t) ↔ FirstIri terms t
  absent : answer = some .notFound ↔ ∀ t, Term.iri t ∉ terms

theorem answered_first (g : Indexed) (paths : Candidates) (id : ResourceId) :
    Answered (reachable g paths id) (some (first (reached g Term.iri? paths) id)) := by
  rw [first_reached]
  constructor
  · intro t
    rw [← head?_iris_eq_some]
    cases ((reachable g paths id).filterMap Term.iri?).head? <;> simp [Resolution.ofOption]
  · rw [← head?_iris_eq_none]
    cases ((reachable g paths id).filterMap Term.iri?).head? <;> simp [Resolution.ofOption]

/-! ## Single loads -/

/-- A single load reports what a lookup answers for a resource: the type or its absence,
and a failure with its text. -/
structure Reports (id : ResourceId) (looked : Except ResolveError (Answers ResourceId ResourceId))
    (loaded : Except LoadError ResourceId) : Prop where
  found : ∀ t, loaded = .ok t ↔
    ∃ answers, looked = .ok answers ∧ answers.get? id = some (.found t)
  absent : loaded = .error .notFound ↔
    ∃ answers, looked = .ok answers ∧ answers.get? id = some .notFound
  failed : ∀ message, loaded = .error (.failed message) ↔
    ∃ e, looked = .error e ∧ e.message = message

/-- What is read off a lookup of one resource reports it, provided the lookup does not
leave the resource open. -/
theorem reports_single {id : ResourceId}
    {looked : Except ResolveError (Answers ResourceId ResourceId)}
    (h : ∀ answers, looked = .ok answers →
      ∃ v : Option ResourceId, answers.get? id = some (.ofOption v)) :
    Reports id looked (Loader.single id looked) := by
  cases looked with
  | error e => constructor <;> simp [Loader.single]
  | ok answers =>
      obtain ⟨v, hv⟩ := h answers rfl
      cases v <;> constructor <;> simp [Loader.single, hv, Resolution.ofOption]

/-- A lookup that succeeds leaves no resource open. -/
theorem resolve_settles (m : Memory) {o : Origin} (store : StoreName) (id : ResourceId)
    {answers : Answers ResourceId ResourceId}
    (h : (resolve m o store [id]).result = .ok answers) :
    ∃ v : Option ResourceId, answers.get? id = some (.ofOption v) := by
  have hfit : (distinct [id]).length ≤ max o.batch.batchSize 1 := Nat.le_max_right _ _
  rw [result_resolve m store (.inl hfit) (.inl hfit) (List.cons_ne_nil id [])] at h
  cases hcontents : contents m Term.iri? o.candidates store with
  | error e => rw [hcontents] at h; cases h
  | ok values =>
      rw [hcontents] at h
      obtain rfl := Except.ok.inj h
      exact ⟨(values id).head?, get?_typed (List.mem_singleton.2 rfl)⟩

/-- The type of a resource is the first identifier that the candidates lead to, whatever
the batches and the other resources, as long as there can be a pool if one is needed.
Candidates that make no query fail a lookup, and so does a store that is not there. A
single load tells the answer of a lookup of one resource, with an absence and a failure in
its own words. -/
theorem resolve_first {ε : Type} (m : Memory) {o : Origin} (store : StoreName)
    {ids : List ResourceId} (hpool : o.batch.Admits (distinct ids).length)
    (htime : (distinct ids).length ≤ max o.batch.batchSize 1 ∨ 0 < o.batch.timeout)
    (hne : ids ≠ []) :
    (match Candidates.parse o.candidates, m.stores.get? store with
      | .error e, _ => (resolve m o store ids).result = .error (.configuration e)
      | .ok _, none => (resolve m o store ids).result =
          .error (.store store (.unknownStore store))
      | .ok paths, some g => ∃ answers, (resolve m o store ids).result = .ok answers ∧
          answers.keys.Perm (distinct ids) ∧
          ∀ id ∈ ids, Answered (reachable g paths id) (answers.get? id)) ∧
      ∀ (w : World Memory ε), w.graph = m → ∀ id,
        Reports id (resolve m o store [id]).result
          (((World.typeLoader o).load store id).run w).1 := by
  constructor
  · rw [result_resolve m store hpool htime hne, contents]
    cases Candidates.parse o.candidates with
    | error e => rfl
    | ok paths =>
        cases m.stores.get? store with
        | none => rfl
        | some g =>
            refine ⟨_, rfl, ?_, fun id hid => ?_⟩
            · rw [keys_typed]
              exact ascending_perm ids
            · rw [get?_typed hid]
              exact answered_first g paths id
  · rintro w rfl id
    have hload : (((World.typeLoader o).load store id).run w).1 =
        Loader.single id (resolve w.graph o store [id]).result := rfl
    rw [hload]
    exact reports_single fun answers hanswers => resolve_settles w.graph store id hanswers

/-- A store with a cat whose first candidate leads to a text only. -/
def cats : Memory :=
  Memory.empty.insert "s" "cat" "p" (.text (.plain "Katze"))
    |>.insert "s" "cat" "q" (.text (.plain "animal"))
    |>.insert "s" "cat" "q" (.iri "Animal") |>.insert "s" "cat" "q" (.iri "Pet")

/-- A cat, and a thing of which nothing is known, asked for in batches of one. -/
theorem resolve_first_two_resources :
    let o : Origin := ⟨["p", "q"], { batchSize := 1 }⟩
    let ids : List ResourceId := ["thing", "cat"]
    o.batch.Admits (distinct ids).length ∧
      ((distinct ids).length ≤ max o.batch.batchSize 1 ∨ 0 < o.batch.timeout) ∧ ids ≠ [] ∧
      (∃ answers, (resolve cats o "s" ids).result = .ok answers ∧
        answers.get? "cat" = some (.found "Animal") ∧
        answers.get? "thing" = some .notFound) ∧
      (((World.typeLoader (ε := Unit) o).load "s" "cat").run ⟨cats, [], {}, [], ()⟩).1 =
        .ok "Animal" := by
  intro o ids
  have hpool : o.batch.Admits (distinct ids).length := .inr (by decide)
  have htime : (distinct ids).length ≤ max o.batch.batchSize 1 ∨ 0 < o.batch.timeout :=
    .inr (by decide)
  have hne : ids ≠ [] := List.cons_ne_nil _ _
  obtain ⟨hresolve, hload⟩ := resolve_first (ε := Unit) cats (o := o) "s" hpool htime hne
  obtain ⟨answers, hok, -, hanswers⟩ := hresolve
  have hcat := hanswers "cat" (by decide)
  have hthing := hanswers "thing" (by decide)
  refine ⟨hpool, htime, hne, ⟨answers, hok, (hcat.found "Animal").2 (head?_iris_eq_some.1 rfl),
    hthing.absent.2 (head?_iris_eq_none.1 rfl)⟩, ?_⟩
  have hfit : (distinct ["cat"]).length ≤ max o.batch.batchSize 1 := by decide
  obtain ⟨alone, hokAlone, -, hanswersAlone⟩ :=
    (resolve_first (ε := Unit) cats (o := o) "s" (.inl hfit) (.inl hfit)
      (List.cons_ne_nil "cat" [])).1
  have hcatAlone := hanswersAlone "cat" (by decide)
  exact ((hload ⟨cats, [], {}, [], ()⟩ rfl "cat").found "Animal").2
    ⟨alone, hokAlone, (hcatAlone.found "Animal").2 (head?_iris_eq_some.1 rfl)⟩

/-- The same resources with one worker more than a pool can have. -/
theorem resolve_first_without_pool :
    let o : Origin := ⟨["p", "q"], { batchSize := 1, workers := Batch.maxWorkers + 1 }⟩
    Candidates.parse o.candidates = .ok [[⟨"p", false⟩], [⟨"q", false⟩]] ∧
      cats.has "s" = true ∧
      (resolve cats o "s" ["thing", "cat"]).result =
        .error (.panic Batch.tooManyWorkers) := by
  intro o
  have hpanic : ¬ o.batch.Admits (distinct ["thing", "cat"]).length := not_or.2 (by decide)
  exact ⟨rfl, rfl, resolve_of_not_admits cats "s" hpanic⟩

end Nomenclator.Loader.Kind
