import Nomenclator.Proofs.Separation

/-!
# What a request of several keys is told

A request of several keys is answered for each of them once, in part from what the
cache has and in part from what is loaded. The keys come in any order, some of them
more than once and in other forms, and to look one up promotes an entry, so that the
cache is another one from key to key. What can be seen of it stays the same, however,
and therefore the survey as a whole splits the different keys by what could be seen
when it began: those that something is kept for, and those that are lacking. This is
the invariant here, over the keys that have been looked at.

The rest is read off the split. The loader is asked for the lacking keys, all at once,
and not at all if there are none. What is kept is told as it is, and what is loaded
as it was loaded, with everything that is not a value told as an absence.
-/

namespace Nomenclator

/-- Somebody has looked, with whatever outcome. -/
def Resolution.isKnown {α : Type} : Resolution α → Bool
  | .found _ | .notFound => true
  | .unknown => false

theorem Resolution.isKnown_iff {α : Type} {r : Resolution α} :
    r.isKnown = true ↔ r ≠ .unknown := by
  cases r <;> simp [isKnown]

theorem Resolution.ofOption_ne_unknown {α : Type} (v : Option α) :
    ofOption v ≠ .unknown := by
  cases v <;> nofun

namespace Cache

variable {κ ν : Type} [BEq κ]

namespace Partitioned

variable {c c' : Partitioned κ ν} {store : StoreName} {k : κ}

/-! ## The split -/

/-- A request finds something kept for a key. A cache that is switched off is not even
looked into. -/
def finds (c : Partitioned κ ν) (store : StoreName) (k : κ) : Bool :=
  c.config.enabled && (c.peek store k).isKnown

/-- The different keys of a request that nothing is kept for, in the order in which
they are first named. -/
def lacking (c : Partitioned κ ν) (store : StoreName) (ks : List κ) : List κ :=
  (distinct ks).filter fun k => !c.finds store k

theorem finds_congr [PartialEquivBEq κ] (c : Partitioned κ ν) (store : StoreName) {k x : κ}
    (h : (k == x) = true) : c.finds store k = c.finds store x := by
  unfold finds
  rw [c.peek_congr store h]

theorem finds_iff : c.finds store k = true ↔
    c.config.enabled = true ∧ c.peek store k ≠ .unknown := by
  unfold finds
  rw [Bool.and_eq_true, Resolution.isKnown_iff]

theorem lookup_of_finds (h : c.finds store k = true) :
    ∃ v, c.peek store k = .ofOption v ∧ (c.lookup store k).1 = some v := by
  obtain ⟨henabled, hknown⟩ := finds_iff.1 h
  rw [lookup_eq, if_pos henabled]
  unfold peek at hknown ⊢
  cases hpeek : (c.entries store).peek? k with
  | some v => exact ⟨v, rfl, rfl⟩
  | none =>
      rw [hpeek] at hknown
      exact absurd rfl hknown

theorem lookup_of_not_finds (h : c.finds store k = false) : (c.lookup store k).1 = none := by
  rw [lookup_eq]
  split
  · next henabled =>
      cases hpeek : (c.entries store).peek? k with
      | none => rfl
      | some v =>
          have hknown : c.peek store k ≠ .unknown := by
            unfold peek
            rw [hpeek]
            exact Resolution.ofOption_ne_unknown v
          rw [finds_iff.2 ⟨henabled, hknown⟩] at h
          cases h
  · rfl

/-- What a survey of a cache has found when it is through with some different keys, and
what has become of the cache. -/
structure Surveyed (c : Partitioned κ ν) (store : StoreName) (seen : List κ)
    (found : Survey κ ν) (c' : Partitioned κ ν) : Prop where
  kept : found.kept = (seen.filter (c.finds store)).map fun k => (k, c.peek store k)
  missing : found.missing = seen.filter fun k => !c.finds store k
  config : c'.config = c.config
  peek : ∀ k, c'.peek store k = c.peek store k
  entries : c'.entries store =
    if c.config.enabled then seen.foldl Recency.touch (c.entries store)
    else c.entries store

variable {seen : List κ} {found : Survey κ ν}

/-- All keys that were looked at are accounted for. -/
theorem Surveyed.any_seen (h : Surveyed c store seen found c') (k : κ) :
    (found.kept.has k || found.missing.any (· == k)) = seen.any (· == k) := by
  unfold Table.has
  rw [h.kept, h.missing, List.any_map, ← (List.filter_append_perm (c.finds store) seen).any_eq,
    List.any_append]
  rfl

theorem Surveyed.finds (h : Surveyed c store seen found c') (k : κ) :
    c'.finds store k = c.finds store k := by
  unfold Partitioned.finds
  rw [h.config, h.peek]

/-- One more key is looked up. -/
theorem Surveyed.lookup [EquivBEq κ] (h : Surveyed c store seen found c') (k : κ)
    {next : Survey κ ν}
    (hnext : next = match (c'.lookup store k).1 with
      | some v => { found with kept := found.kept ++ [(k, .ofOption v)] }
      | none => { found with missing := found.missing ++ [k] }) :
    Surveyed c store (seen ++ [k]) next (c'.lookup store k).2 := by
  have hconfig := (c'.alike_lookup store k).config.trans h.config
  have hpeek : ∀ x, (c'.lookup store k).2.peek store x = c.peek store x :=
    fun x => (c'.peek_lookup store k store x).trans (h.peek x)
  have hentries : (c'.lookup store k).2.entries store =
      if c.config.enabled then (seen ++ [k]).foldl Recency.touch (c.entries store)
      else c.entries store := by
    rw [entries_lookup, h.config, h.entries, List.foldl_append]
    split <;> rfl
  cases hfinds : c.finds store k with
  | true =>
      obtain ⟨v, hv, hlook⟩ := lookup_of_finds (h.finds k ▸ hfinds)
      rw [h.peek] at hv
      rw [hlook] at hnext
      refine ⟨?_, ?_, hconfig, hpeek, hentries⟩
      · simp [hnext, h.kept, hfinds, hv]
      · simp [hnext, h.missing, hfinds]
  | false =>
      rw [lookup_of_not_finds (h.finds k ▸ hfinds)] at hnext
      refine ⟨?_, ?_, hconfig, hpeek, hentries⟩
      · simp [hnext, h.kept, hfinds]
      · simp [hnext, h.missing, hfinds]

theorem Surveyed.surveyFrom [EquivBEq κ] (h : Surveyed c store seen found c')
    (ks : List κ) :
    Surveyed c store (distinctAfter seen ks) (surveyFrom store found c' ks).1
      (surveyFrom store found c' ks).2 := by
  induction ks generalizing c' seen found with
  | nil => exact h
  | cons k ks ih =>
      unfold Partitioned.surveyFrom
      rw [distinctAfter_cons, h.any_seen k]
      split
      · exact ih h
      · have hnext := h.lookup k rfl
        generalize c'.lookup store k = looked at hnext ⊢
        obtain ⟨_ | v, c''⟩ := looked
        · exact ih hnext
        · exact ih hnext

theorem surveyed [EquivBEq κ] (c : Partitioned κ ν) (store : StoreName) (ks : List κ) :
    Surveyed c store (distinct ks) (c.survey store ks).1 (c.survey store ks).2 := by
  refine Surveyed.surveyFrom ⟨rfl, rfl, c.config_prepare store, fun k => ?_, ?_⟩ ks
  · unfold Partitioned.peek
    rw [entries_prepare]
  · rw [entries_prepare]
    split <;> rfl

/-! ## The answers -/

/-- What a request is told when this was loaded for the keys that are lacking. -/
def told (c : Partitioned κ ν) (store : StoreName) (ks : List κ) (loaded : Answers κ ν) :
    Answers κ ν :=
  ((distinct ks).filter (c.finds store)).map (fun k => (k, c.peek store k)) ++
    (c.lacking store ks).map fun k => (k, .ofOption (loadedValue loaded k))

/-- What is recorded when this was loaded for the keys that are lacking. -/
def brought (c : Partitioned κ ν) (store : StoreName) (ks : List κ) (loaded : Answers κ ν) :
    List (κ × Option ν) :=
  (c.lacking store ks).map fun k => (k, loadedValue loaded k)

variable {σ : Type}

/-- A request in one equation. -/
theorem run_getAllOrLoad_split [EquivBEq κ] (c : Partitioned κ ν) (loader : Loader σ κ ν)
    (store : StoreName) (ks : List κ) (s : σ) :
    (c.getAllOrLoad loader store ks).run s =
      if (c.lacking store ks).isEmpty then
        ((.ok (c.told store ks []), (c.survey store ks).2), s)
      else
        match (loader.loadAll store (c.lacking store ks)).run.run s with
        | (.error e, s') => ((.error e, (c.survey store ks).2), s')
        | (.ok loaded, s') =>
            ((.ok (c.told store ks loaded),
              (c.survey store ks).2.record store (c.survey store ks).1.serial
                (c.brought store ks loaded)), s') := by
  have hsurvey := c.surveyed store ks
  have hmissing : (c.survey store ks).1.missing = c.lacking store ks := hsurvey.missing
  have htold : ∀ loaded, c.told store ks loaded = (c.survey store ks).1.kept ++
      (c.brought store ks loaded).map fun e => (e.1, .ofOption e.2) := by
    intro loaded
    unfold told brought
    rw [hsurvey.kept, List.map_map]
    rfl
  rw [run_getAllOrLoad, hmissing]
  split
  · next hnone =>
      rw [htold, brought, List.isEmpty_iff.1 hnone, List.map_nil, List.map_nil,
        List.append_nil]
  · rcases (loader.loadAll store (c.lacking store ks)).run.run s with ⟨_ | loaded, s'⟩
    · rfl
    · dsimp only
      rw [htold]
      rfl

theorem loadedValue_congr [PartialEquivBEq κ] (loaded : Answers κ ν) {k x : κ}
    (h : (k == x) = true) : loadedValue loaded k = loadedValue loaded x := by
  unfold loadedValue
  rw [Table.get?_congr loaded h]

theorem get?_told [EquivBEq κ] (c : Partitioned κ ν) (store : StoreName) (ks : List κ)
    (loaded : Answers κ ν) (k : κ) :
    (c.told store ks loaded).get? k =
      if ks.any (· == k) then
        some (if c.finds store k then c.peek store k else .ofOption (loadedValue loaded k))
      else none := by
  unfold told lacking
  rw [Table.get?_append, Table.get?_map fun x _ hx => c.peek_congr store hx,
    Table.get?_map fun x _ hx => congrArg Resolution.ofOption (loadedValue_congr loaded hx),
    any_filter_of_congr fun x hx => c.finds_congr store hx,
    any_filter_of_congr fun x hx => by rw [c.finds_congr store hx], any_distinct]
  cases ks.any (· == k) <;> cases c.finds store k <;> rfl

theorem get?_told_of_mem [EquivBEq κ] (c : Partitioned κ ν) (store : StoreName)
    {ks : List κ} (loaded : Answers κ ν) {k : κ} (hk : k ∈ ks) :
    (c.told store ks loaded).get? k =
      some (if c.finds store k then c.peek store k
        else .ofOption (loadedValue loaded k)) := by
  rw [get?_told, if_pos (any_of_mem hk)]

/-- A complete answer: every key of the request once, and nothing left open. What is
kept is told as it is, and what is lacking as it was loaded. -/
structure Complete (c : Partitioned κ ν) (store : StoreName) (ks : List κ)
    (loaded answers : Answers κ ν) : Prop where
  once : Unrepeated answers.keys
  all : ∀ k, answers.has k = ks.any (· == k)
  known : ∀ e ∈ answers, e.2 ≠ .unknown
  kept : ∀ k ∈ ks, c.finds store k = true → answers.get? k = some (c.peek store k)
  found : ∀ k ∈ ks, c.finds store k = false → ∀ v,
    answers.get? k = some (.found v) ↔ loaded.get? k = some (.found v)
  absent : ∀ k ∈ ks, c.finds store k = false → (∀ v, loaded.get? k ≠ some (.found v)) →
    answers.get? k = some .notFound

theorem complete_told [EquivBEq κ] (c : Partitioned κ ν) (store : StoreName) (ks : List κ)
    (loaded : Answers κ ν) : c.Complete store ks loaded (c.told store ks loaded) := by
  have hloaded : ∀ k ∈ ks, c.finds store k = false →
      (c.told store ks loaded).get? k = some (.ofOption (loadedValue loaded k)) := by
    intro k hk hlacks
    rw [c.get?_told_of_mem store loaded hk, hlacks]
    rfl
  refine ⟨?_, fun k => ?_, fun e he => ?_, fun k hk hfinds => ?_, fun k hk hlacks v => ?_,
    fun k hk hlacks hnone => ?_⟩
  · have hkeys : (c.told store ks loaded).keys =
        (distinct ks).filter (c.finds store) ++ c.lacking store ks := by
      simp [told, Table.keys, List.map_map, Function.comp_def]
    rw [hkeys]
    exact (distinct_unrepeated ks).perm (List.filter_append_perm _ _).symm
  · rw [Table.has_eq_isSome, get?_told]
    cases ks.any (· == k) <;> rfl
  · rcases List.mem_append.1 he with he | he
    · obtain ⟨k, hk, rfl⟩ := List.mem_map.1 he
      obtain ⟨v, hv, -⟩ := lookup_of_finds (List.mem_filter.1 hk).2
      show c.peek store k ≠ .unknown
      rw [hv]
      exact Resolution.ofOption_ne_unknown v
    · obtain ⟨k, -, rfl⟩ := List.mem_map.1 he
      exact Resolution.ofOption_ne_unknown _
  · rw [c.get?_told_of_mem store loaded hk, if_pos hfinds]
  · rw [hloaded k hk hlacks]
    unfold loadedValue
    rcases loaded.get? k with _ | (w | _) <;> simp [Resolution.ofOption, Resolution.value?]
  · rw [hloaded k hk hlacks]
    unfold loadedValue
    rcases hget : loaded.get? k with _ | (w | _ | _)
    · rfl
    · exact absurd hget (hnone w)
    · rfl
    · rfl

end Partitioned

/-! ## The loads -/

/-- A loader as it is, with a note of what it is asked for. -/
def watched {σ : Type} (loader : Loader σ κ ν) : Loader (σ × List (Call κ)) κ ν where
  load store k := fun s =>
    let (outcome, source) := (loader.load store k).run s.1
    (outcome, source, s.2 ++ [.one store k])
  loadAll store ks := fun s =>
    let (outcome, source) := (loader.loadAll store ks).run.run s.1
    (outcome, source, s.2 ++ [.several store ks])

namespace Partitioned

variable {σ : Type}

/-- A request of several keys succeeds unless it has to load and the load fails, and then
its answer is complete. It asks the loader once for the keys that are lacking, each of
them once and in the order of the request, and not at all if there are none; a cache
that is switched off lacks all keys. -/
theorem getAllOrLoad_complete [EquivBEq κ] (c : Partitioned κ ν) (loader : Loader σ κ ν)
    (store : StoreName) (ks : List κ) (s : σ) (calls : List (Call κ)) :
    let out := (c.getAllOrLoad (watched loader) store ks).run (s, calls)
    let load := (loader.loadAll store (c.lacking store ks)).run.run s
    (∀ answers, out.1.1 = .ok answers → ∃ loaded, c.Complete store ks loaded answers ∧
      (c.lacking store ks ≠ [] → load = (.ok loaded, out.2.1))) ∧
    (∀ e, out.1.1 = .error e ↔ c.lacking store ks ≠ [] ∧ load.1 = .error e) ∧
    (c.lacking store ks = [] → out.2 = (s, calls)) ∧
    (c.lacking store ks ≠ [] →
      out.2.2 = calls ++ [.several store (c.lacking store ks)]) ∧
    (c.config.enabled = false → c.lacking store ks = distinct ks) := by
  intro out load
  have hload : ((watched loader).loadAll store (c.lacking store ks)).run.run (s, calls) =
      (load.1, load.2, calls ++ [.several store (c.lacking store ks)]) := rfl
  have hout : out = _ := c.run_getAllOrLoad_split (watched loader) store ks (s, calls)
  have hoff : c.config.enabled = false → c.lacking store ks = distinct ks := by
    intro hdisabled
    simp [lacking, finds, hdisabled]
  rw [hload] at hout
  by_cases hlacking : c.lacking store ks = []
  · rw [if_pos (List.isEmpty_iff.2 hlacking)] at hout
    rw [hout]
    refine ⟨fun answers hok => ⟨[], ?_, fun h => absurd hlacking h⟩,
      fun e => ⟨nofun, fun h => absurd hlacking h.1⟩, fun _ => rfl,
      fun h => absurd hlacking h, hoff⟩
    exact Except.ok.inj hok ▸ c.complete_told store ks []
  · rw [if_neg fun h => hlacking (List.isEmpty_iff.1 h)] at hout
    generalize load = r at hout ⊢
    obtain ⟨e | loaded, s'⟩ := r
    · rw [hout]
      refine ⟨nofun, fun e' => ⟨fun h => ⟨hlacking, ?_⟩, fun h => ?_⟩,
        fun h => absurd h hlacking, fun _ => rfl, hoff⟩
      · exact congrArg _ (Except.error.inj h)
      · exact congrArg _ (Except.error.inj h.2)
    · rw [hout]
      refine ⟨fun answers hok => ⟨loaded, ?_, fun _ => rfl⟩,
        fun e => ⟨nofun, fun h => nomatch h.2⟩, fun h => absurd h hlacking, fun _ => rfl,
        hoff⟩
      exact Except.ok.inj hok ▸ c.complete_told store ks loaded

/-- The vase is there and is asked for twice, in different forms; the bowl and the cup
are lacking, and the loader has nothing to say about the cup. -/
theorem getAllOrLoad_complete_mixed :
    let key : ResourceId → List Language.Tag → Key := fun id fallbacks =>
      ⟨id, ⟨.none, fallbacks⟩⟩
    let loader : Loader Unit Key String := {
      load := fun _ _ => pure (.ok "Vase")
      loadAll := fun _ _ => pure [(key "urn:bowl" [], .found "Bowl")] }
    let c := (((empty "texts" {} none).getOrLoad loader "s" (key "urn:vase" [])).run ()).1.2
    let ks := [key "urn:bowl" [.none], key "urn:vase" [.none], key "urn:cup" [],
      key "urn:vase" [], key "urn:bowl" []]
    let out := (c.getAllOrLoad (watched loader) "s" ks).run ((), [])
    ∃ answers loaded, out.1.1 = .ok answers ∧ c.Complete "s" ks loaded answers ∧
      c.lacking "s" ks = [key "urn:bowl" [.none], key "urn:cup" []] ∧
      out.2.2 = [.several "s" [key "urn:bowl" [.none], key "urn:cup" []]] := by
  intro key loader c ks out
  have hok : out.1.1 = .ok [(key "urn:vase" [.none], .found "Vase"),
      (key "urn:bowl" [.none], .found "Bowl"), (key "urn:cup" [], .notFound)] := by rfl
  have hlacking : c.lacking "s" ks = [key "urn:bowl" [.none], key "urn:cup" []] := by rfl
  obtain ⟨hanswers, -, -, hcalls, -⟩ := c.getAllOrLoad_complete loader "s" ks () []
  obtain ⟨loaded, hcomplete, -⟩ := hanswers _ hok
  have hmade := hcalls (by rw [hlacking]; exact List.cons_ne_nil _ _)
  rw [hlacking] at hmade
  exact ⟨_, loaded, hok, hcomplete, hlacking, hmade⟩

end Partitioned

end Cache

end Nomenclator
