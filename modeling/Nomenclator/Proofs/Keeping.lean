import Nomenclator.Proofs.Contents

/-!
# A cache keeps nothing but answers

Behind a cache stands a loader, and what the loader says about a store is either
that it fails or a value for every key. A cache is sound when each of its
entries is such a value. Every operation keeps a cache sound: promoting and
dropping entries add none, and what is recorded has just been loaded. A request
to a sound cache is then answered as the loader would answer it, whatever is
kept, pushed out or loaded meanwhile, and whether anything is kept at all.

Two details make this less obvious than it sounds. Keys may be equal without
being identical, and an entry may have been loaded for another form of a key
than the one that finds it; so equal keys have to mean the same, which is asked
of the keys that are admitted and not of all. And a failing store has no sound
entries, so nothing that is kept can hide the failure.
-/

namespace Nomenclator.Cache

/-- What stands behind a cache: the keys that may be asked for, and the values
that a store has for them, unless it fails. Equal keys have equal values. -/
structure Reference (κ ν : Type) [BEq κ] where
  admits : κ → Prop
  values : StoreName → Except ResolveError (κ → Option ν)
  congr : ∀ {store f}, values store = .ok f → ∀ {k k'}, admits k → admits k' →
    (k == k') = true → f k = f k'

variable {κ ν : Type} [BEq κ]

/-- What may be kept for a key: the key is admitted, and this is its value. -/
def Reference.Right (ref : Reference κ ν) (store : StoreName) (k : κ) (v : Option ν) :
    Prop :=
  ref.admits k ∧ ∃ f, ref.values store = .ok f ∧ v = f k

/-- The value of a key is also that of the equal keys. -/
theorem Reference.fits (ref : Reference κ ν) {store : StoreName} {f : κ → Option ν}
    (hf : ref.values store = .ok f) {k : κ} (hk : ref.admits k) :
    Recency.Fits (ref.Right store) k (f k) := by
  refine ⟨⟨hk, f, hf, rfl⟩, fun x w hx hright => ?_⟩
  exact ⟨hright.1, f, hf, (ref.congr hf hright.1 hk hx).symm⟩

/-! ## Sound caches -/

namespace Recency

/-- Each entry is what stands behind the cache. -/
def Sound (ref : Reference κ ν) (store : StoreName) (r : Recency κ ν) : Prop :=
  ∀ e ∈ r, ref.admits e.1 ∧ ∃ f, ref.values store = .ok f ∧ e.2 = f e.1

end Recency

namespace Partitioned

/-- Each entry of each store is what stands behind the cache. -/
def Sound (ref : Reference κ ν) (c : Partitioned κ ν) : Prop :=
  ∀ e ∈ c.partitions, e.2.entries.Sound ref e.1

variable {ref : Reference κ ν} {c : Partitioned κ ν}

theorem sound_iff : c.Sound ref ↔ c.Only ref.Right := Iff.rfl

theorem sound_empty (id : String) (config : Config)
    (scope : Option (κ → ResourceId)) : (empty id config scope).Sound ref :=
  fun _ h => absurd h List.not_mem_nil

/-- What is read from a cache is the value of the key, and the store does not
fail. -/
theorem Sound.lookup (hc : c.Sound ref) (store : StoreName) {k : κ}
    (hk : ref.admits k) :
    (c.lookup store k).2.Sound ref ∧ ∀ v, (c.lookup store k).1 = some v →
      ∃ f, ref.values store = .ok f ∧ v = f k := by
  rw [sound_iff] at hc
  refine ⟨hc.lookup store k, fun v hv => ?_⟩
  obtain ⟨x, hx, hadmits, f, hf, hvalue⟩ := hc.of_lookup hv
  exact ⟨f, hf, hvalue.trans (ref.congr hf hadmits hk hx)⟩

theorem Sound.record (hc : c.Sound ref) {store : StoreName} {f : κ → Option ν}
    (hf : ref.values store = .ok f) (serial : Nat) {loaded : List (κ × Option ν)}
    (h : ∀ e ∈ loaded, ref.admits e.1 ∧ e.2 = f e.1) :
    (c.record store serial loaded).Sound ref := by
  refine sound_iff.2 ((sound_iff.1 hc).record fun _ e he => ?_)
  obtain ⟨hadmits, hvalue⟩ := h e he
  rw [hvalue]
  exact ref.fits hf hadmits

theorem sound_flush (c : Partitioned κ ν) : c.flush.Sound ref :=
  sound_iff.2 (only_flush c)

theorem Sound.flushStore (hc : c.Sound ref) (store : StoreName) :
    (c.flushStore store).Sound ref :=
  sound_iff.2 ((sound_iff.1 hc).flushStore store)

theorem Sound.forget (hc : c.Sound ref) (ids : List ResourceId) :
    (c.forget ids).Sound ref :=
  sound_iff.2 ((sound_iff.1 hc).forget ids)

/-! ## Requests

The first step of a request splits the keys into those that are kept and those
that are missing. `Fair` is what it has found when it is through with some of
the keys, and the induction over the others carries it along. -/

/-- What a survey has found after looking at some keys: what is kept for any of
them is its value, and all of them are either kept or missing. -/
structure Fair (ref : Reference κ ν) (store : StoreName) (seen : List κ)
    (found : Survey κ ν) : Prop where
  kept : ∀ e ∈ found.kept, e.1 ∈ seen ∧
    ∃ f, ref.values store = .ok f ∧ e.2 = .ofOption (f e.1)
  missing : ∀ k ∈ found.missing, k ∈ seen
  complete : ∀ k ∈ seen, found.kept.has k = true ∨
    found.missing.any (· == k) = true

variable {store : StoreName}

theorem fair_nil (serial : Nat) :
    Fair ref store [] (⟨serial, [], []⟩ : Survey κ ν) where
  kept _ h := absurd h List.not_mem_nil
  missing _ h := absurd h List.not_mem_nil
  complete _ h := absurd h List.not_mem_nil

theorem Fair.seen {seen : List κ} {found : Survey κ ν}
    (h : Fair ref store seen found) {k : κ}
    (hk : found.kept.has k = true ∨ found.missing.any (· == k) = true) :
    Fair ref store (seen ++ [k]) found where
  kept e he := ⟨List.mem_append_left _ (h.kept e he).1, (h.kept e he).2⟩
  missing k' hk' := List.mem_append_left _ (h.missing k' hk')
  complete k' hk' := by
    rcases List.mem_append.1 hk' with hk' | hk'
    · exact h.complete k' hk'
    · rw [List.mem_singleton.1 hk']
      exact hk

theorem Fair.keep [ReflBEq κ] {seen : List κ} {found : Survey κ ν}
    (h : Fair ref store seen found) (k : κ) {f : κ → Option ν}
    (hf : ref.values store = .ok f) :
    Fair ref store (seen ++ [k])
      { found with kept := found.kept ++ [(k, .ofOption (f k))] } where
  kept e he := by
    rcases List.mem_append.1 he with he | he
    · exact ⟨List.mem_append_left _ (h.kept e he).1, (h.kept e he).2⟩
    · rw [List.mem_singleton.1 he]
      exact ⟨List.mem_append_right _ (List.mem_singleton.2 rfl), f, hf, rfl⟩
  missing k' hk' := List.mem_append_left _ (h.missing k' hk')
  complete k' hk' := by
    have hhas : Table.has (found.kept ++ [(k, .ofOption (f k))]) k' =
        (found.kept.has k' || k == k') := by
      simp [Table.has]
    rcases List.mem_append.1 hk' with hk' | hk'
    · rcases h.complete k' hk' with hkept | hmissing
      · exact .inl (by rw [hhas, hkept, Bool.true_or])
      · exact .inr hmissing
    · rw [List.mem_singleton.1 hk'] at hhas ⊢
      exact .inl (by rw [hhas, BEq.rfl, Bool.or_true])

theorem Fair.miss [ReflBEq κ] {seen : List κ} {found : Survey κ ν}
    (h : Fair ref store seen found) (k : κ) :
    Fair ref store (seen ++ [k])
      { found with missing := found.missing ++ [k] } where
  kept e he := ⟨List.mem_append_left _ (h.kept e he).1, (h.kept e he).2⟩
  missing k' hk' := by
    rcases List.mem_append.1 hk' with hk' | hk'
    · exact List.mem_append_left _ (h.missing k' hk')
    · exact List.mem_append_right _ hk'
  complete k' hk' := by
    rcases List.mem_append.1 hk' with hk' | hk'
    · rcases h.complete k' hk' with hkept | hmissing
      · exact .inl hkept
      · exact .inr (by rw [List.any_append, hmissing, Bool.true_or])
    · rw [List.mem_singleton.1 hk']
      exact .inr (by simp)

/-- A survey of a sound cache is fair, and leaves the cache sound. -/
theorem Sound.surveyFrom [ReflBEq κ] (hc : c.Sound ref) {seen : List κ}
    {found : Survey κ ν} (hfound : Fair ref store seen found) {ks : List κ}
    (hks : ∀ k ∈ ks, ref.admits k) :
    Fair ref store (seen ++ ks) (surveyFrom store found c ks).1 ∧
      (surveyFrom store found c ks).2.Sound ref := by
  induction ks generalizing c seen found with
  | nil =>
      rw [List.append_nil]
      exact ⟨hfound, hc⟩
  | cons k ks ih =>
      have hrest : ∀ k' ∈ ks, ref.admits k' :=
        fun k' hk' => hks k' (List.mem_cons_of_mem k hk')
      rw [List.append_cons]
      unfold Partitioned.surveyFrom
      split
      · next hseen => exact ih hc (hfound.seen (Bool.or_eq_true_iff.1 hseen)) hrest
      · obtain ⟨hsound, hvalue⟩ := hc.lookup store (hks k List.mem_cons_self)
        split
        · next v c' hlook =>
            rw [hlook] at hsound hvalue
            obtain ⟨f, hf, rfl⟩ := hvalue v rfl
            exact ih hsound (hfound.keep k hf) hrest
        · next c' hlook =>
            rw [hlook] at hsound
            exact ih hsound (hfound.miss k) hrest

theorem Sound.survey [ReflBEq κ] (hc : c.Sound ref) (store : StoreName)
    {ks : List κ} (hks : ∀ k ∈ ks, ref.admits k) :
    Fair ref store ks (c.survey store ks).1 ∧ (c.survey store ks).2.Sound ref :=
  (sound_iff.2 ((sound_iff.1 hc).prepare store)).surveyFrom (fair_nil _) hks

end Partitioned

/-- What a load of some keys comes to: the failure of the store, or answers that
give every key its value. -/
inductive Reference.Loads (ref : Reference κ ν) (store : StoreName) (ks : List κ) :
    Except ResolveError (Answers κ ν) → Prop where
  | failed {e : ResolveError} :
      ref.values store = .error e → ref.Loads store ks (.error e)
  | loaded {f : κ → Option ν} {answers : Answers κ ν} :
      ref.values store = .ok f →
      (∀ k ∈ ks, Partitioned.loadedValue answers k = f k) →
      ref.Loads store ks (.ok answers)

/-- A load that fails exactly when the store does. -/
theorem Reference.Loads.of_map {χ : Type} {ref : Reference κ ν} {store : StoreName}
    {ks : List κ} {x : Except ResolveError χ} {value : χ → κ → Option ν}
    {answers : χ → Answers κ ν} (hvalues : ref.values store = x.map value)
    (h : ∀ a, x = .ok a → ∀ k ∈ ks, Partitioned.loadedValue (answers a) k = value a k) :
    ref.Loads store ks (x.map answers) := by
  cases x with
  | error e => exact .failed hvalues
  | ok a => exact .loaded hvalues (h a rfl)

/-- A loader that loads what stands behind a cache, whatever the state it meets,
and leaves such a state behind. -/
def Reference.Follows {σ : Type} (ref : Reference κ ν) (meets : σ → Prop)
    (loader : Loader σ κ ν) : Prop :=
  ∀ s, meets s → ∀ store ks, ks ≠ [] → (∀ k ∈ ks, ref.admits k) →
    ref.Loads store ks ((loader.loadAll store ks).run.run s).1 ∧
      meets ((loader.loadAll store ks).run.run s).2

/-- Answers for some keys and no others, each of them the value of its key. -/
structure Told (f : κ → Option ν) (ks : List κ) (answers : Answers κ ν) : Prop where
  values : ∀ e ∈ answers, e.1 ∈ ks ∧ e.2 = .ofOption (f e.1)
  complete : ∀ k ∈ ks, answers.has k = true

theorem Told.nil (f : κ → Option ν) : Told f [] [] where
  values _ h := absurd h List.not_mem_nil
  complete _ h := absurd h List.not_mem_nil

/-- What comes of a request for some keys. A store that fails is noticed only
when something is asked of it. -/
inductive Reference.Answered (ref : Reference κ ν) (store : StoreName)
    (ks : List κ) : Except ResolveError (Answers κ ν) → Prop where
  | nothing : ks = [] → ref.Answered store ks (.ok [])
  | failed {e : ResolveError} :
      ref.values store = .error e → ks ≠ [] → ref.Answered store ks (.error e)
  | told {f : κ → Option ν} {answers : Answers κ ν} :
      ref.values store = .ok f → Told f ks answers →
      ref.Answered store ks (.ok answers)

namespace Partitioned

variable {ref : Reference κ ν} {c : Partitioned κ ν} {store : StoreName}

theorem Fair.told {found : Survey κ ν} {ks : List κ}
    (h : Fair ref store ks found) {f : κ → Option ν}
    (hf : ref.values store = .ok f) {loaded : Answers κ ν}
    (hloaded : ∀ k ∈ found.missing, loadedValue loaded k = f k) :
    Told f ks (found.kept ++ found.missing.map fun k =>
      (k, .ofOption (loadedValue loaded k))) where
  values e he := by
    rcases List.mem_append.1 he with he | he
    · obtain ⟨hmem, f', hf', hvalue⟩ := h.kept e he
      rw [hf] at hf'
      rw [Except.ok.inj hf']
      exact ⟨hmem, hvalue⟩
    · obtain ⟨k, hk, rfl⟩ := List.mem_map.1 he
      exact ⟨h.missing k hk, congrArg Resolution.ofOption (hloaded k hk)⟩
  complete k hk := by
    unfold Table.has
    rw [List.any_append, Bool.or_eq_true_iff]
    refine (h.complete k hk).imp (fun hkept => hkept) fun hmissing => ?_
    rw [List.any_map]
    exact hmissing

/-- Without a value to be kept, everything is missing. -/
theorem Fair.nil_of_error {found : Survey κ ν} {ks : List κ}
    (h : Fair ref store ks found) {e : ResolveError}
    (he : ref.values store = .error e) (hmissing : found.missing = []) :
    ks = [] ∧ found.kept = [] := by
  have hkept : found.kept = [] := by
    refine List.eq_nil_iff_forall_not_mem.2 fun x hx => ?_
    obtain ⟨-, f, hf, -⟩ := h.kept x hx
    rw [he] at hf
    cases hf
  refine ⟨List.eq_nil_iff_forall_not_mem.2 fun k hk => ?_, hkept⟩
  have hcomplete := h.complete k hk
  rw [hkept, hmissing] at hcomplete
  simp [Table.has] at hcomplete

/-- A request to a sound cache is answered as the loader would answer it, and
leaves the cache sound. -/
theorem Sound.getAllOrLoad [ReflBEq κ] {σ : Type} {meets : σ → Prop}
    {loader : Loader σ κ ν} (hc : c.Sound ref) (hloader : ref.Follows meets loader)
    (store : StoreName) {ks : List κ} (hks : ∀ k ∈ ks, ref.admits k) {s : σ}
    (hs : meets s) :
    ref.Answered store ks ((c.getAllOrLoad loader store ks).run s).1.1 ∧
      ((c.getAllOrLoad loader store ks).run s).1.2.Sound ref ∧
      meets ((c.getAllOrLoad loader store ks).run s).2 := by
  obtain ⟨hfair, hsound⟩ := hc.survey store hks
  rw [run_getAllOrLoad]
  generalize c.survey store ks = p at hfair hsound
  obtain ⟨found, c'⟩ := p
  dsimp only at hfair hsound ⊢
  by_cases hmissing : found.missing = []
  · rw [if_pos (List.isEmpty_iff.2 hmissing)]
    refine ⟨?_, hsound, hs⟩
    -- The loader is not asked, so a store that fails had better be out of the question.
    cases hvalues : ref.values store with
    | error e =>
        obtain ⟨hks, hkept⟩ := hfair.nil_of_error hvalues hmissing
        rw [hkept]
        exact .nothing hks
    | ok f =>
        have hnone : ∀ k ∈ found.missing, loadedValue [] k = f k := by
          simp [hmissing]
        have htold := hfair.told hvalues hnone
        rw [hmissing, List.map_nil, List.append_nil] at htold
        exact .told hvalues htold
  · rw [if_neg fun h => hmissing (List.isEmpty_iff.1 h)]
    have hadmits : ∀ k ∈ found.missing, ref.admits k :=
      fun k hk => hks k (hfair.missing k hk)
    obtain ⟨hload, hmeets⟩ := hloader s hs store found.missing hmissing hadmits
    generalize (loader.loadAll store found.missing).run.run s = out at hload hmeets
    obtain ⟨r, s'⟩ := out
    cases hload with
    | failed hvalues =>
        obtain ⟨k, hk⟩ := List.exists_mem_of_ne_nil _ hmissing
        have hne : ks ≠ [] := List.ne_nil_of_mem (hfair.missing k hk)
        exact ⟨.failed hvalues hne, hsound, hmeets⟩
    | loaded hvalues hvalue =>
        refine ⟨.told hvalues ?_, hsound.record hvalues _ ?_, hmeets⟩
        · rw [List.map_map]
          exact hfair.told hvalues hvalue
        · intro e he
          obtain ⟨k, hk, rfl⟩ := List.mem_map.1 he
          exact ⟨hadmits k hk, hvalue k hk⟩

end Partitioned

end Nomenclator.Cache
