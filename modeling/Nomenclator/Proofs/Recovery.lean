import Nomenclator.Proofs.Retention

/-!
# A load that fails leaves no trace

When a load fails, the request for it is half done: keys were looked up, entries have
come to the front, and part of the answer was at hand. All of this happened in the
first step of the request, which neither records nor drops anything. It only changes
the order of one list, and perhaps makes an empty one; whatever could be seen of the
cache can be seen as before. The second step, which might push entries out, is not
taken at all.

The same request can therefore be made again. It finds the same keys kept and the same
keys lacking, asks for the same load, and is told what it would have been told in the
first place.
-/

namespace Nomenclator.Cache

variable {κ ν : Type} [BEq κ]

/-! ## Reading drops nothing -/

namespace Recency

variable {r : Recency κ ν}

theorem perm_touch [EquivBEq κ] (h : Unrepeated r.keys) (k : κ) : (r.touch k).Perm r := by
  cases hfind : r.find? k with
  | none => rw [touch_of_absent hfind]
  | some e =>
      rw [touch_of_find? hfind]
      obtain ⟨hkey, before, after, rfl, hbefore⟩ := List.find?_eq_some_iff_append.1 hfind
      have hafter : ∀ x ∈ after, (!(x.1 == k)) = true := by
        intro x hx
        have hsplit := h
        rw [keys, List.map_append, unrepeated_append] at hsplit
        have hother := (List.pairwise_cons.1 hsplit.2.1).1 x.1 (List.mem_map_of_mem hx)
        rw [BEq.congr_left hkey, BEq.comm] at hother
        rw [hother]
        rfl
      unfold without
      rw [List.filter_append, List.filter_eq_self.2 hbefore,
        List.filter_cons_of_neg (by simp [hkey]), List.filter_eq_self.2 hafter]
      exact List.perm_middle.symm

theorem perm_foldl_touch [EquivBEq κ] (h : Unrepeated r.keys) (ks : List κ) :
    List.Perm (ks.foldl touch r) r := by
  induction ks generalizing r with
  | nil => exact .refl r
  | cons k ks ih =>
      have hperm := perm_touch h k
      exact (ih (h.perm (hperm.map _).symm)).trans hperm

theorem perm_promoted [EquivBEq κ] (h : Unrepeated r.keys) {ks : List κ}
    (hks : Unrepeated ks) : (r.promoted ks).Perm r :=
  foldl_touch r hks ▸ perm_foldl_touch h ks

end Recency

/-! ## What a failure leaves -/

namespace Partitioned

variable {config : Config} {c c' : Partitioned κ ν} {store : StoreName}

/-- All that can be seen of a cache is as it was, and every store has as many entries.
In the list of one store, those of some keys have moved to the front in the order of the
keys, and the store may have got a partition. -/
structure Spared (store : StoreName) (ks : List κ) (c c' : Partitioned κ ν) : Prop where
  peek : ∀ name k, c'.peek name k = c.peek name k
  size : ∀ name, c'.size name = c.size name
  order : c'.entries store = (c.entries store).promoted (distinct ks)
  others : ∀ name, name ≠ store → c'.entries name = c.entries name
  partitions : (c.prepare store).Alike c'

theorem Fits.spared [EquivBEq κ] (h : c.Fits config) (store : StoreName) (ks : List κ) :
    Spared store ks c (c.survey store ks).2 := by
  have horder := h.entries_survey store ks
  have hothers := (c.confined_survey store ks).others
  refine ⟨c.peek_survey store ks, fun name => ?_, horder, hothers, c.alike_survey store ks⟩
  unfold size
  by_cases hname : name = store
  · rw [hname, horder]
    exact (Recency.perm_promoted (h.lists store).apart (distinct_unrepeated ks)).length_eq
  · rw [hothers name hname]

/-! ## The same request again -/

theorem lacking_survey [EquivBEq κ] (c : Partitioned κ ν) (store : StoreName)
    (ks : List κ) : (c.survey store ks).2.lacking store ks = c.lacking store ks := by
  unfold lacking
  simp only [(c.surveyed store ks).finds]

theorem told_survey [EquivBEq κ] (c : Partitioned κ ν) (store : StoreName) (ks : List κ)
    (loaded : Answers κ ν) :
    (c.survey store ks).2.told store ks loaded = c.told store ks loaded := by
  have hfinds : (c.survey store ks).2.finds store = c.finds store :=
    funext (c.surveyed store ks).finds
  have hpeek : (c.survey store ks).2.peek store = c.peek store :=
    funext (c.surveyed store ks).peek
  unfold told
  rw [lacking_survey, hfinds, hpeek]

variable {σ : Type} {loader : Loader σ κ ν}

theorem survey_of_error [EquivBEq κ] {ks : List κ} {s s' : σ} {e : ResolveError}
    (hrun : (c.getAllOrLoad loader store ks).run s = ((.error e, c'), s')) :
    c' = (c.survey store ks).2 ∧ c.lacking store ks ≠ [] := by
  rw [run_getAllOrLoad_split] at hrun
  split at hrun
  · cases hrun
  · next hlacking =>
      refine ⟨?_, fun h => hlacking (List.isEmpty_iff.2 h)⟩
      split at hrun
      · cases hrun
        rfl
      · cases hrun

theorem repeated_after_survey [EquivBEq κ] {ks : List κ} (hlacking : c.lacking store ks ≠ [])
    {s s' : σ} {loaded : Answers κ ν}
    (hload : (loader.loadAll store (c.lacking store ks)).run.run s = (.ok loaded, s')) :
    ∃ answers c', ((c.survey store ks).2.getAllOrLoad loader store ks).run s =
        ((.ok answers, c'), s') ∧
      c.Complete store ks loaded answers := by
  have hrun := (c.survey store ks).2.run_getAllOrLoad_split loader store ks s
  rw [lacking_survey, if_neg fun h => hlacking (List.isEmpty_iff.1 h), hload] at hrun
  dsimp only at hrun
  rw [told_survey] at hrun
  exact ⟨_, _, hrun, c.complete_told store ks loaded⟩

/-- A request of one key for which nothing is kept is its load. -/
theorem run_getOrLoad_of_not_finds [EquivBEq κ] {k : κ} (hlacks : c.finds store k = false)
    {s s' : σ} {outcome : Except LoadError ν}
    (hload : (loader.load store k).run s = (outcome, s')) :
    ((c.getOrLoad loader store k).run s).1.1 = outcome.toOption ∧
      ((c.getOrLoad loader store k).run s).2 = s' ∧
      ((∃ m, outcome = .error (.failed m)) →
        ((c.getOrLoad loader store k).run s).1.2 = (c.survey store [k]).2) := by
  have hkept : (c.survey store [k]).1.kept.get? k = none := by
    rw [(c.surveyed store [k]).kept]
    show Table.get? (([k].filter (c.finds store)).map _) k = none
    rw [List.filter_cons_of_neg (by simp [hlacks])]
    rfl
  rw [run_getOrLoad, hkept, hload]
  rcases outcome with (_ | m) | v
  · exact ⟨rfl, rfl, nofun⟩
  · exact ⟨rfl, rfl, fun _ => rfl⟩
  · exact ⟨rfl, rfl, nofun⟩

end Partitioned

namespace Usage

/-- Whatever has happened to a cache: a request that fails spares it, whether it is for
several keys or for one, and as soon as the load succeeds, the same request is told
everything, the keys that were kept in the beginning included. -/
theorem live_spared [EquivBEq κ] {σ : Type} (loader : Loader σ κ ν) (id : String)
    (config : Config) (scope : Option (κ → ResourceId)) (source : σ)
    (events : List (Event κ ν)) (store : StoreName) :
    let c := ((start id config scope source).live loader events).cache
    (∀ ks s s' e c', (c.getAllOrLoad loader store ks).run s = ((.error e, c'), s') →
      c.Spared store ks c' ∧
      ∀ s₁ s₂ loaded,
        (loader.loadAll store (c.lacking store ks)).run.run s₁ = (.ok loaded, s₂) →
        ∃ answers c'', (c'.getAllOrLoad loader store ks).run s₁ =
            ((.ok answers, c''), s₂) ∧
          c.Complete store ks loaded answers) ∧
    ∀ k s s' m, c.finds store k = false →
      (loader.load store k).run s = (.error (.failed m), s') →
      ∃ c', (c.getOrLoad loader store k).run s = ((none, c'), s') ∧
        c.Spared store [k] c' ∧
        ∀ s₁ s₂ outcome, (loader.load store k).run s₁ = (outcome, s₂) →
          ∃ c'', (c'.getOrLoad loader store k).run s₁ = ((outcome.toOption, c''), s₂) := by
  intro c
  have hfits : c.Fits config := fits_live (fits_start id config scope source) loader events
  refine ⟨fun ks s s' e c' hrun => ?_, fun k s s' m hlacks hload => ?_⟩
  · obtain ⟨rfl, hlacking⟩ := Partitioned.survey_of_error hrun
    exact ⟨hfits.spared store ks, fun s₁ s₂ loaded hload =>
      Partitioned.repeated_after_survey hlacking hload⟩
  · obtain ⟨hvalue, hstate, hcache⟩ := Partitioned.run_getOrLoad_of_not_finds hlacks hload
    refine ⟨(c.survey store [k]).2, ?_, hfits.spared store [k],
      fun s₁ s₂ outcome hagain => ?_⟩
    · exact Prod.ext (Prod.ext hvalue (hcache ⟨m, rfl⟩)) hstate
    · have hstill : (c.survey store [k]).2.finds store k = false :=
        ((c.surveyed store [k]).finds k).trans hlacks
      obtain ⟨hvalue', hstate', -⟩ := Partitioned.run_getOrLoad_of_not_finds hstill hagain
      exact ⟨_, Prod.ext (Prod.ext hvalue' rfl) hstate'⟩

/-- The list is full with the vase in front of the bowl, and the source is down while the
bowl and the cup are asked for: the bowl has come to the front, and that is all. When
the source is up again, both are told. -/
theorem live_spared_source_down :
    let key : ResourceId → Key := fun id => ⟨id, ⟨.none, []⟩⟩
    let loader : Loader Bool Key String := {
      load := fun _ k up => (if up then .ok k.resource else .error (.failed "down"), up)
      loadAll := fun _ ks up =>
        (if up then .ok (ks.map fun k => (k, .found k.resource))
          else .error (.worker "down"), up) }
    let config : Config := { perStoreLimit := 2 }
    let events : List (Event Key String) :=
      [.use (.get "s" (key "urn:bowl")), .use (.get "s" (key "urn:vase"))]
    let c := ((start "texts" config none true).live loader events).cache
    let ks := [key "urn:bowl", key "urn:cup"]
    Recency.keys (c.entries "s") = [key "urn:vase", key "urn:bowl"] ∧
    (∃ c', (c.getAllOrLoad loader "s" ks).run false =
        ((.error (.worker "down"), c'), false) ∧
      c.Spared "s" ks c' ∧
      Recency.keys (c'.entries "s") = [key "urn:bowl", key "urn:vase"] ∧
      ∃ loaded answers c'', (c'.getAllOrLoad loader "s" ks).run true =
          ((.ok answers, c''), true) ∧
        c.Complete "s" ks loaded answers) ∧
    ∃ c', (c.getOrLoad loader "s" (key "urn:cup")).run false = ((none, c'), false) ∧
      c.Spared "s" [key "urn:cup"] c' ∧
      ∃ c'', (c'.getOrLoad loader "s" (key "urn:cup")).run true =
        ((some "urn:cup", c''), true) := by
  intro key loader config events c ks
  obtain ⟨hseveral, hone⟩ := live_spared loader "texts" config none true events "s"
  have hentries : c.entries "s" =
    [(key "urn:vase", some "urn:vase"), (key "urn:bowl", some "urn:bowl")] := by rfl
  have hlacking : c.lacking "s" ks = [key "urn:cup"] := by
    unfold Partitioned.lacking Partitioned.finds Partitioned.peek
    rw [hentries]
    rfl
  have hlacks : c.finds "s" (key "urn:cup") = false := by decide
  refine ⟨congrArg Recency.keys hentries, ?_, ?_⟩
  · have hrun := c.run_getAllOrLoad_split loader "s" ks false
    have hload : (loader.loadAll "s" [key "urn:cup"]).run.run false =
      (.error (.worker "down"), false) := rfl
    rw [hlacking, if_neg nofun, hload] at hrun
    obtain ⟨hspared, hagain⟩ := hseveral ks _ _ _ _ hrun
    refine ⟨_, hrun, hspared, ?_, ?_⟩
    · rw [hspared.order, hentries]
      rfl
    obtain ⟨answers, c'', hrun', hcomplete⟩ :=
      hagain true true [(key "urn:cup", .found "urn:cup")] (by rw [hlacking]; rfl)
    exact ⟨_, answers, c'', hrun', hcomplete⟩
  · obtain ⟨c', hrun, hspared, hagain⟩ := hone (key "urn:cup") false false "down" hlacks rfl
    exact ⟨c', hrun, hspared, hagain true true (.ok "urn:cup") rfl⟩

end Usage

end Nomenclator.Cache
