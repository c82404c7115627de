import Nomenclator.Proofs.Capacity
import Nomenclator.Proofs.Completeness
import Nomenclator.Proofs.Effect

/-!
# A request that fits is kept

A request of several keys reads what the list of its store has, which moves these
entries to the front, and afterwards records what was loaded, key by key. The list may
have been full from the beginning, and then every record pushes an entry out. It is
never one of the request: all that was read stands in front of all that was not, and
what is recorded comes to stand in front of both. So the list after a request is what
was recorded, what was read and the rest, one behind the other, cut off where the room
ends; and if there is room for the request, then the cut goes through the rest.

What was told is therefore there afterwards, entry by entry, and the same request,
with its keys in any order, finds all of it.
-/

namespace Nomenclator.Cache

variable {κ ν : Type} [BEq κ]

/-! ## Reading and recording in a list -/

namespace Recency

variable {r : Recency κ ν} {k : κ}

/-- In a list that names no key twice, any entry under an equal key is the entry of
the key. -/
theorem find?_of_mem [EquivBEq κ] (h : Unrepeated r.keys) {e : κ × Option ν} (he : e ∈ r)
    (hkey : (e.1 == k) = true) : r.find? k = some e := by
  induction r with
  | nil => exact absurd he List.not_mem_nil
  | cons x r ih =>
      obtain ⟨hx, hr⟩ := List.pairwise_cons.1 h
      rw [find?_front]
      rcases List.mem_cons.1 he with rfl | he
      · rw [if_pos hkey]
      · have hother : (x.1 == e.1) = false := hx e.1 (List.mem_map_of_mem he)
        rw [if_neg, ih hr he]
        exact fun hxk => Bool.eq_false_iff.1 hother (BEq.trans hxk (BEq.symm hkey))

/-- The list after some different keys were read: the entries that were found stand in
front, the last one before all others, and the rest behind them as it was. -/
def promoted (r : Recency κ ν) (ks : List κ) : Recency κ ν :=
  (ks.filterMap r.find?).reverse ++ r.filter fun e => !ks.any (· == e.1)

theorem promoted_nil (ks : List κ) : promoted ([] : Recency κ ν) ks = [] := by
  simp [promoted, find?]

theorem foldl_touch [EquivBEq κ] (r : Recency κ ν) {ks : List κ} (h : Unrepeated ks) :
    ks.foldl touch r = r.promoted ks := by
  induction ks generalizing r with
  | nil => exact (List.filter_eq_self.2 fun _ _ => rfl).symm
  | cons k ks ih =>
      obtain ⟨hk, hks⟩ := List.pairwise_cons.1 h
      have hfind : (r.touch k).find? = r.find? := funext (r.find?_touch k)
      rw [List.foldl_cons, ih (r.touch k) hks]
      unfold promoted
      rw [hfind]
      cases hkept : r.find? k with
      | none =>
          rw [touch_of_absent hkept, List.filterMap_cons_none hkept]
          congr 1
          refine List.filter_congr fun e he => ?_
          have hother := List.find?_eq_none.1 hkept e he
          rw [List.any_cons, BEq.comm, Bool.eq_false_iff.2 hother, Bool.false_or]
      | some e =>
          -- The entry is not read a second time, so it stays behind those read later.
          have hlater : ks.any (· == e.1) = false := by
            rw [List.any_eq_false]
            intro x hx hxe
            have hxk := BEq.trans hxe (mem_of_find? hkept).2
            exact Bool.eq_false_iff.1 (hk x hx) (BEq.symm hxk)
          rw [touch_of_find? hkept, List.filterMap_cons_some hkept, List.reverse_cons,
            List.append_assoc, List.singleton_append,
            List.filter_cons_of_pos (by simp [hlater]), without, List.filter_filter]
          congr 2
          refine List.filter_congr fun x _ => ?_
          rw [List.any_cons, BEq.comm (a := k), Bool.not_or, Bool.and_comm]

/-- New keys come to stand in front, the last one before all others, and what there is
no room for is gone. -/
theorem foldl_push [EquivBEq κ] {capacity : Nat} (hcapacity : 1 ≤ capacity)
    (hroom : r.length ≤ capacity) {fresh : List (κ × Option ν)}
    (hapart : Unrepeated (fresh.map (·.1))) (habsent : ∀ e ∈ fresh, r.find? e.1 = none) :
    fresh.foldl (fun r e => (r.push capacity e.1 e.2).2) r =
      (fresh.reverse ++ r).take capacity := by
  induction fresh generalizing r with
  | nil => exact (List.take_of_length_le hroom).symm
  | cons e fresh ih =>
      obtain ⟨he, hfresh⟩ := List.pairwise_cons.1 hapart
      have hpush := push_of_absent hcapacity hroom (habsent e List.mem_cons_self) e.2
      have hstill : ∀ e' ∈ fresh, find? ((e :: r).take capacity) e'.1 = none := by
        intro e' he'
        refine List.find?_eq_none.2 fun x hx => ?_
        rcases List.mem_cons.1 (List.mem_of_mem_take hx) with rfl | hx
        · exact Bool.eq_false_iff.1 (he e'.1 (List.mem_map_of_mem he'))
        · exact List.find?_eq_none.1 (habsent e' (List.mem_cons_of_mem e he')) x hx
      rw [List.foldl_cons, hpush, ih (List.length_take_le _ _) hfresh hstill,
        List.reverse_cons, List.append_assoc, List.singleton_append, List.take_append,
        List.take_append, List.take_take, Nat.min_eq_left (Nat.sub_le _ _)]

end Recency

/-! ## Requests -/

namespace Partitioned

variable {config : Config} {c c' : Partitioned κ ν} {store : StoreName}

theorem finds_eq (henabled : c.config.enabled = true) (store : StoreName) (k : κ) :
    c.finds store k = ((c.entries store).find? k).isSome := by
  unfold finds peek Recency.peek?
  rw [henabled]
  rcases (c.entries store).find? k with _ | ⟨x, _ | v⟩ <;> rfl

theorem peek_of_find? {k : κ} {e : κ × Option ν} (h : (c.entries store).find? k = some e) :
    c.peek store k = .ofOption e.2 := by
  unfold peek Recency.peek?
  rw [h]
  rfl

theorem Fits.peek_of_mem [EquivBEq κ] (h : c.Fits config) {x k : κ} {v : Option ν}
    (hmem : (x, v) ∈ c.entries store) (hkey : (x == k) = true) :
    c.peek store k = .ofOption v :=
  peek_of_find? (Recency.find?_of_mem (h.lists store).apart hmem hkey)

theorem Fits.entries_survey [EquivBEq κ] (h : c.Fits config) (store : StoreName)
    (ks : List κ) :
    (c.survey store ks).2.entries store = (c.entries store).promoted (distinct ks) := by
  rw [(c.surveyed store ks).entries]
  split
  · exact Recency.foldl_touch _ (distinct_unrepeated ks)
  · next hoff =>
      rw [(h.lists store).off (h.settings ▸ Bool.eq_false_iff.2 hoff), Recency.promoted_nil]

/-- What was recorded, what was read, and the rest, cut off where the room ends. -/
theorem Fits.entries_recorded [EquivBEq κ] (h : c.Fits config)
    (henabled : config.enabled = true) (store : StoreName) (ks : List κ)
    (loaded : Answers κ ν) :
    ((c.survey store ks).2.record store (c.survey store ks).1.serial
        (c.brought store ks loaded)).entries store =
      ((c.brought store ks loaded).reverse ++
        (c.entries store).promoted (distinct ks)).take config.capacity := by
  have hsurveyed := c.surveyed store ks
  have hsettings : (c.survey store ks).2.config = config := hsurveyed.config.trans h.settings
  have hroom := ((h.confined (c.confined_survey store ks)).lists store).room
  have hkeys : (c.brought store ks loaded).map (·.1) = c.lacking store ks := by
    simp [brought, Function.comp_def]
  have hapart : Unrepeated (c.lacking store ks) :=
    (distinct_unrepeated ks).sublist List.filter_sublist
  have habsent : ∀ e ∈ c.brought store ks loaded,
      Recency.find? ((c.survey store ks).2.entries store) e.1 = none := by
    intro e he
    have hlacks : e.1 ∈ c.lacking store ks := hkeys ▸ List.mem_map_of_mem he
    have hfinds : (c.survey store ks).2.finds store e.1 = false :=
      (hsurveyed.finds e.1).trans (by simpa using (List.mem_filter.1 hlacks).2)
    rw [finds_eq (hsettings ▸ henabled)] at hfinds
    simpa using hfinds
  rw [entries_record _ (c.serial_survey store ks), hsettings, if_pos henabled,
    Recency.foldl_push config.capacity_pos hroom (hkeys ▸ hapart) habsent,
    h.entries_survey store ks]

theorem Fits.of_run [EquivBEq κ] (h : c.Fits config) {σ : Type} {loader : Loader σ κ ν}
    {ks : List κ} {s s' : σ} {r : Except ResolveError (Answers κ ν)}
    (hrun : (c.getAllOrLoad loader store ks).run s = ((r, c'), s')) : c'.Fits config := by
  have hconfined := c.confined_getAllOrLoad loader store ks s
  rw [hrun] at hconfined
  exact h.confined hconfined

/-- The list of a store after a request that succeeded. -/
theorem Fits.entries_getAllOrLoad [EquivBEq κ] (h : c.Fits config)
    (henabled : config.enabled = true) {σ : Type} {loader : Loader σ κ ν} {ks : List κ}
    {s s' : σ} {answers : Answers κ ν}
    (hrun : (c.getAllOrLoad loader store ks).run s = ((.ok answers, c'), s')) :
    ∃ loaded, answers = c.told store ks loaded ∧
      c'.entries store = ((c.brought store ks loaded).reverse ++
        (c.entries store).promoted (distinct ks)).take config.capacity := by
  rw [run_getAllOrLoad_split] at hrun
  split at hrun
  · next hnone =>
      have hbrought : c.brought store ks [] = [] := by
        rw [brought, List.isEmpty_iff.1 hnone, List.map_nil]
      have hroom := ((h.confined (c.confined_survey store ks)).lists store).room
      cases hrun
      refine ⟨[], rfl, ?_⟩
      rw [h.entries_survey] at hroom ⊢
      rw [hbrought]
      exact (List.take_of_length_le hroom).symm
  · split at hrun
    · cases hrun
    · next loaded s'' _ =>
        cases hrun
        exact ⟨loaded, rfl, h.entries_recorded henabled store ks loaded⟩

/-! ## Requests that fit -/

theorem length_requested (henabled : c.config.enabled = true) (store : StoreName)
    (ks : List κ) (loaded : Answers κ ν) :
    (c.brought store ks loaded).length +
        ((distinct ks).filterMap (c.entries store).find?).length =
      (distinct ks).length := by
  have hsplit := (List.filter_append_perm (c.finds store) (distinct ks)).length_eq
  have hread : ((distinct ks).filterMap (c.entries store).find?).length =
      ((distinct ks).filter (c.finds store)).length := by
    rw [List.length_filterMap_eq_countP, List.countP_eq_length_filter]
    congr 2
    exact funext fun k => (finds_eq henabled store k).symm
  rw [List.length_append] at hsplit
  rw [brought, List.length_map, lacking, hread]
  omega

/-- Whatever is told is there afterwards, if there is room for it. -/
theorem Fits.get?_eq_peek [EquivBEq κ] (h : c.Fits config)
    (henabled : config.enabled = true) {σ : Type} {loader : Loader σ κ ν} {ks : List κ}
    (hroom : (distinct ks).length ≤ config.capacity) {s s' : σ} {answers : Answers κ ν}
    (hrun : (c.getAllOrLoad loader store ks).run s = ((.ok answers, c'), s')) {k : κ}
    (hk : k ∈ ks) : answers.get? k = some (c'.peek store k) := by
  have hon : c.config.enabled = true := h.settings ▸ henabled
  have hfits := h.of_run hrun
  obtain ⟨loaded, rfl, hentries⟩ := h.entries_getAllOrLoad henabled hrun
  have hlength := length_requested hon store ks loaded
  -- The cut goes through what was neither recorded nor read.
  have hkept : ∀ e, e ∈ c.brought store ks loaded ∨
      e ∈ (distinct ks).filterMap (c.entries store).find? → e ∈ c'.entries store := by
    intro e he
    rw [hentries, Recency.promoted, ← List.append_assoc, List.take_append,
      List.take_of_length_le (by simp only [List.length_append, List.length_reverse]; omega)]
    exact List.mem_append_left _ (by simpa using he)
  obtain ⟨x, hx, hxk⟩ := List.any_eq_true.1 (any_distinct_of_mem hk)
  rw [c.get?_told_of_mem store loaded hk]
  cases hfinds : c.finds store k with
  | true =>
      rw [finds_eq hon, Option.isSome_iff_exists] at hfinds
      obtain ⟨e, he⟩ := hfinds
      have hread : e ∈ (distinct ks).filterMap (c.entries store).find? :=
        List.mem_filterMap.2 ⟨x, hx, (Recency.find?_congr hxk).trans he⟩
      rw [if_pos rfl, peek_of_find? he,
        hfits.peek_of_mem (hkept e (.inr hread)) (Recency.mem_of_find? he).2]
  | false =>
      have hlacks : x ∈ c.lacking store ks :=
        List.mem_filter.2 ⟨hx, by rw [c.finds_congr store hxk, hfinds]; rfl⟩
      have hbrought : (x, loadedValue loaded x) ∈ c.brought store ks loaded :=
        List.mem_map_of_mem hlacks
      rw [if_neg Bool.false_ne_true, hfits.peek_of_mem (hkept _ (.inl hbrought)) hxk,
        loadedValue_congr loaded hxk]

/-- A request that finds everything asks nobody. -/
theorem run_getAllOrLoad_of_finds [EquivBEq κ] {σ : Type} (loader : Loader σ κ ν)
    {ks : List κ} (hfinds : ∀ k ∈ ks, c.finds store k = true) (s : σ) :
    (c.getAllOrLoad loader store ks).run s =
      ((.ok (c.told store ks []), (c.survey store ks).2), s) := by
  have hnone : c.lacking store ks = [] := by
    refine List.filter_eq_nil_iff.2 fun k hk => ?_
    simp [hfinds k (mem_of_mem_distinct hk)]
  rw [run_getAllOrLoad_split, hnone]
  rfl

/-- If what was told is there, then the same request is told the same. -/
theorem Fits.repeated [EquivBEq κ] (h : c.Fits config) (henabled : config.enabled = true)
    {σ : Type} {loader : Loader σ κ ν} {ks ks' : List κ} {s s' : σ} {answers : Answers κ ν}
    (hrun : (c.getAllOrLoad loader store ks).run s = ((.ok answers, c'), s'))
    (hseen : ∀ k ∈ ks, answers.get? k = some (c'.peek store k))
    (hsame : ∀ k, ks'.any (· == k) = ks.any (· == k)) :
    ∃ answers' c'', (c'.getAllOrLoad loader store ks').run s' = ((.ok answers', c''), s') ∧
      ∀ k, answers'.get? k = answers.get? k := by
  have hon : c'.config.enabled = true := (h.of_run hrun).settings ▸ henabled
  obtain ⟨loaded, rfl, -⟩ := h.entries_getAllOrLoad henabled hrun
  have hequal : ∀ k, ks.any (· == k) = true →
      c'.finds store k = true ∧ (c.told store ks loaded).get? k = some (c'.peek store k) := by
    intro k hk
    obtain ⟨x, hx, hxk⟩ := List.any_eq_true.1 hk
    have htold := hseen x hx
    rw [Table.get?_congr _ hxk, c'.peek_congr store hxk] at htold
    obtain ⟨y, hy, -⟩ := Table.mem_of_get? htold
    exact ⟨finds_iff.2 ⟨hon, (c.complete_told store ks loaded).known _ hy⟩, htold⟩
  have hfinds : ∀ k ∈ ks', c'.finds store k = true :=
    fun k hk => (hequal k (hsame k ▸ any_of_mem hk)).1
  refine ⟨_, _, run_getAllOrLoad_of_finds loader hfinds s', fun k => ?_⟩
  rw [get?_told, hsame]
  cases hk : ks.any (· == k) with
  | true =>
      obtain ⟨hfinds, htold⟩ := hequal k hk
      rw [if_pos rfl, if_pos hfinds, htold]
  | false => rw [if_neg Bool.false_ne_true, get?_told, hk, if_neg Bool.false_ne_true]

end Partitioned

namespace Usage

/-- Whatever has happened to a cache that is switched on: if a request succeeds that
names no more different keys than there is room for, then all it was told can be seen
directly afterwards, and a request of the same keys, in any order and in any form, is
told the same without a load. -/
theorem live_retained [EquivBEq κ] {σ : Type} (loader : Loader σ κ ν) (id : String)
    {config : Config} (henabled : config.enabled = true) (scope : Option (κ → ResourceId))
    (source : σ) (events : List (Event κ ν)) (store : StoreName) {ks : List κ}
    (hroom : (distinct ks).length ≤ max config.perStoreLimit 1) :
    let c := ((start id config scope (source, [])).live (watched loader) events).cache
    ∀ s s' answers c',
      (c.getAllOrLoad (watched loader) store ks).run s = ((.ok answers, c'), s') →
      (∀ k ∈ ks, answers.get? k = some (c'.peek store k)) ∧
      ∀ ks', (∀ k, ks'.any (· == k) = ks.any (· == k)) → ∃ answers' c'',
        (c'.getAllOrLoad (watched loader) store ks').run s' =
          ((.ok answers', c''), s') ∧
        ∀ k, answers'.get? k = answers.get? k := by
  intro c s s' answers c' hrun
  have hfits : c.Fits config :=
    fits_live (fits_start id config scope (source, [])) (watched loader) events
  have hseen : ∀ k ∈ ks, answers.get? k = some (c'.peek store k) :=
    fun k hk => hfits.get?_eq_peek henabled hroom hrun hk
  refine ⟨hseen, fun ks' hsame => ?_⟩
  exact hfits.repeated henabled hrun hseen hsame

/-- There is room for two, the bowl and the vase are there, and the vase and the cup are
asked for: the bowl has to go. -/
theorem live_retained_full_list :
    let key : ResourceId → List Language.Tag → Key := fun id fallbacks =>
      ⟨id, ⟨.none, fallbacks⟩⟩
    let loader : Loader Unit Key String := {
      load := fun _ k => pure (.ok k.resource)
      loadAll := fun _ ks => pure (ks.map fun k => (k, .found k.resource)) }
    let config : Config := { perStoreLimit := 2 }
    let events : List (Event Key String) :=
      [.use (.get "s" (key "urn:bowl" [])), .use (.get "s" (key "urn:vase" []))]
    let c := ((start "texts" config none ((), [])).live (watched loader) events).cache
    let ks := [key "urn:vase" [.none], key "urn:cup" []]
    let ks' := [key "urn:cup" [], key "urn:vase" []]
    config.enabled = true ∧ (distinct ks).length ≤ max config.perStoreLimit 1 ∧
    (∀ k, ks'.any (· == k) = ks.any (· == k)) ∧
    ∃ answers c' s',
      (c.getAllOrLoad (watched loader) "s" ks).run ((), []) = ((.ok answers, c'), s') ∧
      (∀ k ∈ ks, answers.get? k = some (c'.peek "s" k)) ∧
      c'.peek "s" (key "urn:bowl" []) = .unknown ∧
      ∃ answers' c'',
        (c'.getAllOrLoad (watched loader) "s" ks').run s' = ((.ok answers', c''), s') ∧
        ∀ k, answers'.get? k = answers.get? k := by
  intro key loader config events c ks ks'
  have henabled : config.enabled = true := rfl
  have hsame : ∀ k, ks'.any (· == k) = ks.any (· == k) := by
    intro k
    have hform : (key "urn:vase" [] == key "urn:vase" [.none]) = true := by decide
    have hvase : (key "urn:vase" [] == k) = (key "urn:vase" [.none] == k) :=
      BEq.congr_left hform
    show (key "urn:cup" [] == k || (key "urn:vase" [] == k || false)) =
      (key "urn:vase" [.none] == k || (key "urn:cup" [] == k || false))
    rw [hvase, Bool.or_false, Bool.or_false, Bool.or_comm]
  have hroom : (distinct ks).length ≤ max config.perStoreLimit 1 := by decide
  have hok : ((c.getAllOrLoad (watched loader) "s" ks).run ((), [])).1.1.toOption.isSome =
    true := by decide
  have hgone : ((c.getAllOrLoad (watched loader) "s" ks).run ((), [])).1.2.peek "s"
    (key "urn:bowl" []) = .unknown := by decide
  have hretained := live_retained loader "texts" henabled none () events "s" hroom ((), [])
  rcases hrun : (c.getAllOrLoad (watched loader) "s" ks).run ((), []) with
    ⟨⟨_ | answers, c'⟩, s'⟩
  · rw [hrun] at hok
    cases hok
  · rw [hrun] at hgone
    obtain ⟨hseen, hagain⟩ := hretained s' answers c' hrun
    exact ⟨henabled, hroom, hsame, answers, c', s', rfl, hseen, hgone, hagain ks' hsame⟩

end Usage

end Nomenclator.Cache
