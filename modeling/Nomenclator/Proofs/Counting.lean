import Mathlib.Algebra.GroupWithZero.Nat
import Nomenclator.Metrics
import Nomenclator.Proofs.Recovery

/-!
# What a cache counts adds up

A cache keeps three counts for itself and never looks at them again. Beside them
stands what anybody could count from outside: how many keys were looked up, which of
them could be seen at that moment, how many loads brought something to be recorded,
and which entries are gone after an invalidation. The two agree.

For hits and misses it is enough that a request looks every different key up once. The
entries are harder, because the only trace of one that was pushed out is the count
itself, and a record is taken for such a loss by what the list hands back. An entry
that is recorded over another one under an equal key would be lost without being
counted. It never happens: a request records under the keys that it found missing,
each of them once, and nothing comes between. So a record adds one entry to those
that are held or counted as pushed out, and with an invalidation alone do they become
fewer. This is the one equation here, and every step is stated as a summand of it.

Holding is counted over all stores, so it matters that there is one partition for a
name, and no second one that nobody ever sees.
-/

namespace Nomenclator

/-! ## Sums over tables -/

namespace Table

variable {κ ν : Type} [BEq κ]

/-- A value under one key is exchanged, and the sum of all sizes changes by its size. -/
theorem sum_adjust [LawfulBEq κ] {t : Table κ ν} (h : Unrepeated t.keys) (size : ν → Nat)
    {k : κ} {v : ν} (hget : t.get? k = some v) (f : ν → ν) :
    ((t.adjust k f).map fun e => size e.2).sum + size v =
      (t.map fun e => size e.2).sum + size (f v) := by
  induction t with
  | nil => cases hget
  | cons e t ih =>
      obtain ⟨he, ht⟩ := List.pairwise_cons.1 h
      rw [get?_cons] at hget
      show (((if e.1 == k then (e.1, f e.2) else e) :: adjust t k f).map fun e =>
        size e.2).sum + size v = _
      rw [List.map_cons, List.map_cons, List.sum_cons, List.sum_cons]
      by_cases hk : (e.1 == k) = true
      · rw [if_pos hk] at hget
        obtain rfl := Option.some.inj hget
        have hrest : adjust t k f = t := by
          unfold adjust
          refine (List.map_congr_left fun x hx => if_neg ?_).trans (List.map_id t)
          rw [← eq_of_beq hk, BEq.comm, he x.1 (List.mem_map_of_mem hx)]
          exact Bool.false_ne_true
        rw [if_pos hk, hrest]
        dsimp only
        omega
      · rw [if_neg hk] at hget
        have hsum := ih ht hget
        rw [if_neg hk]
        omega

end Table

namespace Cache

variable {κ ν : Type}

namespace Partitioned

/-! ## What is held -/

/-- Every entry of every store, by its store and its key. -/
def held (c : Partitioned κ ν) : List (StoreName × κ) :=
  c.partitions.flatMap fun e => e.2.entries.keys.map fun k => (e.1, k)

/-- No store has two partitions. -/
def Named (c : Partitioned κ ν) : Prop := Unrepeated c.partitions.keys

variable {c c' c'' : Partitioned κ ν} {store : StoreName} {k : κ}

theorem length_held (c : Partitioned κ ν) :
    c.held.length = (c.partitions.map fun e => e.2.entries.length).sum := by
  unfold held
  rw [List.length_flatMap]
  simp only [List.length_map, Recency.length_keys]

theorem Named.get? (h : c.Named) {name : StoreName} {p : Partition κ ν}
    (hmem : (name, p) ∈ c.partitions) : c.partitions.get? name = some p := by
  refine Table.get?_of_forall (fun e he hkey => ?_) (List.any_eq_true.2 ⟨_, hmem, BEq.rfl⟩)
  exact congrArg Prod.snd (Table.eq_of_unrepeated h he hmem (eq_of_beq hkey))

theorem Named.mem_held (h : c.Named) {x : StoreName × κ} :
    x ∈ c.held ↔ x.2 ∈ (c.entries x.1).keys := by
  obtain ⟨name, k⟩ := x
  unfold held Partitioned.entries
  rw [List.mem_flatMap]
  constructor
  · rintro ⟨⟨name', p⟩, hmem, hk⟩
    obtain ⟨k', hk', heq⟩ := List.mem_map.1 hk
    cases heq
    rw [h.get? hmem]
    exact hk'
  · intro hk
    cases hget : c.partitions.get? name with
    | none =>
        rw [hget] at hk
        exact absurd hk List.not_mem_nil
    | some p =>
        rw [hget] at hk
        obtain ⟨name', hmem, hname⟩ := Table.mem_of_get? hget
        obtain rfl := eq_of_beq hname
        exact ⟨_, hmem, List.mem_map_of_mem hk⟩

theorem Named.setEntries (h : c.Named) (store : StoreName) (r : Recency κ ν) :
    (c.setEntries store r).Named := by
  unfold Named Partitioned.setEntries
  rwa [Table.keys_adjust]

/-- The number of entries changes with the list of the one store. -/
theorem Named.length_setEntries (h : c.Named) {serial : Nat}
    (hserial : c.serial? store = some serial) (r : Recency κ ν) :
    (c.setEntries store r).held.length + (c.entries store).length =
      c.held.length + r.length := by
  obtain ⟨p, hp, -⟩ := Option.map_eq_some_iff.1 hserial
  have hentries : c.entries store = p.entries := by
    unfold Partitioned.entries
    rw [hp]
    rfl
  rw [length_held, length_held, hentries]
  exact Table.sum_adjust h (fun p => p.entries.length) hp fun p => { p with entries := r }

theorem held_flushStore (c : Partitioned κ ν) (store : StoreName) :
    (c.flushStore store).held = c.held.filter fun x => !(x.1 == store) := by
  have hown : ∀ e : StoreName × Partition κ ν,
      ((e.2.entries.keys.map fun k => (e.1, k)).filter fun x => !(x.1 == store)) =
        if e.1 == store then [] else e.2.entries.keys.map fun k => (e.1, k) := by
    intro e
    split
    · next hname => exact List.filter_eq_nil_iff.2 (by simp [eq_of_beq hname])
    · next hname => exact List.filter_eq_self.2 (by simpa using fun _ _ => hname)
  have hall : ∀ ps : Table StoreName (Partition κ ν),
      (ps.erase store).flatMap (fun e => e.2.entries.keys.map fun k => (e.1, k)) =
        ps.flatMap fun e =>
          if e.1 == store then [] else e.2.entries.keys.map fun k => (e.1, k) := by
    intro ps
    unfold Table.erase
    induction ps with
    | nil => rfl
    | cons e ps ih =>
        rw [List.filter_cons, List.flatMap_cons, ← ih]
        cases e.1 == store <;> rfl
  unfold held
  rw [List.filter_flatMap]
  simp only [hown]
  exact hall c.partitions

theorem held_forget {resource : κ → ResourceId} (hscope : c.scope = some resource)
    (ids : List ResourceId) :
    (c.forget ids).held = c.held.filter fun x => !ids.contains (resource x.2) := by
  unfold held forget
  rw [hscope, List.filter_flatMap]
  dsimp only
  rw [List.flatMap_map]
  congr 1
  funext e
  simp only [Recency.keys, List.filter_map]
  rfl

theorem named_forget (h : c.Named) (ids : List ResourceId) : (c.forget ids).Named := by
  unfold Named forget
  split
  · exact h
  · rwa [Table.keys, List.map_map]

/-! ## What a step counts -/

/-- A step counts some hits and some misses, and records so many entries: as many more
are held then, or have been pushed out. There are no two partitions of a name after it. -/
structure Counts (hits misses records : Nat) (c c' : Partitioned κ ν) : Prop where
  named : c'.Named
  hits : c'.hits = c.hits + hits
  misses : c'.misses = c.misses + misses
  entries : c'.held.length + c'.evictions = c.held.length + c.evictions + records

theorem Counts.refl (h : c.Named) : Counts 0 0 0 c c :=
  ⟨h, rfl, rfl, rfl⟩

theorem Counts.trans {hits misses records hits' misses' records' : Nat}
    (h : Counts hits misses records c c') (h' : Counts hits' misses' records' c' c'') :
    Counts (hits + hits') (misses + misses') (records + records') c c'' where
  named := h'.named
  hits := by rw [h'.hits, h.hits, Nat.add_assoc]
  misses := by rw [h'.misses, h.misses, Nat.add_assoc]
  entries := by rw [h'.entries, h.entries, Nat.add_assoc]

theorem counts_prepare (h : c.Named) (store : StoreName) :
    Counts 0 0 0 c (c.prepare store) := by
  unfold prepare
  split
  · exact .refl h
  · next hnew =>
      refine ⟨Table.unrepeated_put h _ _, rfl, rfl, ?_⟩
      have hheld : ({ c with
          partitions := c.partitions.put store ⟨c.serials, []⟩
          serials := c.serials + 1 } : Partitioned κ ν).held = c.held := by
        unfold held
        rw [Table.put_of_not_has _ (Bool.eq_false_iff.2 hnew), List.flatMap_append]
        simp [Recency.keys]
      rw [hheld]
      rfl

variable [BEq κ]

theorem length_touch [EquivBEq κ] {r : Recency κ ν} (h : Unrepeated r.keys) (k : κ) :
    (r.touch k).length = r.length :=
  (Recency.perm_touch h k).length_eq

theorem counts_lookup [EquivBEq κ] {config : Config} (h : c.Named) (hfits : c.Fits config)
    (henabled : config.enabled = true) {serial : Nat}
    (hserial : c.serial? store = some serial) (k : κ) :
    Counts (if c.finds store k then 1 else 0) (if c.finds store k then 0 else 1) 0 c
      (c.lookup store k).2 := by
  have hon : c.config.enabled = true := hfits.settings ▸ henabled
  have hpeek : c.finds store k = ((c.entries store).peek? k).isSome := by
    rw [finds_eq hon, Recency.peek?, Option.isSome_map]
  unfold lookup
  rw [if_pos hon, hpeek]
  cases (c.entries store).peek? k with
  | none => exact ⟨h, rfl, rfl, rfl⟩
  | some v =>
      have hlength := h.length_setEntries hserial ((c.entries store).touch k)
      rw [length_touch (hfits.lists store).apart] at hlength
      refine ⟨h.setEntries store _, rfl, rfl, ?_⟩
      show (c.setEntries store _).held.length + c.evictions = _
      omega

/-- Every key that is looked up is a hit or a miss, and is noted as one or the other. -/
theorem counts_surveyFrom [EquivBEq κ] {config : Config} (h : c.Named)
    (hfits : c.Fits config) (henabled : config.enabled = true) {serial : Nat}
    (hserial : c.serial? store = some serial) (found : Survey κ ν) (ks : List κ) :
    ∃ hits misses, Counts hits misses 0 c (surveyFrom store found c ks).2 ∧
      (surveyFrom store found c ks).1.kept.length = found.kept.length + hits ∧
      (surveyFrom store found c ks).1.missing.length = found.missing.length + misses := by
  induction ks generalizing c found with
  | nil => exact ⟨0, 0, .refl h, rfl, rfl⟩
  | cons k ks ih =>
      have hcounts := counts_lookup h hfits henabled hserial k
      have hnext := hfits.confined (c.confined_lookup store k)
      have hstill := ((c.alike_lookup store k).serial? store).trans hserial
      have hfinds : c.finds store k = (c.lookup store k).1.isSome := by
        cases hfinds : c.finds store k with
        | true =>
            obtain ⟨v, -, hlook⟩ := lookup_of_finds hfinds
            rw [hlook]
            rfl
        | false =>
            rw [lookup_of_not_finds hfinds]
            rfl
      rw [hfinds] at hcounts
      unfold surveyFrom
      split
      · exact ih h hfits hserial found
      · generalize c.lookup store k = looked at hcounts hnext hstill ⊢
        obtain ⟨_ | v, c'⟩ := looked
        · obtain ⟨hits, misses, hrest, hkept, hmissing⟩ := ih hcounts.named hnext hstill
            { found with missing := found.missing ++ [k] }
          refine ⟨_, _, hcounts.trans hrest, ?_, ?_⟩
          · rw [hkept]
            simp
          · rw [hmissing, List.length_append]
            simp [Nat.add_assoc]
        · obtain ⟨hits, misses, hrest, hkept, hmissing⟩ := ih hcounts.named hnext hstill
            { found with kept := found.kept ++ [(k, .ofOption v)] }
          refine ⟨_, _, hcounts.trans hrest, ?_, ?_⟩
          · rw [hkept, List.length_append]
            simp [Nat.add_assoc]
          · rw [hmissing]
            simp

theorem counts_survey [EquivBEq κ] {config : Config} (h : c.Named) (hfits : c.Fits config)
    (henabled : config.enabled = true) (store : StoreName) (ks : List κ) :
    Counts ((distinct ks).countP (c.finds store)) (c.lacking store ks).length 0 c
      (c.survey store ks).2 := by
  have hprepare := counts_prepare h store
  have hserial : (c.prepare store).serial? store =
      some ((c.serial? store).getD c.serials) := by
    rw [serial?_prepare, if_pos BEq.rfl]
  obtain ⟨hits, misses, hrest, hkept, hmissing⟩ := counts_surveyFrom hprepare.named
    (hfits.confined (c.confined_prepare store)) henabled hserial
    ⟨((c.prepare store).serial? store).getD 0, [], []⟩ ks
  have hsurveyed := c.surveyed store ks
  have hhits : (distinct ks).countP (c.finds store) = hits := by
    rw [List.countP_eq_length_filter, ← List.length_map (fun k => (k, c.peek store k)),
      ← hsurveyed.kept]
    exact hkept.trans (Nat.zero_add _)
  have hmisses : (c.lacking store ks).length = misses := by
    rw [show c.lacking store ks = (c.survey store ks).1.missing from hsurveyed.missing.symm]
    exact hmissing.trans (Nat.zero_add _)
  rw [hhits, hmisses, ← Nat.zero_add hits, ← Nat.zero_add misses]
  exact hprepare.trans hrest

/-! ### Records -/

theorem length_push {capacity : Nat} {r : Recency κ ν} (hcapacity : 1 ≤ capacity)
    (hroom : r.length ≤ capacity) {k : κ} (hfind : r.find? k = none) (v : Option ν) :
    (r.push capacity k v).2.length + (if (r.push capacity k v).1 then 1 else 0) =
      r.length + 1 := by
  unfold Recency.push
  rw [hfind]
  dsimp only
  split
  · rfl
  · next hfull =>
      rw [if_pos rfl, List.length_cons, List.length_dropLast]
      omega

theorem counts_insert [EquivBEq κ] {config : Config} (h : c.Named) (hfits : c.Fits config)
    (henabled : config.enabled = true) {serial : Nat}
    (hserial : c.serial? store = some serial) (hlacks : c.finds store k = false)
    (v : Option ν) : Counts 0 0 1 c (c.insert store k v) := by
  have hon : c.config.enabled = true := hfits.settings ▸ henabled
  have hfind : (c.entries store).find? k = none := by
    rw [finds_eq hon] at hlacks
    simpa using hlacks
  have hroom : (c.entries store).length ≤ c.config.capacity :=
    hfits.settings ▸ (hfits.lists store).room
  have hpush := length_push c.config.capacity_pos hroom hfind v
  have hlength := h.length_setEntries hserial
    ((c.entries store).push c.config.capacity k v).2
  unfold insert
  rw [if_pos hon]
  refine ⟨h.setEntries store _, rfl, rfl, ?_⟩
  show (c.setEntries store _).held.length +
    (if ((c.entries store).push c.config.capacity k v).1 then c.evictions + 1
      else c.evictions) = _
  split at hpush <;> simp only [*, if_true, Bool.false_eq_true, if_false] <;> omega

theorem finds_insert_of_ne [EquivBEq κ] {x : κ} (hlacks : c.finds store x = false)
    (hother : (k == x) = false) (v : Option ν) :
    (c.insert store k v).finds store x = false := by
  rw [Bool.eq_false_iff] at hlacks ⊢
  intro hfinds
  obtain ⟨henabled, hknown⟩ := finds_iff.1 hfinds
  rw [(c.alike_insert store k v).config] at henabled
  rcases c.peek_insert_or store k v store x with hsame | hnone | ⟨-, -, hkey, -⟩
  · exact hlacks (finds_iff.2 ⟨henabled, hsame ▸ hknown⟩)
  · exact hknown hnone
  · rw [hother] at hkey
    cases hkey

/-- Every record of a key that is lacking adds one entry, whether another one has to go
for it or not. -/
theorem counts_record [EquivBEq κ] {config : Config} (h : c.Named) (hfits : c.Fits config)
    (henabled : config.enabled = true) {serial : Nat}
    (hserial : c.serial? store = some serial) {loaded : List (κ × Option ν)}
    (hapart : Unrepeated (loaded.map (·.1)))
    (hlacks : ∀ e ∈ loaded, c.finds store e.1 = false) :
    Counts 0 0 loaded.length c (c.record store serial loaded) := by
  unfold record
  rw [if_pos (current_iff.2 hserial)]
  induction loaded generalizing c with
  | nil => exact .refl h
  | cons e loaded ih =>
      obtain ⟨he, hloaded⟩ := List.pairwise_cons.1 hapart
      have hfirst := counts_insert h hfits henabled hserial
        (hlacks e List.mem_cons_self) e.2
      have hrest := ih hfirst.named (hfits.confined (c.confined_insert store e.1 e.2))
        (((c.alike_insert store e.1 e.2).serial? store).trans hserial) hloaded
        fun e' he' => finds_insert_of_ne (hlacks e' (List.mem_cons_of_mem e he'))
          (he e'.1 (List.mem_map_of_mem he')) e.2
      rw [List.length_cons, Nat.add_comm]
      exact hfirst.trans hrest

/-! ### Requests -/

variable {σ : Type}

theorem counts_recorded [EquivBEq κ] {config : Config} (h : c.Named) (hfits : c.Fits config)
    (henabled : config.enabled = true) (store : StoreName) (ks : List κ)
    {loaded : List (κ × Option ν)} (hkeys : loaded.map (·.1) = c.lacking store ks) :
    Counts ((distinct ks).countP (c.finds store)) (c.lacking store ks).length
      (c.lacking store ks).length c
      ((c.survey store ks).2.record store (c.survey store ks).1.serial loaded) := by
  have hsurvey := counts_survey h hfits henabled store ks
  have hapart : Unrepeated (c.lacking store ks) :=
    (distinct_unrepeated ks).sublist List.filter_sublist
  have hlacks : ∀ e ∈ loaded, (c.survey store ks).2.finds store e.1 = false := by
    intro e he
    have hlacks : e.1 ∈ c.lacking store ks := hkeys ▸ List.mem_map_of_mem he
    rw [(c.surveyed store ks).finds]
    simpa using (List.mem_filter.1 hlacks).2
  have hrecord := counts_record hsurvey.named (hfits.confined (c.confined_survey store ks))
    henabled (c.serial_survey store ks) (hkeys ▸ hapart) hlacks
  have hlength : loaded.length = (c.lacking store ks).length := by
    rw [← hkeys, List.length_map]
  rw [hlength] at hrecord
  have hboth := hsurvey.trans hrecord
  rwa [Nat.add_zero, Nat.add_zero, Nat.zero_add] at hboth

theorem counts_getAllOrLoad [EquivBEq κ] {config : Config} (h : c.Named)
    (hfits : c.Fits config) (henabled : config.enabled = true) (loader : Loader σ κ ν)
    (store : StoreName) (ks : List κ) (s : σ) :
    Counts ((distinct ks).countP (c.finds store)) (c.lacking store ks).length
      (match ((c.getAllOrLoad loader store ks).run s).1.1 with
        | .ok _ => (c.lacking store ks).length
        | .error _ => 0)
      c ((c.getAllOrLoad loader store ks).run s).1.2 := by
  have hsurvey := counts_survey h hfits henabled store ks
  rw [run_getAllOrLoad_split]
  by_cases hnone : (c.lacking store ks).isEmpty = true
  · rw [if_pos hnone]
    rw [List.isEmpty_iff.1 hnone] at hsurvey ⊢
    exact hsurvey
  · rw [if_neg hnone]
    rcases (loader.loadAll store (c.lacking store ks)).run.run s with ⟨e | loaded, s'⟩
    · exact hsurvey
    · refine counts_recorded h hfits henabled store ks ?_
      simp [brought, Function.comp_def]

theorem counts_getOrLoad [EquivBEq κ] {config : Config} (h : c.Named)
    (hfits : c.Fits config) (henabled : config.enabled = true) (loader : Loader σ κ ν)
    (store : StoreName) (k : κ) (s : σ) :
    Counts (if c.finds store k then 1 else 0) (if c.finds store k then 0 else 1)
      (if c.finds store k then 0
        else match ((loader.load store k).run s).1 with
          | .ok _ | .error .notFound => 1
          | .error (.failed _) => 0)
      c ((c.getOrLoad loader store k).run s).1.2 := by
  have hsurvey := counts_survey h hfits henabled store [k]
  have hkept := (c.surveyed store [k]).kept
  have hdistinct : distinct [k] = [k] := distinct_of_unrepeated (unrepeated_singleton k)
  rw [hdistinct] at hsurvey hkept
  rw [run_getOrLoad, hkept]
  cases hfinds : c.finds store k with
  | true =>
      have hlacking : c.lacking store [k] = [] := by simp [lacking, hdistinct, hfinds]
      rw [hlacking] at hsurvey
      simpa [hfinds, Table.get?_singleton] using hsurvey
  | false =>
      have hlacking : c.lacking store [k] = [k] := by simp [lacking, hdistinct, hfinds]
      have hrecorded : ∀ v, Counts 0 1 1 c
          ((c.survey store [k]).2.record store (c.survey store [k]).1.serial [(k, v)]) := by
        intro v
        have hkeys : [(k, v)].map (·.1) = c.lacking store [k] := hlacking.symm
        have hboth := counts_recorded h hfits henabled store [k] hkeys
        simpa [hlacking, hdistinct, hfinds] using hboth
      have hlooked : Counts 0 1 0 c (c.survey store [k]).2 := by
        simpa [hlacking, hfinds] using hsurvey
      simp only [hfinds, List.filter_cons, List.filter_nil, Bool.false_eq_true, if_false,
        List.map_nil, Table.get?_nil]
      rcases (loader.load store k).run s with ⟨(_ | m) | v, s'⟩
      · exact hrecorded none
      · exact hlooked
      · exact hrecorded (some v)

/-! ### Invalidations -/

/-- An entry that is held is found, and nothing else can be found in its place. -/
theorem Named.finds_iff_mem [EquivBEq κ] {config : Config} (h : c.Named) (h' : c'.Named)
    (hfits : c.Fits config) (hon : c'.config.enabled = true)
    (hfewer : ∀ x ∈ c'.held, x ∈ c.held) {x : StoreName × κ} (hx : x ∈ c.held) :
    c'.finds x.1 x.2 = true ↔ x ∈ c'.held := by
  rw [finds_eq hon, ← Recency.any_keys]
  constructor
  · intro hany
    obtain ⟨k, hk, hkey⟩ := List.any_eq_true.1 hany
    have hmem : (x.1, k) ∈ c'.held := h'.mem_held.2 hk
    have hsame : k = x.2 := (hfits.lists x.1).apart.eq_of_beq
      (h.mem_held.1 (hfewer _ hmem)) (h.mem_held.1 hx) hkey
    rw [hsame] at hmem
    exact hmem
  · intro hmem
    exact any_of_mem (h'.mem_held.1 hmem)

/-- What an invalidation leaves, and what can no longer be found after it, is all that
was held. -/
theorem entries_of_dropped [EquivBEq κ] {config : Config} (h : c.Named) (h' : c'.Named)
    (hfits : c.Fits config) (hon : c'.config.enabled = true) {p : StoreName × κ → Bool}
    (hheld : c'.held = c.held.filter p) (hevictions : c'.evictions = c.evictions) :
    c'.held.length + c'.evictions + c.held.countP (fun x => !c'.finds x.1 x.2) =
      c.held.length + c.evictions + 0 := by
  have hfinds : ∀ x ∈ c.held, c'.finds x.1 x.2 = p x := by
    intro x hx
    rw [Bool.eq_iff_iff, h.finds_iff_mem h' hfits hon _ hx, hheld, List.mem_filter]
    · exact and_iff_right hx
    · rw [hheld]
      exact fun y hy => (List.mem_filter.1 hy).1
  have hlost : c.held.countP (fun x => !c'.finds x.1 x.2) = c.held.countP fun x => !p x :=
    List.countP_congr fun x hx => by rw [hfinds x hx]
  have hsplit : c.held.length = c.held.countP p + c.held.countP fun x => !p x := by
    simpa using List.length_eq_countP_add_countP p (l := c.held)
  rw [hlost, hheld, ← List.countP_eq_length_filter, hevictions]
  omega

/-! ### A cache that is switched off -/

/-- The caches have the same settings and the same counts. -/
structure SameCounts (c c' : Partitioned κ ν) : Prop where
  config : c'.config = c.config
  hits : c'.hits = c.hits
  misses : c'.misses = c.misses
  evictions : c'.evictions = c.evictions

omit [BEq κ] in
theorem sameCounts_prepare (c : Partitioned κ ν) (store : StoreName) :
    SameCounts c (c.prepare store) := by
  unfold prepare
  split <;> exact ⟨rfl, rfl, rfl, rfl⟩

omit [BEq κ] in
theorem sameCounts_forget (c : Partitioned κ ν) (ids : List ResourceId) :
    SameCounts c (c.forget ids) := by
  unfold forget
  split <;> exact ⟨rfl, rfl, rfl, rfl⟩

theorem surveyFrom_of_off (hoff : c.config.enabled = false) (found : Survey κ ν)
    (ks : List κ) : (surveyFrom store found c ks).2 = c := by
  induction ks generalizing found with
  | nil => rfl
  | cons k ks ih =>
      have hlook : c.lookup store k = (none, c) := by
        unfold lookup
        rw [hoff, if_neg Bool.false_ne_true]
      unfold surveyFrom
      rw [hlook]
      split
      · exact ih found
      · exact ih _

theorem sameCounts_survey (hoff : c.config.enabled = false) (store : StoreName)
    (ks : List κ) : SameCounts c (c.survey store ks).2 := by
  have hprepare := c.sameCounts_prepare store
  have hsurvey : (c.survey store ks).2 = c.prepare store :=
    surveyFrom_of_off (hprepare.config ▸ hoff) _ ks
  rwa [hsurvey]

theorem record_of_off (hoff : c.config.enabled = false) (store : StoreName) (serial : Nat)
    (loaded : List (κ × Option ν)) : c.record store serial loaded = c := by
  have hall : loaded.foldl (fun c e => c.insert store e.1 e.2) c = c := by
    induction loaded with
    | nil => rfl
    | cons e loaded ih =>
        have hinsert : c.insert store e.1 e.2 = c := by
          unfold insert
          rw [hoff, if_neg Bool.false_ne_true]
        rw [List.foldl_cons, hinsert, ih]
  unfold record
  rw [hall, ite_self]

theorem sameCounts_recorded (hoff : c.config.enabled = false) (store : StoreName)
    (ks : List κ) (serial : Nat) (loaded : List (κ × Option ν)) :
    SameCounts c ((c.survey store ks).2.record store serial loaded) := by
  have hsurvey := sameCounts_survey hoff store ks
  rwa [record_of_off (hsurvey.config ▸ hoff)]

end Partitioned

/-! ## What an operation contributes -/

variable [BEq κ]

/-- The keys that an operation looks up, each of them once. -/
def Operation.lookups : Operation κ → List (StoreName × κ)
  | .get store k => [(store, k)]
  | .getAll store ks => (distinct ks).map fun k => (store, k)
  | .peek .. | .peekAll .. | .size _ | .flush | .flushStore _ | .forget _ => []

/-- How many of them are kept when they are looked up. -/
def Operation.hits (c : Partitioned κ ν) (o : Operation κ) : Nat :=
  o.lookups.countP fun x => c.finds x.1 x.2

/-- How many entries an operation stores: one for a key that was lacking and whose load
did not fail, and for each that was lacking in a request of several which succeeded. -/
def Operation.records {σ : Type} (loader : Loader σ κ ν) (c : Partitioned κ ν) (s : σ) :
    Operation κ → Nat
  | .get store k =>
      if c.finds store k then 0
      else match ((loader.load store k).run s).1 with
        | .ok _ | .error .notFound => 1
        | .error (.failed _) => 0
  | .getAll store ks =>
      match ((c.getAllOrLoad loader store ks).run s).1.1 with
      | .ok _ => (c.lacking store ks).length
      | .error _ => 0
  | .peek .. | .peekAll .. | .size _ | .flush | .flushStore _ | .forget _ => 0

/-- How many entries can no longer be found after an operation, if that is an
invalidation. -/
def Operation.removals (c c' : Partitioned κ ν) : Operation κ → Nat
  | .flush | .flushStore _ | .forget _ => c.held.countP fun x => !c'.finds x.1 x.2
  | .get .. | .getAll .. | .peek .. | .peekAll .. | .size _ => 0

/-- The counts of a cache before and after an operation. -/
structure Operation.Balanced {σ : Type} (loader : Loader σ κ ν) (o : Operation κ)
    (c c' : Partitioned κ ν) (s : σ) : Prop where
  named : c'.Named
  hits : c'.hits = c.hits + o.hits c
  lookups : c'.hits + c'.misses = c.hits + c.misses + o.lookups.length
  entries : c'.held.length + c'.evictions + o.removals c c' =
    c.held.length + c.evictions + o.records loader c s

section

variable {σ : Type} {config : Config} {c : Partitioned κ ν}

theorem Operation.perform_balanced [EquivBEq κ] (h : c.Named) (hfits : c.Fits config)
    (henabled : config.enabled = true) (loader : Loader σ κ ν) (o : Operation κ) (s : σ) :
    o.Balanced loader c (o.perform loader c s).1.2 s := by
  have hon : (o.perform loader c s).1.2.config.enabled = true :=
    (hfits.perform loader o s).settings ▸ henabled
  cases o with
  | get store k =>
      obtain ⟨hnamed, hhits, hmisses, hentries⟩ :=
        Partitioned.counts_getOrLoad h hfits henabled loader store k s
      refine ⟨hnamed, ?_, ?_, hentries⟩
      · show _ = _ + [(store, k)].countP fun x => c.finds x.1 x.2
        rw [List.countP_singleton]
        exact hhits
      · show ((c.getOrLoad loader store k).run s).1.2.hits +
          ((c.getOrLoad loader store k).run s).1.2.misses = _ + 1
        rw [hhits, hmisses]
        split <;> omega
  | getAll store ks =>
      obtain ⟨hnamed, hhits, hmisses, hentries⟩ :=
        Partitioned.counts_getAllOrLoad h hfits henabled loader store ks s
      have hsplit : (distinct ks).length =
          (distinct ks).countP (c.finds store) + (c.lacking store ks).length := by
        unfold Partitioned.lacking
        rw [← List.countP_eq_length_filter]
        simpa using List.length_eq_countP_add_countP (c.finds store) (l := distinct ks)
      refine ⟨hnamed, ?_, ?_, hentries⟩
      · show _ = _ + ((distinct ks).map fun k => (store, k)).countP _
        rw [List.countP_map]
        exact hhits
      · show ((c.getAllOrLoad loader store ks).run s).1.2.hits +
          ((c.getAllOrLoad loader store ks).run s).1.2.misses =
            _ + ((distinct ks).map fun k => (store, k)).length
        rw [hhits, hmisses, List.length_map]
        omega
  | peek store k => exact ⟨h, rfl, rfl, rfl⟩
  | peekAll store ks => exact ⟨h, rfl, rfl, rfl⟩
  | size store => exact ⟨h, rfl, rfl, rfl⟩
  | flush =>
      have hnamed : c.flush.Named := Unrepeated.nil
      have hheld : c.flush.held = c.held.filter fun _ => false :=
        (List.filter_eq_nil_iff.2 fun _ _ => Bool.false_ne_true).symm
      exact ⟨hnamed, rfl, rfl, Partitioned.entries_of_dropped h hnamed hfits hon hheld rfl⟩
  | flushStore store =>
      have hnamed : (c.flushStore store).Named := h.sublist (List.filter_sublist.map _)
      have hheld := c.held_flushStore store
      exact ⟨hnamed, rfl, rfl, Partitioned.entries_of_dropped h hnamed hfits hon hheld rfl⟩
  | forget ids =>
      have hnamed := Partitioned.named_forget h ids
      obtain ⟨p, hheld⟩ : ∃ p, (c.forget ids).held = c.held.filter p := by
        cases hscope : c.scope with
        | none =>
            refine ⟨fun _ => true, ?_⟩
            rw [Partitioned.forget_of_no_scope hscope, List.filter_eq_self.2 fun _ _ => rfl]
        | some resource => exact ⟨_, Partitioned.held_forget hscope ids⟩
      obtain ⟨-, hhits, hmisses, hevictions⟩ := c.sameCounts_forget ids
      refine ⟨hnamed, hhits, ?_, ?_⟩
      · show (c.forget ids).hits + (c.forget ids).misses = _
        rw [hhits, hmisses]
        rfl
      · exact Partitioned.entries_of_dropped h hnamed hfits hon hheld hevictions

theorem Operation.perform_of_off (hoff : c.config.enabled = false)
    (loader : Loader σ κ ν) (o : Operation κ) (s : σ) : c.SameCounts (o.perform loader c s).1.2 := by
  cases o with
  | get store k =>
      have hsurvey := Partitioned.sameCounts_survey hoff store [k]
      show c.SameCounts ((c.getOrLoad loader store k).run s).1.2
      rw [Partitioned.run_getOrLoad]
      split
      · exact hsurvey
      · rcases (loader.load store k).run s with ⟨(_ | m) | v, s'⟩
        · exact Partitioned.sameCounts_recorded hoff store [k] _ _
        · exact hsurvey
        · exact Partitioned.sameCounts_recorded hoff store [k] _ _
  | getAll store ks =>
      have hsurvey := Partitioned.sameCounts_survey hoff store ks
      show c.SameCounts ((c.getAllOrLoad loader store ks).run s).1.2
      rw [Partitioned.run_getAllOrLoad]
      split
      · exact hsurvey
      · split
        · exact hsurvey
        · exact Partitioned.sameCounts_recorded hoff store ks _ _
  | peek store k => exact ⟨rfl, rfl, rfl, rfl⟩
  | peekAll store ks => exact ⟨rfl, rfl, rfl, rfl⟩
  | size store => exact ⟨rfl, rfl, rfl, rfl⟩
  | flush => exact ⟨rfl, rfl, rfl, rfl⟩
  | flushStore store => exact ⟨rfl, rfl, rfl, rfl⟩
  | forget ids => exact c.sameCounts_forget ids

end

/-! ## Runs -/

namespace Usage

variable {σ : Type}

/-- What an amount comes to over a run, when every operation contributes its share. -/
def sum (loader : Loader σ κ ν) (share : Usage σ κ ν → Operation κ → Nat)
    (t : Usage σ κ ν) : List (Operation κ) → Nat
  | [] => 0
  | o :: ops => share t o + (t.after loader o).sum loader share ops

theorem run_balanced [EquivBEq κ] {config : Config} {t : Usage σ κ ν}
    (h : t.cache.Named) (hfits : t.cache.Fits config) (henabled : config.enabled = true)
    (loader : Loader σ κ ν) (ops : List (Operation κ)) :
    let ending := (t.run loader ops).cache
    ending.hits = t.cache.hits + t.sum loader (fun t o => o.hits t.cache) ops ∧
    ending.hits + ending.misses =
      t.cache.hits + t.cache.misses + t.sum loader (fun _ o => o.lookups.length) ops ∧
    ending.held.length + ending.evictions +
        t.sum loader (fun t o => o.removals t.cache (t.after loader o).cache) ops =
      t.cache.held.length + t.cache.evictions +
        t.sum loader (fun t o => o.records loader t.cache t.source) ops := by
  induction ops generalizing t with
  | nil => exact ⟨rfl, rfl, rfl⟩
  | cons o ops ih =>
      have hfirst := Operation.perform_balanced h hfits henabled loader o t.source
      have hrest := ih (t := t.after loader o) hfirst.named (hfits.perform loader o t.source)
      obtain ⟨hhits, hlookups, hentries⟩ := hrest
      have hafter : (o.perform loader t.cache t.source).1.2 = (t.after loader o).cache := rfl
      have hhits' := hfirst.hits
      have hlookups' := hfirst.lookups
      have hentries' := hfirst.entries
      rw [hafter] at hhits' hlookups' hentries'
      have hrun : t.run loader (o :: ops) = (t.after loader o).run loader ops := rfl
      simp only [hrun, sum]
      refine ⟨?_, ?_, ?_⟩ <;> omega

theorem run_of_off {t : Usage σ κ ν} (hoff : t.cache.config.enabled = false)
    (loader : Loader σ κ ν) (ops : List (Operation κ)) :
    t.cache.SameCounts (t.run loader ops).cache := by
  induction ops generalizing t with
  | nil => exact ⟨rfl, rfl, rfl, rfl⟩
  | cons o ops ih =>
      obtain ⟨hconfig, hhits, hmisses, hevictions⟩ :=
        Operation.perform_of_off hoff loader o t.source
      obtain ⟨hconfig', hhits', hmisses', hevictions'⟩ :=
        ih (t := t.after loader o) (hconfig ▸ hoff)
      exact ⟨hconfig'.trans hconfig, hhits'.trans hhits, hmisses'.trans hmisses,
        hevictions'.trans hevictions⟩

end Usage

/-! ## The counts that are shown -/

/-- The number that is shown of a cache under a name. -/
def Partitioned.shown (c : Partitioned κ ν) (name : String) : Nat :=
  ((Metrics.Reading.empty.cache c).counts.get? ⟨name, [("cache", c.id)]⟩).getD 0

omit [BEq κ] in
theorem Partitioned.shown_eq (c : Partitioned κ ν) :
    c.shown "glossa_cache_hit_total" = c.hits ∧
    c.shown "glossa_cache_miss_total" = c.misses ∧
    c.shown "glossa_cache_evict_total" = c.evictions := by
  unfold shown Metrics.Reading.cache Metrics.Reading.count Metrics.Reading.empty
  simp [Table.get?_put]

namespace Usage

variable {σ : Type}

/-- Whatever is done with a cache that is switched on: every different key of a request
is counted once, as a hit if it was kept at that moment and as a miss if it was not, and
nothing else is. All entries that were ever stored are still held in some store, or were
removed by an invalidation, or are counted as pushed out. A cache that is switched off
counts nothing. -/
theorem run_adds_up [EquivBEq κ] (loader : Loader σ κ ν) (id : String) (config : Config)
    (scope : Option (κ → ResourceId)) (source : σ) (ops : List (Operation κ)) :
    let begun := start id config scope source
    let ending := (begun.run loader ops).cache
    (config.enabled = true →
      ending.shown "glossa_cache_hit_total" + ending.shown "glossa_cache_miss_total" =
        begun.sum loader (fun _ o => o.lookups.length) ops ∧
      ending.shown "glossa_cache_hit_total" =
        begun.sum loader (fun t o => o.hits t.cache) ops ∧
      begun.sum loader (fun t o => o.records loader t.cache t.source) ops =
        ending.held.length +
          begun.sum loader (fun t o => o.removals t.cache (t.after loader o).cache) ops +
          ending.shown "glossa_cache_evict_total") ∧
    (config.enabled = false →
      ending.shown "glossa_cache_hit_total" = 0 ∧
      ending.shown "glossa_cache_miss_total" = 0 ∧
      ending.shown "glossa_cache_evict_total" = 0) := by
  intro begun ending
  obtain ⟨hhit, hmiss, hevict⟩ := ending.shown_eq
  rw [hhit, hmiss, hevict]
  refine ⟨fun henabled => ?_, fun hoff => ?_⟩
  · have hbalanced := run_balanced (t := begun) Unrepeated.nil
      (fits_start id config scope source) henabled loader ops
    rw [show (begun.run loader ops).cache = ending from rfl] at hbalanced
    obtain ⟨hhits, hlookups, hentries⟩ := hbalanced
    have hnothing : begun.cache.hits = 0 ∧ begun.cache.misses = 0 ∧
        begun.cache.held.length = 0 ∧ begun.cache.evictions = 0 := ⟨rfl, rfl, rfl, rfl⟩
    refine ⟨?_, ?_, ?_⟩ <;> omega
  · obtain ⟨-, hhits, hmisses, hevictions⟩ := run_of_off (t := begun) hoff loader ops
    exact ⟨hhits, hmisses, hevictions⟩

/-- A request of three names in a store with room for two, one load that fails, and two
invalidations. Six entries are stored: one is left, three were removed and two pushed
out. -/
theorem run_adds_up_small_cache :
    let config : Config := { perStoreLimit := 2 }
    let off : Config := { enabled := false }
    let loader : Loader (List (Call ResourceId)) ResourceId String := answering
      (fun _ k => if k == "urn:broken" then .error (.failed "down") else .ok k)
      fun _ ks => .ok (ks.map fun k => (k, .found k))
    let ops : List (Operation ResourceId) := [
      .getAll "s" ["urn:vase", "urn:bowl", "urn:vase", "urn:cup"], .get "s" "urn:vase",
      .get "s" "urn:cup", .get "s" "urn:broken", .peek "s" "urn:cup", .get "t" "urn:cup",
      .forget ["urn:cup"], .flushStore "s", .get "t" "urn:vase"]
    let begun := start "names" config (some id) []
    let ending := (begun.run loader ops).cache
    let idle := ((start "names" off (some id) []).run loader ops).cache
    (config.enabled = true ∧ off.enabled = false) ∧
    begun.sum loader (fun _ o => o.lookups.length) ops = 8 ∧
    ending.shown "glossa_cache_hit_total" = 1 ∧
    ending.shown "glossa_cache_miss_total" = 7 ∧
    begun.sum loader (fun t o => o.records loader t.cache t.source) ops = 6 ∧
    ending.held.length = 1 ∧
    begun.sum loader (fun t o => o.removals t.cache (t.after loader o).cache) ops = 3 ∧
    ending.shown "glossa_cache_evict_total" = 2 ∧
    idle.shown "glossa_cache_miss_total" = 0 := by
  intro config off loader ops begun ending idle
  obtain ⟨hlookups, hhits, hentries⟩ :=
    (run_adds_up loader "names" config (some id) [] ops).1 rfl
  have hidle := ((run_adds_up loader "names" off (some id) [] ops).2 rfl).2.1
  have hasked : begun.sum loader (fun _ o => o.lookups.length) ops = 8 := by decide +kernel
  have hkept : begun.sum loader (fun t o => o.hits t.cache) ops = 1 := by decide +kernel
  have hstored : begun.sum loader (fun t o => o.records loader t.cache t.source) ops = 6 := by
    decide +kernel
  have hheld : ending.held.length = 1 := by decide +kernel
  have hremoved : begun.sum loader
      (fun t o => o.removals t.cache (t.after loader o).cache) ops = 3 := by
    decide +kernel
  rw [hkept] at hhits
  rw [hasked, hhits] at hlookups
  rw [hstored, hheld, hremoved] at hentries
  have hmisses : 1 + ending.shown "glossa_cache_miss_total" = 8 := hlookups
  have hevictions : 6 = 1 + 3 + ending.shown "glossa_cache_evict_total" := hentries
  refine ⟨⟨rfl, rfl⟩, hasked, hhits, ?_, hstored, hheld, hremoved, ?_, hidle⟩
  · omega
  · omega

end Usage

end Cache

end Nomenclator
