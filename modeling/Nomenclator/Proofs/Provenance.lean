import Nomenclator.Proofs.Contents

/-!
# Where an entry comes from

Nothing is kept that has not been loaded, and what is kept for a key is what the
last load of the key came to. This is told of every run by what can be seen of the
cache in between. To look a key up changes nothing that can be seen. To record a
value shows it under the key, and may hide what is kept for another one, but puts
nothing else in its place. And only a key for which nothing can be seen is loaded
again, so no load makes the entry of an earlier one its own.

What a load comes to depends on who asked for it. A load of one key that fails
leaves nothing. A load of several keys has no place for failures: every outcome is
written down for the cache first, and a failure is written down as an absence. An
absence that is kept is therefore a confirmed one, except where several keys were
loaded and the load of this one failed.
-/

namespace Nomenclator.Cache

variable {κ ν : Type} [BEq κ]

/-! ## What can be seen of a list -/

namespace Recency

variable {r : Recency κ ν}

theorem find?_congr [PartialEquivBEq κ] {k x : κ} (h : (k == x) = true) :
    r.find? k = r.find? x := by
  unfold find?
  congr 1
  funext e
  exact BEq.congr_right h

theorem find?_without [PartialEquivBEq κ] {k x : κ} (h : (k == x) = false) :
    (r.without k).find? x = r.find? x := by
  unfold without find?
  rw [List.find?_filter]
  congr 1
  funext e
  by_cases he : (e.1 == x) = true
  · have hother : (e.1 == k) = false := by
      rw [BEq.congr_left he, BEq.comm, h]
    simp [he, hother]
  · simp [he]

theorem find?_front {e : κ × Option ν} {x : κ} (rest : Recency κ ν) :
    find? (e :: rest) x = if (e.1 == x) = true then some e else rest.find? x := by
  unfold find?
  rw [List.find?_cons]
  split <;> simp_all

theorem touch_of_find? {k : κ} {e : κ × Option ν} (h : r.find? k = some e) :
    r.touch k = e :: r.without k := by
  unfold touch
  rw [h]

theorem touch_of_absent {k : κ} (h : r.find? k = none) : r.touch k = r := by
  unfold touch
  rw [h]

theorem find?_touch [EquivBEq κ] (r : Recency κ ν) (k x : κ) :
    (r.touch k).find? x = r.find? x := by
  cases hfind : r.find? k with
  | none => rw [touch_of_absent hfind]
  | some e =>
      have hkey := (mem_of_find? hfind).2
      rw [touch_of_find? hfind, find?_front]
      by_cases hx : (k == x) = true
      · rw [if_pos (BEq.trans hkey hx), ← find?_congr hx, hfind]
      · rw [if_neg (by rwa [BEq.congr_left hkey]), find?_without (Bool.eq_false_iff.2 hx)]

theorem peek?_touch [EquivBEq κ] (r : Recency κ ν) (k x : κ) :
    (r.touch k).peek? x = r.peek? x := by
  unfold peek?
  rw [find?_touch]

/-- A value that is recorded shows under its key, and under no other. -/
theorem peek?_push_of_ne [EquivBEq κ] (r : Recency κ ν) (capacity : Nat) {k x : κ}
    (v : Option ν) (h : (k == x) = false) :
    (r.push capacity k v).2.peek? x = r.peek? x ∨
      (r.push capacity k v).2.peek? x = none := by
  have hx : ¬ (k == x) = true := Bool.eq_false_iff.1 h
  unfold push peek?
  split
  · next e hfind =>
      have hkey := (mem_of_find? hfind).2
      left
      dsimp only
      rw [find?_front, if_neg (by rwa [BEq.congr_left hkey]), find?_without h]
  · split
    · left
      dsimp only
      rw [find?_front, if_neg hx]
    · dsimp only
      rw [find?_front, if_neg hx]
      -- The last entry may have been the one of `x`.
      cases hkept : find? (List.dropLast r) x with
      | none => exact .inr rfl
      | some e =>
          left
          rcases List.eq_nil_or_concat r with rfl | ⟨front, last, rfl⟩
          · exact absurd hkept (by simp [find?])
          · rw [List.concat_eq_append] at hkept ⊢
            rw [List.dropLast_concat] at hkept
            unfold find? at hkept ⊢
            rw [List.find?_append, hkept]
            rfl

end Recency

/-! ## What can be seen of a cache -/

namespace Partitioned

variable {c c' : Partitioned κ ν}

theorem peek_congr [PartialEquivBEq κ] (c : Partitioned κ ν) (store : StoreName) {k x : κ}
    (h : (k == x) = true) : c.peek store k = c.peek store x := by
  unfold peek Recency.peek?
  rw [Recency.find?_congr h]

theorem peek_eq_or (c : Partitioned κ ν) (store : StoreName) (k : κ) :
    c.peek store k = .unknown ∨ ∃ v, c.peek store k = .ofOption v := by
  unfold peek
  cases (c.entries store).peek? k with
  | none => exact .inl rfl
  | some v => exact .inr ⟨v, rfl⟩

omit [BEq κ] in
theorem config_prepare (c : Partitioned κ ν) (store : StoreName) :
    (c.prepare store).config = c.config := by
  unfold prepare
  split <;> rfl

omit [BEq κ] in
theorem entries_prepare (c : Partitioned κ ν) (store name : StoreName) :
    (c.prepare store).entries name = c.entries name := by
  unfold prepare
  split
  · rfl
  · next hnew =>
      unfold Partitioned.entries
      rw [Table.get?_put]
      split
      · next hname =>
          have hnone : c.partitions.get? name = none := by
            rw [← eq_of_beq hname, ← Option.not_isSome_iff_eq_none, ← Table.has_eq_isSome]
            exact hnew
          rw [hnone]
          rfl
      · rfl

omit [BEq κ] in
theorem entries_setEntries_or (c : Partitioned κ ν) (store : StoreName)
    (entries : Recency κ ν) (name : StoreName) :
    (c.setEntries store entries).entries name = c.entries name ∨
      store = name ∧ (c.setEntries store entries).entries name = entries := by
  unfold Partitioned.entries setEntries
  rw [Table.get?_adjust]
  split
  · next hname =>
      cases c.partitions.get? name with
      | none => exact .inl rfl
      | some p => exact .inr ⟨eq_of_beq hname, rfl⟩
  · exact .inl rfl

/-- Looking a key up changes nothing that can be seen. -/
theorem peek_lookup [EquivBEq κ] (c : Partitioned κ ν) (store : StoreName) (k : κ)
    (name : StoreName) (x : κ) : (c.lookup store k).2.peek name x = c.peek name x := by
  unfold lookup
  split
  · split
    · have hseen : ((c.setEntries store ((c.entries store).touch k)).entries name).peek? x =
          (c.entries name).peek? x := by
        rcases c.entries_setEntries_or store ((c.entries store).touch k) name with
          hsame | ⟨hname, htouched⟩
        · rw [hsame]
        · rw [htouched, Recency.peek?_touch, hname]
      show (c.setEntries store ((c.entries store).touch k)).peek name x = _
      unfold peek
      rw [hseen]
    · rfl
  · rfl

theorem peek_of_lookup_none (c : Partitioned κ ν) (store : StoreName) (k : κ)
    (henabled : c.config.enabled = true) (h : (c.lookup store k).1 = none) :
    c.peek store k = .unknown := by
  unfold lookup at h
  rw [if_pos henabled] at h
  split at h
  · cases h
  · next hpeek =>
      unfold peek
      rw [hpeek]

/-- What a survey calls missing cannot be seen, and nothing else comes of it. -/
theorem surveyFrom_peek [EquivBEq κ] (store : StoreName) (found : Survey κ ν)
    (ks : List κ) (hfound : ∀ k ∈ found.missing, c.config.enabled = true →
      c.peek store k = .unknown) :
    (∀ name x, (surveyFrom store found c ks).2.peek name x = c.peek name x) ∧
      ∀ k ∈ (surveyFrom store found c ks).1.missing, c.config.enabled = true →
        c.peek store k = .unknown := by
  induction ks generalizing c found with
  | nil => exact ⟨fun _ _ => rfl, hfound⟩
  | cons k ks ih =>
      have hsame := c.peek_lookup store k
      have hconfig := (c.alike_lookup store k).config
      have hnone := c.peek_of_lookup_none store k
      unfold surveyFrom
      split
      · exact ih found hfound
      · generalize c.lookup store k = looked at hsame hconfig hnone ⊢
        obtain ⟨seen, c'⟩ := looked
        dsimp only at hsame hconfig hnone
        have hmissing : ∀ k ∈ found.missing, c'.config.enabled = true →
            c'.peek store k = .unknown := by
          intro k hk henabled
          rw [hsame]
          exact hfound k hk (hconfig ▸ henabled)
        cases seen with
        | some v =>
            obtain ⟨hpeek, hrest⟩ := ih (c := c')
              { found with kept := found.kept ++ [(k, .ofOption v)] } hmissing
            simp only [hsame, hconfig] at hpeek hrest
            exact ⟨hpeek, hrest⟩
        | none =>
            obtain ⟨hpeek, hrest⟩ := ih (c := c')
              { found with missing := found.missing ++ [k] } (by
                intro k' hk' henabled
                rcases List.mem_append.1 hk' with hk' | hk'
                · exact hmissing k' hk' henabled
                · rw [List.mem_singleton.1 hk', hsame]
                  exact hnone (hconfig ▸ henabled) rfl)
            simp only [hsame, hconfig] at hpeek hrest
            exact ⟨hpeek, hrest⟩

theorem peek_survey [EquivBEq κ] (c : Partitioned κ ν) (store : StoreName) (ks : List κ)
    (name : StoreName) (x : κ) : (c.survey store ks).2.peek name x = c.peek name x := by
  have hspec := (c.prepare store).surveyFrom_peek store
    ⟨((c.prepare store).serial? store).getD 0, [], []⟩ ks
    (fun _ h => absurd h List.not_mem_nil)
  refine (hspec.1 name x).trans ?_
  unfold peek
  rw [entries_prepare]

theorem peek_of_missing [EquivBEq κ] (henabled : c.config.enabled = true)
    {store : StoreName} {ks : List κ} {k : κ}
    (h : k ∈ (c.survey store ks).1.missing) : c.peek store k = .unknown := by
  have hspec := (c.prepare store).surveyFrom_peek store
    ⟨((c.prepare store).serial? store).getD 0, [], []⟩ ks
    (fun _ h => absurd h List.not_mem_nil)
  have hpeek := hspec.2 k h (by rw [config_prepare]; exact henabled)
  unfold peek at hpeek ⊢
  rwa [entries_prepare] at hpeek

theorem config_survey (c : Partitioned κ ν) (store : StoreName) (ks : List κ) :
    (c.survey store ks).2.config = c.config :=
  (c.alike_survey store ks).config.trans (c.config_prepare store)

/-- A value that is recorded shows under its key, or not at all. -/
theorem peek_insert_or [EquivBEq κ] (c : Partitioned κ ν) (store : StoreName) (k : κ)
    (v : Option ν) (name : StoreName) (x : κ) :
    (c.insert store k v).peek name x = c.peek name x ∨
      (c.insert store k v).peek name x = .unknown ∨
      c.config.enabled = true ∧ store = name ∧ (k == x) = true ∧
        (c.insert store k v).peek name x = .ofOption v := by
  unfold insert
  split
  · next henabled =>
      generalize hpush : (c.entries store).push c.config.capacity k v = pushed
      have hpeek : ∀ evictions : Nat,
          ({ c.setEntries store pushed.2 with evictions } : Partitioned κ ν).peek name x =
            (c.setEntries store pushed.2).peek name x := fun _ => rfl
      dsimp only
      rw [hpeek]
      rcases c.entries_setEntries_or store pushed.2 name with hsame | ⟨rfl, hnew⟩
      · left
        unfold peek
        rw [hsame]
      · cases hx : k == x with
        | true =>
            have hshown : pushed.2.peek? x = some v := by
              unfold Recency.peek?
              rw [← Recency.find?_congr hx, ← hpush]
              exact (c.entries store).peek?_push c.config.capacity k v
            refine .inr (.inr ⟨henabled, rfl, rfl, ?_⟩)
            unfold peek
            rw [hnew, hshown]
        | false =>
            have hother := (c.entries store).peek?_push_of_ne c.config.capacity v hx
            rw [hpush] at hother
            rcases hother with hother | hother
            · left
              unfold peek
              rw [hnew, hother]
            · right
              left
              unfold peek
              rw [hnew, hother]
  · exact .inl rfl

theorem peek_record_or [EquivBEq κ] (c : Partitioned κ ν) (store : StoreName)
    (serial : Nat) (loaded : List (κ × Option ν)) (name : StoreName) (x : κ) :
    (c.record store serial loaded).peek name x = c.peek name x ∨
      (c.record store serial loaded).peek name x = .unknown ∨
      c.config.enabled = true ∧ store = name ∧ ∃ e ∈ loaded, (e.1 == x) = true ∧
        (c.record store serial loaded).peek name x = .ofOption e.2 := by
  have hall : ∀ c' : Partitioned κ ν, c'.config = c.config →
      let shown := (loaded.foldl (fun c e => c.insert store e.1 e.2) c').peek name x
      shown = c'.peek name x ∨ shown = .unknown ∨
        c.config.enabled = true ∧ store = name ∧ ∃ e ∈ loaded, (e.1 == x) = true ∧
          shown = .ofOption e.2 := by
    induction loaded with
    | nil => exact fun _ _ => .inl rfl
    | cons e loaded ih =>
        intro c' hconfig
        have hinsert := c'.peek_insert_or store e.1 e.2 name x
        rcases ih (c'.insert store e.1 e.2)
            ((c'.alike_insert store e.1 e.2).config.trans hconfig) with
          hsame | hnone | ⟨henabled, hname, e', he', hx, hnew⟩
        · rw [hconfig] at hinsert
          rcases hinsert with hfirst | hfirst | ⟨henabled, hname, hx, hfirst⟩
          · exact .inl (hsame.trans hfirst)
          · exact .inr (.inl (hsame.trans hfirst))
          · exact .inr (.inr ⟨henabled, hname, e, List.mem_cons_self, hx,
              hsame.trans hfirst⟩)
        · exact .inr (.inl hnone)
        · exact .inr (.inr ⟨henabled, hname, e', List.mem_cons_of_mem e he', hx, hnew⟩)
  unfold record
  split
  · exact hall c rfl
  · exact .inl rfl

theorem peek_flushStore_or (c : Partitioned κ ν) (store name : StoreName) (k : κ) :
    (c.flushStore store).peek name k = c.peek name k ∨
      (c.flushStore store).peek name k = .unknown := by
  unfold peek
  rw [entries_flushStore]
  by_cases hname : (store == name) = true
  · rw [if_pos hname]
    exact .inr rfl
  · rw [if_neg hname]
    exact .inl rfl

theorem peek_forget_or (hc : c.Scoped) (ids : List ResourceId) (name : StoreName) (k : κ) :
    (c.forget ids).peek name k = c.peek name k ∨
      (c.forget ids).peek name k = .unknown := by
  cases hscope : c.scope with
  | none =>
      rw [forget_of_no_scope hscope]
      exact .inl rfl
  | some resource =>
      rw [peek_forget hc hscope]
      split
      · exact .inr rfl
      · exact .inl rfl

theorem missing_of_unknown {store : StoreName} {k : κ} (h : c.peek store k = .unknown) :
    (c.survey store [k]).1.missing = [k] := by
  have hprepared : ((c.prepare store).entries store).peek? k = none := by
    rw [entries_prepare]
    unfold peek at h
    split at h
    · next v _ => cases v <;> cases h
    · next hnone => exact hnone
  unfold survey
  dsimp only
  rw [surveyFrom, if_neg (by simp [Table.has])]
  split
  · next v c' hlook =>
      unfold lookup at hlook
      rw [hprepared] at hlook
      split at hlook <;> cases hlook
  · rfl

end Partitioned

/-! ## Loads -/

/-- One load: whether it was made for a request of several keys, and its outcome. -/
structure Load (κ ν : Type) where
  bulk : Bool
  store : StoreName
  key : κ
  outcome : Except LoadError ν

/-- What a load leaves for its key, if anything. -/
def Load.left? (l : Load κ ν) : Option (Option ν) :=
  match l.outcome with
  | .ok v => some (some v)
  | .error .notFound => some none
  | .error (.failed _) => if l.bulk then some none else none

section

omit [BEq κ]

variable {l : Load κ ν}

theorem Load.left?_eq_found {v : ν} (h : l.left? = some (some v)) : l.outcome = .ok v := by
  unfold left? at h
  rcases hl : l.outcome with (e | m) | w
  · rw [hl] at h
    cases h
  · rw [hl] at h
    cases hbulk : l.bulk <;> simp [hbulk] at h
  · rw [hl] at h
    exact congrArg Except.ok (Option.some.inj (Option.some.inj h))

theorem Load.left?_eq_absent (h : l.left? = some none) :
    l.outcome = .error .notFound ∨ l.bulk = true ∧ ∃ m, l.outcome = .error (.failed m) := by
  unfold left? at h
  rcases hl : l.outcome with (e | m) | w
  · exact .inl rfl
  · rw [hl] at h
    cases hbulk : l.bulk with
    | false => simp [hbulk] at h
    | true => exact .inr ⟨rfl, m, rfl⟩
  · rw [hl] at h
    cases h

theorem Load.left?_of_failed {m : String} (h : l.outcome = .error (.failed m)) :
    l.left? = if l.bulk then some none else none := by
  unfold left?
  rw [h]

end

/-- The last load of a key among some loads, the latest of which come first. -/
def lastLoad (loads : List (Load κ ν)) (store : StoreName) (k : κ) :
    Option (Load κ ν) :=
  loads.find? fun l => l.store == store && l.key == k

theorem lastLoad_cons (l : Load κ ν) (loads : List (Load κ ν)) (store : StoreName)
    (k : κ) :
    lastLoad (l :: loads) store k =
      if l.store = store ∧ (l.key == k) = true then some l else lastLoad loads store k := by
  unfold lastLoad
  rw [List.find?_cons]
  split <;> simp_all

/-- Loads as they are, with a note of each. -/
def noted {σ : Type} (bulk : Bool)
    (load : StoreName → κ → StateM σ (Except LoadError ν)) (store : StoreName) (k : κ) :
    StateM (σ × List (Load κ ν)) (Except LoadError ν) := fun s =>
  let (outcome, source) := (load store k).run s.1
  (outcome, source, ⟨bulk, store, k, outcome⟩ :: s.2)

section

variable {σ : Type} (load : StoreName → κ → StateM σ (Except LoadError ν))
  (store : StoreName)

omit [BEq κ] in
theorem recorded_value (l : Load κ ν) (h : l.bulk = true) :
    some (Loader.recorded l.outcome).value? = l.left? := by
  unfold Load.left?
  rcases l.outcome with (e | e) | v
  · rfl
  · rw [h]
    rfl
  · rfl

/-- Loading several keys one after the other concerns these keys alone. -/
theorem eachAlone_frame (answers : Answers κ ν) (ks : List κ)
    (s : σ × List (Load κ ν)) (name : StoreName) (x : κ)
    (h : store = name → ∀ k ∈ ks, (k == x) = false) :
    lastLoad ((Loader.eachAlone (noted true load store) answers ks).run s).2.2 name x =
      lastLoad s.2 name x := by
  induction ks generalizing answers s with
  | nil => rfl
  | cons k ks ih =>
      refine (ih _ _ fun hname k' hk' =>
        h hname k' (List.mem_cons_of_mem k hk')).trans ?_
      show lastLoad (_ :: s.2) name x = _
      rw [lastLoad_cons, if_neg]
      rintro ⟨hname, hx⟩
      exact Bool.false_ne_true ((h hname k List.mem_cons_self).symm.trans hx)

/-- Answers say what the last loads of their keys came to. -/
def Written (loads : List (Load κ ν)) (store : StoreName) (answers : Answers κ ν) : Prop :=
  ∀ x v, answers.get? x = some v →
    ∃ l, lastLoad loads store x = some l ∧ l.bulk = true ∧ v = Loader.recorded l.outcome

theorem eachAlone_written [EquivBEq κ] {answers : Answers κ ν} (ks : List κ)
    {s : σ × List (Load κ ν)} (h : Written s.2 store answers) :
    Written ((Loader.eachAlone (noted true load store) answers ks).run s).2.2 store
      ((Loader.eachAlone (noted true load store) answers ks).run s).1 := by
  induction ks generalizing answers s with
  | nil => exact h
  | cons k ks ih =>
      refine ih ?_
      intro x v hv
      replace hv : Table.get? (answers.put k (Loader.recorded ((load store k).run s.1).1)) x =
        some v := hv
      rw [Table.get?_put] at hv
      show ∃ l, lastLoad (_ :: s.2) store x = some l ∧ _
      rw [lastLoad_cons]
      by_cases hx : (k == x) = true
      · rw [if_pos hx] at hv
        rw [if_pos ⟨rfl, hx⟩]
        exact ⟨_, rfl, rfl, (Option.some.inj hv).symm⟩
      · rw [if_neg hx] at hv
        rw [if_neg fun h => hx h.2]
        exact h x v hv

theorem eachAlone_has [EquivBEq κ] (answers : Answers κ ν) (ks : List κ)
    (s : σ × List (Load κ ν)) {x : κ}
    (h : answers.has x = true ∨ ∃ k ∈ ks, (k == x) = true) :
    Table.has ((Loader.eachAlone (noted true load store) answers ks).run s).1 x = true := by
  induction ks generalizing answers s with
  | nil =>
      rcases h with h | ⟨k, hk, -⟩
      · exact h
      · exact absurd hk List.not_mem_nil
  | cons k ks ih =>
      refine ih (answers.put k (Loader.recorded ((load store k).run s.1).1)) _ ?_
      rw [Table.has_put, Bool.or_eq_true]
      rcases h with h | ⟨k', hk', hx⟩
      · exact .inl (.inl h)
      · rcases List.mem_cons.1 hk' with rfl | hk'
        · exact .inl (.inr hx)
        · exact .inr ⟨k', hk', hx⟩

end

theorem lastLoad_congr [PartialEquivBEq κ] (loads : List (Load κ ν)) (store : StoreName)
    {k x : κ} (h : (k == x) = true) : lastLoad loads store k = lastLoad loads store x := by
  unfold lastLoad
  congr 1
  funext l
  rw [BEq.congr_right h]

/-- What a request of several keys is told of a key is what its last load came to. -/
theorem loadedValue_eachAlone [EquivBEq κ] {σ : Type}
    (load : StoreName → κ → StateM σ (Except LoadError ν)) (store : StoreName)
    (s : σ × List (Load κ ν)) (ks : List κ) :
    ∀ k ∈ ks,
      (lastLoad ((Loader.eachAlone (noted true load store) [] ks).run s).2.2 store k).bind
          Load.left? =
        some (Partitioned.loadedValue
          ((Loader.eachAlone (noted true load store) [] ks).run s).1 k) := by
  intro k hk
  have hstart : Written s.2 store [] := fun _ _ h => nomatch h
  have hwritten := eachAlone_written load store ks hstart
  have hhas := eachAlone_has load store [] ks s (.inr ⟨k, hk, BEq.rfl⟩)
  rw [Table.has_eq_isSome] at hhas
  obtain ⟨v, hv⟩ := Option.isSome_iff_exists.1 hhas
  obtain ⟨l, hlast, hbulk, rfl⟩ := hwritten k v hv
  unfold Partitioned.loadedValue
  rw [hlast, hv]
  exact (recorded_value l hbulk).symm

/-! ## Runs -/

/-- A cache in use: the source of its loads, and the loads that were made, the latest
in front. -/
structure Ledger (σ κ ν : Type) where
  cache : Partitioned κ ν
  source : σ
  loads : List (Load κ ν)

/-- What a cache is used for. -/
inductive Use (κ : Type) where
  | get (store : StoreName) (k : κ)
  | getAll (store : StoreName) (ks : List κ)
  | flush
  | flushStore (store : StoreName)
  | forget (ids : List ResourceId)

namespace Ledger

variable {σ : Type}

/-- The ledger after a use of the cache. Loads of several keys are made one by one. -/
def after (load : StoreName → κ → StateM σ (Except LoadError ν)) (t : Ledger σ κ ν) :
    Use κ → Ledger σ κ ν
  | .get store k =>
      let ((_, cache), source, loads) :=
        (t.cache.getOrLoad (.ofSingle (noted false load)) store k).run (t.source, t.loads)
      ⟨cache, source, loads⟩
  | .getAll store ks =>
      let ((_, cache), source, loads) :=
        (t.cache.getAllOrLoad (.ofSingle (noted true load)) store ks).run (t.source, t.loads)
      ⟨cache, source, loads⟩
  | .flush => { t with cache := t.cache.flush }
  | .flushStore store => { t with cache := t.cache.flushStore store }
  | .forget ids => { t with cache := t.cache.forget ids }

/-- The ledger after some uses of the cache. -/
def run (load : StoreName → κ → StateM σ (Except LoadError ν)) (t : Ledger σ κ ν)
    (uses : List (Use κ)) : Ledger σ κ ν :=
  uses.foldl (after load) t

/-- An empty cache, before any load. -/
def start (id : String) (config : Config) (scope : Option (κ → ResourceId)) (source : σ) :
    Ledger σ κ ν :=
  ⟨.empty id config scope, source, []⟩

/-- Whatever can be seen under a key is what the last load of the key has left, and
nothing can be seen of a cache that is switched off. -/
def Traced (c : Partitioned κ ν) (loads : List (Load κ ν)) : Prop :=
  ∀ store k, c.peek store k = .unknown ∨
    c.config.enabled = true ∧ ∃ v, c.peek store k = .ofOption v ∧
      (lastLoad loads store k).bind Load.left? = some v

variable {c c' : Partitioned κ ν} {loads loads' : List (Load κ ν)}

/-- It is enough that what comes to be seen was loaded, and that nothing was seen of
what is loaded. -/
theorem Traced.change (h : Traced c loads) (hconfig : c'.config = c.config)
    (hpeek : ∀ store k, c'.peek store k = c.peek store k ∨ c'.peek store k = .unknown ∨
      c.config.enabled = true ∧ ∃ v, c'.peek store k = .ofOption v ∧
        (lastLoad loads' store k).bind Load.left? = some v)
    (hloads : ∀ store k, lastLoad loads' store k = lastLoad loads store k ∨
      (c.config.enabled = true → c.peek store k = .unknown)) : Traced c' loads' := by
  intro store k
  rw [hconfig]
  rcases hpeek store k with hsame | hnone | hnew
  · rcases h store k with hunknown | ⟨henabled, v, hv, hlast⟩
    · exact .inl (hsame.trans hunknown)
    · rcases hloads store k with hold | hhidden
      · exact .inr ⟨henabled, v, hsame.trans hv, hold ▸ hlast⟩
      · exact .inl (hsame.trans (hhidden henabled))
  · exact .inl hnone
  · exact .inr hnew

/-- What a survey finds missing is loaded and recorded: every value must be what the
last load of its key has left, and no load may be of a key that can be seen. -/
theorem Traced.record [EquivBEq κ] (h : Traced c loads) (store : StoreName) (ks : List κ)
    (loaded : List (κ × Option ν))
    (hlast : ∀ e ∈ loaded, (lastLoad loads' store e.1).bind Load.left? = some e.2)
    (hframe : ∀ name x,
      (store = name → ∀ k ∈ (c.survey store ks).1.missing, (k == x) = false) →
        lastLoad loads' name x = lastLoad loads name x) :
    Traced ((c.survey store ks).2.record store (c.survey store ks).1.serial loaded)
      loads' := by
  have hconfig := c.config_survey store ks
  refine h.change ((Partitioned.alike_record _ _ _ _).config.trans hconfig)
    (fun name x => ?_) fun name x => ?_
  · have hpeek := (c.survey store ks).2.peek_record_or store (c.survey store ks).1.serial
      loaded name x
    rw [c.peek_survey, hconfig] at hpeek
    rcases hpeek with hsame | hnone | ⟨henabled, rfl, e, he, hx, hnew⟩
    · exact .inl hsame
    · exact .inr (.inl hnone)
    · refine .inr (.inr ⟨henabled, e.2, hnew, ?_⟩)
      rw [← lastLoad_congr loads' store hx]
      exact hlast e he
  · by_cases hx : store = name ∧ ∃ k ∈ (c.survey store ks).1.missing, (k == x) = true
    · obtain ⟨rfl, k, hk, hkey⟩ := hx
      right
      intro henabled
      rw [← c.peek_congr store hkey]
      exact Partitioned.peek_of_missing henabled hk
    · refine .inl (hframe name x fun hname k hk => ?_)
      exact Bool.eq_false_iff.2 fun hkey => hx ⟨hname, k, hk, hkey⟩

/-- A survey alone leaves every entry its load. -/
theorem Traced.survey [EquivBEq κ] (h : Traced c loads) (store : StoreName) (ks : List κ) :
    Traced (c.survey store ks).2 loads :=
  h.change (c.config_survey store ks) (fun name x => .inl (c.peek_survey store ks name x))
    fun _ _ => .inl rfl

theorem Traced.getOrLoad [EquivBEq κ] (h : Traced c loads)
    (load : StoreName → κ → StateM σ (Except LoadError ν)) (store : StoreName) (k : κ)
    (source : σ) :
    Traced ((c.getOrLoad (.ofSingle (noted false load)) store k).run (source, loads)).1.2
      ((c.getOrLoad (.ofSingle (noted false load)) store k).run (source, loads)).2.2 := by
  rw [Partitioned.run_getOrLoad]
  rcases c.survey_one store k with ⟨hkept, hmissing⟩ | ⟨v, hkept, hmissing⟩
  · have hload : ((Loader.ofSingle (noted false load)).load store k).run (source, loads) =
        (((load store k).run source).1, ((load store k).run source).2,
          ⟨false, store, k, ((load store k).run source).1⟩ :: loads) := rfl
    have hframe : ∀ (outcome : Except LoadError ν) name x,
        (store = name → ∀ k' ∈ (c.survey store [k]).1.missing, (k' == x) = false) →
        lastLoad (⟨false, store, k, outcome⟩ :: loads) name x = lastLoad loads name x := by
      intro outcome name x hother
      rw [hmissing] at hother
      rw [lastLoad_cons, if_neg]
      rintro ⟨hname, hx⟩
      have hdiffer := hother hname k (List.mem_singleton.2 rfl)
      exact Bool.false_ne_true (hdiffer.symm.trans hx)
    have hrecord : ∀ (outcome : Except LoadError ν) (v : Option ν),
        Load.left? ⟨false, store, k, outcome⟩ = some v →
        Traced ((c.survey store [k]).2.record store (c.survey store [k]).1.serial [(k, v)])
          (⟨false, store, k, outcome⟩ :: loads) := by
      intro outcome v hleft
      refine h.record store [k] [(k, v)] (fun e he => ?_) (hframe outcome)
      rw [List.mem_singleton.1 he, lastLoad_cons, if_pos ⟨rfl, BEq.rfl⟩]
      exact hleft
    rw [hkept, Table.get?_nil, hload]
    rcases (load store k).run source with ⟨(e | e) | v, source'⟩
    · exact hrecord (.error .notFound) none rfl
    · -- Nothing is recorded, and the key was not seen before.
      have hnothing := h.record store [k] [] (fun _ he => absurd he List.not_mem_nil)
        (hframe (.error (.failed e)))
      rw [Partitioned.record_nil] at hnothing
      exact hnothing
    · exact hrecord (.ok v) (some v) rfl
  · rw [hkept, Table.get?_singleton]
    exact h.survey store [k]

theorem Traced.getAllOrLoad [EquivBEq κ] (h : Traced c loads)
    (load : StoreName → κ → StateM σ (Except LoadError ν)) (store : StoreName)
    (ks : List κ) (source : σ) :
    Traced
      ((c.getAllOrLoad (.ofSingle (noted true load)) store ks).run (source, loads)).1.2
      ((c.getAllOrLoad (.ofSingle (noted true load)) store ks).run (source, loads)).2.2 := by
  rw [Partitioned.run_getAllOrLoad]
  split
  · exact h.survey store ks
  · have hload : ((Loader.ofSingle (noted true load)).loadAll store
        (c.survey store ks).1.missing).run.run (source, loads) =
        match (Loader.eachAlone (noted true load store) []
          (c.survey store ks).1.missing).run (source, loads) with
        | (loaded, s) => (.ok loaded, s) := rfl
    have hvalue := loadedValue_eachAlone load store (source, loads)
      (c.survey store ks).1.missing
    have hframe := eachAlone_frame load store [] (c.survey store ks).1.missing (source, loads)
    rw [hload]
    generalize (Loader.eachAlone (noted true load store) []
      (c.survey store ks).1.missing).run (source, loads) = out at hvalue hframe ⊢
    obtain ⟨loaded, source', loads'⟩ := out
    refine h.record store ks _ (fun e he => ?_) hframe
    obtain ⟨k, hk, rfl⟩ := List.mem_map.1 he
    exact hvalue k hk

theorem traced_empty (id : String) (config : Config) (scope : Option (κ → ResourceId))
    (loads : List (Load κ ν)) : Traced (.empty id config scope) loads :=
  fun _ _ => .inl rfl

/-- A drop shows nothing new, so it leaves every entry that is still seen its load. -/
theorem Traced.drop (h : Traced c loads) (hconfig : c'.config = c.config)
    (hpeek : ∀ store k, c'.peek store k = c.peek store k ∨ c'.peek store k = .unknown) :
    Traced c' loads :=
  h.change hconfig (fun store k => (hpeek store k).imp_right .inl) fun _ _ => .inl rfl

variable {load : StoreName → κ → StateM σ (Except LoadError ν)} {t : Ledger σ κ ν}

theorem scope_after (t : Ledger σ κ ν) (u : Use κ) :
    (t.after load u).cache.scope = t.cache.scope := by
  cases u with
  | get store k => exact t.cache.scope_getOrLoad _ store k _
  | getAll store ks => exact t.cache.scope_getAllOrLoad _ store ks _
  | flush => rfl
  | flushStore store => rfl
  | forget ids => exact (t.cache.alike_forget ids).scope

theorem Traced.after [EquivBEq κ] (h : Traced t.cache t.loads) (hscopes : t.cache.Scoped)
    (u : Use κ) : Traced (t.after load u).cache (t.after load u).loads := by
  cases u with
  | get store k => exact h.getOrLoad load store k t.source
  | getAll store ks => exact h.getAllOrLoad load store ks t.source
  | flush => exact h.drop rfl fun _ _ => .inr rfl
  | flushStore store => exact h.drop rfl (t.cache.peek_flushStore_or store)
  | forget ids =>
      exact h.drop (t.cache.alike_forget ids).config (Partitioned.peek_forget_or hscopes ids)

theorem Traced.run [EquivBEq κ] (h : Traced t.cache t.loads) (hscopes : t.cache.Scoped)
    (uses : List (Use κ)) : Traced (t.run load uses).cache (t.run load uses).loads := by
  induction uses generalizing t with
  | nil => exact h
  | cons u uses ih => exact ih (h.after hscopes u) (hscopes.of_scope (t.scope_after u))

/-- However a cache has been used, and however loads of the same key have ended from
time to time: a value that is kept for a key was brought by its last load; an absence
that is kept was confirmed by the last load, or this was a load of several keys and
failed; and nothing is kept for a key whose last load was made for it alone and
failed. -/
theorem run_provenance [EquivBEq κ]
    (load : StoreName → κ → StateM σ (Except LoadError ν)) (id : String) (config : Config)
    {scope : Option (κ → ResourceId)}
    (hkeys : ∀ resource, scope = some resource →
      ∀ x k, (x == k) = true → resource x = resource k)
    (source : σ) (uses : List (Use κ)) (store : StoreName) (k : κ) :
    let t := (start id config scope source).run load uses
    (t.cache.peek store k = .notFound → ∃ l, lastLoad t.loads store k = some l ∧
      (l.outcome = .error .notFound ∨
        l.bulk = true ∧ ∃ m, l.outcome = .error (.failed m))) ∧
    (∀ v, t.cache.peek store k = .found v →
      ∃ l, lastLoad t.loads store k = some l ∧ l.outcome = .ok v) ∧
    ∀ l m, lastLoad t.loads store k = some l → l.bulk = false →
      l.outcome = .error (.failed m) → t.cache.peek store k = .unknown := by
  intro t
  have htraced : Traced t.cache t.loads :=
    (traced_empty id config scope []).run (t := start id config scope source) hkeys uses
  have hlast : ∀ v, t.cache.peek store k = .ofOption v →
      ∃ l, lastLoad t.loads store k = some l ∧ l.left? = some v := by
    intro v hv
    rcases htraced store k with hunknown | ⟨-, w, hw, hload⟩
    · rw [hunknown] at hv
      cases v <;> cases hv
    · obtain rfl := Resolution.ofOption_inj (hw.symm.trans hv)
      exact Option.bind_eq_some_iff.1 hload
  refine ⟨fun hpeek => ?_, fun v hpeek => ?_, fun l m hload hbulk hfailed => ?_⟩
  · obtain ⟨l, hload, hleft⟩ := hlast none hpeek
    exact ⟨l, hload, Load.left?_eq_absent hleft⟩
  · obtain ⟨l, hload, hleft⟩ := hlast (some v) hpeek
    exact ⟨l, hload, Load.left?_eq_found hleft⟩
  · rcases t.cache.peek_eq_or store k with hunknown | ⟨v, hv⟩
    · exact hunknown
    · obtain ⟨l', hload', hleft⟩ := hlast v hv
      obtain rfl := Option.some.inj (hload.symm.trans hload')
      rw [Load.left?_of_failed hfailed, hbulk] at hleft
      cases hleft

/-- A load that fails at first and then brings a text for one of two resources. -/
theorem run_provenance_two_keys :
    let load : StoreName → ResourceId → StateM Nat (Except LoadError String) :=
      fun _ k n =>
        (if n = 0 then .error (.failed "busy")
          else if k == "urn:vase" then .ok "Vase" else .error .notFound, n + 1)
    let scope : Option (ResourceId → ResourceId) := some id
    let t := (start "labels" {} scope 0).run load
      [.get "s" "urn:vase", .getAll "s" ["urn:vase", "urn:bowl"]]
    (∀ resource, scope = some resource →
      ∀ x k, (x == k) = true → resource x = resource k) ∧
    (t.cache.peek "s" "urn:bowl" = .notFound ∧
      ∃ l, lastLoad t.loads "s" "urn:bowl" = some l ∧ (l.outcome = .error .notFound ∨
        l.bulk = true ∧ ∃ m, l.outcome = .error (.failed m))) ∧
    t.cache.peek "s" "urn:vase" = .found "Vase" ∧
      ∃ l, lastLoad t.loads "s" "urn:vase" = some l ∧ l.outcome = .ok "Vase" := by
  intro load scope t
  have hkeys : ∀ resource, scope = some resource →
      ∀ x k, (x == k) = true → resource x = resource k := by
    intro resource _ x k hx
    rw [eq_of_beq hx]
  have hbowl : t.cache.peek "s" "urn:bowl" = .notFound := by decide
  have hvase : t.cache.peek "s" "urn:vase" = .found "Vase" := by decide
  let uses : List (Use ResourceId) :=
    [.get "s" "urn:vase", .getAll "s" ["urn:vase", "urn:bowl"]]
  exact ⟨hkeys,
    ⟨hbowl, (run_provenance load "labels" {} hkeys 0 uses "s" "urn:bowl").1 hbowl⟩, hvase,
    (run_provenance load "labels" {} hkeys 0 uses "s" "urn:vase").2.1 "Vase" hvase⟩

/-- A load of several keys that fails is kept as an absence. -/
theorem getAll_failed [EquivBEq κ] {store : StoreName} {k : κ} {m : String}
    (henabled : t.cache.config.enabled = true)
    (hunknown : t.cache.peek store k = .unknown)
    (hfailed : ((load store k).run t.source).1 = .error (.failed m)) :
    (t.after load (.getAll store [k])).cache.peek store k = .notFound := by
  have hmissing := Partitioned.missing_of_unknown hunknown
  have hserial := t.cache.serial_survey store [k]
  have hrun := t.cache.run_getAllOrLoad (.ofSingle (noted true load)) store [k]
    (t.source, t.loads)
  have hload : ((Loader.ofSingle (noted true load)).loadAll store [k]).run.run
      (t.source, t.loads) =
      (.ok [(k, Loader.recorded ((load store k).run t.source).1)],
        ((load store k).run t.source).2,
        ⟨true, store, k, ((load store k).run t.source).1⟩ :: t.loads) := rfl
  rw [hmissing, if_neg (by simp), hload, hfailed] at hrun
  show Partitioned.peek (((t.cache.getAllOrLoad (.ofSingle (noted true load)) store [k]).run
    (t.source, t.loads)).1.2) store k = _
  rw [hrun]
  have hvalue : Partitioned.loadedValue
      [(k, (Loader.recorded (.error (.failed m)) : Resolution ν))] k = none := by
    unfold Partitioned.loadedValue
    rw [Table.get?_singleton]
    rfl
  dsimp only
  rw [List.map_singleton, hvalue]
  unfold Partitioned.record
  rw [if_pos (Partitioned.current_iff.2 hserial)]
  exact Partitioned.peek_insert
    ((congrArg Config.enabled (t.cache.config_survey store [k])).trans henabled) hserial k none

/-- The first request fails and is kept as an absence that nobody has confirmed. -/
theorem getAll_failed_at_start :
    let load : StoreName → ResourceId → StateM Unit (Except LoadError String) :=
      fun _ _ => pure (.error (.failed "backend unavailable"))
    let t := (start "labels" {} none ()).run load [.getAll "s" ["urn:broken"]]
    ¬ (t.cache.peek "s" "urn:broken" = .notFound →
      ∃ l, lastLoad t.loads "s" "urn:broken" = some l ∧ l.outcome = .error .notFound) := by
  intro load t hconfirmed
  obtain ⟨l, hload, hfound⟩ := hconfirmed (by decide)
  have hlast : lastLoad t.loads "s" "urn:broken" =
      some ⟨true, "s", "urn:broken", .error (.failed "backend unavailable")⟩ := by rfl
  obtain rfl := Option.some.inj (hload.symm.trans hlast)
  cases hfound

end Ledger

end Nomenclator.Cache
