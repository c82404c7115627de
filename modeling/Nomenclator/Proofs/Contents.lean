import Nomenclator.Cache.Key
import Nomenclator.Cache.Partitioned
import Nomenclator.Proofs.Table

/-!
# What a cache holds

Two questions are asked of a cache again and again: may an entry that is not
meant to be there be in it, and what does an operation leave as it was. This file
answers both once for each operation.

For the first, a property of entries holds `Only` when all entries have it. An
operation that promotes, pushes out or drops entries keeps any such property;
recording a value keeps it if the value has it, under the key it is recorded for
and under whichever equal form of the key is there already.

For the second, two caches are `Alike` when they differ in their entries and
counts alone: they have the same settings, and the same partitions under the same
serial numbers. Whoever holds a serial number can go on using it then. Only
preparing a store and dropping stores change more than that.
-/

namespace Nomenclator

theorem Resolution.ofOption_inj {α : Type} {v w : Option α}
    (h : Resolution.ofOption v = .ofOption w) : v = w := by
  rw [← value?_ofOption v, h, value?_ofOption]

end Nomenclator

namespace Nomenclator.Cache

variable {κ ν : Type}

/-! ## One store -/

namespace Recency

/-- Every entry has a property. -/
def Only (P : κ → Option ν → Prop) (r : Recency κ ν) : Prop :=
  ∀ e ∈ r, P e.1 e.2

variable {P : κ → Option ν → Prop} {r : Recency κ ν}

theorem only_nil : Only P ([] : Recency κ ν) :=
  fun _ h => absurd h List.not_mem_nil

theorem Only.cons (hr : r.Only P) {k : κ} {v : Option ν} (h : P k v) :
    Only P ((k, v) :: r) := by
  intro e he
  rcases List.mem_cons.1 he with rfl | he
  · exact h
  · exact hr e he

theorem Only.subset (hr : r.Only P) {r' : Recency κ ν} (h : ∀ e ∈ r', e ∈ r) :
    r'.Only P :=
  fun e he => hr e (h e he)

variable [BEq κ]

theorem mem_of_find? {k : κ} {e : κ × Option ν} (h : r.find? k = some e) :
    e ∈ r ∧ (e.1 == k) = true := by
  have hkey := List.find?_some h
  exact ⟨List.mem_of_find?_eq_some h, hkey⟩

theorem mem_of_peek? {k : κ} {v : Option ν} (h : r.peek? k = some v) :
    ∃ x, (x, v) ∈ r ∧ (x == k) = true := by
  unfold peek? at h
  rw [Option.map_eq_some_iff] at h
  obtain ⟨e, hfind, rfl⟩ := h
  exact ⟨e.1, mem_of_find? hfind⟩

theorem mem_of_mem_touch {k : κ} {e : κ × Option ν} (h : e ∈ r.touch k) : e ∈ r := by
  unfold touch at h
  split at h
  · next e' hfind =>
      rcases List.mem_cons.1 h with rfl | h
      · exact (mem_of_find? hfind).1
      · exact (List.mem_filter.1 h).1
  · exact h

/-- A value that a key may be given, under whichever form of the key is there. -/
def Fits (P : κ → Option ν → Prop) (k : κ) (v : Option ν) : Prop :=
  P k v ∧ ∀ x w, (x == k) = true → P x w → P x v

theorem Only.push (hr : r.Only P) {k : κ} {v : Option ν} (h : Fits P k v)
    (capacity : Nat) : (r.push capacity k v).2.Only P := by
  obtain ⟨hnew, hform⟩ := h
  unfold Recency.push
  split
  · next e hfind =>
      obtain ⟨hmem, hkey⟩ := mem_of_find? hfind
      have hwithout : (r.without k).Only P :=
        hr.subset fun _ he => (List.mem_filter.1 he).1
      -- The old form of the key stays, with the new value.
      exact hwithout.cons (hform e.1 e.2 hkey (hr e hmem))
  · split
    · exact hr.cons hnew
    · exact (hr.subset fun _ he => List.dropLast_subset r he).cons hnew

/-- What is told of a key is the value of an equal key that has the property with it. -/
def Vouches (P : κ → Option ν → Prop) (k : κ) (told : Resolution ν) : Prop :=
  ∃ x v, (x == k) = true ∧ told = .ofOption v ∧ P x v

theorem peek?_push [ReflBEq κ] (r : Recency κ ν) (capacity : Nat) (k : κ) (v : Option ν) :
    (r.push capacity k v).2.peek? k = some v := by
  have hfirst : ∀ (x : κ) (rest : Recency κ ν), (x == k) = true →
      peek? ((x, v) :: rest) k = some v := by
    intro x rest hx
    unfold peek? find?
    rw [List.find?_cons, hx]
    rfl
  unfold push
  split
  · next e hfind => exact hfirst e.1 _ (mem_of_find? hfind).2
  · split
    · exact hfirst k _ BEq.rfl
    · exact hfirst k _ BEq.rfl

/-- Dropping the entries of some resources, seen from one key. -/
theorem peek?_drop (r : Recency κ ν) (ids : List ResourceId) {resource : κ → ResourceId}
    {k : κ} (hscope : ∀ x, (x == k) = true → resource x = resource k) :
    peek? (r.filter fun e => !ids.contains (resource e.1)) k =
      if resource k ∈ ids then none else r.peek? k := by
  have hfind : find? (r.filter fun e => !ids.contains (resource e.1)) k =
      if resource k ∈ ids then none else r.find? k := by
    unfold find?
    rw [List.find?_filter]
    split
    · next hmem =>
        rw [List.find?_eq_none]
        intro e _ he
        rw [decide_eq_true_eq] at he
        have hkept : resource e.1 ∉ ids := by simpa using he.1
        rw [hscope e.1 he.2] at hkept
        exact hkept hmem
    · next hmem =>
        congr 1
        funext e
        by_cases he : (e.1 == k) = true
        · simp [he, hscope e.1 he, hmem]
        · simp [he]
  unfold peek?
  rw [hfind]
  split <;> rfl

end Recency

/-! ## All stores -/

namespace Partitioned

/-- Every entry of every store has a property. -/
def Only (P : StoreName → κ → Option ν → Prop) (c : Partitioned κ ν) : Prop :=
  ∀ e ∈ c.partitions, e.2.entries.Only (P e.1)

variable {P : StoreName → κ → Option ν → Prop} {c c' : Partitioned κ ν}

theorem Only.entries (hc : c.Only P) (store : StoreName) :
    (c.entries store).Only (P store) := by
  unfold Partitioned.entries
  cases hget : c.partitions.get? store with
  | none => exact Recency.only_nil
  | some p =>
      obtain ⟨name, hmem, hname⟩ := Table.mem_of_get? hget
      rw [← eq_of_beq hname]
      exact hc (name, p) hmem

theorem Only.prepare (hc : c.Only P) (store : StoreName) : (c.prepare store).Only P := by
  unfold Partitioned.prepare
  split
  · exact hc
  · next hnew =>
      rw [Table.put_of_not_has _ (Bool.eq_false_iff.2 hnew)]
      intro e he
      rcases List.mem_append.1 he with he | he
      · exact hc e he
      · rw [List.mem_singleton.1 he]
        exact Recency.only_nil

theorem Only.setEntries (hc : c.Only P) {store : StoreName} {entries : Recency κ ν}
    (h : entries.Only (P store)) : (c.setEntries store entries).Only P := by
  intro e he
  obtain ⟨e', hmem, rfl⟩ := List.mem_map.1 he
  by_cases hname : (e'.1 == store) = true
  · rw [if_pos hname]
    rw [← eq_of_beq hname] at h
    exact h
  · rw [if_neg hname]
    exact hc e' hmem

theorem only_flush (c : Partitioned κ ν) : c.flush.Only P :=
  fun _ h => absurd h List.not_mem_nil

theorem Only.flushStore (hc : c.Only P) (store : StoreName) : (c.flushStore store).Only P :=
  fun e he => hc e (List.mem_filter.1 he).1

theorem Only.dropped_store (hc : c.Only P) (store : StoreName) :
    (c.flushStore store).Only fun name k v => P name k v ∧ name ≠ store := by
  intro e he f hf
  obtain ⟨hmem, hname⟩ := List.mem_filter.1 he
  exact ⟨hc e hmem f hf, by simpa using hname⟩

theorem Only.dropped_resources (hc : c.Only P) {resource : κ → ResourceId}
    (hscope : c.scope = some resource) (ids : List ResourceId) :
    (c.forget ids).Only fun name k v => P name k v ∧ resource k ∉ ids := by
  unfold Partitioned.forget
  rw [hscope]
  intro e he f hf
  obtain ⟨e', hmem, rfl⟩ := List.mem_map.1 he
  obtain ⟨hentry, hkept⟩ := List.mem_filter.1 hf
  exact ⟨hc e' hmem f hentry, by simpa using hkept⟩

theorem Only.forget (hc : c.Only P) (ids : List ResourceId) : (c.forget ids).Only P := by
  unfold Partitioned.forget
  split
  · exact hc
  · intro e he
    obtain ⟨e', hmem, rfl⟩ := List.mem_map.1 he
    exact (hc e' hmem).subset fun _ h => (List.mem_filter.1 h).1

variable [BEq κ]

theorem Only.lookup (hc : c.Only P) (store : StoreName) (k : κ) :
    (c.lookup store k).2.Only P := by
  unfold Partitioned.lookup
  split
  · split
    · exact hc.setEntries ((hc.entries store).subset fun _ => Recency.mem_of_mem_touch)
    · exact hc
  · exact hc

theorem Only.of_lookup (hc : c.Only P) {store : StoreName} {k : κ} {v : Option ν}
    (h : (c.lookup store k).1 = some v) : ∃ x, (x == k) = true ∧ P store x v := by
  unfold Partitioned.lookup at h
  split at h
  · split at h
    · next w hpeek =>
        obtain ⟨x, hmem, hx⟩ := Recency.mem_of_peek? hpeek
        rw [← Option.some.inj h]
        exact ⟨x, hx, hc.entries store (x, w) hmem⟩
    · cases h
  · cases h

theorem Only.of_peek (hc : c.Only P) {store : StoreName} {k : κ} {v : Option ν}
    (h : c.peek store k = .ofOption v) : ∃ x, (x == k) = true ∧ P store x v := by
  unfold peek at h
  cases hpeek : (c.entries store).peek? k with
  | none =>
      rw [hpeek] at h
      cases v <;> cases h
  | some w =>
      rw [hpeek] at h
      obtain ⟨x, hmem, hx⟩ := Recency.mem_of_peek? hpeek
      obtain rfl := Resolution.ofOption_inj h
      exact ⟨x, hx, hc.entries store (x, w) hmem⟩

theorem Only.insert (hc : c.Only P) {store : StoreName} {k : κ} {v : Option ν}
    (h : Recency.Fits (P store) k v) : (c.insert store k v).Only P := by
  unfold Partitioned.insert
  split
  · exact hc.setEntries ((hc.entries store).push h c.config.capacity)
  · exact hc

theorem Only.insertAll (hc : c.Only P) {store : StoreName} {loaded : List (κ × Option ν)}
    (h : ∀ e ∈ loaded, Recency.Fits (P store) e.1 e.2) :
    (loaded.foldl (fun c e => c.insert store e.1 e.2) c).Only P := by
  induction loaded generalizing c with
  | nil => exact hc
  | cons e loaded ih =>
      exact ih (hc.insert (h e List.mem_cons_self)) fun e' he' =>
        h e' (List.mem_cons_of_mem e he')

/-- What a survey says is kept stands there under an equal key. -/
theorem Only.surveyFrom (hc : c.Only P) {store : StoreName} {found : Survey κ ν}
    (hfound : ∀ e ∈ found.kept, Recency.Vouches (P store) e.1 e.2) (ks : List κ) :
    (∀ e ∈ (surveyFrom store found c ks).1.kept, Recency.Vouches (P store) e.1 e.2) ∧
      (surveyFrom store found c ks).2.Only P := by
  induction ks generalizing c found with
  | nil => exact ⟨hfound, hc⟩
  | cons k ks ih =>
      have hnext := hc.lookup store k
      unfold Partitioned.surveyFrom
      split
      · exact ih hc hfound
      · split
        · next v c' hlook =>
            -- The key is told in the form it was asked in, which need not be the entry's.
            obtain ⟨x, hx, hvalue⟩ := hc.of_lookup (congrArg Prod.fst hlook)
            rw [hlook] at hnext
            refine ih hnext fun e he => ?_
            rcases List.mem_append.1 he with he | he
            · exact hfound e he
            · rw [List.mem_singleton.1 he]
              exact ⟨x, v, hx, rfl, hvalue⟩
        · next c' hlook =>
            rw [hlook] at hnext
            exact ih hnext hfound

theorem Only.survey (hc : c.Only P) (store : StoreName) (ks : List κ) :
    (∀ e ∈ (c.survey store ks).1.kept, Recency.Vouches (P store) e.1 e.2) ∧
      (c.survey store ks).2.Only P :=
  (hc.prepare store).surveyFrom (fun _ h => absurd h List.not_mem_nil) ks

theorem Only.record (hc : c.Only P) {store : StoreName} {serial : Nat}
    {loaded : List (κ × Option ν)}
    (h : c.current store serial = true → ∀ e ∈ loaded, Recency.Fits (P store) e.1 e.2) :
    (c.record store serial loaded).Only P := by
  unfold Partitioned.record
  split
  · next hcurrent => exact hc.insertAll (h hcurrent)
  · exact hc

end Partitioned

/-! ## What is left alone -/

/-- A partition without the entries of some resources. -/
def Partition.dropped (resource : κ → ResourceId) (ids : List ResourceId)
    (p : Partition κ ν) : Partition κ ν :=
  { p with entries := p.entries.filter fun e => !ids.contains (resource e.1) }

namespace Partitioned

variable {c c' c'' : Partitioned κ ν} {store : StoreName}

/-- The serial number of the partition of a store, if it has one. -/
def serial? (c : Partitioned κ ν) (store : StoreName) : Option Nat :=
  (c.partitions.get? store).map (·.serial)

theorem current_iff {serial : Nat} :
    c.current store serial = true ↔ c.serial? store = some serial := by
  unfold current serial?
  cases c.partitions.get? store <;> simp

/-- The caches differ in their entries and counts alone. -/
structure Alike (c c' : Partitioned κ ν) : Prop where
  config : c'.config = c.config
  scope : c'.scope = c.scope
  serials : c'.serials = c.serials
  serial? : ∀ store, c'.serial? store = c.serial? store

theorem Alike.refl (c : Partitioned κ ν) : c.Alike c :=
  ⟨rfl, rfl, rfl, fun _ => rfl⟩

theorem Alike.trans (h : c.Alike c') (h' : c'.Alike c'') : c.Alike c'' where
  config := h'.config.trans h.config
  scope := h'.scope.trans h.scope
  serials := h'.serials.trans h.serials
  serial? store := (h'.serial? store).trans (h.serial? store)

theorem Alike.current (h : c.Alike c') (store : StoreName) (serial : Nat) :
    c'.current store serial = c.current store serial := by
  rw [Bool.eq_iff_iff, current_iff, current_iff, h.serial?]

theorem alike_setEntries (c : Partitioned κ ν) (store : StoreName)
    (entries : Recency κ ν) : c.Alike (c.setEntries store entries) where
  config := rfl
  scope := rfl
  serials := rfl
  serial? store' := by
    unfold Partitioned.serial? setEntries
    rw [Table.get?_adjust]
    split
    · rw [Option.map_map]
      rfl
    · rfl

theorem get?_forget {resource : κ → ResourceId} (hscope : c.scope = some resource)
    (ids : List ResourceId) (store : StoreName) :
    (c.forget ids).partitions.get? store =
      (c.partitions.get? store).map (Partition.dropped resource ids) := by
  have hforget : (c.forget ids).partitions =
      c.partitions.map fun e => (e.1, Partition.dropped resource ids e.2) := by
    unfold forget
    rw [hscope]
    rfl
  rw [hforget, Table.get?_map_snd]

theorem forget_of_no_scope (hscope : c.scope = none) (ids : List ResourceId) :
    c.forget ids = c := by
  unfold forget
  rw [hscope]

theorem alike_forget (c : Partitioned κ ν) (ids : List ResourceId) :
    c.Alike (c.forget ids) := by
  cases hscope : c.scope with
  | none =>
      rw [forget_of_no_scope hscope]
      exact .refl c
  | some resource =>
      refine ⟨?_, ?_, ?_, fun store => ?_⟩
      · unfold forget
        rw [hscope]
      · unfold forget
        rw [hscope]
      · unfold forget
        rw [hscope]
      · unfold Partitioned.serial?
        rw [get?_forget hscope, Option.map_map]
        rfl

theorem serial?_prepare (c : Partitioned κ ν) (store store' : StoreName) :
    (c.prepare store).serial? store' =
      if store == store' then some ((c.serial? store).getD c.serials)
      else c.serial? store' := by
  unfold prepare Partitioned.serial?
  cases hget : c.partitions.get? store with
  | some p =>
      rw [if_pos (by rw [Table.has_eq_isSome, hget]; rfl)]
      split
      · next hname =>
          rw [← eq_of_beq hname, hget]
          rfl
      · rfl
  | none =>
      rw [if_neg (by rw [Table.has_eq_isSome, hget]; exact Bool.false_ne_true),
        Table.get?_put]
      split <;> rfl

theorem serials_le_prepare (c : Partitioned κ ν) (store : StoreName) :
    c.serials ≤ (c.prepare store).serials := by
  unfold prepare
  split
  · exact Nat.le_refl _
  · exact Nat.le_succ _

theorem scope_prepare (c : Partitioned κ ν) (store : StoreName) :
    (c.prepare store).scope = c.scope := by
  unfold prepare
  split <;> rfl

theorem serial?_flushStore (c : Partitioned κ ν) (store store' : StoreName) :
    (c.flushStore store).serial? store' =
      if store == store' then none else c.serial? store' := by
  unfold Partitioned.serial? flushStore
  rw [Table.get?_erase]
  split <;> rfl

theorem current_flushStore (c : Partitioned κ ν) (store store' : StoreName) (serial : Nat) :
    (c.flushStore store).current store' serial = true ↔
      store ≠ store' ∧ c.current store' serial = true := by
  rw [current_iff, current_iff, serial?_flushStore]
  by_cases hname : store = store' <;> simp [hname]

/-- Every serial number in use is smaller than the next one to be given out. -/
def Bounded (c : Partitioned κ ν) : Prop :=
  ∀ store serial, c.serial? store = some serial → serial < c.serials

theorem Bounded.of_alike (hc : c.Bounded) (h : c.Alike c') : c'.Bounded := by
  intro store serial hserial
  rw [h.serial?] at hserial
  rw [h.serials]
  exact hc store serial hserial

theorem Bounded.prepare (hc : c.Bounded) (store : StoreName) :
    (c.prepare store).Bounded := by
  unfold Partitioned.prepare
  split
  · exact hc
  · intro store' serial hserial
    have hput : ((c.partitions.put store ⟨c.serials, []⟩).get? store').map
        (·.serial) = some serial := hserial
    rw [Table.get?_put] at hput
    show serial < c.serials + 1
    split at hput
    · have hnew : c.serials = serial := Option.some.inj hput
      omega
    · have hold := hc store' serial hput
      omega

theorem bounded_flush (c : Partitioned κ ν) : c.flush.Bounded :=
  fun _ _ h => nomatch h

theorem Bounded.flushStore (hc : c.Bounded) (store : StoreName) :
    (c.flushStore store).Bounded := by
  intro store' serial hserial
  rw [serial?_flushStore] at hserial
  split at hserial
  · cases hserial
  · exact hc store' serial hserial

theorem entries_setEntries (c : Partitioned κ ν) {store : StoreName} {serial : Nat}
    (hserial : c.serial? store = some serial) (entries : Recency κ ν) :
    (c.setEntries store entries).entries store = entries := by
  obtain ⟨p, hp, -⟩ := Option.map_eq_some_iff.1 hserial
  unfold Partitioned.entries setEntries
  rw [Table.get?_adjust, if_pos BEq.rfl, hp]
  rfl

theorem entries_flushStore (c : Partitioned κ ν) (store store' : StoreName) :
    (c.flushStore store).entries store' =
      if store == store' then [] else c.entries store' := by
  unfold Partitioned.entries flushStore
  rw [Table.get?_erase]
  split <;> rfl

theorem entries_forget {resource : κ → ResourceId} (hscope : c.scope = some resource)
    (ids : List ResourceId) (store : StoreName) :
    (c.forget ids).entries store =
      (c.entries store).filter fun e => !ids.contains (resource e.1) := by
  unfold Partitioned.entries
  rw [get?_forget hscope]
  cases c.partitions.get? store <;> rfl

variable [BEq κ]

theorem alike_lookup (c : Partitioned κ ν) (store : StoreName) (k : κ) :
    c.Alike (c.lookup store k).2 := by
  unfold lookup
  split
  · split
    · obtain ⟨hconfig, hscope, hserials, hserial⟩ :=
        c.alike_setEntries store ((c.entries store).touch k)
      exact ⟨hconfig, hscope, hserials, hserial⟩
    · exact ⟨rfl, rfl, rfl, fun _ => rfl⟩
  · exact .refl c

theorem alike_insert (c : Partitioned κ ν) (store : StoreName) (k : κ) (v : Option ν) :
    c.Alike (c.insert store k v) := by
  unfold insert
  split
  · obtain ⟨hconfig, hscope, hserials, hserial⟩ :=
      c.alike_setEntries store ((c.entries store).push c.config.capacity k v).2
    exact ⟨hconfig, hscope, hserials, hserial⟩
  · exact .refl c

theorem alike_insertAll (c : Partitioned κ ν) (store : StoreName)
    (loaded : List (κ × Option ν)) :
    c.Alike (loaded.foldl (fun c e => c.insert store e.1 e.2) c) := by
  induction loaded generalizing c with
  | nil => exact .refl c
  | cons e loaded ih => exact (c.alike_insert store e.1 e.2).trans (ih _)

theorem alike_record (c : Partitioned κ ν) (store : StoreName) (serial : Nat)
    (loaded : List (κ × Option ν)) : c.Alike (c.record store serial loaded) := by
  unfold record
  split
  · exact c.alike_insertAll store loaded
  · exact .refl c

theorem record_nil (c : Partitioned κ ν) (store : StoreName) (serial : Nat) :
    c.record store serial [] = c := by
  unfold record
  split <;> rfl

theorem alike_surveyFrom (c : Partitioned κ ν) (store : StoreName) (found : Survey κ ν)
    (ks : List κ) :
    c.Alike (surveyFrom store found c ks).2 ∧
      (surveyFrom store found c ks).1.serial = found.serial := by
  induction ks generalizing c found with
  | nil => exact ⟨.refl c, rfl⟩
  | cons k ks ih =>
      have hnext := c.alike_lookup store k
      unfold surveyFrom
      split
      · exact ih c found
      · split
        · next v c' hlook =>
            rw [hlook] at hnext
            obtain ⟨halike, hserial⟩ := ih c' { found with
              kept := found.kept ++ [(k, .ofOption v)] }
            exact ⟨hnext.trans halike, hserial⟩
        · next c' hlook =>
            rw [hlook] at hnext
            obtain ⟨halike, hserial⟩ := ih c' { found with
              missing := found.missing ++ [k] }
            exact ⟨hnext.trans halike, hserial⟩

theorem alike_survey (c : Partitioned κ ν) (store : StoreName) (ks : List κ) :
    (c.prepare store).Alike (c.survey store ks).2 :=
  ((c.prepare store).alike_surveyFrom store _ ks).1

/-- A survey names the partition that it has looked into. -/
theorem serial_survey (c : Partitioned κ ν) (store : StoreName) (ks : List κ) :
    (c.survey store ks).2.serial? store = some (c.survey store ks).1.serial := by
  obtain ⟨halike, hserial⟩ := (c.prepare store).alike_surveyFrom store
    ⟨((c.prepare store).serial? store).getD 0, [], []⟩ ks
  refine (halike.serial? store).trans ?_
  refine Eq.trans ?_ (congrArg some hserial.symm)
  rw [serial?_prepare, if_pos BEq.rfl]
  rfl

/-! ### Requests -/

variable {σ : Type}

theorem run_getAllOrLoad (c : Partitioned κ ν) (loader : Loader σ κ ν)
    (store : StoreName) (ks : List κ) (s : σ) :
    (c.getAllOrLoad loader store ks).run s =
      if (c.survey store ks).1.missing.isEmpty then
        ((.ok (c.survey store ks).1.kept, (c.survey store ks).2), s)
      else
        match (loader.loadAll store (c.survey store ks).1.missing).run.run s with
        | (.error e, s') => ((.error e, (c.survey store ks).2), s')
        | (.ok loaded, s') =>
            let fresh := (c.survey store ks).1.missing.map fun k =>
              (k, loadedValue loaded k)
            ((.ok ((c.survey store ks).1.kept ++
                fresh.map fun e => (e.1, .ofOption e.2)),
              (c.survey store ks).2.record store (c.survey store ks).1.serial fresh),
              s') := by
  unfold getAllOrLoad
  generalize c.survey store ks = p
  obtain ⟨found, c'⟩ := p
  cases hmissing : found.missing.isEmpty with
  | true =>
      simp only [hmissing]
      rfl
  | false =>
      simp only [hmissing]
      rw [if_neg Bool.false_ne_true, if_neg Bool.false_ne_true, StateT.run_bind]
      rcases (loader.loadAll store found.missing).run.run s with ⟨r, t⟩
      cases r <;> rfl

/-- A survey of one key finds it kept, or else missing. -/
theorem survey_one (c : Partitioned κ ν) (store : StoreName) (k : κ) :
    ((c.survey store [k]).1.kept = [] ∧ (c.survey store [k]).1.missing = [k]) ∨
      ∃ v, (c.survey store [k]).1.kept = [(k, .ofOption v)] ∧
        (c.survey store [k]).1.missing = [] := by
  unfold survey
  dsimp only
  rw [surveyFrom, if_neg (by simp [Table.has])]
  split
  · next v c' _ => exact .inr ⟨v, rfl, rfl⟩
  · exact .inl ⟨rfl, rfl⟩

theorem survey_single [ReflBEq κ] (c : Partitioned κ ν) (store : StoreName) (k : κ) :
    ((c.survey store [k]).1.missing = [k] ∧ (c.survey store [k]).1.kept.get? k = none) ∨
      ((c.survey store [k]).1.missing = [] ∧
        ((c.survey store [k]).1.kept.get? k).isSome = true) := by
  rcases c.survey_one store k with ⟨hkept, hmissing⟩ | ⟨v, hkept, hmissing⟩
  · exact .inl ⟨hmissing, by rw [hkept]; rfl⟩
  · right
    refine ⟨hmissing, ?_⟩
    rw [hkept, Table.get?_cons, if_pos BEq.rfl]
    rfl

theorem run_getOrLoad (c : Partitioned κ ν) (loader : Loader σ κ ν) (store : StoreName)
    (k : κ) (s : σ) :
    (c.getOrLoad loader store k).run s =
      match (c.survey store [k]).1.kept.get? k with
      | some kept => ((kept.value?, (c.survey store [k]).2), s)
      | none =>
          match (loader.load store k).run s with
          | (.ok v, s') =>
              ((some v, (c.survey store [k]).2.record store (c.survey store [k]).1.serial
                [(k, some v)]), s')
          | (.error .notFound, s') =>
              ((none, (c.survey store [k]).2.record store (c.survey store [k]).1.serial
                [(k, none)]), s')
          | (.error (.failed _), s') => ((none, (c.survey store [k]).2), s') := by
  unfold getOrLoad
  generalize c.survey store [k] = p
  obtain ⟨found, c'⟩ := p
  cases hkept : found.kept.get? k with
  | some kept =>
      simp only [hkept]
      rfl
  | none =>
      simp only [hkept]
      rw [StateT.run_bind]
      rcases (loader.load store k).run s with ⟨r, t⟩
      cases r with
      | ok v => rfl
      | error e => cases e <;> rfl

theorem scope_survey (c : Partitioned κ ν) (store : StoreName) (ks : List κ) :
    (c.survey store ks).2.scope = c.scope :=
  (c.alike_survey store ks).scope.trans (c.scope_prepare store)

theorem scope_getAllOrLoad (c : Partitioned κ ν) (loader : Loader σ κ ν)
    (store : StoreName) (ks : List κ) (s : σ) :
    ((c.getAllOrLoad loader store ks).run s).1.2.scope = c.scope := by
  have hsurvey := c.scope_survey store ks
  rw [run_getAllOrLoad]
  split
  · exact hsurvey
  · split
    · exact hsurvey
    · exact (alike_record _ _ _ _).scope.trans hsurvey

theorem scope_getOrLoad (c : Partitioned κ ν) (loader : Loader σ κ ν)
    (store : StoreName) (k : κ) (s : σ) :
    ((c.getOrLoad loader store k).run s).1.2.scope = c.scope := by
  have hsurvey := c.scope_survey store [k]
  rw [run_getOrLoad]
  split
  · exact hsurvey
  · split
    · exact (alike_record _ _ _ _).scope.trans hsurvey
    · exact (alike_record _ _ _ _).scope.trans hsurvey
    · exact hsurvey

/-! ### What invalidations leave to be seen -/

theorem peek_insert [ReflBEq κ] (henabled : c.config.enabled = true) {serial : Nat}
    (hserial : c.serial? store = some serial) (k : κ) (v : Option ν) :
    (c.insert store k v).peek store k = .ofOption v := by
  have hentries : (c.insert store k v).entries store =
      ((c.entries store).push c.config.capacity k v).2 := by
    unfold Partitioned.insert
    rw [if_pos henabled]
    exact c.entries_setEntries hserial _
  unfold peek
  rw [hentries, Recency.peek?_push]

/-- Equal keys belong to the same resource. -/
def Scoped (c : Partitioned κ ν) : Prop :=
  ∀ resource, c.scope = some resource →
    ∀ x k, (x == k) = true → resource x = resource k

theorem scoped_texts {c : Partitioned Key ν} (h : c.scope = some Key.resource) :
    c.Scoped := by
  intro resource hscope x k hx
  obtain rfl := Option.some.inj (h.symm.trans hscope)
  exact congrArg Prod.fst (Key.beq_iff.1 hx)

theorem Scoped.of_scope (hc : c.Scoped) (h : c'.scope = c.scope) : c'.Scoped :=
  fun resource hscope => hc resource (h.symm.trans hscope)

theorem peek_of_no_entries {k : κ} (h : c.entries store = []) :
    c.peek store k = .unknown := by
  unfold peek
  rw [h]
  rfl

theorem peek_forget (hc : c.Scoped) {resource : κ → ResourceId}
    (hscope : c.scope = some resource) (ids : List ResourceId) (store : StoreName)
    (k : κ) :
    (c.forget ids).peek store k =
      if resource k ∈ ids then .unknown else c.peek store k := by
  unfold peek
  rw [entries_forget hscope,
    Recency.peek?_drop _ _ fun x hx => hc resource hscope x k hx]
  by_cases hmem : resource k ∈ ids
  · rw [if_pos hmem, if_pos hmem]
  · rw [if_neg hmem, if_neg hmem]

end Partitioned

end Nomenclator.Cache
