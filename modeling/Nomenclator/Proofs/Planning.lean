import Nomenclator.Proofs.Merging

/-!
# A plan is a sum over a set of events

Merging goes through the events one by one, but what each of them adds is a member of a
set, a greater epoch, or a mark that stays once it is made. So the plan says of the
events only which there are: `Sums` spells this out, one event at a time. A mark for a
full flush empties the sets in the end, whenever it was made.

Events with one identity count once, and it is the earliest of them that counts. When
they are equal this is no choice, and then the order of the events and how often they
are repeated cannot be seen at all.
-/

namespace Nomenclator.Invalidation

/-! ## What one change adds -/

namespace Change

/-- Everything is stale after the change. -/
def Flushes (c : Change) : Prop := c = .configuration ∨ c = .reload

/-- Resolver chains are stale after the change. -/
def Rebuilds (c : Change) : Prop := c.Flushes ∨ c = .services

/-- The change says that this store is stale. -/
def Drops (c : Change) (s : StoreName) : Prop := c = .store s

/-- The change says that this resource is stale. -/
def Forgets (c : Change) (id : ResourceId) : Prop := ∃ ids, c = .resources ids ∧ id ∈ ids

end Change

namespace Plan

variable {es es' : List Event} {p p' : Plan}

theorem distinct_nodup {κ : Type} [BEq κ] [LawfulBEq κ] (ks : List κ) : (distinct ks).Nodup :=
  unrepeated_iff_nodup.1 (distinct_unrepeated ks)

theorem flushAll_add (p : Plan) (e : Event) :
    (p.add e).flushAll = true ↔ p.flushAll = true ∨ e.change.Flushes := by
  obtain ⟨id, epoch, change⟩ := e
  cases change <;> simp [add, Change.Flushes]

theorem rebuild_add (p : Plan) (e : Event) :
    (p.add e).rebuild = true ↔ p.rebuild = true ∨ e.change.Rebuilds := by
  obtain ⟨id, epoch, change⟩ := e
  cases change <;> simp [add, Change.Rebuilds, Change.Flushes]

theorem mem_stores_add (p : Plan) (e : Event) (s : StoreName) :
    s ∈ (p.add e).stores ↔ s ∈ p.stores ∨ e.change.Drops s := by
  obtain ⟨id, epoch, change⟩ := e
  cases change <;> simp [add, Change.Drops, mem_distinct, eq_comm]

theorem mem_ids_add (p : Plan) (e : Event) (id : ResourceId) :
    id ∈ (p.add e).ids ↔ id ∈ p.ids ∨ e.change.Forgets id := by
  obtain ⟨_, epoch, change⟩ := e
  cases change <;> simp [add, Change.Forgets, mem_distinct]

theorem latest_add (p : Plan) (e : Event) :
    (p.add e).latest = some (match p.latest with
      | some t => max t e.epoch
      | Option.none => e.epoch) := by
  obtain ⟨id, epoch, change⟩ := e
  cases change <;> rfl

theorem nodup_add (hstores : p.stores.Nodup) (hids : p.ids.Nodup) (e : Event) :
    (p.add e).stores.Nodup ∧ (p.add e).ids.Nodup := by
  obtain ⟨id, epoch, change⟩ := e
  cases change with
  | resources new => exact ⟨hstores, distinct_nodup _⟩
  | store name => exact ⟨distinct_nodup _, hids⟩
  | configuration | services | reload => exact ⟨hstores, hids⟩

/-! ## What many changes add -/

/-- Before a full flush empties it, a plan holds what some events add, and nothing
twice. -/
structure Sums (es : List Event) (p : Plan) : Prop where
  flushAll : p.flushAll = true ↔ ∃ e ∈ es, e.change.Flushes
  rebuild : p.rebuild = true ↔ ∃ e ∈ es, e.change.Rebuilds
  stores : ∀ s, s ∈ p.stores ↔ ∃ e ∈ es, e.change.Drops s
  ids : ∀ id, id ∈ p.ids ↔ ∃ e ∈ es, e.change.Forgets id
  latest : p.latest = (es.map (·.epoch)).max?
  nodup : p.stores.Nodup ∧ p.ids.Nodup

theorem sums_none : Sums [] none where
  flushAll := by simp [none]
  rebuild := by simp [none]
  stores := by simp [none]
  ids := by simp [none]
  latest := rfl
  nodup := ⟨.nil, .nil⟩

theorem max?_snoc (ts : List Nat) (t : Nat) :
    (ts ++ [t]).max? = some (match ts.max? with
      | some u => max u t
      | Option.none => t) := by
  cases ts with
  | nil => rfl
  | cons u ts =>
      rw [List.cons_append, List.max?_cons', List.max?_cons', List.foldl_append]
      rfl

theorem Sums.add (h : Sums es p) (e : Event) : Sums (es ++ [e]) (p.add e) := by
  have hsome : ∀ q : Event → Prop,
      (∃ x ∈ es ++ [e], q x) ↔ (∃ x ∈ es, q x) ∨ q e := by
    intro q
    simp [or_and_right, exists_or]
  exact {
    flushAll := by rw [flushAll_add, hsome, h.flushAll]
    rebuild := by rw [rebuild_add, hsome, h.rebuild]
    stores := fun s => by rw [mem_stores_add, hsome, h.stores s]
    ids := fun id => by rw [mem_ids_add, hsome, h.ids id]
    latest := by rw [latest_add, List.map_append, List.map_singleton, max?_snoc, h.latest]
    nodup := nodup_add h.nodup.1 h.nodup.2 e }

theorem Sums.foldl_add (h : Sums es p) (rest : List Event) :
    Sums (es ++ rest) (rest.foldl Plan.add p) := by
  induction rest generalizing es p with
  | nil => rwa [List.append_nil]
  | cons e rest ih =>
      rw [List.append_cons]
      exact ih (h.add e)

/-- The plan of the events themselves. -/
theorem sums_foldl_add (es : List Event) : Sums es (es.foldl add none) :=
  sums_none.foldl_add es

/-! ## The same plan -/

/-- Two plans ask for the same. What they name, they may name in another order. -/
structure Same (p p' : Plan) : Prop where
  flushAll : p.flushAll = p'.flushAll
  stores : p.stores.Perm p'.stores
  ids : p.ids.Perm p'.ids
  rebuild : p.rebuild = p'.rebuild
  latest : p.latest = p'.latest

theorem max?_congr {ts ts' : List Nat} (h : ∀ t, t ∈ ts ↔ t ∈ ts') : ts.max? = ts'.max? := by
  ext t
  simp only [List.max?_eq_some_iff, h]

/-- Which events there are is all that counts. -/
theorem Sums.same (h : Sums es p) (h' : Sums es' p') (hmem : ∀ e, e ∈ es ↔ e ∈ es') :
    p.Same p' where
  flushAll := by
    rw [Bool.eq_iff_iff, h.flushAll, h'.flushAll]
    simp only [hmem]
  stores := (List.perm_ext_iff_of_nodup h.nodup.1 h'.nodup.1).2 fun s => by
    rw [h.stores, h'.stores]
    simp only [hmem]
  ids := (List.perm_ext_iff_of_nodup h.nodup.2 h'.nodup.2).2 fun id => by
    rw [h.ids, h'.ids]
    simp only [hmem]
  rebuild := by
    rw [Bool.eq_iff_iff, h.rebuild, h'.rebuild]
    simp only [hmem]
  latest := by
    rw [h.latest, h'.latest]
    refine max?_congr fun t => ?_
    simp only [List.mem_map, hmem]

theorem Same.absorb (h : p.Same p') : p.absorb.Same p'.absorb := by
  unfold Plan.absorb
  rw [h.flushAll]
  split
  · exact ⟨rfl, .nil, .nil, h.rebuild, h.latest⟩
  · exact h

/-! ## Events with one identity -/

theorem firstOfEach_sublist (seen : List Nat) (es : List Event) :
    (firstOfEach seen es).Sublist es := by
  induction es generalizing seen with
  | nil => exact .slnil
  | cons e es ih =>
      rw [firstOfEach]
      split
      · exact (ih seen).cons e
      · exact (ih _).cons_cons e

theorem unseen_of_mem_firstOfEach {seen : List Nat} {e : Event}
    (he : e ∈ firstOfEach seen es) : e.id ∉ seen := by
  induction es generalizing seen with
  | nil => cases he
  | cons x es ih =>
      rw [firstOfEach] at he
      split at he
      · exact ih he
      · next hx =>
          rcases List.mem_cons.1 he with rfl | he
          · exact hx
          · exact fun hseen => ih he (List.mem_cons_of_mem x.id hseen)

theorem ids_firstOfEach_nodup (seen : List Nat) (es : List Event) :
    ((firstOfEach seen es).map Event.id).Nodup := by
  induction es generalizing seen with
  | nil => exact .nil
  | cons e es ih =>
      rw [firstOfEach]
      split
      · exact ih seen
      · refine List.nodup_cons.2 ⟨fun hmem => ?_, ih _⟩
        obtain ⟨e', he', hid⟩ := List.mem_map.1 hmem
        exact unseen_of_mem_firstOfEach he' (hid ▸ List.mem_cons_self)

/-- No identity is lost. -/
theorem exists_mem_firstOfEach {seen : List Nat} {e : Event} (he : e ∈ es)
    (hseen : e.id ∉ seen) : ∃ e' ∈ firstOfEach seen es, e'.id = e.id := by
  induction es generalizing seen with
  | nil => cases he
  | cons x es ih =>
      rw [firstOfEach]
      by_cases hx : x.id = e.id
      · rw [if_neg (hx ▸ hseen)]
        exact ⟨x, List.mem_cons_self, hx⟩
      · have hrest : e ∈ es := by
          rcases List.mem_cons.1 he with rfl | he
          · exact absurd rfl hx
          · exact he
        split
        · exact ih hrest hseen
        · have hunseen : e.id ∉ x.id :: seen := fun hmem =>
            (List.mem_cons.1 hmem).elim (fun h => hx h.symm) hseen
          obtain ⟨e', he', hid⟩ := ih hrest hunseen
          exact ⟨e', List.mem_cons_of_mem x he', hid⟩

theorem firstOfEach_eq (seen : List Nat) (es : List Event) :
    firstOfEach seen es =
      (es.filter fun e => decide (e.id ∉ seen)).eraseDupsBy fun e e' => e.id == e'.id := by
  induction es generalizing seen with
  | nil => rfl
  | cons e es ih =>
      rw [firstOfEach]
      by_cases hseen : e.id ∈ seen
      · rw [if_pos hseen, ih, List.filter_cons_of_neg (by simpa using hseen)]
      · rw [if_neg hseen, ih, List.filter_cons_of_pos (by simpa using hseen),
          List.eraseDupsBy_cons, List.filter_filter]
        congr 3
        funext e'
        simp

/-- The events that count, in other words. -/
theorem firstOfEach_nil (es : List Event) :
    firstOfEach [] es = es.eraseDupsBy fun e e' => e.id == e'.id := by
  rw [firstOfEach_eq, List.filter_eq_self.2 fun _ _ => by simp]

theorem firstOfEach_idem (es : List Event) :
    firstOfEach [] (firstOfEach [] es) = firstOfEach [] es :=
  firstOfEach_eq_self (fun _ _ => List.not_mem_nil) (ids_firstOfEach_nodup [] es)

/-- When an identity stands for one event, all events count. -/
theorem mem_firstOfEach_iff (hone : ∀ e ∈ es, ∀ e' ∈ es, e.id = e'.id → e = e') (e : Event) :
    e ∈ firstOfEach [] es ↔ e ∈ es := by
  refine ⟨fun he => (firstOfEach_sublist [] es).subset he, fun he => ?_⟩
  obtain ⟨e', he', hid⟩ := exists_mem_firstOfEach he List.not_mem_nil
  rwa [hone e he e' ((firstOfEach_sublist [] es).subset he') hid.symm]

/-! ## Plans -/

theorem isEmpty_iff :
    p.isEmpty = true ↔ p.flushAll = false ∧ p.stores = [] ∧ p.ids = [] ∧ p.rebuild = false := by
  simp [isEmpty, and_assoc]

theorem isEmpty_absorb : p.absorb.isEmpty = p.isEmpty := by
  obtain ⟨flushAll, stores, ids, rebuild, latest⟩ := p
  cases flushAll <;> rfl

/-- There is nothing to do just when nothing was said to be stale. -/
theorem Sums.isEmpty_iff (h : Sums es p) :
    p.isEmpty = true ↔ ∀ e ∈ es, e.change = .resources [] := by
  rw [Plan.isEmpty_iff, ← Bool.not_eq_true, h.flushAll, ← Bool.not_eq_true, h.rebuild,
    List.eq_nil_iff_forall_not_mem, List.eq_nil_iff_forall_not_mem]
  simp only [h.stores, h.ids]
  constructor
  · rintro ⟨hflushes, hstores, hids, hrebuilds⟩ e he
    cases hchange : e.change with
    | resources ids =>
        congr
        exact List.eq_nil_iff_forall_not_mem.2 fun id hid =>
          hids id ⟨e, he, ids, hchange, hid⟩
    | store name => exact absurd ⟨e, he, hchange⟩ (hstores name)
    | configuration => exact absurd ⟨e, he, .inl hchange⟩ hflushes
    | services => exact absurd ⟨e, he, .inr hchange⟩ hrebuilds
    | reload => exact absurd ⟨e, he, .inr hchange⟩ hflushes
  · intro hall
    simp +contextual [hall, Change.Flushes, Change.Rebuilds, Change.Drops, Change.Forgets]

/-- What a plan says once a full flush has left nothing to be named. -/
theorem Sums.absorb (h : Sums es p) :
    (p.absorb.flushAll = true ↔ ∃ e ∈ es, e.change.Flushes) ∧
    (p.absorb.rebuild = true ↔ ∃ e ∈ es, e.change.Rebuilds) ∧
    p.absorb.latest = (es.map (·.epoch)).max? ∧
    (∀ s, s ∈ p.absorb.stores ↔ p.absorb.flushAll = false ∧ ∃ e ∈ es, e.change.Drops s) ∧
    (∀ id, id ∈ p.absorb.ids ↔ p.absorb.flushAll = false ∧ ∃ e ∈ es, e.change.Forgets id) ∧
    p.absorb.stores.Nodup ∧ p.absorb.ids.Nodup := by
  unfold Plan.absorb
  cases hall : p.flushAll with
  | true =>
      refine ⟨?_, h.rebuild, h.latest, fun s => ?_, fun id => ?_, .nil, .nil⟩
      · rw [← h.flushAll, hall]
        rfl
      · exact iff_of_false List.not_mem_nil fun h => nomatch (h.1 : true = false)
      · exact iff_of_false List.not_mem_nil fun h => nomatch (h.1 : true = false)
  | false =>
      refine ⟨h.flushAll, h.rebuild, h.latest, fun s => ?_, fun id => ?_, h.nodup⟩
      · exact (h.stores s).trans (and_iff_right hall).symm
      · exact (h.ids id).trans (and_iff_right hall).symm

/-- Of events with one identity, a plan takes the earliest and would be the same plan
without the others. When they are all alike, it would be the same plan for any events of
which there are the same, in whichever order and however often. Whether it flushes or
rebuilds everything, how late it is, what it names and whether it is empty is then said
event by event. -/
theorem ofEvents_determined (es : List Event) :
    let firsts := es.eraseDupsBy fun e e' => e.id == e'.id
    let plan := ofEvents es
    ofEvents firsts = plan ∧
    ((∀ e ∈ es, ∀ e' ∈ es, e.id = e'.id → e = e') →
      ∀ es', (∀ e, e ∈ es' ↔ e ∈ es) → (ofEvents es').Same plan) ∧
    (plan.flushAll = true ↔
      ∃ e ∈ firsts, e.change = .configuration ∨ e.change = .reload) ∧
    (plan.rebuild = true ↔
      ∃ e ∈ firsts, (e.change = .configuration ∨ e.change = .reload) ∨ e.change = .services) ∧
    plan.latest = (firsts.map (·.epoch)).max? ∧ (plan.latest = Option.none ↔ es = []) ∧
    (∀ s, s ∈ plan.stores ↔ plan.flushAll = false ∧ ∃ e ∈ firsts, e.change = .store s) ∧
    (∀ id, id ∈ plan.ids ↔ plan.flushAll = false ∧
      ∃ e ∈ firsts, ∃ ids, e.change = .resources ids ∧ id ∈ ids) ∧
    plan.stores.Nodup ∧ plan.ids.Nodup ∧
    (plan.isEmpty = true ↔ ∀ e ∈ firsts, e.change = .resources []) := by
  intro firsts plan
  have hfirsts : firstOfEach [] es = firsts := firstOfEach_nil es
  have hsums : Sums firsts (firsts.foldl add none) := sums_foldl_add firsts
  have hplan : plan = (firsts.foldl add none).absorb := by
    rw [← hfirsts]
    rfl
  obtain ⟨hflushAll, hrebuild, hlatest, hstores, hids, hnodup⟩ := hsums.absorb
  rw [← hplan] at hflushAll hrebuild hlatest hstores hids hnodup
  refine ⟨?_, fun hone es' hmem => ?_, hflushAll, hrebuild, hlatest, ?_, hstores, hids,
    hnodup.1, hnodup.2, ?_⟩
  · rw [← hfirsts]
    show ((firstOfEach [] (firstOfEach [] es)).foldl add none).absorb = plan
    rw [firstOfEach_idem]
    rfl
  · have hone' : ∀ e ∈ es', ∀ e' ∈ es', e.id = e'.id → e = e' :=
      fun e he e' he' => hone e ((hmem e).1 he) e' ((hmem e').1 he')
    refine ((sums_foldl_add _).same (sums_foldl_add _) fun e => ?_).absorb
    rw [mem_firstOfEach_iff hone', hmem, mem_firstOfEach_iff hone]
  · rw [hlatest, List.max?_eq_none_iff, List.map_eq_nil_iff, ← hfirsts]
    cases es <;> simp [firstOfEach]
  · rw [hplan, isEmpty_absorb]
    exact hsums.isEmpty_iff

/-- The same two changes, with one of them told twice and the other in front. -/
theorem ofEvents_determined_told_twice :
    let types : Event := ⟨0, 3, .resources ["a", "b"]⟩
    let store : Event := ⟨1, 4, .store "main"⟩
    (∀ e ∈ [types, store], ∀ e' ∈ [types, store], e.id = e'.id → e = e') ∧
    (∀ e, e ∈ [store, types, types] ↔ e ∈ [types, store]) ∧
    (ofEvents [store, types, types]).Same ⟨false, ["main"], ["a", "b"], false, some 4⟩ := by
  intro types store
  have hone : ∀ e ∈ [types, store], ∀ e' ∈ [types, store], e.id = e'.id → e = e' := by decide
  have hmem : ∀ e, e ∈ [store, types, types] ↔ e ∈ [types, store] := by
    intro e
    simp only [List.mem_cons, List.not_mem_nil]
    grind
  exact ⟨hone, hmem, (ofEvents_determined [types, store]).2.1 hone _ hmem⟩

end Plan

end Nomenclator.Invalidation
