import Nomenclator.Cache.Partitioned
import Nomenclator.Discovery
import Nomenclator.Invalidation.Relay
import Nomenclator.Proofs.Splitting

/-!
# Merging events does not change their effect

A consumption merges a batch of events into one plan, which drops whole stores
before single resources, names everything once, and forgets both as soon as
everything is dropped. None of this shows: on a cache the plan does what the
events do one after the other, and so the limit of a batch decides how many
consumptions there are and nothing else.

The reason is that all that an event can do to a cache is to filter it. Dropping
stores filters partitions by their names, dropping resources filters entries by
their keys, so the two commute and each can be repeated at will; dropping
everything leaves nothing for the others to filter.
-/

namespace Nomenclator

open Cache (Partitioned)

/-! ## Filters on a cache -/

namespace Cache.Partitioned

variable {κ ν : Type}

/-- Dropping several stores. -/
def flushStores (c : Partitioned κ ν) (stores : List StoreName) : Partitioned κ ν :=
  stores.foldl flushStore c

theorem flushStores_eq (c : Partitioned κ ν) (stores : List StoreName) :
    c.flushStores stores =
      { c with partitions := c.partitions.filter fun e => !stores.contains e.1 } := by
  induction stores generalizing c with
  | nil =>
      have hall : (c.partitions.filter fun e =>
          !([] : List StoreName).contains e.1) = c.partitions :=
        List.filter_eq_self.2 fun _ _ => rfl
      rw [hall]
      rfl
  | cons s stores ih =>
      show (c.flushStore s).flushStores stores = _
      rw [ih]
      simp only [flushStore, Table.erase, List.filter_filter, List.contains_cons,
        Bool.not_or, Bool.and_comm]

/-- Only which stores are dropped matters. -/
theorem flushStores_congr (c : Partitioned κ ν) {stores stores' : List StoreName}
    (h : ∀ s, s ∈ stores ↔ s ∈ stores') :
    c.flushStores stores = c.flushStores stores' := by
  have hsame : stores.contains = stores'.contains := by
    funext s
    rw [Bool.eq_iff_iff, List.contains_iff_mem, List.contains_iff_mem, h s]
  rw [flushStores_eq, flushStores_eq, hsame]

theorem flushStores_append (c : Partitioned κ ν) (stores : List StoreName)
    (s : StoreName) :
    c.flushStores (stores ++ [s]) = (c.flushStores stores).flushStore s :=
  List.foldl_append

theorem forget_nil (c : Partitioned κ ν) : c.forget [] = c := by
  obtain ⟨id, config, scope, partitions, serials, hits, misses, evictions⟩ := c
  cases scope with
  | none => rfl
  | some resource =>
      have hall : ∀ r : Cache.Recency κ ν, r.filter (fun f =>
          !([] : List ResourceId).contains (resource f.1)) = r :=
        fun r => List.filter_eq_self.2 fun _ _ => rfl
      simp only [forget, hall, List.map_id']

theorem forget_append (c : Partitioned κ ν) (ids ids' : List ResourceId) :
    c.forget (ids ++ ids') = (c.forget ids).forget ids' := by
  obtain ⟨id, config, scope, partitions, serials, hits, misses, evictions⟩ := c
  cases scope with
  | none => rfl
  | some resource =>
      simp only [forget, List.map_map, Function.comp_def, List.filter_filter,
        List.contains_append, Bool.not_or, Bool.and_comm]

/-- Only which resources are dropped matters. -/
theorem forget_congr (c : Partitioned κ ν) {ids ids' : List ResourceId}
    (h : ∀ id, id ∈ ids ↔ id ∈ ids') : c.forget ids = c.forget ids' := by
  have hsame : ids.contains = ids'.contains := by
    funext id
    rw [Bool.eq_iff_iff, List.contains_iff_mem, List.contains_iff_mem, h id]
  unfold forget
  rw [hsame]

theorem flushStore_idem (c : Partitioned κ ν) (s : StoreName) :
    (c.flushStore s).flushStore s = c.flushStore s := by
  have htwice : c.flushStores [s, s] = c.flushStores [s] :=
    flushStores_congr c fun t => by simp
  exact htwice

theorem forget_idem (c : Partitioned κ ν) (ids : List ResourceId) :
    (c.forget ids).forget ids = c.forget ids := by
  rw [← forget_append]
  exact forget_congr c fun id => by rw [List.mem_append, or_self]

/-- Stores and resources can be dropped in any order. -/
theorem flushStore_forget (c : Partitioned κ ν) (s : StoreName)
    (ids : List ResourceId) :
    (c.forget ids).flushStore s = (c.flushStore s).forget ids := by
  obtain ⟨id, config, scope, partitions, serials, hits, misses, evictions⟩ := c
  cases scope with
  | none => rfl
  | some resource =>
      simp only [forget, flushStore, Table.erase, List.filter_map, Function.comp_def]

theorem flush_forget (c : Partitioned κ ν) (ids : List ResourceId) :
    c.flush.forget ids = c.flush := by
  obtain ⟨id, config, scope, partitions, serials, hits, misses, evictions⟩ := c
  cases scope <;> rfl

theorem forget_flush (c : Partitioned κ ν) (ids : List ResourceId) :
    (c.forget ids).flush = c.flush := by
  obtain ⟨id, config, scope, partitions, serials, hits, misses, evictions⟩ := c
  cases scope <;> rfl

end Cache.Partitioned

/-! ## Events and plans

What an event does to one cache and to one memo of chains, and what a plan does
to them. Adding an event to a plan adds its effect behind the others, although
the plan may carry it out before them. -/

namespace Invalidation

variable {κ ν η σ : Type}

/-- What a change does to a cache. -/
def Change.onCache (change : Change) (c : Partitioned κ ν) : Partitioned κ ν :=
  match change with
  | .resources ids => c.forget ids
  | .store name => c.flushStore name
  | .configuration | .reload => c.flush
  | .services => c

/-- What a change does to kept chains. -/
def Change.onMemo (change : Change) (m : Discovery.Memo η σ) : Discovery.Memo η σ :=
  match change with
  | .resources _ | .store _ => m
  | .configuration | .services | .reload => m.reload

namespace Plan

/-- What a plan does to a cache. -/
def onCache (p : Plan) (c : Partitioned κ ν) : Partitioned κ ν :=
  if p.flushAll then c.flush else (c.flushStores p.stores).forget p.ids

/-- What a plan does to kept chains. -/
def onMemo (p : Plan) (m : Discovery.Memo η σ) : Discovery.Memo η σ :=
  if p.rebuild then m.reload else m

theorem flush_onCache (p : Plan) (c : Partitioned κ ν) :
    (p.onCache c).flush = c.flush := by
  unfold onCache
  split
  · rfl
  · rw [Partitioned.forget_flush, Partitioned.flushStores_eq]
    rfl

theorem add_onCache (p : Plan) (e : Event) (c : Partitioned κ ν) :
    (p.add e).onCache c = e.change.onCache (p.onCache c) := by
  obtain ⟨id, epoch, change⟩ := e
  obtain ⟨flushAll, stores, ids, rebuild, latest⟩ := p
  cases change with
  | resources new =>
      cases flushAll with
      | true => exact (Partitioned.flush_forget c new).symm
      | false =>
          show (c.flushStores stores).forget (distinct (ids ++ new)) =
            ((c.flushStores stores).forget ids).forget new
          rw [← Partitioned.forget_append]
          exact Partitioned.forget_congr _ fun _ => mem_distinct
  | store name =>
      cases flushAll with
      | true => rfl
      | false =>
          -- The plan drops stores first, so this one has to pass the resources.
          show (c.flushStores (distinct (stores ++ [name]))).forget ids =
            ((c.flushStores stores).forget ids).flushStore name
          rw [Partitioned.flushStore_forget, ← Partitioned.flushStores_append,
            Partitioned.flushStores_congr c fun _ => mem_distinct]
  | configuration => exact (flush_onCache _ c).symm
  | reload => exact (flush_onCache _ c).symm
  | services => rfl

theorem add_onMemo (p : Plan) (e : Event) (m : Discovery.Memo η σ) :
    (p.add e).onMemo m = e.change.onMemo (p.onMemo m) := by
  obtain ⟨id, epoch, change⟩ := e
  obtain ⟨flushAll, stores, ids, rebuild, latest⟩ := p
  cases change <;> cases rebuild <;> rfl

theorem foldl_add_onCache (es : List Event) (p : Plan) (c : Partitioned κ ν) :
    (es.foldl add p).onCache c =
      es.foldl (fun c e => e.change.onCache c) (p.onCache c) := by
  induction es generalizing p with
  | nil => rfl
  | cons e es ih =>
      show (es.foldl add (p.add e)).onCache c = _
      rw [ih, add_onCache]
      rfl

theorem foldl_add_onMemo (es : List Event) (p : Plan) (m : Discovery.Memo η σ) :
    (es.foldl add p).onMemo m =
      es.foldl (fun m e => e.change.onMemo m) (p.onMemo m) := by
  induction es generalizing p with
  | nil => rfl
  | cons e es ih =>
      show (es.foldl add (p.add e)).onMemo m = _
      rw [ih, add_onMemo]
      rfl

theorem firstOfEach_eq_self {seen : List Nat} {es : List Event}
    (hnew : ∀ e ∈ es, e.id ∉ seen) (hdistinct : (es.map Event.id).Nodup) :
    firstOfEach seen es = es := by
  induction es generalizing seen with
  | nil => rfl
  | cons e es ih =>
      obtain ⟨hhead, htail⟩ := List.nodup_cons.1 hdistinct
      rw [firstOfEach, if_neg (hnew e List.mem_cons_self), ih _ htail]
      intro e' he' hmem
      rcases List.mem_cons.1 hmem with hid | hid
      · exact hhead (hid ▸ List.mem_map_of_mem he')
      · exact hnew e' (List.mem_cons_of_mem e he') hid

theorem absorb_onCache (p : Plan) (c : Partitioned κ ν) :
    p.absorb.onCache c = p.onCache c := by
  obtain ⟨flushAll, stores, ids, rebuild, latest⟩ := p
  cases flushAll <;> rfl

theorem absorb_onMemo (p : Plan) (m : Discovery.Memo η σ) :
    p.absorb.onMemo m = p.onMemo m := by
  obtain ⟨flushAll, stores, ids, rebuild, latest⟩ := p
  cases flushAll <;> rfl

theorem ofEvents_eq {es : List Event} (hdistinct : (es.map Event.id).Nodup) :
    ofEvents es = (es.foldl add none).absorb := by
  unfold ofEvents
  rw [firstOfEach_eq_self (fun _ _ => List.not_mem_nil) hdistinct]

/-- The plan of some events does to a cache what they do one after the other. -/
theorem ofEvents_onCache {es : List Event} (hdistinct : (es.map Event.id).Nodup)
    (c : Partitioned κ ν) :
    (ofEvents es).onCache c = es.foldl (fun c e => e.change.onCache c) c := by
  have hnone : Plan.none.onCache c = c := Partitioned.forget_nil c
  rw [ofEvents_eq hdistinct, absorb_onCache, foldl_add_onCache, hnone]

/-- The plan of some events does to kept chains what they do one after the
other. -/
theorem ofEvents_onMemo {es : List Event} (hdistinct : (es.map Event.id).Nodup)
    (m : Discovery.Memo η σ) :
    (ofEvents es).onMemo m = es.foldl (fun m e => e.change.onMemo m) m := by
  rw [ofEvents_eq hdistinct, absorb_onMemo, foldl_add_onMemo]
  rfl

end Plan

namespace Registry

theorem liveTargets_of_forall (r : Registry η) {alive : η → Bool}
    (h : ∀ e ∈ r.targets, alive e.2 = true) :
    r.liveTargets alive = (r.targets.map (·.2), r) := by
  unfold liveTargets
  rw [List.filter_eq_self.2 h]

theorem liveReloadables_of_forall (r : Registry η) {alive : η → Bool}
    (h : ∀ e ∈ r.reloadables, alive e.2 = true) :
    r.liveReloadables alive = (r.reloadables.map (·.2), r) := by
  unfold liveReloadables
  rw [List.filter_eq_self.2 h]

end Registry

/-! ## Everything that is registered

The caches may keep values of different kinds under keys of different kinds, so
their types depend on which cache it is. Nothing but a registration can reach
them here, and everything registered stays alive. -/

/-- A registered object: one of the caches or one of the discoveries. -/
inductive Handle (ι δ : Type) where
  | cache (i : ι)
  | chains (d : δ)
  deriving DecidableEq

/-- All caches, and the chains that each discovery keeps. -/
structure Holdings {ι : Type} (δ : Type) (κ ν : ι → Type) (η σ : Type) where
  caches : (i : ι) → Partitioned (κ i) (ν i)
  memos : δ → Discovery.Memo η σ

namespace Holdings

variable {ι δ : Type} [DecidableEq ι] [DecidableEq δ] {κ ν : ι → Type} {η σ : Type}

/-- Changes one cache. -/
def onCache (i : ι) (f : (i : ι) → Partitioned (κ i) (ν i) → Partitioned (κ i) (ν i))
    (w : Holdings δ κ ν η σ) : Holdings δ κ ν η σ :=
  { w with caches := fun j => if j = i then f j (w.caches j) else w.caches j }

/-- Changes the chains of one discovery. -/
def onMemo (d : δ) (g : Discovery.Memo η σ → Discovery.Memo η σ)
    (w : Holdings δ κ ν η σ) : Holdings δ κ ν η σ :=
  { w with memos := fun e => if e = d then g (w.memos e) else w.memos e }

/-- How caches and discoveries react: a discovery ignores what is dropped, and a
cache is never rebuilt. -/
def reactions : Reactions (Handle ι δ) (Holdings δ κ ν η σ) where
  alive _ _ := true
  target
    | .cache i =>
        { flush := onCache i fun _ c => c.flush
          forget := fun ids => onCache i fun _ c => c.forget ids
          flushStore := fun s => onCache i fun _ c => c.flushStore s }
    | .chains _ => { flush := id }
  reload
    | .cache _, w => w
    | .chains d, w => w.onMemo d Discovery.Memo.reload

/-- Changes the caches and the chains among some objects. -/
def among (handles : List (Handle ι δ))
    (f : (i : ι) → Partitioned (κ i) (ν i) → Partitioned (κ i) (ν i))
    (g : Discovery.Memo η σ → Discovery.Memo η σ) (w : Holdings δ κ ν η σ) :
    Holdings δ κ ν η σ where
  caches i := if .cache i ∈ handles then f i (w.caches i) else w.caches i
  memos d := if .chains d ∈ handles then g (w.memos d) else w.memos d

/-- Calling some objects one after the other, when it makes no difference how
often one of them is called. -/
theorem foldl_among (handles : List (Handle ι δ))
    (act : Handle ι δ → Holdings δ κ ν η σ → Holdings δ κ ν η σ)
    {f : (i : ι) → Partitioned (κ i) (ν i) → Partitioned (κ i) (ν i)}
    {g : Discovery.Memo η σ → Discovery.Memo η σ}
    (hf : ∀ i c, f i (f i c) = f i c) (hg : ∀ m, g (g m) = g m)
    (hcache : ∀ i w, act (.cache i) w = w.onCache i f)
    (hchains : ∀ d w, act (.chains d) w = w.onMemo d g) (w : Holdings δ κ ν η σ) :
    handles.foldl (fun w h => act h w) w = w.among handles f g := by
  induction handles generalizing w with
  | nil => rfl
  | cons h handles ih =>
      rw [List.foldl_cons, ih]
      cases h with
      | cache i =>
          rw [hcache]
          unfold among onCache
          congr 1
          · funext j
            by_cases hj : j = i
            · subst hj
              by_cases hmem : Handle.cache j ∈ handles
              · simp [hmem, hf]
              · simp [hmem]
            · simp [hj]
          · funext d
            simp
      | chains d =>
          rw [hchains]
          unfold among onMemo
          congr 1
          · funext i
            simp
          · funext e
            by_cases he : e = d
            · subst he
              by_cases hmem : Handle.chains e ∈ handles
              · simp [hmem, hg]
              · simp [hmem]
            · simp [he]

omit [DecidableEq ι] in
theorem onMemo_id (d : δ) (w : Holdings δ κ ν η σ) : w.onMemo d id = w := by
  unfold onMemo
  simp only [id, ite_self]

theorem among_id (handles : List (Handle ι δ)) (w : Holdings δ κ ν η σ) :
    w.among handles (fun _ c => c) id = w := by
  unfold among
  simp only [id, ite_self]

theorem among_among (handles : List (Handle ι δ))
    (f f' : (i : ι) → Partitioned (κ i) (ν i) → Partitioned (κ i) (ν i))
    (w : Holdings δ κ ν η σ) :
    (w.among handles f id).among handles f' id =
      w.among handles (fun i c => f' i (f i c)) id := by
  unfold among
  congr 1
  · funext i
    by_cases hmem : Handle.cache i ∈ handles <;> simp [hmem]
  · funext d
    simp

omit [DecidableEq δ] in
theorem onCache_id (i : ι) (w : Holdings δ κ ν η σ) :
    (w.onCache i fun _ c => c) = w := by
  unfold onCache
  simp only [ite_self]

/-- What some events do, one after the other, to all that is registered. -/
def suffer (registry : Registry (Handle ι δ)) (es : List Event)
    (w : Holdings δ κ ν η σ) : Holdings δ κ ν η σ where
  caches i :=
    if .cache i ∈ registry.targets.map (·.2) then
      es.foldl (fun c e => e.change.onCache c) (w.caches i)
    else w.caches i
  memos d :=
    if .chains d ∈ registry.reloadables.map (·.2) then
      es.foldl (fun m e => e.change.onMemo m) (w.memos d)
    else w.memos d

theorem suffer_nil (registry : Registry (Handle ι δ)) (w : Holdings δ κ ν η σ) :
    w.suffer registry [] = w := by
  unfold suffer
  simp only [List.foldl_nil, ite_self]

theorem suffer_append (registry : Registry (Handle ι δ)) (es es' : List Event)
    (w : Holdings δ κ ν η σ) :
    w.suffer registry (es ++ es') = (w.suffer registry es).suffer registry es' := by
  unfold suffer
  congr 1
  · funext i
    by_cases hmem : Handle.cache i ∈ registry.targets.map (·.2)
    · simp only [if_pos hmem, List.foldl_append]
    · simp only [if_neg hmem]
  · funext d
    by_cases hmem : Handle.chains d ∈ registry.reloadables.map (·.2)
    · simp only [if_pos hmem, List.foldl_append]
    · simp only [if_neg hmem]

end Holdings

/-! ## Consumptions -/

namespace Relay

variable {ι δ : Type} [DecidableEq ι] [DecidableEq δ] {κ ν : ι → Type} {η σ : Type}

open Holdings (reactions)

/-- Changes all registered caches. -/
def onTargets (r : Relay (Handle ι δ) (Holdings δ κ ν η σ))
    (f : (i : ι) → Partitioned (κ i) (ν i) → Partitioned (κ i) (ν i)) :
    Relay (Handle ι δ) (Holdings δ κ ν η σ) :=
  { r with world := r.world.among (r.registry.targets.map (·.2)) f id }

/-- Changes the chains of all registered discoveries. -/
def onReloadables (r : Relay (Handle ι δ) (Holdings δ κ ν η σ))
    (g : Discovery.Memo η σ → Discovery.Memo η σ) :
    Relay (Handle ι δ) (Holdings δ κ ν η σ) :=
  { r with
    world := r.world.among (r.registry.reloadables.map (·.2)) (fun _ c => c) g }

/-- Calling all targets, when it makes no difference how often one is called. -/
theorem callTargets_eq (r : Relay (Handle ι δ) (Holdings δ κ ν η σ))
    (act : Handle ι δ → Holdings δ κ ν η σ → Holdings δ κ ν η σ)
    (f : (i : ι) → Partitioned (κ i) (ν i) → Partitioned (κ i) (ν i))
    (hf : ∀ i c, f i (f i c) = f i c)
    (hcache : ∀ i w, act (.cache i) w = w.onCache i f)
    (hchains : ∀ d w, act (.chains d) w = w) :
    (r.callTargets reactions act).2 = r.onTargets f := by
  have hlive : r.registry.liveTargets (reactions.alive r.world) =
      (r.registry.targets.map (·.2), r.registry) :=
    r.registry.liveTargets_of_forall fun _ _ => rfl
  have hworld := Holdings.foldl_among (g := id) (r.registry.targets.map (·.2)) act hf
    (fun _ => rfl) hcache
    (fun d w => (hchains d w).trans (Holdings.onMemo_id d w).symm) r.world
  unfold callTargets onTargets
  rw [hlive, ← hworld]

theorem flushAll_eq (r : Relay (Handle ι δ) (Holdings δ κ ν η σ)) :
    (r.flushAll reactions).2 = r.onTargets fun _ c => c.flush :=
  r.callTargets_eq _ _ (fun _ _ => rfl) (fun _ _ => rfl) fun _ _ => rfl

theorem forgetIds_eq (ids : List ResourceId)
    (r : Relay (Handle ι δ) (Holdings δ κ ν η σ)) :
    (r.forgetIds reactions ids).2 = r.onTargets fun _ c => c.forget ids :=
  r.callTargets_eq _ _ (fun _ c => c.forget_idem ids) (fun _ _ => rfl) fun _ _ => rfl

theorem flushStore_eq (s : StoreName)
    (r : Relay (Handle ι δ) (Holdings δ κ ν η σ)) :
    (r.flushStore reactions s).2 = r.onTargets fun _ c => c.flushStore s :=
  r.callTargets_eq _ _ (fun _ c => c.flushStore_idem s) (fun _ _ => rfl) fun _ _ => rfl

theorem foldl_flushStore_eq (stores : List StoreName)
    (r : Relay (Handle ι δ) (Holdings δ κ ν η σ)) :
    stores.foldl (fun r s => (r.flushStore reactions s).2) r =
      r.onTargets fun _ c => c.flushStores stores := by
  induction stores generalizing r with
  | nil =>
      show r = { r with world := r.world.among _ (fun _ c => c) id }
      rw [Holdings.among_id]
  | cons s stores ih =>
      rw [List.foldl_cons, flushStore_eq, ih]
      unfold onTargets
      rw [Holdings.among_among]
      rfl

theorem reloadAll_eq (r : Relay (Handle ι δ) (Holdings δ κ ν η σ)) :
    (r.reloadAll reactions).2 = r.onReloadables Discovery.Memo.reload := by
  have hlive : r.registry.liveReloadables (reactions.alive r.world) =
      (r.registry.reloadables.map (·.2), r.registry) :=
    r.registry.liveReloadables_of_forall fun _ _ => rfl
  have hworld := Holdings.foldl_among (g := Discovery.Memo.reload)
    (r.registry.reloadables.map (·.2)) (fun h w => reactions.reload h w)
    (fun _ _ => rfl) (fun _ => rfl) (fun i w => (Holdings.onCache_id i w).symm)
    (fun _ _ => rfl) r.world
  unfold reloadAll onReloadables
  rw [hlive, ← hworld]

theorem onReloadables_id (r : Relay (Handle ι δ) (Holdings δ κ ν η σ)) :
    r.onReloadables id = r := by
  unfold onReloadables
  rw [Holdings.among_id]

/-- What a plan does to all that is registered. -/
theorem perform_eq (p : Plan) (r : Relay (Handle ι δ) (Holdings δ κ ν η σ)) :
    r.perform reactions p =
      (r.onTargets fun _ c => p.onCache c).onReloadables p.onMemo := by
  have hdrop : (if p.flushAll then (r.flushAll reactions).2
      else
        let r := p.stores.foldl (fun r s => (r.flushStore reactions s).2) r
        if p.ids.isEmpty then r else (r.forgetIds reactions p.ids).2) =
      r.onTargets fun _ c => p.onCache c := by
    unfold Plan.onCache
    cases p.flushAll with
    | true => exact r.flushAll_eq
    | false =>
        show (if p.ids.isEmpty then _ else _) = _
        rw [foldl_flushStore_eq]
        cases hids : p.ids with
        | nil =>
            simp only [Bool.false_eq_true, if_false, Partitioned.forget_nil]
            rfl
        | cons id ids =>
            show (forgetIds reactions (id :: ids) _).2 = _
            rw [forgetIds_eq]
            unfold onTargets
            rw [Holdings.among_among]
            rfl
  unfold perform
  rw [hdrop]
  unfold Plan.onMemo
  cases p.rebuild with
  | true => exact reloadAll_eq _
  | false => exact (onReloadables_id _).symm

/-- What the plan of some events does to all that is registered. -/
theorem perform_ofEvents {es : List Event} (hdistinct : (es.map Event.id).Nodup)
    (r : Relay (Handle ι δ) (Holdings δ κ ν η σ)) :
    r.perform reactions (.ofEvents es) =
      { r with world := r.world.suffer r.registry es } := by
  rw [perform_eq]
  have hcaches : (fun (i : ι) (c : Partitioned (κ i) (ν i)) =>
      (Plan.ofEvents es).onCache c) =
      fun i c => es.foldl (fun c e => e.change.onCache c) c :=
    funext fun _ => funext fun c => Plan.ofEvents_onCache hdistinct c
  have hmemos : (Plan.ofEvents es).onMemo =
      fun m : Discovery.Memo η σ => es.foldl (fun m e => e.change.onMemo m) m :=
    funext fun m => Plan.ofEvents_onMemo hdistinct m
  rw [hcaches, hmemos]
  unfold onReloadables onTargets Holdings.among Holdings.suffer
  simp only [id, ite_self]

/-- A relay has nothing more to do after a number of consumptions that had. -/
inductive Settles {η σ : Type} (how : Reactions η σ) :
    Relay η σ → Nat → Relay η σ → Prop where
  | done {r after : Relay η σ} :
      r.consume how = (false, after) → Settles how r 0 after
  | step {r next after : Relay η σ} {k : Nat} :
      r.consume how = (true, next) → Settles how next k after →
      Settles how r (k + 1) after

/-- A consumption takes a batch of events and lets all that is registered suffer
them. -/
theorem consume_eq (r : Relay (Handle ι δ) (Holdings δ κ ν η σ))
    (hdistinct : (r.queue.pending.map Event.id).Nodup) (hb : 1 ≤ r.batch)
    (hpending : r.queue.pending ≠ []) :
    r.consume reactions = (true,
      { r with
        queue := (r.queue.drain r.batch).2
        world := r.world.suffer r.registry (r.queue.pending.take r.batch)
        consumptions := r.consumptions + 1 }) := by
  have hsome : (r.queue.pending.take r.batch).isEmpty = false := by
    rw [List.isEmpty_eq_false_iff, Ne, List.take_eq_nil_iff]
    rintro (h | h)
    · omega
    · exact hpending h
  have hbatch : ((r.queue.pending.take r.batch).map Event.id).Nodup :=
    ((List.take_sublist _ _).map _).nodup hdistinct
  unfold consume Queue.drain
  simp only [hsome, Bool.false_eq_true, if_false, perform_ofEvents hbatch]

/-- A change that finds nothing pending and is consumed at once is carried out alone. -/
theorem trigger_alone {η σ : Type} (how : Reactions η σ) {r : Relay η σ}
    (hbatch : 1 ≤ r.batch) (hpending : r.queue.pending = []) (change : Change) :
    ∃ queue e, queue.pending = [] ∧ e.change = change ∧
      r.trigger how change true =
        { perform how (.ofEvents [e]) { r with queue := queue } with
          consumptions :=
            (perform how (.ofEvents [e]) { r with queue := queue }).consumptions + 1 } := by
  let e : Event := ⟨r.queue.epoch, r.queue.epoch, change⟩
  have hpublish : (r.queue.publish change).pending = [e] := by
    unfold Queue.publish Queue.nextEpoch
    simp [hpending, e]
  -- The queue holds this one event, and a batch takes at least one.
  have hdrain : ((r.queue.publish change).drain r.batch).1 = [e] := by
    show (r.queue.publish change).pending.take r.batch = [e]
    rw [hpublish]
    exact List.take_of_length_le hbatch
  refine ⟨((r.queue.publish change).drain r.batch).2, e, ?_, rfl, ?_⟩
  · show (r.queue.publish change).pending.drop r.batch = []
    rw [hpublish]
    exact List.drop_of_length_le hbatch
  · unfold trigger consume
    dsimp only
    rw [if_pos rfl, hdrain, if_neg (by simp)]

/-- Consumptions until the queue is empty. -/
theorem settles_suffer {r : Relay (Handle ι δ) (Holdings δ κ ν η σ)}
    (hdistinct : (r.queue.pending.map Event.id).Nodup) (hb : 1 ≤ r.batch) :
    Settles reactions r ((r.queue.pending.length + r.batch - 1) / r.batch)
      { r with
        queue := { r.queue with pending := [], gauge := some 0 }
        world := r.world.suffer r.registry r.queue.pending
        consumptions := r.consumptions +
          (r.queue.pending.length + r.batch - 1) / r.batch } := by
  -- Every consumption takes at least one event, and no event is taken twice.
  induction hn : r.queue.pending.length using Nat.strongRecOn
    generalizing r with
  | _ n ih =>
      by_cases hpending : r.queue.pending = []
      · have hnone : (n + r.batch - 1) / r.batch = 0 := by
          rw [hpending, List.length_nil] at hn
          exact Nat.div_eq_of_lt (by omega)
        rw [hnone, hpending, Holdings.suffer_nil]
        refine .done ?_
        unfold consume Queue.drain
        rw [hpending, List.take_nil, List.drop_nil]
        rfl
      · have hsome : n ≠ 0 := by
          rw [← hn]
          exact fun h => hpending (List.length_eq_zero_iff.1 h)
        have hrest : (r.queue.pending.drop r.batch).length = n - r.batch := by
          rw [List.length_drop, hn]
        rw [Batch.batches_succ hsome hb]
        refine .step (r.consume_eq hdistinct hb hpending) ?_
        have hsettles := ih (n - r.batch) (by omega)
          (r := { r with
            queue := (r.queue.drain r.batch).2
            world := r.world.suffer r.registry (r.queue.pending.take r.batch)
            consumptions := r.consumptions + 1 })
          (((List.drop_sublist _ _).map _).nodup hdistinct) hb hrest
        have hworld : (r.world.suffer r.registry
              (r.queue.pending.take r.batch)).suffer r.registry
              (r.queue.pending.drop r.batch) =
            r.world.suffer r.registry r.queue.pending := by
          rw [← Holdings.suffer_append, List.take_append_drop]
        have hcount : r.consumptions + 1 + (n - r.batch + r.batch - 1) / r.batch =
            r.consumptions + ((n - r.batch + r.batch - 1) / r.batch + 1) := by
          omega
        rw [← hworld, ← hcount]
        exact hsettles

/-- How many events one consumption may take changes the number of consumptions
until nothing is pending, and nothing else: caches keep the same partitions with
the same entries in the same order, and discoveries keep or drop their chains
alike. -/
theorem settles_alike (r : Relay (Handle ι δ) (Holdings δ κ ν η σ))
    (hdistinct : (r.queue.pending.map Event.id).Nodup) {b b' : Nat} (hb : 1 ≤ b)
    (hb' : 1 ≤ b') :
    ∃ after after',
      Settles reactions { r with batch := b }
        ((r.queue.pending.length + b - 1) / b) after ∧
      Settles reactions { r with batch := b' }
        ((r.queue.pending.length + b' - 1) / b') after' ∧
      after.world = after'.world ∧ after.queue = after'.queue ∧
      after.registry = after'.registry ∧ after.queue.pending = [] :=
  ⟨_, _, settles_suffer (r := { r with batch := b }) hdistinct hb,
    settles_suffer (r := { r with batch := b' }) hdistinct hb', rfl, rfl, rfl, rfl⟩

/-- A stale resource and a stale store, at once and one after the other. -/
theorem settles_alike_two_events :
    let cache : Partitioned ResourceId ResourceId :=
      ⟨"types", {}, some id,
        [("s", ⟨0, [("a", some "T"), ("b", none)]⟩), ("t", ⟨1, []⟩)], 2, 0, 0, 0⟩
    let r : Relay (Handle Unit Unit)
        (Holdings Unit (fun _ => ResourceId) (fun _ => ResourceId) Unit Unit) :=
      { batch := 2
        queue := ⟨8, [⟨0, 0, .resources ["a"]⟩, ⟨1, 1, .store "t"⟩], 2, 0, none⟩
        registry := Registry.empty.register "types" (.cache ())
        world := ⟨fun _ => cache, fun _ => .empty "discovery"⟩
        consumptions := 0 }
    (r.queue.pending.map Event.id).Nodup ∧ 1 ≤ 2 ∧ 1 ≤ 1 ∧
      ∃ after after', Settles reactions r 1 after ∧
        Settles reactions { r with batch := 1 } 2 after' ∧
        after.world = after'.world ∧ after.queue = after'.queue ∧
        after.registry = after'.registry ∧ after.queue.pending = [] := by
  intro cache r
  have hdistinct : (r.queue.pending.map Event.id).Nodup := by decide
  have halike := settles_alike r hdistinct (show 1 ≤ 2 by decide)
    (show 1 ≤ 1 by decide)
  have htwo : r.queue.pending.length = 2 := rfl
  rw [htwo] at halike
  exact ⟨hdistinct, by decide, by decide, halike⟩

end Relay

end Invalidation

end Nomenclator
