import Nomenclator.Proofs.Contents
import Nomenclator.Proofs.Merging

/-!
# A trigger takes effect at once and touches nothing else

A change that is published and consumed in one go passes through the queue, a
batch, a plan and the registry before it reaches a cache. If nothing was pending,
the batch is that one change and nothing else, so what is registered suffers this
change alone, and nothing is pending again. Lookups do not publish anything, nor
does an entry whose time is over; hence every trigger of a run finds the queue
empty, however many triggers and lookups came before.

What a change does is told by what can be seen of a cache: which keys are unknown
afterwards, and that all others answer as they did. Seen from a key, a cache of
which resources are dropped depends on the resource of that very key, although
the entry may stand under an equal form of it; so equal keys have to belong to the
same resource, which is what a scope is.
-/

namespace Nomenclator

open Cache (Partitioned)

namespace Invalidation

/-! ## What a change is to do -/

/-- The changes after which chains are built anew. -/
def Change.rebuilds : Change → Bool
  | .resources _ | .store _ => false
  | .configuration | .services | .reload => true

/-- What a change is to do to a cache, as seen by whoever looks. -/
def Change.Effect {κ ν : Type} [BEq κ] (change : Change) (c c' : Partitioned κ ν) :
    Prop :=
  match change with
  | .resources ids =>
      match c.scope with
      | none => c' = c
      | some resource => ∀ store k, c'.peek store k =
          if resource k ∈ ids then .unknown else c.peek store k
  | .store name =>
      (∀ k, c'.peek name k = .unknown) ∧
        ∀ store, store ≠ name → c'.entries store = c.entries store
  | .configuration | .reload => ∀ store k, c'.peek store k = .unknown
  | .services => c' = c

section

variable {κ ν : Type} [BEq κ]

theorem Change.effect_onCache (change : Change) {c : Partitioned κ ν}
    (hc : c.Scoped) : change.Effect c (change.onCache c) := by
  cases change with
  | resources ids =>
      show match c.scope with
        | none => c.forget ids = c
        | some resource => ∀ store k, (c.forget ids).peek store k =
            if resource k ∈ ids then .unknown else c.peek store k
      cases hscope : c.scope with
      | none => exact Partitioned.forget_of_no_scope hscope ids
      | some resource => exact Partitioned.peek_forget hc hscope ids
  | store name =>
      refine ⟨fun k => ?_, fun store hstore => ?_⟩
      · apply Partitioned.peek_of_no_entries
        show (c.flushStore name).entries name = []
        rw [Partitioned.entries_flushStore, if_pos BEq.rfl]
      · show (c.flushStore name).entries store = c.entries store
        rw [Partitioned.entries_flushStore, if_neg]
        exact fun hname => hstore (eq_of_beq hname).symm
  | configuration => exact fun _ _ => rfl
  | services => rfl
  | reload => exact fun _ _ => rfl

end

theorem Change.scope_onCache {κ ν : Type} (change : Change) (c : Partitioned κ ν) :
    (change.onCache c).scope = c.scope := by
  cases change with
  | resources ids => exact (c.alike_forget ids).scope
  | store name => rfl
  | configuration => rfl
  | services => rfl
  | reload => rfl

theorem Change.onMemo_eq {η σ : Type} (change : Change) (m : Discovery.Memo η σ) :
    change.onMemo m = if change.rebuilds then m.reload else m := by
  cases change <;> rfl

variable {ι δ : Type} {κ ν : ι → Type} [∀ i, BEq (κ i)] {η σ : Type}

/-- A change has been carried out: it has had its effect on all registered caches,
the registered chains are dropped if they are to be built anew, and everything
else is as before. -/
structure Relay.Obeyed (change : Change)
    (r r' : Relay (Handle ι δ) (Holdings δ κ ν η σ)) : Prop where
  pending : r'.queue.pending = []
  registry : r'.registry = r.registry
  caches : ∀ i, .cache i ∈ r.registry.targets.map (·.2) →
    change.Effect (r.world.caches i) (r'.world.caches i)
  otherCaches : ∀ i, .cache i ∉ r.registry.targets.map (·.2) →
    r'.world.caches i = r.world.caches i
  chains : ∀ d, .chains d ∈ r.registry.reloadables.map (·.2) →
    r'.world.memos d =
      if change.rebuilds then (r.world.memos d).reload else r.world.memos d
  otherChains : ∀ d, .chains d ∉ r.registry.reloadables.map (·.2) →
    r'.world.memos d = r.world.memos d

/-! ## Runs of triggers and lookups -/

variable [DecidableEq ι] [DecidableEq δ]

/-- Puts a cache in place of another. -/
def Holdings.put (w : Holdings δ κ ν η σ) (i : ι) (c : Partitioned (κ i) (ν i)) :
    Holdings δ κ ν η σ :=
  { w with caches := fun j => if h : i = j then h ▸ c else w.caches j }

namespace Relay

/-- What may happen besides: a change that is consumed at once, a request to a
cache with whatever its loader answers then, the end of the time of an entry, and
the use of chains. -/
inductive Operation {ι : Type} (δ : Type) (κ ν : ι → Type) (η σ : Type) where
  | change (change : Change)
  | get (i : ι) (loader : Loader Unit (κ i) (ν i)) (store : StoreName) (k : κ i)
  | getAll (i : ι) (loader : Loader Unit (κ i) (ν i)) (store : StoreName)
      (ks : List (κ i))
  | lapse (i : ι) (store : StoreName) (k : κ i)
  | chains (d : δ)
      (services : Except Discovery.DiscoveryError (List (Discovery.Service η σ)))

/-- A relay after an operation. -/
def after (r : Relay (Handle ι δ) (Holdings δ κ ν η σ)) :
    Operation δ κ ν η σ → Relay (Handle ι δ) (Holdings δ κ ν η σ)
  | .change change => r.trigger Holdings.reactions change true
  | .get i loader store k =>
      let ((_, c), _) := ((r.world.caches i).getOrLoad loader store k).run ()
      { r with world := r.world.put i c }
  | .getAll i loader store ks =>
      let ((_, c), _) := ((r.world.caches i).getAllOrLoad loader store ks).run ()
      { r with world := r.world.put i c }
  | .lapse i store k => { r with world := r.world.put i ((r.world.caches i).lapse store k) }
  | .chains d services =>
      { r with world := r.world.onMemo d fun m => (m.force services).2 }

/-- A relay after a run of operations. -/
def run (r : Relay (Handle ι δ) (Holdings δ κ ν η σ)) (ops : List (Operation δ κ ν η σ)) :
    Relay (Handle ι δ) (Holdings δ κ ν η σ) :=
  ops.foldl after r

/-- Nothing is pending, and whatever comes can be consumed. -/
structure Idle (r : Relay (Handle ι δ) (Holdings δ κ ν η σ)) : Prop where
  batch : 1 ≤ r.batch
  pending : r.queue.pending = []
  scopes : ∀ i, (r.world.caches i).Scoped

variable {r : Relay (Handle ι δ) (Holdings δ κ ν η σ)}

omit [∀ i, BEq (κ i)] in
/-- A trigger that finds nothing pending is consumed alone. -/
theorem trigger_eq (hbatch : 1 ≤ r.batch) (hpending : r.queue.pending = [])
    (change : Change) :
    ∃ queue e, queue.pending = [] ∧ e.change = change ∧
      r.trigger Holdings.reactions change true =
        { r with
          queue := queue
          world := r.world.suffer r.registry [e]
          consumptions := r.consumptions + 1 } := by
  obtain ⟨queue, e, hqueue, he, htrigger⟩ :=
    trigger_alone Holdings.reactions hbatch hpending change
  have halone : ([e].map Event.id).Nodup := List.pairwise_singleton _ _
  rw [perform_ofEvents halone] at htrigger
  exact ⟨queue, e, hqueue, he, htrigger⟩

theorem Idle.obeyed (hr : r.Idle) (change : Change) :
    r.Obeyed change (r.trigger Holdings.reactions change true) := by
  obtain ⟨queue, e, hqueue, rfl, htrigger⟩ := trigger_eq hr.batch hr.pending change
  rw [htrigger]
  refine ⟨hqueue, rfl, fun i hi => ?_, fun i hi => if_neg hi, fun d hd => ?_,
    fun d hd => if_neg hd⟩
  · have hcache : (r.world.suffer r.registry [e]).caches i =
        e.change.onCache (r.world.caches i) := if_pos hi
    show e.change.Effect _ ((r.world.suffer r.registry [e]).caches i)
    rw [hcache]
    exact e.change.effect_onCache (hr.scopes i)
  · rw [← Change.onMemo_eq]
    exact if_pos hd

omit [DecidableEq δ] in
theorem Idle.put (hr : r.Idle) (i : ι) {c : Partitioned (κ i) (ν i)}
    (hc : c.scope = (r.world.caches i).scope) :
    Idle { r with world := r.world.put i c } where
  batch := hr.batch
  pending := hr.pending
  scopes j := by
    show (if h : i = j then h ▸ c else r.world.caches j).Scoped
    by_cases h : i = j
    · subst h
      rw [dif_pos rfl]
      exact (hr.scopes i).of_scope hc
    · rw [dif_neg h]
      exact hr.scopes j

theorem Idle.trigger (hr : r.Idle) (change : Change) :
    (r.trigger Holdings.reactions change true).Idle := by
  obtain ⟨queue, e, hqueue, -, htrigger⟩ := trigger_eq hr.batch hr.pending change
  rw [htrigger]
  refine ⟨hr.batch, hqueue, fun i => (hr.scopes i).of_scope ?_⟩
  show (if Handle.cache i ∈ r.registry.targets.map (·.2) then
    e.change.onCache (r.world.caches i) else r.world.caches i).scope = _
  split
  · exact e.change.scope_onCache _
  · rfl

/-- Whatever happens in a run, nothing is left pending. -/
theorem Idle.after (hr : r.Idle) (o : Operation δ κ ν η σ) : (r.after o).Idle := by
  cases o with
  | change change => exact hr.trigger change
  | get i loader store k =>
      exact hr.put i ((r.world.caches i).scope_getOrLoad loader store k ())
  | getAll i loader store ks =>
      exact hr.put i ((r.world.caches i).scope_getAllOrLoad loader store ks ())
  | lapse i store k => exact hr.put i rfl
  | chains d services => exact ⟨hr.batch, hr.pending, hr.scopes⟩

theorem Idle.run (hr : r.Idle) (ops : List (Operation δ κ ν η σ)) : (r.run ops).Idle := by
  induction ops generalizing r with
  | nil => exact hr
  | cons o ops ih => exact ih (hr.after o)

/-- After any run of triggers and lookups, one more trigger has its effect at once,
on what is registered and on nothing else. -/
theorem run_obeyed (r : Relay (Handle ι δ) (Holdings δ κ ν η σ)) (hbatch : 1 ≤ r.batch)
    (hpending : r.queue.pending = []) (hscopes : ∀ i, (r.world.caches i).Scoped)
    (ops : List (Operation δ κ ν η σ)) (change : Change) :
    (r.run ops).Obeyed change
      ((r.run ops).trigger Holdings.reactions change true) := by
  have hidle : r.Idle := ⟨hbatch, hpending, hscopes⟩
  exact (hidle.run ops).obeyed change

/-- The label of a resource is looked up and then changes, after that of another one
had changed. -/
theorem run_obeyed_after_lookup :
    let key : ResourceId → Cache.Key := fun id => ⟨id, .single (.ofString "en")⟩
    let cache : Partitioned Cache.Key TextValue :=
      ⟨"labels", {}, some Cache.Key.resource,
        [("s", ⟨0, [(key "urn:vase", some (.plain "Vase")), (key "urn:bowl", none)]⟩)],
        1, 0, 0, 0⟩
    let r : Relay (Handle Unit Unit)
        (Holdings Unit (fun _ => Cache.Key) (fun _ => TextValue) Unit Unit) :=
      { batch := 1
        queue := .empty 8
        registry := Registry.empty.register "labels" (.cache ())
        world := ⟨fun _ => cache, fun _ => .empty "discovery"⟩
        consumptions := 0 }
    let loader : Loader Unit Cache.Key TextValue :=
      .ofSingle fun _ _ => pure (.ok (.plain "Jar"))
    let ops : List (Operation Unit (fun _ => Cache.Key) (fun _ => TextValue) Unit Unit) :=
      [.change (.resources ["urn:vase"]), .get () loader "s" (key "urn:jar")]
    1 ≤ r.batch ∧ r.queue.pending = [] ∧ (∀ i, (r.world.caches i).Scoped) ∧
      (r.run ops).Obeyed (.resources ["urn:jar"])
        ((r.run ops).trigger Holdings.reactions (.resources ["urn:jar"]) true) := by
  intro key cache r loader ops
  have hscopes : ∀ i, (r.world.caches i).Scoped :=
    fun _ => Partitioned.scoped_texts rfl
  exact ⟨Nat.le_refl 1, rfl, hscopes,
    run_obeyed r (Nat.le_refl 1) rfl hscopes ops (.resources ["urn:jar"])⟩

end Relay

end Invalidation

end Nomenclator
