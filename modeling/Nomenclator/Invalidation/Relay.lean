import Nomenclator.Invalidation.Plan
import Nomenclator.Invalidation.Queue
import Nomenclator.Invalidation.Registry

/-!
# The relay

The relay carries changes from whoever notices them to whatever they make stale. A change is
published to the queue; a consumption takes a batch of pending events, merges them into a plan,
and calls the registered objects accordingly. Publishing and consuming are separate, so that
changes may be collected; a trigger that wants its effect at once does both.
-/

namespace Nomenclator.Invalidation

/-- How registered objects, known by their handles, live and react in a world of states. -/
structure Reactions (η σ : Type) where
  /-- Somebody still holds the object. -/
  alive : σ → η → Bool
  /-- How the object reacts to changes as a target. -/
  target : η → Target σ
  /-- How the object is rebuilt. -/
  reload : η → σ → σ

/-- A queue, a registry and the world in which the registered objects live. -/
structure Relay (η σ : Type) where
  /-- The most events that one consumption takes. -/
  batch : Nat
  queue : Queue
  registry : Registry η
  world : σ
  /-- How many consumptions had something to do. -/
  consumptions : Nat
  deriving Inhabited

namespace Relay

variable {η σ : Type}

/-- Calls all live targets, and counts them. -/
def callTargets (how : Reactions η σ) (act : η → σ → σ) (r : Relay η σ) : Nat × Relay η σ :=
  let (live, registry) := r.registry.liveTargets (how.alive r.world)
  (live.length, { r with registry, world := live.foldl (fun w h => act h w) r.world })

/-- Drops everything everywhere. -/
def flushAll (how : Reactions η σ) : Relay η σ → Nat × Relay η σ :=
  callTargets how fun h => (how.target h).flush

/-- Drops some resources everywhere. -/
def forgetIds (how : Reactions η σ) (ids : List ResourceId) : Relay η σ → Nat × Relay η σ :=
  callTargets how fun h => (how.target h).forget ids

/-- Drops one store everywhere. -/
def flushStore (how : Reactions η σ) (store : StoreName) : Relay η σ → Nat × Relay η σ :=
  callTargets how fun h => (how.target h).flushStore store

/-- Rebuilds all live reloadables, and counts them. -/
def reloadAll (how : Reactions η σ) (r : Relay η σ) : Nat × Relay η σ :=
  let (live, registry) := r.registry.liveReloadables (how.alive r.world)
  (live.length, { r with registry, world := live.foldl (fun w h => how.reload h w) r.world })

/-- Carries a plan out: stores before resources, and rebuilding last. -/
def perform (how : Reactions η σ) (p : Plan) (r : Relay η σ) : Relay η σ :=
  let r :=
    if p.flushAll then (r.flushAll how).2
    else
      let r := p.stores.foldl (fun r s => (r.flushStore how s).2) r
      if p.ids.isEmpty then r else (r.forgetIds how p.ids).2
  if p.rebuild then (r.reloadAll how).2 else r

/-- Takes a batch of pending events and carries their plan out. Says whether there were any. -/
def consume (how : Reactions η σ) (r : Relay η σ) : Bool × Relay η σ :=
  let (events, queue) := r.queue.drain r.batch
  let r := { r with queue }
  if events.isEmpty then (false, r)
  else
    let r := r.perform how (.ofEvents events)
    (true, { r with consumptions := r.consumptions + 1 })

/-- Publishes a change and, if asked to, consumes at once. -/
def trigger (how : Reactions η σ) (change : Change) (now : Bool) (r : Relay η σ) : Relay η σ :=
  let r := { r with queue := r.queue.publish change }
  if now then (r.consume how).2 else r

end Relay

end Nomenclator.Invalidation
