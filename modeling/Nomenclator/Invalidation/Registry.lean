import Nomenclator.Table
import Nomenclator.Term

/-!
# The registry

Caches and other state that can go stale are registered here under names, without being kept
alive by it. A later registration takes the name over. What has died in the meantime is noticed,
and forgotten, the next time everybody is called.
-/

namespace Nomenclator.Invalidation

/-- How an object that can be flushed changes the state it belongs to. An object that only
knows how to drop everything does so for a stale store, and ignores stale resources. -/
structure Target (σ : Type) where
  flush : σ → σ
  forget : List ResourceId → σ → σ := fun _ w => w
  flushStore : StoreName → σ → σ := fun _ => flush

/-- Registered objects, by name. Targets can be flushed, reloadables rebuilt. -/
structure Registry (η : Type) where
  targets : Table String η
  reloadables : Table String η
  deriving Inhabited

namespace Registry

variable {η : Type}

/-- Nothing is registered. -/
def empty : Registry η := ⟨[], []⟩

/-- Registers a target; the name now means this one. -/
def register (r : Registry η) (id : String) (target : η) : Registry η :=
  { r with targets := r.targets.put id target }

/-- Registers a reloadable; the name now means this one. -/
def registerReloadable (r : Registry η) (id : String) (target : η) : Registry η :=
  { r with reloadables := r.reloadables.put id target }

/-- Forgets a name, whatever it means. -/
def unregister (r : Registry η) (id : String) : Registry η :=
  ⟨r.targets.erase id, r.reloadables.erase id⟩

/-- The targets that are alive, and the registry without the others. -/
def liveTargets (r : Registry η) (alive : η → Bool) : List η × Registry η :=
  let live := r.targets.filter fun e => alive e.2
  (live.map (·.2), { r with targets := live })

/-- The reloadables that are alive, and the registry without the others. -/
def liveReloadables (r : Registry η) (alive : η → Bool) : List η × Registry η :=
  let live := r.reloadables.filter fun e => alive e.2
  (live.map (·.2), { r with reloadables := live })

end Registry

end Nomenclator.Invalidation
