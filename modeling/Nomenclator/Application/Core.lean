import Nomenclator.Application.World
import Nomenclator.Discovery
import Nomenclator.Invalidation.Relay
import Nomenclator.Resolver.Cached

/-!
# Caches, services and chains

The caches stand in front of the world, the services answer from the caches, and the chains are
built from the services. Caches are alive as long as a service or a chain that is still kept refers
to them: a service that goes takes its caches with it, but only after the chains have been dropped
too.
-/

namespace Nomenclator

open Cache (Key Partitioned)

/-- The parts of an application that can go stale. -/
inductive Part where
  /-- A cache of texts, by its place. -/
  | texts (place : Nat)
  /-- The cache of types. -/
  | types
  /-- The chains of discovery. -/
  | chains
  deriving Repr, DecidableEq, Inhabited

/-- The world and the caches in front of it. -/
structure Backing (γ ε : Type) where
  world : World γ ε
  texts : List (Partitioned Key TextValue)
  types : Partitioned ResourceId ResourceId
  deriving Inhabited

/-- The services over a backing and the chains built from them. -/
structure Core (γ ε : Type) where
  backing : Backing γ ε
  services : List (Discovery.Service Part (Backing γ ε))
  memo : Discovery.Memo Part (Backing γ ε)
  deriving Inhabited

namespace Backing

variable {γ ε : Type}

/-- The cache of texts at a place. -/
def textShelf (place : Nat) : Shelf (Backing γ ε) (World γ ε) Key TextValue where
  cache b := b.texts.getD place default
  setCache c b := { b with texts := b.texts.set place c }
  world := world
  setWorld w b := { b with world := w }

/-- The cache of types. -/
def typeShelf : Shelf (Backing γ ε) (World γ ε) ResourceId ResourceId where
  cache := types
  setCache c b := { b with types := c }
  world := world
  setWorld w b := { b with world := w }

/-- Changes the cache of texts at a place. -/
def onTexts (place : Nat) (f : Partitioned Key TextValue → Partitioned Key TextValue)
    (b : Backing γ ε) : Backing γ ε :=
  { b with texts := b.texts.modify place f }

/-- Changes the cache of types. -/
def onTypes (f : Partitioned ResourceId ResourceId → Partitioned ResourceId ResourceId)
    (b : Backing γ ε) : Backing γ ε :=
  { b with types := f b.types }

end Backing

namespace Core

variable {γ ε : Type}

/-- Changes the backing. -/
def onBacking (f : Backing γ ε → Backing γ ε) (c : Core γ ε) : Core γ ε :=
  { c with backing := f c.backing }

/-- Somebody still refers to a part. The chains belong to the application itself. -/
def alive (c : Core γ ε) (part : Part) : Bool :=
  part = .chains || (c.services.flatMap (·.holds) ++ c.memo.holds).contains part

/-- How a cache reacts to changes. -/
def target : Part → Invalidation.Target (Core γ ε)
  | .texts place =>
    { flush := onBacking (Backing.onTexts place Partitioned.flush)
      forget := fun ids => onBacking (Backing.onTexts place fun c => c.forget ids)
      flushStore := fun s => onBacking (Backing.onTexts place fun c => c.flushStore s) }
  | .types =>
    { flush := onBacking (Backing.onTypes Partitioned.flush)
      forget := fun ids => onBacking (Backing.onTypes fun c => c.forget ids)
      flushStore := fun s => onBacking (Backing.onTypes fun c => c.flushStore s) }
  | .chains => { flush := id }

/-- How the chains are rebuilt: at their next use. -/
def reload : Part → Core γ ε → Core γ ε
  | .chains, c => { c with memo := c.memo.reload }
  | _, c => c

/-- How all parts live and react. -/
def reactions : Invalidation.Reactions Part (Core γ ε) := ⟨alive, target, reload⟩

end Core

end Nomenclator
