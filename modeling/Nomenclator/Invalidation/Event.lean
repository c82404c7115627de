import Nomenclator.Term

/-!
# Invalidation events

An event says what changed; what has to be dropped follows from it. Events carry the epoch of
their publication, which orders them, and an identity, by which a repeated event is recognised.
-/

namespace Nomenclator.Invalidation

/-- What changed. -/
inductive Change where
  /-- Resources changed in some store; what is kept for them is stale everywhere. -/
  | resources (ids : List ResourceId)
  /-- All that is kept for one store is stale. -/
  | store (name : StoreName)
  /-- Candidates, languages or cache settings changed. -/
  | configuration
  /-- Services came or went. -/
  | services
  /-- Somebody asked for a fresh start. -/
  | reload
  deriving Repr, DecidableEq, Inhabited

/-- A published change. -/
structure Event where
  id : Nat
  epoch : Nat
  change : Change
  deriving Repr, DecidableEq, Inhabited

end Nomenclator.Invalidation
