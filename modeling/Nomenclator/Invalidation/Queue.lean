import Nomenclator.Invalidation.Event

/-!
# The event queue

Pending events wait in the order of their publication. The queue is bounded: an event that finds
it full pushes the oldest one out. Every publication draws an epoch, and epochs may also be drawn
on their own, so epochs grow but need not be consecutive. An epoch is drawn once, which makes it
the identity of its event as well.
-/

namespace Nomenclator.Invalidation

/-- Pending events, oldest first. -/
structure Queue where
  /-- The most events that may wait; at least one. -/
  limit : Nat
  pending : List Event
  /-- The next epoch to be drawn. -/
  epoch : Nat
  /-- How many events were pushed out. -/
  dropped : Nat
  /-- The length last reported, if it was ever reported. -/
  gauge : Option Nat
  deriving Repr, Inhabited

namespace Queue

/-- An empty queue for at most so many events, and for at least one. -/
def empty (limit : Nat) : Queue := ⟨max limit 1, [], 0, 0, none⟩

/-- The number of pending events. -/
def length (q : Queue) : Nat := q.pending.length

/-- Nothing is pending. -/
def isEmpty (q : Queue) : Bool := q.pending.isEmpty

/-- Draws an epoch. -/
def nextEpoch (q : Queue) : Nat × Queue :=
  (q.epoch, { q with epoch := q.epoch + 1 })

/-- Publishes a change behind all others, and reports the length. -/
def publish (q : Queue) (change : Change) : Queue :=
  let (epoch, q) := q.nextEpoch
  let full := q.limit ≤ q.pending.length && !q.pending.isEmpty
  let pending := (if full then q.pending.drop 1 else q.pending) ++ [⟨epoch, epoch, change⟩]
  { q with
    pending := pending
    dropped := if full then q.dropped + 1 else q.dropped
    gauge := some pending.length }

/-- Takes the oldest events, at most so many, and reports the length. -/
def drain (q : Queue) (limit : Nat) : List Event × Queue :=
  (q.pending.take limit,
    { q with pending := q.pending.drop limit, gauge := some (q.pending.drop limit).length })

/-- Forgets all pending events; the length is not reported. -/
def clear (q : Queue) : Queue := { q with pending := [] }

end Queue

end Nomenclator.Invalidation
