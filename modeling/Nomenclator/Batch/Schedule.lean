/-!
# Schedules on a bounded pool

Pieces of work wait in line for a bounded number of workers: each starts as soon as a worker is
free, and never before the one in front of it. Times are those of a virtual clock, so a schedule
follows from the durations alone.
-/

namespace Nomenclator.Batch

/-- When a piece of work starts and when it is done. -/
structure Slot where
  start : Nat
  finish : Nat
  deriving Repr, DecidableEq, Inhabited

namespace Schedule

/-- Adds a time to a list of times in ascending order. -/
def insertTime (t : Nat) : List Nat → List Nat
  | [] => [t]
  | u :: rest => if t ≤ u then t :: u :: rest else u :: insertTime t rest

/-- Assigns the remaining work, given when the workers in use will be free, earliest first. -/
def assign (workers : Nat) (busy : List Nat) : List Nat → List Slot
  | [] => []
  | d :: rest =>
    if busy.length < workers then
      ⟨0, d⟩ :: assign workers (insertTime d busy) rest
    else match busy with
      | [] => ⟨0, d⟩ :: assign workers [] rest
      | free :: later =>
        ⟨free, free + d⟩ :: assign workers (insertTime (free + d) later) rest

/-- The schedule of some durations in their order; a pool has at least one worker. -/
def greedy (workers : Nat) (durations : List Nat) : List Slot :=
  assign (max workers 1) [] durations

/-- How many pieces are at work at a moment. -/
def activeAt (slots : List Slot) (t : Nat) : Nat :=
  (slots.filter fun s => s.start ≤ t && t < s.finish).length

/-- The largest number of pieces at work at once. -/
def peak (slots : List Slot) : Nat :=
  (slots.map fun s => activeAt slots s.start).foldl max 0

end Schedule

end Nomenclator.Batch
