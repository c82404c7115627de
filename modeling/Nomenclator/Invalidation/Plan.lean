import Nomenclator.Invalidation.Event
import Nomenclator.Table

/-!
# Invalidation plans

Several events are merged into one plan: the stores and resources to drop, or everything, and
whether the resolver chains must be built anew. A full flush covers stores and resources, so the
plan does not name them beside it. Repeated events count once.
-/

namespace Nomenclator.Invalidation

/-- What to drop and what to rebuild. -/
structure Plan where
  flushAll : Bool
  stores : List StoreName
  ids : List ResourceId
  rebuild : Bool
  /-- The latest epoch among the merged events. -/
  latest : Option Nat
  deriving Repr, DecidableEq, Inhabited

namespace Plan

/-- Nothing to do. -/
def none : Plan := ⟨false, [], [], false, Option.none⟩

/-- Adds the effect of one event. -/
def add (p : Plan) (e : Event) : Plan :=
  let p := { p with latest := some (match p.latest with
    | some t => max t e.epoch
    | Option.none => e.epoch) }
  match e.change with
  | .resources ids => { p with ids := distinct (p.ids ++ ids) }
  | .store name => { p with stores := distinct (p.stores ++ [name]) }
  | .configuration | .reload => { p with flushAll := true, rebuild := true }
  | .services => { p with rebuild := true }

/-- The events without those whose identity an earlier one has. -/
def firstOfEach (seen : List Nat) : List Event → List Event
  | [] => []
  | e :: rest =>
    if e.id ∈ seen then firstOfEach seen rest else e :: firstOfEach (e.id :: seen) rest

/-- A full flush leaves no store or resource to be named. -/
def absorb (p : Plan) : Plan :=
  if p.flushAll then { p with stores := [], ids := [] } else p

/-- The plan that merges some events. -/
def ofEvents (events : List Event) : Plan :=
  ((firstOfEach [] events).foldl add none).absorb

/-- There is nothing to drop and nothing to rebuild. -/
def isEmpty (p : Plan) : Bool :=
  !p.flushAll && p.stores.isEmpty && p.ids.isEmpty && !p.rebuild

/-- A summary of a plan. -/
def render (p : Plan) : String :=
  "InvalidationPlan \x7b flush_all: " ++ toString p.flushAll
    ++ ", stores: " ++ toString p.stores.length
    ++ ", ids: " ++ toString p.ids.length
    ++ ", rebuild: " ++ toString p.rebuild ++ " \x7d"

end Plan

end Nomenclator.Invalidation
