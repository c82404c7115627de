import Nomenclator.Graph.Memory

/-!
# Graph sources

All that the loaders need to know of a graph: what it answers to a query, and how long it takes
to answer. Rows of one resource and one candidate come in the order of the store.
-/

namespace Nomenclator.Graph

/-- A graph that answers pattern queries. -/
class Source (γ : Type) where
  /-- The answer of one of its stores. -/
  answer : γ → StoreName → PatternQuery → Except StoreError (List Row)
  /-- The time until the answer is there, in milliseconds. -/
  latency : γ → Nat

instance : Source Memory where
  answer := Memory.answer
  latency := fun _ => 0

end Nomenclator.Graph
