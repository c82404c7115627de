import Nomenclator.Graph.Indexed

/-!
# Stores in memory

Named sets of triples that answer pattern queries. A store exists from its creation or its first
triple until it is dropped, whether it holds triples or not.
-/

namespace Nomenclator.Graph

/-- Named stores, and how many queries have been asked of them. -/
structure Memory where
  stores : Table StoreName Indexed
  queries : Nat
  deriving Inhabited

namespace Memory

/-- No store at all. -/
def empty : Memory := ⟨[], 0⟩

/-- The triples of a store; a store that does not exist has none. -/
def contents (m : Memory) (store : StoreName) : Indexed :=
  (m.stores.get? store).getD .empty

/-- Creates an empty store; a store that exists is left alone. -/
def create (m : Memory) (store : StoreName) : Memory :=
  if m.stores.has store then m else { m with stores := m.stores.put store .empty }

/-- There is a store of this name. -/
def has (m : Memory) (store : StoreName) : Bool := m.stores.has store

/-- Drops a store with its triples. -/
def drop (m : Memory) (store : StoreName) : Memory :=
  { m with stores := m.stores.erase store }

/-- Adds a triple, creating the store if need be. -/
def insert (m : Memory) (store : StoreName) (subject : ResourceId) (predicate : String)
    (object : Term) : Memory :=
  { m with stores := m.stores.put store ((m.contents store).insert subject predicate object) }

/-- Drops all triples of a store with this subject and this predicate, and says how many there
were. -/
def remove (m : Memory) (store : StoreName) (subject : ResourceId) (predicate : String) :
    Nat × Memory :=
  match m.stores.get? store with
  | none => (0, m)
  | some g =>
    let (removed, g) := g.remove subject predicate
    (removed, { m with stores := m.stores.put store g })

/-- The names of the stores in ascending order. -/
def names (m : Memory) : List StoreName :=
  m.stores.keys.mergeSort (fun a b => decide (a ≤ b))

/-- The number of triples in a store. -/
def size (m : Memory) (store : StoreName) : Nat :=
  (m.contents store).size

/-- The rows of one store, resource by resource and candidate by candidate. -/
def rows (g : Indexed) (q : PatternQuery) : List Row :=
  q.resources.flatMap fun r =>
    q.branches.zipIdx.flatMap fun b =>
      (g.evaluate r b.1).map fun v => ⟨r, b.2, v⟩

/-- What a store answers to a query. -/
def answer (m : Memory) (store : StoreName) (q : PatternQuery) : Except StoreError (List Row) :=
  match m.stores.get? store with
  | none => .error (.unknownStore store)
  | some g => .ok (rows g q)

/-- Asks a store, and counts the question. -/
def ask (m : Memory) (store : StoreName) (q : PatternQuery) :
    Except StoreError (List Row) × Memory :=
  (m.answer store q, { m with queries := m.queries + 1 })

end Memory

end Nomenclator.Graph
