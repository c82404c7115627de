/-!
# Tables

Finite maps whose entries keep the place at which their key first came in. Equality of keys is
whatever their type says: two keys may be equal without being identical, and then the key that
came first stays.
-/

namespace Nomenclator

/-- Entries in the order in which their keys first came in. -/
abbrev Table (κ ν : Type) := List (κ × ν)

namespace Table

variable {κ ν : Type} [BEq κ]

/-- The value under a key. -/
def get? (t : Table κ ν) (k : κ) : Option ν :=
  (t.find? (·.1 == k)).map (·.2)

/-- There is a value under a key. -/
def has (t : Table κ ν) (k : κ) : Bool :=
  t.any (·.1 == k)

/-- Puts a value under a key; a key that is there keeps its place and its form. -/
def put (k : κ) (v : ν) : Table κ ν → Table κ ν
  | [] => [(k, v)]
  | e :: rest => if e.1 == k then (e.1, v) :: rest else e :: put k v rest

/-- Applies a function to the value under a key, if there is one. -/
def adjust (t : Table κ ν) (k : κ) (f : ν → ν) : Table κ ν :=
  t.map fun e => if e.1 == k then (e.1, f e.2) else e

/-- Adds one more element to the list under a key; no entry counts as the empty list. -/
def append {α : Type} (t : Table κ (List α)) (k : κ) (v : α) : Table κ (List α) :=
  t.put k ((t.get? k).getD [] ++ [v])

/-- Drops a key. -/
def erase (t : Table κ ν) (k : κ) : Table κ ν :=
  t.filter fun e => !(e.1 == k)

/-- The keys in their order. -/
def keys (t : Table κ ν) : List κ := t.map (·.1)

/-- The table that the entries build one after the other. -/
def ofEntries (entries : List (κ × ν)) : Table κ ν :=
  entries.foldl (fun t e => t.put e.1 e.2) []

/-- Puts all entries of the second table into the first. -/
def merge (t u : Table κ ν) : Table κ ν :=
  u.foldl (fun t e => t.put e.1 e.2) t

end Table

/-- A list without the elements that equal an earlier one. -/
def distinct {κ : Type} [BEq κ] (ks : List κ) : List κ :=
  ks.foldl (fun seen k => if seen.any (· == k) then seen else seen ++ [k]) []

end Nomenclator
