/-!
# Recency lists

The entries of one store, the most recently used one in front. Reading an entry moves it to the
front; looking at it does not. A new entry that finds the list full pushes the last one out.
-/

namespace Nomenclator.Cache

/-- Entries in order of use; a value of `none` records a confirmed absence. -/
abbrev Recency (κ ν : Type) := List (κ × Option ν)

namespace Recency

variable {κ ν : Type} [BEq κ]

/-- The entry of a key, wherever it stands. -/
def find? (r : Recency κ ν) (k : κ) : Option (κ × Option ν) :=
  List.find? (fun e => e.1 == k) r

/-- What is recorded for a key. -/
def peek? (r : Recency κ ν) (k : κ) : Option (Option ν) :=
  (r.find? k).map (·.2)

/-- The list without a key. -/
def without (r : Recency κ ν) (k : κ) : Recency κ ν :=
  r.filter fun e => !(e.1 == k)

/-- Moves the entry of a key to the front. -/
def touch (r : Recency κ ν) (k : κ) : Recency κ ν :=
  match r.find? k with
  | some e => e :: r.without k
  | none => r

/-- Records a value for a key in front, and says whether another key was pushed out. A key that
is there keeps its form. -/
def push (capacity : Nat) (r : Recency κ ν) (k : κ) (v : Option ν) : Bool × Recency κ ν :=
  match r.find? k with
  | some e => (false, (e.1, v) :: r.without k)
  | none =>
    if r.length < capacity then (false, (k, v) :: r)
    else (true, (k, v) :: r.dropLast)

end Recency

end Nomenclator.Cache
