import Nomenclator.Text.Form

/-!
# Properties of characters

A property of characters changes only at certain code points, so it is kept as the list of these in
ascending order, each with the value that holds from there on. In writing, such a table is a
sequence of words: the distance from the code point before, a capital letter, and what belongs to
it. Distances are in base thirty-six.
-/

namespace Nomenclator.Unicode

/-- The code points at which a property changes, ascending, with its values from there on. -/
abbrev Ranges (α : Type) := Array (Nat × α)

/-- The value of a digit in base thirty-six. -/
def digitValue (c : Char) : Nat :=
  if c.isDigit then c.toNat - '0'.toNat else c.toNat - 'a'.toNat + 10

/-- The number that some digits stand for. -/
def numberOf (s : List Char) : Nat := s.foldl (fun n c => n * 36 + digitValue c) 0

/-- The numbers with dots between them. -/
def numbersOf (s : List Char) : List Nat := (Text.Form.splitAt '.' s).map numberOf

namespace Ranges

/-- Puts the word of a table behind the ones before. -/
def addWord {α : Type} (value : Char → List Char → α) (table : Ranges α) (word : List Char) :
    Ranges α :=
  let distance := numberOf (word.takeWhile fun c => !c.isUpper)
  match word.dropWhile fun c => !c.isUpper with
  | [] => table
  | letter :: rest => table.push ((table.back?.map (·.1)).getD 0 + distance, value letter rest)

/-- Reads a table from its lines. -/
def ofLines {α : Type} (value : Char → List Char → α) (lines : List String) : Ranges α :=
  lines.foldl (fun table line =>
    (Text.Form.splitAt ' ' line.toList).foldl (addWord value) table) #[]

/-- The last place from `low` on and before `high` whose code point is not beyond `n`, if the
code point at `low` is not. -/
def search {α : Type} (table : Ranges α) (n low high : Nat) : Nat :=
  if low + 1 < high then
    let middle := (low + high) / 2
    if (table[middle]?).any (·.1 ≤ n) then search table n middle high
    else search table n low middle
  else low
termination_by high - low

/-- The change that applies to a character: its code point and the value. -/
def find? {α : Type} (table : Ranges α) (c : Char) : Option (Nat × α) :=
  (table[search table c.toNat 0 table.size]?).filter (·.1 ≤ c.toNat)

/-- The value of a property for a character. -/
def get? {α : Type} (table : Ranges α) (c : Char) : Option α := (find? table c).map (·.2)

end Ranges

end Nomenclator.Unicode
