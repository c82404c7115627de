/-!
# Places in a text

How a YAML document is read depends on where things stand: on the column, on the line, and on
what comes next. A cursor is a place in a text with all of this.
-/

namespace Nomenclator.Yaml

/-- A place in a text: what is left, and the line, the column and the number of characters
before. -/
structure Cursor where
  rest : List Char
  line : Nat
  column : Nat
  index : Nat
  deriving Repr, Inhabited

namespace Cursor

/-- The beginning of a text. -/
def start (s : List Char) : Cursor := ⟨s, 0, 0, 0⟩

/-- The place behind the next character. -/
def next (c : Cursor) : Cursor :=
  match c.rest with
  | [] => c
  | '\n' :: rest => ⟨rest, c.line + 1, 0, c.index + 1⟩
  | _ :: rest => ⟨rest, c.line, c.column + 1, c.index + 1⟩

/-- The place so many characters on. -/
def skip (c : Cursor) : Nat → Cursor
  | 0 => c
  | n + 1 => c.next.skip n

/-- The next character. -/
def peek? (c : Cursor) : Option Char := c.rest.head?

/-- The character after the next one. -/
def second? (c : Cursor) : Option Char := (c.rest.drop 1).head?

/-- The characters from here on that belong together, and the place behind them. -/
def span (c : Cursor) (p : Char → Bool) : List Char × Cursor :=
  let s := c.rest.takeWhile p
  (s, c.skip s.length)

end Cursor

/-- A blank inside a line. -/
def isBlank (c : Char) : Bool := c == ' ' || c == '\t'

/-- A blank or the end of a line or of the text. -/
def endsWord : Option Char → Bool
  | none => true
  | some c => isBlank c || c == '\n'

/-- The character has a meaning inside brackets. -/
def isFlow (c : Char) : Bool := [',', '[', ']', '\x7b', '\x7d'].contains c

/-- A line begins here that separates documents. -/
def atSeparator (c : Cursor) : Bool :=
  c.column == 0 && (c.rest.take 3 == "---".toList || c.rest.take 3 == "...".toList)
    && endsWord (c.rest.drop 3).head?

end Nomenclator.Yaml
