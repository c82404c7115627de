import Nomenclator.Text.Number
import Nomenclator.Yaml.Cursor

/-!
# Scalars of YAML

A scalar may go over several lines. Without quotes and in quotes a single line break is a blank,
and several are one less; behind a bar lines stay as they are, and behind an angle they are joined
where both begin with something.
-/

namespace Nomenclator.Yaml

/-- A text that has been read, the place behind it, and whether it ends with a line of its own. -/
structure Scanned where
  text : List Char
  cursor : Cursor
  broken : Bool := false

/-- Blanks and line breaks between words: the blanks in front of the first break, the number of
breaks, and the place behind. -/
def gap (c : Cursor) : List Char × Nat × Cursor :=
  let (blanks, _) := c.span isBlank
  let (all, behind) := c.span fun x => isBlank x || x == '\n'
  (blanks, all.count '\n', behind)

/-- What a gap between words means. -/
def folded (blanks : List Char) (breaks : Nat) : List Char :=
  match breaks with
  | 0 => blanks
  | 1 => [' ']
  | n + 2 => List.replicate (n + 1) '\n'

/-- The next character ends a scalar without quotes. -/
def endsPlain (flow : Bool) (c : Cursor) : Bool :=
  match c.peek? with
  | none => true
  | some x =>
    isBlank x || x == '\n' || (flow && isFlow x)
      || (x == ':' && (endsWord c.second? || (flow && c.second?.any isFlow)))

/-- Takes the characters of a word. -/
def word (flow : Bool) : Nat → Cursor → List Char × Cursor
  | 0, c => ([], c)
  | fuel + 1, c =>
    match c.peek? with
    | none => ([], c)
    | some x =>
      if endsPlain flow c then ([], c)
      else
        let (rest, behind) := word flow fuel c.next
        (x :: rest, behind)

/-- After a gap between lines, the last line has a tab where blanks must still indent it. A line
with nothing but blanks and a comment may have one. -/
def tabbed (indent : Int) (c further : Cursor) : Bool :=
  let all := c.rest.take (further.index - c.index)
  let line := (all.reverse.takeWhile (· != '\n')).reverse
  let spaces := (line.takeWhile (· == ' ')).length
  line.length < all.length && spaces < line.length && spaces ≤ indent
    && further.peek?.any (· != '#')

/-- Reads a scalar without quotes inside a block that is indented so far. -/
def scanPlain (flow : Bool) (indent : Int) : Nat → List Char → Cursor → Option Scanned
  | 0, done, c => some ⟨done, c, false⟩
  | fuel + 1, done, c =>
    let (w, behind) := word flow c.rest.length c
    let done := done ++ w
    let (blanks, breaks, further) := gap behind
    let broken := breaks != 0
    if tabbed indent behind further then none
    else if (blanks.isEmpty && !broken) || (broken && !flow && further.column ≤ indent)
        || atSeparator further || further.peek? == some '#' || endsPlain flow further then
      some ⟨done, further, broken⟩
    else scanPlain flow indent fuel (done ++ folded blanks breaks) further

/-- The character of an escape with a letter. -/
def shortEscape? : Char → Option Char
  | '0' => some '\x00'
  | 'a' => some '\x07'
  | 'b' => some '\x08'
  | 't' | '\t' => some '\t'
  | 'n' => some '\n'
  | 'v' => some '\x0b'
  | 'f' => some '\x0c'
  | 'r' => some '\x0d'
  | 'e' => some '\x1b'
  | ' ' => some ' '
  | '"' => some '"'
  | '/' => some '/'
  | '\\' => some '\\'
  | 'N' => some (Char.ofNat 0x85)
  | '_' => some (Char.ofNat 0xA0)
  | 'L' => some (Char.ofNat 0x2028)
  | 'P' => some (Char.ofNat 0x2029)
  | _ => none

/-- The number of digits of an escape with a number. -/
def escapeWidth? : Char → Option Nat
  | 'x' => some 2
  | 'u' => some 4
  | 'U' => some 8
  | _ => none

/-- Reads an escape behind its backslash. -/
def escape? (c : Cursor) : Option (Char × Cursor) := do
  let e ← c.peek?
  match escapeWidth? e with
  | none => return (← shortEscape? e, c.next)
  | some width =>
    let digits := c.next.rest.take width
    if digits.length < width then none
    let n ← Text.digits? 16 digits
    if n < 0xD800 || (0xDFFF < n && n < 0x110000) then
      return (Char.ofNat n, c.next.skip width)
    else none

/-- Reads a scalar in quotes behind the opening one. -/
def scanQuoted (double : Bool) : Nat → List Char → Cursor → Option Scanned
  | 0, _, _ => none
  | fuel + 1, done, c =>
    if atSeparator c then none
    else match c.peek?, double with
      | none, _ => none
      | some '"', true => some ⟨done, c.next, false⟩
      | some '\'', false =>
        if c.second? == some '\'' then scanQuoted double fuel (done ++ ['\'']) (c.skip 2)
        else some ⟨done, c.next, false⟩
      | some '\\', true =>
        if c.second? == some '\n' then
          let (_, breaks, behind) := gap c.next.next
          scanQuoted double fuel (done ++ List.replicate breaks '\n') behind
        else
          match escape? c.next with
          | some (x, behind) => scanQuoted double fuel (done ++ [x]) behind
          | none => none
      | some x, _ =>
        if isBlank x || x == '\n' then
          let (blanks, breaks, behind) := gap c
          scanQuoted double fuel (done ++ folded blanks breaks) behind
        else scanQuoted double fuel (done ++ [x]) c.next

/-- What becomes of the line breaks at the end of a block. -/
inductive Ending where
  | single
  | strip
  | keep
  deriving Repr, DecidableEq

/-- Reads what stands behind the mark of a block: how it ends, and how far it is indented. -/
def blockHeader (c : Cursor) : Option (Ending × Option Nat × Cursor) := do
  let ending? : Char → Option Ending := fun
    | '-' => some .strip
    | '+' => some .keep
    | _ => none
  let width? (x : Char) : Option Nat :=
    if x.isDigit && x != '0' then some (x.toNat - '0'.toNat) else none
  let (ending, width, c) := match c.peek?.bind ending?, c.peek?.bind width? with
    | some e, _ => match c.second?.bind width? with
      | some w => (e, some w, c.skip 2)
      | none => (e, none, c.next)
    | none, some w => match c.second?.bind ending? with
      | some e => (e, some w, c.skip 2)
      | none => (Ending.single, some w, c.next)
    | none, none => (Ending.single, none, c)
  let (blanks, behind) := c.span isBlank
  let (_, behind) :=
    if behind.peek? == some '#' && !blanks.isEmpty then behind.span (· != '\n') else ([], behind)
  match behind.peek? with
  | none | some '\n' => return (ending, width, behind.next)
  | some _ => none

/-- The first column of the first line with something in it. -/
def blockColumn : Nat → Cursor → Nat
  | 0, c => c.column
  | fuel + 1, c =>
    let (_, behind) := c.span (· == ' ')
    if behind.peek? == some '\n' then max behind.column (blockColumn fuel behind.next)
    else behind.column

/-- Passes over empty lines, and counts them. -/
def emptyLines (indent : Nat) : Nat → Cursor → Nat × Cursor
  | 0, c => (0, c)
  | fuel + 1, c =>
    let blanks := (c.rest.takeWhile (· == ' ')).length
    let c := c.skip (min blanks indent)
    if c.peek? == some '\n' then
      let (n, c) := emptyLines indent fuel c.next
      (n + 1, c)
    else (0, c)

/-- The lines of a block that have been read: the text, whether a break is pending, and how many
empty lines come after it. -/
structure Block where
  text : List Char
  pending : Bool
  empties : Nat
  blankBefore : Bool

/-- Puts a line behind a block. -/
def Block.add (literal : Bool) (b : Block) (line : List Char) : Block :=
  let blank := line.head?.any isBlank
  let joint :=
    if !b.pending then []
    else if !literal && !b.blankBefore && !blank then (if b.empties = 0 then [' '] else [])
    else ['\n']
  ⟨b.text ++ joint ++ List.replicate b.empties '\n' ++ line, false, 0, blank⟩

/-- Reads the lines of a block. -/
def blockLines (literal : Bool) (indent : Nat) : Nat → Block → Cursor → Block × Cursor
  | 0, b, c => (b, c)
  | fuel + 1, b, c =>
    if c.column == indent && c.peek?.isSome && !atSeparator c then
      let (line, behind) := c.span (· != '\n')
      let b := b.add literal line
      if behind.peek?.isNone then (b, behind)
      else
        let (n, behind) := emptyLines indent behind.rest.length behind.next
        blockLines literal indent fuel { b with pending := true, empties := n } behind
    else (b, c)

/-- Reads a block behind its mark, inside a block that is indented so far. -/
def scanBlock (literal : Bool) (outer : Int) (c : Cursor) : Option Scanned := do
  let (ending, width, c) ← blockHeader c
  let base := outer.toNat
  let indent := match width with
    | some w => if 0 ≤ outer then base + w else w
    | none => max (max (blockColumn c.rest.length c) (outer + 1).toNat) 1
  let (n, c) := emptyLines indent c.rest.length c
  let (b, c) := blockLines literal indent (c.rest.length + 1) ⟨[], false, n, false⟩ c
  let ends := match ending with
    | .strip => []
    | .single => if b.pending then ['\n'] else []
    | .keep => (if b.pending then ['\n'] else []) ++ List.replicate b.empties '\n'
  return ⟨b.text ++ ends, c, true⟩

end Nomenclator.Yaml
