import Nomenclator.Yaml.Scalar

/-!
# Tokens of YAML

Indentation becomes tokens too: a deeper column opens a block, and a column further left closes
all deeper ones. That something is a key shows only at the colon behind it, so the place of what
might be one is remembered until then, and the tokens for the key are put in there.
-/

namespace Nomenclator.Yaml

/-- The smallest pieces of a document. -/
inductive Token where
  | directive
  | documentStart
  | documentEnd
  | streamEnd
  | sequenceStart
  | mappingStart
  | blockEnd
  | openList
  | closeList
  | openMapping
  | closeMapping
  | entry
  | comma
  | key
  | value
  | alias (name : String)
  | anchor (name : String)
  /-- The type of what follows; none if it is not one of the usual types. -/
  | tag (type : Option String)
  | scalar (plain : Bool) (text : String)
  deriving Repr, DecidableEq, Inhabited

/-- Where something stands that might be a key. -/
structure Candidate where
  /-- It must be one, because nothing else can stand there. -/
  required : Bool
  /-- The number of tokens in front of it. -/
  place : Nat
  line : Nat
  column : Nat
  index : Nat

/-- How far the scan of a document has come. -/
structure Scan where
  cursor : Cursor
  tokens : Array Token
  /-- The column of the innermost block, and of those around it. -/
  indent : Int
  outer : List Int
  /-- A key may begin here. -/
  keyAllowed : Bool
  /-- What might be a key, for each open bracket and outside of all. -/
  candidates : List (Option Candidate)
  /-- The index at which a colon needs no blank behind it. -/
  adjacent : Option Nat

namespace Scan

/-- The beginning of a scan. -/
def start (s : List Char) : Scan := ⟨Cursor.start s, #[], -1, [], true, [none], none⟩

/-- Inside brackets. -/
def inFlow (s : Scan) : Bool := 1 < s.candidates.length

/-- Puts a token behind the others. -/
def emit (s : Scan) (t : Token) : Scan := { s with tokens := s.tokens.push t }

/-- Puts a token in a place among the others. -/
def insert (s : Scan) (place : Nat) (t : Token) : Scan :=
  { s with
    tokens := (s.tokens.extract 0 place).push t ++ s.tokens.extract place s.tokens.size }

/-- Goes on so many characters. -/
def skip (s : Scan) (n : Nat) : Scan := { s with cursor := s.cursor.skip n }

/-- Opens a block at a column that is deeper than the innermost one. -/
def roll (s : Scan) (column place : Nat) (t : Token) : Scan :=
  if !s.inFlow && s.indent < column then
    { s.insert place t with outer := s.indent :: s.outer, indent := column }
  else s

/-- Closes the blocks that are deeper than a column. -/
def unrollFrom (column indent : Int) (tokens : Array Token) :
    List Int → Array Token × Int × List Int
  | [] => (tokens, indent, [])
  | i :: outer =>
    if column < indent then unrollFrom column i (tokens.push .blockEnd) outer
    else (tokens, indent, i :: outer)

/-- Closes the blocks that are deeper than a column. -/
def unroll (s : Scan) (column : Int) : Scan :=
  if s.inFlow then s
  else
    let (tokens, indent, outer) := unrollFrom column s.indent s.tokens s.outer
    { s with tokens, indent, outer }

/-- What might be a key in the innermost brackets. -/
def candidate? (s : Scan) : Option Candidate := s.candidates.head?.join

/-- Forgets what might be a key, unless it must be one. -/
def dropCandidate (s : Scan) : Option Scan :=
  if s.candidate?.any (·.required) then none
  else some { s with candidates := none :: s.candidates.drop 1 }

/-- Remembers that a key might begin here. -/
def saveCandidate (s : Scan) : Option Scan :=
  if !s.keyAllowed then some s
  else do
    let s ← s.dropCandidate
    let c := s.cursor
    let required := !s.inFlow && s.indent == c.column
    return { s with
      candidates :=
        some ⟨required, s.tokens.size, c.line, c.column, c.index⟩ :: s.candidates.drop 1 }

/-- The most characters that a key without a mark of its own may have. -/
def keyLimit : Nat := 1024

/-- Forgets what might have been a key, but is too far back. -/
def dropStale (s : Scan) : Option Scan :=
  match s.candidate? with
  | none => some s
  | some k =>
    if !s.inFlow && (k.line < s.cursor.line || k.index + keyLimit < s.cursor.index) then
      s.dropCandidate
    else some s

/-- The place of the next token: blanks, line breaks and comments are passed over. A tab must not
indent what is in a block. -/
def toToken : Nat → Bool → Scan → Option Scan
  | 0, _, s => some s
  | fuel + 1, leading, s =>
    match s.cursor.peek? with
    | some '\t' =>
      if leading && !s.inFlow && s.cursor.column ≤ s.indent then
        let (_, behind) := s.cursor.span isBlank
        if behind.peek?.all fun c => c == '\n' || c == '#' then
          toToken fuel leading { s with cursor := behind }
        else none
      else toToken fuel leading (s.skip 1)
    | some ' ' => toToken fuel leading (s.skip 1)
    | some '\n' =>
      toToken fuel true { s.skip 1 with keyAllowed := s.keyAllowed || !s.inFlow }
    | some '#' =>
      let (_, behind) := s.cursor.span (· != '\n')
      toToken fuel leading { s with cursor := behind }
    | _ => some s

/-- Takes a line that separates documents. -/
def separator (s : Scan) (t : Token) : Option Scan := do
  let s ← (s.unroll (-1)).dropCandidate
  return { (s.emit t).skip 3 with keyAllowed := false }

/-- Takes a directive. -/
def directive (s : Scan) : Option Scan := do
  let s ← (s.unroll (-1)).dropCandidate
  let (_, behind) := s.cursor.span (· != '\n')
  return { s.emit .directive with cursor := behind, keyAllowed := false }

/-- The most brackets that may be open at once. -/
def bracketLimit : Nat := 255

/-- Takes an opening bracket. -/
def opening (s : Scan) (t : Token) : Option Scan := do
  let s ← s.saveCandidate
  if bracketLimit < s.candidates.length then none
  return { (s.emit t).skip 1 with keyAllowed := true, candidates := none :: s.candidates }

/-- Takes a closing bracket. -/
def closing (s : Scan) (t : Token) : Option Scan := do
  let s ← s.dropCandidate
  let s := (s.emit t).skip 1
  let candidates := if s.inFlow then s.candidates.drop 1 else s.candidates
  return { s with keyAllowed := false, candidates, adjacent := some s.cursor.index }

/-- Takes a comma between items in brackets. -/
def comma (s : Scan) : Option Scan := do
  let s ← s.dropCandidate
  return { (s.emit .comma).skip 1 with keyAllowed := true }

/-- Takes the hyphen of an item. -/
def entry (s : Scan) : Option Scan :=
  if s.inFlow || !s.keyAllowed then none
  else do
    let s ← (s.roll s.cursor.column s.tokens.size .sequenceStart).dropCandidate
    return { (s.emit .entry).skip 1 with keyAllowed := true }

/-- Takes the question mark of a key. -/
def key (s : Scan) : Option Scan :=
  if !s.inFlow && !s.keyAllowed then none
  else do
    let s ← (s.roll s.cursor.column s.tokens.size .mappingStart).dropCandidate
    return { (s.emit .key).skip 1 with keyAllowed := !s.inFlow }

/-- Takes the colon in front of a value. -/
def value (s : Scan) : Option Scan :=
  match s.candidate? with
  | some k =>
    let s := (s.insert k.place .key).roll k.column k.place .mappingStart
    some { (s.emit .value).skip 1 with
      keyAllowed := false, candidates := none :: s.candidates.drop 1 }
  | none =>
    if !s.inFlow && !s.keyAllowed then none
    else
      let s := s.roll s.cursor.column s.tokens.size .mappingStart
      some { (s.emit .value).skip 1 with keyAllowed := !s.inFlow }

/-- Takes the name of an anchor or an alias behind its mark. -/
def named (s : Scan) (t : String → Token) : Option Scan := do
  let s ← s.saveCandidate
  let (name, behind) := s.cursor.next.span fun c => !(isBlank c || c == '\n' || isFlow c)
  if name.isEmpty then none
  else return { s.emit (t (String.ofList name)) with cursor := behind, keyAllowed := false }

/-- The type that a tag names. -/
def typeOf : List Char → Option String
  | '!' :: '!' :: name => some (String.ofList name)
  | _ => none

/-- Takes a tag. -/
def tag (s : Scan) : Option Scan := do
  let s ← s.saveCandidate
  let (name, behind) := s.cursor.span fun c => !(isBlank c || c == '\n' || isFlow c)
  return { s.emit (.tag (typeOf name)) with cursor := behind, keyAllowed := false }

/-- Takes a scalar that has been read. -/
def scalar (s : Scan) (plain : Bool) (r : Scanned) : Scan :=
  { s.emit (.scalar plain (String.ofList r.text)) with
    cursor := r.cursor
    keyAllowed := r.broken
    adjacent := if plain then none else some r.cursor.index }

/-- Takes a scalar in quotes. -/
def quoted (s : Scan) (double : Bool) : Option Scan := do
  let s ← s.saveCandidate
  return s.scalar false (← scanQuoted double (s.cursor.rest.length + 1) [] s.cursor.next)

/-- Takes a scalar that is a block. -/
def block (s : Scan) (literal : Bool) : Option Scan := do
  let s ← s.dropCandidate
  return s.scalar false (← scanBlock literal s.indent s.cursor.next)

/-- Takes a scalar without quotes. -/
def plain (s : Scan) : Option Scan := do
  let s ← s.saveCandidate
  return s.scalar true (← scanPlain s.inFlow s.indent (s.cursor.rest.length + 1) [] s.cursor)

/-- The characters that begin no scalar without quotes. -/
def indicators : List Char :=
  ['-', '?', ':', ',', '[', ']', '\x7b', '\x7d', '#', '&', '*', '!', '|', '>', '\'', '"', '%',
    '@', '\x60']

/-- A scalar without quotes begins here. -/
def beginsPlain (s : Scan) (c : Char) : Bool :=
  let second := s.cursor.second?
  !indicators.contains c
    || ((c == '-' || c == '?' || c == ':')
      && !(endsWord second || (s.inFlow && second.any isFlow)))

/-- A colon here stands in front of a value. -/
def isValue (s : Scan) : Bool :=
  let second := s.cursor.second?
  endsWord second
    || (s.inFlow && (second.any isFlow || s.adjacent == some s.cursor.index))

/-- Takes the next token, which begins with a character. -/
def take (s : Scan) (c : Char) : Option Scan :=
  let second := s.cursor.second?
  if s.cursor.column == 0 && c == '%' then s.directive
  else if atSeparator s.cursor then
    s.separator (if c == '-' then .documentStart else .documentEnd)
  else match c with
    | '[' => s.opening .openList
    | '\x7b' => s.opening .openMapping
    | ']' => s.closing .closeList
    | '\x7d' => s.closing .closeMapping
    | ',' => if s.inFlow then s.comma else none
    | '*' => s.named .alias
    | '&' => s.named .anchor
    | '!' => s.tag
    | '|' => if s.inFlow then none else s.block true
    | '>' => if s.inFlow then none else s.block false
    | '\'' => s.quoted false
    | '"' => s.quoted true
    | c =>
      if c == '-' && endsWord second then s.entry
      else if c == '?' && endsWord second then s.key
      else if c == ':' && s.isValue then s.value
      else if s.beginsPlain c then s.plain
      else none

/-- Takes all tokens that are left. -/
def run : Nat → Scan → Option (Array Token)
  | 0, _ => none
  | fuel + 1, s => do
    let s ← toToken (s.cursor.rest.length + 1) (s.cursor.column == 0) s
    let s ← s.dropStale
    match s.cursor.peek? with
    | none =>
      let s ← (s.unroll (-1)).dropCandidate
      return (s.emit .streamEnd).tokens
    | some c => run fuel (← (s.unroll s.cursor.column).take c)

end Scan

/-- A text with one kind of line break. -/
def unified : List Char → List Char
  | '\x0d' :: '\n' :: s => '\n' :: unified s
  | '\x0d' :: s => '\n' :: unified s
  | c :: s => c :: unified s
  | [] => []

/-- The tokens of a text. Every token takes at least one character, so the length of the text is
fuel enough. -/
def tokens? (s : List Char) : Option (List Token) :=
  let s := unified s
  (Scan.run (s.length + 1) (Scan.start s)).map (·.toList)

end Nomenclator.Yaml
