import Nomenclator.Text.Number

/-!
# Tokens of TOML

A document is cut into tokens first. Comments vanish, blanks stay, because they keep words apart
and the two brackets of a header together. Words are cut at dots, plus signs and colons: whether
these join keys or belong to a number or a date shows only later.
-/

namespace Nomenclator.Toml

/-- The smallest pieces of a TOML document. -/
inductive Token where
  | openList
  | closeList
  | openTable
  | closeTable
  | comma
  | equals
  | newline
  /-- Blanks; a date may stand in front of a single one. -/
  | space (single : Bool)
  /-- A string on one line, which may be a key. -/
  | text (value : String)
  /-- A string over several lines. -/
  | block (value : String)
  /-- Letters, digits, hyphens and underscores. -/
  | bare (word : String)
  | dot
  | plus
  | colon
  deriving Repr, DecidableEq, Inhabited

namespace Token

/-- The blanks inside a line. -/
def isSpace (c : Char) : Bool := c == ' ' || c == '\t'

/-- The character may stand in a word. -/
def isBare (c : Char) : Bool := c.isAlphanum || c == '-' || c == '_'

/-- The character may not stand in a comment or a string. -/
def isControl (c : Char) : Bool := (c.toNat < 0x20 && c != '\t') || c.toNat == 0x7F

/-- The character that an escape with a number stands for. -/
def scalar? (digits : List Char) : Option Char :=
  (Text.digits? 16 digits).bind fun n =>
    if n < 0xD800 || (0xDFFF < n && n < 0x110000) then some (Char.ofNat n) else none

/-- The character that a short escape stands for. -/
def shortEscape? : Char → Option Char
  | '"' => some '"'
  | '\\' => some '\\'
  | 'b' => some '\x08'
  | 'e' => some '\x1b'
  | 'f' => some '\x0c'
  | 'n' => some '\n'
  | 'r' => some '\x0d'
  | 't' => some '\t'
  | _ => none

/-- The text begins with a line break. -/
def atLineEnd : List Char → Bool
  | '\n' :: _ | '\x0d' :: '\n' :: _ => true
  | _ => false

/-- Scans a string with escapes behind its opening quote. -/
def scanBasic (done : List Char) : List Char → Option (List Char × List Char)
  | '"' :: rest => some (done.reverse, rest)
  | '\\' :: 'u' :: a :: b :: c :: d :: rest =>
    (scalar? [a, b, c, d]).bind fun x => scanBasic (x :: done) rest
  | '\\' :: 'x' :: a :: b :: rest =>
    (scalar? [a, b]).bind fun x => scanBasic (x :: done) rest
  | '\\' :: 'U' :: a :: b :: c :: d :: e :: f :: g :: h :: rest =>
    (scalar? [a, b, c, d, e, f, g, h]).bind fun x => scanBasic (x :: done) rest
  | '\\' :: e :: rest => (shortEscape? e).bind fun x => scanBasic (x :: done) rest
  | c :: rest => if isControl c || c == '\\' then none else scanBasic (c :: done) rest
  | [] => none

/-- Scans a string with escapes over several lines behind its opening quotes. A backslash at
the end of a line takes all blanks and line breaks behind it along. Up to two quotes may stand
in front of the closing ones. -/
def scanBasicBlock (skipping : Bool) (done : List Char) :
    List Char → Option (List Char × List Char)
  | '"' :: '"' :: '"' :: '"' :: '"' :: rest => some (('"' :: '"' :: done).reverse, rest)
  | '"' :: '"' :: '"' :: '"' :: rest => some (('"' :: done).reverse, rest)
  | '"' :: '"' :: '"' :: rest => some (done.reverse, rest)
  | '\\' :: 'u' :: a :: b :: c :: d :: rest =>
    (scalar? [a, b, c, d]).bind fun x => scanBasicBlock false (x :: done) rest
  | '\\' :: 'x' :: a :: b :: rest =>
    (scalar? [a, b]).bind fun x => scanBasicBlock false (x :: done) rest
  | '\\' :: 'U' :: a :: b :: c :: d :: e :: f :: g :: h :: rest =>
    (scalar? [a, b, c, d, e, f, g, h]).bind fun x => scanBasicBlock false (x :: done) rest
  | '\\' :: e :: rest =>
    if atLineEnd ((e :: rest).dropWhile isSpace) then scanBasicBlock true done (e :: rest)
    else (shortEscape? e).bind fun x => scanBasicBlock false (x :: done) rest
  | '\x0d' :: '\n' :: rest =>
    scanBasicBlock skipping (if skipping then done else '\n' :: done) rest
  | '\n' :: rest => scanBasicBlock skipping (if skipping then done else '\n' :: done) rest
  | c :: rest =>
    if isControl c || c == '\\' then none
    else if skipping && isSpace c then scanBasicBlock true done rest
    else scanBasicBlock false (c :: done) rest
  | [] => none

/-- Scans a string without escapes behind its opening quote. -/
def scanLiteral (done : List Char) : List Char → Option (List Char × List Char)
  | '\'' :: rest => some (done.reverse, rest)
  | c :: rest => if isControl c then none else scanLiteral (c :: done) rest
  | [] => none

/-- Scans a string without escapes over several lines behind its opening quotes. -/
def scanLiteralBlock (done : List Char) : List Char → Option (List Char × List Char)
  | '\'' :: '\'' :: '\'' :: '\'' :: '\'' :: rest =>
    some (('\'' :: '\'' :: done).reverse, rest)
  | '\'' :: '\'' :: '\'' :: '\'' :: rest => some (('\'' :: done).reverse, rest)
  | '\'' :: '\'' :: '\'' :: rest => some (done.reverse, rest)
  | '\x0d' :: '\n' :: rest => scanLiteralBlock ('\n' :: done) rest
  | '\n' :: rest => scanLiteralBlock ('\n' :: done) rest
  | c :: rest => if isControl c then none else scanLiteralBlock (c :: done) rest
  | [] => none

/-- Drops a line break in front. -/
def dropBreak : List Char → List Char
  | '\n' :: rest | '\x0d' :: '\n' :: rest => rest
  | s => s

/-- A scanned string as a token. -/
def ofScan (token : String → Token) (r : Option (List Char × List Char)) :
    Option (Option Token × List Char) :=
  r.map fun r => (some (token (String.ofList r.1)), r.2)

/-- The first token of a text, if it is not a comment, with the rest. -/
def first : List Char → Option (Option Token × List Char)
  | [] => none
  | '[' :: rest => some (some .openList, rest)
  | ']' :: rest => some (some .closeList, rest)
  | '\x7b' :: rest => some (some .openTable, rest)
  | '\x7d' :: rest => some (some .closeTable, rest)
  | ',' :: rest => some (some .comma, rest)
  | '=' :: rest => some (some .equals, rest)
  | '.' :: rest => some (some .dot, rest)
  | '+' :: rest => some (some .plus, rest)
  | ':' :: rest => some (some .colon, rest)
  | '\n' :: rest | '\x0d' :: '\n' :: rest => some (some .newline, rest)
  | '#' :: rest =>
    let comment := rest.takeWhile fun c => c != '\n' && c != '\x0d'
    if comment.any isControl then none
    else some (none, rest.dropWhile fun c => c != '\n' && c != '\x0d')
  | '"' :: '"' :: '"' :: rest => ofScan .block (scanBasicBlock false [] (dropBreak rest))
  | '"' :: rest => ofScan .text (scanBasic [] rest)
  | '\'' :: '\'' :: '\'' :: rest => ofScan .block (scanLiteralBlock [] (dropBreak rest))
  | '\'' :: rest => ofScan .text (scanLiteral [] rest)
  | c :: rest =>
    if isSpace c then
      some (some (.space (c == ' ' && !rest.head?.any isSpace)), rest.dropWhile isSpace)
    else if isBare c then
      some (some (.bare (String.ofList ((c :: rest).takeWhile isBare))), rest.dropWhile isBare)
    else none

/-- The tokens of a text, behind those already read, last one first. Every token takes at least
one character, so the length of the text is fuel enough. -/
def readFrom (done : List Token) : Nat → List Char → Option (List Token)
  | _, [] => some done.reverse
  | 0, _ :: _ => none
  | fuel + 1, s =>
    match first s with
    | none => none
    | some (some t, rest) => readFrom (t :: done) fuel rest
    | some (none, rest) => readFrom done fuel rest

/-- The tokens of a document; a mark of the byte order in front is passed over. -/
def ofText (s : List Char) : Option (List Token) :=
  let s := if s.head? = some (Char.ofNat 0xFEFF) then s.drop 1 else s
  readFrom [] s.length s

end Token

end Nomenclator.Toml
