import Nomenclator.Toml.Scalar
import Nomenclator.Toml.Token

/-!
# Reading TOML

A document is a sequence of lines; each opens a table or gives a key its value. Values nest, and
every nested value takes at least one token, so the number of tokens is fuel enough. Line breaks
may stand anywhere inside brackets and braces. Values and keys go down so far and no further.
-/

namespace Nomenclator.Toml

/-- Drops blanks in front. -/
def skipSpace : List Token → List Token
  | .space _ :: ts => ts
  | ts => ts

/-- The token separates nothing inside brackets. -/
def isFiller : Token → Bool
  | .space _ | .newline => true
  | _ => false

/-- Drops blanks and line breaks in front. -/
def skipFiller (ts : List Token) : List Token := ts.dropWhile isFiller

/-- The name that a token may be as a part of a key. -/
def keyPart? : Token → Option String
  | .bare w => some w
  | .text s => some s
  | _ => none

/-- The most lists and tables that a value may have around it, and the most parts of a key. -/
def depthLimit : Nat := 80

/-- Reads the parts of a key, with blanks around the dots. -/
def keyParts (done : List String) : List Token → Option (List String × List Token)
  | [] => none
  | .space _ :: t :: ts => readPart done t ts
  | t :: ts => readPart done t ts
where
  /-- Reads on behind a part. -/
  readPart (done : List String) (t : Token) (ts : List Token) :
      Option (List String × List Token) :=
    match keyPart? t, ts with
    | none, _ => none
    | some k, .space _ :: .dot :: ts => keyParts (done ++ [k]) ts
    | some k, .dot :: ts => keyParts (done ++ [k]) ts
    | some k, .space _ :: ts => some (done ++ [k], ts)
    | some k, ts => some (done ++ [k], ts)

/-- Reads a key that is not too long. -/
def keyPath (ts : List Token) : Option (List String × List Token) :=
  (keyParts [] ts).filter fun r => r.1.length ≤ depthLimit

/-- The text of a token that may be a piece of a word. -/
def piece? : Token → Option String
  | .bare w => some w
  | .dot => some "."
  | .plus => some "+"
  | .colon => some ":"
  | _ => none

/-- Takes the pieces of a word off the front. -/
def wordPieces (ts : List Token) : String × List Token :=
  let pieces := ts.takeWhile fun t => (piece? t).isSome
  (String.join (pieces.filterMap piece?), ts.dropWhile fun t => (piece? t).isSome)

/-- Reads a word as a value. Behind a date, a single blank may lead on to the time. -/
def wordValue (ts : List Token) : Option (Toml × List Token) :=
  let (word, rest) := wordPieces ts
  let (time, further) := wordPieces (rest.drop 1)
  if (Moment.day? word.toList).isSome && rest.head? = some (.space true)
      && time.toList.head?.any Char.isDigit then
    (scalar? (word.toList ++ ' ' :: time.toList)).map fun v => (v, further)
  else (scalar? word.toList).map fun v => (v, rest)

mutual

/-- Reads a value with room for so many lists and tables inside. -/
def value : Nat → Nat → List Token → Option (Toml × List Token)
  | 0, _, _ => none
  | fuel + 1, room, ts =>
    match ts, room with
    | .text s :: rest, _ | .block s :: rest, _ => some (.text s, rest)
    | .openList :: _, 0 | .openTable :: _, 0 => none
    | .openList :: rest, room + 1 => items fuel room [] (skipFiller rest)
    | .openTable :: rest, room + 1 => fields fuel room [] (skipFiller rest)
    | ts, _ => wordValue ts

/-- Reads the items of a list; the last one may have a comma behind it. -/
def items : Nat → Nat → List Toml → List Token → Option (Toml × List Token)
  | 0, _, _, _ => none
  | fuel + 1, room, done, ts =>
    match ts with
    | .closeList :: rest => some (.list false done, rest)
    | ts =>
      match value fuel room ts with
      | none => none
      | some (v, rest) =>
        match skipFiller rest with
        | .comma :: rest => items fuel room (done ++ [v]) (skipFiller rest)
        | .closeList :: rest => some (.list false (done ++ [v]), rest)
        | _ => none

/-- Reads the entries of a table between braces; the last one may have a comma behind it. -/
def fields : Nat → Nat → Entries → List Token → Option (Toml × List Token)
  | 0, _, _, _ => none
  | fuel + 1, room, done, ts =>
    match ts with
    | .closeTable :: rest => some (.table .inline done, rest)
    | ts =>
      match keyPath ts with
      | some (path, .equals :: rest) =>
        match value fuel room (skipSpace rest) with
        | none => none
        | some (v, rest) =>
          match assignAt path v done, skipFiller rest with
          | some done, .comma :: rest => fields fuel room done (skipFiller rest)
          | some done, .closeTable :: rest => some (.table .inline done, rest)
          | _, _ => none
      | _ => none

end

/-- A document that has been read so far: its entries and the header that applies. -/
structure Document where
  entries : Entries
  header : List String

/-- Opens a table or one more table of a list. -/
def Document.enter (d : Document) (path : List String) (item : Bool) : Option Document := do
  let key ← path.getLast?
  let entries ← underHeader (if item then openItem key else openTable key) path.dropLast d.entries
  return ⟨entries, path⟩

/-- Gives a key its value under the header that applies. -/
def Document.set (d : Document) (path : List String) (v : Toml) : Option Document :=
  (underHeader (assignAt path v) d.header d.entries).map fun entries => ⟨entries, d.header⟩

/-- The rest behind the end of a line. -/
def endLine (ts : List Token) : Option (List Token) :=
  match skipSpace ts with
  | [] => some []
  | .newline :: rest => some rest
  | _ => none

/-- Reads one line that is not empty. -/
def line (d : Document) (ts : List Token) : Option (Document × List Token) :=
  match ts with
  | .openList :: .openList :: ts => do
    let (path, ts) ← keyPath ts
    match ts with
    | .closeList :: .closeList :: ts => return (← d.enter path true, ← endLine ts)
    | _ => none
  | .openList :: ts => do
    let (path, ts) ← keyPath ts
    match ts with
    | .closeList :: ts => return (← d.enter path false, ← endLine ts)
    | _ => none
  | ts => do
    let (path, ts) ← keyPath ts
    match ts with
    | .equals :: ts =>
      let (v, ts) ← value (ts.length + 1) depthLimit (skipSpace ts)
      return (← d.set path v, ← endLine ts)
    | _ => none

/-- Reads the lines of a document. Every line takes at least one token, so their number is fuel
enough. -/
def lines : Nat → Document → List Token → Option Document
  | 0, _, _ => none
  | fuel + 1, d, ts =>
    match skipFiller ts with
    | [] => some d
    | ts =>
      match line d ts with
      | none => none
      | some (d, rest) => lines fuel d rest

/-- Reads a document. -/
def parse (s : List Char) : Option Entries := do
  let ts ← Token.ofText s
  let d ← lines (ts.length + 1) ⟨[], []⟩ ts
  return d.entries

end Nomenclator.Toml
