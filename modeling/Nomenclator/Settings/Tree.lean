import Nomenclator.Binary.Shortest
import Nomenclator.Json
import Nomenclator.Text.Number
import Nomenclator.Toml

/-!
# Layers of settings

Settings come from several sources, one laid over the other. Where two sources hold a table under
one key the tables are merged key by key; anything else replaces what was there, lists included.
Values keep the type that their source gave them and are converted only when it is known what is
needed: a variable is a string, but may be meant as a number.
-/

namespace Nomenclator.Settings

/-- The values of all sources so far. -/
inductive Tree where
  | nothing
  | text (value : String)
  | int (value : Int)
  | bool (value : Bool)
  | real (value : Binary)
  | list (items : List Tree)
  | table (entries : List (String × Tree))
  deriving Inhabited

namespace Tree

/-- The value under a key of a table. -/
def get? (es : List (String × Tree)) (key : String) : Option Tree :=
  (es.find? (·.1 == key)).map (·.2)

/-- Puts a value under a key of a table. -/
def put (es : List (String × Tree)) (key : String) (t : Tree) : List (String × Tree) :=
  if es.any (·.1 == key) then es.map fun e => if e.1 == key then (key, t) else e
  else es ++ [(key, t)]

/-- The entries of a table; anything else has none. -/
def entries : Tree → List (String × Tree)
  | .table es => es
  | _ => []

/-- The items of a list; anything else has none. -/
def items : Tree → List Tree
  | .list ts => ts
  | _ => []

mutual

/-- Lays a value over another. -/
def lay (new old : Tree) : Tree :=
  match new with
  | .table es => .table (layAll es old.entries)
  | t => t

/-- Lays the entries of a table over others. -/
def layAll (new : List (String × Tree)) (old : List (String × Tree)) : List (String × Tree) :=
  match new with
  | [] => old
  | (key, t) :: rest => layAll rest (put old key (lay t ((get? old key).getD .nothing)))

end

/-- A step on the way to a value. -/
inductive Step where
  | key (name : String)
  /-- A place in a list, counted from its end if it is negative. -/
  | place (index : Int)
  deriving Repr, DecidableEq

/-- Changes the value at the end of a way. What stands in the way and is no table or list gives
way to one, and a list grows as far as is needed. -/
def change (f : Tree → Tree) : List Step → Tree → Tree
  | [], t => f t
  | .key name :: rest, t =>
    .table (put t.entries name (change f rest ((get? t.entries name).getD .nothing)))
  | .place index :: rest, t =>
    let ts := t.items
    let missing := if index < 0 then (-index).toNat - ts.length else index.toNat + 1 - ts.length
    let ts :=
      if index < 0 then List.replicate missing .nothing ++ ts
      else ts ++ List.replicate missing .nothing
    let place := if index < 0 then (ts.length + index).toNat else index.toNat
    .list (ts.modify place (change f rest))

/-- The character may stand in the name of a step. -/
def isNameChar (c : Char) : Bool := c.isAlphanum || c == '_' || c == '-'

/-- Reads a place in a list: digits with a minus sign or without. -/
def place? (s : List Char) : Option Int :=
  (match s with
    | '-' :: ds => (Text.digits? 10 ds).map fun n => -(n : Int)
    | ds => (Text.digits? 10 ds).map Int.ofNat).filter Text.isWord

/-- Reads the steps behind the first one. Every step takes at least one character, so the length
of the text is fuel enough. -/
def stepsFrom : Nat → List Char → Option (List Step)
  | _, [] => some []
  | 0, _ => none
  | fuel + 1, '.' :: s =>
    match s.takeWhile isNameChar with
    | [] => none
    | name => (stepsFrom fuel (s.dropWhile isNameChar)).map (.key (String.ofList name) :: ·)
  | fuel + 1, '[' :: s =>
    let isSpace (c : Char) : Bool := c == ' ' || c == '\t'
    let inner := ((s.takeWhile (· != ']')).dropWhile isSpace).reverse.dropWhile isSpace
    match s.dropWhile (· != ']'), place? inner.reverse with
    | ']' :: rest, some index => (stepsFrom fuel rest).map (.place index :: ·)
    | _, _ => none
  | _ + 1, _ => none

/-- The way that a key at the top of a source means: names with dots between them and places in
brackets. A key that cannot be read so is one name. -/
def way (key : String) : List Step :=
  let s := key.toList
  match s.takeWhile isNameChar, stepsFrom s.length (s.dropWhile isNameChar) with
  | c :: name, some steps => .key (String.ofList (c :: name)) :: steps
  | _, _ => [.key key]

/-- Lays a source over the sources so far. -/
def layer (t : Tree) (source : List (String × Tree)) : Tree :=
  source.foldl (fun t e => change (lay e.2) (way e.1) t) t

/-- The most that an unsigned number may be. -/
def unsignedLimit : Nat := 0xFFFFFFFFFFFFFFFF

mutual

/-- A value of a JSON source. -/
def ofJson : Json → Tree
  | .null => .nothing
  | .bool b => .bool b
  | .int n => .int n
  | .real x => .real x
  | .text s => .text s
  | .list items => .list (ofJsonItems items)
  | .object fields => .table (ofJsonFields fields)

/-- The items of a list of a JSON source. -/
def ofJsonItems : List Json → List Tree
  | [] => []
  | v :: rest => ofJson v :: ofJsonItems rest

/-- The fields of an object of a JSON source; of repeated fields the last one counts. -/
def ofJsonFields : List (String × Json) → List (String × Tree)
  | [] => []
  | (name, v) :: rest =>
    let others := ofJsonFields rest
    if others.any (·.1 == name) then others else (name, ofJson v) :: others

end

mutual

/-- A value of a TOML source, whose whole numbers must be in the signed range. -/
def ofToml? : Toml → Option Tree
  | .text s => some (.text s)
  | .moment m => some (.text m.render)
  | .int n => if Text.isWord n then some (.int n) else none
  | .bool b => some (.bool b)
  | .real x => some (.real x)
  | .list _ items => (ofTomlItems? items).map .list
  | .table _ entries => (ofTomlEntries? entries).map .table

/-- The items of a list of a TOML source. -/
def ofTomlItems? : List Toml → Option (List Tree)
  | [] => some []
  | v :: rest => do return (← ofToml? v) :: (← ofTomlItems? rest)

/-- The entries of a table of a TOML source. -/
def ofTomlEntries? : List (String × Toml) → Option (List (String × Tree))
  | [] => some []
  | (name, v) :: rest => do return (name, ← ofToml? v) :: (← ofTomlEntries? rest)

end

/-- A string, a truth value or a number as a string. -/
def text? : Tree → Option String
  | .text s => some s
  | .bool b => some (if b then "true" else "false")
  | .int n => some (toString n)
  | .real x => some x.render
  | _ => none

/-- The truth value of a word. -/
def wordBool? (s : String) : Option Bool :=
  let word := String.ofList (s.toList.map Char.toLower)
  if ["1", "true", "on", "yes"].contains word then some true
  else if ["0", "false", "off", "no"].contains word then some false
  else none

/-- A truth value, a number that is zero or not, or a word for one. -/
def bool? : Tree → Option Bool
  | .bool b => some b
  | .int n => some (n != 0)
  | .real x => some !x.isZero
  | .text s => wordBool? s
  | _ => none

/-- The number that a string means: digits, or a word for one or zero. -/
def wordNumber? (s : String) : Option Nat :=
  let word := String.ofList (s.toList.map Char.toLower)
  if ["true", "on", "yes"].contains word then some 1
  else if ["false", "off", "no"].contains word then some 0
  else (Text.unsigned? s.toList).filter (· ≤ unsignedLimit)

/-- A number that is not negative, or what can be taken for one, up to a limit. One that need not
be whole is taken for the nearest one that is whole. -/
def number? (limit : Nat) (t : Tree) : Option Nat :=
  (match t with
    | .int n => if 0 ≤ n then some n.toNat else none
    | .real x => some (x.clamped unsignedLimit)
    | .bool b => some (if b then 1 else 0)
    | .text s => wordNumber? s
    | _ => none).filter (· ≤ limit)

/-- A list of strings. -/
def texts? : Tree → Option (List String)
  | .list ts => ts.mapM text?
  | _ => none

/-- The members of a group, which is a table with their names or a list in their order. -/
def members? (names : List String) : Tree → Option (String → Option Tree)
  | .table es => some (get? es)
  | .list ts => some fun name => ts[names.idxOf name]?
  | _ => none

/-- A member that may be missing; none means that it is there and wrong. -/
def optional {α : Type} (read : Tree → Option α) : Option Tree → Option (Option α)
  | none | some .nothing => some none
  | some t => (read t).map some

end Tree

end Nomenclator.Settings
