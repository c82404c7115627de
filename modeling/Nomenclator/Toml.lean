import Nomenclator.Binary
import Nomenclator.Toml.Moment

/-!
# TOML documents

A document is a tree of tables. A table can be written in several pieces, but each piece only in
ways that leave no doubt who owns the table, so every table remembers how it came into being:
that decides who may add to it later.
-/

namespace Nomenclator

/-- How a table came into being. -/
inductive Toml.Origin where
  /-- A longer header needs it. -/
  | implied
  /-- It has a header of its own. -/
  | header
  /-- It is the inner part of a dotted key. -/
  | dotted
  /-- It is written between braces, and complete. -/
  | inline
  deriving Repr, DecidableEq, Inhabited

/-- A value of a TOML document. -/
inductive Toml where
  | text (value : String)
  | int (value : Int)
  | bool (value : Bool)
  /-- A number that need not be whole. -/
  | real (value : Binary)
  /-- A date, a time or both. -/
  | moment (value : Toml.Moment)
  /-- A list; one that grows gets one table more with every header of its name. -/
  | list (grows : Bool) (items : List Toml)
  | table (origin : Toml.Origin) (entries : List (String × Toml))
  deriving Inhabited

namespace Toml

/-- The entries of a table. -/
abbrev Entries := List (String × Toml)

/-- The value under a key. -/
def get? (es : Entries) (key : String) : Option Toml :=
  (es.find? (·.1 == key)).map (·.2)

/-- Puts a value under a key. -/
def put (es : Entries) (key : String) (v : Toml) : Entries :=
  if es.any (·.1 == key) then es.map fun e => if e.1 == key then (key, v) else e
  else es ++ [(key, v)]

/-- Applies a change to the last item of a list. -/
def changeLast (f : Toml → Option Toml) : List Toml → Option (List Toml)
  | [] => none
  | [v] => (f v).map fun v => [v]
  | v :: rest => (changeLast f rest).map (v :: ·)

/-- Applies a change to the entries of a value that is a table. -/
def changeTable (f : Origin → Entries → Option Entries) : Toml → Option Toml
  | .table origin es => (f origin es).map (.table origin)
  | _ => none

/-- Goes down the tables that a header names and applies a change to the last one. Tables that
are missing are implied; a list that grows is entered at its last table. -/
def underHeader (f : Entries → Option Entries) : List String → Entries → Option Entries
  | [], es => f es
  | key :: rest, es =>
    let inner (origin : Origin) (inside : Entries) : Option Entries :=
      if origin = .inline then none else underHeader f rest inside
    match get? es key with
    | none => (inner .implied []).map fun inside => put es key (.table .implied inside)
    | some (.list true items) =>
      (changeLast (changeTable inner) items).map fun items => put es key (.list true items)
    | some v => (changeTable inner v).map (put es key)

/-- Goes down the tables that a dotted key names and applies a change to the last one. Tables that
only longer headers need pass to dotted keys thereby; one with a header of its own is closed to
them, unless it is the last one of a list that grows and the key goes on beyond it. -/
def underDotted (f : Entries → Option Entries) : List String → Entries → Option Entries
  | [], es => f es
  | key :: rest, es =>
    match get? es key with
    | none => (underDotted f rest []).map fun inside => put es key (.table .dotted inside)
    | some (.list true items) =>
      if rest.isEmpty then none
      else
        (changeLast (changeTable fun _ inside => underDotted f rest inside) items).map fun items =>
          put es key (.list true items)
    | some (.table origin inside) =>
      if origin = .dotted || origin = .implied then
        (underDotted f rest inside).map fun inside => put es key (.table .dotted inside)
      else none
    | some _ => none

/-- Opens a table for its header, which may stand in the document once. -/
def openTable (key : String) (es : Entries) : Option Entries :=
  match get? es key with
  | none => some (put es key (.table .header []))
  | some (.table .implied inside) => some (put es key (.table .header inside))
  | some _ => none

/-- Opens one more table of a list that grows. -/
def openItem (key : String) (es : Entries) : Option Entries :=
  match get? es key with
  | none => some (put es key (.list true [.table .header []]))
  | some (.list true items) => some (put es key (.list true (items ++ [.table .header []])))
  | some _ => none

/-- Gives a key its only value. -/
def assign (key : String) (v : Toml) (es : Entries) : Option Entries :=
  match get? es key with
  | none => some (es ++ [(key, v)])
  | some _ => none

/-- Gives a dotted key its only value. -/
def assignAt (path : List String) (v : Toml) (es : Entries) : Option Entries :=
  match path.getLast? with
  | none => none
  | some key => underDotted (assign key v) path.dropLast es

end Toml

end Nomenclator
