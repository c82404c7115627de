import Nomenclator.Text.Blank
import Nomenclator.Text.Number

/-!
# INI documents

A document is a sequence of sections with named values, all of them texts; values in front of the
first section belong to none. A name goes up to an equals sign or a colon, a value to the end of
its line, or through quotes; a backslash gives the next character another meaning. A comment must
begin its line.
-/

namespace Nomenclator.Ini

/-- Named values under the name of their section, if they have one. -/
structure Section where
  name : Option String
  values : List (String × String)
  deriving Repr, DecidableEq, Inhabited

/-- The character that an escape stands for; a line break that is escaped vanishes. -/
def escape (c : Char) : List Char :=
  match c with
  | '0' => ['\x00']
  | 'a' => ['\x07']
  | 'b' => ['\x08']
  | 't' => ['\t']
  | 'r' => ['\x0d']
  | 'n' => ['\n']
  | '\n' => []
  | c => [c]

/-- Reads up to one of some characters and leaves it in front of the rest; with `toEnd` the end of
the text will do as well. -/
def upTo (ends : List Char) (toEnd : Bool) (done : List Char) :
    List Char → Option (List Char × List Char)
  | [] => if toEnd then some (done, []) else none
  | c :: s =>
    if ends.contains c then some (done, c :: s)
    else if c == '\\' then
      match s with
      | 'x' :: a :: b :: d :: e :: rest =>
        match Text.digits? 16 [a, b, d, e] with
        | some n =>
          if 0xD800 ≤ n && n ≤ 0xDFFF then none
          else upTo ends toEnd (done ++ [Char.ofNat n]) rest
        | none => none
      | x :: rest => if x == 'x' then none else upTo ends toEnd (done ++ escape x) rest
      | [] => none
    else upTo ends toEnd (done ++ [c]) s

/-- The blanks inside a line. -/
def isSpace (c : Char) : Bool := Text.isBlank c && c != '\n' && c != '\x0d'

/-- Reads a value: pieces in quotes, and what is left of the line. Fuel is the number of pieces
at most. -/
def valueFrom (first : Bool) (done : List Char) : Nat → List Char → Option (List Char × List Char)
  | 0, s => some (done, s)
  | fuel + 1, s =>
    match s with
    | '"' :: s =>
      (upTo ['"'] false [] s).bind fun r => valueFrom false (done ++ r.1) fuel (r.2.drop 1)
    | '\'' :: s =>
      (upTo ['\''] false [] s).bind fun r => valueFrom false (done ++ r.1) fuel (r.2.drop 1)
    | s =>
      (upTo ['\n', '\x0d'] true [] s).map fun r =>
        (done ++ (if first then Text.trim r.1 else Text.trimRight r.1), r.2)

/-- Puts a value under the last section. -/
def addValue (sections : List Section) (name value : String) : List Section :=
  match sections.reverse with
  | [] => [⟨none, [(name, value)]⟩]
  | last :: before => (⟨last.name, last.values ++ [(name, value)]⟩ :: before).reverse

/-- Reads sections from a place on; `fresh` says that a line begins here. -/
def sectionsFrom (done : List Section) (fresh : Bool) : Nat → List Char → Option (List Section)
  | _, [] => some done
  | 0, _ => none
  | fuel + 1, c :: s =>
    if Text.isBlank c then sectionsFrom done (c == '\n') fuel s
    else if c == ';' || c == '#' then
      if fresh then sectionsFrom done false fuel (s.dropWhile (· != '\n')) else none
    else if c == '[' then
      (upTo [']'] false [] s).bind fun r =>
        let name := String.ofList (Text.trim r.1)
        sectionsFrom (done ++ [⟨some name, []⟩]) false fuel (r.2.drop 1)
    else
      (upTo ['=', ':'] false [] (c :: s)).bind fun r =>
        let name := Text.trim r.1
        if name.isEmpty then none
        else
          (valueFrom true [] r.2.length ((r.2.drop 1).dropWhile isSpace)).bind fun v =>
            sectionsFrom (addValue done (String.ofList name) (String.ofList v.1)) false fuel v.2

/-- Reads the sections of a document. -/
def parse (s : List Char) : Option (List Section) := sectionsFrom [] true (s.length + 1) s

end Nomenclator.Ini
