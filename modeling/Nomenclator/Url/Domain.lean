import Nomenclator.Text.Octets
import Nomenclator.Unicode.Direction
import Nomenclator.Unicode.Joining
import Nomenclator.Unicode.Mapping
import Nomenclator.Unicode.Mark
import Nomenclator.Unicode.Normal
import Nomenclator.Url.Label

/-!
# Domain names

Domain names are compared without regard to case and to the ways of writing the same letters, so
every name has one form, in which it is checked: no label begins with a mark, characters that only
show how letters join stand where they mean something, and directions are not mixed. A label that
is already encoded must have this form too.
-/

namespace Nomenclator.Url.Domain

open Nomenclator.Unicode
open Text.Form (splitAt)

/-- The characters that no domain name may hold. -/
def isForbidden (c : Char) : Bool :=
  c.toNat ≤ 0x20 || c.toNat == 0x7F
    || ['%', '#', '/', ':', '<', '>', '?', '@', '[', '\\', ']', '^', '|'].contains c

/-- The character is one of ASCII. -/
def isAscii (c : Char) : Bool := c.toNat < 0x80

/-- The characters that stand for those of a name, in normal form; none if one spoils the name. -/
def mapped? (s : List Char) : Option (List Char) :=
  (s.mapM Treatment.charactersOf?).map fun cs => normalForm cs.flatten

/-- The label claims to be encoded. -/
def isMarked (s : List Char) : Bool := Label.mark.isPrefixOf s

/-- The greatest length of the code of a label. -/
def codeLimit : Nat := 2000

/-- The greatest length of a label that has to be encoded. -/
def labelLimit : Nat := 1000

/-- The label that an encoded one stands for. It must not be in ASCII, and already in the form
that names are brought into. -/
def decoded? (s : List Char) : Option (List Char) :=
  let code := s.drop Label.mark.length
  if s.all isAscii && code.length ≤ codeLimit then
    (Label.ofPunycode? code).filter fun label =>
      label.any (fun c => !isAscii c) && label.all isKept && normalForm label == label
  else none

/-- The class of marks that leave a consonant without its vowel. -/
def killerClass : Nat := 9

/-- Letters on both sides would join across a place: `before` comes last one first. -/
def joinsAcross (before after : List Char) : Bool :=
  let isTransparent (c : Char) : Bool := joiningOf c == .transparent
  (before.dropWhile isTransparent).head?.any (fun c => [Joining.left, .both].contains (joiningOf c))
    && (after.dropWhile isTransparent).head?.any
      (fun c => [Joining.right, .both].contains (joiningOf c))

/-- Every character that only shows how its neighbours join stands where it means something.
What is in front comes last one first. -/
def joinersFit (before : List Char) : List Char → Bool
  | [] => true
  | c :: after =>
    let behindKiller := before.head?.any fun d => combiningClass d == killerClass
    (if c.toNat = 0x200D then behindKiller
      else if c.toNat = 0x200C then behindKiller || joinsAcross before after
      else true)
      && joinersFit (c :: before) after

/-- The character makes a name one that runs from right to left somewhere. -/
def runsLeft (c : Char) : Bool :=
  [Direction.rightToLeft, .arabicLetter, .arabicNumber].contains (directionOf c)

/-- The directions that may stand anywhere. -/
def anywhere : List Direction :=
  [.europeanNumber, .numberSeparator, .commonSeparator, .numberTerminator, .neutral, .boundary,
    .mark]

/-- The directions in a label that runs from left to right. -/
def fitsRight (ds : List Direction) : Bool :=
  ds.all (fun d => d == .leftToRight || anywhere.contains d)
    && (ds.reverse.dropWhile (· == .mark)).head?.any fun d =>
      [Direction.leftToRight, .europeanNumber].contains d

/-- The directions in a label that runs from right to left: numbers are of one kind only. -/
def fitsLeft (ds : List Direction) : Bool :=
  let letters : List Direction := [.rightToLeft, .arabicLetter]
  ds.all (fun d => letters.contains d || d == .arabicNumber || anywhere.contains d)
    && !(ds.contains .arabicNumber && ds.contains .europeanNumber)
    && (ds.reverse.dropWhile (· == .mark)).head?.any fun d =>
      letters.contains d || d == .arabicNumber || d == .europeanNumber

/-- Directions are not mixed in a label, which has to begin with a letter. -/
def directionsFit (s : List Char) : Bool :=
  match s.map directionOf with
  | [] => true
  | .leftToRight :: ds => fitsRight (.leftToRight :: ds)
  | .rightToLeft :: ds => fitsLeft (.rightToLeft :: ds)
  | .arabicLetter :: ds => fitsLeft (.arabicLetter :: ds)
  | _ => false

/-- A label as it is written and what it stands for. -/
structure Reading where
  written : List Char
  meant : List Char

/-- Reads a label; none if it cannot be decoded. -/
def reading? (s : List Char) : Option Reading :=
  if isMarked s then (decoded? s).map fun label => ⟨s, label⟩
  else if s.all isAscii then some ⟨s, s⟩
  else if s.length ≤ labelLimit then some ⟨Label.toAscii s, s⟩
  else none

/-- The label can stand in a name. -/
def Reading.fits (r : Reading) : Bool :=
  !r.meant.head?.any isMark && joinersFit [] r.meant

/-- A domain name in ASCII, if it can be one. -/
def toAscii? (s : List Char) : Option (List Char) := do
  let name ← mapped? s
  if name.any isForbidden then none
  let labels ← (splitAt '.' name).mapM reading?
  let mixed := labels.any fun r => r.meant.any runsLeft
  if labels.all Reading.fits && (!mixed || labels.all fun r => directionsFit r.meant) then
    return List.intercalate ['.'] (labels.map (·.written))
  else none

end Nomenclator.Url.Domain
