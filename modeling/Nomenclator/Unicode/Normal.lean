import Nomenclator.Unicode.Composition

/-!
# The normal form of texts

Texts that differ only in how letters and marks are put together have one normal form: everything
is taken apart, the marks of each letter are put in the order of their classes, and whatever can
be one character again becomes one. Syllables of Hangul are taken apart and joined by arithmetic,
all others by table.
-/

namespace Nomenclator.Unicode

namespace Hangul

/-- The first syllable, and the letters that stand in front, in the middle and at the end. -/
def syllables : Nat := 0xAC00
def fronts : Nat := 0x1100
def middles : Nat := 0x1161
/-- One before the first letter that may stand at the end: most syllables have none there. -/
def ends : Nat := 0x11A7

/-- How many letters there are for each place. -/
def frontCount : Nat := 19
def middleCount : Nat := 21
def endCount : Nat := 28

/-- The letters of a syllable. -/
def split? (c : Char) : Option (List Char) :=
  let place := c.toNat - syllables
  if syllables ≤ c.toNat && place < frontCount * middleCount * endCount then
    let front := Char.ofNat (fronts + place / (middleCount * endCount))
    let middle := Char.ofNat (middles + place / endCount % middleCount)
    let last := place % endCount
    some (if last = 0 then [front, middle] else [front, middle, Char.ofNat (ends + last)])
  else none

/-- The syllable of a letter in front and one in the middle, or of such a syllable and a letter at
the end. -/
def join? (a b : Char) : Option Char :=
  let front := a.toNat - fronts
  let middle := b.toNat - middles
  let place := a.toNat - syllables
  let last := b.toNat - ends
  if fronts ≤ a.toNat && front < frontCount && middles ≤ b.toNat && middle < middleCount then
    some (Char.ofNat (syllables + (front * middleCount + middle) * endCount))
  else if syllables ≤ a.toNat && place < frontCount * middleCount * endCount
      && place % endCount = 0 && ends < b.toNat && last < endCount then
    some (Char.ofNat (a.toNat + last))
  else none

end Hangul

/-- How often a character may have to be taken apart; no character has more marks. -/
def decompositionDepth : Nat := 4

/-- Takes a character apart. -/
def decomposed : Nat → Char → List Char
  | 0, c => [c]
  | depth + 1, c =>
    match Hangul.split? c, pairOf? c with
    | some cs, _ => cs
    | none, some p => decomposed depth p.first ++ [p.second]
    | none, none => [c]

/-- Puts a character behind others, in front of marks of higher classes at their end. The others
come last one first. -/
def placed (c : Char) : List Char → List Char
  | [] => [c]
  | d :: rest =>
    if combiningClass c ≠ 0 && combiningClass c < combiningClass d then d :: placed c rest
    else c :: d :: rest

/-- A text taken apart, with the marks in the order of their classes. -/
def canonicalDecomposition (s : List Char) : List Char :=
  ((s.flatMap (decomposed decompositionDepth)).foldl (fun done c => placed c done) []).reverse

/-- A text that is being put together: what is finished, the last character that is no mark, and
the marks behind it that could not be joined with it, all last one first. -/
structure Composing where
  finished : List Char
  base : Option Char
  marks : List Char

/-- The text so far, last character first. -/
def Composing.text (w : Composing) : List Char := w.marks ++ w.base.toList ++ w.finished

/-- Nothing between a character and the base keeps them apart. -/
def Composing.reaches (w : Composing) (c : Char) : Bool :=
  match w.marks with
  | [] => true
  | d :: _ => combiningClass d < combiningClass c

/-- Puts a character behind a text, or joins it with the base. -/
def Composing.add (w : Composing) (c : Char) : Composing :=
  let joined := if w.reaches c then
      w.base.bind fun b => (Hangul.join? b c).or (joined? b c)
    else none
  match joined with
  | some b => { w with base := some b }
  | none =>
    if combiningClass c = 0 then ⟨w.text, some c, []⟩ else { w with marks := c :: w.marks }

/-- The normal form of a text. -/
def normalForm (s : List Char) : List Char :=
  ((canonicalDecomposition s).foldl Composing.add ⟨[], none, []⟩).text.reverse

end Nomenclator.Unicode
