import Nomenclator.Language.Preference
import Nomenclator.Term

/-!
# Choosing the best text

Among several texts for one resource the preference decides, and the order of the texts breaks
ties. A text in the effective language ends the search at once; otherwise the least rank wins,
and the earliest text among equals.
-/

namespace Nomenclator.Language

/-- The languages that are ranked: the preference without repetitions, and "no language" as the
last resort when the preference does not mention it. -/
def ranking (effective : Tag) (fallbacks : List Tag) : List Tag :=
  let listed := effective :: Preference.unseen [effective] fallbacks
  if listed.any Tag.isNone then listed else listed ++ [Tag.none]

/-- The place of a tag in a ranking; all tags outside share the place behind the last. -/
def rank (ranked : List Tag) (t : Tag) : Nat :=
  ranked.idxOf t

/-- Scans the texts with the best one seen so far and its rank. -/
def choose.scan (ranked : List Tag) (best : Option (Nat × TextValue)) :
    List TextValue → Option TextValue
  | [] => best.map (·.2)
  | v :: rest =>
    let r := rank ranked v.language
    if r = 0 then some v
    else match best with
      | some (b, w) =>
        if b ≤ r then choose.scan ranked (some (b, w)) rest
        else choose.scan ranked (some (r, v)) rest
      | none => choose.scan ranked (some (r, v)) rest

/-- The text that suits a preference best; there is none only if there are no texts. -/
def choose (effective : Tag) (fallbacks : List Tag) (texts : List TextValue) :
    Option TextValue :=
  choose.scan (ranking effective fallbacks) none texts

/-- The place of the chosen text among the candidates. -/
def chosenIndex (effective : Tag) (fallbacks : List Tag) (texts : List TextValue) :
    Option Nat :=
  (choose effective fallbacks texts).map texts.idxOf

end Nomenclator.Language
