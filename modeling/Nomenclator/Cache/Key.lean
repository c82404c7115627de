import Nomenclator.Language.Preference
import Nomenclator.Term

/-!
# Keys of texts

The text of a resource depends on the preference it is asked with, but its place in a cache
depends on the resource and the effective language only. Keys that differ in their fallbacks
alone are equal without being identical: the full preference is kept for whoever has to load
the text.
-/

namespace Nomenclator.Cache

open Nomenclator.Language (Tag Preference)

/-- A resource and the preference it is asked with. -/
structure Key where
  resource : ResourceId
  languages : Preference
  deriving Inhabited

namespace Key

/-- The place of a key: what two keys must share to be equal. -/
def place (k : Key) : ResourceId × Tag := (k.resource, k.languages.effective)

instance : BEq Key := ⟨fun a b => decide (a.place = b.place)⟩

theorem beq_iff {a b : Key} : (a == b) = true ↔ a.place = b.place :=
  decide_eq_true_iff

instance : EquivBEq Key where
  rfl := beq_iff.2 rfl
  symm h := beq_iff.2 (beq_iff.1 h).symm
  trans h h' := beq_iff.2 ((beq_iff.1 h).trans (beq_iff.1 h'))

/-- The written form: the resource and the effective language. -/
def render (k : Key) : String := s!"{k.resource}@{k.languages.effective}"

end Key

end Nomenclator.Cache
