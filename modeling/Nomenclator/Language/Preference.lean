import Nomenclator.Language.Tag

/-!
# Language preferences

A preference is a non-empty list of tags: the first is the effective language, the others are
fallbacks in decreasing order of preference. Non-emptiness is carried by the shape of the type,
so the effective language always exists.
-/

namespace Nomenclator.Language

/-- Why a value of this domain could not be formed. -/
inductive DomainError where
  /-- An input broke a rule for inputs. -/
  | validation (message : String)
  /-- A rule that the domain relies on would not hold. -/
  | invariant (message : String)
  deriving Repr, DecidableEq

/-- The text of a domain error. -/
def DomainError.message : DomainError → String
  | .validation m => s!"domain validation failed: {m}"
  | .invariant m => s!"domain invariant violated: {m}"

/-- An effective language with its fallbacks, best first. -/
structure Preference where
  effective : Tag
  fallbacks : List Tag
  deriving DecidableEq, Inhabited

namespace Preference

/-- All tags, the effective one first. -/
def tags (p : Preference) : List Tag := p.effective :: p.fallbacks

/-- The preference that lists the given tags as they are; repeated tags stay. -/
def ofTags : List Tag → Except DomainError Preference
  | [] => .error (.invariant "preferred language list must contain at least one entry")
  | t :: rest => .ok ⟨t, rest⟩

/-- The preference for one language and nothing else. -/
def single (t : Tag) : Preference := ⟨t, []⟩

/-- The tags of a list that are not yet known, each at its first place. -/
def unseen (known : List Tag) : List Tag → List Tag
  | [] => []
  | t :: rest =>
    if t ∈ known then unseen known rest else t :: unseen (known ++ [t]) rest

/-- Puts a language in front of a preference and drops the repeated tags behind it. -/
def withPrimary (primary : Tag) (base : Preference) : Preference :=
  ⟨primary, unseen [primary] base.tags⟩

/-- The written form: tags joined by commas, the empty tag as a pair of quotes. -/
def render (p : Preference) : String :=
  Text.joinWith "," (p.tags.map Tag.listed)

instance : ToString Preference := ⟨render⟩

end Preference

end Nomenclator.Language
