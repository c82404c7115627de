import Nomenclator.Discovery

/-!
# Lookups

The questions that users ask: the texts and types of some resources, with a language of their
choice in front of the configured ones. The answer covers exactly the resources asked for.
-/

namespace Nomenclator.Lookup

open Nomenclator.Language (Tag Preference)

/-- Which text is wanted. -/
inductive TextKind where
  | label
  | description
  deriving Repr, DecidableEq, Inhabited

/-- The resolver for a kind of text. -/
def TextKind.resolver {η σ : Type} (kind : TextKind) (chains : Discovery.Chains η σ) :
    Resolver η σ TextValue :=
  match kind with
  | .label => chains.labels
  | .description => chains.descriptions

/-- The preference of a question. A language that is given comes first, and a blank one asks for
text in no language first; without one the defaults apply as they are. -/
def languagesFor (defaults : Preference) : Option String → Preference
  | some tag => .withPrimary (Tag.ofString (Text.trimmed tag)) defaults
  | none => defaults

/-- The values for exactly the resources asked for. -/
def valuesFor {α : Type} (answers : Answers ResourceId α) (ids : List ResourceId) :
    Table ResourceId (Option α) :=
  ids.map fun id => (id, Resolver.valueOf answers id)

variable {η σ α : Type}

/-- Asks a resolver for several resources, each once. -/
def several (r : Resolver η σ α) (inquiry : Inquiry) (ids : List ResourceId) :
    Effect σ (Table ResourceId (Option α)) := do
  let ids := distinct ids
  return valuesFor (← r.many inquiry ids) ids

end Nomenclator.Lookup
