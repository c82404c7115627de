import Nomenclator.Language.Tag

/-!
# Terms and resolutions

A graph holds two kinds of terms: identifiers of resources and texts in some language. Looking a
resource up has three outcomes. A confirmed absence is knowledge and may be kept; "unknown" only
says that nobody has looked.
-/

namespace Nomenclator

open Nomenclator.Language (Tag)

/-- The global identifier of a resource; any text is allowed. -/
abbrev ResourceId := String

/-- The name of a store, also called a repository. -/
abbrev StoreName := String

/-- A display text with the language it is written in. -/
structure TextValue where
  text : String
  language : Tag
  deriving DecidableEq, Inhabited

namespace TextValue

/-- A text in the language that the tag stands for. -/
def tagged (text tag : String) : TextValue := ⟨text, Tag.ofString tag⟩

/-- A text in no language. -/
def plain (text : String) : TextValue := ⟨text, Tag.none⟩

/-- The written form: the text in quotes, as it is, and the tag if there is one. -/
def render (v : TextValue) : String :=
  if v.language.isNone then s!"\"{v.text}\"" else s!"\"{v.text}\"@{v.language}"

end TextValue

/-- What a triple may have as its object. -/
inductive Term where
  | iri (id : ResourceId)
  | text (value : TextValue)
  deriving DecidableEq, Inhabited

namespace Term

/-- The text of a term that is one. -/
def text? : Term → Option TextValue
  | .text v => some v
  | .iri _ => none

/-- The identifier of a term that is one. -/
def iri? : Term → Option ResourceId
  | .iri id => some id
  | .text _ => none

end Term

/-- The outcome of looking one resource up. -/
inductive Resolution (α : Type) where
  | found (value : α)
  /-- The absence is confirmed. -/
  | notFound
  /-- Nobody has looked. -/
  | unknown
  deriving DecidableEq, Inhabited

namespace Resolution

variable {α : Type}

/-- The outcome of a search that has been carried out. -/
def ofOption : Option α → Resolution α
  | some v => .found v
  | none => .notFound

/-- The value, if one was found. -/
def value? : Resolution α → Option α
  | .found v => some v
  | .notFound | .unknown => none

@[simp] theorem value?_ofOption (v : Option α) : (ofOption v).value? = v := by
  cases v <;> rfl

end Resolution

end Nomenclator
