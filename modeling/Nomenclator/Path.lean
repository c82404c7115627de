import Nomenclator.Text.Blank

/-!
# Property paths

A path leads from a resource to its values through one property or several, each followed either
from subject to object or backwards. Its written form puts every property in angle brackets and
separates the steps by a slash.
-/

namespace Nomenclator

/-- One property, followed forwards or, when `inverse`, from object to subject. -/
structure Step where
  iri : String
  inverse : Bool
  deriving Repr, DecidableEq, Inhabited

/-- The written form of a step. -/
def Step.render (s : Step) : String :=
  if s.inverse then s!"^<{s.iri}>" else s!"<{s.iri}>"

/-- The steps of a path from its start. -/
abbrev Path := List Step

/-- The written form of a path. -/
def Path.render (p : Path) : String :=
  Text.joinWith "/" (p.map Step.render)

/-- Why a list of candidate properties makes no query. -/
inductive PatternError where
  | emptyCandidateList
  | emptyPattern (index : Nat)
  | emptyStep (pattern : String)
  | invalidPath (pattern reason : String)
  deriving Repr, DecidableEq

/-- The text of a pattern error. -/
def PatternError.message : PatternError → String
  | .emptyCandidateList => "candidate property list is empty"
  | .emptyPattern index => s!"candidate property #{index} is empty"
  | .emptyStep pattern => s!"property path `{pattern}` contains an empty step"
  | .invalidPath pattern reason => s!"property path `{pattern}` is invalid: {reason}"

end Nomenclator
