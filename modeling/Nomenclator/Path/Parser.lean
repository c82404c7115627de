import Nomenclator.Path

/-!
# Reading property paths

A pattern without an opening bracket is one bare property, with an optional mark for the inverse
direction. A pattern with one is a sequence of bracketed steps separated by slashes. Blanks may
stand around a step, behind the inverse mark and inside the brackets, but never inside a
property.
-/

namespace Nomenclator.Path

open Text (isBlank trim trimLeft)

/-- The characters that no property may hold, blanks apart. -/
def isDelimiter (c : Char) : Bool :=
  c == '<' || c == '>' || c == '"' || c == '\x7b' || c == '\x7d'

/-- Takes the inverse mark off the front, with the blanks behind it. -/
def splitInverse : List Char → Bool × List Char
  | '^' :: rest => (true, trimLeft rest)
  | s => (false, s)

/-- A property is neither empty nor holds a blank or a delimiter. -/
def checkIri (pattern : String) (iri : List Char) : Except PatternError String :=
  if iri.isEmpty then .error (.emptyStep pattern)
  else if iri.any fun c => isBlank c || isDelimiter c then
    .error (.invalidPath pattern "IRI contains a forbidden character")
  else .ok (String.ofList iri)

theorem length_trimLeft_le (s : List Char) : (trimLeft s).length ≤ s.length :=
  (List.dropWhile_sublist _).length_le

theorem length_splitInverse_le (s : List Char) : (splitInverse s).2.length ≤ s.length := by
  unfold splitInverse
  split
  · simpa using Nat.le_succ_of_le (length_trimLeft_le _)
  · exact Nat.le_refl _

/-- Reads bracketed steps up to the end of the text. -/
def parseSteps (pattern : String) (s : List Char) : Except PatternError Path :=
  match s with
  | [] | '/' :: _ => .error (.emptyStep pattern)
  | s =>
    match _h : splitInverse s with
    | (inverse, '<' :: body) =>
      match _hb : body.dropWhile (· != '>') with
      | [] => .error (.invalidPath pattern "unterminated `<`")
      | _ :: after => do
        let iri ← checkIri pattern (trim (body.takeWhile (· != '>')))
        match _ha : trimLeft after with
        | [] => return [⟨iri, inverse⟩]
        | '/' :: next =>
          let rest ← parseSteps pattern (trimLeft next)
          return ⟨iri, inverse⟩ :: rest
        | _ :: _ => .error (.invalidPath pattern "steps must be separated by `/`")
    | _ => .error (.invalidPath pattern "expected `<` to open a step")
termination_by s.length
decreasing_by
  have h1 := length_splitInverse_le s
  have h2 := (List.dropWhile_sublist (· != '>') (l := body)).length_le
  have h3 := length_trimLeft_le after
  have h4 := length_trimLeft_le next
  rw [_h] at h1
  rw [_hb] at h2
  rw [_ha] at h3
  simp only [List.length_cons] at h1 h2 h3
  omega

/-- Reads a property path. -/
def parse (raw : String) : Except PatternError Path :=
  let chars := trim raw.toList
  let pattern := String.ofList chars
  if chars.isEmpty then .error (.emptyStep raw)
  else if chars.contains '<' then parseSteps pattern chars
  else do
    let (inverse, iri) := splitInverse chars
    let iri ← checkIri pattern iri
    return [⟨iri, inverse⟩]

end Nomenclator.Path
