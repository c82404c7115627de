import Nomenclator.Json.Printer
import Nomenclator.Json.Reader

/-!
# Lists of strings in JSON

Lists of identifiers are read without a detour over values, because the first fault in the text
decides how it is refused: a text that is no JSON is malformed, while JSON of another shape is a
mismatch. An opening bracket in a wrong place is already a mismatch, whatever follows it. They are
written without blanks, for programs and not for people.
-/

namespace Nomenclator.Json

/-- Some strings in written form. -/
def writeStrings (strings : List String) : String :=
  "[" ++ Text.joinWith "," (strings.map quoted) ++ "]"

/-- How a text is refused. -/
inductive Refusal where
  /-- It is no JSON. -/
  | malformed
  /-- It is JSON, but not of the shape that is needed. -/
  | mismatch
  deriving Repr, DecidableEq

/-- A token begins a value of another shape. -/
def Token.isMisplaced : Token → Bool
  | .null | .bool _ | .int _ | .openList | .openObject => true
  | .real x => x.isSome
  | .text s => s.isSome
  | _ => false

/-- The refusal of some tokens where another shape is needed. -/
def refusal : List Token → Refusal
  | t :: _ => if t.isMisplaced then .mismatch else .malformed
  | [] => .malformed

/-- Reads the strings of a list from an item on; those already read come last one first. -/
def stringItems (done : List String) : List Token → Except Refusal (List String × List Token)
  | .text (some s) :: .comma :: rest => stringItems (s :: done) rest
  | .text (some s) :: .closeList :: rest => .ok ((s :: done).reverse, rest)
  | .text (some _) :: _ => .error .malformed
  | ts => .error (refusal ts)

/-- Reads a list of strings, and leaves the rest. -/
def stringList : List Token → Except Refusal (List String × List Token)
  | .openList :: .closeList :: rest => .ok ([], rest)
  | .openList :: rest => stringItems [] rest
  | ts => .error (refusal ts)

theorem stringItems_length {done : List String} {ts : List Token}
    {r : List String × List Token} (h : stringItems done ts = .ok r) :
    r.2.length < ts.length := by
  fun_induction stringItems done ts with
  | case1 _ _ _ ih => have := ih h; simp only [List.length_cons]; omega
  | case2 => simp only [Except.ok.injEq] at h; subst h; simp only [List.length_cons]; omega
  | case3 => simp at h
  | case4 => simp at h

theorem stringList_length {ts : List Token} {r : List String × List Token}
    (h : stringList ts = .ok r) : r.2.length < ts.length := by
  unfold stringList at h
  split at h
  · simp only [Except.ok.injEq] at h
    subst h
    simp only [List.length_cons]
    omega
  · exact Nat.lt_succ_of_lt (stringItems_length h)
  · simp at h

/-- Reads a text that is a list of strings. -/
def parseStrings (s : List Char) : Except Refusal (List String) :=
  match stringList (Token.ofText s) with
  | .ok (strings, []) => .ok strings
  | .ok _ => .error .malformed
  | .error r => .error r

/-- Reads the fields of an object from a key on, and gives the strings under the wanted one. It
may stand there once; other fields are passed over. -/
def wantedField (name : String) (found : Option (List String)) (ts : List Token) :
    Option (Option (List String)) :=
  match ts with
  | .text (some key) :: .colon :: ts =>
    if key == name then
      if found.isSome then none
      else match _h : stringList ts with
        | .ok (strings, .comma :: rest) => wantedField name (some strings) rest
        | .ok (strings, [.closeObject]) => some (some strings)
        | _ => none
    else match _h : skipValue ts with
      | some (.comma :: rest) => wantedField name found rest
      | some [.closeObject] => some found
      | _ => none
  | _ => none
termination_by ts.length
decreasing_by
  · have := stringList_length _h
    simp only [List.length_cons] at *
    omega
  · have := skipValue_length _h
    simp only [List.length_cons] at *
    omega

/-- Reads an object that may have a list of strings in one field, or a list that may have it as
its only item. Without it there are no strings. -/
def parseOptionalStrings (name : String) (s : List Char) : Option (List String) :=
  match Token.ofText s with
  | [.openList, .closeList] | [.openObject, .closeObject] => some []
  | .openList :: ts =>
    match stringList ts with
    | .ok (strings, [.closeList]) => some strings
    | _ => none
  | .openObject :: ts => (wantedField name none ts).map (·.getD [])
  | _ => none

end Nomenclator.Json
