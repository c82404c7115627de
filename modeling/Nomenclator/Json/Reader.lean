import Nomenclator.Json
import Nomenclator.Json.Token

/-!
# Reading JSON

A value is read token by token with the list of the containers that are still open. No token is
looked at twice, so reading ends with the tokens, and what follows a value is left for others.
A value that is only passed over may nest as deeply as it likes and may hold strings that are
none and numbers that are too large; a value that is kept may not.
-/

namespace Nomenclator.Json

/-- A container that is still open, its entries last one first. -/
inductive Frame where
  | list (items : List Json)
  | object (fields : List (String × Json)) (key : String)

/-- What may come next inside the open containers. -/
inductive Expected where
  /-- A value. -/
  | value
  /-- The first item of a list, or its end. -/
  | item
  /-- The first key of an object, or its end. -/
  | firstKey (fields : List (String × Json))
  /-- A further key. -/
  | key (fields : List (String × Json))
  /-- The colon behind a key. -/
  | colon (fields : List (String × Json)) (key : String)
  /-- A comma or the end of the innermost container. -/
  | more

/-- The open containers and what may come next. -/
structure Reading where
  /-- Whether the value is kept. -/
  strict : Bool
  frames : List Frame
  expected : Expected

namespace Reading

/-- The most containers that a kept value may have around one another. -/
def depthLimit : Nat := 127

/-- A container may be opened. -/
def mayOpen (r : Reading) : Bool := !r.strict || r.frames.length < depthLimit

/-- The string of a token; a string that is none does where it is not kept. -/
def stringOf (r : Reading) : Option String → Option String
  | some s => some s
  | none => if r.strict then none else some ""

/-- What a token makes of a reading: a further reading, or the value if it is complete. -/
abbrev Progress := Option (Reading ⊕ Json)

/-- Puts a complete value into the innermost container. -/
def complete (r : Reading) (v : Json) : Progress :=
  match r.frames with
  | [] => some (.inr v)
  | .list items :: rest => some (.inl ⟨r.strict, .list (v :: items) :: rest, .more⟩)
  | .object fields key :: rest =>
    some (.inl ⟨r.strict, .object ((key, v) :: fields) "" :: rest, .more⟩)

/-- Takes a token where a value is expected. -/
def takeValue (r : Reading) : Token → Progress
  | .null => r.complete .null
  | .bool b => r.complete (.bool b)
  | .int n => r.complete (.int n)
  | .real none => if r.strict then none else r.complete .null
  | .real (some x) => r.complete (.real x)
  | .text s => (r.stringOf s).bind fun s => r.complete (.text s)
  | .openList =>
    if r.mayOpen then some (.inl ⟨r.strict, .list [] :: r.frames, .item⟩) else none
  | .openObject =>
    if r.mayOpen then some (.inl ⟨r.strict, .object [] "" :: r.frames, .firstKey []⟩) else none
  | .closeList | .closeObject | .comma | .colon | .broken => none

/-- Closes the innermost container, which must be of the right kind. -/
def close (r : Reading) (list : Bool) : Progress :=
  match r.frames, list with
  | .list items :: rest, true => complete ⟨r.strict, rest, .more⟩ (.list items.reverse)
  | .object fields _ :: rest, false => complete ⟨r.strict, rest, .more⟩ (.object fields.reverse)
  | _, _ => none

/-- Takes a token where a key is expected. -/
def takeKey (r : Reading) (fields : List (String × Json)) : Token → Progress
  | .text s => (r.stringOf s).map fun s => .inl ⟨r.strict, r.frames, .colon fields s⟩
  | _ => none

/-- Takes the next token. -/
def step (r : Reading) (t : Token) : Progress :=
  match r.expected, t with
  | .item, .closeList => r.close true
  | .value, t | .item, t => r.takeValue t
  | .firstKey _, .closeObject => r.close false
  | .firstKey fields, t | .key fields, t => r.takeKey fields t
  | .colon fields key, .colon =>
    some (.inl ⟨r.strict, .object fields key :: r.frames.drop 1, .value⟩)
  | .more, .comma =>
    match r.frames with
    | .list _ :: _ => some (.inl ⟨r.strict, r.frames, .value⟩)
    | .object fields _ :: _ => some (.inl ⟨r.strict, r.frames, .key fields⟩)
    | [] => none
  | .more, .closeList => r.close true
  | .more, .closeObject => r.close false
  | _, _ => none

/-- Takes tokens until a value is complete, and leaves the rest. -/
def run (r : Reading) : List Token → Option (Json × List Token)
  | [] => none
  | t :: rest =>
    match r.step t with
    | none => none
    | some (.inl r) => r.run rest
    | some (.inr v) => some (v, rest)

theorem run_length {r : Reading} {ts : List Token} {p : Json × List Token}
    (h : r.run ts = some p) : p.2.length < ts.length := by
  induction ts generalizing r with
  | nil => simp [run] at h
  | cons t rest ih =>
    unfold run at h
    split at h
    · simp at h
    · exact Nat.lt_succ_of_lt (ih h)
    · simp only [Option.some.injEq] at h
      subst h
      simp

end Reading

/-- Reads a value that is kept. -/
def readValue (ts : List Token) : Option (Json × List Token) :=
  Reading.run ⟨true, [], .value⟩ ts

/-- Passes over a value, and leaves the rest. -/
def skipValue (ts : List Token) : Option (List Token) :=
  (Reading.run ⟨false, [], .value⟩ ts).map (·.2)

theorem skipValue_length {ts rest : List Token} (h : skipValue ts = some rest) :
    rest.length < ts.length := by
  obtain ⟨p, hp, rfl⟩ := Option.map_eq_some_iff.1 h
  exact Reading.run_length hp

/-- Reads a text that is one value. -/
def parse (s : List Char) : Option Json :=
  match readValue (Token.ofText s) with
  | some (v, []) => some v
  | _ => none

end Nomenclator.Json
