import Nomenclator.Yaml
import Nomenclator.Yaml.Token

/-!
# Reading YAML

Tokens are put together into values from outside to inside. A value can get a name and be meant
again by it further on. Keys of a mapping must differ.
-/

namespace Nomenclator.Yaml

/-- The values that have got names. -/
abbrev Names := List (String × Yaml)

/-- A value, the names so far, and the tokens behind it. -/
abbrev Found := Yaml × Names × List Token

/-- What stands in front of a value: its name and its type. -/
structure Properties where
  name : Option String := none
  /-- The type, if one is given; none inside if it is not one of the usual types. -/
  type : Option (Option String) := none

/-- Takes the name and the type of a value, in any order. -/
def properties (p : Properties) : List Token → Option (Properties × List Token)
  | .anchor name :: ts => if p.name.isSome then none else properties { p with name := some name } ts
  | .tag type :: ts => if p.type.isSome then none else properties { p with type := some type } ts
  | ts => some (p, ts)

/-- Gives a value its name. -/
def Properties.keep (p : Properties) (v : Yaml) (names : Names) : Names :=
  match p.name with
  | some name => (name, v) :: names
  | none => names

/-- What a scalar means. -/
def scalarOf (p : Properties) (plain : Bool) (s : String) : Yaml :=
  match plain, p.type with
  | true, none => ofPlain s
  | true, some (some type) => ofTagged type s
  | _, _ => .text s

/-- Puts an entry behind others; its key must be a new one. -/
def addEntry (done : List (Yaml × Yaml)) (key v : Yaml) : Option (List (Yaml × Yaml)) :=
  if done.any (·.1 == key) then none else some (done ++ [(key, v)])

/-- The token ends an entry of a block. -/
def endsEntry : Token → Bool
  | .key | .value | .blockEnd => true
  | _ => false

mutual

/-- Reads a value; with `block` it may be a block, with `bare` a sequence that is not indented. -/
def node : Nat → Bool → Bool → Names → List Token → Option Found
  | 0, _, _, _, _ => none
  | fuel + 1, block, bare, names, ts =>
    match ts with
    | .alias name :: rest => (names.find? (·.1 == name)).map fun e => (e.2, names, rest)
    | ts =>
      match properties {} ts with
      | none => none
      | some (p, ts) =>
        let finish (r : Option Found) : Option Found :=
          r.map fun (v, names, rest) => (v, p.keep v names, rest)
        match ts with
        | .scalar plain s :: rest => finish (some (scalarOf p plain s, names, rest))
        | .openList :: rest => finish (flowItems fuel [] names rest)
        | .openMapping :: rest => finish (flowEntries fuel [] names rest)
        | .sequenceStart :: rest =>
          if block then finish (blockItems fuel [] names rest) else none
        | .mappingStart :: rest =>
          if block then finish (blockEntries fuel [] names rest) else none
        | .entry :: rest =>
          if bare then finish (bareItems fuel [] names (.entry :: rest))
          else if p.name.isSome || p.type.isSome then finish (some (.null, names, ts))
          else none
        | ts =>
          if p.name.isSome || p.type.isSome then finish (some (.null, names, ts)) else none

/-- Reads the items of a block. -/
def blockItems : Nat → List Yaml → Names → List Token → Option Found
  | 0, _, _, _ => none
  | fuel + 1, done, names, ts =>
    match ts with
    | .blockEnd :: rest => some (.list done, names, rest)
    | .entry :: rest =>
      match rest.head? with
      | some .entry | some .blockEnd => blockItems fuel (done ++ [.null]) names rest
      | _ =>
        match node fuel true false names rest with
        | some (v, names, rest) => blockItems fuel (done ++ [v]) names rest
        | none => none
    | _ => none

/-- Reads the items of a sequence that is not indented further than its key. -/
def bareItems : Nat → List Yaml → Names → List Token → Option Found
  | 0, _, _, _ => none
  | fuel + 1, done, names, ts =>
    match ts with
    | .entry :: rest =>
      match rest.head? with
      | some .entry | some .key | some .value | some .blockEnd =>
        bareItems fuel (done ++ [.null]) names rest
      | _ =>
        match node fuel true false names rest with
        | some (v, names, rest) => bareItems fuel (done ++ [v]) names rest
        | none => none
    | ts => some (.list done, names, ts)

/-- Reads the entries of a block. -/
def blockEntries : Nat → List (Yaml × Yaml) → Names → List Token → Option Found
  | 0, _, _, _ => none
  | fuel + 1, done, names, ts =>
    match ts with
    | .blockEnd :: rest => some (.mapping done, names, rest)
    | .key :: rest =>
      if rest.head?.any endsEntry then blockValue fuel done .null names rest
      else
        match node fuel true true names rest with
        | some (k, names, rest) => blockValue fuel done k names rest
        | none => none
    | .value :: _ => blockValue fuel done .null names ts
    | _ => none

/-- Reads the value of an entry of a block, if it has one, and the entries behind it. -/
def blockValue : Nat → List (Yaml × Yaml) → Yaml → Names → List Token → Option Found
  | 0, _, _, _, _ => none
  | fuel + 1, done, k, names, ts =>
    match ts with
    | .value :: rest =>
      if rest.head?.any endsEntry then
        (addEntry done k .null).bind fun done => blockEntries fuel done names rest
      else
        match node fuel true true names rest with
        | some (v, names, rest) =>
          (addEntry done k v).bind fun done => blockEntries fuel done names rest
        | none => none
    | ts => (addEntry done k .null).bind fun done => blockEntries fuel done names ts

/-- Reads the items of a list in brackets; a pair is a mapping of its own. -/
def flowItems : Nat → List Yaml → Names → List Token → Option Found
  | 0, _, _, _ => none
  | fuel + 1, done, names, ts =>
    match ts with
    | .closeList :: rest => some (.list done, names, rest)
    | ts =>
      let item := match ts with
        | .key :: rest => flowPair fuel names rest
        | .value :: _ => flowPair fuel names ts
        | ts => node fuel false false names ts
      match item with
      | some (v, names, .comma :: rest) => flowItems fuel (done ++ [v]) names rest
      | some (v, names, .closeList :: rest) => some (.list (done ++ [v]), names, rest)
      | _ => none

/-- Reads a pair in a list, behind the mark of its key. -/
def flowPair : Nat → Names → List Token → Option Found
  | 0, _, _ => none
  | fuel + 1, names, ts =>
    match flowKey fuel names ts with
    | some (k, names, rest) =>
      (flowValue fuel names rest).map fun (v, names, rest) => (.mapping [(k, v)], names, rest)
    | none => none

/-- Reads a key in brackets, which may be empty. -/
def flowKey : Nat → Names → List Token → Option Found
  | 0, _, _ => none
  | fuel + 1, names, ts =>
    match ts with
    | .value :: _ | .comma :: _ | .closeList :: _ | .closeMapping :: _ => some (.null, names, ts)
    | ts => node fuel false false names ts

/-- Reads the value of a key in brackets, which may be missing. -/
def flowValue : Nat → Names → List Token → Option Found
  | 0, _, _ => none
  | fuel + 1, names, ts =>
    match ts with
    | .value :: rest =>
      match rest with
      | .comma :: _ | .closeList :: _ | .closeMapping :: _ => some (.null, names, rest)
      | rest => node fuel false false names rest
    | ts => some (.null, names, ts)

/-- Reads the entries of a mapping in braces; a key may stand there without a value. -/
def flowEntries : Nat → List (Yaml × Yaml) → Names → List Token → Option Found
  | 0, _, _, _ => none
  | fuel + 1, done, names, ts =>
    match ts with
    | .closeMapping :: rest => some (.mapping done, names, rest)
    | ts =>
      let key := match ts with
        | .key :: rest => flowKey fuel names rest
        | ts => flowKey fuel names ts
      match key with
      | none => none
      | some (k, names, rest) =>
        match flowValue fuel names rest with
        | none => none
        | some (v, names, rest) =>
          match addEntry done k v, rest with
          | some done, .comma :: rest => flowEntries fuel done names rest
          | some done, .closeMapping :: rest => some (.mapping done, names, rest)
          | _, _ => none

end

/-- Passes over the ends of documents. -/
def skipEnds (ts : List Token) : List Token := ts.dropWhile (· == .documentEnd)

/-- Nothing stands between the start of a document and this token. -/
def endsDocument : Token → Bool
  | .directive | .documentStart | .documentEnd | .streamEnd => true
  | _ => false

/-- Reads the documents of a stream; the first one may do without a start. -/
def documents : Nat → Bool → List Yaml → List Token → Option (List Yaml)
  | 0, _, _, _ => none
  | fuel + 1, mayStart, done, ts =>
    let ends := ts.head? == some .documentEnd
    let mayStart := mayStart || ends
    match skipEnds ts with
    | [.streamEnd] => some done
    | ts =>
      let marked := ts.dropWhile (· == .directive)
      match marked with
      | .documentStart :: rest =>
        if rest.head?.any endsDocument then documents fuel false (done ++ [.null]) rest
        else
          match node (4 * rest.length) true false [] rest with
          | some (v, _, rest) => documents fuel false (done ++ [v]) rest
          | none => none
      | _ =>
        if !mayStart || marked.length != ts.length then none
        else
          match node (4 * ts.length) true false [] ts with
          | some (v, _, rest) => documents fuel false (done ++ [v]) rest
          | none => none

/-- Reads the documents of a text. -/
def parse (s : List Char) : Option (List Yaml) := do
  let ts ← tokens? s
  documents (ts.length + 1) true [] ts

end Nomenclator.Yaml
