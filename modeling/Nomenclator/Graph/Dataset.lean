import Nomenclator.Graph.Memory
import Nomenclator.Toml.Reader

/-!
# Datasets

A dataset is a document that lists stores with their triples. Decoding says what the document
means and refuses the wrong shapes; loading then creates the stores one by one, and refuses names
without content and triples without a definite object. One refusal spoils the whole dataset.
-/

namespace Nomenclator.Graph

/-- A triple as it stands in a dataset. -/
structure TripleEntry where
  subject : ResourceId
  predicate : String
  object : Option ResourceId
  literal : Option String
  /-- The language of the literal; beside an object it means nothing. -/
  language : Option String
  deriving Repr, DecidableEq, Inhabited

/-- A store as it stands in a dataset. -/
structure StoreEntry where
  name : String
  triples : List TripleEntry
  deriving Repr, DecidableEq, Inhabited

/-- Why a dataset is refused. -/
inductive DatasetError where
  | invalid
  | emptyName
  | indefinite (subject : ResourceId)
  deriving Repr, DecidableEq

/-- The text of a dataset error. -/
def DatasetError.message : DatasetError → String
  | .invalid => "dataset error: invalid dataset"
  | .emptyName => "dataset error: store name must not be empty"
  | .indefinite subject =>
    s!"dataset error: triple on `{subject}` needs exactly one of `object` or `literal`"

/-- The object of a triple, if there is exactly one. -/
def TripleEntry.term (t : TripleEntry) : Except DatasetError Term :=
  match t.object, t.literal with
  | some target, none => .ok (.iri target)
  | none, some text => .ok (.text ⟨text, (t.language.map Language.Tag.ofString).getD .none⟩)
  | _, _ => .error (.indefinite t.subject)

namespace Memory

/-- Adds the triples of a dataset to a store. -/
def loadTriples (m : Memory) (store : StoreName) : List TripleEntry → Except DatasetError Memory
  | [] => .ok m
  | t :: rest => do
    let object ← t.term
    (m.insert store t.subject t.predicate object).loadTriples store rest

/-- Adds the stores of a dataset; a store that is listed twice gets the triples of both. -/
def loadStores (m : Memory) : List StoreEntry → Except DatasetError Memory
  | [] => .ok m
  | s :: rest => do
    let name := Text.trimmed s.name
    if name.isEmpty then throw .emptyName
    let m ← (m.create name).loadTriples name s.triples
    m.loadStores rest

end Memory

namespace Dataset

/-- A string. -/
def text? : Toml → Option String
  | .text s => some s
  | _ => none

/-- A string that may be missing; none means that something else is there. -/
def optional? (es : Toml.Entries) (key : String) : Option (Option String) :=
  match Toml.get? es key with
  | some v => (text? v).map some
  | none => some none

/-- Decodes a triple: a table, or a list of all five fields in their order. -/
def triple? : Toml → Option TripleEntry
  | .table _ es => do
    let subject ← (Toml.get? es "subject").bind text?
    let predicate ← (Toml.get? es "predicate").bind text?
    return ⟨subject, predicate, ← optional? es "object", ← optional? es "literal",
      ← optional? es "language"⟩
  | .list _ (s :: p :: o :: l :: g :: _) => do
    return ⟨← text? s, ← text? p, some (← text? o), some (← text? l), some (← text? g)⟩
  | _ => none

/-- Decodes a list of triples. -/
def triples? : Toml → Option (List TripleEntry)
  | .list _ items => items.mapM triple?
  | _ => none

/-- Decodes a store: a table, or a list of the name and perhaps the triples. -/
def store? : Toml → Option StoreEntry
  | .table _ es => do
    let name ← (Toml.get? es "name").bind text?
    match Toml.get? es "triples" with
    | some v => return ⟨name, ← triples? v⟩
    | none => return ⟨name, []⟩
  | .list _ [name] => (text? name).map fun name => ⟨name, []⟩
  | .list _ (name :: triples :: _) => do return ⟨← text? name, ← triples? triples⟩
  | _ => none

/-- Decodes the stores of a document; fields that mean nothing here are passed over. -/
def stores? (es : Toml.Entries) : Option (List StoreEntry) :=
  match Toml.get? es "stores" with
  | some (.list _ items) => items.mapM store?
  | some _ => none
  | none => some []

/-- Loads the stores of a dataset. -/
def load (text : String) : Except DatasetError Memory :=
  match (Toml.parse text.toList).bind stores? with
  | some stores => Memory.empty.loadStores stores
  | none => .error .invalid

end Dataset

end Nomenclator.Graph
