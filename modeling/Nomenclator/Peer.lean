import Nomenclator.Cache.Key
import Nomenclator.Json.Strings
import Nomenclator.Loader
import Nomenclator.Url
import Nomenclator.Text.Form

/-!
# Peers

A peer is another resolver of texts that is asked over the network. One call can carry one
language only, so keys are asked for in groups of one effective language each. A call that fails
makes the texts of its own group absent and is counted; the other groups do not notice.
-/

namespace Nomenclator

open Cache (Key)
open Nomenclator.Language (Tag)

namespace Peer

/-- One call to a peer. -/
structure Call where
  endpoint : Url
  /-- The named values of the query string. -/
  query : List (String × String)
  /-- The resources asked for. -/
  ids : List ResourceId
  deriving Inhabited

/-- The address that is called; what the endpoint has behind its path is dropped. -/
def Call.address (c : Call) : Url :=
  { c.endpoint with query := some (Text.Form.encodePairs c.query), fragment := none }

/-- The body of a call. -/
def Call.body (c : Call) : String := Json.writeStrings c.ids

/-- What a peer answers. -/
structure Reply where
  status : Nat
  body : String
  deriving Repr, DecidableEq, Inhabited

/-- How a caller names itself. -/
def agent : String := "glossa/0.1.0"

/-- A text or the mark of its absence. -/
def entry? : String × Json → Option (ResourceId × Option String)
  | (id, .text s) => some (id, some s)
  | (id, .null) => some (id, none)
  | _ => none

/-- The texts by resource in a reply, if it is one: a success whose body is an object of texts. -/
def Reply.texts? (r : Reply) : Option (Table ResourceId (Option String)) :=
  if 200 ≤ r.status && r.status < 300 then
    match Json.parse r.body.toList with
    | some (.object fields) => (fields.mapM entry?).map Table.ofEntries
    | _ => none
  else none

/-- A peer as its caller sees it: an address, a way to call it, and a way to note that a call
failed. No reply at all is a failure too. -/
structure Link (σ : Type) where
  endpoint : Url
  send : Call → StateM σ (Option Reply)
  noteFailure : StateM σ Unit

/-- The keys of one effective language. -/
structure Group where
  language : Tag
  keys : List Key

/-- Splits keys by effective language; a language comes where its first key comes. -/
def groups (keys : List Key) : List Group :=
  (distinct (keys.map (·.languages.effective))).map fun language =>
    ⟨language, keys.filter fun k => k.languages.effective = language⟩

/-- The call for one group. -/
def Group.call (g : Group) (endpoint : Url) (store : StoreName) : Call where
  endpoint := endpoint
  query := [("repository", store), ("preferredLanguage", g.language.text)]
  ids := g.keys.map (·.resource)

/-- The text for a key in a reply. A peer does not tell the language of a text, and an empty
text is none. -/
def resolution (texts : Table ResourceId (Option String)) (key : Key) : Resolution TextValue :=
  match texts.get? key.resource with
  | some (some s) => if s.isEmpty then .notFound else .found (.plain s)
  | _ => .notFound

variable {σ : Type}

/-- Asks for one group. -/
def askGroup (link : Link σ) (store : StoreName) (g : Group) :
    StateM σ (Answers Key TextValue) := do
  match (← link.send (g.call link.endpoint store)).bind Reply.texts? with
  | some texts => return g.keys.map fun k => (k, resolution texts k)
  | none =>
    link.noteFailure
    return g.keys.map fun k => (k, .notFound)

/-- Asks for the groups one after the other. -/
def askGroups (link : Link σ) (store : StoreName) :
    List Group → StateM σ (Answers Key TextValue)
  | [] => return []
  | g :: rest => do
    let answers ← askGroup link store g
    return answers ++ (← askGroups link store rest)

/-- Asks a peer for the texts of some keys, each once. -/
def resolve (link : Link σ) (store : StoreName) (keys : List Key) :
    StateM σ (Answers Key TextValue) :=
  askGroups link store (groups (distinct keys))

/-- The outcome of a single load, where a failed call shows as an absence. -/
def loaded (answers : Answers Key TextValue) (key : Key) : Except LoadError TextValue :=
  match answers.get? key with
  | some (.found v) => .ok v
  | _ => .error .notFound

/-- The loader that asks a peer. -/
def loader (link : Link σ) : Loader σ Key TextValue where
  load store key := return loaded (← resolve link store [key]) key
  loadAll store keys := ExceptT.lift (resolve link store keys)

end Peer

end Nomenclator
