import Nomenclator.Application
import Nomenclator.Settings

/-!
# Assembly

An application is put together from its settings. The service that answers from the graph comes
first and has three caches; each peer is a service with a cache for every question that it answers.
All caches are registered under the name of their service and their question.
-/

namespace Nomenclator

open Cache (Key Partitioned)

/-- Why an application cannot be built. -/
inductive BuildError where
  | unusableAddress (peer : String) (cause : UrlError)
  deriving Repr, DecidableEq

/-- The text of a build error. -/
def BuildError.message : BuildError → String
  | .unusableAddress peer cause =>
    s!"configuration error: peer `{peer}` has an unusable URL: {cause.message}"

namespace Application

variable {γ ε : Type}

/-- The name of the service that answers from the graph. -/
def localName : String := "local"

/-- The name of discovery. -/
def discoveryName : String := "discovery"

/-- The name of what answers one question for a service. -/
def partName (service : String) (c : Discovery.Capability) : String := s!"{service}:{c.name}"

/-- The cached resolver of texts at a place. -/
def textResolver (name : String) (place : Nat) (loader : Loader (World γ ε) Key TextValue) :
    Resolver Part (Backing γ ε) TextValue :=
  .cached name (.texts place) (Backing.textShelf place) loader Key.mk Key.resource

/-- An empty cache of texts. -/
def textCache (settings : Settings) (name : String) : Partitioned Key TextValue :=
  .empty name settings.cache (some Key.resource)

/-- Where values come from, given their properties. -/
def origin (settings : Settings) (properties : List String) : Loader.Origin :=
  ⟨properties, settings.batch⟩

/-- The service that answers from the graph. -/
def localService [Graph.Source γ] (settings : Settings) : Discovery.Service Part (Backing γ ε) :=
  .bundled localName
    (some (textResolver (partName localName .label) 0
      (World.textLoader (origin settings settings.labelProperties))))
    (some (textResolver (partName localName .description) 1
      (World.textLoader (origin settings settings.descriptionProperties))))
    (some (.cached (partName localName .type) .types Backing.typeShelf
      (World.typeLoader (origin settings settings.typeProperties)) (fun id _ => id) id))

/-- What has been put together so far: the services, the caches of texts with their names, in
the order of their places. -/
structure Assembly (γ ε : Type) where
  services : List (Discovery.Service Part (Backing γ ε))
  cacheNames : List String

/-- Where a peer answers a question. -/
def endpoint (peer : Settings.PeerSettings) (last : String) : Except BuildError Url :=
  (peer.base.beside ["api", "v1", last]).mapError (.unusableAddress peer.name ·)

/-- Adds a resolver of a peer for one question, if the peer answers it. -/
def offer (send : Peer.Call → StateM ε (Option Peer.Reply)) (peer : Settings.PeerSettings)
    (c : Discovery.Capability) (last : String) (cacheNames : List String) :
    Except BuildError (Option (Resolver Part (Backing γ ε) TextValue) × List String) :=
  if peer.capabilities.supports c then do
    let endpoint ← endpoint peer last
    let name := partName peer.name c
    return (some (textResolver name cacheNames.length (World.peerLoader peer.name endpoint send)),
      cacheNames ++ [name])
  else return (none, cacheNames)

/-- Adds the services of the peers, in their order. -/
def addPeers (send : Peer.Call → StateM ε (Option Peer.Reply)) (a : Assembly γ ε) :
    List Settings.PeerSettings → Except BuildError (Assembly γ ε)
  | [] => .ok a
  | peer :: rest => do
    let (labels, names) ← offer send peer .label "labels" a.cacheNames
    let (descriptions, names) ← offer send peer .description "descriptions" names
    addPeers send
      ⟨a.services ++ [.bundled peer.name labels descriptions none], names⟩ rest

/-- The registry in which the caches and the chains of an assembly are registered, in the order
in which they came. -/
def registryOf (cacheNames : List String) : Invalidation.Registry Part :=
  let texts := cacheNames.zipIdx.map fun e => (e.1, Part.texts e.2)
  let entries := texts.take 2 ++ (partName localName .type, Part.types) :: texts.drop 2
  (entries.foldl (fun (r : Invalidation.Registry Part) e => r.register e.1 e.2)
    .empty).registerReloadable discoveryName .chains

/-- Builds an application over a graph. The service that answers from the graph comes first, and
the peers follow in their order. -/
def build [Graph.Source γ] (settings : Settings)
    (send : Peer.Call → StateM ε (Option Peer.Reply)) (graph : γ) (outside : ε) :
    Except BuildError (Application γ ε) := do
  let start : Assembly γ ε :=
    ⟨[localService settings], [partName localName .label, partName localName .description]⟩
  let a ← addPeers send start settings.peers
  let backing : Backing γ ε :=
    { world := ⟨graph, [], {}, [], outside⟩
      texts := a.cacheNames.map (textCache settings)
      types := .empty (partName localName .type) settings.cache (some id) }
  return {
    languages := settings.languages
    relay :=
      { batch := settings.cache.consumeBatchLimit
        queue := .empty settings.cache.eventQueueLimit
        registry := registryOf a.cacheNames
        world := ⟨backing, a.services, .empty discoveryName⟩
        consumptions := 0 } }

end Application

end Nomenclator
