import Nomenclator.Application.Core
import Nomenclator.Lookup
import Nomenclator.Metrics

/-!
# The application

A graph, some peers, a cache for each question that is put to them, the chains that discovery
builds from the services, and the relay that carries changes to caches and chains. Everything that
can change is one value; a lookup is a function from that value to an answer and the next value.
-/

namespace Nomenclator

open Nomenclator.Language (Preference)

/-- An application. -/
structure Application (γ ε : Type) where
  /-- The preference when none is given. -/
  languages : Preference
  relay : Invalidation.Relay Part (Core γ ε)
  deriving Inhabited

namespace Application

variable {γ ε : Type}

/-- The backing of an application. -/
def backing (app : Application γ ε) : Backing γ ε := app.relay.world.backing

/-- Changes the services and chains of an application. -/
def onCore (f : Core γ ε → Core γ ε) (app : Application γ ε) : Application γ ε :=
  { app with relay := { app.relay with world := f app.relay.world } }

/-- Changes the graph of an application. -/
def onGraph (f : γ → γ) (app : Application γ ε) : Application γ ε :=
  app.onCore (Core.onBacking fun b => { b with world := { b.world with graph := f b.world.graph } })

/-- Changes the outside world of an application. -/
def onOutside (f : ε → ε) (app : Application γ ε) : Application γ ε :=
  app.onCore (Core.onBacking fun b =>
    { b with world := { b.world with outside := f b.world.outside } })

/-- Publishes a change and, if asked to, takes its effect at once. -/
def trigger (change : Invalidation.Change) (now : Bool) (app : Application γ ε) :
    Application γ ε :=
  { app with relay := app.relay.trigger Core.reactions change now }

/-- Takes the effect of a batch of pending changes, and says whether there were any. -/
def consume (app : Application γ ε) : Bool × Application γ ε :=
  let (any, relay) := app.relay.consume Core.reactions
  (any, { app with relay })

/-- The number of pending changes. -/
def pending (app : Application γ ε) : Nat := app.relay.queue.length

/-- Adds a service behind the others, and rebuilds the chains. -/
def register (service : Discovery.Service Part (Backing γ ε)) (app : Application γ ε) :
    Application γ ε :=
  (app.onCore fun c => { c with services := c.services ++ [service] }).trigger .services true

/-- Removes the services of a name, and rebuilds the chains if there were any. -/
def unregister (name : String) (app : Application γ ε) : Bool × Application γ ε :=
  let services := app.relay.world.services
  let kept := Discovery.withoutNamed services name
  if kept.length = services.length then (false, app)
  else (true, (app.onCore fun c => { c with services := kept }).trigger .services true)

/-- The chains, built if there are none. -/
def chains (app : Application γ ε) :
    Discovery.Chains Part (Backing γ ε) × Application γ ε :=
  let (chains, memo) := app.relay.world.memo.force (.ok app.relay.world.services)
  (chains, app.onCore fun c => { c with memo })

/-- Puts a question to a resolver of the chains. -/
def ask {α β : Type} (app : Application γ ε)
    (pick : Discovery.Chains Part (Backing γ ε) → Resolver Part (Backing γ ε) α)
    (question : Resolver Part (Backing γ ε) α → Effect (Backing γ ε) β) :
    Except ResolveError β × Application γ ε :=
  let (chains, app) := app.chains
  let (answer, b) := (question (pick chains)).run.run app.backing
  (answer, app.onCore fun c => { c with backing := b })

/-- The preference of a question. -/
def languagesFor (app : Application γ ε) (preferred : Option String) : Preference :=
  Lookup.languagesFor app.languages preferred

/-- The texts of some resources. -/
def texts (app : Application γ ε) (store : StoreName) (ids : List ResourceId)
    (preferred : Option String) (kind : Lookup.TextKind) :
    Except ResolveError (Table ResourceId (Option TextValue)) × Application γ ε :=
  app.ask kind.resolver fun r => Lookup.several r ⟨store, app.languagesFor preferred⟩ ids

/-- The text of one resource. -/
def text (app : Application γ ε) (store : StoreName) (id : ResourceId)
    (preferred : Option String) (kind : Lookup.TextKind) :
    Except ResolveError (Option TextValue) × Application γ ε :=
  app.ask kind.resolver fun r => r.one ⟨store, app.languagesFor preferred⟩ id

/-- The types of some resources. -/
def types (app : Application γ ε) (store : StoreName) (ids : List ResourceId) :
    Except ResolveError (Table ResourceId (Option ResourceId)) × Application γ ε :=
  app.ask Discovery.Chains.types fun r => Lookup.several r ⟨store, app.languages⟩ ids

/-- All that an application has counted. -/
def metrics (app : Application γ ε) : Metrics.Reading :=
  let b := app.backing
  let r := (b.texts.foldl (fun (r : Metrics.Reading) c => r.cache c) .empty).cache b.types
  ((r.batches b.world.tally).peers b.world.failures).queue app.relay.queue app.relay.consumptions

end Application

end Nomenclator
