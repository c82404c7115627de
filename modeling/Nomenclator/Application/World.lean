import Nomenclator.Loader.Text
import Nomenclator.Peer

/-!
# What loaders act on

Values come from a graph or from peers. Loaders leave a trace there: what the graph was asked,
which batches were counted, and which calls failed. Peers are reached through an outside world of
which nothing is known here.
-/

namespace Nomenclator

open Cache (Key)

/-- What loaders act on: a graph, and whatever the outside world is. -/
structure World (γ ε : Type) where
  graph : γ
  /-- The queries that the graph was asked, each with the store that it went to. -/
  asked : List (StoreName × PatternQuery)
  tally : Batch.Tally
  /-- How many calls failed, by peer. -/
  failures : Table String Nat
  outside : ε
  deriving Inhabited

namespace World

variable {γ ε : Type}

/-- How many queries the graph was asked. -/
def queries (w : World γ ε) : Nat := w.asked.length

/-- Notes what a loader did to a store. -/
def note {κ α : Type} (w : World γ ε) (store : StoreName) (r : Loader.Report κ α) : World γ ε :=
  { w with
    asked := w.asked ++ r.queries.map fun q => (store, q)
    tally := w.tally.add r.tally }

/-- Loads texts from the graph. -/
def textLoader [Graph.Source γ] (o : Loader.Origin) : Loader (World γ ε) Key TextValue :=
  .ofBulk fun store keys => ExceptT.mk fun w =>
    let r := Loader.Text.resolve w.graph o store keys
    (r.result, w.note store r)

/-- Loads types from the graph. -/
def typeLoader [Graph.Source γ] (o : Loader.Origin) : Loader (World γ ε) ResourceId ResourceId :=
  .ofBulk fun store ids => ExceptT.mk fun w =>
    let r := Loader.Kind.resolve w.graph o store ids
    (r.result, w.note store r)

/-- Acts on the outside world. -/
def onOutside {α : Type} (act : StateM ε α) : StateM (World γ ε) α := fun w =>
  let (a, outside) := act.run w.outside
  (a, { w with outside })

/-- Counts a failed call to a peer. -/
def noteFailure (peer : String) (w : World γ ε) : World γ ε :=
  { w with failures := w.failures.put peer ((w.failures.get? peer).getD 0 + 1) }

/-- Loads texts from a peer. -/
def peerLoader (peer : String) (endpoint : Url)
    (send : Peer.Call → StateM ε (Option Peer.Reply)) : Loader (World γ ε) Key TextValue :=
  Peer.loader
    { endpoint := endpoint
      send := fun call => onOutside (send call)
      noteFailure := modify (noteFailure peer) }

end World

end Nomenclator
