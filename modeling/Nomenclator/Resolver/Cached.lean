import Nomenclator.Cache.Partitioned
import Nomenclator.Resolver

/-!
# Cached resolvers

A resolver that answers from a cache and loads what is missing. The cache is one part of a larger
state, and its loader acts on another: a request reads both, and puts both back.
-/

namespace Nomenclator

open Cache (Partitioned)
open Nomenclator.Language (Preference)

/-- A cache within a state, and the part of the state that loaders act on. -/
structure Shelf (σ ω κ α : Type) where
  cache : σ → Partitioned κ α
  setCache : Partitioned κ α → σ → σ
  world : σ → ω
  setWorld : ω → σ → σ

namespace Shelf

variable {σ ω κ α : Type} [BEq κ]

/-- The values of several keys from the cache, loaded where they are missing. -/
def request (shelf : Shelf σ ω κ α) (loader : Loader ω κ α) (store : StoreName) (keys : List κ) :
    Effect σ (Answers κ α) :=
  ExceptT.mk fun s =>
    let ((answers, cache), world) :=
      ((shelf.cache s).getAllOrLoad loader store keys).run (shelf.world s)
    (answers, shelf.setCache cache (shelf.setWorld world s))

end Shelf

namespace Resolver

variable {η σ ω κ α : Type} [BEq κ]

/-- The resolver that answers from a cache. A key stands for a resource and the preference it is
asked with. -/
def cached (name : String) (part : η) (shelf : Shelf σ ω κ α) (loader : Loader ω κ α)
    (key : ResourceId → Preference → κ) (resource : κ → ResourceId) : Resolver η σ α where
  name := name
  many inquiry ids := do
    let answers ← shelf.request loader inquiry.store (ids.map fun id => key id inquiry.languages)
    return Table.ofEntries (answers.map fun e => (resource e.1, e.2))
  one inquiry id := do
    let k := key id inquiry.languages
    let answers ← shelf.request loader inquiry.store [k]
    return (answers.get? k).bind Resolution.value?
  holds := [part]

end Resolver

end Nomenclator
