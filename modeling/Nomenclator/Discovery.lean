import Nomenclator.Discovery.Service
import Nomenclator.Resolver.Chain

/-!
# Discovery

Which resolvers answer depends on which services are there. The chains are built at first use
and kept until somebody asks for a reload. Each capability stands for itself: whatever goes wrong
while its chain is built turns it into a resolver that finds nothing, and leaves the others alone.
-/

namespace Nomenclator.Discovery

variable {η σ α : Type}

/-- The resolver for each capability. -/
structure Chains (η σ : Type) where
  labels : Resolver η σ TextValue
  descriptions : Resolver η σ TextValue
  types : Resolver η σ ResourceId

/-- The parts of the state that the chains keep alive. -/
def Chains.holds (c : Chains η σ) : List η :=
  c.labels.holds ++ c.descriptions.holds ++ c.types.holds

/-- The resolvers of the services that claim a capability, in the order of the services. -/
def delegates (c : Capability)
    (resolver : Service η σ → Except DiscoveryError (Resolver η σ α)) :
    List (Service η σ) → Except DiscoveryError (List (Resolver η σ α))
  | [] => .ok []
  | s :: rest => do
    let d ← s.descriptor
    if d.capabilities.supports c then
      let r ← resolver s
      let others ← delegates c resolver rest
      return r :: others
    else delegates c resolver rest

/-- One resolver for several: nobody, the only one, or a chain. -/
def combine (name : String) : List (Resolver η σ α) → Resolver η σ α
  | [] => .noop name
  | [r] => r
  | rs => .chain name rs

/-- The resolver for a capability; if it cannot be had, one that finds nothing. -/
def capability (id : String) (c : Capability)
    (resolver : Service η σ → Except DiscoveryError (Resolver η σ α))
    (services : Except DiscoveryError (List (Service η σ))) : Resolver η σ α :=
  let name := s!"{id}:{c.name}"
  match services.bind (delegates c resolver) with
  | .ok rs => combine name rs
  | .error _ => .noop name

/-- The chains for some services. -/
def build (id : String) (services : Except DiscoveryError (List (Service η σ))) :
    Chains η σ where
  labels := capability id .label Service.labels services
  descriptions := capability id .description Service.descriptions services
  types := capability id .type Service.types services

/-- Chains that are built once and kept. -/
structure Memo (η σ : Type) where
  id : String
  chains : Option (Chains η σ)
  /-- How often chains have been built. -/
  builds : Nat
  deriving Inhabited

namespace Memo

/-- Nothing has been built. -/
def empty (id : String) : Memo η σ := ⟨id, none, 0⟩

/-- The chains, built now if there are none. -/
def force (m : Memo η σ) (services : Except DiscoveryError (List (Service η σ))) :
    Chains η σ × Memo η σ :=
  match m.chains with
  | some chains => (chains, m)
  | none =>
    let chains := build m.id services
    (chains, { m with chains := some chains, builds := m.builds + 1 })

/-- Drops the chains; the next use builds them anew. -/
def reload (m : Memo η σ) : Memo η σ := { m with chains := none }

/-- The parts of the state that the kept chains keep alive. -/
def holds (m : Memo η σ) : List η := (m.chains.map Chains.holds).getD []

end Memo

/-- Removes the services of a name. -/
def withoutNamed (services : List (Service η σ)) (name : String) : List (Service η σ) :=
  services.filter fun s => !s.isNamed name

end Nomenclator.Discovery
