import Nomenclator.Resolver

/-!
# Services

A service may offer resolvers for labels, descriptions and types. It first says what it offers;
whether it can deliver shows only when a resolver is asked for.
-/

namespace Nomenclator.Discovery

/-- What may be resolved. -/
inductive Capability where
  | label
  | description
  | type
  deriving Repr, DecidableEq

/-- The name of a capability. -/
def Capability.name : Capability → String
  | .label => "label"
  | .description => "description"
  | .type => "type"

/-- The capabilities that a service claims. -/
structure Capabilities where
  labels : Bool := false
  descriptions : Bool := false
  types : Bool := false
  deriving Repr, DecidableEq, Inhabited

/-- A capability is among the claimed ones. -/
def Capabilities.supports (c : Capabilities) : Capability → Bool
  | .label => c.labels
  | .description => c.descriptions
  | .type => c.types

/-- The names of the claimed capabilities. -/
def Capabilities.names (c : Capabilities) : List String :=
  ([Capability.label, .description, .type].filter c.supports).map (·.name)

/-- The name of a service and what it claims. -/
structure Descriptor where
  name : String
  capabilities : Capabilities
  deriving Repr, DecidableEq, Inhabited

/-- Why a service did not deliver. -/
inductive DiscoveryError where
  | unsupported (capability : Capability)
  | build (service : String) (capability : Capability) (message : String)
  | registry (message : String)
  deriving Repr, DecidableEq

/-- The text of a discovery error. -/
def DiscoveryError.message : DiscoveryError → String
  | .unsupported c => s!"{c.name} resolution is not provided"
  | .build service c m => s!"service `{service}` failed to build its {c.name} resolver: {m}"
  | .registry m => s!"service registry unavailable: {m}"

/-- A service; what it does not deliver is unsupported unless it says otherwise. -/
structure Service (η σ : Type) where
  descriptor : Except DiscoveryError Descriptor
  labels : Except DiscoveryError (Resolver η σ TextValue) := .error (.unsupported .label)
  descriptions : Except DiscoveryError (Resolver η σ TextValue) :=
    .error (.unsupported .description)
  types : Except DiscoveryError (Resolver η σ ResourceId) := .error (.unsupported .type)

namespace Service

variable {η σ : Type}

/-- A resolver that is there, or the error for one that is not. -/
def offered {α : Type} (c : Capability) :
    Option (Resolver η σ α) → Except DiscoveryError (Resolver η σ α)
  | some r => .ok r
  | none => .error (.unsupported c)

/-- The service made of some resolvers, which claims exactly what it has. -/
def bundled (name : String) (labels descriptions : Option (Resolver η σ TextValue))
    (types : Option (Resolver η σ ResourceId)) : Service η σ where
  descriptor := .ok ⟨name, ⟨labels.isSome, descriptions.isSome, types.isSome⟩⟩
  labels := offered .label labels
  descriptions := offered .description descriptions
  types := offered .type types

/-- The parts of the state that a resolver keeps alive, if it is there. -/
def heldBy {α : Type} : Except DiscoveryError (Resolver η σ α) → List η
  | .ok r => r.holds
  | .error _ => []

/-- The parts of the state that a service keeps alive. -/
def holds (s : Service η σ) : List η :=
  heldBy s.labels ++ heldBy s.descriptions ++ heldBy s.types

/-- The service has told a name, and it is this one. -/
def isNamed (s : Service η σ) (name : String) : Bool :=
  match s.descriptor with
  | .ok d => d.name == name
  | .error _ => false

end Service

end Nomenclator.Discovery
