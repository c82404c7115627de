import Nomenclator.Failure

/-!
# Resolvers

A resolver answers one question, such as "what is the label?", for resources of a store. Asked
for several resources, it may leave some out or call them unknown: then it has not looked at
them. Asked for one, it gives a value or none.
-/

namespace Nomenclator

open Nomenclator.Language (Preference)

/-- What every question has in common: the store and the preferred languages. -/
structure Inquiry where
  store : StoreName
  languages : Preference
  deriving DecidableEq, Inhabited

/-- A named answerer of one question, acting on a state. `η` names the parts of the state that
live as long as somebody holds the resolver. -/
structure Resolver (η σ α : Type) where
  name : String
  many : Inquiry → List ResourceId → Effect σ (Answers ResourceId α)
  one : Inquiry → ResourceId → Effect σ (Option α)
  /-- The parts of the state that this resolver keeps alive. -/
  holds : List η

namespace Resolver

variable {η σ α : Type}

/-- The value for a resource among some answers. -/
def valueOf (answers : Answers ResourceId α) (id : ResourceId) : Option α :=
  (answers.get? id).bind Resolution.value?

/-- The resolver that asks for one resource as it asks for several. -/
def ofMany (name : String) (many : Inquiry → List ResourceId → Effect σ (Answers ResourceId α))
    (holds : List η) : Resolver η σ α where
  name := name
  many := many
  one inquiry id := return valueOf (← many inquiry [id]) id
  holds := holds

/-- The resolver that finds nothing. -/
def noop (name : String) : Resolver η σ α where
  name := name
  many _ ids := return ids.map fun id => (id, .notFound)
  one _ _ := return none
  holds := []

instance : Inhabited (Resolver η σ α) := ⟨noop ""⟩

end Resolver

end Nomenclator
