import Nomenclator.Resolver

/-!
# Delegation

A chain asks its delegates in turn. Only a confirmed absence hands a resource on to the next
delegate: whatever a delegate finds is final, and so is its silence. Resources that nobody found
are absent in the end, so a chain answers for all that it was asked.
-/

namespace Nomenclator.Resolver

variable {η σ α : Type}

/-- The values that a delegate found among the resources it was asked for. -/
def foundAmong (answers : Answers ResourceId α) (ids : List ResourceId) :
    Answers ResourceId α :=
  ids.filterMap fun id =>
    match answers.get? id with
    | some (.found v) => some (id, .found v)
    | _ => none

/-- The resources whose absence a delegate confirmed. -/
def absentAmong (answers : Answers ResourceId α) (ids : List ResourceId) : List ResourceId :=
  ids.filter fun id =>
    match answers.get? id with
    | some .notFound => true
    | _ => false

/-- What the delegates find for the resources that are left; nobody is asked for nothing. -/
def narrow (inquiry : Inquiry) (left : List ResourceId) :
    List (Resolver η σ α) → Effect σ (Answers ResourceId α)
  | [] => return []
  | d :: rest =>
    if left.isEmpty then return []
    else do
      let answers ← d.many inquiry left
      let found ← narrow inquiry (absentAmong answers left) rest
      return foundAmong answers left ++ found

/-- The first value that a delegate has for one resource. -/
def firstValue (inquiry : Inquiry) (id : ResourceId) :
    List (Resolver η σ α) → Effect σ (Option α)
  | [] => return none
  | d :: rest => do
    match ← d.one inquiry id with
    | some v => return some v
    | none => firstValue inquiry id rest

/-- Answers for all resources: what is not found is absent. -/
def complete (found : Answers ResourceId α) (ids : List ResourceId) : Answers ResourceId α :=
  ids.map fun id => (id, (found.get? id).getD .notFound)

/-- The chain of some delegates. -/
def chain (name : String) (delegates : List (Resolver η σ α)) : Resolver η σ α where
  name := name
  many inquiry ids := return complete (← narrow inquiry ids delegates) ids
  one inquiry id := firstValue inquiry id delegates
  holds := delegates.flatMap (·.holds)

end Nomenclator.Resolver
