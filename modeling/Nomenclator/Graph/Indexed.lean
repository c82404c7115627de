import Nomenclator.Query

/-!
# Indexed triples

The triples of one store, kept under their subjects for forward steps and, when the object is a
resource, under their objects for inverse steps. Both indexes list the triples in the order in
which they came in, and that order decides ties between texts later on.
-/

namespace Nomenclator.Graph

/-- The triples of one store in two indexes, with their number. -/
structure Indexed where
  outgoing : Table ResourceId (List (String × Term))
  incoming : Table ResourceId (List (String × ResourceId))
  size : Nat
  deriving Inhabited

namespace Indexed

/-- No triples. -/
def empty : Indexed := ⟨[], [], 0⟩

/-- Adds a triple behind the others; a triple may come in several times. -/
def insert (g : Indexed) (subject : ResourceId) (predicate : String) (object : Term) :
    Indexed where
  outgoing := g.outgoing.append subject (predicate, object)
  incoming := match object with
    | .iri target => g.incoming.append target (predicate, subject)
    | .text _ => g.incoming
  size := g.size + 1

/-- Drops all triples with this subject and this predicate, and says how many there were. Where
the subject has no triples at all, nothing is looked at besides. -/
def remove (g : Indexed) (subject : ResourceId) (predicate : String) : Nat × Indexed :=
  match g.outgoing.get? subject with
  | none => (0, g)
  | some values =>
    let kept := values.filter fun e => !(e.1 == predicate)
    let removed := values.length - kept.length
    (removed,
      { outgoing := g.outgoing.put subject kept
        incoming := g.incoming.map fun e =>
          (e.1, e.2.filter fun v => !(v.1 == predicate && v.2 == subject))
        size := g.size - removed })

/-- The terms one step away from a resource. -/
def follow (g : Indexed) (step : Step) (node : ResourceId) : List Term :=
  if step.inverse then
    (((g.incoming.get? node).getD []).filter (·.1 == step.iri)).map fun e => .iri e.2
  else
    (((g.outgoing.get? node).getD []).filter (·.1 == step.iri)).map (·.2)

/-- The terms at the end of a path that starts from some terms; texts lead nowhere. -/
def walk (g : Indexed) (frontier : List Term) : Path → List Term
  | [] => frontier
  | step :: rest => g.walk ((frontier.filterMap Term.iri?).flatMap (g.follow step)) rest

/-- The terms that a path reaches from a resource. -/
def evaluate (g : Indexed) (start : ResourceId) (path : Path) : List Term :=
  g.walk [.iri start] path

end Indexed

end Nomenclator.Graph
