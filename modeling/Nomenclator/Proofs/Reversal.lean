import Mathlib.Algebra.GroupWithZero.Nat
import Nomenclator.Proofs.Listing

/-!
# Every path can be walked back

A path leads from a resource to another one as often as the path back leads
from that one to the first. For one step this is a count of triples, taken once
from the index of subjects and once from the index of objects, and it holds as
long as both are parts of one list. A walk passes through many resources, and
some more than once, so the statement for a path is about whole frontiers: what
a walk brings to a resource is counted by looking back from there at where the
walk began. The induction is then on the path alone, and texts, from which no
step leads anywhere, are never counted on the way.
-/

namespace Nomenclator

/-- The same property, followed the other way. -/
def Step.turned (s : Step) : Step := { s with inverse := !s.inverse }

/-- The way back along a path. -/
def Path.back (p : Path) : Path := p.reverse.map Step.turned

theorem Path.back_cons (s : Step) (p : Path) : Path.back (s :: p) = p.back ++ [s.turned] := by
  simp [Path.back]

example : Path.back [⟨"urn:holds", false⟩, ⟨"urn:made-by", true⟩] =
    [⟨"urn:made-by", false⟩, ⟨"urn:holds", true⟩] := by
  decide

namespace Graph

/-! ## Counting -/

/-- How many pairs of equal resources two lists have between them. -/
def meetings (xs ys : List ResourceId) : Nat := (xs.map fun x => ys.count x).sum

theorem meetings_cons_right (xs : List ResourceId) (y : ResourceId) (ys : List ResourceId) :
    meetings xs (y :: ys) = xs.count y + meetings xs ys := by
  induction xs with
  | nil => rfl
  | cons x xs ih =>
      have hx : meetings (x :: xs) (y :: ys) =
          (y :: ys).count x + meetings xs (y :: ys) := rfl
      have hx' : meetings (x :: xs) ys = ys.count x + meetings xs ys := rfl
      rw [hx, hx', ih, List.count_cons, List.count_cons, BEq.comm (a := y) (b := x)]
      omega

theorem meetings_comm (xs ys : List ResourceId) : meetings xs ys = meetings ys xs := by
  induction ys with
  | nil =>
      have hzero : ∀ xs : List ResourceId, meetings xs [] = 0 := by
        intro xs
        induction xs with
        | nil => rfl
        | cons x xs ih => exact (Nat.zero_add _).trans ih
      exact hzero xs
  | cons y ys ih =>
      rw [meetings_cons_right, ih]
      rfl

theorem meetings_flatMap (f : ResourceId → List ResourceId) (xs ys : List ResourceId) :
    meetings (xs.flatMap f) ys = (xs.map fun x => meetings (f x) ys).sum := by
  induction xs with
  | nil => rfl
  | cons x xs ih =>
      have hcons : meetings ((x :: xs).flatMap f) ys =
          meetings (f x) ys + meetings (xs.flatMap f) ys := by
        unfold meetings
        rw [List.flatMap_cons, List.map_append, List.sum_append]
      rw [hcons, ih]
      rfl

namespace Triples

/-- How often two resources are connected by a property. -/
def edges (ts : Triples) (subject : ResourceId) (predicate : String) (object : ResourceId) :
    Nat :=
  ts.countP fun t =>
    t.subject == subject && t.predicate == predicate && t.object == .iri object

theorem count_objects (ts : Triples) (subject : ResourceId) (predicate : String)
    (object : ResourceId) :
    ((ts.having subject predicate).map Triple.object).count (.iri object) =
      ts.edges subject predicate object := by
  rw [List.count_eq_countP, List.countP_map, having, List.countP_filter]
  refine List.countP_congr fun t _ => ?_
  simp [and_comm]

theorem count_subjects (ts : Triples) (subject : ResourceId) (predicate : String)
    (object : ResourceId) :
    ((ts.filter fun t => t.predicate == predicate && t.object == .iri object).map
      fun t => Term.iri t.subject).count (.iri subject) = ts.edges subject predicate object := by
  rw [List.count_eq_countP, List.countP_map, List.countP_filter]
  refine List.countP_congr fun t _ => ?_
  simp [and_assoc]

/-- One step leads from a resource to another as often as back. -/
theorem count_onward (ts : Triples) (step : Step) (x y : ResourceId) :
    (ts.onward step (.iri x)).count (.iri y) =
      (ts.onward step.turned (.iri y)).count (.iri x) := by
  obtain ⟨iri, inverse⟩ := step
  cases inverse with
  | false => exact (ts.count_objects x iri y).trans (ts.count_subjects x iri y).symm
  | true => exact (ts.count_subjects y iri x).trans (ts.count_objects y iri x).symm

end Triples

/-! ## Walking -/

/-- The resources among some terms. -/
def resources (vs : List Term) : List ResourceId := vs.filterMap Term.iri?

theorem count_iri (vs : List Term) (x : ResourceId) :
    vs.count (.iri x) = (resources vs).count x := by
  unfold resources
  rw [List.count_filterMap, List.count_eq_countP]
  refine List.countP_congr fun v _ => ?_
  cases v <;> simp [Term.iri?]

namespace Indexed

variable {g : Indexed} {ts : Triples}

theorem walk_append (frontier : List Term) (p q : Path) :
    g.walk frontier (p ++ q) = g.walk (g.walk frontier p) q := by
  induction p generalizing frontier with
  | nil => rfl
  | cons step p ih => exact ih _

theorem Lists.count_follow (h : g.Lists ts) (step : Step) (x y : ResourceId) :
    (resources (g.follow step x)).count y = (resources (g.follow step.turned y)).count x := by
  rw [← count_iri, ← count_iri, h.follow, h.follow]
  exact ts.count_onward step x y

/-- What one step brings from a resource to the places of a list is what the step
back brings from there. -/
theorem Lists.meetings_follow (h : g.Lists ts) (step : Step) (x : ResourceId)
    (places : List ResourceId) :
    meetings (resources (g.follow step x)) places =
      (places.flatMap fun z => resources (g.follow step.turned z)).count x := by
  rw [meetings_comm, List.count_flatMap]
  unfold meetings
  congr 1
  refine List.map_congr_left fun z _ => ?_
  exact h.count_follow step x z

theorem resources_flatMap (f : ResourceId → List Term) (xs : List ResourceId) :
    resources (xs.flatMap f) = xs.flatMap fun x => resources (f x) := by
  unfold resources
  exact List.filterMap_flatMap

/-- A walk brings to a resource what the way back brings from there to the
frontier. -/
theorem Lists.count_walk (h : g.Lists ts) (path : Path) (frontier : List Term)
    (y : ResourceId) :
    (resources (g.walk frontier path)).count y =
      meetings (resources frontier) (resources (g.walk [.iri y] (Path.back path))) := by
  induction path generalizing frontier with
  | nil =>
      rw [meetings_comm]
      exact (Nat.add_zero _).symm
  | cons step path ih =>
      have hback : g.walk [.iri y] (Path.back (step :: path)) =
          (resources (g.walk [.iri y] (Path.back path))).flatMap (g.follow step.turned) := by
        rw [Path.back_cons, walk_append]
        rfl
      have hahead : g.walk frontier (step :: path) =
          g.walk ((resources frontier).flatMap (g.follow step)) path := rfl
      rw [hahead, ih, resources_flatMap, meetings_flatMap, hback, resources_flatMap]
      unfold meetings
      congr 1
      refine List.map_congr_left fun x _ => ?_
      exact h.meetings_follow step x _

end Indexed

/-- Whatever has been inserted and removed, a path leads from a resource to
another as often as the path back leads from that one to the first. -/
theorem Memory.evaluate_back (ops : List Memory.Operation) (store : StoreName) (path : Path)
    (x y : ResourceId) :
    (((Memory.run ops).contents store).evaluate x path).count (.iri y) =
      (((Memory.run ops).contents store).evaluate y (Path.back path)).count (.iri x) := by
  have hlists := (Memory.lists_run ops).contents store
  have hforth := hlists.count_walk path [.iri x] y
  have hstart : meetings (resources [.iri x])
      (resources (((Memory.run ops).contents store).walk [.iri y] (Path.back path))) =
      (resources (((Memory.run ops).contents store).walk [.iri y] (Path.back path))).count x :=
    Nat.add_zero _
  rw [count_iri, count_iri]
  exact hforth.trans hstart

end Graph
end Nomenclator
