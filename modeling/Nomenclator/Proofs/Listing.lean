import Nomenclator.Graph.Memory
import Nomenclator.Proofs.Table

/-!
# A store in memory is a list of triples

A store keeps every triple twice, under its subject and under its object, and
counts the triples beside that. None of this can be told from outside. Whatever
has been inserted, removed, created and dropped, a store answers as the plain
list of its triples would, in the order in which they were inserted.

The invariant says what each index holds for one resource: the part of the list
that concerns the resource, in the order of the list. An insertion puts one entry
behind each part that the new triple belongs to. A removal is a filter on either
side, and the filter of the second index runs over all resources because the
objects of the removed triples are not known there. It is not run at all when the
first index does not know the subject: then there is nothing that it could drop.
The count needs a removal to report exactly what it removes, and that is read off
the first index.
-/

namespace Nomenclator.Graph

/-- What a store holds: a resource has a value under a property. -/
structure Triple where
  subject : ResourceId
  predicate : String
  object : Term
  deriving DecidableEq

/-! ## Plain lists -/

/-- Triples in the order in which they were inserted. -/
abbrev Triples := List Triple

/-- A filter leaves out as many as its opposite keeps. -/
theorem length_filter_not {α : Type} (p : α → Bool) (l : List α) :
    (l.filter fun a => !p a).length = l.length - (l.filter p).length := by
  have hsplit := List.length_eq_countP_add_countP p (l := l)
  simp only [List.countP_eq_length_filter, Bool.not_eq_true, Bool.decide_eq_false] at hsplit
  omega

namespace Triples

/-- The triples with a subject and a predicate. -/
def having (ts : Triples) (subject : ResourceId) (predicate : String) : Triples :=
  ts.filter fun t => t.subject == subject && t.predicate == predicate

/-- The others. -/
def lacking (ts : Triples) (subject : ResourceId) (predicate : String) : Triples :=
  ts.filter fun t => !(t.subject == subject && t.predicate == predicate)

/-- One step from a term: to the objects of the triples of a resource, or back
from it to their subjects. No step leads away from a text. -/
def onward (ts : Triples) (step : Step) : Term → List Term
  | .iri node =>
      if step.inverse then
        (ts.filter fun t => t.predicate == step.iri && t.object == .iri node).map
          fun t => .iri t.subject
      else (ts.having node step.iri).map Triple.object
  | .text _ => []

/-- All terms that are reached along a path, step after step. -/
def reach (ts : Triples) (start : ResourceId) (path : Path) : List Term :=
  path.foldl (fun frontier step => frontier.flatMap (ts.onward step)) [.iri start]

/-- The rows of a query, resource by resource and candidate by candidate. -/
def rows (ts : Triples) (q : PatternQuery) : List Row :=
  q.resources.flatMap fun r =>
    q.branches.zipIdx.flatMap fun b => (ts.reach r b.1).map fun v => ⟨r, b.2, v⟩

theorem length_having_le (ts : Triples) (subject : ResourceId) (predicate : String) :
    (ts.having subject predicate).length ≤ ts.length :=
  List.length_filter_le _ _

theorem having_eq_nil {ts : Triples} {subject : ResourceId}
    (h : ∀ t ∈ ts, (t.subject == subject) = false) (predicate : String) :
    ts.having subject predicate = [] := by
  refine List.filter_eq_nil_iff.2 fun t ht => ?_
  rw [h t ht, Bool.false_and]
  exact Bool.false_ne_true

theorem lacking_eq_self {ts : Triples} {subject : ResourceId}
    (h : ∀ t ∈ ts, (t.subject == subject) = false) (predicate : String) :
    ts.lacking subject predicate = ts := by
  refine List.filter_eq_self.2 fun t ht => ?_
  rw [h t ht, Bool.false_and]
  rfl

end Triples

/-! ## One store -/

namespace Indexed

/-- The indexes hold the triples of a list, each part in the order of the list. -/
structure Lists (g : Indexed) (ts : Triples) : Prop where
  outgoing : ∀ node, (g.outgoing.get? node).getD [] =
    (ts.filter (·.subject == node)).map fun t => (t.predicate, t.object)
  incoming : ∀ node, (g.incoming.get? node).getD [] =
    (ts.filter (·.object == .iri node)).map fun t => (t.predicate, t.subject)
  size : g.size = ts.length

variable {g : Indexed} {ts : Triples}

theorem lists_empty : empty.Lists [] where
  outgoing _ := rfl
  incoming _ := rfl
  size := rfl

theorem Lists.insert (h : g.Lists ts) (t : Triple) :
    (g.insert t.subject t.predicate t.object).Lists (ts ++ [t]) where
  outgoing := by
    intro node
    show ((g.outgoing.append t.subject (t.predicate, t.object)).get? node).getD [] = _
    rw [Table.getD_append, h.outgoing, List.filter_append, List.map_append]
    by_cases hnode : (t.subject == node) = true
    · simp [hnode]
    · simp [hnode]
  incoming := by
    intro node
    obtain ⟨subject, predicate, object⟩ := t
    cases object with
    | text v =>
        have hother : (Term.text v == Term.iri node) = false := by simp
        show (g.incoming.get? node).getD [] = _
        rw [h.incoming, List.filter_append, List.map_append]
        simp [hother]
    | iri target =>
        have hsame : (Term.iri target == Term.iri node) = (target == node) := by
          rw [Bool.eq_iff_iff]
          simp
        show ((g.incoming.append target (predicate, subject)).get? node).getD [] = _
        rw [Table.getD_append, h.incoming, List.filter_append, List.map_append]
        by_cases hnode : (target == node) = true
        · simp [hsame, hnode]
        · simp [hsame, hnode]
  size := by
    show g.size + 1 = _
    rw [h.size, List.length_append, List.length_singleton]

/-- A subject that the first index does not know is that of no triple. -/
theorem Lists.absent (h : g.Lists ts) {subject : ResourceId}
    (hnone : g.outgoing.get? subject = none) :
    ∀ t ∈ ts, (t.subject == subject) = false := by
  have hpart := h.outgoing subject
  rw [hnone, Option.getD_none, eq_comm, List.map_eq_nil_iff, List.filter_eq_nil_iff] at hpart
  exact fun t ht => Bool.not_eq_true _ ▸ hpart t ht

/-- The entries of a subject that are not under a predicate. -/
theorem Lists.others (h : g.Lists ts) (subject : ResourceId) (predicate : String) :
    ((g.outgoing.get? subject).getD []).filter (fun e => !(e.1 == predicate)) =
      ((ts.lacking subject predicate).filter (·.subject == subject)).map
        fun t => (t.predicate, t.object) := by
  unfold Triples.lacking
  rw [h.outgoing, List.filter_map, List.filter_filter, List.filter_filter]
  congr 1
  refine List.filter_congr fun t _ => ?_
  cases t.subject == subject <;> simp

/-- How many entries of a subject are under a predicate. -/
theorem Lists.length_under (h : g.Lists ts) (subject : ResourceId) (predicate : String) :
    (((g.outgoing.get? subject).getD []).filter (·.1 == predicate)).length =
      (ts.having subject predicate).length := by
  unfold Triples.having
  rw [h.outgoing, List.filter_map, List.length_map, List.filter_filter]
  congr 1
  refine List.filter_congr fun t _ => ?_
  exact Bool.and_comm _ _

/-- A removal reports how many triples it removes, and the others are left. -/
theorem Lists.remove (h : g.Lists ts) (subject : ResourceId) (predicate : String) :
    (g.remove subject predicate).1 = (ts.having subject predicate).length ∧
      (g.remove subject predicate).2.Lists (ts.lacking subject predicate) := by
  unfold Indexed.remove
  cases hvalues : g.outgoing.get? subject with
  | none =>
      have habsent := h.absent hvalues
      rw [Triples.having_eq_nil habsent, Triples.lacking_eq_self habsent]
      exact ⟨rfl, h⟩
  | some values =>
      have hothers := h.others subject predicate
      have hunder := h.length_under subject predicate
      rw [hvalues, Option.getD_some] at hothers hunder
      have hremoved : values.length - (values.filter fun e => !(e.1 == predicate)).length =
          (ts.having subject predicate).length := by
        have hle := List.length_filter_le (·.1 == predicate) values
        rw [length_filter_not, ← hunder]
        omega
      dsimp only
      rw [hremoved]
      refine ⟨rfl, fun node => ?_, fun node => ?_, ?_⟩
      · rw [Table.get?_put]
        by_cases hnode : (subject == node) = true
        · rw [if_pos hnode, Option.getD_some, hothers, eq_of_beq hnode]
        · rw [if_neg hnode, h.outgoing]
          unfold Triples.lacking
          rw [List.filter_filter]
          congr 1
          refine List.filter_congr fun t _ => ?_
          by_cases ht : t.subject = node
          · have hother : (t.subject == subject) = false := by
              rw [ht, beq_eq_false_iff_ne]
              exact fun heq => hnode (by rw [heq, BEq.rfl])
            simp [hother]
          · simp [ht]
      · have hpart : ∀ o : Option (List (String × ResourceId)),
            (o.map (List.filter fun v => !(v.1 == predicate && v.2 == subject))).getD [] =
              (o.getD []).filter fun v => !(v.1 == predicate && v.2 == subject) := by
          intro o
          cases o <;> rfl
        rw [Table.get?_map_snd, hpart, h.incoming, List.filter_map]
        unfold Triples.lacking
        rw [List.filter_filter, List.filter_filter]
        congr 1
        refine List.filter_congr fun t _ => ?_
        simp only [Function.comp_apply]
        rw [Bool.and_comm (t.predicate == predicate), Bool.and_comm]
      · rw [h.size]
        exact (length_filter_not _ ts).symm

theorem Lists.follow (h : g.Lists ts) (step : Step) (node : ResourceId) :
    g.follow step node = ts.onward step (.iri node) := by
  unfold Indexed.follow Triples.onward Triples.having
  split
  · rw [h.incoming, List.filter_map, List.map_map, List.filter_filter]
    rfl
  · rw [h.outgoing, List.filter_map, List.map_map, List.filter_filter]
    congr 1
    refine List.filter_congr fun t _ => ?_
    exact Bool.and_comm _ _

/-- Passing over the texts first or stepping nowhere from them is the same. -/
theorem Lists.frontier (h : g.Lists ts) (step : Step) (frontier : List Term) :
    (frontier.filterMap Term.iri?).flatMap (g.follow step) =
      frontier.flatMap (ts.onward step) := by
  induction frontier with
  | nil => rfl
  | cons v frontier ih =>
      cases v with
      | iri node =>
          show g.follow step node ++
            (frontier.filterMap Term.iri?).flatMap (g.follow step) = _
          rw [ih, h.follow]
          rfl
      | text value => exact ih

theorem Lists.walk (h : g.Lists ts) (path : Path) (frontier : List Term) :
    g.walk frontier path =
      path.foldl (fun frontier step => frontier.flatMap (ts.onward step)) frontier := by
  induction path generalizing frontier with
  | nil => rfl
  | cons step path ih =>
      unfold Indexed.walk
      rw [h.frontier, ih]
      rfl

theorem Lists.rows (h : g.Lists ts) (q : PatternQuery) :
    Memory.rows g q = ts.rows q := by
  have hreach : ∀ start path, g.evaluate start path = ts.reach start path :=
    fun start path => h.walk path [.iri start]
  unfold Memory.rows Triples.rows
  simp only [hreach]

end Indexed

/-! ## All stores -/

namespace Memory

/-- What may be done to the stores. -/
inductive Operation where
  | create (store : StoreName)
  | drop (store : StoreName)
  | insert (store : StoreName) (t : Triple)
  | remove (store : StoreName) (subject : ResourceId) (predicate : String)

/-- The stores after an operation. -/
def after (m : Memory) : Operation → Memory
  | .create store => m.create store
  | .drop store => m.drop store
  | .insert store t => m.insert store t.subject t.predicate t.object
  | .remove store subject predicate => (m.remove store subject predicate).2

/-- The stores after a run of operations that begins without any. -/
def run (ops : List Operation) : Memory := ops.foldl after empty

/-- The list of each store, if there is the store. -/
abbrev Listing := StoreName → Option Triples

namespace Listing

/-- Gives a store another list, or none. -/
def put (l : Listing) (store : StoreName) (held : Option Triples) : Listing :=
  fun other => if store = other then held else l other

/-- The lists after an operation. -/
def after (l : Listing) : Operation → Listing
  | .create store => l.put store (some ((l store).getD []))
  | .drop store => l.put store none
  | .insert store t => l.put store (some ((l store).getD [] ++ [t]))
  | .remove store subject predicate =>
      l.put store ((l store).map fun ts => ts.lacking subject predicate)

/-- The lists after a run of operations that begins without any. -/
def run (ops : List Operation) : Listing := ops.foldl after fun _ => none

end Listing

/-- Each store holds its list. -/
def Lists (m : Memory) (l : Listing) : Prop :=
  ∀ store, Option.Rel Indexed.Lists (m.stores.get? store) (l store)

variable {m : Memory} {l : Listing}

/-- A store that does not exist holds nothing. -/
theorem Lists.contents (h : m.Lists l) (store : StoreName) :
    (m.contents store).Lists ((l store).getD []) := by
  unfold Memory.contents
  have hstore := h store
  generalize m.stores.get? store = o at hstore ⊢
  generalize l store = o' at hstore ⊢
  cases hstore with
  | none => exact Indexed.lists_empty
  | some hlists => exact hlists

/-- An operation on one store concerns no other. -/
theorem Lists.put (h : m.Lists l) {m' : Memory} {store : StoreName}
    {o : Option Indexed} {held : Option Triples}
    (hget : ∀ other, m'.stores.get? other =
      if store == other then o else m.stores.get? other)
    (hheld : Option.Rel Indexed.Lists o held) : m'.Lists (l.put store held) := by
  intro other
  unfold Listing.put
  rw [hget]
  by_cases hother : store = other
  · rw [if_pos hother, if_pos (beq_iff_eq.2 hother)]
    exact hheld
  · rw [if_neg hother, if_neg (mt beq_iff_eq.1 hother)]
    exact h other

/-- A removal from a store reports how many triples it removes, and concerns no other
store. From a store that does not exist it removes nothing. -/
theorem Lists.remove (h : m.Lists l) (store : StoreName) (subject : ResourceId)
    (predicate : String) :
    (m.remove store subject predicate).1 =
        (((l store).getD []).having subject predicate).length ∧
      (m.remove store subject predicate).2.Lists
        (l.put store ((l store).map fun ts => ts.lacking subject predicate)) := by
  have hstore := h store
  unfold Memory.remove
  cases hg : m.stores.get? store with
  | none =>
      rw [hg] at hstore
      generalize hl : l store = held at hstore
      cases hstore
      refine ⟨rfl, h.put (o := none) (fun other => ?_) .none⟩
      by_cases hother : (store == other) = true
      · rw [if_pos hother, ← eq_of_beq hother, hg]
      · rw [if_neg hother]
  | some g =>
      rw [hg] at hstore
      generalize hl : l store = held at hstore
      cases hstore with
      | some hlists =>
          obtain ⟨hcount, hleft⟩ := hlists.remove subject predicate
          exact ⟨hcount, h.put (fun other => Table.get?_put m.stores store _ other)
            (.some hleft)⟩

theorem Lists.after (h : m.Lists l) (op : Operation) :
    (m.after op).Lists (l.after op) := by
  cases op with
  | create store =>
      have hget : ∀ other, (m.create store).stores.get? other =
          if store == other then some (m.contents store) else m.stores.get? other := by
        intro other
        unfold Memory.create Memory.contents
        rw [Table.has_eq_isSome]
        cases hstore : m.stores.get? store with
        | none => exact Table.get?_put m.stores store .empty other
        | some g =>
            show m.stores.get? other = _
            by_cases hother : (store == other) = true
            · rw [if_pos hother, ← eq_of_beq hother, hstore]
              rfl
            · rw [if_neg hother]
      exact h.put hget (.some (h.contents store))
  | drop store =>
      exact h.put (fun other => Table.get?_erase m.stores store other) .none
  | insert store t =>
      exact h.put (fun other => Table.get?_put m.stores store _ other)
        (.some ((h.contents store).insert t))
  | remove store subject predicate => exact (h.remove store subject predicate).2

theorem lists_run (ops : List Operation) : (run ops).Lists (Listing.run ops) := by
  have hrun : ∀ (m : Memory) (l : Listing), m.Lists l →
      (ops.foldl Memory.after m).Lists (ops.foldl Listing.after l) := by
    induction ops with
    | nil => exact fun _ _ h => h
    | cons op ops ih => exact fun _ _ h => ih _ _ (h.after op)
  exact hrun empty _ fun _ => .none

/-- Whatever has been done to the stores, each of them is there, has a size and
reports removals as its list says, and answers every query by walking over that
list. A store that is not there answers that it is unknown. -/
theorem run_lists (ops : List Operation) (store : StoreName) :
    (run ops).has store = (Listing.run ops store).isSome ∧
      (run ops).size store = ((Listing.run ops store).getD []).length ∧
      (∀ subject predicate,
        ((run ops).remove store subject predicate).1 =
            (((Listing.run ops store).getD []).having subject predicate).length ∧
          ((run ops).remove store subject predicate).1 ≤ (run ops).size store) ∧
      ∀ q, ((run ops).ask store q).1 =
        match Listing.run ops store with
        | none => .error (.unknownStore store)
        | some ts => .ok (ts.rows q) := by
  have hlists := lists_run ops
  have hcontents := hlists.contents store
  have hstore := hlists store
  refine ⟨?_, hcontents.size, fun subject predicate => ?_, fun q => ?_⟩
  · show Table.has _ store = _
    rw [Table.has_eq_isSome]
    generalize (run ops).stores.get? store = o at hstore ⊢
    generalize Listing.run ops store = o' at hstore ⊢
    cases hstore <;> rfl
  · obtain ⟨hcount, -⟩ := hlists.remove store subject predicate
    refine ⟨hcount, ?_⟩
    show _ ≤ (Memory.contents _ store).size
    rw [hcount, hcontents.size]
    exact Triples.length_having_le _ subject predicate
  · show Memory.answer _ store q = _
    unfold Memory.answer
    generalize (run ops).stores.get? store = o at hstore ⊢
    generalize Listing.run ops store = o' at hstore ⊢
    cases hstore with
    | none => rfl
    | some hlists => exact congrArg Except.ok (hlists.rows q)

end Memory

end Nomenclator.Graph
