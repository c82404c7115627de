import Nomenclator.Graph.Memory
import Nomenclator.Proofs.Table

/-!
# Rows come back regrouped

A store answers a query row by row: resource by resource, candidate by
candidate, in the order of the path. Regrouping sorts the rows into one list
for each resource. Here that list is computed: on the rows of a store it is,
candidate by candidate, just what the path reaches from the resource, with the
rejected values left out. The numbers that travel with the rows never disagree
with the query, so the answer is not refused.
-/

namespace Nomenclator.PatternQuery

open Nomenclator.Graph (Indexed)

variable {α : Type}

/-- What regrouping has for a resource, whether rows matched it or not. -/
theorem getD_get?_matched (q : PatternQuery) (extract : Term → Option α)
    (rows : List Row) (resource : ResourceId) :
    (Table.get? ((matchedResources extract rows).map fun r =>
      (r, q.matchesOf extract rows r)) resource).getD [] =
      q.matchesOf extract rows resource := by
  rw [Table.get?_map fun x _ hx => by rw [eq_of_beq hx]]
  split
  · rfl
  · next hno =>
      have hrow : ∀ row ∈ rows, row.resource = resource →
          extract row.value = none := by
        intro row hrow hres
        cases hx : extract row.value with
        | none => rfl
        | some v =>
            refine absurd ?_ hno
            unfold matchedResources
            rw [any_distinct, List.any_eq_true]
            refine ⟨resource, List.mem_filterMap.2 ⟨row, hrow, ?_⟩, by simp⟩
            simp [hx, hres]
      unfold matchesOf
      rw [Option.getD_none, eq_comm, List.flatMap_eq_nil_iff]
      intro index _
      rw [List.filterMap_eq_nil_iff]
      intro row hmem
      by_cases hres : row.resource = resource
      · simp [hrow row hmem hres]
      · simp [hres]

/-! ## The rows of a store -/

theorem flatMap_of_nodup {β γ : Type} {l : List β} {f : β → List γ} {a : β}
    (hl : l.Nodup) (ha : a ∈ l) (hf : ∀ b ∈ l, b ≠ a → f b = []) :
    l.flatMap f = f a := by
  induction l with
  | nil => cases ha
  | cons b l ih =>
      rw [List.nodup_cons] at hl
      rw [List.flatMap_cons]
      by_cases hb : b = a
      · subst hb
        have hrest : l.flatMap f = [] := by
          rw [List.flatMap_eq_nil_iff]
          intro c hc
          exact hf c (List.mem_cons_of_mem b hc) fun h => hl.1 (h ▸ hc)
        rw [hrest, List.append_nil]
      · have hmem : a ∈ l := (List.mem_cons.1 ha).resolve_left fun h => hb h.symm
        rw [hf b List.mem_cons_self hb, List.nil_append]
        exact ih hl.2 hmem fun c hc => hf c (List.mem_cons_of_mem b hc)

/-- Going through the numbers of some elements, and picking for each number the
elements that have it, is going through the elements. -/
theorem flatMap_zipIdx {β γ : Type} (f : β → List γ) (l : List β) :
    ∀ n, (List.range' n l.length).flatMap (fun i =>
      (l.zipIdx n).flatMap fun b => if b.2 = i then f b.1 else []) =
      l.flatMap f := by
  induction l with
  | nil => intro n; rfl
  | cons b l ih =>
      intro n
      have hhead : (l.zipIdx (n + 1)).flatMap
          (fun c => if c.2 = n then f c.1 else []) = [] := by
        rw [List.flatMap_eq_nil_iff]
        intro c hc
        have := List.le_snd_of_mem_zipIdx hc
        rw [if_neg (by omega)]
      have htail : ∀ i ∈ List.range' (n + 1) l.length,
          (((b, n) :: l.zipIdx (n + 1)).flatMap
            fun c => if c.2 = i then f c.1 else []) =
          (l.zipIdx (n + 1)).flatMap fun c => if c.2 = i then f c.1 else [] := by
        intro i hi
        rw [List.mem_range'_1] at hi
        rw [List.flatMap_cons, if_neg (by simp; omega), List.nil_append]
      have hrest := congrArg List.flatten (List.map_congr_left htail)
      rw [← List.flatMap_def, ← List.flatMap_def, ih (n + 1)] at hrest
      rw [List.length_cons, List.range'_succ, List.flatMap_cons, List.zipIdx_cons,
        hrest, List.flatMap_cons, if_pos rfl, hhead, List.append_nil,
        List.flatMap_cons]

/-- The rows of a store for one resource and one candidate. -/
theorem filterMap_rows {g : Indexed} {q : PatternQuery}
    (extract : Term → Option α) (hq : q.resources.Nodup) {r : ResourceId}
    (hr : r ∈ q.resources) (i : Nat) :
    ((Graph.Memory.rows g q).filterMap fun row =>
      if row.resource == r && row.index == i then extract row.value else none) =
      q.branches.zipIdx.flatMap fun b =>
        if b.2 = i then (g.evaluate r b.1).filterMap extract else [] := by
  unfold Graph.Memory.rows
  rw [List.filterMap_flatMap, flatMap_of_nodup hq hr]
  · rw [List.filterMap_flatMap]
    congr
    funext b
    rw [List.filterMap_map, Function.comp_def]
    by_cases hb : b.2 = i
    · simp [hb]
    · simp [hb]
  · intro s _ hs
    rw [List.filterMap_flatMap, List.flatMap_eq_nil_iff]
    intro b _
    rw [List.filterMap_map]
    simp [hs]

/-- On the rows of a store, a resource gets what the candidates lead to, one
candidate after the other. -/
theorem matchesOf_rows {g : Indexed} {q : PatternQuery}
    (extract : Term → Option α) (hq : q.resources.Nodup) {r : ResourceId}
    (hr : r ∈ q.resources) :
    q.matchesOf extract (Graph.Memory.rows g q) r =
      q.branches.flatMap fun p => (g.evaluate r p).filterMap extract := by
  unfold matchesOf
  simp only [filterMap_rows extract hq hr]
  rw [← flatMap_zipIdx _ q.branches 0, List.range_eq_range']

/-- No row of a store belongs to no candidate. -/
theorem strayRow?_rows (g : Indexed) (q : PatternQuery) :
    q.strayRow? (Graph.Memory.rows g q) = none := by
  unfold strayRow? Graph.Memory.rows
  rw [List.find?_eq_none]
  intro row hrow
  simp only [List.mem_flatMap, List.mem_map] at hrow
  obtain ⟨r, -, b, hb, v, -, rfl⟩ := hrow
  have := List.snd_lt_of_mem_zipIdx hb
  simp
  omega

/-- What a store answers to a query, regrouped. -/
theorem collect_rows (g : Indexed) (q : PatternQuery)
    (extract : Term → Option α) (hq : q.resources.Nodup) :
    ∃ found, q.collect extract (Graph.Memory.rows g q) = .ok found ∧
      ∀ r ∈ q.resources, (found.get? r).getD [] =
        q.branches.flatMap fun p => (g.evaluate r p).filterMap extract := by
  refine ⟨(matchedResources extract (Graph.Memory.rows g q)).map fun r =>
    (r, q.matchesOf extract (Graph.Memory.rows g q) r), ?_, fun r hr => ?_⟩
  · unfold collect
    rw [strayRow?_rows]
  · rw [getD_get?_matched, matchesOf_rows extract hq hr]

end Nomenclator.PatternQuery
