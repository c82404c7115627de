import Nomenclator.Proofs.Regrouping

/-!
# Rows that come in any order

Rows need not come resource by resource, and nobody says that they are about the
resources that were asked for. `gather` takes them as they come: each accepted
value goes behind the others of its resource and its candidate, and the first row
that belongs to no candidate ends it all. What it has gathered from the rows so
far is a function of these rows, `grouped`, and one more row makes it the same
function of one row more; so the induction over the rows carries nothing but the
rows themselves.

Regrouping all rows at once comes to the same. It is refused exactly when a row
somewhere belongs to no candidate, and otherwise the values of a resource are in
the order of the candidates, and in the order of the rows within.
-/

namespace Nomenclator

/-! ## Tables that a function fills -/

theorem distinct_concat {κ : Type} [BEq κ] (ks : List κ) (k : κ) :
    distinct (ks ++ [k]) =
      if (distinct ks).any (· == k) then distinct ks else distinct ks ++ [k] := by
  unfold distinct
  rw [List.foldl_append]
  rfl

/-- Putting one key into a table that has the value of a function for each of its
keys. The function changes at that key only. -/
theorem Table.put_map {κ ν : Type} [BEq κ] [LawfulBEq κ] {f f' : κ → ν} {k : κ}
    (hf : ∀ x, x ≠ k → f' x = f x) {ks : List κ} (hks : Unrepeated ks) :
    Table.put k (f' k) (ks.map fun x => (x, f x)) =
      (if ks.any (· == k) then ks else ks ++ [k]).map fun x => (x, f' x) := by
  induction ks with
  | nil => rfl
  | cons x ks ih =>
      obtain ⟨hx, hrest⟩ := List.pairwise_cons.1 hks
      rw [List.map_cons, Table.put, List.any_cons]
      by_cases hxk : x = k
      · subst hxk
        have hothers : (ks.map fun y => (y, f y)) = ks.map fun y => (y, f' y) := by
          refine List.map_congr_left fun y hy => ?_
          have hne : y ≠ x := fun h => by simpa [h] using hx y hy
          rw [hf y hne]
        simp [hothers]
      · rw [if_neg (by simpa using hxk), ih hrest, ← hf x hxk]
        cases ks.any (· == k) <;> simp [hxk]

namespace PatternQuery

variable {α : Type}

/-! ## Row by row -/

/-- What has been gathered: for each resource a list of values for each candidate. -/
abbrev Groups (α : Type) := Table ResourceId (List (List α))

/-- The refusal of a row that belongs to no candidate. -/
def refusal (q : PatternQuery) (row : Row) : StoreError :=
  .malformed s!"property index {row.index} out of range for {q.branches.length} candidates"

/-- Puts the value of a row, if it is accepted, behind the others of its resource
and its candidate. -/
def place (q : PatternQuery) (extract : Term → Option α) (groups : Groups α) (row : Row) :
    Except StoreError (Groups α) :=
  if row.index < q.branches.length then
    match extract row.value with
    | none => .ok groups
    | some v =>
      let lists := (groups.get? row.resource).getD (List.replicate q.branches.length [])
      .ok (groups.put row.resource (lists.modify row.index (· ++ [v])))
  else .error (q.refusal row)

/-- Regroups rows one after the other, and puts the candidates together in the end. -/
def gather (q : PatternQuery) (extract : Term → Option α) (rows : List Row) :
    Except StoreError (Table ResourceId (List α)) :=
  (rows.foldlM (q.place extract) []).map fun groups =>
    groups.map fun e => (e.1, e.2.flatten)

/-- The accepted values of a resource under the candidate at a position, in row order. -/
def valuesAt (extract : Term → Option α) (rows : List Row) (resource : ResourceId)
    (index : Nat) : List α :=
  (rows.filter fun row => row.resource = resource ∧ row.index = index).filterMap
    fun row => extract row.value

/-- What has been gathered from some rows. -/
def grouped (q : PatternQuery) (extract : Term → Option α) (rows : List Row) : Groups α :=
  (matchedResources extract rows).map fun r =>
    (r, (List.range q.branches.length).map (valuesAt extract rows r))

section

variable {q : PatternQuery} {extract : Term → Option α} {rows : List Row} {row : Row}

theorem mem_matchedResources {resource : ResourceId} :
    resource ∈ matchedResources extract rows ↔
      ∃ row ∈ rows, row.resource = resource ∧ (extract row.value).isSome := by
  unfold matchedResources
  rw [mem_distinct, List.mem_filterMap]
  refine exists_congr fun row => and_congr_right fun _ => ?_
  cases extract row.value <;> simp

theorem of_strayRow? (h : q.strayRow? rows = some row) :
    row ∈ rows ∧ q.branches.length ≤ row.index := by
  unfold strayRow? at h
  exact ⟨List.mem_of_find?_eq_some h, by simpa using List.find?_some h⟩

theorem matchesOf_eq (resource : ResourceId) :
    q.matchesOf extract rows resource =
      (List.range q.branches.length).flatMap (valuesAt extract rows resource) := by
  unfold matchesOf valuesAt
  simp only [List.filterMap_filter]
  congr
  funext index
  congr
  funext row
  by_cases h : row.resource = resource ∧ row.index = index <;> simp [h]

theorem valuesAt_eq_nil {resource : ResourceId}
    (h : resource ∉ matchedResources extract rows) (index : Nat) :
    valuesAt extract rows resource index = [] := by
  unfold valuesAt
  rw [List.filterMap_eq_nil_iff]
  intro row hrow
  obtain ⟨hrow, hplace⟩ := List.mem_filter.1 hrow
  cases hv : extract row.value with
  | none => rfl
  | some v =>
      refine absurd (mem_matchedResources.2 ⟨row, hrow, ?_, by rw [hv]; rfl⟩) h
      exact (of_decide_eq_true hplace).1

theorem getD_get?_grouped (resource : ResourceId) :
    ((q.grouped extract rows).get? resource).getD (List.replicate q.branches.length []) =
      (List.range q.branches.length).map (valuesAt extract rows resource) := by
  unfold grouped
  rw [Table.get?_map fun x _ hx => by rw [eq_of_beq hx]]
  split
  · rfl
  · next hno =>
      have hnil : resource ∉ matchedResources extract rows := by
        simpa [List.any_beq'] using hno
      have hempty : (List.range q.branches.length).map (valuesAt extract rows resource) =
          (List.range q.branches.length).map fun _ => [] :=
        List.map_congr_left fun i _ => valuesAt_eq_nil hnil i
      rw [Option.getD_none, hempty, List.map_const', List.length_range]

/-! ### One more row -/

theorem valuesAt_concat (resource : ResourceId) (index : Nat) :
    valuesAt extract (rows ++ [row]) resource index =
      valuesAt extract rows resource index ++
        if row.resource = resource ∧ row.index = index then (extract row.value).toList
        else [] := by
  unfold valuesAt
  rw [List.filter_append, List.filterMap_append]
  by_cases h : row.resource = resource ∧ row.index = index
  · cases hv : extract row.value <;> simp [h, hv]
  · simp [h]

theorem grouped_concat_of_rejected (h : extract row.value = none) :
    q.grouped extract (rows ++ [row]) = q.grouped extract rows := by
  have hresources : matchedResources extract (rows ++ [row]) =
      matchedResources extract rows := by
    unfold matchedResources
    simp [h]
  unfold grouped
  rw [hresources]
  simp [valuesAt_concat, h]

theorem matchedResources_concat {v : α} (h : extract row.value = some v) :
    matchedResources extract (rows ++ [row]) =
      if (matchedResources extract rows).any (· == row.resource) then
        matchedResources extract rows
      else matchedResources extract rows ++ [row.resource] := by
  unfold matchedResources
  rw [List.filterMap_append, List.filterMap_cons_some (by rw [h]; rfl), List.filterMap_nil,
    distinct_concat]

/-- The value of one more row stands behind the others under its candidate. -/
theorem modify_valuesAt {v : α} (h : extract row.value = some v) :
    ((List.range q.branches.length).map (valuesAt extract rows row.resource)).modify
        row.index (· ++ [v]) =
      (List.range q.branches.length).map
        (valuesAt extract (rows ++ [row]) row.resource) := by
  refine List.ext_getElem (by simp) fun i _ _ => ?_
  rw [List.getElem_modify]
  by_cases hi : row.index = i <;> simp [valuesAt_concat, h, hi]

/-- What has been gathered stays a function of the rows. -/
theorem place_grouped (h : row.index < q.branches.length) :
    q.place extract (q.grouped extract rows) row =
      .ok (q.grouped extract (rows ++ [row])) := by
  unfold place
  rw [if_pos h]
  cases hv : extract row.value with
  | none => rw [grouped_concat_of_rejected hv]
  | some v =>
      dsimp only
      rw [getD_get?_grouped, modify_valuesAt hv]
      have hothers : ∀ r, r ≠ row.resource →
          (List.range q.branches.length).map (valuesAt extract (rows ++ [row]) r) =
            (List.range q.branches.length).map (valuesAt extract rows r) := by
        intro r hr
        refine List.map_congr_left fun i _ => ?_
        rw [valuesAt_concat, if_neg fun h => hr h.1.symm, List.append_nil]
      have hput := Table.put_map hothers
        (distinct_unrepeated (rows.filterMap fun row => (extract row.value).map fun _ =>
          row.resource))
      unfold grouped
      rw [matchedResources_concat hv]
      exact congrArg Except.ok hput

end

/-- Placing some rows behind others: the first row that belongs to no candidate ends
it, and otherwise all of them are in their place. -/
theorem foldlM_place (q : PatternQuery) (extract : Term → Option α) (seen rows : List Row) :
    rows.foldlM (q.place extract) (q.grouped extract seen) =
      match q.strayRow? rows with
      | some row => .error (q.refusal row)
      | none => .ok (q.grouped extract (seen ++ rows)) := by
  -- The rows to come get fewer, and what has been gathered is known from those seen.
  induction rows generalizing seen with
  | nil => rw [List.append_nil]; rfl
  | cons row rows ih =>
      rw [List.foldlM_cons]
      by_cases hrow : row.index < q.branches.length
      · have hstray : q.strayRow? (row :: rows) = q.strayRow? rows :=
          List.find?_cons_of_neg (by simpa using hrow)
        rw [place_grouped hrow, hstray, List.append_cons seen row rows]
        exact ih (seen ++ [row])
      · have hstray : q.strayRow? (row :: rows) = some row :=
          List.find?_cons_of_pos (by simpa using hrow)
        unfold place
        rw [if_neg hrow, hstray]
        rfl

/-- Regrouping all rows at once comes to the same as taking them as they come. -/
theorem collect_eq_gather (q : PatternQuery) (extract : Term → Option α) (rows : List Row) :
    q.collect extract rows = q.gather extract rows := by
  have hrun := q.foldlM_place extract [] rows
  unfold gather
  rw [show q.grouped extract [] = [] from rfl] at hrun
  rw [hrun, collect]
  cases q.strayRow? rows with
  | some row => rfl
  | none =>
      refine congrArg Except.ok ?_
      dsimp only
      rw [List.nil_append, grouped, List.map_map]
      refine List.map_congr_left fun r _ => ?_
      rw [matchesOf_eq, List.flatMap_def]
      rfl

/-- Rows that all belong to candidates are regrouped, and others are refused with the
first that does not. -/
theorem collect_cases (q : PatternQuery) (extract : Term → Option α) (rows : List Row) :
    (∃ row ∈ rows, q.branches.length ≤ row.index ∧
        q.collect extract rows = .error (q.refusal row)) ∨
      (∀ row ∈ rows, row.index < q.branches.length) ∧
        q.collect extract rows = .ok ((matchedResources extract rows).map fun r =>
          (r, (List.range q.branches.length).flatMap (valuesAt extract rows r))) := by
  unfold collect
  cases hstray : q.strayRow? rows with
  | some row =>
      obtain ⟨hrow, hindex⟩ := of_strayRow? hstray
      exact .inl ⟨row, hrow, hindex, rfl⟩
  | none =>
      refine .inr ⟨fun row hrow => ?_, by simp only [matchesOf_eq]⟩
      simpa using List.find?_eq_none.1 hstray row hrow

/-- Rows may come in any order and about any resources. Regrouping them all at once is
taking them as they come. It is refused exactly when some row belongs to no candidate,
whether its value would be accepted or not. Otherwise there is an entry for just the
resources with an accepted row, one for each, and it has the accepted values of the
first candidate in row order, then those of the second, and so on. -/
theorem collect_regroups (q : PatternQuery) (extract : Term → Option α) (rows : List Row) :
    q.collect extract rows = q.gather extract rows ∧
      ((∃ message, q.collect extract rows = .error (.malformed message)) ↔
        ∃ row ∈ rows, q.branches.length ≤ row.index) ∧
      ((∀ row ∈ rows, row.index < q.branches.length) →
        ∃ found, q.collect extract rows = .ok found ∧ Unrepeated found.keys ∧
          (∀ r, found.has r = true ↔
            ∃ row ∈ rows, row.resource = r ∧ (extract row.value).isSome) ∧
          ∀ e ∈ found, e.2 = (List.range q.branches.length).flatMap fun index =>
            (rows.filter fun row => row.resource = e.1 ∧ row.index = index).filterMap
              fun row => extract row.value) := by
  refine ⟨q.collect_eq_gather extract rows, ?_, fun hfit => ?_⟩
  · rcases q.collect_cases extract rows with ⟨row, hrow, hstray, hrun⟩ | ⟨hfit, hrun⟩
    · exact ⟨fun _ => ⟨row, hrow, hstray⟩, fun _ => ⟨_, hrun⟩⟩
    · rw [hrun]
      constructor
      · rintro ⟨message, h⟩
        cases h
      · rintro ⟨row, hrow, hstray⟩
        exact absurd (hfit row hrow) (Nat.not_lt.2 hstray)
  · rcases q.collect_cases extract rows with ⟨row, hrow, hstray, -⟩ | ⟨-, hrun⟩
    · exact absurd (hfit row hrow) (Nat.not_lt.2 hstray)
    · refine ⟨_, hrun, ?_, fun r => ?_, fun e he => ?_⟩
      · rw [Table.keys_map]
        exact distinct_unrepeated _
      · rw [Table.has_map, List.any_beq', List.contains_iff_mem, mem_matchedResources]
      · obtain ⟨r, -, rfl⟩ := List.mem_map.1 he
        rfl

/-- Two resources whose rows come mixed, one of which was not asked for, and a term
that is not accepted. -/
theorem collect_regroups_mixed_rows :
    let q : PatternQuery := ⟨["dog"], [[⟨"p", false⟩], [⟨"q", false⟩]]⟩
    let rows : List Row := [⟨"dog", 1, .iri "late"⟩, ⟨"cat", 0, .iri "other"⟩,
      ⟨"dog", 0, .text (.plain "Hund")⟩, ⟨"dog", 0, .iri "early"⟩]
    (∀ row ∈ rows, row.index < q.branches.length) ∧
      ∃ found, q.collect Term.iri? rows = .ok found ∧
        found = [("dog", ["early", "late"]), ("cat", ["other"])] ∧
        ∀ e ∈ found, e.2 = (List.range q.branches.length).flatMap fun index =>
          (rows.filter fun row => row.resource = e.1 ∧ row.index = index).filterMap
            fun row => row.value.iri? := by
  intro q rows
  have hfit : ∀ row ∈ rows, row.index < q.branches.length := by decide
  obtain ⟨found, hrun, -, -, hvalues⟩ := (q.collect_regroups Term.iri? rows).2.2 hfit
  refine ⟨hfit, found, hrun, ?_, hvalues⟩
  exact (Except.ok.inj hrun).symm

end PatternQuery

end Nomenclator
