import Nomenclator.Table

/-!
# What tables and repetition-free lists hold

Two keys of a table may be equal without being identical, so nothing here may
assume that equality of keys is the identity. What replaces the missing
lawfulness is an equivalence, and the one question a table answers is then
`get?`: every operation is described by what it does to that question, and by
what it does to the list of entries as long as no key comes twice.

A list without repetitions is one whose elements are pairwise different in the
sense of their type. `distinct` produces such lists, leaves them alone, and has
an element equal to `k` exactly when the list it was given has one.
-/

namespace Nomenclator

/-- No two elements are equal, in the sense of their type. -/
def Unrepeated {κ : Type} [BEq κ] (ks : List κ) : Prop :=
  ks.Pairwise fun a b => (a == b) = false

section

variable {κ : Type} [BEq κ]

theorem Unrepeated.nil : Unrepeated ([] : List κ) := List.Pairwise.nil

theorem unrepeated_singleton (k : κ) : Unrepeated [k] := by
  simp [Unrepeated]

theorem unrepeated_append {as bs : List κ} :
    Unrepeated (as ++ bs) ↔ Unrepeated as ∧ Unrepeated bs ∧
      ∀ a ∈ as, ∀ b ∈ bs, (a == b) = false :=
  List.pairwise_append

theorem Unrepeated.perm [PartialEquivBEq κ] {ks ks' : List κ} (h : Unrepeated ks)
    (hperm : ks.Perm ks') : Unrepeated ks' := by
  refine (hperm.pairwise_iff fun {x y} hxy => ?_).1 h
  rw [BEq.comm, hxy]

/-- Elements without repetitions that are equal are one and the same. -/
theorem Unrepeated.eq_of_beq [PartialEquivBEq κ] {ks : List κ} (h : Unrepeated ks) {a b : κ}
    (ha : a ∈ ks) (hb : b ∈ ks) (hab : (a == b) = true) : a = b := by
  induction ks with
  | nil => exact absurd ha List.not_mem_nil
  | cons x ks ih =>
      obtain ⟨hx, hks⟩ := List.pairwise_cons.1 h
      rcases List.mem_cons.1 ha with rfl | ha' <;> rcases List.mem_cons.1 hb with rfl | hb'
      · rfl
      · exact absurd hab (Bool.eq_false_iff.1 (hx b hb'))
      · exact absurd (BEq.symm hab) (Bool.eq_false_iff.1 (hx a ha'))
      · exact ih hks ha' hb'

theorem unrepeated_iff_nodup {ks : List κ} [LawfulBEq κ] :
    Unrepeated ks ↔ ks.Nodup := by
  simp [Unrepeated, List.Nodup]

end

/-! ## Lists without repetitions -/

/-- `distinct`, resumed with some elements already seen. -/
def distinctAfter {κ : Type} [BEq κ] (seen ks : List κ) : List κ :=
  ks.foldl (fun seen k => if seen.any (· == k) then seen else seen ++ [k]) seen

section

variable {κ : Type} [BEq κ]

theorem any_of_mem [ReflBEq κ] {ks : List κ} {k : κ} (hk : k ∈ ks) :
    ks.any (· == k) = true :=
  List.any_eq_true.2 ⟨k, hk, BEq.rfl⟩

/-- Whether an equal key is among some that were picked without regard to form. -/
theorem any_filter_of_congr {p : κ → Bool} {k : κ}
    (hp : ∀ x, (x == k) = true → p x = p k) (ks : List κ) :
    (ks.filter p).any (· == k) = (p k && ks.any (· == k)) := by
  rw [List.any_filter]
  induction ks with
  | nil => simp
  | cons x ks ih =>
      rw [List.any_cons, List.any_cons, ih]
      by_cases hx : (x == k) = true
      · cases hpk : p k <;> simp [hx, hp x hx, hpk]
      · simp [hx]

theorem distinctAfter_cons (seen : List κ) (k : κ) (ks : List κ) :
    distinctAfter seen (k :: ks) =
      if seen.any (· == k) then distinctAfter seen ks
      else distinctAfter (seen ++ [k]) ks := by
  unfold distinctAfter
  rw [List.foldl_cons]
  split <;> rfl

theorem distinctAfter_unrepeated {seen : List κ} (ks : List κ)
    (h : Unrepeated seen) : Unrepeated (distinctAfter seen ks) := by
  induction ks generalizing seen with
  | nil => exact h
  | cons k ks ih =>
      rw [distinctAfter_cons]
      split
      · exact ih h
      · next hk =>
          apply ih
          rw [unrepeated_append]
          refine ⟨h, unrepeated_singleton k, fun a ha b hb => ?_⟩
          rw [List.mem_singleton] at hb
          subst hb
          simpa using fun hab => hk (List.any_eq_true.2 ⟨a, ha, hab⟩)

theorem mem_of_mem_distinctAfter {seen ks : List κ} {k : κ}
    (h : k ∈ distinctAfter seen ks) : k ∈ seen ∨ k ∈ ks := by
  induction ks generalizing seen with
  | nil => exact Or.inl h
  | cons x ks ih =>
      rw [distinctAfter_cons] at h
      split at h
      · rcases ih h with hs | hk
        · exact Or.inl hs
        · exact Or.inr (List.mem_cons_of_mem x hk)
      · rcases ih h with hs | hk
        · rw [List.mem_append, List.mem_singleton] at hs
          rcases hs with hs | rfl
          · exact Or.inl hs
          · exact Or.inr List.mem_cons_self
        · exact Or.inr (List.mem_cons_of_mem x hk)

theorem any_distinctAfter [PartialEquivBEq κ] (seen ks : List κ) (k : κ) :
    (distinctAfter seen ks).any (· == k) =
      (seen.any (· == k) || ks.any (· == k)) := by
  induction ks generalizing seen with
  | nil => simp [distinctAfter]
  | cons x ks ih =>
      rw [distinctAfter_cons, List.any_cons]
      split
      · next hx =>
          rw [ih]
          by_cases hxk : (x == k) = true
          · obtain ⟨a, ha, hax⟩ := List.any_eq_true.1 hx
            have hs : seen.any (· == k) = true :=
              List.any_eq_true.2 ⟨a, ha, PartialEquivBEq.trans hax hxk⟩
            simp [hs]
          · simp [hxk]
      · rw [ih, List.any_append]
        simp [Bool.or_assoc]

theorem distinct_unrepeated (ks : List κ) : Unrepeated (distinct ks) :=
  distinctAfter_unrepeated ks Unrepeated.nil

theorem distinctAfter_of_unrepeated {seen ks : List κ} (h : Unrepeated (seen ++ ks)) :
    distinctAfter seen ks = seen ++ ks := by
  induction ks generalizing seen with
  | nil => exact (List.append_nil seen).symm
  | cons k ks ih =>
      have hnew : seen.any (· == k) = false := by
        rw [List.any_eq_false]
        intro x hx
        simp [(unrepeated_append.1 h).2.2 x hx k List.mem_cons_self]
      rw [distinctAfter_cons, hnew, if_neg Bool.false_ne_true, ih (by simpa using h),
        List.append_assoc]
      rfl

theorem distinct_of_unrepeated {ks : List κ} (h : Unrepeated ks) : distinct ks = ks := by
  show distinctAfter [] ks = [] ++ ks
  exact distinctAfter_of_unrepeated h

/-- One more element in front of those already seen counts for no other element. -/
theorem distinctAfter_cons_seen [EquivBEq κ] (k : κ) (seen ks : List κ) :
    distinctAfter (k :: seen.filter fun x => !(x == k)) ks =
      k :: (distinctAfter seen ks).filter fun x => !(x == k) := by
  induction ks generalizing seen with
  | nil => rfl
  | cons x ks ih =>
      rw [distinctAfter_cons, distinctAfter_cons, List.any_cons]
      by_cases hx : (k == x) = true
      · have hfilter : (seen ++ [x]).filter (fun y => !(y == k)) =
            seen.filter fun y => !(y == k) := by
          rw [List.filter_append, List.filter_cons_of_neg (by simp [BEq.symm hx]),
            List.filter_nil, List.append_nil]
        rw [hx, Bool.true_or, if_pos rfl]
        split
        · exact ih seen
        · rw [← ih, hfilter]
      · have hany : (seen.filter fun y => !(y == k)).any (· == x) =
            seen.any (· == x) := by
          rw [List.any_filter]
          congr 1
          funext y
          by_cases hy : (y == x) = true
          · rw [BEq.congr_left hy, BEq.comm]
            simp [hx]
          · simp [hy]
        have hfilter : (seen ++ [x]).filter (fun y => !(y == k)) =
            (seen.filter fun y => !(y == k)) ++ [x] := by
          rw [List.filter_append, List.filter_cons_of_pos (by simp [BEq.comm, hx]),
            List.filter_nil]
        rw [Bool.eq_false_iff.2 hx, Bool.false_or, hany]
        split
        · exact ih seen
        · rw [← ih, hfilter]
          rfl

theorem distinct_cons [EquivBEq κ] (k : κ) (ks : List κ) :
    distinct (k :: ks) = k :: (distinct ks).filter fun x => !(x == k) :=
  distinctAfter_cons_seen k [] ks

theorem mem_of_mem_distinct {ks : List κ} {k : κ} (h : k ∈ distinct ks) :
    k ∈ ks :=
  (mem_of_mem_distinctAfter h).resolve_left List.not_mem_nil

@[simp] theorem any_distinct [PartialEquivBEq κ] (ks : List κ) (k : κ) :
    (distinct ks).any (· == k) = ks.any (· == k) := by
  exact any_distinctAfter [] ks k

theorem any_distinct_of_mem [EquivBEq κ] {ks : List κ} {k : κ} (hk : k ∈ ks) :
    (distinct ks).any (· == k) = true := by
  rw [any_distinct]
  exact any_of_mem hk

@[simp] theorem mem_distinct [LawfulBEq κ] {ks : List κ} {k : κ} :
    k ∈ distinct ks ↔ k ∈ ks := by
  have h := any_distinct ks k
  rw [Bool.eq_iff_iff, List.any_beq', List.any_beq'] at h
  simpa using h

theorem distinct_eq_nil [ReflBEq κ] [PartialEquivBEq κ] {ks : List κ} :
    distinct ks = [] ↔ ks = [] := by
  constructor
  · intro h
    cases ks with
    | nil => rfl
    | cons k ks =>
        have hk := any_distinct (k :: ks) k
        simp [h] at hk
  · rintro rfl
    rfl

end

/-! ## Tables -/

namespace Table

variable {κ ν : Type} [BEq κ]

@[simp] theorem get?_nil (k : κ) : get? ([] : Table κ ν) k = none := rfl

theorem get?_cons (e : κ × ν) (t : Table κ ν) (k : κ) :
    get? (e :: t) k = if e.1 == k then some e.2 else t.get? k := by
  unfold get?
  rw [List.find?_cons]
  split <;> simp_all

theorem get?_congr [PartialEquivBEq κ] (t : Table κ ν) {k x : κ} (h : (k == x) = true) :
    t.get? k = t.get? x := by
  have hsame : (fun e : κ × ν => e.1 == k) = fun e => e.1 == x :=
    funext fun e => BEq.congr_right h
  unfold get?
  rw [hsame]

theorem get?_singleton [ReflBEq κ] (k : κ) (v : ν) : get? [(k, v)] k = some v := by
  rw [get?_cons, if_pos BEq.rfl]

theorem get?_append (t u : Table κ ν) (k : κ) :
    get? (t ++ u) k = (t.get? k).or (u.get? k) := by
  induction t with
  | nil => rfl
  | cons e t ih =>
      rw [List.cons_append, get?_cons, get?_cons, ih]
      split <;> rfl

theorem has_eq_isSome (t : Table κ ν) (k : κ) :
    t.has k = (t.get? k).isSome := by
  induction t with
  | nil => rfl
  | cons e t ih =>
      rw [get?_cons]
      unfold has at ih ⊢
      rw [List.any_cons, ih]
      split <;> simp_all

/-- The value that a table has for a key stands in it under an equal key. -/
theorem mem_of_get? {t : Table κ ν} {k : κ} {v : ν} (h : t.get? k = some v) :
    ∃ x, (x, v) ∈ t ∧ (x == k) = true := by
  unfold get? at h
  rw [Option.map_eq_some_iff] at h
  obtain ⟨⟨x, w⟩, hfind, rfl⟩ := h
  have hx := List.find?_some hfind
  exact ⟨x, List.mem_of_find?_eq_some hfind, hx⟩

/-- A table that has one value only under the keys that equal a key. -/
theorem get?_of_forall {t : Table κ ν} {k : κ} {v : ν}
    (h : ∀ e ∈ t, (e.1 == k) = true → e.2 = v) (hhas : t.has k = true) :
    t.get? k = some v := by
  rw [has_eq_isSome, Option.isSome_iff_exists] at hhas
  obtain ⟨w, hw⟩ := hhas
  obtain ⟨x, hmem, hx⟩ := mem_of_get? hw
  exact hw.trans (congrArg some (h (x, w) hmem hx))

/-! ### Tables that a function fills -/

@[simp] theorem keys_map {κ ν : Type} (f : κ → ν) (ks : List κ) :
    keys (ks.map fun k => (k, f k)) = ks := by
  simp [keys, Function.comp_def]

@[simp] theorem has_map (f : κ → ν) (ks : List κ) (k : κ) :
    has (ks.map fun x => (x, f x)) k = ks.any (· == k) := by
  simp [has, List.any_map, Function.comp_def]

/-- A table that gives every key the value of a function answers with that
function, provided it does not tell equal keys apart. -/
theorem get?_map {f : κ → ν} {ks : List κ} {k : κ}
    (hf : ∀ x ∈ ks, (x == k) = true → f x = f k) :
    get? (ks.map fun x => (x, f x)) k =
      if ks.any (· == k) then some (f k) else none := by
  induction ks with
  | nil => rfl
  | cons x ks ih =>
      rw [List.map_cons, get?_cons, List.any_cons,
        ih fun y hy => hf y (List.mem_cons_of_mem x hy)]
      by_cases hx : (x == k) = true
      · simp [hx, hf x List.mem_cons_self hx]
      · simp [hx]

theorem get?_map_of_mem [LawfulBEq κ] {f : κ → ν} {ks : List κ} {k : κ}
    (hk : k ∈ ks) : get? (ks.map fun x => (x, f x)) k = some (f k) := by
  have hany : (ks.any fun x => x == k) = true :=
    List.any_eq_true.2 ⟨k, hk, beq_self_eq_true k⟩
  rw [get?_map fun x _ hx => by rw [eq_of_beq hx], if_pos hany]

/-- The same for a table that leaves some of the keys out. -/
theorem get?_filterMap [LawfulBEq κ] {f : κ → Option ν} {ks : List κ} {k : κ} :
    get? (ks.filterMap fun x => (f x).map fun v => (x, v)) k =
      if ks.any (· == k) then f k else none := by
  induction ks with
  | nil => rfl
  | cons x ks ih =>
      rw [List.filterMap_cons, List.any_cons]
      cases hf : f x with
      | none =>
          rw [Option.map_none, ih]
          by_cases hx : (x == k) = true
          · have hk : f k = none := by rw [← eq_of_beq hx, hf]
            simp [hk]
          · simp [hx]
      | some v =>
          rw [Option.map_some]
          simp only [get?_cons]
          by_cases hx : (x == k) = true
          · have hk : f k = some v := by rw [← eq_of_beq hx, hf]
            simp [hx, hk]
          · simp [hx, ih]

theorem put_of_not_has {t : Table κ ν} {k : κ} (v : ν) (h : t.has k = false) :
    t.put k v = t ++ [(k, v)] := by
  induction t with
  | nil => rfl
  | cons e t ih =>
      unfold has at h ih
      rw [List.any_cons, Bool.or_eq_false_iff] at h
      rw [put, if_neg (by simp [h.1]), ih h.2]
      rfl

/-- Entries under keys that are all new go behind the others as they are. -/
theorem merge_of_unrepeated {t u : Table κ ν}
    (h : Unrepeated (t.keys ++ u.keys)) : t.merge u = t ++ u := by
  induction u generalizing t with
  | nil => simp [merge]
  | cons e u ih =>
      have he : t.has e.1 = false := by
        unfold has
        rw [List.any_eq_false]
        intro x hx
        have := (unrepeated_append.1 h).2.2 x.1 (List.mem_map_of_mem hx) e.1
          List.mem_cons_self
        simp [this]
      have hput : t.merge (e :: u) = (t ++ [(e.1, e.2)]).merge u := by
        unfold merge
        rw [List.foldl_cons, put_of_not_has e.2 he]
      rw [hput, ih (by simpa [keys] using h)]
      simp

/-- Tables without common keys, put together one after the other. -/
theorem foldl_merge_of_unrepeated {ts : List (Table κ ν)} {t : Table κ ν}
    (h : Unrepeated (t ++ ts.flatten).keys) : ts.foldl merge t = t ++ ts.flatten := by
  induction ts generalizing t with
  | nil => rw [List.foldl_nil, List.flatten_nil, List.append_nil]
  | cons u ts ih =>
      rw [List.flatten_cons, ← List.append_assoc] at h
      have hfront : Unrepeated (t.keys ++ u.keys) := by
        rw [keys, List.map_append, unrepeated_append] at h
        rw [keys, keys, ← List.map_append]
        exact h.1
      rw [List.foldl_cons, merge_of_unrepeated hfront, ih h, List.flatten_cons,
        List.append_assoc]

theorem mem_put [LawfulBEq κ] {t : Table κ ν} {k : κ} {v : ν} {e : κ × ν}
    (h : e ∈ t.put k v) : e ∈ t ∨ e = (k, v) := by
  induction t with
  | nil => exact .inr (List.mem_singleton.1 h)
  | cons x t ih =>
      unfold put at h
      split at h
      · next hx =>
          rcases List.mem_cons.1 h with he | he
          · exact .inr (by rw [he, eq_of_beq hx])
          · exact .inl (List.mem_cons_of_mem x he)
      · next hx =>
          rcases List.mem_cons.1 h with he | he
          · exact .inl (he ▸ List.mem_cons_self)
          · exact (ih he).imp_left (List.mem_cons_of_mem x)

theorem has_put [EquivBEq κ] (t : Table κ ν) (k : κ) (v : ν) (k' : κ) :
    (t.put k v).has k' = (t.has k' || k == k') := by
  induction t with
  | nil => simp [put, has]
  | cons x t ih =>
      unfold put
      split
      · next hx =>
          unfold has
          rw [List.any_cons, List.any_cons, BEq.congr_left hx]
          cases k == k' <;> simp
      · next hx =>
          unfold has at ih ⊢
          rw [List.any_cons, List.any_cons, ih, Bool.or_assoc]

theorem mem_merge [LawfulBEq κ] {t u : Table κ ν} {e : κ × ν}
    (h : e ∈ t.merge u) : e ∈ t ∨ e ∈ u := by
  induction u generalizing t with
  | nil => exact .inl h
  | cons x u ih =>
      rcases ih (t := t.put x.1 x.2) h with he | he
      · rcases mem_put he with he | he
        · exact .inl he
        · exact .inr (he ▸ List.mem_cons_self)
      · exact .inr (List.mem_cons_of_mem x he)

theorem has_merge [EquivBEq κ] (t u : Table κ ν) (k : κ) :
    (t.merge u).has k = (t.has k || u.has k) := by
  induction u generalizing t with
  | nil => simp [merge, has]
  | cons x u ih =>
      show ((t.put x.1 x.2).merge u).has k = _
      rw [ih, has_put, Bool.or_assoc]
      rfl

theorem mem_put_self [LawfulBEq κ] (t : Table κ ν) (k : κ) (v : ν) :
    (k, v) ∈ t.put k v := by
  induction t with
  | nil => exact List.mem_singleton.2 rfl
  | cons x t ih =>
      unfold put
      split
      · next hx =>
          rw [eq_of_beq hx]
          exact List.mem_cons_self
      · exact List.mem_cons_of_mem x ih

theorem mem_put_of_ne [LawfulBEq κ] {t : Table κ ν} {e : κ × ν} (he : e ∈ t) {k : κ}
    (v : ν) (h : e.1 ≠ k) : e ∈ t.put k v := by
  induction t with
  | nil => exact absurd he List.not_mem_nil
  | cons x t ih =>
      unfold put
      rcases List.mem_cons.1 he with rfl | he
      · rw [if_neg (by simpa using h)]
        exact List.mem_cons_self
      · split
        · exact List.mem_cons_of_mem _ he
        · exact List.mem_cons_of_mem _ (ih he)

theorem keys_put (t : Table κ ν) (k : κ) (v : ν) :
    (t.put k v).keys = if t.has k then t.keys else t.keys ++ [k] := by
  induction t with
  | nil => rfl
  | cons x t ih =>
      have hhas : has (x :: t) k = (x.1 == k || has t k) := List.any_cons
      rw [put, hhas]
      by_cases hx : (x.1 == k) = true
      · simp [hx, keys]
      · rw [if_neg hx]
        show x.1 :: keys (put k v t) = _
        rw [ih]
        simp only [hx, Bool.false_or]
        split <;> rfl

theorem unrepeated_put {t : Table κ ν} (h : Unrepeated t.keys) (k : κ) (v : ν) :
    Unrepeated (t.put k v).keys := by
  rw [keys_put]
  split
  · exact h
  · next hnew =>
      refine unrepeated_append.2 ⟨h, unrepeated_singleton k, fun x hx y hy => ?_⟩
      obtain ⟨e, he, rfl⟩ := List.mem_map.1 hx
      rw [List.mem_singleton.1 hy]
      exact Bool.eq_false_iff.2 fun hkey => hnew (List.any_eq_true.2 ⟨e, he, hkey⟩)

theorem eq_of_unrepeated [LawfulBEq κ] {t : Table κ ν} (h : Unrepeated t.keys)
    {e e' : κ × ν} (he : e ∈ t) (he' : e' ∈ t) (hkey : e.1 = e'.1) : e = e' := by
  induction t with
  | nil => exact absurd he List.not_mem_nil
  | cons x t ih =>
      obtain ⟨hx, ht⟩ := List.pairwise_cons.1 h
      have hother : ∀ y ∈ t, x.1 ≠ y.1 := fun y hy =>
        by simpa using hx y.1 (List.mem_map_of_mem hy)
      rcases List.mem_cons.1 he with rfl | hmem <;>
        rcases List.mem_cons.1 he' with rfl | hmem'
      · rfl
      · exact absurd hkey (hother e' hmem')
      · exact absurd hkey.symm (hother e hmem)
      · exact ih ht hmem hmem'

theorem length_put (t : Table κ ν) (k : κ) (v : ν) :
    (t.put k v).length = if t.has k then t.length else t.length + 1 := by
  induction t with
  | nil => rfl
  | cons x t ih =>
      unfold put
      by_cases hx : (x.1 == k) = true
      · simp [has, hx]
      · unfold has at ih
        rw [if_neg hx, List.length_cons, ih]
        unfold has
        rw [List.any_cons, Bool.eq_false_iff.2 hx, Bool.false_or, List.length_cons]
        split <;> rfl

theorem length_put_le (t : Table κ ν) (k : κ) (v : ν) :
    (t.put k v).length ≤ t.length + 1 := by
  rw [length_put]
  split <;> omega

theorem length_merge_le (t u : Table κ ν) : (t.merge u).length ≤ t.length + u.length := by
  induction u generalizing t with
  | nil => exact Nat.le_refl _
  | cons x u ih =>
      have hrest := ih (t.put x.1 x.2)
      have hput := t.length_put_le x.1 x.2
      show ((t.put x.1 x.2).merge u).length ≤ t.length + (u.length + 1)
      omega

/-- An entry under a key that is there already adds nothing. -/
theorem length_merge_lt [LawfulBEq κ] {t u : Table κ ν} {e : κ × ν} (he : e ∈ u)
    (hhas : t.has e.1 = true) : (t.merge u).length < t.length + u.length := by
  induction u generalizing t with
  | nil => exact absurd he List.not_mem_nil
  | cons x u ih =>
      show ((t.put x.1 x.2).merge u).length < t.length + (u.length + 1)
      rcases List.mem_cons.1 he with rfl | he
      · have hput := t.length_put e.1 e.2
        rw [if_pos hhas] at hput
        have hrest := (t.put e.1 e.2).length_merge_le u
        omega
      · have hstill : (t.put x.1 x.2).has e.1 = true := by
          rw [has_put, hhas, Bool.true_or]
        have hrest := ih he hstill
        have hput := t.length_put_le x.1 x.2
        omega

/-- A table built of entries that give every key the value of a function. -/
theorem get?_ofEntries [LawfulBEq κ] {es : List (κ × ν)} {g : κ → ν}
    (h : ∀ e ∈ es, e.2 = g e.1) {k : κ} (hk : es.any (·.1 == k) = true) :
    (ofEntries es).get? k = some (g k) := by
  refine get?_of_forall (fun e he hkey => ?_) ?_
  · rcases mem_merge (t := []) he with he | he
    · exact absurd he List.not_mem_nil
    · rw [h e he, eq_of_beq hkey]
  · have hhas := has_merge [] es k
    exact hhas.trans (by rw [show has es k = true from hk, Bool.or_true])

theorem get?_ofEntries_of_not_mem [LawfulBEq κ] {es : List (κ × ν)} {k : κ}
    (h : ∀ e ∈ es, e.1 ≠ k) : (ofEntries es).get? k = none := by
  have hno : has es k = false := by
    unfold has
    rw [List.any_eq_false]
    exact fun e he hkey => h e he (eq_of_beq hkey)
  have hhas := has_merge [] es k
  rw [hno, Bool.or_false] at hhas
  rw [← Option.not_isSome_iff_eq_none, ← has_eq_isSome]
  exact fun hsome => absurd (hhas.symm.trans hsome) Bool.false_ne_true

theorem get?_put [EquivBEq κ] (t : Table κ ν) (k : κ) (v : ν) (k' : κ) :
    (t.put k v).get? k' = if k == k' then some v else t.get? k' := by
  induction t with
  | nil => rw [put, get?_cons]
  | cons e t ih =>
      unfold put
      split
      · next he =>
          rw [get?_cons, get?_cons, BEq.congr_left he]
          split <;> rfl
      · next he =>
          rw [get?_cons, get?_cons, ih]
          by_cases hk : (k == k') = true
          · rw [← BEq.congr_right hk, if_neg he, if_pos hk, if_pos hk]
          · rw [if_neg hk, if_neg hk]

/-- What is found in two tables put together was in one of them. -/
theorem exists_of_get?_merge [EquivBEq κ] {t u : Table κ ν} {k : κ} {v : ν}
    (h : (t.merge u).get? k = some v) :
    t.get? k = some v ∨ ∃ e ∈ u, (e.1 == k) = true ∧ e.2 = v := by
  induction u generalizing t with
  | nil => exact .inl h
  | cons x u ih =>
      rcases ih (t := t.put x.1 x.2) h with hput | ⟨e, he, hkey⟩
      · rw [get?_put] at hput
        split at hput
        · next hx => exact .inr ⟨x, List.mem_cons_self, hx, Option.some.inj hput⟩
        · exact .inl hput
      · exact .inr ⟨e, List.mem_cons_of_mem x he, hkey⟩

/-! ### Lookups after an operation, where equality is the identity -/

theorem get?_erase [LawfulBEq κ] (t : Table κ ν) (k k' : κ) :
    (t.erase k).get? k' = if k == k' then none else t.get? k' := by
  induction t with
  | nil => simp [erase]
  | cons e t ih =>
      unfold erase at ih ⊢
      rw [List.filter_cons, get?_cons]
      by_cases he : (e.1 == k) = true
      · rw [if_neg (by simp [he]), ih, eq_of_beq he]
        split <;> rfl
      · rw [if_pos (by simp [he]), get?_cons, ih]
        by_cases hk : (k == k') = true
        · rw [← eq_of_beq hk, if_neg he, if_pos BEq.rfl, if_pos BEq.rfl]
        · rw [if_neg hk, if_neg hk]

/-- Changing the values without a look at the keys. -/
theorem get?_map_snd {μ : Type} (t : Table κ ν) (f : ν → μ) (k : κ) :
    get? (t.map fun e => (e.1, f e.2)) k = (t.get? k).map f := by
  induction t with
  | nil => rfl
  | cons e t ih =>
      rw [List.map_cons, get?_cons, get?_cons, ih]
      split <;> rfl

@[simp] theorem keys_adjust (t : Table κ ν) (k : κ) (f : ν → ν) :
    (t.adjust k f).keys = t.keys := by
  unfold adjust keys
  rw [List.map_map]
  refine List.map_congr_left fun e _ => ?_
  rw [Function.comp_apply]
  split <;> rfl

theorem get?_adjust [LawfulBEq κ] (t : Table κ ν) (k : κ) (f : ν → ν) (k' : κ) :
    (t.adjust k f).get? k' = if k == k' then (t.get? k').map f else t.get? k' := by
  induction t with
  | nil => simp [adjust]
  | cons e t ih =>
      unfold adjust at ih ⊢
      rw [List.map_cons, get?_cons, get?_cons, ih]
      by_cases he : (e.1 == k) = true
      · rw [if_pos he, eq_of_beq he]
        split <;> rfl
      · rw [if_neg he]
        by_cases hk : (k == k') = true
        · rw [← eq_of_beq hk, if_neg he, if_neg he]
        · rw [if_neg hk, if_neg hk]

/-- No entry counts as the empty list, before and after. -/
theorem getD_append [LawfulBEq κ] {α : Type} (t : Table κ (List α)) (k : κ) (v : α)
    (k' : κ) :
    ((t.append k v).get? k').getD [] =
      if k == k' then (t.get? k').getD [] ++ [v] else (t.get? k').getD [] := by
  unfold append
  rw [get?_put]
  split
  · next hk => rw [eq_of_beq hk, Option.getD_some]
  · rfl

end Table

end Nomenclator
