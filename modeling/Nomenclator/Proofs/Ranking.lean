import Nomenclator.Language.Choice
import Nomenclator.Proofs.Table

/-!
# The choice is the earliest among the best

A preference puts languages in an order: the effective one, the fallbacks, and "no
language" behind them unless it has a place already. A repeated language counts
where it comes first, and all languages outside share the place behind the last.
Among several texts the one whose language stands first is chosen, and of several
such texts the earliest.

The scan decides this with the best text so far, and gives up looking when a text
is in the effective language. Neither shows: a best text so far is never in the
effective language, so what it is compared with is always the rest of the list.
The scan is therefore told by a split of the list. Everything before the chosen
text is worse, and nothing behind it is better. A split survives when other texts
are left out, and the order survives when repeated fallbacks are, so neither can
change the choice.
-/

namespace Nomenclator.Language

/-! ## The order of languages -/

/-- The languages of a preference, each at its first place, with "no language" behind
them unless it is among them. -/
def order (effective : Tag) (fallbacks : List Tag) : List Tag :=
  let listed := distinct (effective :: fallbacks)
  if Tag.none ∈ listed then listed else listed ++ [Tag.none]

/-- The place of the language of a text. -/
def place (effective : Tag) (fallbacks : List Tag) (v : TextValue) : Nat :=
  (order effective fallbacks).idxOf v.language

theorem Tag.isNone_iff {t : Tag} : t.isNone = true ↔ t = Tag.none := by
  have hnone : Tag.none.text = "" := by decide
  constructor
  · intro h
    have htext : t.text = "" := by simpa [Tag.isNone] using h
    rw [← Tag.ofString_text t, htext]
    rfl
  · rintro rfl
    simp [Tag.isNone, hnone]

theorem distinctAfter_tags (known ts : List Tag) :
    distinctAfter known ts = known ++ Preference.unseen known ts := by
  induction ts generalizing known with
  | nil => simp [distinctAfter, Preference.unseen]
  | cons t ts ih =>
      rw [distinctAfter_cons, Preference.unseen]
      by_cases ht : t ∈ known
      · rw [if_pos ht, if_pos (by simpa using ht), ih]
      · rw [if_neg ht, if_neg (by simpa using ht), ih, List.append_assoc]
        rfl

theorem ranking_eq_order (effective : Tag) (fallbacks : List Tag) :
    ranking effective fallbacks = order effective fallbacks := by
  have hlisted : distinct (effective :: fallbacks) =
      effective :: Preference.unseen [effective] fallbacks :=
    distinctAfter_tags [effective] fallbacks
  have hany : ∀ ts : List Tag, ts.any Tag.isNone = true ↔ Tag.none ∈ ts := by
    intro ts
    simp [Tag.isNone_iff]
  unfold ranking order
  simp only [hlisted, hany]

theorem rank_eq_place (effective : Tag) (fallbacks : List Tag) (v : TextValue) :
    rank (ranking effective fallbacks) v.language = place effective fallbacks v := by
  rw [ranking_eq_order]
  rfl

theorem unseen_congr {known known' : List Tag} (h : ∀ t, t ∈ known ↔ t ∈ known')
    (ts : List Tag) : Preference.unseen known ts = Preference.unseen known' ts := by
  induction ts generalizing known known' with
  | nil => rfl
  | cons t ts ih =>
      have hmore : ∀ u, u ∈ known ++ [t] ↔ u ∈ known' ++ [t] := by simp [h]
      simp only [Preference.unseen, h t, ih h, ih hmore]

/-- A list of tags, and what remains of it when some tags are left out that are known,
or that have come before. -/
inductive Thinned : List Tag → List Tag → List Tag → Prop
  | nil (known : List Tag) : Thinned known [] []
  | keep {known ts kept : List Tag} (t : Tag) (h : Thinned (t :: known) ts kept) :
      Thinned known (t :: ts) (t :: kept)
  | drop {known ts kept : List Tag} {t : Tag} (ht : t ∈ known)
      (h : Thinned known ts kept) : Thinned known (t :: ts) kept

theorem Thinned.unseen_eq {known ts kept : List Tag} (h : Thinned known ts kept) :
    Preference.unseen known kept = Preference.unseen known ts := by
  induction h with
  | nil => rfl
  | @keep known ts kept t _ ih =>
      rw [Preference.unseen, Preference.unseen]
      have hmore : ∀ u, u ∈ known ++ [t] ↔ u ∈ t :: known := by simp [or_comm]
      by_cases ht : t ∈ known
      · have hsame : ∀ u, u ∈ known ↔ u ∈ t :: known := by
          intro u
          simpa using fun hu => hu ▸ ht
        rw [if_pos ht, if_pos ht, unseen_congr hsame, unseen_congr hsame, ih]
      · rw [if_neg ht, if_neg ht, unseen_congr hmore, unseen_congr hmore, ih]
  | drop ht _ ih => rw [Preference.unseen, if_pos ht, ih]

theorem Thinned.ranking_eq {effective : Tag} {fallbacks kept : List Tag}
    (h : Thinned [effective] fallbacks kept) :
    ranking effective kept = ranking effective fallbacks := by
  unfold ranking
  rw [h.unseen_eq]

/-! ## The earliest of the least -/

section

variable (f : TextValue → Nat)

/-- The text at a place is nowhere undercut, and matched by no text before it. -/
structure Earliest (texts : List TextValue) (i : Nat) : Prop where
  least : ∃ v, texts[i]? = some v ∧ ∀ w ∈ texts, f v ≤ f w
  first : ∀ v w j, texts[i]? = some v → texts[j]? = some w → j < i → f v < f w

variable {f}

theorem earliest_split {before after : List TextValue} {v : TextValue} :
    Earliest f (before ++ v :: after) before.length ↔
      (∀ w ∈ before, f v < f w) ∧ ∀ w ∈ after, f v ≤ f w := by
  have hv : (before ++ v :: after)[before.length]? = some v := by simp
  constructor
  · rintro ⟨⟨v', hv', hleast⟩, hfirst⟩
    obtain rfl := Option.some.inj (hv.symm.trans hv')
    refine ⟨fun w hw => ?_, fun w hw => hleast w (by simp [hw])⟩
    obtain ⟨j, hj, rfl⟩ := List.getElem_of_mem hw
    exact hfirst v _ j hv (by simp [List.getElem?_append_left hj, hj]) hj
  · rintro ⟨hbefore, hafter⟩
    refine ⟨⟨v, hv, fun w hw => ?_⟩, fun v' w j hv' hw hj => ?_⟩
    · rcases List.mem_append.1 hw with hw | hw
      · exact Nat.le_of_lt (hbefore w hw)
      · rcases List.mem_cons.1 hw with rfl | hw
        · exact Nat.le_refl _
        · exact hafter w hw
    · obtain rfl := Option.some.inj (hv.symm.trans hv')
      rw [List.getElem?_append_left hj] at hw
      exact hbefore w (List.mem_of_getElem? hw)

theorem Earliest.sublist {before after before' after' : List TextValue} {v : TextValue}
    (h : Earliest f (before ++ v :: after) before.length) (hbefore : before'.Sublist before)
    (hafter : after'.Sublist after) :
    Earliest f (before' ++ v :: after') before'.length := by
  rw [earliest_split] at h ⊢
  exact ⟨fun w hw => h.1 w (hbefore.subset hw), fun w hw => h.2 w (hafter.subset hw)⟩

theorem Earliest.unique {texts : List TextValue} {i j : Nat} (hi : Earliest f texts i)
    (hj : Earliest f texts j) : i = j := by
  obtain ⟨⟨v, hv, hvleast⟩, hvfirst⟩ := hi
  obtain ⟨⟨w, hw, hwleast⟩, hwfirst⟩ := hj
  have hvw := hvleast w (List.mem_of_getElem? hw)
  have hwv := hwleast v (List.mem_of_getElem? hv)
  rcases Nat.lt_trichotomy i j with hlt | heq | hgt
  · have := hwfirst w v i hw hv hlt
    omega
  · exact heq
  · have := hvfirst v w j hv hw hgt
    omega

end

/-! ## The scan -/

section

variable {ranked : List Tag}

/-- Scanning with a best text in hand that is not in the effective language: it stays
the best, or the rest of the list holds the earliest of the better ones. -/
theorem scan_best {b : Nat} (v : TextValue) (hb : 0 < b) (texts : List TextValue) :
    (choose.scan ranked (some (b, v)) texts = some v ∧
      ∀ w ∈ texts, b ≤ rank ranked w.language) ∨
    ∃ before u after, texts = before ++ u :: after ∧
      choose.scan ranked (some (b, v)) texts = some u ∧ rank ranked u.language < b ∧
      (∀ w ∈ before, rank ranked u.language < rank ranked w.language) ∧
      ∀ w ∈ after, rank ranked u.language ≤ rank ranked w.language := by
  induction texts generalizing b v with
  | nil => exact .inl ⟨rfl, by simp⟩
  | cons x texts ih =>
      rw [choose.scan]
      by_cases hzero : rank ranked x.language = 0
      · -- The scan ends here, and whatever follows cannot be better.
        rw [if_pos hzero]
        exact .inr ⟨[], x, texts, rfl, rfl, by omega, by simp, by omega⟩
      · rw [if_neg hzero]
        by_cases hle : b ≤ rank ranked x.language
        · simp only [if_pos hle]
          rcases ih v hb with ⟨hscan, hall⟩ | ⟨before, u, after, rfl, hscan, hu, hbefore, hafter⟩
          · exact .inl ⟨hscan, by simpa using ⟨hle, hall⟩⟩
          · refine .inr ⟨x :: before, u, after, rfl, hscan, hu, ?_, hafter⟩
            simpa using ⟨by omega, hbefore⟩
        · simp only [if_neg hle]
          rcases ih x (by omega : 0 < rank ranked x.language) with
            ⟨hscan, hall⟩ | ⟨before, u, after, rfl, hscan, hu, hbefore, hafter⟩
          · exact .inr ⟨[], x, texts, rfl, hscan, by omega, by simp, hall⟩
          · refine .inr ⟨x :: before, u, after, rfl, hscan, by omega, ?_, hafter⟩
            simpa using ⟨hu, hbefore⟩

end

/-- Some text is chosen as soon as there is one, and it splits the list. -/
theorem choose_split (effective : Tag) (fallbacks : List Tag) {texts : List TextValue}
    (h : texts ≠ []) :
    ∃ before v after, texts = before ++ v :: after ∧
      choose effective fallbacks texts = some v ∧
      Earliest (place effective fallbacks) texts before.length := by
  have hscan : ∃ before v after, texts = before ++ v :: after ∧
      choose effective fallbacks texts = some v ∧
      (∀ w ∈ before, rank (ranking effective fallbacks) v.language <
        rank (ranking effective fallbacks) w.language) ∧
      ∀ w ∈ after, rank (ranking effective fallbacks) v.language ≤
        rank (ranking effective fallbacks) w.language := by
    obtain ⟨x, rest, rfl⟩ := List.exists_cons_of_ne_nil h
    unfold choose
    rw [choose.scan]
    by_cases hzero : rank (ranking effective fallbacks) x.language = 0
    · rw [if_pos hzero]
      exact ⟨[], x, rest, rfl, rfl, by simp, by omega⟩
    · rw [if_neg hzero]
      rcases scan_best x (Nat.pos_of_ne_zero hzero) rest with
        ⟨hscan, hall⟩ | ⟨before, u, after, rfl, hscan, hu, hbefore, hafter⟩
      · exact ⟨[], x, rest, rfl, hscan, by simp, hall⟩
      · exact ⟨x :: before, u, after, rfl, hscan, by simpa using ⟨hu, hbefore⟩, hafter⟩
  obtain ⟨before, v, after, rfl, hchoose, hsplit⟩ := hscan
  simp only [rank_eq_place] at hsplit
  exact ⟨before, v, after, rfl, hchoose, earliest_split.2 hsplit⟩

theorem chosenIndex_eq_some_iff {effective : Tag} {fallbacks : List Tag}
    {texts : List TextValue} {i : Nat} :
    chosenIndex effective fallbacks texts = some i ↔
      Earliest (place effective fallbacks) texts i := by
  by_cases htexts : texts = []
  · subst htexts
    constructor
    · intro h
      cases h
    · rintro ⟨⟨v, hv, -⟩, -⟩
      cases hv
  · obtain ⟨before, v, after, rfl, hchoose, hearliest⟩ :=
      choose_split effective fallbacks htexts
    have hindex : chosenIndex effective fallbacks (before ++ v :: after) =
        some before.length := by
      have hnew : v ∉ before := fun hv =>
        absurd ((earliest_split.1 hearliest).1 v hv) (Nat.lt_irrefl _)
      unfold chosenIndex
      rw [hchoose, Option.map_some, List.idxOf_append, if_neg hnew, List.idxOf_cons_self,
        Nat.zero_add]
    rw [hindex, Option.some.injEq]
    constructor
    · rintro rfl
      exact hearliest
    · exact hearliest.unique

theorem choose_eq_bind (effective : Tag) (fallbacks : List Tag) (texts : List TextValue) :
    choose effective fallbacks texts =
      (chosenIndex effective fallbacks texts).bind (texts[·]?) := by
  by_cases htexts : texts = []
  · rw [htexts]
    rfl
  · obtain ⟨before, v, after, rfl, hchoose, hearliest⟩ :=
      choose_split effective fallbacks htexts
    rw [chosenIndex_eq_some_iff.2 hearliest, hchoose]
    simp

/-- There is a choice unless there is nothing to choose from, and it is the earliest of
the texts whose language stands first in the order; languages outside stand together
behind the last. So the choice does not change when fallbacks are left out that repeat
an earlier language, nor when other texts are left out. -/
theorem choose_earliest (effective : Tag) (fallbacks : List Tag) (texts : List TextValue) :
    (choose effective fallbacks texts = none ↔ texts = []) ∧
    (∀ i, chosenIndex effective fallbacks texts = some i ↔
      Earliest (place effective fallbacks) texts i) ∧
    choose effective fallbacks texts =
      (chosenIndex effective fallbacks texts).bind (texts[·]?) ∧
    (∀ v w : TextValue, w.language ∉ order effective fallbacks →
      (v.language ∈ order effective fallbacks →
        place effective fallbacks v < place effective fallbacks w) ∧
      (v.language ∉ order effective fallbacks →
        place effective fallbacks v = place effective fallbacks w)) ∧
    (∀ kept, Thinned [effective] fallbacks kept →
      chosenIndex effective kept texts = chosenIndex effective fallbacks texts) ∧
    ∀ before v after, texts = before ++ v :: after →
      chosenIndex effective fallbacks texts = some before.length →
      ∀ before' after', before'.Sublist before → after'.Sublist after →
        chosenIndex effective fallbacks (before' ++ v :: after') = some before'.length ∧
        choose effective fallbacks (before' ++ v :: after') = some v := by
  refine ⟨⟨fun hnone => ?_, fun htexts => ?_⟩, fun i => chosenIndex_eq_some_iff,
    choose_eq_bind effective fallbacks texts, fun v w hw => ⟨fun hv => ?_, fun hv => ?_⟩,
    fun kept hkept => ?_, ?_⟩
  · refine Classical.byContradiction fun htexts => ?_
    obtain ⟨before, v, after, -, hchoose, -⟩ := choose_split effective fallbacks htexts
    rw [hnone] at hchoose
    cases hchoose
  · rw [htexts]
    rfl
  · unfold place
    rw [List.idxOf_eq_length hw]
    exact List.idxOf_lt_length_of_mem hv
  · unfold place
    rw [List.idxOf_eq_length hw, List.idxOf_eq_length hv]
  · unfold chosenIndex choose
    rw [hkept.ranking_eq]
  · rintro before v after rfl hindex before' after' hbefore hafter
    have hearliest := (chosenIndex_eq_some_iff.1 hindex).sublist hbefore hafter
    have hindex' := chosenIndex_eq_some_iff.2 hearliest
    refine ⟨hindex', ?_⟩
    rw [choose_eq_bind, hindex']
    simp

/-- The effective language again as a fallback takes no place from the next one. -/
example :
    choose (.ofString "de") [.ofString "de", .ofString "fr"]
      [.plain "Plain", .tagged "Maison" "fr"] = some (.tagged "Maison" "fr") := by
  decide

end Nomenclator.Language
