import Mathlib.Data.List.Forall2
import Mathlib.Order.Bounds.Basic
import Nomenclator.Batch.Schedule

/-!
# Every piece of work starts as soon as it may

The pool keeps a list of times at which its workers will be free, and hands each piece
of work to the one that is free first. What is promised is said without workers: a piece
of work starts at the first moment at which all those in front of it have started and
fewer of them than there are workers are unfinished. Its place in line and the slots in
front of it decide everything, so the promise has one schedule that keeps it.

The list of free times forgets the work that a later one has followed on the same
worker. That is no loss: such work is done by the time the next piece can start, and
from then on the free times count the unfinished work exactly.

From the promise follows how many pieces are at work at once, that they start in order,
and that a larger pool is never later. The last needs no look at which worker does what:
the start of a piece on the smaller pool is open on the larger one too, since every piece
in front of it is at least as far there.
-/

namespace Nomenclator.Batch.Schedule

/-! ## The promise -/

/-- How much of some work is not finished at a moment. -/
def unfinished (slots : List Slot) (t : Nat) : Nat := slots.countP fun e => t < e.finish

/-- A moment at which work can start behind some other: all of that has started, and it
does not keep every worker. -/
structure Open (workers : Nat) (earlier : List Slot) (t : Nat) : Prop where
  begun : ∀ e ∈ earlier, e.start ≤ t
  free : unfinished earlier t < workers

/-- The slots of some work in line, each of which starts at the first open moment and
lasts as long as its work does. -/
inductive Prompt (workers : Nat) : List Nat → List Slot → Prop
  | nil : Prompt workers [] []
  | snoc {durations : List Nat} {slots : List Slot} {d : Nat} {s : Slot} :
      Prompt workers durations slots → IsLeast {t | Open workers slots t} s.start →
      s.finish = s.start + d → Prompt workers (durations ++ [d]) (slots ++ [s])

theorem unfinished_snoc (slots : List Slot) (s : Slot) (t : Nat) :
    unfinished (slots ++ [s]) t =
      unfinished slots t + if t < s.finish then 1 else 0 := by
  unfold unfinished
  rw [List.countP_append, List.countP_singleton]
  simp only [decide_eq_true_eq]

theorem activeAt_snoc (slots : List Slot) (s : Slot) (t : Nat) :
    activeAt (slots ++ [s]) t =
      activeAt slots t + if s.start ≤ t ∧ t < s.finish then 1 else 0 := by
  unfold activeAt
  rw [← List.countP_eq_length_filter, ← List.countP_eq_length_filter, List.countP_append,
    List.countP_singleton]
  simp only [Bool.and_eq_true, decide_eq_true_eq]

/-! ## The times at which workers are free -/

/-- When the next piece of work starts, given when the workers in use will be free. -/
def next (workers : Nat) (busy : List Nat) : Nat :=
  if busy.length < workers then 0 else busy.headD 0

/-- The workers that stay in use when the next piece of work starts. -/
def kept (workers : Nat) (busy : List Nat) : List Nat :=
  if busy.length < workers then busy else busy.tail

/-- Either a worker has not been in use yet, or the one that is free first takes over. -/
theorem next_kept {workers : Nat} (hw : 0 < workers) (busy : List Nat) :
    (busy.length < workers ∧ next workers busy = 0 ∧ kept workers busy = busy) ∨
      ∃ free later, busy = free :: later ∧ workers ≤ later.length + 1 ∧
        next workers busy = free ∧ kept workers busy = later := by
  unfold next kept
  by_cases hroom : busy.length < workers
  · rw [if_pos hroom, if_pos hroom]
    exact .inl ⟨hroom, rfl, rfl⟩
  · rw [if_neg hroom, if_neg hroom]
    cases busy with
    | nil => exact absurd hw hroom
    | cons free later => exact .inr ⟨free, later, rfl, Nat.le_of_not_lt hroom, rfl, rfl⟩

theorem assign_cons {workers : Nat} (hw : 0 < workers) (busy : List Nat) (d : Nat)
    (durations : List Nat) :
    assign workers busy (d :: durations) =
      ⟨next workers busy, next workers busy + d⟩ ::
        assign workers (insertTime (next workers busy + d) (kept workers busy))
          durations := by
  rw [assign.eq_def]
  rcases next_kept hw busy with ⟨hroom, hnext, hkept⟩ | ⟨free, later, rfl, hfull, hnext, hkept⟩
  · simp only [if_pos hroom, hnext, hkept, Nat.zero_add]
  · simp only [if_neg (Nat.not_lt.2 hfull), List.length_cons, hnext, hkept]

theorem le_next {workers t : Nat} {busy : List Nat} (hfull : workers ≤ busy.length)
    (hw : 0 < workers) (h : ∀ u ∈ busy, t ≤ u) : t ≤ next workers busy := by
  rcases next_kept hw busy with ⟨hroom, -, -⟩ | ⟨free, later, rfl, -, hnext, -⟩
  · omega
  · rw [hnext]
    exact h free List.mem_cons_self

theorem insertTime_perm (t : Nat) (times : List Nat) :
    (insertTime t times).Perm (t :: times) := by
  induction times with
  | nil => exact .refl _
  | cons u times ih =>
      unfold insertTime
      split
      · exact .refl _
      · exact (ih.cons u).trans (.swap t u times)

theorem insertTime_sorted (t : Nat) {times : List Nat} (h : times.Pairwise (· ≤ ·)) :
    (insertTime t times).Pairwise (· ≤ ·) := by
  induction times with
  | nil => exact List.pairwise_singleton _ _
  | cons u times ih =>
      obtain ⟨hu, htimes⟩ := List.pairwise_cons.1 h
      unfold insertTime
      split
      · next htu =>
          refine List.pairwise_cons.2 ⟨fun v hv => ?_, h⟩
          rcases List.mem_cons.1 hv with rfl | hv
          · exact htu
          · exact Nat.le_trans htu (hu v hv)
      · next htu =>
          refine List.pairwise_cons.2 ⟨fun v hv => ?_, ih htimes⟩
          rcases List.mem_cons.1 ((insertTime_perm t times).mem_iff.1 hv) with rfl | hv
          · omega
          · exact hu v hv

/-- How many of some times are still to come. -/
def pending (times : List Nat) (t : Nat) : Nat := times.countP fun u => t < u

theorem pending_cons (t u : Nat) (times : List Nat) :
    pending (u :: times) t = pending times t + if t < u then 1 else 0 := by
  unfold pending
  rw [List.countP_cons]
  simp only [decide_eq_true_eq]

theorem pending_insertTime (t u : Nat) (times : List Nat) :
    pending (insertTime u times) t = pending times t + if t < u then 1 else 0 := by
  rw [← pending_cons]
  exact (insertTime_perm u times).countP_eq _

/-- What the free times tell about the work so far: it has all started when the next
piece does, and they count what is unfinished from then on. Before, they may count too
little, but never too much. -/
structure Covers (workers : Nat) (busy : List Nat) (slots : List Slot) : Prop where
  sorted : busy.Pairwise (· ≤ ·)
  bounded : busy.length ≤ workers
  begun : ∀ e ∈ slots, e.start ≤ next workers busy
  exact : ∀ t, next workers busy ≤ t → unfinished slots t = pending busy t
  below : ∀ t, pending busy t ≤ unfinished slots t

theorem covers_nil {workers : Nat} : Covers workers [] [] where
  sorted := .nil
  bounded := Nat.zero_le _
  begun := fun _ he => absurd he List.not_mem_nil
  exact := fun _ _ => rfl
  below := fun _ => Nat.le_refl _

namespace Covers

variable {workers : Nat} {busy : List Nat} {slots : List Slot}

/-- The moment at which the pool starts the next piece of work is the first open one. -/
theorem isLeast_next (hw : 0 < workers) (h : Covers workers busy slots) :
    IsLeast {t | Open workers slots t} (next workers busy) := by
  have hcount := h.exact _ (Nat.le_refl _)
  rcases next_kept hw busy with ⟨hroom, hnext, -⟩ | ⟨free, later, rfl, hfull, hnext, -⟩
  · refine ⟨⟨h.begun, ?_⟩, fun t _ => hnext ▸ Nat.zero_le t⟩
    rw [hcount]
    exact Nat.lt_of_le_of_lt List.countP_le_length hroom
  · have hsorted := (List.pairwise_cons.1 h.sorted).1
    have hbounded : later.length + 1 ≤ workers := h.bounded
    refine ⟨⟨h.begun, ?_⟩, fun t ht => ?_⟩
    · -- The worker that is free by then is not counted.
      have hlater : pending (free :: later) free ≤ later.length := by
        unfold pending
        rw [List.countP_cons_of_neg (by simp)]
        exact List.countP_le_length
      rw [hnext] at hcount ⊢
      omega
    · -- Before that moment every worker is in use.
      rw [hnext]
      refine Nat.le_of_not_lt fun hearly => ?_
      have hall : pending (free :: later) t = later.length + 1 := by
        refine List.countP_eq_length.2 fun u hu => ?_
        rcases List.mem_cons.1 hu with rfl | hu
        · simpa using hearly
        · simpa using Nat.lt_of_lt_of_le hearly (hsorted u hu)
      have hbelow := h.below t
      have hopen := ht.free
      omega

/-- After the next piece of work has been given a slot. -/
theorem advance (hw : 0 < workers) (h : Covers workers busy slots) (d : Nat) :
    Covers workers (insertTime (next workers busy + d) (kept workers busy))
      (slots ++ [⟨next workers busy, next workers busy + d⟩]) := by
  have hbegun := h.begun
  rcases next_kept hw busy with ⟨hroom, hnext, hkept⟩ | ⟨free, later, rfl, hfull, hnext, hkept⟩
  · rw [hnext] at hbegun
    rw [hnext, hkept]
    have hlength := (insertTime_perm (0 + d) busy).length_eq
    refine ⟨insertTime_sorted _ h.sorted, ?_, fun e he => ?_, fun t _ => ?_, fun t => ?_⟩
    · rw [hlength]
      exact hroom
    · refine Nat.le_trans (Nat.le_of_eq ?_) (Nat.zero_le _)
      rcases List.mem_append.1 he with he | he
      · exact Nat.le_zero.1 (hbegun e he)
      · rw [List.mem_singleton.1 he]
    · rw [unfinished_snoc, pending_insertTime, h.exact t (by omega)]
    · rw [unfinished_snoc, pending_insertTime]
      exact Nat.add_le_add_right (h.below t) _
  · obtain ⟨hleast, hlater⟩ := List.pairwise_cons.1 h.sorted
    have hbounded := h.bounded
    have hlength := (insertTime_perm (free + d) later).length_eq
    have hbelow := h.below
    have hexact := h.exact
    rw [hnext] at hbegun hexact
    rw [hnext, hkept]
    have hlonger : free ≤ next workers (insertTime (free + d) later) := by
      refine le_next (by rw [hlength]; exact hfull) hw fun u hu => ?_
      rcases List.mem_cons.1 ((insertTime_perm _ _).mem_iff.1 hu) with rfl | hu
      · exact Nat.le_add_right _ _
      · exact hleast u hu
    refine ⟨insertTime_sorted _ hlater, ?_, fun e he => ?_, fun t ht => ?_, fun t => ?_⟩
    · rw [hlength]
      exact hbounded
    · refine Nat.le_trans ?_ hlonger
      rcases List.mem_append.1 he with he | he
      · exact hbegun e he
      · rw [List.mem_singleton.1 he]
    · have hpast : ¬ t < free := Nat.not_lt.2 (Nat.le_trans hlonger ht)
      rw [unfinished_snoc, pending_insertTime, hexact t (Nat.le_trans hlonger ht),
        pending_cons, if_neg hpast, Nat.add_zero]
    · have hcons := pending_cons t free later
      rw [unfinished_snoc, pending_insertTime]
      exact Nat.add_le_add_right (by have := hbelow t; omega) _

end Covers

/-! ## The pool keeps the promise -/

theorem prompt_assign {workers : Nat} (hw : 0 < workers) (durations : List Nat)
    {past : List Nat} {slots : List Slot} {busy : List Nat}
    (hpast : Prompt workers past slots) (h : Covers workers busy slots) :
    Prompt workers (past ++ durations) (slots ++ assign workers busy durations) := by
  induction durations generalizing past slots busy with
  | nil =>
      rw [assign, List.append_nil, List.append_nil]
      exact hpast
  | cons d durations ih =>
      rw [assign_cons hw, List.append_cons, List.append_cons slots]
      exact ih (.snoc hpast (h.isLeast_next hw) rfl) (h.advance hw d)

/-- Pieces of work get the slots they are promised. -/
theorem greedy_prompt (workers : Nat) (durations : List Nat) :
    Prompt (max workers 1) durations (greedy workers durations) :=
  prompt_assign (by omega) durations .nil covers_nil

/-- A single piece of work starts at once. -/
theorem greedy_singleton (workers d : Nat) : greedy workers [d] = [⟨0, d⟩] := by
  have hroom : ([] : List Nat).length < max workers 1 := by
    rw [List.length_nil]
    omega
  unfold greedy
  rw [assign.eq_def]
  simp only [if_pos hroom]
  rfl

/-! ## What the promise entails -/

namespace Prompt

variable {workers : Nat} {durations : List Nat} {slots : List Slot}

theorem length_eq (h : Prompt workers durations slots) :
    slots.length = durations.length := by
  induction h with
  | nil => rfl
  | snoc _ _ _ ih => rw [List.length_append, List.length_append, ih]; rfl

/-- Work starts in the order in which it stands in line. -/
theorem ordered (h : Prompt workers durations slots) :
    (slots.map Slot.start).Pairwise (· ≤ ·) := by
  induction h with
  | nil => exact .nil
  | snoc _ hleast _ ih =>
      rw [List.map_append, List.pairwise_append]
      refine ⟨ih, List.pairwise_singleton _ _, fun t ht u hu => ?_⟩
      obtain ⟨e, he, rfl⟩ := List.mem_map.1 ht
      rw [List.mem_singleton.1 hu]
      exact hleast.1.begun e he

/-- No more is at work at any moment than there are workers. -/
theorem activeAt_le (h : Prompt workers durations slots) (t : Nat) :
    activeAt slots t ≤ workers := by
  induction h with
  | nil => exact Nat.zero_le _
  | @snoc _ slots _ s _ hleast _ ih =>
      rw [activeAt_snoc]
      by_cases hs : s.start ≤ t ∧ t < s.finish
      · -- What is at work beside the last piece was unfinished when that started.
        have hbeside : activeAt slots t ≤ unfinished slots s.start := by
          unfold activeAt unfinished
          rw [← List.countP_eq_length_filter]
          refine List.countP_mono_left fun e _ he => ?_
          simp only [Bool.and_eq_true, decide_eq_true_eq] at he ⊢
          omega
        have hfree := hleast.1.free
        rw [if_pos hs]
        omega
      · rw [if_neg hs]
        exact ih

/-- The last piece of work got its slot behind the others. -/
theorem exists_of_snoc {d : Nat} (h : Prompt workers (durations ++ [d]) slots) :
    ∃ front s, slots = front ++ [s] ∧ Prompt workers durations front ∧
      IsLeast {t | Open workers front t} s.start ∧ s.finish = s.start + d := by
  generalize hline : durations ++ [d] = line at h
  cases h with
  | nil => exact absurd hline (by simp)
  | snoc hfront hleast hlasts =>
      obtain ⟨rfl, hd⟩ := List.append_inj' hline rfl
      obtain rfl : d = _ := by simpa using hd
      exact ⟨_, _, rfl, hfront, hleast, hlasts⟩

/-- Only one schedule keeps the promise. -/
theorem unique (h : Prompt workers durations slots) {slots' : List Slot}
    (h' : Prompt workers durations slots') : slots = slots' := by
  induction h generalizing slots' with
  | nil => exact (List.length_eq_zero_iff.1 h'.length_eq).symm
  | @snoc _ _ _ s _ hleast hlasts ih =>
      obtain ⟨front, s', rfl, hfront, hleast', hlasts'⟩ := h'.exists_of_snoc
      obtain rfl := ih hfront
      have hstart : s.start = s'.start := hleast.unique hleast'
      have hsame : s = s' := by
        rw [Slot.mk.injEq]
        exact ⟨hstart, by omega⟩
      rw [hsame]

end Prompt

/-- The promise says all there is to say about the slots that the pool hands out. -/
theorem prompt_iff {workers : Nat} {durations : List Nat} {slots : List Slot} :
    Prompt (max workers 1) durations slots ↔ slots = greedy workers durations := by
  constructor
  · exact fun h => h.unique (greedy_prompt workers durations)
  · rintro rfl
    exact greedy_prompt workers durations

/-! ## Larger pools -/

/-- A slot that neither starts nor ends after another. -/
structure NoLater (s s' : Slot) : Prop where
  start : s.start ≤ s'.start
  finish : s.finish ≤ s'.finish

theorem unfinished_le {slots slots' : List Slot} (h : List.Forall₂ NoLater slots slots')
    (t : Nat) : unfinished slots t ≤ unfinished slots' t := by
  induction h with
  | nil => exact Nat.le_refl _
  | @cons s s' slots slots' hs _ ih =>
      have hfinish := hs.finish
      unfold unfinished at ih ⊢
      rw [List.countP_cons, List.countP_cons]
      simp only [decide_eq_true_eq]
      split <;> split <;> omega

theorem forall_of_noLater {p : Slot → Prop} (hp : ∀ s s', NoLater s s' → p s' → p s)
    {slots slots' : List Slot} (h : List.Forall₂ NoLater slots slots')
    (hall : ∀ s ∈ slots', p s) : ∀ s ∈ slots, p s := by
  induction h with
  | nil => exact hall
  | cons hs _ ih =>
      obtain ⟨hhead, htail⟩ := List.forall_mem_cons.1 hall
      exact List.forall_mem_cons.2 ⟨hp _ _ hs hhead, ih htail⟩

/-- A moment that is open stays so with more workers and with earlier slots in front. -/
theorem Open.mono {workers workers' t : Nat} {slots slots' : List Slot}
    (hworkers : workers' ≤ workers) (h : List.Forall₂ NoLater slots slots')
    (hopen : Open workers' slots' t) : Open workers slots t where
  begun := forall_of_noLater (fun _ _ hs => Nat.le_trans hs.start) h hopen.begun
  free := Nat.lt_of_le_of_lt (unfinished_le h t) (Nat.lt_of_lt_of_le hopen.free hworkers)

/-- Nothing starts or ends later when there are more workers. -/
theorem Prompt.noLater {workers workers' : Nat} (hworkers : workers' ≤ workers)
    {durations : List Nat} {slots slots' : List Slot} (h : Prompt workers durations slots)
    (h' : Prompt workers' durations slots') : List.Forall₂ NoLater slots slots' := by
  induction h generalizing slots' with
  | nil =>
      rw [List.length_eq_zero_iff.1 h'.length_eq]
      exact .nil
  | snoc _ hleast hlasts ih =>
      obtain ⟨front, s, rfl, hfront, hleast', hlasts'⟩ := h'.exists_of_snoc
      have hearlier := ih hfront
      have hstart := hleast.2 (hleast'.1.mono hworkers hearlier)
      exact List.rel_append hearlier (.cons ⟨hstart, by omega⟩ .nil)

theorem greedy_noLater {workers workers' : Nat} (h : workers' ≤ workers)
    (durations : List Nat) :
    List.Forall₂ NoLater (greedy workers durations) (greedy workers' durations) :=
  (greedy_prompt workers durations).noLater (by omega) (greedy_prompt workers' durations)

end Nomenclator.Batch.Schedule
