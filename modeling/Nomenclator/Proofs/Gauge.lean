import Mathlib.Data.List.Induction
import Nomenclator.Proofs.Accounting

/-!
# The length that is shown

The metrics do not ask a queue for its length. They show the number that was reported
last, and whoever changes the queue has to report. A publication does, whether it finds
room or not, and so does a drain, whether it finds events or not. To clear the queue is
silent.

What is shown is therefore the number of events that were pending after the last
publication or drain. Since then they can only have become fewer, all at once: clearing
takes everything, and nothing else without a report takes or adds anything. So the
number is right as long as no clear has found an event since, and wrong from the first
one that does until the next report. The bound between the two numbers is what makes
this an equivalence: a shown zero stays right.
-/

namespace Nomenclator.Invalidation.Queue

/-- The series under which the length is shown. -/
def lengthSeries : Metrics.Series := ⟨"glossa_invalidation_queue_len", []⟩

/-- The number is all that is ever shown as the length of a queue. -/
def Shows (q : Queue) (n : Nat) : Prop :=
  ∀ consumptions earlier m,
    (lengthSeries, m) ∈ (Metrics.Reading.empty.queue q consumptions).shownSince earlier ↔
      m = n

theorem shows_iff {q : Queue} {n : Nat} : q.Shows n ↔ q.gauge = some n := by
  have hshown : ∀ consumptions earlier m,
      (lengthSeries, m) ∈ (Metrics.Reading.empty.queue q consumptions).shownSince earlier ↔
        q.gauge = some m := by
    intro consumptions earlier m
    -- The counts of the reading stand under other names.
    have hcounts : (lengthSeries, m) ∉
        (Metrics.Reading.empty.queue q consumptions).since earlier := by
      unfold Metrics.Reading.since
      rw [List.mem_filterMap]
      rintro ⟨e, he, heq⟩
      dsimp only at heq
      split at heq
      · cases heq
      · have hseries : e.1 = lengthSeries := congrArg Prod.fst (Option.some.inj heq)
        have hother : ∀ e ∈ (Metrics.Reading.empty.queue q consumptions).counts,
            e.1 ≠ lengthSeries := by
          simp [Metrics.Reading.queue, Metrics.Reading.count, Metrics.Reading.empty,
            Table.put, lengthSeries]
        exact hother e he hseries
    unfold Metrics.Reading.shownSince
    rw [List.mem_mergeSort, List.mem_append, or_iff_right hcounts, Option.mem_toList]
    show _ ∈ q.gauge.map _ ↔ _
    rw [Option.mem_def, Option.map_eq_some_iff]
    constructor
    · rintro ⟨a, ha, heq⟩
      obtain rfl : a = m := congrArg Prod.snd heq
      exact ha
    · exact fun h => ⟨m, h, rfl⟩
  constructor
  · intro h
    exact (hshown 0 .empty n).1 ((h 0 .empty n).2 rfl)
  · intro h consumptions earlier m
    rw [hshown, h, Option.some.injEq]
    exact eq_comm

/-- The operation reports the length. -/
def Operation.reports : Operation → Bool
  | .publish _ | .drain _ => true
  | .clear | .nextEpoch => false

namespace History

variable {h : History} {ops : List Operation}

theorem run_snoc (h : History) (ops : List Operation) (o : Operation) :
    h.run (ops ++ [o]) = (h.run ops).after o := by
  unfold run
  rw [List.foldl_append]
  rfl

/-- A report is right when it is made. -/
theorem gauge_of_reports (h : History) {o : Operation} (ho : o.reports = true) :
    (h.after o).queue.gauge = some (h.after o).queue.length := by
  cases o with
  | publish change => rfl
  | drain limit => rfl
  | clear => cases ho
  | nextEpoch => cases ho

/-- Without a report the shown number stays, and events only go. -/
theorem quiet_after (h : History) {o : Operation} (ho : o.reports = false) :
    (h.after o).queue.gauge = h.queue.gauge ∧
      (h.after o).queue.length ≤ h.queue.length := by
  cases o with
  | publish change => cases ho
  | drain limit => cases ho
  | clear => exact ⟨rfl, Nat.zero_le _⟩
  | nextEpoch => exact ⟨rfl, Nat.le_refl _⟩

/-- There are never more events pending than are shown. -/
theorem length_le_of_gauge (limit : Nat) (ops : List Operation) {n : Nat}
    (hn : ((start limit).run ops).queue.gauge = some n) :
    ((start limit).run ops).queue.length ≤ n := by
  induction ops using List.reverseRecOn generalizing n with
  | nil => cases hn
  | append_singleton ops o ih =>
      rw [run_snoc] at hn ⊢
      cases ho : o.reports with
      | true =>
          rw [gauge_of_reports _ ho] at hn
          exact Nat.le_of_eq (Option.some.inj hn)
      | false =>
          obtain ⟨hgauge, hless⟩ := ((start limit).run ops).quiet_after ho
          exact Nat.le_trans hless (ih (hgauge ▸ hn))

/-- Every clear of a run found nothing pending, or was followed by a report. -/
def Reported (limit : Nat) (ops : List Operation) : Prop :=
  ∀ before after, ops = before ++ .clear :: after →
    ((start limit).run before).queue.pending = [] ∨ ∃ o ∈ after, o.reports = true

theorem reported_of_reports (limit : Nat) (ops : List Operation) {o : Operation}
    (ho : o.reports = true) : Reported limit (ops ++ [o]) := by
  intro before after hsplit
  right
  rcases List.eq_nil_or_concat after with rfl | ⟨after, o', rfl⟩
  · have hlast := (List.append_inj' hsplit rfl).2
    rw [← List.singleton_inj.1 hlast.symm] at ho
    cases ho
  · have hlast : [o] = [o'] := by
      rw [List.concat_eq_append, ← List.cons_append, ← List.append_assoc] at hsplit
      exact (List.append_inj' hsplit rfl).2
    obtain rfl := List.singleton_inj.1 hlast
    exact ⟨o, by simp, ho⟩

theorem reported_snoc_of_quiet (limit : Nat) (ops : List Operation) {o : Operation}
    (ho : o.reports = false) :
    Reported limit (ops ++ [o]) ↔ Reported limit ops ∧
      (o = .clear → ((start limit).run ops).queue.pending = []) := by
  constructor
  · intro h
    refine ⟨fun before after hsplit => ?_, ?_⟩
    · rcases h before (after ++ [o]) (by simp [hsplit]) with hnone | ⟨x, hx, hreports⟩
      · exact .inl hnone
      · rcases List.mem_append.1 hx with hx | hx
        · exact .inr ⟨x, hx, hreports⟩
        · rw [List.mem_singleton.1 hx, ho] at hreports
          cases hreports
    · rintro rfl
      rcases h ops [] rfl with hnone | ⟨x, hx, -⟩
      · exact hnone
      · cases hx
  · rintro ⟨hops, hclear⟩ before after hsplit
    rcases List.eq_nil_or_concat after with rfl | ⟨after, o', rfl⟩
    · obtain ⟨rfl, hlast⟩ := List.append_inj' hsplit rfl
      exact .inl (hclear (List.singleton_inj.1 hlast))
    · rw [List.concat_eq_append, ← List.cons_append, ← List.append_assoc] at hsplit
      obtain ⟨rfl, -⟩ := List.append_inj' hsplit rfl
      refine (hops before after rfl).imp_right fun ⟨x, hx, hreports⟩ => ⟨x, ?_, hreports⟩
      rw [List.concat_eq_append]
      exact List.mem_append_left _ hx

/-- Whatever is done with a queue: the length that is shown is the number of pending
events if and only if a length was ever reported, and every clear that found events was
followed by a publication or a drain. -/
theorem run_shows_length (limit : Nat) (ops : List Operation) :
    ((start limit).run ops).queue.Shows ((start limit).run ops).queue.length ↔
      (∃ o ∈ ops, o.reports = true) ∧
        ∀ before after, ops = before ++ .clear :: after →
          ((start limit).run before).queue.pending = [] ∨
            ∃ o ∈ after, o.reports = true := by
  show _ ↔ _ ∧ Reported limit ops
  rw [shows_iff]
  induction ops using List.reverseRecOn with
  | nil => exact ⟨nofun, fun h => nomatch h.1⟩
  | append_singleton ops o ih =>
      rw [run_snoc]
      cases ho : o.reports with
      | true =>
          have hnow := ((start limit).run ops).gauge_of_reports ho
          exact ⟨fun _ => ⟨⟨o, by simp, ho⟩, reported_of_reports limit ops ho⟩,
            fun _ => hnow⟩
      | false =>
          have hany : (∃ x ∈ ops ++ [o], x.reports = true) ↔
              ∃ x ∈ ops, x.reports = true := by
            simp [or_and_right, exists_or, ho]
          rw [hany, reported_snoc_of_quiet limit ops ho, ← and_assoc, ← ih]
          cases o with
          | publish change => cases ho
          | drain limit => cases ho
          | nextEpoch => exact ⟨fun h => ⟨h, nofun⟩, And.left⟩
          | clear =>
              show ((start limit).run ops).queue.gauge = some 0 ↔ _
              constructor
              · intro hzero
                have hless := length_le_of_gauge limit ops hzero
                have hnone := List.length_eq_zero_iff.1 (Nat.le_zero.1 hless)
                refine ⟨?_, fun _ => hnone⟩
                rw [hzero, Queue.length, hnone]
                rfl
              · rintro ⟨hgauge, hnone⟩
                rw [hgauge, Queue.length, hnone rfl]
                rfl

/-- An event is published and cleared away, and is shown as pending from then on. -/
theorem clear_keeps_length_shown :
    let q := ((start 8).run [.publish .reload, .clear]).queue
    q.length = 0 ∧ q.Shows 1 ∧ ¬ q.Shows q.length := by
  intro q
  have hone : q.Shows 1 := shows_iff.2 rfl
  refine ⟨rfl, hone, fun hzero => ?_⟩
  have hgauge : q.gauge = some 0 := shows_iff.1 hzero
  cases hgauge

end History

end Nomenclator.Invalidation.Queue
