import Nomenclator.Metrics
import Nomenclator.Proofs.Table

/-!
# What becomes of an event

A queue loses nothing behind anybody's back. Every event that is published is, at
any later time, in exactly one of four places: it is still pending, or it was handed
out once, or it was cleared away, or it was pushed out by a publication that found
the queue full. The last of these are counted, and no others.

A history keeps what a queue itself forgets: what was published, and where it went
when it was pending no longer. Nothing in it is taken from the definition of an
operation. An event counts as pushed out if it was pending before a publication and
is not afterwards, so that which one it is has to be proved.

One observation carries the order of everything: what was handed out, followed by
what is pending, is a part of what was published, in the order of publication.
Events only ever join at the end and leave at the front, and epochs grow along the
order of publication.
-/

namespace Nomenclator.Invalidation.Queue

/-! ## Histories -/

/-- What may be done with a queue. -/
inductive Operation where
  | publish (change : Change)
  | drain (limit : Nat)
  | clear
  | nextEpoch

/-- The change that an operation publishes. -/
def Operation.published? : Operation → Option Change
  | .publish change => some change
  | _ => none

/-- The operation draws an epoch. -/
def Operation.drawsEpoch : Operation → Bool
  | .publish _ | .nextEpoch => true
  | .drain _ | .clear => false

/-- The events of a first list that are not in a second one. -/
def missing (before after : List Event) : List Event :=
  before.filter fun e => e ∉ after

/-- A queue and what has become of its events. -/
structure History where
  queue : Queue
  /-- The events in the order of their publication. -/
  published : List Event
  /-- The events that were handed out, drain by drain. -/
  drained : List (List Event)
  cleared : List Event
  /-- The events that a publication pushed out. -/
  pushedOut : List Event

namespace History

/-- The history of a queue with which nothing has been done. -/
def start (limit : Nat) : History := ⟨.empty limit, [], [], [], []⟩

/-- A history after one more operation. -/
def after (h : History) : Operation → History
  | .publish change =>
      let q := h.queue.publish change
      { h with
        queue := q
        published := h.published ++ q.pending.getLast?.toList
        pushedOut := h.pushedOut ++ missing h.queue.pending q.pending }
  | .drain limit =>
      let (events, q) := h.queue.drain limit
      { h with queue := q, drained := h.drained ++ [events] }
  | .clear =>
      { h with queue := h.queue.clear, cleared := h.cleared ++ h.queue.pending }
  | .nextEpoch => { h with queue := h.queue.nextEpoch.2 }

/-- A history after a run of operations. -/
def run (h : History) (ops : List Operation) : History := ops.foldl after h

end History

/-! ## One operation -/

variable {q : Queue}

/-- The event that a publication adds. -/
def next (q : Queue) (change : Change) : Event := ⟨q.epoch, q.epoch, change⟩

theorem pending_publish (hlimit : 1 ≤ q.limit) (change : Change) :
    (q.publish change).pending =
      (if q.limit ≤ q.pending.length then q.pending.drop 1 else q.pending) ++
        [q.next change] := by
  have hfull : (decide (q.limit ≤ q.pending.length) && !q.pending.isEmpty) =
      decide (q.limit ≤ q.pending.length) := by
    cases hpending : q.pending with
    | nil =>
        have hless : ¬ q.limit ≤ ([] : List Event).length := by
          rw [List.length_nil]
          omega
        rw [decide_eq_false hless, Bool.false_and]
    | cons e rest => simp
  unfold publish nextEpoch
  dsimp only
  rw [hfull]
  simp only [decide_eq_true_eq]
  rfl

theorem dropped_publish (hlimit : 1 ≤ q.limit) (change : Change) :
    (q.publish change).dropped =
      if q.limit ≤ q.pending.length then q.dropped + 1 else q.dropped := by
  unfold publish nextEpoch
  dsimp only
  by_cases hfull : q.limit ≤ q.pending.length
  · have hsome : q.pending.isEmpty = false := by
      rw [List.isEmpty_eq_false_iff, ← List.length_pos_iff]
      omega
    rw [hsome, if_pos hfull, if_pos (by simpa using hfull)]
  · rw [if_neg hfull, if_neg (by simp [hfull])]

theorem missing_append (before added : List Event) :
    missing before (before ++ added) = [] := by
  rw [missing, List.filter_eq_nil_iff]
  intro e he
  simp [he]

theorem missing_tail {oldest e : Event} {rest : List Event} (hrest : oldest ∉ rest)
    (hother : oldest ≠ e) : missing (oldest :: rest) (rest ++ [e]) = [oldest] := by
  have hgone : oldest ∉ rest ++ [e] := by
    rw [List.mem_append, List.mem_singleton]
    rintro (h | h)
    · exact hrest h
    · exact hother h
  rw [missing, List.filter_cons, if_pos (by simpa using hgone)]
  exact congrArg (oldest :: ·) (missing_append rest [e])

/-- A publication that finds room pushes nothing out; one that does not pushes the
oldest event out and nothing else. -/
theorem missing_publish (hlimit : 1 ≤ q.limit)
    (hnew : ∀ e ∈ q.pending, e.epoch < q.epoch) (hnodup : q.pending.Nodup)
    (change : Change) :
    missing q.pending (q.publish change).pending =
      if q.limit ≤ q.pending.length then q.pending.take 1 else [] := by
  rw [pending_publish hlimit]
  split
  · next hfull =>
      cases hpending : q.pending with
      | nil => rfl
      | cons oldest rest =>
          rw [hpending] at hnew hnodup
          have hless : oldest.epoch < q.epoch := hnew oldest List.mem_cons_self
          have hother : oldest ≠ q.next change := by
            intro hsame
            rw [hsame] at hless
            exact Nat.lt_irrefl _ hless
          exact missing_tail (List.nodup_cons.1 hnodup).1 hother
  · exact missing_append q.pending _

namespace History

/-! ## What every history is like -/

variable {h : History}

/-- All that left the queue or is in it. -/
def accounted (h : History) : List Event :=
  h.drained.flatten ++ h.pushedOut ++ h.cleared ++ h.queue.pending

/-- What holds of a history whatever was done with its queue. -/
structure Sound (limit : Nat) (h : History) : Prop where
  limit : h.queue.limit = max limit 1
  bounded : h.queue.pending.length ≤ h.queue.limit
  ascending : h.published.Pairwise fun e e' => e.epoch < e'.epoch
  fresh : ∀ e ∈ h.published, e.epoch < h.queue.epoch
  ordered : (h.drained.flatten ++ h.queue.pending).Sublist h.published
  conserved : h.published.Perm h.accounted
  counted : h.queue.dropped = h.pushedOut.length

namespace Sound

variable {limit : Nat}

theorem start (limit : Nat) : (History.start limit).Sound limit where
  limit := rfl
  bounded := Nat.zero_le _
  ascending := List.Pairwise.nil
  fresh _ he := nomatch he
  ordered := List.Sublist.refl _
  conserved := List.Perm.refl _
  counted := rfl

theorem one_le (hh : h.Sound limit) : 1 ≤ h.queue.limit := by
  rw [hh.limit]
  exact Nat.le_max_right limit 1

theorem pending_sublist (hh : h.Sound limit) : h.queue.pending.Sublist h.published :=
  (List.sublist_append_right _ _).trans hh.ordered

theorem nodup (hh : h.Sound limit) : h.published.Nodup := by
  refine hh.ascending.imp ?_
  intro e e' hless hsame
  rw [hsame] at hless
  exact Nat.lt_irrefl _ hless

theorem missing_publish (hh : h.Sound limit) (change : Change) :
    missing h.queue.pending (h.queue.publish change).pending =
      if h.queue.limit ≤ h.queue.pending.length then h.queue.pending.take 1 else [] :=
  Queue.missing_publish hh.one_le
    (fun e he => hh.fresh e (hh.pending_sublist.subset he))
    (hh.nodup.sublist hh.pending_sublist) change

/-- A publication leaves out what is at the front, if anything, and adds its event at
the end. -/
theorem exists_publish (hh : h.Sound limit) (change : Change) :
    ∃ out kept, h.queue.pending = out ++ kept ∧ kept.length < h.queue.limit ∧
      (h.queue.publish change).pending = kept ++ [h.queue.next change] ∧
      (h.queue.publish change).dropped = h.queue.dropped + out.length ∧
      h.after (.publish change) =
        { h with
          queue := h.queue.publish change
          published := h.published ++ [h.queue.next change]
          pushedOut := h.pushedOut ++ out } := by
  have hone := hh.one_le
  have hbounded := hh.bounded
  have hpending := pending_publish hone change
  have hdropped := dropped_publish hone change
  have hmissing := hh.missing_publish change
  have hadded : (h.queue.publish change).pending.getLast?.toList = [h.queue.next change] := by
    rw [hpending, List.getLast?_append]
    rfl
  unfold History.after
  dsimp only
  rw [hadded]
  by_cases hfull : h.queue.limit ≤ h.queue.pending.length
  · rw [if_pos hfull] at hpending hdropped hmissing
    refine ⟨h.queue.pending.take 1, h.queue.pending.drop 1,
      (List.take_append_drop 1 _).symm, ?_, hpending, ?_, by rw [hmissing]⟩
    · rw [List.length_drop]
      omega
    · rw [hdropped, List.length_take, Nat.min_eq_left (by omega)]
  · rw [if_neg hfull] at hpending hdropped hmissing
    exact ⟨[], h.queue.pending, rfl, Nat.lt_of_not_le hfull, hpending, hdropped,
      by rw [hmissing]⟩

theorem publish (hh : h.Sound limit) (change : Change) :
    (h.after (.publish change)).Sound limit := by
  obtain ⟨out, kept, hsplit, hroom, hpending, hdropped, hafter⟩ := hh.exists_publish change
  rw [hafter]
  exact {
    limit := hh.limit
    bounded := by
      show (h.queue.publish change).pending.length ≤ h.queue.limit
      rw [hpending, List.length_append, List.length_singleton]
      omega
    ascending := by
      refine List.pairwise_append.2 ⟨hh.ascending, List.pairwise_singleton _ _, ?_⟩
      intro e he e' he'
      rw [List.mem_singleton.1 he']
      exact hh.fresh e he
    fresh := by
      intro e he
      show e.epoch < h.queue.epoch + 1
      rcases List.mem_append.1 he with he | he
      · exact Nat.lt_succ_of_lt (hh.fresh e he)
      · rw [List.mem_singleton.1 he]
        exact Nat.lt_succ_self _
    ordered := by
      have hkept : kept.Sublist h.queue.pending := by
        rw [hsplit]
        exact List.sublist_append_right _ _
      show (h.drained.flatten ++ (h.queue.publish change).pending).Sublist _
      rw [hpending, ← List.append_assoc]
      exact (((List.Sublist.refl _).append hkept).trans hh.ordered).append
        (List.Sublist.refl _)
    conserved := by
      show (h.published ++ [h.queue.next change]).Perm
        (h.drained.flatten ++ (h.pushedOut ++ out) ++ h.cleared ++
          (h.queue.publish change).pending)
      rw [hpending]
      refine List.perm_iff_count.2 fun e => ?_
      have hcount := hh.conserved.count_eq e
      unfold accounted at hcount
      rw [hsplit] at hcount
      simp only [List.count_append] at hcount ⊢
      omega
    counted := by
      show (h.queue.publish change).dropped = (h.pushedOut ++ out).length
      rw [hdropped, List.length_append, hh.counted] }

theorem drain (hh : h.Sound limit) (n : Nat) : (h.after (.drain n)).Sound limit where
  limit := hh.limit
  bounded := by
    have hbounded := hh.bounded
    show (h.queue.pending.drop n).length ≤ h.queue.limit
    rw [List.length_drop]
    omega
  ascending := hh.ascending
  fresh := hh.fresh
  ordered := by
    show ((h.drained ++ [h.queue.pending.take n]).flatten ++
      h.queue.pending.drop n).Sublist h.published
    rw [List.flatten_concat, List.append_assoc, List.take_append_drop]
    exact hh.ordered
  conserved := by
    show h.published.Perm ((h.drained ++ [h.queue.pending.take n]).flatten ++
      h.pushedOut ++ h.cleared ++ h.queue.pending.drop n)
    refine List.perm_iff_count.2 fun e => ?_
    have hcount := hh.conserved.count_eq e
    have hpending : h.queue.pending.count e =
        (h.queue.pending.take n).count e + (h.queue.pending.drop n).count e := by
      rw [← List.count_append, List.take_append_drop]
    unfold accounted at hcount
    rw [List.flatten_concat]
    simp only [List.count_append] at hcount ⊢
    omega
  counted := hh.counted

theorem clear (hh : h.Sound limit) : (h.after .clear).Sound limit where
  limit := hh.limit
  bounded := Nat.zero_le _
  ascending := hh.ascending
  fresh := hh.fresh
  ordered := by
    show (h.drained.flatten ++ []).Sublist h.published
    rw [List.append_nil]
    exact (List.sublist_append_left _ _).trans hh.ordered
  conserved := by
    show h.published.Perm (h.drained.flatten ++ h.pushedOut ++
      (h.cleared ++ h.queue.pending) ++ [])
    rw [List.append_nil, ← List.append_assoc]
    exact hh.conserved
  counted := hh.counted

theorem nextEpoch (hh : h.Sound limit) : (h.after .nextEpoch).Sound limit :=
  { hh with fresh := fun e he => Nat.lt_succ_of_lt (hh.fresh e he) }

theorem after (hh : h.Sound limit) (o : Operation) : (h.after o).Sound limit := by
  cases o with
  | publish change => exact hh.publish change
  | drain n => exact hh.drain n
  | clear => exact hh.clear
  | nextEpoch => exact hh.nextEpoch

theorem run (hh : h.Sound limit) (ops : List Operation) : (h.run ops).Sound limit := by
  induction ops generalizing h with
  | nil => exact hh
  | cons o ops ih => exact ih (hh.after o)

end Sound

theorem published_after (h : History) {limit : Nat} (hh : h.Sound limit) (o : Operation) :
    (h.after o).published.map (·.change) =
      h.published.map (·.change) ++ o.published?.toList := by
  cases o with
  | publish change =>
      show (h.published ++ (h.queue.publish change).pending.getLast?.toList).map _ = _
      rw [pending_publish hh.one_le, List.getLast?_append, List.map_append]
      rfl
  | drain n => exact (List.append_nil _).symm
  | clear => exact (List.append_nil _).symm
  | nextEpoch => exact (List.append_nil _).symm

theorem published_run {h : History} {limit : Nat} (hh : h.Sound limit)
    (ops : List Operation) :
    (h.run ops).published.map (·.change) =
      h.published.map (·.change) ++ ops.filterMap Operation.published? := by
  induction ops generalizing h with
  | nil => exact (List.append_nil _).symm
  | cons o ops ih =>
      have hstep := published_after h hh o
      rw [show h.run (o :: ops) = (h.after o).run ops from rfl, ih (hh.after o), hstep,
        List.append_assoc]
      cases hpublished : o.published? <;> simp [hpublished]

theorem epoch_after (h : History) (o : Operation) :
    (h.after o).queue.epoch = h.queue.epoch + [o].countP Operation.drawsEpoch := by
  cases o <;> rfl

theorem epoch_run (h : History) (ops : List Operation) :
    (h.run ops).queue.epoch = h.queue.epoch + ops.countP Operation.drawsEpoch := by
  induction ops generalizing h with
  | nil => rfl
  | cons o ops ih =>
      have hsplit : (o :: ops).countP Operation.drawsEpoch =
          [o].countP Operation.drawsEpoch + ops.countP Operation.drawsEpoch := by
        rw [← List.countP_append, List.singleton_append]
      rw [show h.run (o :: ops) = (h.after o).run ops from rfl, ih, epoch_after, hsplit,
        Nat.add_assoc]

/-! ## The count that is shown -/

/-- The series under which events that were pushed out are counted. -/
def droppedSeries : Metrics.Series := ⟨"glossa_invalidation_dropped_total", []⟩

theorem dropped_shown (r : Metrics.Reading) (q : Queue) (consumptions : Nat) :
    ((r.queue q consumptions).counts.get? droppedSeries) =
      some ((r.counts.get? droppedSeries).getD 0 + q.dropped) := by
  show Table.get? (Table.put _ _ (Table.put droppedSeries _ r.counts)) droppedSeries = _
  rw [Table.get?_put, Table.get?_put, if_neg (by decide), if_pos BEq.rfl]
  rfl

/-- What a history shows that began with an empty queue, after some operations. -/
structure Accounts (limit : Nat) (ops : List Operation) (h : History) : Prop where
  bounded : h.queue.pending.length ≤ max limit 1
  /-- What was published is what the operations were told to publish. -/
  told : h.published.map (·.change) = ops.filterMap Operation.published?
  ascending : h.published.Pairwise fun e e' => e.epoch < e'.epoch
  /-- As long as the drawn epochs can be counted, they can be told apart. -/
  drawn : ∀ e ∈ h.published, e.epoch < ops.countP Operation.drawsEpoch
  /-- What was handed out and what is pending stand in the order of publication: each
  drain in itself, one drain behind the other, and what is pending behind them all. -/
  ordered : (h.drained.flatten ++ h.queue.pending).Sublist h.published
  later : (h.drained.flatten ++ h.queue.pending).Pairwise fun e e' => e.epoch < e'.epoch
  /-- Every published event is in one place, and in no place twice. -/
  conserved : h.published.Perm
    (h.drained.flatten ++ h.pushedOut ++ h.cleared ++ h.queue.pending)
  once : (h.drained.flatten ++ h.pushedOut ++ h.cleared ++ h.queue.pending).Nodup
  /-- The metric grows by what was pushed out. -/
  counted : ∀ (r : Metrics.Reading) consumptions,
    (r.queue h.queue consumptions).counts.get? droppedSeries =
      some ((r.counts.get? droppedSeries).getD 0 + h.pushedOut.length)
  /-- One more publication takes nothing from the queue but, if it is full, the oldest
  event. -/
  publishing : ∀ change, missing h.queue.pending (h.queue.publish change).pending =
    if max limit 1 ≤ h.queue.pending.length then h.queue.pending.take 1 else []
  /-- One more drain splits the queue behind so many events, or behind all. -/
  draining : ∀ n, (h.queue.drain n).1 ++ (h.queue.drain n).2.pending = h.queue.pending ∧
    (h.queue.drain n).1.length = min n h.queue.pending.length

/-- Whatever is done with a queue, no event is lost from sight. -/
theorem run_accounts (limit : Nat) (ops : List Operation) :
    ((start limit).run ops).Accounts limit ops := by
  have hh : ((start limit).run ops).Sound limit := (Sound.start limit).run ops
  have hepoch : ((start limit).run ops).queue.epoch = ops.countP Operation.drawsEpoch := by
    rw [epoch_run]
    exact Nat.zero_add _
  exact {
    bounded := hh.limit ▸ hh.bounded
    told := published_run (Sound.start limit) ops
    ascending := hh.ascending
    drawn := fun e he => hepoch ▸ hh.fresh e he
    ordered := hh.ordered
    later := hh.ascending.sublist hh.ordered
    conserved := hh.conserved
    once := hh.conserved.nodup_iff.1 hh.nodup
    counted := fun r consumptions => by rw [dropped_shown, hh.counted]
    publishing := fun change => by rw [hh.missing_publish change, hh.limit]
    draining := fun n => ⟨List.take_append_drop n _, List.length_take⟩ }

end History

end Nomenclator.Invalidation.Queue
