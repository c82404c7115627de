import Nomenclator.Proofs.Joining

/-!
# All in time, or nothing

A run on a pool ends in one of three ways. A batch fails before the timeout: then the
run fails as the first of these does. No batch fails until then, but some are not done:
then the run fails with the timeout. Otherwise all batches are done and none has failed,
and the run has every answer. Which of the three it is depends on nothing but the
finish times, because the loop takes the outcomes in the order in which they come and
the timeout cuts that order at one place.

More workers move no finish time to the right, and a longer timeout only moves the
cut. So the third way stays the third way, as long as there are not more workers than
a pool can have. The answers may come in another order then, and where two batches
answer one key differently that can be seen; otherwise the table is the same.
-/

namespace Nomenclator.Batch

variable {κ ν : Type}

/-! ## How a run ends -/

/-- A job fails in this way before the timeout, and no job that fails is done before. -/
def FailsFirst (timeout : Nat) (jobs : List (Job κ ν)) (e : ResolveError) : Prop :=
  ∃ j ∈ jobs, j.outcome = .error e ∧ j.slot.finish < timeout ∧
    ∀ i ∈ jobs, i.failed = true → j.slot.finish ≤ i.slot.finish

/-- No job fails before the timeout. -/
def Unfailing (timeout : Nat) (jobs : List (Job κ ν)) : Prop :=
  ∀ j ∈ jobs, j.failed = true → timeout ≤ j.slot.finish

/-- A table has a value for every key that some entries answer, and only values that they
have for it. -/
structure Gathers [BEq κ] (entries t : Table κ ν) : Prop where
  all : ∀ e ∈ entries, t.has e.1 = true
  only : ∀ k v, t.get? k = some v → ∃ e ∈ entries, (e.1 == k) = true ∧ e.2 = v

theorem Job.failed_iff {j : Job κ ν} : j.failed = true ↔ ∃ e, j.outcome = .error e := by
  unfold Job.failed
  cases j.outcome <;> simp

theorem Job.not_failed_iff {j : Job κ ν} : j.failed = false ↔ ∃ t, j.outcome = .ok t := by
  unfold Job.failed
  cases j.outcome <;> simp

theorem failureOf?_eq_some {outcome : Except ResolveError (Table κ ν)} {e : ResolveError} :
    failureOf? outcome = some e ↔ outcome = .error e := by
  cases outcome <;> simp [failureOf?]

theorem FailsFirst.exists_failed {timeout : Nat} {jobs : List (Job κ ν)} {e : ResolveError}
    (h : FailsFirst timeout jobs e) :
    ∃ j ∈ jobs, j.failed = true ∧ j.slot.finish < timeout := by
  obtain ⟨j, hj, houtcome, hintime, -⟩ := h
  exact ⟨j, hj, Job.failed_iff.2 ⟨e, houtcome⟩, hintime⟩

theorem FailsFirst.not_unfailing {timeout : Nat} {jobs : List (Job κ ν)} {e : ResolveError}
    (h : FailsFirst timeout jobs e) : ¬ Unfailing timeout jobs := by
  intro hunfailing
  obtain ⟨j, hj, hfailed, hintime⟩ := h.exists_failed
  exact absurd hintime (Nat.not_lt.2 (hunfailing j hj hfailed))

theorem Job.arrivals_sorted (timeout : Nat) (jobs : List (Job κ ν)) :
    (arrivals timeout jobs).Pairwise fun i j => i.slot.finish ≤ j.slot.finish := by
  unfold arrivals byFinish
  refine List.Pairwise.sublist List.filter_sublist ?_
  have hsorted : (jobs.mergeSort fun i j => decide (i.slot.finish ≤ j.slot.finish)).Pairwise
      fun i j => decide (i.slot.finish ≤ j.slot.finish) = true :=
    List.pairwise_mergeSort (fun _ _ _ => by simpa using Nat.le_trans)
      (fun i j => by simpa using Nat.le_total i.slot.finish j.slot.finish) jobs
  exact hsorted.imp fun h => of_decide_eq_true h

/-- The failure that the loop meets is the first one. -/
theorem failsFirst_of_find {timeout : Nat} {jobs : List (Job κ ν)} {e : ResolveError}
    (h : (Job.arrivals timeout jobs).findSome? (fun j => failureOf? j.outcome) = some e) :
    FailsFirst timeout jobs e := by
  obtain ⟨before, j, after, hsplit, hj, hbefore⟩ := List.findSome?_eq_some_iff.1 h
  have hmem : j ∈ Job.arrivals timeout jobs := by
    rw [hsplit]
    exact List.mem_append_right _ List.mem_cons_self
  obtain ⟨hjobs, hintime⟩ := Job.mem_arrivals.1 hmem
  refine ⟨j, hjobs, failureOf?_eq_some.1 hj, hintime, fun i hi hfailed => ?_⟩
  rcases Nat.lt_or_ge i.slot.finish timeout with harrives | hlate
  · -- It has arrived, and what has arrived before the failing job has not failed.
    obtain ⟨e', hi'⟩ := Job.failed_iff.1 hfailed
    have hmem : i ∈ Job.arrivals timeout jobs := Job.mem_arrivals.2 ⟨hi, harrives⟩
    have hsorted := Job.arrivals_sorted timeout jobs
    rw [hsplit] at hmem hsorted
    rcases List.mem_append.1 hmem with hmem | hmem
    · obtain ⟨t, ht⟩ := failureOf?_eq_none.1 (hbefore i hmem)
      rw [hi'] at ht
      cases ht
    · rcases List.mem_cons.1 hmem with rfl | hmem
      · exact Nat.le_refl _
      · exact (List.pairwise_cons.1 (List.pairwise_append.1 hsorted).2.1).1 i hmem
  · omega

section

variable [BEq κ] {entries entries' t : Table κ ν}

namespace Gathers

theorem nil : Gathers ([] : Table κ ν) [] where
  all := fun _ he => absurd he List.not_mem_nil
  only := fun _ _ h => nomatch h

theorem merge [EquivBEq κ] (h : Gathers entries t) (u : Table κ ν) :
    Gathers (entries ++ u) (t.merge u) where
  all := by
    intro e he
    rw [Table.has_merge, Bool.or_eq_true]
    rcases List.mem_append.1 he with he | he
    · exact .inl (h.all e he)
    · exact .inr (List.any_eq_true.2 ⟨e, he, BEq.rfl⟩)
  only := by
    intro k v hk
    rcases Table.exists_of_get?_merge hk with hk | ⟨e, he, hkey⟩
    · obtain ⟨e, he, hkey⟩ := h.only k v hk
      exact ⟨e, List.mem_append_left u he, hkey⟩
    · exact ⟨e, List.mem_append_right entries he, hkey⟩

theorem foldl_merge [EquivBEq κ] (h : Gathers entries t) (ts : List (Table κ ν)) :
    Gathers (entries ++ ts.flatten) (ts.foldl Table.merge t) := by
  induction ts generalizing entries t with
  | nil => rwa [List.flatten_nil, List.append_nil]
  | cons u ts ih =>
      rw [List.flatten_cons, ← List.append_assoc, List.foldl_cons]
      exact ih (h.merge u)

theorem perm (h : Gathers entries t) (hperm : entries.Perm entries') :
    Gathers entries' t where
  all := fun e he => h.all e (hperm.mem_iff.2 he)
  only := fun k v hk =>
    let ⟨e, he, hkey⟩ := h.only k v hk
    ⟨e, hperm.mem_iff.1 he, hkey⟩

/-- Which keys a table has is settled by the entries it gathers. -/
theorem has_eq [EquivBEq κ] (h : Gathers entries t) (k : κ) : t.has k = entries.has k := by
  rw [Bool.eq_iff_iff]
  constructor
  · intro hk
    rw [Table.has_eq_isSome, Option.isSome_iff_exists] at hk
    obtain ⟨v, hv⟩ := hk
    obtain ⟨e, he, hkey, -⟩ := h.only k v hv
    exact List.any_eq_true.2 ⟨e, he, hkey⟩
  · intro hk
    obtain ⟨e, he, hkey⟩ := List.any_eq_true.1 hk
    have hhas := h.all e he
    rwa [Table.has_eq_isSome, Table.get?_congr t hkey, ← Table.has_eq_isSome] at hhas

end Gathers

/-- Entries that have one value for each key. -/
def Consistent (entries : Table κ ν) : Prop :=
  ∀ e ∈ entries, ∀ e' ∈ entries, (e.1 == e'.1) = true → e.2 = e'.2

/-- Consistent entries make one table, in whichever order they come. -/
theorem Gathers.get?_eq [EquivBEq κ] (h : Gathers entries t) {t' : Table κ ν}
    (h' : Gathers entries t') (hconsistent : Consistent entries) (k : κ) :
    t.get? k = t'.get? k := by
  have hhas : t.has k = t'.has k := (h.has_eq k).trans (h'.has_eq k).symm
  rw [Table.has_eq_isSome, Table.has_eq_isSome] at hhas
  cases hv : t.get? k with
  | none =>
      rw [hv] at hhas
      exact (Option.isSome_eq_false_iff.1 hhas.symm |> Option.isNone_iff_eq_none.1).symm
  | some v =>
      rw [hv] at hhas
      obtain ⟨v', hv'⟩ := Option.isSome_iff_exists.1 hhas.symm
      obtain ⟨e, he, hkey, rfl⟩ := h.only k v hv
      obtain ⟨e', he', hkey', rfl⟩ := h'.only k v' hv'
      rw [hv', hconsistent e he e' he' (BEq.trans hkey (BEq.symm hkey'))]

/-! ## Waiting for jobs -/

/-- The ways in which a run on a pool ends, and when it ends so. -/
inductive Ending (settings : Settings) (store : StoreName) (jobs : List (Job κ ν)) :
    Except ResolveError (Table κ ν) → Prop
  | failed {e : ResolveError} : FailsFirst settings.timeout jobs e →
      Ending settings store jobs (.error e)
  | late : Unfailing settings.timeout jobs →
      (∃ j ∈ jobs, settings.timeout ≤ j.slot.finish) →
      Ending settings store jobs (.error (.timeout store settings.timeout jobs.length))
  | done {t : Table κ ν} : (∀ j ∈ jobs, j.failed = false ∧ j.slot.finish < settings.timeout) →
      Gathers (jobs.flatMap fun j => answersOf j.outcome) t →
      Ending settings store jobs (.ok t)

theorem ending_await [EquivBEq κ] (settings : Settings) (store : StoreName)
    (jobs : List (Job κ ν)) :
    Ending settings store jobs (await settings store jobs).result := by
  rw [result_await, join_eq]
  cases hfind : (Job.arrivals settings.timeout jobs).findSome?
      fun j => failureOf? j.outcome with
  | some e => exact .failed (failsFirst_of_find hfind)
  | none =>
      have hnone : ∀ j ∈ Job.arrivals settings.timeout jobs, j.failed = false :=
        fun j hj => Job.not_failed_iff.2
          (failureOf?_eq_none.1 (List.findSome?_eq_none_iff.1 hfind j hj))
      show Ending settings store jobs (if _ then _ else _)
      by_cases hdone : ∀ j ∈ jobs, j.slot.finish < settings.timeout
      · rw [if_pos hdone]
        refine .done (fun j hj => ⟨?_, hdone j hj⟩) ?_
        · exact hnone j (Job.mem_arrivals.2 ⟨hj, hdone j hj⟩)
        · rw [Job.arrivals_of_done hdone]
          have hall := Gathers.nil.foldl_merge
            ((Job.byFinish jobs).map fun j => answersOf j.outcome)
          rw [List.nil_append] at hall
          exact hall.perm ((Job.byFinish_perm jobs).map _).flatten
      · rw [if_neg hdone]
        refine .late (fun j hj hj' => ?_) ?_
        · refine Nat.le_of_not_lt fun hintime => ?_
          rw [hnone j (Job.mem_arrivals.2 ⟨hj, hintime⟩)] at hj'
          cases hj'
        · by_contra hlate
          exact hdone fun j hj => Nat.lt_of_not_le fun hle => hlate ⟨j, hj, hle⟩

/-! ## Telling the endings apart -/

namespace Ending

variable {settings : Settings} {store : StoreName} {jobs : List (Job κ ν)}
variable {result : Except ResolveError (Table κ ν)}

/-- The time is up just when no job fails before the timeout and not all are done by
then. A job may itself fail with a timeout, and that is another ending. -/
theorem late_iff (h : Ending settings store jobs result) :
    let late := ResolveError.timeout store settings.timeout jobs.length
    result = .error late ∧ ¬ FailsFirst settings.timeout jobs late ↔
      Unfailing settings.timeout jobs ∧ ∃ j ∈ jobs, settings.timeout ≤ j.slot.finish := by
  intro late
  cases h with
  | failed hfirst =>
      refine iff_of_false ?_ fun hlate => hfirst.not_unfailing hlate.1
      rintro ⟨heq, hnot⟩
      obtain rfl := Except.error.inj heq
      exact hnot hfirst
  | late hunfailing hwaiting =>
      exact iff_of_true ⟨rfl, fun hfirst => hfirst.not_unfailing hunfailing⟩
        ⟨hunfailing, hwaiting⟩
  | done hall _ =>
      refine iff_of_false (fun hlate => nomatch hlate.1) ?_
      rintro ⟨-, j, hj, hlong⟩
      exact absurd (hall j hj).2 (Nat.not_lt.2 hlong)

/-- The first failure is met just when there is one before the timeout. -/
theorem failed_iff (h : Ending settings store jobs result) :
    (∃ e, result = .error e ∧ FailsFirst settings.timeout jobs e) ↔
      ∃ j ∈ jobs, j.failed = true ∧ j.slot.finish < settings.timeout := by
  constructor
  · rintro ⟨e, -, hfirst⟩
    exact hfirst.exists_failed
  · rintro ⟨j, hj, hfailed, hintime⟩
    cases h with
    | failed hfirst => exact ⟨_, rfl, hfirst⟩
    | late hunfailing _ => exact absurd hintime (Nat.not_lt.2 (hunfailing j hj hfailed))
    | done hall _ =>
        rw [(hall j hj).1] at hfailed
        cases hfailed

/-- All answers are there just when all jobs are done before the timeout and none has
failed. -/
theorem done_iff (h : Ending settings store jobs result) :
    (∃ t, result = .ok t ∧ Gathers (jobs.flatMap fun j => answersOf j.outcome) t) ↔
      ∀ j ∈ jobs, j.failed = false ∧ j.slot.finish < settings.timeout := by
  cases h with
  | failed hfirst =>
      refine iff_of_false (fun ⟨_, heq, _⟩ => nomatch heq) fun hall => ?_
      obtain ⟨j, hj, hfailed, -⟩ := hfirst.exists_failed
      rw [(hall j hj).1] at hfailed
      cases hfailed
  | late _ hwaiting =>
      refine iff_of_false (fun ⟨_, heq, _⟩ => nomatch heq) fun hall => ?_
      obtain ⟨j, hj, hlong⟩ := hwaiting
      exact absurd (hall j hj).2 (Nat.not_lt.2 hlong)
  | @done t hall hgathers => exact iff_of_true ⟨t, rfl, hgathers⟩ hall

end Ending

/-! ## Runs -/

variable {settings settings' : Settings} {keys : List κ} {work : List κ → Task κ ν}

omit [BEq κ] in
theorem union_plan (workers : Nat) (work : List κ → Task κ ν) (batches : List (List κ)) :
    ((Job.plan workers work batches).flatMap fun j => answersOf j.outcome) =
      union work batches := by
  have hcolumn := congrArg (List.flatMap fun p : List κ × _ => answersOf p.2)
    (Job.plan_columns workers work batches).1
  rw [List.flatMap_map, List.flatMap_map] at hcolumn
  exact hcolumn

theorem ending_run [EquivBEq κ] (store : StoreName) (work : List κ → Task κ ν)
    (hpool : settings.workers ≤ maxWorkers) (hsplit : max settings.batchSize 1 < keys.length) :
    Ending settings store
      (Job.plan settings.workers work (chunks settings.batchSize keys))
      (run settings store keys work).result := by
  rw [run_of_split hpool hsplit]
  exact ending_await settings store _

/-- Keys that fit into one batch are asked for at once and waited for as long as it
takes. Otherwise, if there can be a pool, each batch starts at the first moment at which
the ones in front of it have started and leave a worker; so they start in order, and no
more are at work than there are workers. The run gives up just when no batch fails before
the timeout and not all are done by then. It fails as a batch does just when one fails
before the timeout, and then as a first one of these. In all other cases it has every
answer. -/
theorem run_all_or_nothing [EquivBEq κ] (settings : Settings) (store : StoreName)
    (keys : List κ) (work : List κ → Task κ ν) :
    let size := max settings.batchSize 1
    let workers := max settings.workers 1
    let batches := chunks settings.batchSize keys
    let jobs := Job.plan settings.workers work batches
    let report := run settings store keys work
    let late := ResolveError.timeout store settings.timeout ((keys.length + size - 1) / size)
    (keys = [] → report.result = .ok []) ∧
    (keys ≠ [] → keys.length ≤ size → report.result = (work keys).outcome) ∧
    (size < keys.length → settings.workers ≤ maxWorkers →
      (report.slots = jobs.map (·.slot) ∧
        Schedule.Prompt workers (batches.map fun c => (work c).duration) report.slots ∧
        (report.slots.map (·.start)).Pairwise (· ≤ ·) ∧
        ∀ t, Schedule.activeAt report.slots t ≤ workers) ∧
      (report.result = .error late ∧ ¬ FailsFirst settings.timeout jobs late ↔
        Unfailing settings.timeout jobs ∧ ∃ j ∈ jobs, settings.timeout ≤ j.slot.finish) ∧
      ((∃ e, report.result = .error e ∧ FailsFirst settings.timeout jobs e) ↔
        ∃ j ∈ jobs, j.failed = true ∧ j.slot.finish < settings.timeout) ∧
      ((∃ t, report.result = .ok t ∧ Gathers (union work batches) t) ↔
        ∀ j ∈ jobs, j.failed = false ∧ j.slot.finish < settings.timeout)) := by
  intro size workers batches jobs report late
  refine ⟨?_, fun hne hfit => (run_of_fit hne hfit).1, fun hsplit hpool => ?_⟩
  · rintro rfl
    rfl
  · have hslots : report.slots = Schedule.greedy settings.workers
        (batches.map fun c => (work c).duration) := slots_run (.inr hpool)
    have hprompt : Schedule.Prompt workers (batches.map fun c => (work c).duration)
        report.slots := hslots ▸ Schedule.greedy_prompt _ _
    have hend : Ending settings store jobs report.result :=
      ending_run store work hpool hsplit
    have hlate : late = .timeout store settings.timeout jobs.length := by
      rw [Job.length_plan, length_chunks]
    have hunion : (jobs.flatMap fun j => answersOf j.outcome) = union work batches :=
      union_plan _ _ _
    rw [hlate, ← hunion]
    exact ⟨⟨hslots.trans (Job.plan_columns _ _ _).2.symm, hprompt, hprompt.ordered,
      hprompt.activeAt_le⟩, hend.late_iff, hend.failed_iff, hend.done_iff⟩

end

/-- Three batches on one worker; the last would fail, but the time is up before. -/
theorem run_all_or_nothing_late_failure :
    let settings : Settings := { batchSize := 1, workers := 1, timeout := 5 }
    let work : List Nat → Task Nat Nat := fun c =>
      ⟨3, if c = [3] then .error (.worker "gone") else .ok (c.map fun k => (k, 2 * k))⟩
    (run settings "s" [1, 2, 3] work).result = .error (.timeout "s" 5 3) := by
  intro settings work
  have hbatches : chunks settings.batchSize [1, 2, 3] = [[1], [2], [3]] := by
    simp [settings, chunks_cons, chunks_nil]
  obtain ⟨-, -, hsplit⟩ := run_all_or_nothing settings "s" [1, 2, 3] work
  obtain ⟨-, hlate, -⟩ := hsplit (by decide) (by decide)
  have hcount : (3 + max settings.batchSize 1 - 1) / max settings.batchSize 1 = 3 := by
    simp [settings]
  rw [hbatches, List.length_cons, List.length_cons, List.length_singleton, hcount] at hlate
  have hjobs : Job.plan settings.workers work [[1], [2], [3]] =
      [⟨[1], .ok [(1, 2)], ⟨0, 3⟩⟩, ⟨[2], .ok [(2, 4)], ⟨3, 6⟩⟩,
        ⟨[3], .error (.worker "gone"), ⟨6, 9⟩⟩] := rfl
  rw [hjobs] at hlate
  refine (hlate.2 ⟨?_, ?_⟩).1
  · unfold Unfailing
    decide
  · decide

section

variable [BEq κ] {settings settings' : Settings} {keys : List κ} {work : List κ → Task κ ν}

/-- A run in several batches succeeds just when all batches do in time. -/
theorem done_of_run_ok [EquivBEq κ] {store : StoreName} {t : Table κ ν}
    (hpool : settings.workers ≤ maxWorkers) (hsplit : max settings.batchSize 1 < keys.length)
    (h : (run settings store keys work).result = .ok t) :
    (∀ c ∈ chunks settings.batchSize keys, ∃ u, (work c).outcome = .ok u) ∧
      (∀ s ∈ (run settings store keys work).slots, s.finish < settings.timeout) ∧
      Gathers (union work (chunks settings.batchSize keys)) t := by
  have hend := ending_run store work hpool hsplit
  rw [h] at hend
  cases hend with
  | done hall hgathers =>
      refine ⟨fun c hc => ?_, fun s hs => ?_, union_plan _ _ _ ▸ hgathers⟩
      · obtain ⟨j, hj, -, houtcome⟩ := Job.exists_mem_plan settings.workers work hc
        exact houtcome ▸ Job.not_failed_iff.1 (hall j hj).1
      · rw [slots_run (.inr hpool), ← (Job.plan_columns _ _ _).2] at hs
        obtain ⟨j, hj, rfl⟩ := List.mem_map.1 hs
        exact (hall j hj).2

theorem run_ok_of_done [EquivBEq κ] (store : StoreName)
    (hpool : settings.workers ≤ maxWorkers) (hsplit : max settings.batchSize 1 < keys.length)
    (hok : ∀ c ∈ chunks settings.batchSize keys, ∃ u, (work c).outcome = .ok u)
    (hdone : ∀ s ∈ (run settings store keys work).slots, s.finish < settings.timeout) :
    ∃ t, (run settings store keys work).result = .ok t ∧
      Gathers (union work (chunks settings.batchSize keys)) t := by
  rw [slots_run (.inr hpool)] at hdone
  rw [← union_plan settings.workers]
  refine (ending_run store work hpool hsplit).done_iff.2 fun j hj => ?_
  obtain ⟨hc, houtcome⟩ := Job.of_mem_plan hj
  exact ⟨Job.not_failed_iff.2 (houtcome ▸ hok _ hc), Job.finish_lt_of_slots hdone hj⟩

/-- More workers, if a pool can have them, and a longer timeout do no harm: no batch
starts or is done later, and a run that succeeds does so with them as well, with answers
for the same keys. The answers are the same unless batches contradict each other. -/
theorem run_no_later [EquivBEq κ] (hsize : settings'.batchSize = settings.batchSize)
    (hworkers : settings.workers ≤ settings'.workers)
    (htimeout : settings.timeout ≤ settings'.timeout) (store : StoreName) (keys : List κ)
    (hpool : settings'.Admits keys.length) (work : List κ → Task κ ν) :
    let report := run settings store keys work
    let report' := run settings' store keys work
    List.Forall₂ Schedule.NoLater report'.slots report.slots ∧
    ∀ t, report.result = .ok t → ∃ t', report'.result = .ok t' ∧
      (∀ k, t'.has k = t.has k) ∧
      (Consistent (union work (chunks settings.batchSize keys)) →
        ∀ k, t'.get? k = t.get? k) ∧
      (Unrepeated keys → Own work → t'.Perm t) := by
  intro report report'
  have hfewer : settings.Admits keys.length := by
    rw [Settings.Admits, ← hsize]
    exact hpool.imp_right hworkers.trans
  have hslots : List.Forall₂ Schedule.NoLater report'.slots report.slots := by
    have hgreedy : report.slots = Schedule.greedy settings.workers
        ((chunks settings.batchSize keys).map fun c => (work c).duration) := slots_run hfewer
    have hgreedy' : report'.slots = Schedule.greedy settings'.workers
        ((chunks settings'.batchSize keys).map fun c => (work c).duration) := slots_run hpool
    rw [hgreedy, hgreedy', hsize]
    exact Schedule.greedy_noLater hworkers _
  refine ⟨hslots, fun t ht => ?_⟩
  by_cases hne : keys = []
  · subst hne
    exact ⟨t, ht, fun _ => rfl, fun _ _ => rfl, fun _ _ => .refl t⟩
  · by_cases hfit : keys.length ≤ max settings.batchSize 1
    · have hsame : report'.result = report.result :=
        (run_of_fit hne (hsize.symm ▸ hfit)).1.trans (run_of_fit hne hfit).1.symm
      exact ⟨t, hsame.trans ht, fun _ => rfl, fun _ _ => rfl, fun _ _ => .refl t⟩
    · have hsplit := Nat.not_le.1 hfit
      have hworkers' : settings'.workers ≤ maxWorkers := hpool.resolve_left (hsize.symm ▸ hfit)
      obtain ⟨hok, hdone, hgathers⟩ :=
        done_of_run_ok (hworkers.trans hworkers') hsplit ht
      have hok' : ∀ c ∈ chunks settings'.batchSize keys, ∃ u, (work c).outcome = .ok u :=
        hsize.symm ▸ hok
      have hdone' : ∀ s ∈ report'.slots, s.finish < settings'.timeout :=
        Schedule.forall_of_noLater (fun _ _ hs => Nat.lt_of_le_of_lt hs.finish) hslots
          fun s hs => Nat.lt_of_lt_of_le (hdone s hs) htimeout
      obtain ⟨t', ht', hgathers'⟩ :=
        run_ok_of_done store hworkers' (hsize.symm ▸ hsplit) hok' hdone'
      rw [hsize] at hgathers'
      refine ⟨t', ht', fun k => (hgathers'.has_eq k).trans (hgathers.has_eq k).symm,
        fun hconsistent => hgathers'.get?_eq hgathers hconsistent, fun hkeys hown => ?_⟩
      obtain ⟨u, hu, hunion⟩ := run_perm_of_done store hfewer hown hkeys hok hdone
      obtain ⟨u', hu', hunion'⟩ := run_perm_of_done store hpool hown hkeys hok' hdone'
      obtain rfl := Except.ok.inj (ht.symm.trans hu)
      obtain rfl := Except.ok.inj (ht'.symm.trans hu')
      rw [hsize] at hunion'
      exact hunion'.trans hunion.symm

end

/-- Three batches on one worker and on two. -/
theorem run_no_later_second_worker :
    let settings : Settings := { batchSize := 1, workers := 1, timeout := 10 }
    let settings' : Settings := { batchSize := 1, workers := 2, timeout := 12 }
    settings'.batchSize = settings.batchSize ∧ settings.workers ≤ settings'.workers ∧
      settings.timeout ≤ settings'.timeout ∧ settings'.Admits [1, 2, 3].length ∧
      ∃ t t', (run settings "s" [1, 2, 3] doubling).result = .ok t ∧
        (run settings' "s" [1, 2, 3] doubling).result = .ok t' ∧ t'.Perm t := by
  intro settings settings'
  have hpool : settings'.Admits [1, 2, 3].length := .inr (by decide)
  have hkeys : Unrepeated [1, 2, 3] := unrepeated_iff_nodup.2 (by decide)
  have hbatches : chunks settings.batchSize [1, 2, 3] = [[1], [2], [3]] := by
    simp [settings, chunks_cons, chunks_nil]
  have hdone : ∀ s ∈ (run settings "s" [1, 2, 3] doubling).slots, s.finish < 10 := by
    rw [slots_run (.inr (by decide)), hbatches]
    decide
  obtain ⟨t, ht, -⟩ :=
    run_perm_of_done "s" (.inr (by decide)) own_doubling hkeys (fun c _ => ⟨_, rfl⟩) hdone
  have hsize : settings'.batchSize = settings.batchSize := rfl
  have hworkers : settings.workers ≤ settings'.workers := by decide
  have htimeout : settings.timeout ≤ settings'.timeout := by decide
  obtain ⟨-, hbetter⟩ := run_no_later hsize hworkers htimeout "s" [1, 2, 3] hpool doubling
  obtain ⟨t', ht', -, -, hperm⟩ := hbetter t ht
  exact ⟨hsize, hworkers, htimeout, hpool, t, t', ht, ht', hperm hkeys own_doubling⟩

/-- Work that answers one key only, and differently for each batch. -/
def contradicting (c : List Nat) : Task Nat Nat := ⟨3 - c.headD 0, .ok [(0, c.headD 0)]⟩

/-- Where batches answer one key differently, the one that is done last has its way, and
that depends on the workers. With one worker more than a pool can have there is no answer
at all. -/
theorem run_no_later_contradicting :
    let settings (workers : Nat) : Settings := { batchSize := 1, workers := workers }
    (run (settings 1) "s" [1, 2] contradicting).result = .ok [(0, 2)] ∧
      (run (settings 2) "s" [1, 2] contradicting).result = .ok [(0, 1)] ∧
      (run (settings (maxWorkers + 1)) "s" [1, 2] contradicting).result =
        .error (.panic tooManyWorkers) := by
  intro settings
  have hpanic : ¬ (settings (maxWorkers + 1)).Admits [1, 2].length := not_or.2 (by decide)
  have hbatches : chunks 1 [1, 2] = [[1], [2]] := by simp [chunks_cons, chunks_nil]
  let first (slot : Slot) : Job Nat Nat := ⟨[1], .ok [(0, 1)], slot⟩
  let second (slot : Slot) : Job Nat Nat := ⟨[2], .ok [(0, 2)], slot⟩
  have hone : Job.plan 1 contradicting [[1], [2]] = [first ⟨0, 2⟩, second ⟨2, 3⟩] := rfl
  have htwo : Job.plan 2 contradicting [[1], [2]] = [first ⟨0, 2⟩, second ⟨0, 1⟩] := rfl
  have hinline : Job.byFinish [first ⟨0, 2⟩, second ⟨2, 3⟩] = [first ⟨0, 2⟩, second ⟨2, 3⟩] := by
    simp [Job.byFinish, List.mergeSort, first, second]
  have hturned : Job.byFinish [first ⟨0, 2⟩, second ⟨0, 1⟩] = [second ⟨0, 1⟩, first ⟨0, 2⟩] := by
    simp [Job.byFinish, List.mergeSort, first, second]
  refine ⟨?_, ?_, congrArg Report.result (run_of_not_admits hpanic)⟩
  · rw [run_of_split (by decide) (by decide), hbatches, hone, result_await_of_done "s" (by decide),
      hinline]
    rfl
  · rw [run_of_split (by decide) (by decide), hbatches, htwo, result_await_of_done "s" (by decide),
      hturned]
    rfl

end Nomenclator.Batch
