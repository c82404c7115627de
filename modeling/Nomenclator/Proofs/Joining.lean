import Mathlib.Data.List.Perm.Basic
import Nomenclator.Proofs.Scheduling
import Nomenclator.Proofs.Splitting

/-!
# What the batches come to together

A run on a pool takes the outcomes of its batches one by one, as they come in. Answers
are put together, and the first failure ends the run; so does the timeout, if it comes
before the last outcome. `join` is this loop, for any order of outcomes. The order in
which the batches are done is one of them, and a run waits for the part of it that is
done in time.

The batches cut a list without repetitions, and each answers none but its own keys.
So no key is answered twice, and putting the answers together is putting them one
behind the other: another order gives the same entries in another order, which is the
same table. Whether there is a failure does not depend on the order either, only which
one is met first.
-/

namespace Nomenclator.Batch

variable {κ ν : Type}

/-! ## Jobs and their outcomes -/

/-- The answers of an outcome; a failure has none. -/
def answersOf : Except ResolveError (Table κ ν) → Table κ ν
  | .ok answers => answers
  | .error _ => []

/-- The failure of an outcome. -/
def failureOf? : Except ResolveError (Table κ ν) → Option ResolveError
  | .ok _ => none
  | .error e => some e

theorem failureOf?_eq_none {outcome : Except ResolveError (Table κ ν)} :
    failureOf? outcome = none ↔ ∃ t, outcome = .ok t := by
  cases outcome <;> simp [failureOf?]

/-- A job has its batch, what that comes to, and a slot. -/
theorem Job.columns (work : List κ → Task κ ν) {batches : List (List κ)}
    {slots : List Slot} (h : batches.length = slots.length) :
    let jobs : List (Job κ ν) := (batches.zip ((batches.map work).zip slots)).map
      fun (keys, task, slot) => ⟨keys, task.outcome, slot⟩
    jobs.map (fun j => (j.keys, j.outcome)) = batches.map (fun c => (c, (work c).outcome)) ∧
      jobs.map (·.slot) = slots := by
  induction batches generalizing slots with
  | nil => exact ⟨rfl, (List.length_eq_zero_iff.1 h.symm).symm⟩
  | cons c batches ih =>
      cases slots with
      | nil => exact absurd h (Nat.succ_ne_zero _)
      | cons s slots =>
          obtain ⟨houtcomes, hslots⟩ := ih (Nat.succ.inj h)
          exact ⟨congrArg _ houtcomes, congrArg _ hslots⟩

theorem Job.plan_singleton (workers : Nat) (work : List κ → Task κ ν) (c : List κ) :
    plan workers work [c] = [⟨c, (work c).outcome, ⟨0, (work c).duration⟩⟩] := by
  unfold plan
  dsimp only
  rw [List.map_singleton, List.map_singleton, Schedule.greedy_singleton]
  rfl

section

variable (workers : Nat) (work : List κ → Task κ ν) (batches : List (List κ))

theorem Job.plan_columns :
    (plan workers work batches).map (fun j => (j.keys, j.outcome)) =
        batches.map (fun c => (c, (work c).outcome)) ∧
      (plan workers work batches).map (·.slot) =
        Schedule.greedy workers (batches.map fun c => (work c).duration) := by
  have hdurations : (batches.map work).map (·.duration) =
      batches.map fun c => (work c).duration := List.map_map
  unfold plan
  rw [← hdurations]
  refine columns work ?_
  rw [(Schedule.greedy_prompt _ _).length_eq, List.length_map, List.length_map]

theorem Job.length_plan : (plan workers work batches).length = batches.length := by
  have hcolumns := congrArg List.length (plan_columns workers work batches).1
  simpa using hcolumns

variable {workers work batches}

/-- A job comes to what the work for its batch does. -/
theorem Job.of_mem_plan {j : Job κ ν} (h : j ∈ plan workers work batches) :
    j.keys ∈ batches ∧ j.outcome = (work j.keys).outcome := by
  have hmem : (j.keys, j.outcome) ∈
      (plan workers work batches).map fun j => (j.keys, j.outcome) :=
    List.mem_map_of_mem h
  rw [(plan_columns workers work batches).1] at hmem
  obtain ⟨c, hc, heq⟩ := List.mem_map.1 hmem
  obtain ⟨rfl, houtcome⟩ := Prod.mk.inj heq
  exact ⟨hc, houtcome.symm⟩

variable (workers work) in
/-- Every batch has a job. -/
theorem Job.exists_mem_plan {c : List κ} (h : c ∈ batches) :
    ∃ j ∈ plan workers work batches, j.keys = c ∧ j.outcome = (work c).outcome := by
  have hmem : (c, (work c).outcome) ∈ batches.map fun c => (c, (work c).outcome) :=
    List.mem_map_of_mem h
  rw [← (plan_columns workers work batches).1] at hmem
  obtain ⟨j, hj, heq⟩ := List.mem_map.1 hmem
  obtain ⟨hkeys, houtcome⟩ := Prod.mk.inj heq
  exact ⟨j, hj, hkeys, houtcome⟩

theorem Job.finish_lt_of_slots {j : Job κ ν} {timeout : Nat}
    (h : ∀ s ∈ Schedule.greedy workers (batches.map fun c => (work c).duration),
      s.finish < timeout) (hj : j ∈ plan workers work batches) :
    j.slot.finish < timeout := by
  refine h j.slot ?_
  rw [← (plan_columns workers work batches).2]
  exact List.mem_map_of_mem hj

end

/-! ## The loop over outcomes -/

/-- Takes the outcomes of some jobs in their order: answers are put together, and the
first failure ends it. -/
def join [BEq κ] (merged : Table κ ν) : List (Job κ ν) → Except ResolveError (Table κ ν)
  | [] => .ok merged
  | j :: jobs =>
    match j.outcome with
    | .ok answers => join (merged.merge answers) jobs
    | .error e => .error e

/-- The loop fails with the failure that comes first, and puts everything together when
there is none. -/
theorem join_eq [BEq κ] (merged : Table κ ν) (jobs : List (Job κ ν)) :
    join merged jobs =
      match jobs.findSome? fun j => failureOf? j.outcome with
      | some e => .error e
      | none => .ok ((jobs.map fun j => answersOf j.outcome).foldl Table.merge merged) := by
  induction jobs generalizing merged with
  | nil => rfl
  | cons j jobs ih =>
      rw [join, List.findSome?_cons, List.map_cons, List.foldl_cons]
      cases houtcome : j.outcome with
      | ok answers => exact ih _
      | error e => rfl

/-! ## The order in which jobs are done -/

theorem Job.byFinish_perm (jobs : List (Job κ ν)) : (byFinish jobs).Perm jobs :=
  List.mergeSort_perm _ _

/-- The jobs that are done in time, in the order in which they are. -/
def Job.arrivals (timeout : Nat) (jobs : List (Job κ ν)) : List (Job κ ν) :=
  (byFinish jobs).filter (doneBefore timeout)

theorem Job.mem_arrivals {timeout : Nat} {jobs : List (Job κ ν)} {j : Job κ ν} :
    j ∈ arrivals timeout jobs ↔ j ∈ jobs ∧ j.slot.finish < timeout := by
  unfold arrivals
  rw [List.mem_filter, (byFinish_perm jobs).mem_iff]
  simp [doneBefore]

theorem Job.arrivals_of_done {timeout : Nat} {jobs : List (Job κ ν)}
    (h : ∀ j ∈ jobs, j.slot.finish < timeout) : arrivals timeout jobs = byFinish jobs :=
  List.filter_eq_self.2 fun j hj =>
    decide_eq_true (h j ((byFinish_perm jobs).mem_iff.1 hj))

/-- The failure that a run waits for is the one that its loop would meet. -/
theorem firstFailure?_eq (timeout : Nat) (jobs : List (Job κ ν)) :
    (firstFailure? timeout jobs).map (·.1) =
      (Job.arrivals timeout jobs).findSome? fun j => failureOf? j.outcome := by
  unfold firstFailure? Job.arrivals
  generalize Job.byFinish jobs = order
  induction order with
  | nil => rfl
  | cons j order ih =>
      rw [List.findSome?_cons, List.filter_cons]
      cases houtcome : j.outcome with
      | ok answers =>
          have hnone : failureOf? j.outcome = none := by rw [houtcome]; rfl
          cases j.doneBefore timeout with
          | true => simpa only [if_true, List.findSome?_cons, hnone] using ih
          | false => simpa only [if_false, Bool.false_eq_true] using ih
      | error e =>
          have hsome : failureOf? j.outcome = some e := by rw [houtcome]; rfl
          cases j.doneBefore timeout with
          | true => simp only [if_true, List.findSome?_cons, hsome, Option.map_some]
          | false => simpa only [if_false, Bool.false_eq_true] using ih

theorem mergeAll_eq [BEq κ] (jobs : List (Job κ ν)) :
    mergeAll jobs =
      ((Job.byFinish jobs).map fun j => answersOf j.outcome).foldl Table.merge [] := by
  unfold mergeAll
  rw [List.foldl_map]
  congr 1
  funext merged j
  cases j.outcome <;> rfl

/-- Waiting on a pool runs the loop over the jobs that are done in time, in the order in
which they are done. When it meets no failure there and something is missing, the time
is up. -/
theorem result_await [BEq κ] (settings : Settings) (store : StoreName)
    (jobs : List (Job κ ν)) :
    (await settings store jobs).result =
      match join [] (Job.arrivals settings.timeout jobs) with
      | .error e => .error e
      | .ok answers =>
        if ∀ j ∈ jobs, j.slot.finish < settings.timeout then .ok answers
        else .error (.timeout store settings.timeout jobs.length) := by
  have hfailure := firstFailure?_eq settings.timeout jobs
  rw [join_eq, ← hfailure]
  unfold await
  cases firstFailure? settings.timeout jobs with
  | some failure => rfl
  | none =>
      have hall : jobs.all (Job.doneBefore settings.timeout) = true ↔
          ∀ j ∈ jobs, j.slot.finish < settings.timeout := by
        simp [Job.doneBefore]
      by_cases hdone : ∀ j ∈ jobs, j.slot.finish < settings.timeout
      · simp only [hall.2 hdone, if_true, Option.map_none, if_pos hdone,
          Job.arrivals_of_done hdone, mergeAll_eq]
      · simp only [mt hall.1 hdone, if_false, Option.map_none, if_neg hdone,
          Bool.false_eq_true]

/-- If there is time for all jobs, the loop runs over all of them. -/
theorem result_await_of_done [BEq κ] {settings : Settings} (store : StoreName)
    {jobs : List (Job κ ν)} (h : ∀ j ∈ jobs, j.slot.finish < settings.timeout) :
    (await settings store jobs).result = join [] (Job.byFinish jobs) := by
  rw [result_await, Job.arrivals_of_done h]
  cases join [] (Job.byFinish jobs) with
  | error e => rfl
  | ok t => exact if_pos h

section

variable [BEq κ] {jobs : List (Job κ ν)}

theorem join_of_ok (merged : Table κ ν) (h : ∀ j ∈ jobs, ∃ t, j.outcome = .ok t) :
    join merged jobs =
      .ok ((jobs.map fun j => answersOf j.outcome).foldl Table.merge merged) := by
  have hnone : (jobs.findSome? fun j => failureOf? j.outcome) = none :=
    List.findSome?_eq_none_iff.2 fun j hj => failureOf?_eq_none.2 (h j hj)
  rw [join_eq, hnone]

theorem join_of_error (merged : Table κ ν) (h : ∃ j ∈ jobs, ∃ e, j.outcome = .error e) :
    ∃ e, join merged jobs = .error e := by
  obtain ⟨j, hj, e, houtcome⟩ := h
  rw [join_eq]
  cases hfind : jobs.findSome? fun j => failureOf? j.outcome with
  | some failure => exact ⟨failure, rfl⟩
  | none =>
      obtain ⟨t, ht⟩ := failureOf?_eq_none.1 (List.findSome?_eq_none_iff.1 hfind j hj)
      rw [houtcome] at ht
      cases ht

/-! ## Work on keys of its own -/

/-- Work that answers the keys of its batch, each at most once, and no others. -/
def Own (work : List κ → Task κ ν) : Prop :=
  ∀ c t, Unrepeated c → (work c).outcome = .ok t →
    Unrepeated t.keys ∧ ∀ k ∈ t.keys, c.any (· == k) = true

/-- All answers for some batches. -/
def union (work : List κ → Task κ ν) (batches : List (List κ)) : Table κ ν :=
  batches.flatMap fun c => answersOf (work c).outcome

theorem Own.answersOf {work : List κ → Task κ ν} (h : Own work) {c : List κ}
    (hc : Unrepeated c) : Unrepeated (answersOf (work c).outcome).keys ∧
      ∀ k ∈ (answersOf (work c).outcome).keys, c.any (· == k) = true := by
  cases houtcome : (work c).outcome with
  | ok t => exact h c t hc houtcome
  | error e => exact ⟨.nil, fun k hk => absurd hk List.not_mem_nil⟩

/-- Batches without common keys have no common answers. -/
theorem Own.unrepeated_union [EquivBEq κ] {work : List κ → Task κ ν} (h : Own work)
    {batches : List (List κ)} (hkeys : Unrepeated batches.flatten) :
    Unrepeated (union work batches).keys := by
  induction batches with
  | nil => exact .nil
  | cons c batches ih =>
      obtain ⟨hc, hrest, hapart⟩ := unrepeated_append.1 hkeys
      obtain ⟨hhead, howned⟩ := h.answersOf hc
      unfold union Table.keys
      rw [List.flatMap_cons, List.map_append]
      refine unrepeated_append.2 ⟨hhead, ih hrest, fun k hk k' hk' => ?_⟩
      obtain ⟨x, hx, hxk⟩ := List.any_eq_true.1 (howned k hk)
      obtain ⟨e, he, rfl⟩ := List.mem_map.1 hk'
      obtain ⟨c', hc', he⟩ := List.mem_flatMap.1 he
      have hcut : Unrepeated c' := hrest.sublist (List.sublist_flatten_of_mem hc')
      obtain ⟨y, hy, hyk⟩ :=
        List.any_eq_true.1 ((h.answersOf hcut).2 e.1 (List.mem_map_of_mem he))
      have hxy := hapart x hx y (List.mem_flatten.2 ⟨c', hc', hy⟩)
      rw [BEq.congr_left hxk, BEq.congr_right hyk] at hxy
      exact hxy

variable {workers : Nat} {work : List κ → Task κ ν} {batches : List (List κ)}

/-- In whichever order the batches are done, their answers are put together to the same
entries. -/
theorem join_perm [EquivBEq κ] (hown : Own work) (hkeys : Unrepeated batches.flatten)
    (hok : ∀ c ∈ batches, ∃ t, (work c).outcome = .ok t) {order : List (Job κ ν)}
    (horder : order.Perm (Job.plan workers work batches)) :
    ∃ t, join [] order = .ok t ∧ t.Perm (union work batches) := by
  have hdone : ∀ j ∈ order, ∃ t, j.outcome = .ok t := by
    intro j hj
    obtain ⟨hc, houtcome⟩ := Job.of_mem_plan (horder.mem_iff.1 hj)
    rw [houtcome]
    exact hok _ hc
  have hanswers : ((Job.plan workers work batches).map fun j => answersOf j.outcome) =
      batches.map fun c => answersOf (work c).outcome := by
    have hcolumn := congrArg (List.map fun p : List κ × _ => answersOf p.2)
      (Job.plan_columns workers work batches).1
    rw [List.map_map, List.map_map] at hcolumn
    exact hcolumn
  have hperm : ((order.map fun j => answersOf j.outcome).flatten).Perm
      (union work batches) := by
    have hflat := (horder.map fun j => answersOf j.outcome).flatten
    rw [hanswers] at hflat
    exact hflat
  refine ⟨_, join_of_ok [] hdone, ?_⟩
  rw [Table.foldl_merge_of_unrepeated, List.nil_append]
  · exact hperm
  · exact (hown.unrepeated_union hkeys).perm (hperm.map _).symm

/-! ## Runs -/

variable {settings : Settings} {store : StoreName} {keys : List κ}

theorem slots_await (jobs : List (Job κ ν)) :
    (await settings store jobs).slots = jobs.map (·.slot) := by
  unfold await
  split
  · rfl
  · split <;> rfl

/-- Every batch of a run has a slot of the schedule. -/
theorem slots_run (hpool : settings.Admits keys.length) :
    (run settings store keys work).slots =
      Schedule.greedy settings.workers
        ((chunks settings.batchSize keys).map fun c => (work c).duration) := by
  by_cases hne : keys = []
  · subst hne
    rw [chunks_nil]
    rfl
  · by_cases hfit : keys.length ≤ max settings.batchSize 1
    · rw [(run_of_fit hne hfit).2.1, chunks_of_length_le hne hfit]
      exact (Schedule.greedy_singleton _ _).symm
    · rw [run_of_split (hpool.resolve_left hfit) (Nat.not_le.1 hfit), slots_await]
      exact (Job.plan_columns _ _ _).2

/-- A run asks nothing but what its batches come to. -/
theorem run_congr {work' : List κ → Task κ ν}
    (h : ∀ c ∈ chunks settings.batchSize keys, work' c = work c) :
    run settings store keys work' = run settings store keys work := by
  by_cases hne : keys = []
  · subst hne
    rfl
  · by_cases hfit : keys.length ≤ max settings.batchSize 1
    · rw [chunks_of_length_le hne hfit] at h
      have hkeys : work' keys = work keys := h keys List.mem_cons_self
      unfold run
      rw [if_pos hfit, if_pos hfit, hkeys]
    · have hsplit := Nat.not_le.1 hfit
      by_cases hpool : settings.workers ≤ maxWorkers
      · have htasks : (chunks settings.batchSize keys).map work' =
            (chunks settings.batchSize keys).map work := List.map_congr_left h
        rw [run_of_split hpool hsplit, run_of_split hpool hsplit]
        unfold Job.plan
        rw [htasks]
      · have hpanic : ¬ settings.Admits keys.length := not_or.2 ⟨hfit, hpool⟩
        rw [run_of_not_admits hpanic, run_of_not_admits hpanic]

/-- What has begun are batches of the run, and all of them when it succeeds. -/
theorem started_run :
    (run settings store keys work).started.Sublist (chunks settings.batchSize keys) ∧
      ∀ t, (run settings store keys work).result = .ok t →
        (run settings store keys work).started = chunks settings.batchSize keys := by
  by_cases hpool : settings.Admits keys.length
  case neg =>
    rw [run_of_not_admits hpool]
    exact ⟨List.nil_sublist _, fun _ hok => nomatch hok⟩
  by_cases hne : keys = []
  · subst hne
    rw [chunks_nil]
    exact ⟨.slnil, fun _ _ => rfl⟩
  · by_cases hfit : keys.length ≤ max settings.batchSize 1
    · rw [(run_of_fit hne hfit).2.2, chunks_of_length_le hne hfit]
      exact ⟨.refl _, fun _ _ => rfl⟩
    · rw [run_of_split (hpool.resolve_left hfit) (Nat.not_le.1 hfit)]
      generalize hjobs : Job.plan settings.workers work (chunks settings.batchSize keys) = jobs
      have hkeys : jobs.map (·.keys) = chunks settings.batchSize keys := by
        have hcolumn := congrArg (List.map Prod.fst)
          (Job.plan_columns settings.workers work (chunks settings.batchSize keys)).1
        rw [List.map_map, List.map_map, hjobs] at hcolumn
        exact hcolumn.trans (List.map_id' _)
      have hpart : ∀ p : Job κ ν → Bool,
          ((jobs.filter p).map (·.keys)).Sublist (chunks settings.batchSize keys) :=
        fun p => hkeys ▸ List.filter_sublist.map _
      unfold await
      split
      · exact ⟨hpart _, fun _ hok => nomatch hok⟩
      · split
        · exact ⟨hkeys ▸ .refl _, fun _ _ => hkeys⟩
        · exact ⟨hpart _, fun _ hok => nomatch hok⟩

/-- A run whose batches are all done in time comes to what the loop over them does. -/
theorem result_run_of_done (hpool : settings.Admits keys.length) (hown : Own work)
    (hkeys : Unrepeated keys)
    (hdone : ∀ s ∈ (run settings store keys work).slots, s.finish < settings.timeout) :
    (run settings store keys work).result = join [] (Job.byFinish
      (Job.plan settings.workers work (chunks settings.batchSize keys))) := by
  by_cases hne : keys = []
  · subst hne
    have hjobs : Job.plan settings.workers work [] = [] := rfl
    rw [chunks_nil, hjobs, Job.byFinish, List.mergeSort_nil]
    rfl
  · by_cases hfit : keys.length ≤ max settings.batchSize 1
    · rw [(run_of_fit hne hfit).1, chunks_of_length_le hne hfit, Job.plan_singleton]
      unfold Job.byFinish
      rw [List.mergeSort_singleton, join]
      cases houtcome : (work keys).outcome with
      | error e => rfl
      | ok t =>
          have halone : Table.merge [] t = t :=
            Table.merge_of_unrepeated (hown keys t hkeys houtcome).1
          simp only [halone, join]
    · rw [slots_run hpool] at hdone
      rw [run_of_split (hpool.resolve_left hfit) (Nat.not_le.1 hfit)]
      exact result_await_of_done store fun _ hj => Job.finish_lt_of_slots hdone hj

/-- A run whose batches all succeed in time has the answers of all of them. -/
theorem run_perm_of_done [EquivBEq κ] (store : StoreName)
    (hpool : settings.Admits keys.length) (hown : Own work) (hkeys : Unrepeated keys)
    (hok : ∀ c ∈ chunks settings.batchSize keys, ∃ t, (work c).outcome = .ok t)
    (hdone : ∀ s ∈ (run settings store keys work).slots, s.finish < settings.timeout) :
    ∃ t, (run settings store keys work).result = .ok t ∧
      t.Perm (union work (chunks settings.batchSize keys)) := by
  have hcut : Unrepeated (chunks settings.batchSize keys).flatten :=
    (flatten_chunks settings.batchSize keys).symm ▸ hkeys
  obtain ⟨t, hjoin, hunion⟩ := join_perm hown hcut hok
    (Job.byFinish_perm (Job.plan settings.workers work _))
  exact ⟨t, (result_run_of_done hpool hown hkeys hdone).trans hjoin, hunion⟩

/-- A run with a batch that fails does not succeed, whenever that fails. -/
theorem result_run_of_error (h : ∃ c ∈ chunks settings.batchSize keys,
      ∃ e, (work c).outcome = .error e) :
    ∃ e, (run settings store keys work).result = .error e := by
  obtain ⟨c, hc, hfailed⟩ := h
  have hne : keys ≠ [] := by
    rintro rfl
    rw [chunks_nil] at hc
    cases hc
  by_cases hfit : keys.length ≤ max settings.batchSize 1
  · rw [chunks_of_length_le hne hfit, List.mem_singleton] at hc
    rw [(run_of_fit hne hfit).1, ← hc]
    exact hfailed
  · by_cases hpool : settings.workers ≤ maxWorkers
    case neg => exact ⟨_, by rw [run_of_not_admits (not_or.2 ⟨hfit, hpool⟩)]⟩
    obtain ⟨j, hj, -, houtcome⟩ := Job.exists_mem_plan settings.workers work hc
    rw [run_of_split hpool (Nat.not_le.1 hfit), result_await]
    generalize Job.plan settings.workers work (chunks settings.batchSize keys) = jobs at hj
    by_cases hintime : j.slot.finish < settings.timeout
    · have hmem : j ∈ Job.arrivals settings.timeout jobs := Job.mem_arrivals.2 ⟨hj, hintime⟩
      obtain ⟨e, hjoin⟩ := join_of_error [] ⟨j, hmem, houtcome ▸ hfailed⟩
      rw [hjoin]
      exact ⟨e, rfl⟩
    · have hlate : ¬ ∀ i ∈ jobs, i.slot.finish < settings.timeout :=
        fun hall => hintime (hall j hj)
      cases join [] (Job.arrivals settings.timeout jobs) with
      | error e => exact ⟨e, rfl⟩
      | ok t => exact ⟨_, if_neg hlate⟩

/-! ## Work key by key -/

/-- Work that treats every key by itself: it fails when it does for one of them, and
otherwise answers what it has for each. -/
structure Separate (work : List κ → Task κ ν) (bad : κ → Prop) (answer : κ → Option ν) :
    Prop where
  fails : ∀ c, (∃ k ∈ c, bad k) → ∃ e, (work c).outcome = .error e
  answers : ∀ c, c ≠ [] → Unrepeated c → (∀ k ∈ c, ¬ bad k) →
    ∃ t, (work c).outcome = .ok t ∧
      t.Perm (c.filterMap fun k => (answer k).map fun v => (k, v))

/-- What such work answers for the batches is what it answers for all keys at once. -/
theorem Separate.union_perm {bad : κ → Prop} {answer : κ → Option ν}
    (h : Separate work bad answer) (hne : keys ≠ []) (hkeys : Unrepeated keys) {size : Nat}
    (hok : ∀ c ∈ chunks size keys, ∃ t, (work c).outcome = .ok t) :
    ∃ u, (work keys).outcome = .ok u ∧ (union work (chunks size keys)).Perm u := by
  have hgood : ∀ c ∈ chunks size keys, ∀ k ∈ c, ¬ bad k := by
    intro c hc k hk hbad
    obtain ⟨t, ht⟩ := hok c hc
    obtain ⟨e, he⟩ := h.fails c ⟨k, hk, hbad⟩
    rw [ht] at he
    cases he
  have hall : ∀ k ∈ keys, ¬ bad k := by
    intro k hk
    rw [← flatten_chunks size keys] at hk
    obtain ⟨c, hc, hk⟩ := List.mem_flatten.1 hk
    exact hgood c hc k hk
  obtain ⟨u, hu, hperm⟩ := h.answers keys hne hkeys hall
  refine ⟨u, hu, ?_⟩
  have hbatches : (union work (chunks size keys)).Perm ((chunks size keys).flatMap
      fun c => c.filterMap fun k => (answer k).map fun v => (k, v)) := by
    refine List.Perm.flatMap_left _ fun c hc => ?_
    obtain ⟨t, ht, htable⟩ := h.answers c (ne_nil_of_mem_chunks hc)
      (unrepeated_of_mem_chunks hkeys hc) (hgood c hc)
    rw [ht]
    exact htable
  rw [← List.filterMap_flatMap, List.flatMap_id', flatten_chunks] at hbatches
  exact hbatches.trans hperm.symm

/-- A run looks its keys up in consecutive batches, each as large as the settings allow
except perhaps the last. Nothing else is asked of the work, not even for no keys, and
keys that fit are asked for at once. When every batch succeeds in time, the answers are
those of all batches together, whichever of them are done first; if the work treats every
key by itself, they are its answers for all keys. When a batch fails, the run does. All
this is so if there can be a pool, or need be none. -/
theorem run_splits [EquivBEq κ] (settings : Settings) (store : StoreName)
    (hpool : settings.Admits keys.length) (hkeys : Unrepeated keys) (hown : Own work) :
    let batches := chunks settings.batchSize keys
    let jobs := Job.plan settings.workers work batches
    let report := run settings store keys work
    (batches.flatten = keys ∧
      (∀ c ∈ batches, c ≠ [] ∧ c.length ≤ max settings.batchSize 1) ∧
      (∀ c ∈ batches.dropLast, c.length = max settings.batchSize 1) ∧
      (keys = [] → batches = []) ∧
      (keys ≠ [] → keys.length ≤ max settings.batchSize 1 →
        batches = [keys] ∧ report.result = (work keys).outcome)) ∧
    (report.slots.length = batches.length ∧ report.started.Sublist batches ∧
      (∀ t, report.result = .ok t → report.started = batches) ∧
      ∀ work' : List κ → Task κ ν, (∀ c ∈ batches, work' c = work c) →
        run settings store keys work' = report) ∧
    ((∀ c ∈ batches, ∃ t, (work c).outcome = .ok t) →
      (∀ order, List.Perm order jobs →
        ∃ t, join [] order = .ok t ∧ t.Perm (union work batches)) ∧
      ((∀ s ∈ report.slots, s.finish < settings.timeout) →
        report.result = join [] (Job.byFinish jobs) ∧
        ∃ t, report.result = .ok t ∧ t.Perm (union work batches) ∧
          ∀ bad answer, Separate work bad answer → keys ≠ [] →
            ∃ u, (work keys).outcome = .ok u ∧ t.Perm u)) ∧
    ((∃ c ∈ batches, ∃ e, (work c).outcome = .error e) →
      (∃ e, report.result = .error e) ∧
      ∀ order, List.Perm order jobs → ∃ e, join [] order = .error e) := by
  intro batches jobs report
  have hflat : batches.flatten = keys := flatten_chunks settings.batchSize keys
  have hcut : Unrepeated batches.flatten := hflat.symm ▸ hkeys
  refine ⟨⟨hflat, fun c hc => ⟨ne_nil_of_mem_chunks hc, length_le_of_mem_chunks hc⟩,
    fun c hc => length_of_mem_dropLast_chunks hc, ?_, fun hne hfit => ?_⟩,
    ⟨?_, started_run.1, started_run.2, fun work' hwork => ?_⟩,
    fun hok => ⟨fun order horder => join_perm hown hcut hok horder, fun hdone => ?_⟩,
    fun herror => ⟨result_run_of_error herror, fun order horder => ?_⟩⟩
  · rintro rfl
    exact chunks_nil _
  · exact ⟨chunks_of_length_le hne hfit, (run_of_fit hne hfit).1⟩
  · rw [slots_run hpool, (Schedule.greedy_prompt _ _).length_eq, List.length_map]
  · exact run_congr hwork
  · obtain ⟨t, ht, hunion⟩ := run_perm_of_done store hpool hown hkeys hok hdone
    refine ⟨result_run_of_done hpool hown hkeys hdone, t, ht, hunion,
      fun bad answer hseparate hne => ?_⟩
    obtain ⟨u, hu, hperm⟩ := hseparate.union_perm hne hkeys hok
    exact ⟨u, hu, hunion.trans hperm⟩
  · obtain ⟨c, hc, e, houtcome⟩ := herror
    obtain ⟨j, hj, -, hjob⟩ := Job.exists_mem_plan settings.workers work hc
    exact join_of_error [] ⟨j, horder.mem_iff.2 hj, e, hjob.trans houtcome⟩

end

/-- Work that answers each key with its double, and takes the longer the more keys there
are. -/
def doubling (c : List Nat) : Task Nat Nat := ⟨c.length, .ok (c.map fun k => (k, 2 * k))⟩

theorem own_doubling : Own doubling := by
  rintro c t hc ⟨⟩
  rw [Table.keys_map]
  exact ⟨hc, fun k hk => any_of_mem hk⟩

/-- Three keys in batches of two, of which the second is done first. -/
theorem run_splits_three_keys :
    let settings : Settings := { batchSize := 2, workers := 2, timeout := 10 }
    settings.Admits [1, 2, 3].length ∧ Unrepeated [1, 2, 3] ∧ Own doubling ∧
      ∃ t, (run settings "s" [1, 2, 3] doubling).result = .ok t ∧
        t.Perm [(1, 2), (2, 4), (3, 6)] := by
  intro settings
  have hpool : settings.Admits [1, 2, 3].length := .inr (by decide)
  have hkeys : Unrepeated [1, 2, 3] := unrepeated_iff_nodup.2 (by decide)
  have hbatches : chunks settings.batchSize [1, 2, 3] = [[1, 2], [3]] := by
    simp [settings, chunks_cons, chunks_nil]
  have hdone : ∀ s ∈ (run settings "s" [1, 2, 3] doubling).slots, s.finish < 10 := by
    rw [slots_run hpool, hbatches]
    decide
  obtain ⟨-, -, hok, -⟩ := run_splits settings "s" hpool hkeys own_doubling
  obtain ⟨-, t, ht, hunion, -⟩ := (hok fun c _ => ⟨_, rfl⟩).2 hdone
  rw [hbatches] at hunion
  exact ⟨hpool, hkeys, own_doubling, t, ht, hunion⟩

/-- Two keys in batches of one, and one worker more than a pool can have. The work takes
no time and treats every key by itself; yet none of it is begun. -/
theorem run_splits_without_pool :
    let settings : Settings := { batchSize := 1, workers := maxWorkers + 1 }
    let work : List Nat → Task Nat Nat := fun c => ⟨0, .ok (c.map fun k => (k, 2 * k))⟩
    Unrepeated [1, 2] ∧ Own work ∧ (work [1, 2]).outcome = .ok [(1, 2), (2, 4)] ∧
      (run settings "s" [1, 2] work).started = [] ∧
      (run settings "s" [1, 2] work).result = .error (.panic tooManyWorkers) := by
  intro settings work
  have hpanic : ¬ settings.Admits [1, 2].length := not_or.2 (by decide)
  rw [run_of_not_admits hpanic]
  refine ⟨unrepeated_iff_nodup.2 (by decide), ?_, rfl, rfl, rfl⟩
  rintro c t hc ⟨⟩
  rw [Table.keys_map]
  exact ⟨hc, fun k hk => any_of_mem hk⟩

end Nomenclator.Batch
