import Nomenclator.Batch.Run
import Nomenclator.Proofs.Table

/-!
# Splitting keys changes nothing

A run cuts its keys into batches, works on each, and merges what comes back.
When the work takes no time and treats every key by itself, none of that can
be seen from outside: the batches together are the keys in their order, all of
them are done before any timeout, and merging tables without common keys puts
one behind the other. What is left is the work on all keys at once.

Work that fails fails alike on every batch here, because what makes it fail is
not in the keys. Then the first failure is as good as any.
-/

namespace Nomenclator.Batch

variable {κ ν : Type}

/-! ## The batches -/

theorem chunks_nil (size : Nat) : chunks size ([] : List κ) = [] := by
  rw [chunks.eq_def]

theorem chunks_cons (size : Nat) (k : κ) (keys : List κ) :
    chunks size (k :: keys) =
      (k :: keys).take (max size 1) ::
        chunks size ((k :: keys).drop (max size 1)) := by
  rw [chunks.eq_def]

/-- The batches are the keys, cut at some places. -/
theorem flatten_chunks (size : Nat) (keys : List κ) :
    (chunks size keys).flatten = keys := by
  induction keys using chunks.induct size with
  | case1 => rw [chunks_nil, List.flatten_nil]
  | case2 k keys ih =>
      rw [chunks_cons, List.flatten_cons, ih, List.take_append_drop]

theorem ne_nil_of_mem_chunks {size : Nat} {keys batch : List κ}
    (h : batch ∈ chunks size keys) : batch ≠ [] := by
  induction keys using chunks.induct size with
  | case1 => rw [chunks_nil] at h; cases h
  | case2 k keys ih =>
      rw [chunks_cons, List.mem_cons] at h
      rcases h with rfl | h
      · intro hnil
        have := congrArg List.length hnil
        simp only [List.length_take, List.length_cons, List.length_nil] at this
        omega
      · exact ih h

theorem chunks_ne_nil {size : Nat} {keys : List κ} (h : keys ≠ []) :
    chunks size keys ≠ [] := by
  cases keys with
  | nil => exact absurd rfl h
  | cons k keys => rw [chunks_cons]; exact List.cons_ne_nil _ _

/-- Keys that fit are one batch. -/
theorem chunks_of_length_le {size : Nat} {keys : List κ} (hne : keys ≠ [])
    (h : keys.length ≤ max size 1) : chunks size keys = [keys] := by
  cases keys with
  | nil => exact absurd rfl hne
  | cons k keys => rw [chunks_cons, List.take_of_length_le h, List.drop_of_length_le h, chunks_nil]

theorem length_le_of_mem_chunks {size : Nat} {keys batch : List κ}
    (h : batch ∈ chunks size keys) : batch.length ≤ max size 1 := by
  induction keys using chunks.induct size with
  | case1 => rw [chunks_nil] at h; cases h
  | case2 k keys ih =>
      rw [chunks_cons, List.mem_cons] at h
      rcases h with rfl | h
      · exact List.length_take_le _ _
      · exact ih h

/-- All batches but the last are full. -/
theorem length_of_mem_dropLast_chunks {size : Nat} {keys batch : List κ}
    (h : batch ∈ (chunks size keys).dropLast) : batch.length = max size 1 := by
  induction keys using chunks.induct size with
  | case1 => rw [chunks_nil] at h; cases h
  | case2 k keys ih =>
      by_cases hrest : (k :: keys).drop (max size 1) = []
      · rw [chunks_cons, hrest, chunks_nil] at h
        cases h
      · rw [chunks_cons, List.dropLast_cons_of_ne_nil (chunks_ne_nil hrest),
          List.mem_cons] at h
        rcases h with rfl | h
        · have hlong := List.length_pos_iff.2 hrest
          rw [List.length_drop] at hlong
          rw [List.length_take]
          omega
        · exact ih h

/-- Taking as many as a batch holds from what is left leaves one batch less. -/
theorem batches_succ {n b : Nat} (hn : n ≠ 0) (hb : 1 ≤ b) :
    (n + b - 1) / b = ((n - b) + b - 1) / b + 1 := by
  by_cases h : b ≤ n
  · have hsplit : n + b - 1 = ((n - b) + b - 1) + b := by omega
    rw [hsplit, Nat.add_div_right _ hb]
  · have hsplit : n + b - 1 = (n - 1) + b := by omega
    have hzero : (n - b) + b - 1 = b - 1 := by omega
    rw [hsplit, Nat.add_div_right _ hb, hzero, Nat.div_eq_of_lt (by omega),
      Nat.div_eq_of_lt (by omega)]

/-- How many batches there are. -/
theorem length_chunks (size : Nat) (keys : List κ) :
    (chunks size keys).length = (keys.length + max size 1 - 1) / max size 1 := by
  induction keys using chunks.induct size with
  | case1 =>
      rw [chunks_nil, List.length_nil, List.length_nil, Nat.div_eq_of_lt (by omega)]
  | case2 k keys ih =>
      have hsome : (k :: keys).length ≠ 0 := Nat.succ_ne_zero _
      rw [chunks_cons, List.length_cons, ih, List.length_drop,
        batches_succ hsome (Nat.le_max_right size 1)]

/-! ## Work that takes no time -/

/-- Work without duration is all at work, and all done, at the very start. -/
theorem Schedule.assign_instant {workers : Nat} : ∀ {busy durations : List Nat},
    (∀ t ∈ busy, t = 0) → (∀ d ∈ durations, d = 0) →
    Schedule.assign workers busy durations = durations.map fun _ => ⟨0, 0⟩ := by
  have hinsert : ∀ busy : List Nat, (∀ t ∈ busy, t = 0) →
      Schedule.insertTime 0 busy = 0 :: busy := by
    intro busy _
    cases busy <;> simp [Schedule.insertTime]
  intro busy durations
  induction durations generalizing busy with
  | nil => intro _ _; rfl
  | cons d durations ih =>
      intro hbusy hdur
      have hd : d = 0 := hdur d List.mem_cons_self
      have hrest : ∀ d ∈ durations, d = 0 :=
        fun x hx => hdur x (List.mem_cons_of_mem d hx)
      subst hd
      rw [Schedule.assign.eq_def]
      simp only []
      split
      · rw [hinsert busy hbusy, ih (by simpa using hbusy) hrest]
        rfl
      · cases busy with
        | nil => simp only [ih hbusy hrest]; rfl
        | cons free later =>
            have hfree : free = 0 := hbusy free List.mem_cons_self
            have hlater : ∀ t ∈ later, t = 0 :=
              fun x hx => hbusy x (List.mem_cons_of_mem free hx)
            subst hfree
            simp only [Nat.zero_add]
            rw [hinsert later hlater, ih (by simpa using hlater) hrest]
            rfl

/-- The jobs of work without duration: each batch at the very start. -/
theorem Job.plan_instant {workers : Nat} {work : List κ → Task κ ν}
    {batches : List (List κ)} (h : ∀ c ∈ batches, (work c).duration = 0) :
    Job.plan workers work batches =
      batches.map fun c => ⟨c, (work c).outcome, ⟨0, 0⟩⟩ := by
  unfold Job.plan Schedule.greedy
  simp only [List.map_map]
  rw [Schedule.assign_instant (by simp) (by simpa using h)]
  clear h
  induction batches with
  | nil => rfl
  | cons c batches ih => simpa using ih

/-- Jobs that are all done at once stay in line. -/
theorem Job.byFinish_instant {jobs : List (Job κ ν)}
    (h : ∀ j ∈ jobs, j.slot.finish = 0) : Job.byFinish jobs = jobs := by
  unfold Job.byFinish
  apply List.mergeSort_of_pairwise
  apply List.pairwise_of_forall_mem_list
  intro a ha b hb
  simp [h a ha, h b hb]

/-! ## Runs in one batch and in several -/

section

variable [BEq κ] {settings : Settings} {store : StoreName} {keys : List κ}
variable {work : List κ → Task κ ν}

theorem run_of_fit (hne : keys ≠ []) (hfit : keys.length ≤ max settings.batchSize 1) :
    (run settings store keys work).result = (work keys).outcome ∧
      (run settings store keys work).slots = [⟨0, (work keys).duration⟩] ∧
      (run settings store keys work).started = [keys] := by
  have hsome : ¬ keys.isEmpty = true := by simpa using hne
  unfold run
  rw [if_neg hsome, if_pos hfit]
  exact ⟨rfl, rfl, rfl⟩

theorem workers_le_iff :
    settings.workers ≤ maxWorkers ↔ ¬ maxWorkers < max settings.workers 1 := by
  unfold maxWorkers
  omega

theorem run_of_split (hpool : settings.workers ≤ maxWorkers)
    (hsplit : max settings.batchSize 1 < keys.length) :
    run settings store keys work = await settings store
      (Job.plan settings.workers work (chunks settings.batchSize keys)) := by
  have hsome : ¬ keys.isEmpty = true := by
    rw [List.isEmpty_iff_length_eq_zero]
    omega
  unfold run
  rw [if_neg hsome, if_neg (by omega), if_neg (workers_le_iff.1 hpool)]

/-- Without a pool for its batches a run panics, and no work has begun. -/
theorem run_of_not_admits (h : ¬ settings.Admits keys.length) :
    run settings store keys work = ⟨.error (.panic tooManyWorkers), [], [], {}⟩ := by
  obtain ⟨hsplit, hworkers⟩ := not_or.1 h
  have hsome : ¬ keys.isEmpty = true := by
    rw [List.isEmpty_iff_length_eq_zero]
    omega
  unfold run
  rw [if_neg hsome, if_neg hsplit, if_pos (Decidable.not_not.1 (mt workers_le_iff.2 hworkers))]

end

/-! ## Runs of instant work -/

/-- Work that takes no time, fails for every batch alike or else treats every
key by itself. -/
def Uniform (work : List κ → Task κ ν) [BEq κ]
    (r : Except ResolveError (κ → ν)) : Prop :=
  ∀ c, c ≠ [] → Unrepeated c →
    work c = ⟨0, r.map fun f => c.map fun k => (k, f k)⟩

section

variable [BEq κ]

theorem unrepeated_of_mem_chunks {size : Nat} {keys c : List κ}
    (hkeys : Unrepeated keys) (hc : c ∈ chunks size keys) : Unrepeated c := by
  have hsub := List.sublist_flatten_of_mem hc
  rw [flatten_chunks] at hsub
  exact hkeys.sublist hsub

/-- Tables of batches without common keys, merged one after the other. -/
theorem foldl_merge_batches (f : κ → ν) {batches : List (List κ)}
    (h : Unrepeated batches.flatten) :
    batches.foldl (fun merged c => Table.merge merged (c.map fun k => (k, f k))) [] =
      batches.flatten.map fun k => (k, f k) := by
  have hflat : (batches.map fun c => c.map fun k => (k, f k)).flatten =
      batches.flatten.map fun k => (k, f k) := List.map_flatten.symm
  have hkeys : Unrepeated (Table.keys
      ([] ++ (batches.map fun c => c.map fun k => (k, f k)).flatten)) := by
    rwa [List.nil_append, hflat, Table.keys_map]
  have hmerge := Table.foldl_merge_of_unrepeated hkeys
  rwa [List.foldl_map, List.nil_append, hflat] at hmerge

/-- The jobs of uniform work: each batch done at the start, with its share of
the answers or with the failure common to all. -/
theorem plan_uniform {work : List κ → Task κ ν}
    {r : Except ResolveError (κ → ν)} {workers size : Nat} {keys : List κ}
    (hwork : Uniform work r) (hkeys : Unrepeated keys) :
    Job.plan workers work (chunks size keys) =
      (chunks size keys).map fun c =>
        ⟨c, r.map fun f => c.map fun k => (k, f k), ⟨0, 0⟩⟩ := by
  have hc : ∀ c ∈ chunks size keys,
      work c = ⟨0, r.map fun f => c.map fun k => (k, f k)⟩ := fun c hc =>
    hwork c (ne_nil_of_mem_chunks hc) (unrepeated_of_mem_chunks hkeys hc)
  rw [Job.plan_instant fun c h => by rw [hc c h]]
  exact List.map_congr_left fun c h => by rw [hc c h]

/-- Waiting for uniform work that fails gives its failure. -/
theorem await_error {settings : Settings} (htime : 0 < settings.timeout)
    (store : StoreName) (e : ResolveError) {batches : List (List κ)}
    (hne : batches ≠ []) :
    (await (ν := ν) settings store
      (batches.map fun c => ⟨c, .error e, ⟨0, 0⟩⟩)).result = .error e := by
  have hfail : firstFailure? (ν := ν) settings.timeout
      (batches.map fun c => ⟨c, .error e, ⟨0, 0⟩⟩) = some (e, 0) := by
    unfold firstFailure?
    rw [Job.byFinish_instant (by simp)]
    cases batches with
    | nil => exact absurd rfl hne
    | cons c batches => simp [Job.doneBefore, htime]
  unfold await
  simp only [hfail]

/-- Waiting for uniform work that succeeds gives the answers for all keys. -/
theorem await_ok {settings : Settings} (htime : 0 < settings.timeout)
    (store : StoreName) (f : κ → ν) {batches : List (List κ)}
    (hkeys : Unrepeated batches.flatten) :
    (await settings store (batches.map fun c =>
      ⟨c, .ok (c.map fun k => (k, f k)), ⟨0, 0⟩⟩)).result =
      .ok (batches.flatten.map fun k => (k, f k)) := by
  have hfail : firstFailure? settings.timeout (batches.map fun c =>
      (⟨c, .ok (c.map fun k => (k, f k)), ⟨0, 0⟩⟩ : Job κ ν)) = none := by
    unfold firstFailure?
    rw [Job.byFinish_instant (by simp)]
    simp
  have hdone : ((batches.map fun c =>
      (⟨c, .ok (c.map fun k => (k, f k)), ⟨0, 0⟩⟩ : Job κ ν)).all
        (Job.doneBefore settings.timeout)) = true := by
    simp [Job.doneBefore, htime]
  unfold await
  simp only [hfail, hdone, if_true]
  unfold mergeAll
  rw [Job.byFinish_instant (by simp), List.foldl_map]
  exact congrArg Except.ok (foldl_merge_batches f hkeys)

/-- A run of uniform work is the work on all keys at once. Only several batches have to
be given some time, and a pool. -/
theorem run_uniform {settings : Settings} (store : StoreName) {keys : List κ}
    (hpool : settings.Admits keys.length)
    (htime : keys.length ≤ max settings.batchSize 1 ∨ 0 < settings.timeout)
    (hkeys : Unrepeated keys) {work : List κ → Task κ ν} {r : Except ResolveError (κ → ν)}
    (hwork : Uniform work r) (hne : keys ≠ []) :
    (run settings store keys work).result =
      r.map fun f => keys.map fun k => (k, f k) := by
  by_cases hfit : keys.length ≤ max settings.batchSize 1
  · rw [(run_of_fit hne hfit).1, hwork keys hne hkeys]
  · replace htime := htime.resolve_left hfit
    rw [run_of_split (hpool.resolve_left hfit) (Nat.not_le.1 hfit), plan_uniform hwork hkeys]
    cases r with
    | error e => exact await_error htime store e (chunks_ne_nil hne)
    | ok f =>
        have hflat := flatten_chunks settings.batchSize keys
        have hok := await_ok htime store f (hflat.symm ▸ hkeys)
        rw [hflat] at hok
        exact hok

end

end Nomenclator.Batch
