import Nomenclator.Batch.Schedule
import Nomenclator.Failure

/-!
# Partitioned runs

Many keys are looked up in batches of bounded size. One batch runs at once and without a limit
of time. Several batches share a bounded pool of workers, and the whole run is all or nothing:
the batch that fails first, or the timeout if it comes before every batch is done, fails the run.
A pool cannot have any number of workers. Where more are wanted the run panics before any work
has begun; the settings do not keep anybody from wanting more.
-/

namespace Nomenclator.Batch

/-- How keys are split up and how long to wait for them. -/
structure Settings where
  /-- The most keys of one query. -/
  batchSize : Nat := 1000
  /-- The most batches at work at once. -/
  workers : Nat := 5
  /-- How long to wait for all batches of a partitioned run, in milliseconds. -/
  timeout : Nat := 30000
  deriving Repr, DecidableEq, Inhabited

/-- Splits keys into consecutive batches of the given size, the last one possibly shorter. A
size of zero counts as one. -/
def chunks {κ : Type} (size : Nat) (keys : List κ) : List (List κ) :=
  match keys with
  | [] => []
  | k :: rest =>
    (k :: rest).take (max size 1) :: chunks size ((k :: rest).drop (max size 1))
termination_by keys.length
decreasing_by simp only [List.length_drop, List.length_cons]; omega

/-- The most workers that a pool can have: its number of permits leaves three bits of a word to
other uses. -/
def maxWorkers : Nat := 0x1FFFFFFFFFFFFFFF

/-- Why there is no pool with more workers. -/
def tooManyWorkers : String :=
  s!"a semaphore may not have more than MAX_PERMITS permits ({maxWorkers})"

/-- So many keys can be looked up: they fit into one batch, or a pool can be had for them. -/
def Settings.Admits (settings : Settings) (count : Nat) : Prop :=
  count ≤ max settings.batchSize 1 ∨ settings.workers ≤ maxWorkers

/-- What the work for one batch comes to, and how long it takes. -/
structure Task (κ ν : Type) where
  duration : Nat
  outcome : Except ResolveError (Table κ ν)

/-- How many batches have run, by mode and result. -/
structure Tally where
  singleDone : Nat := 0
  singleFailed : Nat := 0
  partitionedDone : Nat := 0
  partitionedFailed : Nat := 0
  deriving Repr, DecidableEq, Inhabited

/-- The sum of two tallies. -/
def Tally.add (a b : Tally) : Tally where
  singleDone := a.singleDone + b.singleDone
  singleFailed := a.singleFailed + b.singleFailed
  partitionedDone := a.partitionedDone + b.partitionedDone
  partitionedFailed := a.partitionedFailed + b.partitionedFailed

/-- All there is to know about a run. -/
structure Report (κ ν : Type) where
  result : Except ResolveError (Table κ ν)
  /-- When each batch was at work. -/
  slots : List Slot
  /-- The batches whose work has begun, in order. -/
  started : List (List κ)
  tally : Tally

/-- A batch with its work and its place in the schedule. -/
structure Job (κ ν : Type) where
  keys : List κ
  outcome : Except ResolveError (Table κ ν)
  slot : Slot

namespace Job

variable {κ ν : Type}

/-- The batch has failed. -/
def failed (j : Job κ ν) : Bool :=
  match j.outcome with
  | .ok _ => false
  | .error _ => true

/-- The work is done before a moment. -/
def doneBefore (t : Nat) (j : Job κ ν) : Bool := j.slot.finish < t

/-- The work has begun before a moment, or begins and ends at it. -/
def begunBy (t : Nat) (j : Job κ ν) : Bool := j.slot.start < t || j.slot.finish ≤ t

/-- The jobs in the order in which they are done; jobs done together stay in line. -/
def byFinish (jobs : List (Job κ ν)) : List (Job κ ν) :=
  jobs.mergeSort fun a b => decide (a.slot.finish ≤ b.slot.finish)

/-- The jobs for some batches. -/
def plan (workers : Nat) (work : List κ → Task κ ν) (batches : List (List κ)) :
    List (Job κ ν) :=
  let tasks := batches.map work
  let slots := Schedule.greedy workers (tasks.map (·.duration))
  (batches.zip (tasks.zip slots)).map fun (keys, task, slot) => ⟨keys, task.outcome, slot⟩

end Job

variable {κ ν : Type}

/-- The tally of partitioned jobs. -/
def Tally.ofJobs (jobs : List (Job κ ν)) : Tally where
  partitionedDone := (jobs.filter fun j => !j.failed).length
  partitionedFailed := (jobs.filter Job.failed).length

/-- The failure of the job that fails first before a moment, and when it fails. -/
def firstFailure? (timeout : Nat) (jobs : List (Job κ ν)) : Option (ResolveError × Nat) :=
  (Job.byFinish jobs).findSome? fun j =>
    match j.outcome with
    | .error e => if j.doneBefore timeout then some (e, j.slot.finish) else none
    | .ok _ => none

/-- The answers of all jobs together, in the order in which they came. -/
def mergeAll [BEq κ] (jobs : List (Job κ ν)) : Table κ ν :=
  (Job.byFinish jobs).foldl (fun merged j =>
    match j.outcome with
    | .ok answers => merged.merge answers
    | .error _ => merged) []

/-- Waits for several jobs on a pool. -/
def await [BEq κ] (settings : Settings) (store : StoreName) (jobs : List (Job κ ν)) :
    Report κ ν :=
  let slots := jobs.map (·.slot)
  match firstFailure? settings.timeout jobs with
  | some (e, t) =>
    { result := .error e, slots,
      started := (jobs.filter (Job.begunBy t)).map (·.keys),
      tally := Tally.ofJobs (jobs.filter fun j => j.slot.finish ≤ t) }
  | none =>
    if jobs.all (Job.doneBefore settings.timeout) then
      { result := .ok (mergeAll jobs), slots, started := jobs.map (·.keys),
        tally := Tally.ofJobs jobs }
    else
      { result := .error (.timeout store settings.timeout jobs.length), slots,
        started := (jobs.filter fun j => j.slot.start < settings.timeout).map (·.keys),
        tally := Tally.ofJobs (jobs.filter (Job.doneBefore settings.timeout)) }

/-- Looks keys up batch by batch. -/
def run [BEq κ] (settings : Settings) (store : StoreName) (keys : List κ)
    (work : List κ → Task κ ν) : Report κ ν :=
  if keys.isEmpty then ⟨.ok [], [], [], {}⟩
  else if keys.length ≤ max settings.batchSize 1 then
    let task := work keys
    let tally : Tally := match task.outcome with
      | .ok _ => { singleDone := 1 }
      | .error _ => { singleFailed := 1 }
    ⟨task.outcome, [⟨0, task.duration⟩], [keys], tally⟩
  else if maxWorkers < max settings.workers 1 then ⟨.error (.panic tooManyWorkers), [], [], {}⟩
  else
    await settings store (Job.plan settings.workers work (chunks settings.batchSize keys))

end Nomenclator.Batch
