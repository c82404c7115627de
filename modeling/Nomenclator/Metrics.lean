import Nomenclator.Batch.Run
import Nomenclator.Cache.Partitioned
import Nomenclator.Invalidation.Queue

/-!
# Metrics

What is counted, under the names by which it is watched. A reading is taken from the counters that
the parts keep for themselves; what happened between two readings is their difference. The length
of the queue is no count: it is shown as it is, from the first time it was reported.
-/

namespace Nomenclator.Metrics

/-- The name of a series and its labels. -/
structure Series where
  name : String
  labels : List (String × String)
  deriving Repr, DecidableEq, Inhabited

/-- The labels as they are written, in ascending order. -/
def Series.labelTexts (s : Series) : List String :=
  (s.labels.map fun l => l.1 ++ "=" ++ l.2).mergeSort fun a b => decide (a ≤ b)

/-- Series are in order by name, then by labels. -/
def Series.le (a b : Series) : Bool :=
  a.name < b.name || (a.name == b.name && !b.labelTexts.lex a.labelTexts fun s t => decide (s < t))

/-- All counts and the one length. -/
structure Reading where
  counts : Table Series Nat
  queueLength : Option Nat
  deriving Inhabited

namespace Reading

/-- Nothing is counted. -/
def empty : Reading := ⟨[], none⟩

/-- Adds to the count of a series. -/
def count (r : Reading) (name : String) (labels : List (String × String)) (n : Nat) : Reading :=
  { r with counts := r.counts.put ⟨name, labels⟩ (((r.counts.get? ⟨name, labels⟩).getD 0) + n) }

/-- Adds what a cache has counted; caches of one name are counted together. -/
def cache {κ ν : Type} (r : Reading) (c : Cache.Partitioned κ ν) : Reading :=
  let labels := [("cache", c.id)]
  ((r.count "glossa_cache_hit_total" labels c.hits).count "glossa_cache_miss_total" labels
    c.misses).count "glossa_cache_evict_total" labels c.evictions

/-- Adds the batches of a tally: each is timed, and counted by mode and result. -/
def batches (r : Reading) (t : Batch.Tally) : Reading :=
  let result (mode outcome : String) := [("mode", mode), ("result", outcome)]
  (((((r.count "glossa_batch_query_ms" [("mode", "single")] (t.singleDone + t.singleFailed)).count
    "glossa_batch_query_ms" [("mode", "partitioned")]
      (t.partitionedDone + t.partitionedFailed)).count
    "glossa_batch_total" (result "single" "ok") t.singleDone).count
    "glossa_batch_total" (result "single" "error") t.singleFailed).count
    "glossa_batch_total" (result "partitioned" "ok") t.partitionedDone).count
    "glossa_batch_total" (result "partitioned" "error") t.partitionedFailed

/-- Adds what a queue and its consumer have counted, and the length last reported. -/
def queue (r : Reading) (q : Invalidation.Queue) (consumptions : Nat) : Reading :=
  let r := (r.count "glossa_invalidation_dropped_total" [] q.dropped).count
    "glossa_invalidation_consume_ms" [] consumptions
  { r with queueLength := q.gauge }

/-- Adds failed calls by peer. -/
def peers (r : Reading) (failures : Table String Nat) : Reading :=
  failures.foldl (fun r e =>
    r.count "glossa_remote_call_failed_total" [("peer", e.1)] e.2) r

/-- What was counted since an earlier reading. -/
def since (later earlier : Reading) : Table Series Nat :=
  later.counts.filterMap fun e =>
    let n := e.2 - (earlier.counts.get? e.1).getD 0
    if n = 0 then none else some (e.1, n)

/-- What is shown after an earlier reading: the counts that have grown, by how much, and the
length, in ascending order of the series. -/
def shownSince (later earlier : Reading) : Table Series Nat :=
  let length := later.queueLength.map fun n => (⟨"glossa_invalidation_queue_len", []⟩, n)
  (later.since earlier ++ length.toList).mergeSort fun a b => a.1.le b.1

end Reading

end Nomenclator.Metrics
