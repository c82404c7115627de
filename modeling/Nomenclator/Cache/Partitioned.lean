import Nomenclator.Cache.Config
import Nomenclator.Cache.Recency
import Nomenclator.Loader

/-!
# Partitioned caches

A cache keeps one recency list per store. A partition comes into being with the first request
for its store and goes when the store is invalidated. Each partition carries a serial number,
because a load may be under way when its partition goes: what it brings then belongs to a
partition that no longer exists and must not turn up in the one that came after.

A request is two steps. The first reads what is kept and notes what is missing; the second
records what was loaded. A cache that is switched off takes the same steps and keeps nothing.

There is no clock here. Of a cache whose entries have a limited time, lookups and peeks would
compare ages: an entry whose time is over reads as unknown, and a lookup that comes upon it drops
it. That check is left out of them, and `lapse` takes its place: it may happen to any entry at any
time, and drops the entry as the next lookup of it would have. So an entry whose time is over and
that has not been looked up yet, which reads as unknown but still takes up room, is not shown.
-/

namespace Nomenclator.Cache

/-- The entries of one store. -/
structure Partition (κ ν : Type) where
  serial : Nat
  entries : Recency κ ν
  deriving Inhabited

/-- A cache with one partition per store. -/
structure Partitioned (κ ν : Type) where
  id : String
  config : Config
  /-- The resource that a key belongs to; without it the cache ignores changes of resources. -/
  scope : Option (κ → ResourceId)
  partitions : Table StoreName (Partition κ ν)
  /-- The serial number of the next partition. -/
  serials : Nat
  hits : Nat
  misses : Nat
  evictions : Nat

namespace Partitioned

variable {κ ν : Type} [BEq κ]

/-- A cache in which nothing is kept yet. -/
def empty (id : String) (config : Config) (scope : Option (κ → ResourceId)) :
    Partitioned κ ν :=
  ⟨id, config, scope, [], 0, 0, 0, 0⟩

instance : Inhabited (Partitioned κ ν) := ⟨empty "" {} none⟩

/-- The entries of a store; a store without a partition has none. -/
def entries (c : Partitioned κ ν) (store : StoreName) : Recency κ ν :=
  ((c.partitions.get? store).map (·.entries)).getD []

/-- The number of entries of a store, confirmed absences included. -/
def size (c : Partitioned κ ν) (store : StoreName) : Nat :=
  (c.entries store).length

/-- What is kept for a key, without loading or promoting anything. -/
def peek (c : Partitioned κ ν) (store : StoreName) (k : κ) : Resolution ν :=
  match (c.entries store).peek? k with
  | some v => .ofOption v
  | none => .unknown

/-- What is kept for some keys; the others are left out. -/
def peekAll (c : Partitioned κ ν) (store : StoreName) (ks : List κ) : Table κ (Option ν) :=
  Table.ofEntries (ks.filterMap fun k => ((c.entries store).peek? k).map fun v => (k, v))

/-- Makes sure that a store has a partition. -/
def prepare (c : Partitioned κ ν) (store : StoreName) : Partitioned κ ν :=
  if c.partitions.has store then c
  else { c with
    partitions := c.partitions.put store ⟨c.serials, []⟩
    serials := c.serials + 1 }

/-- Replaces the entries of a partition that exists. -/
def setEntries (c : Partitioned κ ν) (store : StoreName) (entries : Recency κ ν) :
    Partitioned κ ν :=
  { c with partitions := c.partitions.adjust store fun p => { p with entries := entries } }

/-- Reads and promotes what is kept for a key, and counts the hit or miss. -/
def lookup (c : Partitioned κ ν) (store : StoreName) (k : κ) :
    Option (Option ν) × Partitioned κ ν :=
  if c.config.enabled then
    match (c.entries store).peek? k with
    | some v =>
      (some v, { c.setEntries store ((c.entries store).touch k) with hits := c.hits + 1 })
    | none => (none, { c with misses := c.misses + 1 })
  else (none, c)

/-- Records a value for a key, and counts the entry that it pushed out. -/
def insert (c : Partitioned κ ν) (store : StoreName) (k : κ) (v : Option ν) :
    Partitioned κ ν :=
  if c.config.enabled then
    let (evicted, entries) := (c.entries store).push c.config.capacity k v
    { c.setEntries store entries with
      evictions := if evicted then c.evictions + 1 else c.evictions }
  else c

/-- What the first step of a request found: the partition it looked into, what was kept, and
the keys to load, each once and in the order of the request. -/
structure Survey (κ ν : Type) where
  serial : Nat
  kept : Table κ (Resolution ν)
  missing : List κ

/-- Looks keys up one after the other, passing over those already seen. -/
def surveyFrom (store : StoreName) (found : Survey κ ν) (c : Partitioned κ ν) :
    List κ → Survey κ ν × Partitioned κ ν
  | [] => (found, c)
  | k :: rest =>
    if found.kept.has k || found.missing.any (· == k) then surveyFrom store found c rest
    else match c.lookup store k with
      | (some v, c) =>
        surveyFrom store { found with kept := found.kept ++ [(k, .ofOption v)] } c rest
      | (none, c) => surveyFrom store { found with missing := found.missing ++ [k] } c rest

/-- The first step of a request. -/
def survey (c : Partitioned κ ν) (store : StoreName) (ks : List κ) :
    Survey κ ν × Partitioned κ ν :=
  let c := c.prepare store
  let serial := ((c.partitions.get? store).map (·.serial)).getD 0
  surveyFrom store ⟨serial, [], []⟩ c ks

/-- The partition with this serial number is still the one of the store. -/
def current (c : Partitioned κ ν) (store : StoreName) (serial : Nat) : Bool :=
  (c.partitions.get? store).any (·.serial == serial)

/-- Records loaded values in the partition that the first step looked into. -/
def record (c : Partitioned κ ν) (store : StoreName) (serial : Nat)
    (loaded : List (κ × Option ν)) : Partitioned κ ν :=
  if c.current store serial then
    loaded.foldl (fun c e => c.insert store e.1 e.2) c
  else c

/-- The value that a bulk load gave for a key; whatever is not found counts as absent. -/
def loadedValue (loaded : Answers κ ν) (k : κ) : Option ν :=
  (loaded.get? k).bind Resolution.value?

variable {σ : Type}

/-- The value of one key, loaded if it is not kept. A confirmed absence is kept like a value; a
failure of the loader is not, and shows as no value. -/
def getOrLoad (loader : Loader σ κ ν) (store : StoreName) (k : κ) (c : Partitioned κ ν) :
    StateM σ (Option ν × Partitioned κ ν) := do
  let (found, c) := c.survey store [k]
  match found.kept.get? k with
  | some kept => return (kept.value?, c)
  | none =>
    match ← loader.load store k with
    | .ok v => return (some v, c.record store found.serial [(k, some v)])
    | .error .notFound => return (none, c.record store found.serial [(k, none)])
    | .error (.failed _) => return (none, c)

/-- The values of several keys. All that is missing is loaded at once, and if that fails the
request fails and nothing is recorded. The answer covers every key once and has no unknowns. -/
def getAllOrLoad (loader : Loader σ κ ν) (store : StoreName) (ks : List κ)
    (c : Partitioned κ ν) : StateM σ (Except ResolveError (Answers κ ν) × Partitioned κ ν) := do
  let (found, c) := c.survey store ks
  if found.missing.isEmpty then return (.ok found.kept, c)
  match ← (loader.loadAll store found.missing).run with
  | .error e => return (.error e, c)
  | .ok loaded =>
    let fresh := found.missing.map fun k => (k, loadedValue loaded k)
    return (.ok (found.kept ++ fresh.map fun e => (e.1, .ofOption e.2)),
      c.record store found.serial fresh)

/-- The time of an entry is over. -/
def lapse (c : Partitioned κ ν) (store : StoreName) (k : κ) : Partitioned κ ν :=
  c.setEntries store ((c.entries store).without k)

/-- Drops everything. -/
def flush (c : Partitioned κ ν) : Partitioned κ ν := { c with partitions := [] }

/-- Drops one store. -/
def flushStore (c : Partitioned κ ν) (store : StoreName) : Partitioned κ ν :=
  { c with partitions := c.partitions.erase store }

/-- Drops the entries of some resources in every store, if keys belong to resources. -/
def forget (c : Partitioned κ ν) (ids : List ResourceId) : Partitioned κ ν :=
  match c.scope with
  | none => c
  | some resource =>
    { c with partitions := c.partitions.map fun e =>
        (e.1, { e.2 with entries := e.2.entries.filter fun f => !ids.contains (resource f.1) }) }

end Partitioned

end Nomenclator.Cache
