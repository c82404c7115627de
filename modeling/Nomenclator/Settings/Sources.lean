import Nomenclator.Settings.Notation
import Nomenclator.Settings.Raw

/-!
# Sources of settings

Settings are read from two files with usual names, which may be missing, from one that was asked
for, which may not, and from the variables of the environment; what comes later wins. A file is
found under its exact name or with an ending that says how it is written.
-/

namespace Nomenclator

namespace Settings

/-- The content of a file of this name and its notation. The exact name comes first, and then it
must have a known ending; otherwise an ending is added. -/
def findFile (s : Surroundings) (name : String) : Option (String × Notation) :=
  match s.read? name with
  | some content =>
    (Notation.all.find? fun n => n.endings.contains (Surroundings.endingOf name)).map fun n =>
      (content, n)
  | none => Notation.all.findSome? fun n => ((n.added name).findSome? s.read?).map fun c => (c, n)

/-- Lays a file over the sources so far. -/
def layerFile (s : Surroundings) (name : String) (required : Bool) (t : Tree) : Option Tree :=
  match findFile s name with
  | some (content, n) => (n.entries? content).map t.layer
  | none => if required then none else some t

/-- What the names of variables that are settings begin with. -/
def variableStart : String := "glossa__"

/-- The rest of a text behind another one in front of it. -/
def behind? : List Char → List Char → Option (List Char)
  | [], s => some s
  | c :: w, d :: s => if c == d then behind? w s else none
  | _ :: _, [] => none

/-- Turns every two underscores into a dot. -/
def dotted : List Char → List Char
  | '_' :: '_' :: s => '.' :: dotted s
  | c :: s => c :: dotted s
  | [] => []

/-- The settings among the variables; their names are the same in any case. -/
def variableEntries (environment : List (String × String)) : List (String × Tree) :=
  environment.filterMap fun v =>
    (behind? variableStart.toList (v.1.toList.map Char.toLower)).map fun rest =>
      (String.ofList (dotted rest), .text v.2)

/-- The files of settings that are looked for in any case, weakest first. -/
def usualFiles : List String := ["config/default", "glossa"]

/-- The names under which files of settings may be found. -/
def fileNames (file : Option String) : List String :=
  (usualFiles ++ file.toList).flatMap fun name => name :: Notation.all.flatMap fun n => n.added name

/-- The groups of settings with the names of their members. -/
def groups : List (String × List String) :=
  [("server", ["host", "port"]),
    ("logging", ["level", "json"]),
    ("resolver", ["label_properties", "description_properties", "type_properties", "languages",
      "batch_size", "batch_workers", "batch_timeout_seconds"]),
    ("cache", ["enabled", "per_store_limit", "ttl_seconds", "event_queue_limit",
      "auto_consume_interval_ms", "consume_batch_limit"]),
    ("remote", ["peers"]),
    ("data", ["dataset", "default_repository"])]

/-- The names of the members of a group. -/
def membersOf (group : String) : List String :=
  ((groups.find? (·.1 == group)).map (·.2)).getD []

/-- The variables that are settings, as they are usually written. -/
def variableNames : List String :=
  groups.flatMap fun g => g.2.map fun member =>
    String.ofList ((variableStart ++ g.1 ++ "__" ++ member).toList.map Char.toUpper)

/-- All sources, one laid over the other. -/
def merged (s : Surroundings) (file : Option String) : Option Tree := do
  let t ← usualFiles.foldlM (fun t name => layerFile s name false t) (Tree.table [])
  let t ← match file with
    | some name => layerFile s name true t
    | none => some t
  return t.layer (variableEntries s.environment)

end Settings

namespace RawSettings

open Settings (Tree membersOf)

/-- The most that a service number may be. -/
def serviceLimit : Nat := 65535

/-- Reads the group of the address. -/
def readServer (t : Tree) (r : RawSettings) : Option RawSettings := do
  let get ← t.members? (membersOf "server")
  return { r with
    host := ← Tree.optional Tree.text? (get "host")
    service := ← Tree.optional (Tree.number? serviceLimit) (get "port") }

/-- Reads the group of the log. -/
def readLogging (t : Tree) (r : RawSettings) : Option RawSettings := do
  let get ← t.members? (membersOf "logging")
  return { r with
    level := ← Tree.optional Tree.text? (get "level")
    json := ← Tree.optional Tree.bool? (get "json") }

/-- A number of the usual size. -/
def number? : Tree → Option Nat := Tree.number? Tree.unsignedLimit

/-- Reads the group of properties, languages and batches. -/
def readResolver (t : Tree) (r : RawSettings) : Option RawSettings := do
  let get ← t.members? (membersOf "resolver")
  return { r with
    labelProperties := ← Tree.optional Tree.texts? (get "label_properties")
    descriptionProperties := ← Tree.optional Tree.texts? (get "description_properties")
    typeProperties := ← Tree.optional Tree.texts? (get "type_properties")
    languages := ← Tree.optional Tree.texts? (get "languages")
    batchSize := ← Tree.optional number? (get "batch_size")
    batchWorkers := ← Tree.optional number? (get "batch_workers")
    batchTimeoutSeconds := ← Tree.optional number? (get "batch_timeout_seconds") }

/-- Reads the group of the caches. -/
def readCache (t : Tree) (r : RawSettings) : Option RawSettings := do
  let get ← t.members? (membersOf "cache")
  return { r with
    cacheEnabled := ← Tree.optional Tree.bool? (get "enabled")
    perStoreLimit := ← Tree.optional number? (get "per_store_limit")
    ttlSeconds := ← Tree.optional number? (get "ttl_seconds")
    eventQueueLimit := ← Tree.optional number? (get "event_queue_limit")
    autoConsumeMs := ← Tree.optional number? (get "auto_consume_interval_ms")
    consumeBatchLimit := ← Tree.optional number? (get "consume_batch_limit") }

/-- Reads a peer. In the form of a list it must be complete. -/
def readPeer (t : Tree) : Option RawPeer := do
  let names := ["name", "url", "timeout_seconds", "capabilities"]
  if let .list ts := t then
    if ts.length < names.length then none
  let get ← t.members? names
  return {
    name := ← (get "name").bind Tree.text?
    url := ← (get "url").bind Tree.text?
    timeoutSeconds := ← Tree.optional number? (get "timeout_seconds")
    capabilities := ← Tree.optional Tree.texts? (get "capabilities") }

/-- Reads the group of the peers. -/
def readRemote (t : Tree) (r : RawSettings) : Option RawSettings := do
  let get ← t.members? (membersOf "remote")
  match get "peers" with
  | none => return r
  | some (.list ts) => return { r with peers := ← ts.mapM readPeer }
  | some _ => none

/-- Reads the group of the data. -/
def readData (t : Tree) (r : RawSettings) : Option RawSettings := do
  let get ← t.members? (membersOf "data")
  return { r with
    dataset := ← Tree.optional Tree.text? (get "dataset")
    repository := ← Tree.optional Tree.text? (get "default_repository") }

/-- Reads all groups; a group may be missing, and others mean nothing. -/
def ofTree? (t : Tree) : Option RawSettings :=
  let groups : List (String × (Tree → RawSettings → Option RawSettings)) :=
    [("server", readServer), ("logging", readLogging), ("resolver", readResolver),
      ("cache", readCache), ("remote", readRemote), ("data", readData)]
  groups.foldlM (fun r g =>
    match Tree.get? t.entries g.1 with
    | some group => g.2 group r
    | none => some r) {}

/-- What the sources choose. -/
def load (s : Surroundings) (file : Option String) : Except SettingsError RawSettings :=
  match (Settings.merged s file).bind ofTree? with
  | some r => .ok r
  | none => .error .unreadable

end RawSettings

end Nomenclator
