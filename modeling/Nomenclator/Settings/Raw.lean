import Nomenclator.Settings
import Nomenclator.Url.Parser

/-!
# Checking settings

What was chosen is checked group by group in a fixed order, and within a group choice by choice.
The first choice that cannot be used is reported under its key. What was not chosen has its default.
-/

namespace Nomenclator

open Nomenclator.Language (Preference Tag)

/-- A peer as it was written down. -/
structure RawPeer where
  name : String
  url : String
  timeoutSeconds : Option Nat
  capabilities : Option (List String)
  deriving Repr, DecidableEq, Inhabited

/-- What was chosen, with nothing checked but the types. -/
structure RawSettings where
  host : Option String := none
  service : Option Nat := none
  level : Option String := none
  json : Option Bool := none
  labelProperties : Option (List String) := none
  descriptionProperties : Option (List String) := none
  typeProperties : Option (List String) := none
  languages : Option (List String) := none
  batchSize : Option Nat := none
  batchWorkers : Option Nat := none
  batchTimeoutSeconds : Option Nat := none
  cacheEnabled : Option Bool := none
  perStoreLimit : Option Nat := none
  ttlSeconds : Option Nat := none
  eventQueueLimit : Option Nat := none
  autoConsumeMs : Option Nat := none
  consumeBatchLimit : Option Nat := none
  peers : List RawPeer := []
  dataset : Option String := none
  repository : Option String := none
  deriving Repr, DecidableEq, Inhabited

/-- Why settings cannot be used. -/
inductive SettingsError where
  /-- The sources cannot be read, or hold values of wrong types. -/
  | unreadable
  | invalid (key reason : String)
  deriving Repr, DecidableEq

/-- The text of a settings error. -/
def SettingsError.message : SettingsError → String
  | .unreadable => "failed to build configuration"
  | .invalid key reason => s!"invalid configuration for `{key}`: {reason}"

namespace Settings

/-- A choice that must not be zero. -/
def nonZero (key : String) (n : Nat) : Except SettingsError Nat :=
  if n = 0 then .error (.invalid key "must be greater than zero") else .ok n

/-- The address to listen at. -/
def addressOf (r : RawSettings) : Except SettingsError Address.Socket :=
  let text := s!"{r.host.getD defaultHost}:{r.service.getD defaultService}"
  match Address.socket? text.toList with
  | some address => .ok address
  | none =>
    .error (.invalid "server.addr" s!"invalid address `{text}`: invalid socket address syntax")

/-- The level of a name in any case or a number; nothing stands for errors. -/
def Level.ofString? (s : String) : Option Level :=
  match String.ofList (s.toList.map Char.toLower) with
  | "" | "error" => some .error
  | "off" => some .off
  | "warn" => some .warn
  | "info" => some .info
  | "debug" => some .debug
  | "trace" => some .trace
  | _ =>
    (Text.unsigned? s.toList).bind fun n =>
      [Level.off, .error, .warn, .info, .debug, .trace][n]?

/-- What may be chosen for a level. -/
def levelChoices : String :=
  "error parsing level filter: expected one of \"off\", \"error\", \"warn\", \"info\", "
    ++ "\"debug\", \"trace\", or a number 0-5"

/-- The level of the log. -/
def levelOf (r : RawSettings) : Except SettingsError Level :=
  match r.level with
  | none => .ok .info
  | some s =>
    match Level.ofString? s with
    | some level => .ok level
    | none => .error (.invalid "logging.level" ("failed to parse: " ++ levelChoices))

/-- The preference when none is given. -/
def languagesOf (r : RawSettings) : Except SettingsError Preference :=
  (Preference.ofTags ((r.languages.getD [defaultLanguage]).map Tag.ofString)).mapError
    fun e => .invalid "resolver.languages" e.message

/-- How keys are split up; times are given in seconds. -/
def batchOf (r : RawSettings) : Except SettingsError Batch.Settings := do
  let usual : Batch.Settings := {}
  let batchSize ← nonZero "resolver.batch_size" (r.batchSize.getD usual.batchSize)
  let workers ← nonZero "resolver.batch_workers" (r.batchWorkers.getD usual.workers)
  let seconds ← nonZero "resolver.batch_timeout_seconds"
    (r.batchTimeoutSeconds.getD (usual.timeout / 1000))
  return ⟨batchSize, workers, seconds * 1000⟩

/-- How much is kept, and how changes reach it. -/
def cacheOf (r : RawSettings) : Except SettingsError Cache.Config := do
  let usual : Cache.Config := {}
  let perStoreLimit ← nonZero "cache.per_store_limit" (r.perStoreLimit.getD usual.perStoreLimit)
  let eventQueueLimit ←
    nonZero "cache.event_queue_limit" (r.eventQueueLimit.getD usual.eventQueueLimit)
  let autoConsumeMs ←
    nonZero "cache.auto_consume_interval_ms" (r.autoConsumeMs.getD usual.autoConsumeMs)
  let consumeBatchLimit ←
    nonZero "cache.consume_batch_limit" (r.consumeBatchLimit.getD usual.consumeBatchLimit)
  return ⟨r.cacheEnabled.getD usual.enabled, perStoreLimit, r.ttlSeconds.getD usual.ttlSeconds,
    eventQueueLimit, autoConsumeMs, consumeBatchLimit⟩

/-- Adds the capability of a name to others. -/
def addCapability (peer : String) (c : Discovery.Capabilities) (name : String) :
    Except SettingsError Discovery.Capabilities :=
  match String.ofList ((Text.trim name.toList).map Char.toLower) with
  | "label" | "labels" => .ok { c with labels := true }
  | "description" | "descriptions" => .ok { c with descriptions := true }
  | other =>
    .error (.invalid "remote.peers.capabilities"
      s!"peer `{peer}`: unsupported capability `{other}`")

/-- The capabilities of a peer: the named ones, or all that a peer can have. -/
def capabilitiesOf (peer : String) :
    Option (List String) → Except SettingsError Discovery.Capabilities
  | none => .ok ⟨true, true, false⟩
  | some names => names.foldlM (addCapability peer) {}

/-- A peer whose name is not yet taken. -/
def peerOf (taken : List String) (p : RawPeer) : Except SettingsError PeerSettings := do
  let name := Text.trimmed p.name
  if name.isEmpty then throw (.invalid "remote.peers.name" "must not be empty")
  if taken.contains name then throw (.invalid "remote.peers.name" s!"duplicate peer `{name}`")
  let base ← (Url.parse (Text.trimmed p.url)).mapError fun e =>
    .invalid "remote.peers.url" s!"peer `{name}`: {e.message}"
  let timeout ← nonZero "remote.peers.timeout_seconds" (p.timeoutSeconds.getD defaultPeerTimeout)
  let capabilities ← capabilitiesOf name p.capabilities
  return ⟨name, base, timeout, capabilities⟩

/-- The peers in their order; each has a name of its own. -/
def peersOf (done : List PeerSettings) : List RawPeer → Except SettingsError (List PeerSettings)
  | [] => .ok done
  | p :: rest => do
    let peer ← peerOf (done.map (·.name)) p
    peersOf (done ++ [peer]) rest

/-- The store that is meant when none is named. -/
def repositoryOf (r : RawSettings) : Except SettingsError StoreName :=
  let name := (r.repository.map Text.trimmed).getD defaultRepository
  if name.isEmpty then .error (.invalid "data.default_repository" "must not be empty")
  else .ok name

/-- The settings that were chosen, if all of them can be used. -/
def ofRaw (r : RawSettings) : Except SettingsError Settings := do
  let address ← addressOf r
  let level ← levelOf r
  let languages ← languagesOf r
  let batch ← batchOf r
  let cache ← cacheOf r
  let peers ← peersOf [] r.peers
  let repository ← repositoryOf r
  return {
    address, level, languages, batch, cache, peers, repository
    format := if r.json.getD false then .json else .compact
    labelProperties := r.labelProperties.getD defaultLabelProperties
    descriptionProperties := r.descriptionProperties.getD defaultDescriptionProperties
    typeProperties := r.typeProperties.getD defaultTypeProperties
    dataset := r.dataset.filter fun path => !path.isEmpty }

end Settings

end Nomenclator
