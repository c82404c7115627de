import Nomenclator.Proofs.Effect
import Nomenclator.Proofs.Wording
import Nomenclator.Settings.Raw

/-!
# Which settings are accepted

Choices are checked one after the other, and the first one that cannot be used ends the
checks. But what is wrong with a choice does not depend on what has been checked before, so
all that is wrong can be listed. A check goes with its part of the list: it fails with the
first entry, or the part is empty and the value is what was chosen. Checks in a row go with the
parts in a row, and that carries the statement from single choices to all of them.

The names of the peers are the one place where a check looks back, to the peers that have been
accepted so far. All peers in front of a peer have been accepted when it is checked, under the
names that they were given, and so the list may compare it with these.

A list without entries says that every condition is met. Accepted settings are what was
chosen, so what the rest of the program takes for granted follows from the conditions alone.
-/

namespace Nomenclator

/-! ## Texts -/

namespace Text

theorem valueOf_toDigits (n : Nat) : valueOf 10 (Nat.toDigits 10 n) = n := by
  have hdigits : ∀ (s : List Char) (start : Nat), (∀ c ∈ s, c.isDigit = true) →
      s.foldl (fun n c => n * 10 + digitValue c) start = Nat.ofDigitChars 10 s start := by
    intro s
    induction s with
    | nil => exact fun _ _ => rfl
    | cons c s ih =>
        intro start hs
        have hrest : ∀ d ∈ s, d.isDigit = true := fun d hd => hs d (List.mem_cons_of_mem _ hd)
        rw [List.foldl_cons, Nat.ofDigitChars_cons, ih _ hrest, digitValue,
          if_pos (hs c List.mem_cons_self), Nat.mul_comm]
  unfold valueOf
  rw [hdigits _ 0 fun c hc => Nat.isDigit_of_mem_toDigits (by decide) (by decide) hc]
  exact Nat.ofDigitChars_ten_toDigits

theorem isEmpty_trimmed (s : String) : (trimmed s).isEmpty = allBlank s := by
  rw [Bool.eq_iff_iff, String.isEmpty_iff, Candidates.allBlank_iff, trimmed, ← String.toList_inj,
    String.toList_ofList]
  rfl

theorem trimmed_ne_empty {s : String} (h : allBlank s = false) : trimmed s ≠ "" := by
  rw [← isEmpty_trimmed] at h
  intro hempty
  rw [hempty] at h
  cases h

theorem of_digits? {base n : Nat} {s : List Char} (h : digits? base s = some n) :
    (∀ c ∈ s, isDigitOf base c = true) ∧ valueOf base s = n := by
  unfold digits? at h
  split at h
  · next hall =>
      rw [Bool.and_eq_true, List.all_eq_true] at hall
      exact ⟨hall.2, Option.some.inj h⟩
  · cases h

end Text

namespace Address

/-- The number of the service of a socket. -/
def Socket.service : Socket → Nat
  | .v4 _ n | .v6 _ _ n => n

theorem of_service? {s : List Char} {n : Nat} (h : service? s = some n) :
    ':' ∉ s ∧ Text.valueOf 10 s = n := by
  obtain ⟨hdigits, -⟩ := Option.filter_eq_some_iff.1 h
  obtain ⟨hall, hvalue⟩ := Text.of_digits? hdigits
  refine ⟨fun hmem => ?_, hvalue⟩
  have hcolon := hall ':' hmem
  revert hcolon
  decide

theorem exists_of_dropWhile {s rest : List Char} {c : Char}
    (h : s.dropWhile (· != c) = c :: rest) : ∃ front, s = front ++ c :: rest :=
  ⟨s.takeWhile (· != c), by rw [← h, List.takeWhile_append_dropWhile]⟩

/-- A socket is written with its service number behind a colon. -/
theorem exists_of_socket? {s : List Char} {a : Socket} (h : socket? s = some a) :
    ∃ front n, s = front ++ ':' :: n ∧ service? n = some a.service := by
  unfold socket? at h
  split at h
  · next rest =>
      dsimp only at h
      split at h
      · next n hrest =>
          obtain ⟨service, hservice, h⟩ := Option.bind_eq_some_iff.1 h
          obtain ⟨groups, -, h⟩ := Option.bind_eq_some_iff.1 h
          have ha : a.service = service := by
            split at h
            all_goals
              obtain ⟨scope, -, h⟩ := Option.bind_eq_some_iff.1 h
              exact Option.some.inj h ▸ rfl
          obtain ⟨front, hfront⟩ := exists_of_dropWhile hrest
          refine ⟨'[' :: front ++ [']'], n, ?_, ha ▸ hservice⟩
          rw [hfront, List.append_assoc]
          rfl
      · cases h
  · obtain ⟨octets, -, h⟩ := Option.bind_eq_some_iff.1 h
    dsimp only at h
    split at h
    · next n hrest =>
        obtain ⟨service, hservice, h⟩ := Option.bind_eq_some_iff.1 h
        obtain ⟨front, hfront⟩ := exists_of_dropWhile hrest
        exact ⟨front, n, hfront, Option.some.inj h ▸ hservice⟩
    · cases h

theorem service_of_socket? {front : List Char} {n : Nat} {a : Socket}
    (h : socket? (front ++ ':' :: Nat.toDigits 10 n) = some a) : a.service = n := by
  obtain ⟨front', digits, heq, hservice⟩ := exists_of_socket? h
  obtain ⟨hcolon, hvalue⟩ := of_service? hservice
  have hplain : ':' ∉ Nat.toDigits 10 n := fun hmem =>
    absurd (Nat.isDigit_of_mem_toDigits (by decide) (by decide) hmem) (by decide)
  obtain ⟨-, rfl⟩ := Text.cut_last hplain hcolon heq
  rw [← hvalue, Text.valueOf_toDigits]

end Address

/-! ## What is wrong with choices -/

open Settings (defaultHost defaultService defaultLanguage defaultRepository defaultPeerTimeout)

/-- What is wrong with a number that must not be zero. -/
def zeroFaults (key : String) (choice : Option Nat) : List SettingsError :=
  unmet (choice ≠ some 0) (.invalid key "must be greater than zero")

namespace RawPeer

def labelWords : List String := ["label", "labels"]

def descriptionWords : List String := ["description", "descriptions"]

/-- The name of a capability without blanks around it and in lower case. -/
def capabilityWord (name : String) : String :=
  String.ofList ((Text.trim name.toList).map Char.toLower)

/-- Capabilities and those that some names stand for. -/
def added (c : Discovery.Capabilities) (names : List String) : Discovery.Capabilities :=
  ⟨c.labels || names.any (capabilityWord · ∈ labelWords),
    c.descriptions || names.any (capabilityWord · ∈ descriptionWords), c.types⟩

theorem added_cons (c : Discovery.Capabilities) (name : String) (names : List String) :
    added c (name :: names) = added (added c [name]) names := by
  simp [added, Bool.or_assoc]

variable (p : RawPeer)

/-- The name that a peer is known by. -/
def ownName : String := Text.trimmed p.name

/-- What a peer is asked for. -/
def claimed : Discovery.Capabilities :=
  match p.capabilities with
  | none => ⟨true, true, false⟩
  | some names => added {} names

def urlFaults : List SettingsError :=
  match Url.parse (Text.trimmed p.url) with
  | .ok _ => []
  | .error e => [.invalid "remote.peers.url" s!"peer `{p.ownName}`: {e.message}"]

/-- What is wrong with one of the capabilities of a peer. -/
def wordFaults (name : String) : List SettingsError :=
  unmet (capabilityWord name ∈ labelWords ++ descriptionWords)
    (.invalid "remote.peers.capabilities"
      s!"peer `{p.ownName}`: unsupported capability `{capabilityWord name}`")

def capabilityFaults : List SettingsError := (p.capabilities.getD []).flatMap p.wordFaults

/-- What is wrong with a peer when some names are taken. -/
def faults (taken : List String) : List SettingsError :=
  [unmet (Text.allBlank p.name = false) (.invalid "remote.peers.name" "must not be empty"),
    unmet (p.ownName ∉ taken) (.invalid "remote.peers.name" s!"duplicate peer `{p.ownName}`"),
    p.urlFaults,
    zeroFaults "remote.peers.timeout_seconds" p.timeoutSeconds,
    p.capabilityFaults].flatten

/-- A peer that can be used, whatever others are called. Blanks around its address do not
count. -/
structure Usable : Prop where
  name : Text.allBlank p.name = false
  url : ∃ base, Url.parse (Text.trimmed p.url) = .ok base
  timeout : p.timeoutSeconds ≠ some 0
  capabilities : ∀ names ∈ p.capabilities, ∀ name ∈ names,
    capabilityWord name ∈ labelWords ++ descriptionWords

variable {p}

theorem urlFaults_eq_nil_iff :
    p.urlFaults = [] ↔ ∃ base, Url.parse (Text.trimmed p.url) = .ok base := by
  unfold urlFaults
  cases Url.parse (Text.trimmed p.url) <;> simp

theorem capabilityFaults_eq_nil_iff :
    p.capabilityFaults = [] ↔
      ∀ names ∈ p.capabilities, ∀ name ∈ names,
        capabilityWord name ∈ labelWords ++ descriptionWords := by
  rw [capabilityFaults, List.flatMap_eq_nil_iff]
  cases p.capabilities <;> simp [wordFaults, unmet_eq_nil_iff]

theorem faults_eq_nil_iff {taken : List String} :
    p.faults taken = [] ↔ p.ownName ∉ taken ∧ p.Usable := by
  unfold faults zeroFaults
  simp only [List.flatten_eq_nil_iff, List.forall_mem_cons, unmet_eq_nil_iff,
    urlFaults_eq_nil_iff, capabilityFaults_eq_nil_iff]
  exact ⟨fun ⟨hname, htaken, hurl, htimeout, hcapabilities, _⟩ =>
      ⟨htaken, hname, hurl, htimeout, hcapabilities⟩,
    fun ⟨htaken, h⟩ => ⟨h.name, htaken, h.url, h.timeout, h.capabilities, nofun⟩⟩

end RawPeer

namespace RawSettings

variable (r : RawSettings)

/-- The address to listen at, as it is read. -/
def addressText : String := s!"{r.host.getD defaultHost}:{r.service.getD defaultService}"

def addressFaults : List SettingsError :=
  unmet (Address.socket? r.addressText.toList).isSome
    (.invalid "server.addr" s!"invalid address `{r.addressText}`: invalid socket address syntax")

def levelFaults : List SettingsError :=
  unmet (∀ s ∈ r.level, (Settings.Level.ofString? s).isSome)
    (.invalid "logging.level" ("failed to parse: " ++ Settings.levelChoices))

def languageFaults : List SettingsError :=
  unmet (r.languages ≠ some [])
    (.invalid "resolver.languages" (Language.DomainError.invariant
      "preferred language list must contain at least one entry").message)

def batchFaults : List SettingsError :=
  [zeroFaults "resolver.batch_size" r.batchSize,
    zeroFaults "resolver.batch_workers" r.batchWorkers,
    zeroFaults "resolver.batch_timeout_seconds" r.batchTimeoutSeconds].flatten

def cacheFaults : List SettingsError :=
  [zeroFaults "cache.per_store_limit" r.perStoreLimit,
    zeroFaults "cache.event_queue_limit" r.eventQueueLimit,
    zeroFaults "cache.auto_consume_interval_ms" r.autoConsumeMs,
    zeroFaults "cache.consume_batch_limit" r.consumeBatchLimit].flatten

/-- What is wrong with peers when some names are taken. Every peer takes its own name, whatever
else is wrong with it. -/
def peerFaults : List String → List RawPeer → List SettingsError
  | _, [] => []
  | taken, p :: rest => p.faults taken ++ peerFaults (taken ++ [p.ownName]) rest

def repositoryFaults : List SettingsError :=
  unmet (∀ name ∈ r.repository, Text.allBlank name = false)
    (.invalid "data.default_repository" "must not be empty")

/-- All that is wrong, group by group. -/
def faults : List SettingsError :=
  [r.addressFaults, r.levelFaults, r.languageFaults, r.batchFaults, r.cacheFaults,
    peerFaults [] r.peers, r.repositoryFaults].flatten

/-- Choices that can be used. -/
structure Usable : Prop where
  address : (Address.socket? r.addressText.toList).isSome
  level : ∀ s ∈ r.level, (Settings.Level.ofString? s).isSome
  languages : r.languages ≠ some []
  batchSize : r.batchSize ≠ some 0
  batchWorkers : r.batchWorkers ≠ some 0
  batchTimeoutSeconds : r.batchTimeoutSeconds ≠ some 0
  perStoreLimit : r.perStoreLimit ≠ some 0
  eventQueueLimit : r.eventQueueLimit ≠ some 0
  autoConsumeMs : r.autoConsumeMs ≠ some 0
  consumeBatchLimit : r.consumeBatchLimit ≠ some 0
  peers : ∀ p ∈ r.peers, p.Usable
  names : (r.peers.map RawPeer.ownName).Nodup
  repository : ∀ name ∈ r.repository, Text.allBlank name = false

variable {r}

theorem peerFaults_eq_nil_iff {taken : List String} {ps : List RawPeer} :
    peerFaults taken ps = [] ↔
      (∀ p ∈ ps, p.Usable) ∧ (ps.map RawPeer.ownName).Nodup ∧ ∀ p ∈ ps, p.ownName ∉ taken := by
  induction ps generalizing taken with
  | nil => simp [peerFaults]
  | cons p ps ih =>
      rw [peerFaults, List.append_eq_nil_iff, ih, RawPeer.faults_eq_nil_iff]
      simp only [List.forall_mem_cons, List.map_cons, List.nodup_cons, List.mem_map,
        List.mem_append, List.mem_singleton, not_or, not_exists, not_and]
      grind

theorem faults_eq_nil_iff : r.faults = [] ↔ r.Usable := by
  unfold faults addressFaults levelFaults languageFaults batchFaults cacheFaults repositoryFaults
    zeroFaults
  simp only [List.flatten_eq_nil_iff, List.forall_mem_cons, unmet_eq_nil_iff,
    peerFaults_eq_nil_iff]
  constructor
  · rintro ⟨haddress, hlevel, hlanguages, ⟨hsize, hworkers, htimeout, -⟩,
      ⟨hstore, hqueue, hauto, hconsume, -⟩, ⟨hpeers, hnames, -⟩, hrepository, -⟩
    exact ⟨haddress, hlevel, hlanguages, hsize, hworkers, htimeout, hstore, hqueue, hauto,
      hconsume, hpeers, hnames, hrepository⟩
  · exact fun h => ⟨h.address, h.level, h.languages,
      ⟨h.batchSize, h.batchWorkers, h.batchTimeoutSeconds, nofun⟩,
      ⟨h.perStoreLimit, h.eventQueueLimit, h.autoConsumeMs, h.consumeBatchLimit, nofun⟩,
      ⟨h.peers, h.names, nofun⟩, h.repository, nofun⟩

instance : DecidablePred Usable := fun r => decidable_of_iff (r.faults = []) faults_eq_nil_iff

/-- The batches that are meant. -/
def batch (r : RawSettings) : Batch.Settings :=
  let usual : Batch.Settings := {}
  ⟨r.batchSize.getD usual.batchSize, r.batchWorkers.getD usual.workers,
    r.batchTimeoutSeconds.getD (usual.timeout / 1000) * 1000⟩

/-- The caches that are meant. -/
def cache (r : RawSettings) : Cache.Config :=
  let usual : Cache.Config := {}
  ⟨r.cacheEnabled.getD usual.enabled, r.perStoreLimit.getD usual.perStoreLimit,
    r.ttlSeconds.getD usual.ttlSeconds, r.eventQueueLimit.getD usual.eventQueueLimit,
    r.autoConsumeMs.getD usual.autoConsumeMs, r.consumeBatchLimit.getD usual.consumeBatchLimit⟩

end RawSettings

/-! ## What is accepted -/

namespace Settings

/-- The settings of a peer are what was written down. -/
structure PeerSettings.Follows (s : PeerSettings) (p : RawPeer) : Prop where
  name : s.name = p.ownName
  base : Url.parse (Text.trimmed p.url) = .ok s.base
  timeout : s.timeout = p.timeoutSeconds.getD defaultPeerTimeout
  capabilities : s.capabilities = p.claimed

/-- Settings are what was chosen, and usual where nothing was chosen. -/
structure Follows (s : Settings) (r : RawSettings) : Prop where
  address : Address.socket? r.addressText.toList = some s.address
  service : s.address.service = r.service.getD defaultService
  level : s.level = (r.level.bind Level.ofString?).getD .info
  format : s.format = if r.json.getD false then .json else .compact
  labelProperties : s.labelProperties = r.labelProperties.getD defaultLabelProperties
  descriptionProperties :
    s.descriptionProperties = r.descriptionProperties.getD defaultDescriptionProperties
  typeProperties : s.typeProperties = r.typeProperties.getD defaultTypeProperties
  languages : s.languages.tags =
    (r.languages.getD [defaultLanguage]).map Language.Tag.ofString
  batch : s.batch = r.batch
  cache : s.cache = r.cache
  peers : List.Forall₂ PeerSettings.Follows s.peers r.peers
  dataset : s.dataset = r.dataset.filter fun path => !path.isEmpty
  repository : s.repository = (r.repository.map Text.trimmed).getD defaultRepository

variable {r : RawSettings} {key : String}

theorem nonZero_checks {usual : Nat} (husual : usual ≠ 0) (choice : Option Nat) :
    Checks (· = choice.getD usual) (nonZero key (choice.getD usual)) (zeroFaults key choice) := by
  have hzero : choice.getD usual = 0 ↔ ¬ choice ≠ some 0 := by
    cases choice <;> simp [husual]
  rw [← List.append_nil (zeroFaults key choice)]
  exact Checks.guard hzero fun _ => .accepted rfl

theorem addressOf_checks (r : RawSettings) :
    Checks (fun a => Address.socket? r.addressText.toList = some a) (addressOf r)
      r.addressFaults := by
  unfold addressOf RawSettings.addressFaults
  dsimp only
  split
  · next a haddress =>
      have haddress : Address.socket? r.addressText.toList = some a := haddress
      exact .of_met (Option.isSome_of_eq_some haddress) haddress
  · next hnone =>
      have hnone : Address.socket? r.addressText.toList = none := hnone
      exact .of_not_met (by rw [hnone]; nofun)

theorem service_of_address {a : Address.Socket}
    (h : Address.socket? r.addressText.toList = some a) :
    a.service = r.service.getD defaultService := by
  have htext : r.addressText.toList =
      (r.host.getD defaultHost).toList ++
        ':' :: Nat.toDigits 10 (r.service.getD defaultService) := by
    show (r.host.getD defaultHost ++ ":" ++ toString (r.service.getD defaultService)).toList = _
    simp
  rw [htext] at h
  exact Address.service_of_socket? h

theorem levelOf_checks (r : RawSettings) :
    Checks (· = (r.level.bind Level.ofString?).getD .info) (levelOf r) r.levelFaults := by
  unfold levelOf RawSettings.levelFaults
  cases r.level with
  | none => exact .of_met nofun rfl
  | some s =>
      dsimp only
      cases hread : Level.ofString? s with
      | some level => exact .of_met (by simp [hread]) (by simp [hread])
      | none => exact .of_not_met (by simp [hread])

theorem languagesOf_checks (r : RawSettings) :
    Checks (fun p => p.tags = (r.languages.getD [defaultLanguage]).map Language.Tag.ofString)
      (languagesOf r) r.languageFaults := by
  unfold languagesOf RawSettings.languageFaults
  cases r.languages with
  | none => exact .of_met nofun rfl
  | some tags =>
      cases tags with
      | nil => exact .of_not_met fun h => h rfl
      | cons tag tags => exact .of_met nofun rfl

theorem batchOf_checks (r : RawSettings) : Checks (· = r.batch) (batchOf r) r.batchFaults := by
  refine (nonZero_checks (by decide) r.batchSize).bind fun size hsize => ?_
  refine (nonZero_checks (by decide) r.batchWorkers).bind fun workers hworkers => ?_
  refine (nonZero_checks (by decide) r.batchTimeoutSeconds).bind fun seconds hseconds => ?_
  subst hsize hworkers hseconds
  exact .accepted rfl

theorem cacheOf_checks (r : RawSettings) : Checks (· = r.cache) (cacheOf r) r.cacheFaults := by
  refine (nonZero_checks (by decide) r.perStoreLimit).bind fun perStore hperStore => ?_
  refine (nonZero_checks (by decide) r.eventQueueLimit).bind fun queue hqueue => ?_
  refine (nonZero_checks (by decide) r.autoConsumeMs).bind fun auto hauto => ?_
  refine (nonZero_checks (by decide) r.consumeBatchLimit).bind fun consume hconsume => ?_
  subst hperStore hqueue hauto hconsume
  exact .accepted rfl

/-! ### Peers -/

theorem addCapability_checks (p : RawPeer) (c : Discovery.Capabilities) (name : String) :
    Checks (· = RawPeer.added c [name]) (addCapability p.ownName c name)
      (p.wordFaults name) := by
  unfold addCapability RawPeer.wordFaults RawPeer.added
  rw [List.any_cons, List.any_nil, List.any_cons, List.any_nil]
  generalize hword : RawPeer.capabilityWord name = word
  rw [show String.ofList ((Text.trim name.toList).map Char.toLower) = word from hword]
  split
  case h_5 h₁ h₂ h₃ h₄ =>
    refine .of_not_met fun hmem => ?_
    simp only [RawPeer.labelWords, RawPeer.descriptionWords, List.cons_append, List.nil_append,
      List.mem_cons, List.not_mem_nil, or_false] at hmem
    rcases hmem with hmem | hmem | hmem | hmem
    exacts [h₁ hmem, h₂ hmem, h₃ hmem, h₄ hmem]
  all_goals exact .of_met (by decide) (by simp [RawPeer.labelWords, RawPeer.descriptionWords])

theorem addAll_checks (p : RawPeer) (c : Discovery.Capabilities) (names : List String) :
    Checks (· = RawPeer.added c names) (names.foldlM (addCapability p.ownName) c)
      (names.flatMap p.wordFaults) := by
  induction names generalizing c with
  | nil => exact .accepted (by simp [RawPeer.added])
  | cons name names ih =>
      rw [List.foldlM_cons, List.flatMap_cons, RawPeer.added_cons]
      refine (addCapability_checks p c name).bind fun c' hc' => ?_
      exact hc' ▸ ih c'

theorem capabilitiesOf_checks (p : RawPeer) :
    Checks (· = p.claimed) (capabilitiesOf p.ownName p.capabilities) p.capabilityFaults := by
  unfold capabilitiesOf RawPeer.claimed RawPeer.capabilityFaults
  cases p.capabilities with
  | none => exact .accepted rfl
  | some names => exact addAll_checks p {} names

theorem url_checks (p : RawPeer) :
    Checks (fun base => Url.parse (Text.trimmed p.url) = .ok base)
      ((Url.parse (Text.trimmed p.url)).mapError fun e =>
        .invalid "remote.peers.url" s!"peer `{p.ownName}`: {e.message}") p.urlFaults := by
  unfold RawPeer.urlFaults
  cases Url.parse (Text.trimmed p.url) with
  | ok base => exact .accepted rfl
  | error e => exact .rejected _ []

theorem peerOf_checks (taken : List String) (p : RawPeer) :
    Checks (PeerSettings.Follows · p) (peerOf taken p) (p.faults taken) := by
  unfold peerOf RawPeer.faults
  dsimp only
  refine Checks.guard (by rw [Text.isEmpty_trimmed, Bool.not_eq_false]) fun _ => ?_
  refine Checks.guard (by simp [RawPeer.ownName]) fun _ => ?_
  refine (url_checks p).bind fun base hbase => ?_
  refine (nonZero_checks (by decide) p.timeoutSeconds).bind fun timeout htimeout => ?_
  refine (capabilitiesOf_checks p).bind fun capabilities hcapabilities => ?_
  exact .accepted ⟨rfl, hbase, htimeout, hcapabilities⟩

theorem peersOf_checks (done : List PeerSettings) (ps : List RawPeer) :
    Checks (fun peers => ∃ more, peers = done ++ more ∧ List.Forall₂ PeerSettings.Follows more ps)
      (peersOf done ps) (RawSettings.peerFaults (done.map (·.name)) ps) := by
  induction ps generalizing done with
  | nil => exact .accepted ⟨[], (List.append_nil done).symm, .nil⟩
  | cons p ps ih =>
      refine (peerOf_checks _ p).bind fun peer hpeer => ?_
      have hnames : done.map (·.name) ++ [p.ownName] = (done ++ [peer]).map (·.name) := by
        rw [List.map_append, ← hpeer.name]
        rfl
      rw [hnames]
      refine (ih (done ++ [peer])).imp ?_
      rintro peers ⟨more, rfl, hmore⟩
      exact ⟨peer :: more, List.append_assoc done [peer] more, .cons hpeer hmore⟩

theorem repositoryOf_checks (r : RawSettings) :
    Checks (· = (r.repository.map Text.trimmed).getD defaultRepository) (repositoryOf r)
      r.repositoryFaults := by
  rw [← List.append_nil r.repositoryFaults]
  refine Checks.guard ?_ fun _ => .accepted rfl
  cases r.repository with
  | none => decide
  | some name => simp [Text.isEmpty_trimmed]

/-- Group by group, the first fault is the error, and without a fault the settings are what
was chosen. -/
theorem ofRaw_checks (r : RawSettings) : Checks (·.Follows r) (ofRaw r) r.faults := by
  refine (addressOf_checks r).bind fun address haddress => ?_
  refine (levelOf_checks r).bind fun level hlevel => ?_
  refine (languagesOf_checks r).bind fun languages hlanguages => ?_
  refine (batchOf_checks r).bind fun batch hbatch => ?_
  refine (cacheOf_checks r).bind fun cache hcache => ?_
  refine (peersOf_checks [] r.peers).bind fun peers hpeers => ?_
  refine (repositoryOf_checks r).bind fun repository hrepository => ?_
  obtain ⟨peers, rfl, hpeers⟩ := hpeers
  exact .accepted ⟨haddress, service_of_address haddress, hlevel, rfl, rfl, rfl, rfl, hlanguages,
    hbatch, hcache, hpeers, rfl, hrepository⟩

/-! ### What the rest relies on -/

structure PeerSettings.Sound (s : PeerSettings) : Prop where
  name : s.name ≠ ""
  timeout : 0 < s.timeout
  types : s.capabilities.types = false

/-- No size, limit or time is zero, and peers and stores can be named. -/
structure Sound (s : Settings) : Prop where
  batchSize : 0 < s.batch.batchSize
  workers : 0 < s.batch.workers
  timeout : 0 < s.batch.timeout
  perStoreLimit : 0 < s.cache.perStoreLimit
  eventQueueLimit : 0 < s.cache.eventQueueLimit
  autoConsumeMs : 0 < s.cache.autoConsumeMs
  consumeBatchLimit : 0 < s.cache.consumeBatchLimit
  peers : ∀ p ∈ s.peers, p.Sound
  names : (s.peers.map (·.name)).Nodup
  repository : s.repository ≠ ""

theorem getD_pos {choice : Option Nat} {usual : Nat} (h : choice ≠ some 0) (husual : 0 < usual) :
    0 < choice.getD usual := by
  cases choice with
  | none => exact husual
  | some n => exact Nat.pos_of_ne_zero fun hn => h (congrArg some hn)

theorem PeerSettings.Follows.sound {s : PeerSettings} {p : RawPeer} (h : s.Follows p)
    (hp : p.Usable) : s.Sound where
  name := h.name ▸ Text.trimmed_ne_empty hp.name
  timeout := h.timeout ▸ getD_pos hp.timeout (by decide)
  types := by
    rw [h.capabilities, RawPeer.claimed]
    cases p.capabilities <;> rfl

theorem names_of_follows {peers : List PeerSettings} {ps : List RawPeer}
    (h : List.Forall₂ PeerSettings.Follows peers ps) :
    peers.map (·.name) = ps.map RawPeer.ownName := by
  induction h with
  | nil => rfl
  | cons hpeer _ ih => rw [List.map_cons, List.map_cons, hpeer.name, ih]

theorem sound_of_follows {peers : List PeerSettings} {ps : List RawPeer}
    (h : List.Forall₂ PeerSettings.Follows peers ps) (hps : ∀ p ∈ ps, p.Usable) :
    ∀ peer ∈ peers, peer.Sound := by
  induction h with
  | nil => exact fun peer hmem => absurd hmem List.not_mem_nil
  | cons hpeer _ ih =>
      obtain ⟨hp, hps⟩ := List.forall_mem_cons.1 hps
      exact List.forall_mem_cons.2 ⟨hpeer.sound hp, ih hps⟩

theorem Follows.sound {s : Settings} (h : s.Follows r) (hr : r.Usable) : s.Sound where
  batchSize := h.batch ▸ getD_pos hr.batchSize (by decide)
  workers := h.batch ▸ getD_pos hr.batchWorkers (by decide)
  timeout := h.batch ▸ Nat.mul_pos (getD_pos hr.batchTimeoutSeconds (by decide)) (by decide)
  perStoreLimit := h.cache ▸ getD_pos hr.perStoreLimit (by decide)
  eventQueueLimit := h.cache ▸ getD_pos hr.eventQueueLimit (by decide)
  autoConsumeMs := h.cache ▸ getD_pos hr.autoConsumeMs (by decide)
  consumeBatchLimit := h.cache ▸ getD_pos hr.consumeBatchLimit (by decide)
  peers := sound_of_follows h.peers hr.peers
  names := names_of_follows h.peers ▸ hr.names
  repository := by
    rw [h.repository]
    cases hname : r.repository with
    | none => decide
    | some name => exact Text.trimmed_ne_empty (hr.repository name hname)

theorem sound_of_accepted {settings : Settings} (h : ofRaw r = .ok settings) :
    settings.Sound :=
  ((ofRaw_checks r).of_eq_ok h).sound
    (RawSettings.faults_eq_nil_iff.1 ((ofRaw_checks r).exists_ok_iff.1 ⟨settings, h⟩))

/-- Choices are accepted if and only if they can be used, and otherwise the first thing that
is wrong, in the order of the groups and peer by peer, is the error. Accepted settings are what
was chosen, with every number as it was given and the peers in their order, and they are fit
for the rest of the program. -/
theorem ofRaw_exact (r : RawSettings) :
    ((∃ settings, ofRaw r = .ok settings) ↔ r.Usable) ∧
      (∀ e, ofRaw r = .error e ↔ r.faults.head? = some e) ∧
      ∀ settings, ofRaw r = .ok settings → settings.Follows r ∧ settings.Sound :=
  have h := ofRaw_checks r
  ⟨h.exists_ok_iff.trans RawSettings.faults_eq_nil_iff, fun _ => h.eq_error_iff,
    fun _ hok => ⟨h.of_eq_ok hok, sound_of_accepted hok⟩⟩

/-- One peer that can be used, and a second one that takes its name. Of all that is wrong with
the second one only this is reported. -/
theorem ofRaw_exact_two_peers :
    let first : RawPeer := ⟨" dictionary", "http://[::1]:4000/", some 7, some [" Labels"]⟩
    let second : RawPeer := ⟨"dictionary ", "nowhere", some 0, some ["type"]⟩
    let raw : RawSettings := { service := some 4100, batchSize := some 200, peers := [first] }
    (∃ settings, ofRaw raw = .ok settings ∧ settings.address.service = 4100 ∧
      settings.batch = ⟨200, 5, 30000⟩ ∧ settings.peers.map (·.name) = ["dictionary"]) ∧
    ofRaw { raw with peers := [first, second], repository := some " " } =
      .error (.invalid "remote.peers.name" "duplicate peer `dictionary`") := by
  intro first second raw
  refine ⟨?_, ((ofRaw_exact _).2.1 _).2 (by decide +kernel)⟩
  obtain ⟨settings, hok⟩ := (ofRaw_exact raw).1.2 (by decide +kernel)
  obtain ⟨hfollows, -⟩ := (ofRaw_exact raw).2.2 settings hok
  exact ⟨settings, hok, hfollows.service, hfollows.batch.trans (by decide),
    (names_of_follows hfollows.peers).trans (by decide +kernel)⟩

/-- Nothing has to be chosen. -/
example : ofRaw {} = .ok Settings.default := rfl

end Settings

end Nomenclator
