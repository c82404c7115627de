import Nomenclator.Address
import Nomenclator.Batch.Run
import Nomenclator.Cache.Config
import Nomenclator.Discovery.Service
import Nomenclator.Url

/-!
# Settings

All that can be chosen from outside, complete and checked. Every choice has a default.
-/

namespace Nomenclator

open Nomenclator.Language (Preference Tag)

/-- How much is written to the log. -/
inductive Settings.Level where
  | off
  | error
  | warn
  | info
  | debug
  | trace
  deriving Repr, DecidableEq, Inhabited

/-- The name of a level. -/
def Settings.Level.name : Level → String
  | .off => "off"
  | .error => "error"
  | .warn => "warn"
  | .info => "info"
  | .debug => "debug"
  | .trace => "trace"

/-- How the log is written. -/
inductive Settings.Format where
  | json
  | compact
  deriving Repr, DecidableEq, Inhabited

/-- The name of a format. -/
def Settings.Format.name : Format → String
  | .json => "json"
  | .compact => "compact"

/-- A peer to be asked. -/
structure Settings.PeerSettings where
  name : String
  base : Url
  /-- How long to wait for a reply, in seconds. -/
  timeout : Nat
  capabilities : Discovery.Capabilities
  deriving Inhabited

/-- All settings. -/
structure Settings where
  /-- Where requests are received. -/
  address : Address.Socket
  level : Settings.Level
  format : Settings.Format
  labelProperties : List String
  descriptionProperties : List String
  typeProperties : List String
  languages : Preference
  batch : Batch.Settings
  cache : Cache.Config
  peers : List Settings.PeerSettings
  /-- The file of the dataset to begin with. -/
  dataset : Option String
  /-- The store that is meant when none is named. -/
  repository : StoreName
  deriving Inhabited

namespace Settings

/-- The host and the service number to listen at. -/
def defaultHost : String := "127.0.0.1"

/-- The service number to listen at. -/
def defaultService : Nat := 3000

/-- The properties that carry labels. -/
def defaultLabelProperties : List String :=
  ["http://www.w3.org/2004/02/skos/core#prefLabel",
    "http://www.w3.org/2000/01/rdf-schema#label",
    "http://purl.org/dc/terms/title"]

/-- The properties that carry descriptions. -/
def defaultDescriptionProperties : List String :=
  ["http://www.w3.org/2004/02/skos/core#definition",
    "http://www.w3.org/2000/01/rdf-schema#comment",
    "http://purl.org/dc/terms/description"]

/-- The properties that carry types. -/
def defaultTypeProperties : List String :=
  ["http://www.w3.org/1999/02/22-rdf-syntax-ns#type"]

/-- The language of the defaults. -/
def defaultLanguage : String := "en"

/-- The store of the defaults. -/
def defaultRepository : StoreName := "default"

/-- How long to wait for a peer, in seconds. -/
def defaultPeerTimeout : Nat := 10

/-- The settings when nothing is chosen. -/
def default : Settings where
  address := .v4 [127, 0, 0, 1] defaultService
  level := .info
  format := .compact
  labelProperties := defaultLabelProperties
  descriptionProperties := defaultDescriptionProperties
  typeProperties := defaultTypeProperties
  languages := .single (Tag.ofString defaultLanguage)
  batch := {}
  cache := {}
  peers := []
  dataset := none
  repository := defaultRepository

end Settings

end Nomenclator
