import Nomenclator.CommandLine.Arguments
import Nomenclator.Settings.Sources

/-!
# The command line

The program can serve requests or resolve some resources once. Both commands may override a few
settings, and what they override wins over all sources.
-/

namespace Nomenclator

namespace CommandLine

/-- What can be resolved once. -/
inductive Kind where
  | label
  | description
  | type
  deriving Repr, DecidableEq, Inhabited

/-- The name of a kind. -/
def Kind.name : Kind → String
  | .label => "label"
  | .description => "description"
  | .type => "type"

/-- The kind of a name. -/
def Kind.ofName? (s : String) : Option Kind :=
  [Kind.label, Kind.description, Kind.type].find? fun k => k.name == s

/-- The settings that a command overrides. -/
structure Overrides where
  level : Option String := none
  json : Option Bool := none
  dataset : Option String := none
  languages : Option (List String) := none
  host : Option String := none
  service : Option Nat := none
  cacheEnabled : Option Bool := none
  deriving Repr, DecidableEq, Inhabited

/-- What to resolve. -/
structure Resolve where
  repository : Option String
  kind : Kind
  language : Option String
  ids : List String
  deriving Repr, DecidableEq, Inhabited

/-- What to do. -/
inductive Command where
  | serve (overrides : Overrides)
  | resolve (overrides : Overrides) (what : Resolve)
  deriving Repr, DecidableEq, Inhabited

/-- The settings that a command overrides. -/
def Command.overrides : Command → Overrides
  | .serve o => o
  | .resolve o _ => o

end CommandLine

/-- A command line that has been understood. -/
structure CommandLine where
  /-- The file of settings that was asked for. -/
  configFile : Option String
  command : Option CommandLine.Command
  deriving Repr, DecidableEq, Inhabited

namespace CommandLine

/-- The words for yes and no. -/
def bool? (s : String) : Option Bool :=
  let word := String.ofList (s.toList.map Char.toLower)
  if ["y", "yes", "t", "true", "on", "1"].contains word then some true
  else if ["n", "no", "f", "false", "off", "0"].contains word then some false
  else none

/-- A service number. -/
def service? (s : String) : Option Nat :=
  ((Text.signed? s.toList).filter fun n => 0 ≤ n && n ≤ 65535).map Int.toNat

/-- An option that takes any text. -/
def textOption (name : String) : OptionSpec := ⟨name, false, fun _ => none⟩

/-- An option that takes the name of a file, which is not empty. -/
def fileOption (name : String) : OptionSpec :=
  ⟨name, false, fun s => if s.isEmpty then some .invalidValue else none⟩

/-- An option whose value must be readable. -/
def readOption {α : Type} (name : String) (read : String → Option α) (e : ArgumentError) :
    OptionSpec :=
  ⟨name, false, fun s => if (read s).isSome then none else some e⟩

/-- The options that both commands have. -/
def commonOptions : List OptionSpec :=
  [textOption "log-level", readOption "log-json" bool? .valueValidation, fileOption "dataset",
    ⟨"languages", true, fun _ => none⟩]

/-- What is understood in front of a command. -/
def program : Understanding :=
  ⟨none, [fileOption "config-file"], true, false, ["serve", "resolve", "help"]⟩

/-- What is understood behind `serve`. -/
def serve : Understanding :=
  ⟨some "serve", commonOptions ++ [textOption "server-host",
    readOption "server-port" service? .valueValidation,
    readOption "cache-enabled" bool? .valueValidation], false, false, []⟩

/-- What is understood behind `resolve`. -/
def resolve : Understanding :=
  ⟨some "resolve", commonOptions ++ [textOption "repository",
    readOption "kind" Kind.ofName? .invalidValue, textOption "language"], false, true, []⟩

/-- The settings that the options override. -/
def overridesOf (p : Progress) : Overrides where
  level := p.value? "log-level"
  json := (p.value? "log-json").bind bool?
  dataset := p.value? "dataset"
  languages := if p.has "languages" then some (p.valuesOf "languages") else none
  host := p.value? "server-host"
  service := (p.value? "server-port").bind service?
  cacheEnabled := (p.value? "cache-enabled").bind bool?

/-- Reads the words behind a command that has no commands inside. -/
def readCommand (u : Understanding) (words : List String) : Except ArgumentError Progress := do
  let (p, _) ← readWords u .empty words
  p.settle

/-- Answers a request for help about some command. -/
def help : List String → ArgumentError
  | [] => .displayHelp none
  | [name] =>
    if program.commands.contains name then .displayHelp (some name) else .invalidSubcommand
  | _ => .invalidSubcommand

/-- Reads a command with the words behind it. -/
def commandOf (name : String) (words : List String) : Except ArgumentError Command := do
  if name == "serve" then
    let p ← readCommand serve words
    return .serve (overridesOf p)
  else if name == "resolve" then
    let p ← readCommand resolve words
    if p.words.isEmpty then throw .missingRequiredArgument
    return .resolve (overridesOf p)
      { repository := p.value? "repository"
        kind := ((p.value? "kind").bind Kind.ofName?).getD .label
        language := p.value? "language"
        ids := p.words }
  else throw (help words)

/-- The variable that names a file of settings when no option does. -/
def fileVariable : String := "GLOSSA_CONFIG_FILE"

/-- The file of settings, from the option or the variable. -/
def configFileOf (p : Progress) (environment : List (String × String)) :
    Except ArgumentError (Option String) :=
  match p.value? "config-file" with
  | some file => .ok (some file)
  | none =>
    match (environment.find? (·.1 == fileVariable)).map (·.2) with
    | some file => if file.isEmpty then .error .invalidValue else .ok (some file)
    | none => .ok none

/-- Reads a command line. What stands in front of a command is checked after what stands behind
it. -/
def parse (words : List String) (environment : List (String × String)) :
    Except ArgumentError CommandLine := do
  let (p, rest) ← readWords program .empty words
  let command ← match rest with
    | some (name, words) => (commandOf name words).map some
    | none => pure none
  let p ← p.settle
  return ⟨← configFileOf p environment, command⟩

/-- Lays overrides over what the sources choose. -/
def Overrides.layOver (o : Overrides) (r : RawSettings) : RawSettings :=
  { r with
    level := o.level.or r.level
    json := o.json.or r.json
    dataset := o.dataset.or r.dataset
    languages := o.languages.or r.languages
    host := o.host.or r.host
    service := o.service.or r.service
    cacheEnabled := o.cacheEnabled.or r.cacheEnabled }

/-- The settings for a command line. -/
def settings (c : CommandLine) (s : Surroundings) : Except SettingsError Settings := do
  let raw ← RawSettings.load s c.configFile
  Settings.ofRaw (match c.command with
    | some command => command.overrides.layOver raw
    | none => raw)

end CommandLine

end Nomenclator
