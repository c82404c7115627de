import Nomenclator.Application.Assembly
import Nomenclator.CommandLine.Help
import Nomenclator.Graph.Dataset
import Nomenclator.Json.Printer

/-!
# The program

From the words of a command line and what is around it to what is printed and the code with which
the program ends. Nothing is printed by a program that fails; the code says whether the command
line was wrong or something behind it, and whether the program ended by itself.

What goes to the log is left out, and all that comes after the program has begun to wait for
requests: an outcome ends with the settings that it waits with. The code of a panic is the one of
a program that unwinds; one that is built to abort is ended by a signal and has none.
-/

namespace Nomenclator

/-- Why a program fails after its command line has been understood. -/
inductive ProgramError where
  | unexpected (message : String)
  | missingDataset (path : String)
  | dataset (cause : Graph.DatasetError)
  | build (cause : BuildError)
  | resolve (cause : ResolveError)
  deriving DecidableEq

/-- The text of a program error. -/
def ProgramError.message : ProgramError → String
  | .unexpected m => s!"unexpected error: {m}"
  | .missingDataset path => s!"io error: no such file `{path}`"
  | .dataset cause => cause.message
  | .build cause => cause.message
  | .resolve cause => cause.message

/-- How a program ends. -/
inductive Outcome where
  /-- It prints something and is done. -/
  | printed (text : String)
  /-- The command line is wrong. -/
  | misused (cause : CommandLine.ArgumentError)
  | failed (cause : ProgramError)
  /-- It goes on to wait for requests. -/
  | serving (settings : Settings)
  deriving Inhabited

/-- The code with which a program ends, if it does. -/
def Outcome.exitCode? : Outcome → Option Nat
  | .printed _ => some 0
  | .misused _ => some 2
  | .failed (.resolve (.panic _)) => some 101
  | .failed _ => some 1
  | .serving _ => none

/-- What a program prints. -/
def Outcome.output : Outcome → String
  | .printed text => text
  | _ => ""

namespace Program

open CommandLine (Kind Resolve)

/-- The application of a program; its peers are reached through some outside world. -/
abbrev App (ε : Type) := Application Graph.Memory ε

/-- The graph to begin with: the dataset, if one is chosen, and always the usual store. -/
def graph (settings : Settings) (s : Surroundings) : Except ProgramError Graph.Memory := do
  let m ← match settings.dataset with
    | none => pure Graph.Memory.empty
    | some path =>
      match s.read? path with
      | none => throw (.missingDataset path)
      | some content => (Graph.Dataset.load content).mapError .dataset
  return m.create settings.repository

/-- A text as it is printed. -/
def textJson (v : TextValue) : Json :=
  .object (("text", .text v.text)
    :: (if v.language.isNone then [] else [("language", .text v.language.text)]))

/-- Values by resource as they are printed, in ascending order of the resources. -/
def valuesJson {α : Type} (json : α → Json) (values : Table ResourceId (Option α)) : Json :=
  let sorted := values.mergeSort fun a b => decide (a.1 ≤ b.1)
  .object (sorted.map fun e => (e.1, match e.2 with
    | some v => json v
    | none => .null))

/-- Resolves some resources once. -/
def resolveOnce {ε : Type} (settings : Settings) (what : Resolve) (app : App ε) :
    Except ProgramError Json :=
  let store := what.repository.getD settings.repository
  let texts (kind : Lookup.TextKind) :=
    ((app.texts store what.ids what.language kind).1.map (valuesJson textJson)).mapError
      ProgramError.resolve
  match what.kind with
  | .label => texts .label
  | .description => texts .description
  | .type =>
    ((app.types store what.ids).1.map (valuesJson Json.text)).mapError ProgramError.resolve

/-- Carries out a command line that has been understood. -/
def carryOut {ε : Type} (c : CommandLine) (s : Surroundings)
    (send : Peer.Call → StateM ε (Option Peer.Reply)) (outside : ε) :
    Except ProgramError Outcome := do
  let settings ← (c.settings s).mapError fun e =>
    .unexpected s!"failed to load configuration: {e.message}"
  let graph ← graph settings s
  let app ← (Application.build settings send graph outside).mapError .build
  match c.command with
  | some (.resolve _ what) =>
    let json ← resolveOnce settings what app
    return .printed (json.render ++ "\n")
  | _ => return .serving settings

/-- Runs the program. -/
def run {ε : Type} (words : List String) (s : Surroundings)
    (send : Peer.Call → StateM ε (Option Peer.Reply)) (outside : ε) : Outcome :=
  match CommandLine.parse words s.environment with
  | .error (.displayHelp command) => .printed (CommandLine.helpText s.environment command)
  | .error .displayVersion => .printed CommandLine.versionText
  | .error e => .misused e
  | .ok c =>
    match carryOut c s send outside with
    | .ok outcome => outcome
    | .error e => .failed e

end Program

end Nomenclator
