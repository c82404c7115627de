import Nomenclator.Program

/-!
# Running the program

What surrounds the program is gathered, the program is run, and what it prints is printed. Only
here anything is read or written. There is no network at this place: peers are not reached, and
requests cannot be waited for.
-/

namespace Nomenclator.Main

/-- The variables that mean something. -/
def environment : IO (List (String × String)) := do
  let names := CommandLine.fileVariable :: Settings.variableNames
  names.filterMapM fun name => return (← IO.getEnv name).map fun value => (name, value)

/-- The files among some names that can be read, with their contents. -/
def readable (names : List String) : IO (List (String × String)) :=
  names.filterMapM fun (name : String) => do
    match ← (IO.FS.readFile name).toBaseIO with
    | .ok content => return some (name, content)
    | .error _ => return none

/-- All that the program can see, given its words: the files of settings, and the dataset that
they choose. -/
def surroundings (words : List String) : IO Surroundings := do
  let environment ← environment
  match CommandLine.parse words environment with
  | .error _ => return ⟨[], environment⟩
  | .ok c =>
    let files ← readable (Settings.fileNames c.configFile)
    match c.settings ⟨files, environment⟩ with
    | .error _ => return ⟨files, environment⟩
    | .ok settings => return ⟨files ++ (← readable settings.dataset.toList), environment⟩

/-- A peer that is out of reach. -/
def noReply (_ : Peer.Call) : StateM Unit (Option Peer.Reply) := return none

/-- Prints what a program prints, and gives the code with which it ends. -/
def finish (outcome : Outcome) : IO UInt32 := do
  IO.print outcome.output
  match outcome with
  | .failed cause => IO.eprintln cause.message
  | .misused _ => IO.eprintln "the arguments cannot be used; try --help"
  | .serving settings => IO.eprintln s!"cannot listen at {settings.address.render}"
  | .printed _ => pure ()
  return ((outcome.exitCode?.getD 1).toUInt32)

end Nomenclator.Main

/-- Runs the program for the words of its command line. -/
def main (words : List String) : IO UInt32 := do
  let outcome := Nomenclator.Program.run words (← Nomenclator.Main.surroundings words)
    Nomenclator.Main.noReply ()
  Nomenclator.Main.finish outcome
