import Nomenclator.CommandLine

/-!
# Help

What the program says about itself: for the program and each command what it does, how it is
called, and its options in two columns.
-/

namespace Nomenclator.CommandLine

/-- The version of the program. -/
def versionText : String := "glossa 0.1.0\n"

/-- So many blanks. -/
def blanks (n : Nat) : List Char := List.replicate n ' '

/-- A text whose further lines begin with so many blanks. -/
def hanging (n : Nat) (s : String) : String :=
  String.ofList (s.toList.flatMap fun c => if c == '\n' then '\n' :: blanks n else [c])

/-- Lines in two columns, the first as wide as its longest entry. -/
def columns (entries : List (String × String)) : String :=
  let width := (entries.map fun e => e.1.length).foldl max 0
  String.join (entries.map fun e =>
    "  " ++ e.1 ++ String.ofList (blanks (width + 2 - e.1.length)) ++ hanging (width + 4) e.2
      ++ "\n")

/-- The options that both commands have. -/
def commonHelp : List (String × String) :=
  [("    --log-level <LEVEL>", "Override the base log level (trace|debug|info|warn|error)"),
    ("    --log-json <BOOL>", "Toggle JSON logging [possible values: true, false]"),
    ("    --dataset <PATH>", "Override the dataset file loaded into the in-memory store"),
    ("    --languages <TAGS>", "Override the default preferred languages (comma separated)")]

/-- How to ask for help. -/
def helpHelp : String × String := ("-h, --help", "Print help")

/-- Help about the program. -/
def programHelp (environment : List (String × String)) : String :=
  let file := ((environment.find? (·.1 == fileVariable)).map (·.2)).getD ""
  "Label and description resolver\n\nUsage: glossa [OPTIONS] [COMMAND]\n\nCommands:\n"
    ++ columns
      [("serve", "Run the HTTP peer surface"),
        ("resolve", "Resolve labels, descriptions or types once and print them as JSON"),
        ("help", "Print this message or the help of the given subcommand(s)")]
    ++ "\nOptions:\n"
    ++ columns
      [("    --config-file <PATH>",
          s!"Optional path to a configuration file [env: {fileVariable}={file}]"),
        helpHelp, ("-V, --version", "Print version")]

/-- Help about `serve`. -/
def serveHelp : String :=
  "Run the HTTP peer surface\n\nUsage: glossa serve [OPTIONS]\n\nOptions:\n"
    ++ columns (commonHelp
      ++ [("    --server-host <HOST>", "Override the listener host"),
        ("    --server-port <PORT>", "Override the listener port"),
        ("    --cache-enabled <BOOL>",
          "Toggle caching of resolved values [possible values: true, false]"),
        helpHelp])

/-- Help about `resolve`. -/
def resolveHelp : String :=
  "Resolve labels, descriptions or types once and print them as JSON\n\n"
    ++ "Usage: glossa resolve [OPTIONS] <ID>...\n\nArguments:\n"
    ++ columns [("<ID>...", "Resource identifiers")]
    ++ "\nOptions:\n"
    ++ columns (commonHelp
      ++ [("    --repository <NAME>",
          "Repository to resolve against; defaults to `data.default_repository`"),
        ("    --kind <KIND>",
          "What to resolve [default: label] [possible values: label, description, type]"),
        ("    --language <TAG>",
          "Preferred language placed ahead of the configured defaults"),
        helpHelp])

/-- Help about `help`. -/
def helpHelpText : String :=
  "Print this message or the help of the given subcommand(s)\n\n"
    ++ "Usage: glossa help [COMMAND]...\n\nArguments:\n"
    ++ columns [("[COMMAND]...", "Print help for the subcommand(s)")]

/-- Help about a command, or about the program. -/
def helpText (environment : List (String × String)) : Option String → String
  | some "serve" => serveHelp
  | some "resolve" => resolveHelp
  | some "help" => helpHelpText
  | _ => programHelp environment

end Nomenclator.CommandLine
