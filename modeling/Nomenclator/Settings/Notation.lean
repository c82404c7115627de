import Nomenclator.Ini
import Nomenclator.Json.Reader
import Nomenclator.Json.Records
import Nomenclator.Settings.Tree
import Nomenclator.Surroundings
import Nomenclator.Toml.Reader
import Nomenclator.Yaml.Reader

/-!
# Notations of settings

Files of settings can be written in several notations. The ending of its name says how a file is
written, and whatever the notation, a file is a table of entries.
-/

namespace Nomenclator.Settings

/-- How a file is written. -/
inductive Notation where
  | toml
  | json
  | yaml
  | ini
  | records
  | relaxed
  deriving Repr, DecidableEq

namespace Notation

/-- All notations, in the order in which their endings are tried. -/
def all : List Notation := [toml, json, yaml, ini, records, relaxed]

/-- The endings of file names of a notation. -/
def endings : Notation → List String
  | toml => ["toml"]
  | json => ["json"]
  | yaml => ["yaml", "yml"]
  | ini => ["ini"]
  | records => ["ron"]
  | relaxed => ["json5"]

/-- A file name with the endings of a notation added to it. -/
def added (n : Notation) (name : String) : List String :=
  n.endings.filterMap (Surroundings.withEnding? name)

end Notation

namespace Tree

/-- The entries of an object; nothing else has any. -/
def ofObject? : Option Json → Option (List (String × Tree))
  | some (.object fields) => some (ofJsonFields fields)
  | _ => none

/-- The name that a key is. -/
def keyName? : Yaml → Option String
  | .text s | .real s => some s
  | .int n => some (toString n)
  | .bool b => some (if b then "true" else "false")
  | .null | .list _ | .mapping _ => none

mutual

/-- A value of a YAML source; numbers must be numbers. -/
def ofYaml? : Yaml → Option Tree
  | .null => some .nothing
  | .bool b => some (.bool b)
  | .int n => some (.int n)
  | .real s => (Binary.ofText? s.toList).map .real
  | .text s => some (.text s)
  | .list items => (ofYamlItems? items).map .list
  | .mapping entries => (ofYamlEntries? entries).map .table

/-- The items of a list of a YAML source. -/
def ofYamlItems? : List Yaml → Option (List Tree)
  | [] => some []
  | v :: rest => do return (← ofYaml? v) :: (← ofYamlItems? rest)

/-- The entries of a mapping of a YAML source; of keys with one name the last one counts. -/
def ofYamlEntries? : List (Yaml × Yaml) → Option (List (String × Tree))
  | [] => some []
  | (key, v) :: rest => do
    let name ← keyName? key
    let t ← ofYaml? v
    let others ← ofYamlEntries? rest
    return if others.any (·.1 == name) then others else (name, t) :: others

end

/-- The entries of the documents of a file: one at most, and then a mapping. -/
def ofDocuments? : List Yaml → Option (List (String × Tree))
  | [] => some []
  | [.mapping entries] => ofYamlEntries? entries
  | _ => none

/-- Named texts as entries; of texts with one name the last one counts. -/
def ofTexts (values : List (String × String)) : List (String × Tree) :=
  values.foldl (fun es v => put es v.1 (.text v.2)) []

/-- The entries of sections: tables, but for the values that belong to none. -/
def ofSections (sections : List Ini.Section) : List (String × Tree) :=
  sections.foldl (fun es s =>
    match s.name with
    | some name => put es name (.table (ofTexts s.values))
    | none => s.values.foldl (fun es v => put es v.1 (.text v.2)) es) []

end Tree

/-- The text without a mark of the byte order in front. -/
def withoutMark (s : List Char) : List Char :=
  if s.head? = some (Char.ofNat 0xFEFF) then s.drop 1 else s

/-- The entries of a file, if it can be read. -/
def Notation.entries? (n : Notation) (content : String) : Option (List (String × Tree)) :=
  let s := withoutMark content.toList
  match n with
  | toml => (Toml.parse s).bind Tree.ofTomlEntries?
  | json => Tree.ofObject? (Json.parse s)
  | yaml => (Yaml.parse s).bind Tree.ofDocuments?
  | ini => (Ini.parse s).map Tree.ofSections
  | records => Tree.ofObject? (Json.Records.parse s)
  | relaxed => Tree.ofObject? (Json.Relaxed.parse s)

end Nomenclator.Settings
