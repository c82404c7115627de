import Nomenclator.Text.Form

/-!
# Arguments

How the words of a command line are told apart: options with their values, flags, words that stand
for themselves, and commands. An option waits for its value, and the value is checked only when
the next option, flag or free word shows that nothing more belongs to it. So an unknown option is
found before a bad value in front of it, and a bad value before everything else behind it.
-/

namespace Nomenclator.CommandLine

/-- Why a command line is not carried out. -/
inductive ArgumentError where
  /-- Somebody asks for help about a command, or about the program. -/
  | displayHelp (command : Option String)
  | displayVersion
  | unknownArgument
  /-- A value is missing, or not one of those allowed. -/
  | invalidValue
  /-- A value cannot be read. -/
  | valueValidation
  /-- An option that may be given once is given again. -/
  | argumentConflict
  | invalidSubcommand
  | missingRequiredArgument
  /-- A flag is given a value. -/
  | tooManyValues
  deriving Repr, DecidableEq

/-- An option that takes a value. -/
structure OptionSpec where
  name : String
  /-- Whether it may be repeated, and its values separated by commas. -/
  repeats : Bool
  /-- What is wrong with a value, if anything is. -/
  check : String → Option ArgumentError

/-- What a command understands. -/
structure Understanding where
  /-- The name of the command, unless it is the program itself. -/
  command : Option String
  options : List OptionSpec
  /-- Whether it can tell its version. -/
  version : Bool
  /-- Whether it takes free words. -/
  words : Bool
  /-- The commands inside it. -/
  commands : List String

/-- An option whose value has not been checked, or has not even been seen. -/
structure Pending where
  option : OptionSpec
  value : Option String

/-- What has been understood so far. -/
structure Progress where
  pending : Option Pending
  /-- The values of each option. -/
  values : List (String × List String)
  words : List String
  /-- Behind two hyphens everything is a free word. -/
  trailing : Bool

namespace Progress

/-- Nothing has been read. -/
def empty : Progress := ⟨none, [], [], false⟩

/-- The values of an option. -/
def valuesOf (p : Progress) (name : String) : List String :=
  (p.values.filter (·.1 == name)).flatMap (·.2)

/-- The value of an option that may be given once. -/
def value? (p : Progress) (name : String) : Option String := (p.valuesOf name).head?

/-- The option was given and has its value. -/
def has (p : Progress) (name : String) : Bool := p.values.any (·.1 == name)

/-- An option still waits for its value. -/
def isWaiting (p : Progress) : Bool :=
  match p.pending with
  | some ⟨_, none⟩ => true
  | _ => false

/-- Takes values for an option, if all of them can be used. -/
def take (p : Progress) (o : OptionSpec) (values : List String) :
    Except ArgumentError Progress :=
  match values.findSome? o.check with
  | some e => .error e
  | none => .ok { p with values := p.values ++ [(o.name, values)] }

/-- Checks the option that is pending, if there is one. -/
def settle (p : Progress) : Except ArgumentError Progress :=
  let settled := { p with pending := none }
  match p.pending with
  | none => .ok p
  | some ⟨_, none⟩ => .error .invalidValue
  | some ⟨o, some v⟩ =>
    if o.repeats then
      settled.take o ((Text.Form.splitAt ',' v.toList).map String.ofList)
    else if settled.has o.name then .error .argumentConflict
    else settled.take o [v]

end Progress

/-- A word with two hyphens in front, split at its first equals sign. -/
def splitOption (s : List Char) : String × Option String :=
  let name := String.ofList (s.takeWhile (· != '='))
  match s.dropWhile (· != '=') with
  | '=' :: value => (name, some (String.ofList value))
  | _ => (name, none)

/-- Takes a flag, which ends the reading. -/
def takeFlag (p : Progress) (attached : Option String) (e : ArgumentError) :
    Except ArgumentError Progress := do
  if attached.isSome then throw .tooManyValues
  let _ ← p.settle
  throw e

/-- Takes a word with two hyphens in front. -/
def takeLong (u : Understanding) (p : Progress) (s : List Char) :
    Except ArgumentError Progress :=
  let (name, attached) := splitOption s
  if name == "help" then takeFlag p attached (.displayHelp u.command)
  else if name == "version" && u.version then takeFlag p attached .displayVersion
  else match u.options.find? (·.name == name) with
    | none => .error .unknownArgument
    | some o => do
      let p ← p.settle
      let p := { p with pending := some ⟨o, attached⟩ }
      if attached.isSome then p.settle else return p

/-- Takes a word with one hyphen in front, which can only be a flag. -/
def takeShort (u : Understanding) (p : Progress) (c : Char) : Except ArgumentError Progress :=
  if c == 'h' then takeFlag p none (.displayHelp u.command)
  else if c == 'V' && u.version then takeFlag p none .displayVersion
  else .error .unknownArgument

/-- Takes a free word. Where none is expected, it can only be meant as a command. -/
def takeWord (u : Understanding) (p : Progress) (word : String) :
    Except ArgumentError Progress :=
  if u.words then do
    let p ← p.settle
    return { p with words := p.words ++ [word] }
  else if p.trailing && u.commands.contains word then .error .unknownArgument
  else if u.commands.isEmpty then .error .unknownArgument
  else .error .invalidSubcommand

/-- Takes the next word, unless it is a command. -/
def takeNext (u : Understanding) (p : Progress) (word : String) :
    Except ArgumentError Progress :=
  if p.trailing then takeWord u p word
  else match word.toList with
    | ['-', '-'] => .ok { p with trailing := true }
    | '-' :: '-' :: s => takeLong u p s
    | '-' :: c :: _ => takeShort u p c
    | _ =>
      match p.pending with
      | some ⟨o, none⟩ => .ok { p with pending := some ⟨o, some word⟩ }
      | _ => takeWord u p word

/-- Reads words up to a command, and gives the command with the words behind it. -/
def readWords (u : Understanding) (p : Progress) :
    List String → Except ArgumentError (Progress × Option (String × List String))
  | [] => .ok (p, none)
  | word :: rest =>
    if !p.trailing && !p.isWaiting && u.commands.contains word then .ok (p, some (word, rest))
    else do
      let p ← takeNext u p word
      readWords u p rest

end Nomenclator.CommandLine
