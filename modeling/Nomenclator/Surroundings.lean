import Nomenclator.Text.Form

/-!
# What surrounds the program

The program sees files under their names and the variables of its environment. A name is a way
through directories: every part but the last has to be one, two dots lead back, and a name that
ends like a directory is no file.
-/

namespace Nomenclator

/-- The files within reach by their names, and the environment: its variables with their values. -/
structure Surroundings where
  files : List (String × String)
  environment : List (String × String)
  deriving Repr, Inhabited

namespace Surroundings

/-- The parts of a name between slashes. -/
def rawParts (name : String) : List String :=
  (Text.Form.splitAt '/' name.toList).map String.ofList

/-- A part that leads nowhere. -/
def isIdle (part : String) : Bool := part.isEmpty || part == "."

/-- The parts of a name without those that lead nowhere; the root is a part of its own. -/
def nameParts (name : String) : List String :=
  let parts := (rawParts name).filter fun part => !isIdle part
  if name.toList.head? == some '/' then "/" :: parts else parts

/-- There is a file somewhere below a place. -/
def isDirectory (s : Surroundings) (place : List String) : Bool :=
  place.isEmpty || s.files.any fun f =>
    let parts := nameParts f.1
    place.length < parts.length && parts.take place.length == place

/-- Follows the parts of a name from a place on, and gives the place where they lead. -/
def follow (s : Surroundings) (place : List String) : List String → Option (List String)
  | [] => some place
  | part :: rest =>
    if !s.isDirectory place then none
    else if part == ".." then
      if place.isEmpty then none else s.follow place.dropLast rest
    else s.follow (place ++ [part]) rest

/-- The content of a file. -/
def read? (s : Surroundings) (name : String) : Option String :=
  match s.files.find? (·.1 == name) with
  | some f => some f.2
  | none =>
    if (rawParts name).getLast?.all isIdle then none
    else
      (s.follow [] (nameParts name)).bind fun place =>
        (s.files.find? fun f => nameParts f.1 == place).map (·.2)

/-- The last part of a name without what makes it the name of a directory, and whatever stands in
front of it. -/
def splitName (name : String) : Option (String × String) :=
  let parts := ((rawParts name).reverse.dropWhile isIdle).reverse
  match parts.getLast? with
  | none => none
  | some last =>
    if last == ".." then none
    else some (String.join (parts.dropLast.map (· ++ "/")), last)

/-- The ending of a name: what stands behind the last dot of its last part, if something stands
before it. -/
def endingOf (name : String) : String :=
  let backwards := (((splitName name).map (·.2)).getD "").toList.reverse
  if (backwards.dropWhile (· != '.')).length ≤ 1 then ""
  else String.ofList (backwards.takeWhile (· != '.')).reverse

/-- A name with an ending put behind it; what leads back to a directory takes none. -/
def withEnding? (name ending : String) : Option String :=
  (splitName name).map fun p => s!"{p.1}{p.2}.{ending}"

end Surroundings

end Nomenclator
