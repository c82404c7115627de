import Nomenclator.Text.Form
import Nomenclator.Url.Escape

/-!
# Paths of addresses

A path is walked segment by segment: one dot stays, two dots lead back. What looks like the letter
of a drive is never left again; at the beginning of the path of a file it gets its colon, and then
the file is on no host.
-/

namespace Nomenclator.Url

open Text.Form (splitAt)

/-- A segment that stays where it is. -/
def isDot (s : List Char) : Bool :=
  ["." , "%2e"].contains (String.ofList (s.map Char.toLower))

/-- A segment that goes one step up. -/
def isDoubleDot (s : List Char) : Bool :=
  ["..", ".%2e", "%2e.", "%2e%2e"].contains (String.ofList (s.map Char.toLower))

/-- A letter with a colon or a bar behind it. -/
def isDrive : List Char → Bool
  | [c, mark] => c.isAlpha && (mark == ':' || mark == '|')
  | _ => false

/-- A drive with its colon. -/
def withColon (s : List Char) : List Char := s.take 1 ++ [':']

/-- The segments without the last one, unless that is a drive. -/
def goneUp (done : List String) : List String :=
  if done.getLast?.any fun s => isDrive s.toList then done else done.dropLast

/-- Walks down the segments; the last one leaves an empty one behind if it does not name anything.
With `drives` a drive at the beginning gets its colon. -/
def walk (drives : Bool) (done : List String) : List (List Char) → List String
  | [] => done
  | s :: rest =>
    let done :=
      if isDoubleDot s then goneUp done ++ (if rest.isEmpty then [""] else [])
      else if isDot s then done ++ (if rest.isEmpty then [""] else [])
      else if drives && done.isEmpty && isDrive s then [String.ofList (withColon s)]
      else done ++ [escape isUnsafeInPath s]
    walk drives done rest

/-- The segments of a path behind its first slash. -/
def segmentsOf (web drives : Bool) (s : List Char) : List String :=
  walk drives [] (splitAt '/' (if web then s.map fun c => if c == '\\' then '/' else c else s))

/-- A path of a file without the empty segments in front; one segment is always left. -/
def rooted (segments : List String) : List String :=
  let kept := segments.dropWhile (·.isEmpty)
  if kept.isEmpty then [""] else kept

/-- The path begins with a drive that has its colon. -/
def beginsWithDrive (segments : List String) : Bool :=
  segments.head?.any fun s => isDrive s.toList && s.toList.getLast? == some ':'

end Nomenclator.Url
