import Nomenclator.Text.Number
import Nomenclator.Url
import Nomenclator.Url.Escape
import Nomenclator.Url.Domain
import Nomenclator.Url.Path

/-!
# Reading addresses

Addresses are read leniently: blanks and controls around them are dropped, tabs and line breaks
are passed over, schemes of the web take any number of slashes of either kind, and whatever may
not stand in a part is escaped rather than refused. Refused are hosts that cannot exist.
-/

namespace Nomenclator.Url

open Text.Form (splitAt)

/-- How a scheme treats its authority. -/
inductive SchemeKind where
  | web
  | file
  | other
  deriving Repr, DecidableEq

/-- The kind of a scheme. -/
def SchemeKind.ofScheme (s : String) : SchemeKind :=
  if ["http", "https", "ws", "wss", "ftp"].contains s then .web
  else if s == "file" then .file
  else .other

/-- The service number that need not be written. -/
def usualService (scheme : String) : Option Nat :=
  match scheme with
  | "http" | "ws" => some 80
  | "https" | "wss" => some 443
  | "ftp" => some 21
  | _ => none

/-- Takes a scheme and its colon off the front. -/
def splitScheme (s : List Char) : Option (String × List Char) :=
  let isInner (c : Char) : Bool := c.isAlphanum || c == '+' || c == '-' || c == '.'
  if s.head?.any Char.isAlpha then
    match s.dropWhile isInner with
    | ':' :: rest => some (String.ofList ((s.takeWhile isInner).map Char.toLower), rest)
    | _ => none
  else none

/-- The character ends an authority. -/
def endsAuthority (web : Bool) (c : Char) : Bool :=
  c == '/' || c == '?' || c == '#' || (web && c == '\\')

/-- The part of a text in front of the last occurrence of a character, and the part behind. -/
def splitLast (sep : Char) (s : List Char) : Option (List Char × List Char) :=
  if s.contains sep then
    some ((((s.reverse.dropWhile (· != sep)).drop 1).reverse),
      (s.reverse.takeWhile (· != sep)).reverse)
  else none

/-- A user's name and password in written form; empty parts vanish. -/
def userText (s : List Char) : String :=
  let name := escape isUnsafeInUser (s.takeWhile (· != ':'))
  let password := escape isUnsafeInUser ((s.dropWhile (· != ':')).drop 1)
  if password.isEmpty then name else name ++ ":" ++ password

/-- Splits a host off the front; a colon in brackets belongs to it. -/
def splitHost (web bracketed : Bool) : List Char → List Char × List Char
  | [] => ([], [])
  | c :: rest =>
    if endsAuthority web c || (c == ':' && !bracketed) then ([], c :: rest)
    else
      let bracketed := if c == '[' then true else if c == ']' then false else bracketed
      let (host, rest) := splitHost web bracketed rest
      (c :: host, rest)

/-- A number of an address of version 4 in decimal, octal or hexadecimal digits. -/
def v4Number? (s : List Char) : Option Nat :=
  match s with
  | [] => none
  | '0' :: 'x' :: ds | '0' :: 'X' :: ds => if ds.isEmpty then some 0 else Text.digits? 16 ds
  | '0' :: d :: ds => Text.digits? 8 (d :: ds)
  | ds => Text.digits? 10 ds

/-- The pieces of a name between dots; one dot may end it. -/
def dotted (s : List Char) : List (List Char) :=
  let pieces := splitAt '.' s
  if 1 < pieces.length && pieces.getLast? == some [] then pieces.dropLast else pieces

/-- A name that ends like an address of version 4 has to be one. -/
def endsInNumber (s : List Char) : Bool :=
  match (dotted s).getLast? with
  | some last => (!last.isEmpty && last.all Char.isDigit) || (v4Number? last).isSome
  | none => false

/-- Reads an address of version 4 in which the last number fills all that is left. -/
def v4Host (s : List Char) : Except UrlError Host := do
  let pieces := dotted s
  let some numbers := pieces.mapM v4Number? | throw .invalidV4
  let some last := numbers.getLast? | throw .invalidV4
  let front := numbers.dropLast
  if 4 < pieces.length || front.any (255 < ·) || Nat.pow 256 (4 - front.length) ≤ last then
    throw .invalidV4
  let low := (List.range (4 - front.length)).reverse.map fun i => last / Nat.pow 256 i % 256
  return .v4 (front ++ low)

/-- Reads an address of version 6 in brackets. -/
def v6Host (s : List Char) : Except UrlError Host :=
  if s.getLast? == some ']' then
    match Address.v6? (s.drop 1).dropLast with
    | some groups => .ok (.v6 groups)
    | none => .error .invalidV6
  else .error .invalidV6

/-- Reads a host of the web or of a file. -/
def domainHost (s : List Char) : Except UrlError Host := do
  if s.head? == some '[' then v6Host s
  else
    let some text := Text.Octets.decode? (Text.Form.unescape s) | throw .invalidDomainName
    let some name := Domain.toAscii? text | throw .invalidDomainName
    if name.isEmpty then throw .emptyHost
    if endsInNumber name then v4Host name else return .name (String.ofList name)

/-- The characters that no host of another scheme may hold. -/
def isForbiddenInHost (c : Char) : Bool :=
  ['\x00', '\t', '\n', '\x0d', ' ', '#', '/', ':', '<', '>', '?', '@', '[', '\\', ']', '^',
    '|'].contains c

/-- Reads a host of another scheme, which may be empty. -/
def plainHost (s : List Char) : Except UrlError Host :=
  if s.head? == some '[' then v6Host s
  else if s.any isForbiddenInHost then .error .invalidDomainCharacter
  else .ok (.name (escape isUnprintable s))

/-- Reads a service number up to the end of the authority. -/
def serviceOf (scheme : String) (s : List Char) : Except UrlError (Option Nat × List Char) :=
  let ds := s.takeWhile Char.isDigit
  let rest := s.dropWhile Char.isDigit
  let n := Text.valueOf 10 ds
  if 65535 < n then .error .invalidService
  else if rest.head?.all (endsAuthority true) then
    .ok (if ds.isEmpty || usualService scheme == some n then none else some n, rest)
  else .error .invalidService

/-- Reads an authority, with what stands behind it. -/
def authorityOf (scheme : String) (web : Bool) (s : List Char) :
    Except UrlError (Authority × List Char) := do
  let front := s.takeWhile fun c => !endsAuthority web c
  let behind := s.dropWhile fun c => !endsAuthority web c
  let (user, rest) ← match splitLast '@' front with
    | none => pure ("", s)
    | some ([], rest) =>
      if rest.isEmpty && !behind.isEmpty then throw .emptyHost
      pure ("", rest ++ behind)
    | some (user, rest) => pure (userText user, rest ++ behind)
  let (hostText, rest) := splitHost web false rest
  if web && hostText.isEmpty then throw .emptyHost
  let host ← if web then domainHost hostText else plainHost hostText
  if hostText.isEmpty && rest.head? == some ':' then throw .emptyHost
  let (service, rest) ← match rest with
    | ':' :: rest => serviceOf scheme rest
    | rest => pure (none, rest)
  if hostText.isEmpty && !user.isEmpty then throw .emptyHost
  return (⟨user, host, service⟩, rest)

/-- The character ends a path. -/
def endsPath (c : Char) : Bool := c == '?' || c == '#'

/-- The query and the fragment at the end of an address. -/
def tailOf (web : Bool) (s : List Char) : Option String × Option String :=
  let fragment := match s.dropWhile (· != '#') with
    | '#' :: f => some (escape isUnsafeInFragment f)
    | _ => none
  let query := match s.takeWhile (· != '#') with
    | '?' :: q => some (escape (isUnsafeInQuery web) q)
    | _ => none
  (query, fragment)

/-- Puts an address together from its authority and what follows it. -/
def assemble (scheme : String) (web : Bool) (authority : Option Authority) (s : List Char) : Url :=
  let text := s.takeWhile fun c => !endsPath c
  let (query, fragment) := tailOf web (s.dropWhile fun c => !endsPath c)
  let isSlash (c : Char) : Bool := c == '/' || (web && c == '\\')
  let inner := if text.head?.any isSlash then text.drop 1 else text
  let segments := if text.isEmpty && !web then [] else segmentsOf web false inner
  ⟨scheme, authority, .segments segments, query, fragment⟩

/-- The character separates segments of the path of a file. -/
def isFileSlash (c : Char) : Bool := c == '/' || c == '\\'

/-- Puts the address of a file together. With `drives` a drive at the beginning of its path gets
its colon, and puts the file on no host. -/
def assembleFile (host : Host) (drives : Bool) (s : List Char) : Url :=
  let text := s.takeWhile fun c => !endsPath c
  let (query, fragment) := tailOf true (s.dropWhile fun c => !endsPath c)
  let inner := if text.head?.any isFileSlash then text.drop 1 else text
  let segments := segmentsOf true drives inner
  let host := if drives && beginsWithDrive segments then .name "" else host
  ⟨"file", some ⟨"", host, none⟩, .segments (rooted segments), query, fragment⟩

/-- Reads what stands behind the scheme of a file: a host only between two slashes and a third. A
drive in its place is the beginning of the path; behind a host that is not named, the letter of a
drive stays as it is written. -/
def fileRest (s : List Char) : Except UrlError Url := do
  match s with
  | a :: b :: rest =>
    if isFileSlash a && isFileSlash b then
      let hostText := rest.takeWhile fun c => !endsAuthority true c
      let path := rest.dropWhile fun c => !endsAuthority true c
      if isDrive hostText then return assembleFile (.name "") true rest
      let host ← if hostText.isEmpty then pure (Host.name "") else domainHost hostText
      if host = .name "" || host = .name "localhost" then
        return assembleFile (.name "") false path
      else return assembleFile host true path
    else return assembleFile (.name "") true s
  | _ => return assembleFile (.name "") true s

/-- Reads what stands behind another scheme. -/
def otherRest (scheme : String) (s : List Char) : Except UrlError Url := do
  match s with
  | '/' :: '/' :: rest =>
    let (authority, rest) ← authorityOf scheme false rest
    return assemble scheme false (some authority) rest
  | '/' :: _ => return assemble scheme false none s
  | _ =>
    let (query, fragment) := tailOf false (s.dropWhile fun c => !endsPath c)
    return ⟨scheme, none, .fixed (escape isUnprintable (s.takeWhile fun c => !endsPath c)), query,
      fragment⟩

/-- The character is dropped at both ends of an address. -/
def isOuterBlank (c : Char) : Bool := c.toNat ≤ 0x20

/-- The text of an address without what is passed over. -/
def cleaned (s : List Char) : List Char :=
  let s := ((s.dropWhile isOuterBlank).reverse.dropWhile isOuterBlank).reverse
  s.filter fun c => !(c == '\t' || c == '\n' || c == '\x0d')

/-- Reads an address. -/
def parse (text : String) : Except UrlError Url := do
  let some (scheme, rest) := splitScheme (cleaned text.toList) | throw .missingBase
  match SchemeKind.ofScheme scheme with
  | .web =>
    let (authority, rest) ← authorityOf scheme true
      (rest.dropWhile fun c => c == '/' || c == '\\')
    return assemble scheme true (some authority) rest
  | .file => fileRest rest
  | .other => otherRest scheme rest

end Nomenclator.Url
