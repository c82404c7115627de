import Nomenclator.Text.Form
import Nomenclator.Text.Blank

/-!
# Network addresses

Addresses of version 4 are four decimal octets. Addresses of version 6 are eight groups of
hexadecimal digits, where one run of zero groups may be left out and the last two groups may be
an address of version 4. A socket address adds the number of a service.
-/

namespace Nomenclator.Address

open Text (digits? isDigitOf)

/-- A decimal octet: at most three digits, without superfluous zeros. -/
def octet? (s : List Char) : Option Nat :=
  if s.length ≤ 3 && (s.length == 1 || s.head? != some '0') then
    (digits? 10 s).filter (· < 256)
  else none

/-- Reads an address of version 4. -/
def v4? (s : List Char) : Option (List Nat) :=
  match (Text.Form.splitAt '.' s).mapM octet? with
  | some [a, b, c, d] => some [a, b, c, d]
  | _ => none

/-- A group of version 6: one to four hexadecimal digits. -/
def group? (s : List Char) : Option Nat :=
  if s.length ≤ 4 then digits? 16 s else none

/-- The groups between single colons, where the last piece may be an address of version 4. -/
def groups? : List (List Char) → Option (List Nat)
  | [] => some []
  | [last] =>
    match group? last with
    | some g => some [g]
    | none =>
      match v4? last with
      | some [a, b, c, d] => some [a * 256 + b, c * 256 + d]
      | _ => none
  | piece :: rest => do
    let g ← group? piece
    let gs ← groups? rest
    return g :: gs

/-- The groups of one side of a double colon; an empty side has none. -/
def side? (s : List Char) : Option (List Nat) :=
  if s.isEmpty then some [] else groups? (Text.Form.splitAt ':' s)

/-- Splits a text at its first double colon. -/
def splitDouble : List Char → Option (List Char × List Char)
  | ':' :: ':' :: rest => some ([], rest)
  | c :: rest => (splitDouble rest).map fun p => (c :: p.1, p.2)
  | [] => none

/-- Reads the eight groups of an address of version 6. A double colon stands for one zero group
at least, and in front of it there is no address of version 4. -/
def v6? (s : List Char) : Option (List Nat) :=
  match splitDouble s with
  | none => (side? s).filter (·.length == 8)
  | some (front, back) => do
    if front.contains '.' then none
    let f ← side? front
    let b ← side? back
    if f.length + b.length ≤ 7 then
      some (f ++ List.replicate (8 - f.length - b.length) 0 ++ b)
    else none

/-- The length of the run of zero groups in front. -/
def zeros (groups : List Nat) : Nat := (groups.takeWhile (· == 0)).length

/-- The place and the length of the first longest run of zero groups. -/
def longestZeros (groups : List Nat) : Nat × Nat :=
  (List.range groups.length).foldl (fun best i =>
    let n := zeros (groups.drop i)
    if best.2 < n then (i, n) else best) (0, 0)

/-- Groups joined by single colons. -/
def joinGroups (groups : List Nat) : String :=
  Text.joinWith ":" (groups.map Text.hex)

/-- The shortest written form of eight groups: the first longest run of at least two zero groups
is left out. -/
def renderV6 (groups : List Nat) : String :=
  let (i, n) := longestZeros groups
  if n < 2 then joinGroups groups
  else joinGroups (groups.take i) ++ "::" ++ joinGroups (groups.drop (i + n))

/-- Four octets joined by dots. -/
def renderV4 (octets : List Nat) : String :=
  Text.joinWith "." (octets.map toString)

/-- The address and the service number of a socket. -/
inductive Socket where
  | v4 (octets : List Nat) (service : Nat)
  | v6 (groups : List Nat) (scope : Nat) (service : Nat)
  deriving Repr, DecidableEq, Inhabited

/-- The written form of a socket address. An address of version 6 that stands for one of
version 4 shows it. -/
def Socket.render : Socket → String
  | .v4 octets service => s!"{renderV4 octets}:{service}"
  | .v6 groups scope service =>
    let address := match groups with
      | [0, 0, 0, 0, 0, 0xFFFF, a, b] =>
        "::ffff:" ++ renderV4 [a / 256, a % 256, b / 256, b % 256]
      | _ => renderV6 groups
    let zone := if scope = 0 then "" else s!"%{scope}"
    s!"[{address}{zone}]:{service}"

/-- A service number. -/
def service? (s : List Char) : Option Nat := (digits? 10 s).filter (· < 65536)

/-- Reads a socket address. -/
def socket? (s : List Char) : Option Socket :=
  match s with
  | '[' :: rest => do
    let inner := rest.takeWhile (· != ']')
    let service ← match rest.dropWhile (· != ']') with
      | ']' :: ':' :: n => service? n
      | _ => none
    let groups ← v6? (inner.takeWhile (· != '%'))
    let scope ← match inner.dropWhile (· != '%') with
      | '%' :: n => (digits? 10 n).filter (· < 0x100000000)
      | _ => some 0
    return .v6 groups scope service
  | s => do
    let octets ← v4? (s.takeWhile (· != ':'))
    let service ← match s.dropWhile (· != ':') with
      | ':' :: n => service? n
      | _ => none
    return .v4 octets service

end Nomenclator.Address
