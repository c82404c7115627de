import Nomenclator.Text.Form
import Nomenclator.Toml

/-!
# Words as values

A word that is no string is a truth value, a number, or a moment. Underscores may stand between
the digits of a number, but neither first, last nor together; moments must be on the calendar.
-/

namespace Nomenclator.Toml

open Text (digits? isDigitOf valueOf)

/-- Digits of a base with single underscores between them, without the underscores. -/
def spacedDigits? (base : Nat) (s : List Char) : Option (List Char) :=
  let groups := Text.Form.splitAt '_' s
  if groups.all fun g => !g.isEmpty && g.all (isDigitOf base) then some groups.flatten else none

/-- Decimal digits without a superfluous zero in front. -/
def plainDigits? (s : List Char) : Option (List Char) :=
  (spacedDigits? 10 s).filter fun ds => ds.length == 1 || ds.head? != some '0'

/-- Takes a sign off the front; true is minus. -/
def splitSign : List Char → Option Bool × List Char
  | '+' :: s => (some false, s)
  | '-' :: s => (some true, s)
  | s => (none, s)

/-- A whole number; other bases take no sign. -/
def integer? (s : List Char) : Option Int :=
  match s with
  | '0' :: 'x' :: ds => (spacedDigits? 16 ds).map fun ds => (valueOf 16 ds : Int)
  | '0' :: 'o' :: ds => (spacedDigits? 8 ds).map fun ds => (valueOf 8 ds : Int)
  | '0' :: 'b' :: ds => (spacedDigits? 2 ds).map fun ds => (valueOf 2 ds : Int)
  | s =>
    let (sign, ds) := splitSign s
    (plainDigits? ds).map fun ds =>
      if sign = some true then -(valueOf 10 ds : Int) else (valueOf 10 ds : Int)

/-- What of a number with its point moved to the end: the digits, and the power of ten. -/
def decimal? (s : List Char) : Option (Nat × Int) := do
  let isMark (c : Char) : Bool := c == 'e' || c == 'E'
  let front := s.takeWhile fun c => !isMark c
  let behind := s.dropWhile fun c => !isMark c
  let whole ← plainDigits? (front.takeWhile (· != '.'))
  let fraction ← match front.dropWhile (· != '.') with
    | [] => some []
    | _ :: ds => spacedDigits? 10 ds
  let power : Int ← match behind with
    | [] => some 0
    | _ :: ds =>
      let (sign, ds) := splitSign ds
      (spacedDigits? 10 ds).map fun ds =>
        if sign = some true then -(valueOf 10 ds : Int) else valueOf 10 ds
  if front.contains '.' || !behind.isEmpty then
    return (valueOf 10 (whole ++ fraction), power - fraction.length)
  else none

/-- A number that is not whole: digits with a fraction, an exponent or both, unless they are too
large to be kept, or one of the special values. -/
def real? (s : List Char) : Option Binary :=
  let (sign, body) := splitSign s
  let negative := sign = some true
  if body == "inf".toList then some (.infinite negative)
  else if body == "nan".toList then some .undefined
  else (decimal? body).bind fun d => Binary.ofDecimal? negative d.1 d.2

/-- The whole numbers that a document may hold: those of sixteen octets, with a sign or without. -/
def isRepresentable (n : Int) : Bool := -Int.pow 2 127 ≤ n && n < Int.pow 2 128

/-- The value of a word. -/
def scalar? (s : List Char) : Option Toml :=
  if s == "true".toList then some (.bool true)
  else if s == "false".toList then some (.bool false)
  else match integer? s with
    | some n => if isRepresentable n then some (.int n) else none
    | none => ((real? s).map .real).or ((Moment.ofText? s).map .moment)

end Nomenclator.Toml
