import Nomenclator.Binary
import Nomenclator.Text.Number

/-!
# Reading decimal texts

A decimal text may carry a sign, a point at any place, and an exponent; a digit is needed on one
side of the point at least. Too large a number is taken for infinity.
-/

namespace Nomenclator.Binary

/-- Takes a sign off the front; true is minus. -/
def splitSign : List Char → Bool × List Char
  | '+' :: s => (false, s)
  | '-' :: s => (true, s)
  | s => (false, s)

/-- The exponent at the end of a number. -/
def exponentOf? : List Char → Option Int
  | [] => some 0
  | c :: s =>
    if c == 'e' || c == 'E' then
      let (negative, ds) := splitSign s
      (Text.digits? 10 ds).map fun n => if negative then -(n : Int) else n
    else none

/-- Reads digits on both sides of a point, and an exponent. -/
def magnitude? (negative : Bool) (s : List Char) : Option Binary := do
  let whole := s.takeWhile Char.isDigit
  let rest := s.dropWhile Char.isDigit
  let (fraction, rest) := match rest with
    | '.' :: r => (r.takeWhile Char.isDigit, r.dropWhile Char.isDigit)
    | r => ([], r)
  let power ← exponentOf? rest
  if whole.isEmpty && fraction.isEmpty then none
  else
    let digits := Text.valueOf 10 (whole ++ fraction)
    return (ofDecimal? negative digits (power - fraction.length)).getD (.infinite negative)

/-- Reads a decimal text. -/
def ofText? (s : List Char) : Option Binary :=
  let (negative, body) := splitSign s
  magnitude? negative body

end Nomenclator.Binary
