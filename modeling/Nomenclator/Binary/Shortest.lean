import Nomenclator.Binary

/-!
# Shortest decimal texts

A binary fraction is written with the fewest decimal digits that read back as the same number,
and of those the nearest to it. The numbers that read back form an interval that ends half-way to
the neighbours. On the grid of a number of digits only the two points beside the number need to be
looked at: if any point of the grid lies in the interval, one of these two does.
-/

namespace Nomenclator.Binary

/-- The numbers that round to a binary fraction, as numerators over one denominator. -/
structure Interval where
  low : Nat
  value : Nat
  high : Nat
  denominator : Nat
  /-- The ends belong to it. -/
  closed : Bool

/-- The interval of a mantissa with its exponent. Below a power of two the neighbours are half as
far away. -/
def Interval.of (mantissa : Nat) (exponent : Int) : Interval :=
  let below := if mantissa = Nat.pow 2 (width - 1) && leastExponent < exponent then 1 else 2
  let (unit, denominator) := shifted 1 4 exponent
  { low := (4 * mantissa - below) * unit
    value := 4 * mantissa * unit
    high := (4 * mantissa + 2) * unit
    denominator
    closed := mantissa % 2 == 0 }

/-- A point of the grid of a power of ten lies in the interval. -/
def Interval.holds (i : Interval) (point : Nat) (power : Int) : Bool :=
  let p := point * Nat.pow 10 power.toNat * i.denominator
  let scale := Nat.pow 10 (-power).toNat
  if i.closed then i.low * scale ≤ p && p ≤ i.high * scale
  else i.low * scale < p && p < i.high * scale

/-- The point of the grid of a power of ten that stands for the interval: the nearer one of the
two beside its value, the upper one if both are as near. -/
def Interval.point? (i : Interval) (power : Int) : Option Nat :=
  let n := i.value * Nat.pow 10 (-power).toNat
  let d := i.denominator * Nat.pow 10 power.toNat
  let down := n / d
  match i.holds down power, i.holds (down + 1) power with
  | true, true => some (if d ≤ 2 * (n % d) then down + 1 else down)
  | true, false => some down
  | false, true => some (down + 1)
  | false, false => none

/-- The first grid from coarse to fine with a point in the interval, and the point. Seventeen
digits always suffice. -/
def Interval.search (i : Interval) : Nat → Int → Nat × Int
  | 0, power =>
    (i.value * Nat.pow 10 (-power).toNat / (i.denominator * Nat.pow 10 power.toNat), power)
  | more + 1, power =>
    match i.point? power with
    | some point => (point, power)
    | none => i.search more (power - 1)

/-- The shortest digits of a number and the power of ten that they are multiplied with. -/
def digits (mantissa : Nat) (exponent : Int) : Nat × Int :=
  let i := Interval.of mantissa exponent
  let whole := i.value / i.denominator
  let places : Int :=
    if whole = 0 then
      -- One more than the number of zeros behind the point.
      ((Nat.toDigits 10 i.value).length : Int) - (Nat.toDigits 10 i.denominator).length + 1
    else (Nat.toDigits 10 whole).length
  i.search 20 (places + 1)

/-- Digits with the point where the power of ten puts it. -/
def positional (digits : Nat) (power : Int) : String :=
  let text := toString digits
  if 0 ≤ power then text ++ String.ofList (List.replicate power.toNat '0')
  else
    let places := (-power).toNat
    let padded := List.replicate (places + 1 - text.length) '0' ++ text.toList
    let whole := padded.length - places
    String.ofList (padded.take whole ++ '.' :: padded.drop whole)

/-- A binary fraction in its shortest text, without an exponent. -/
def render : Binary → String
  | undefined => "NaN"
  | infinite negative => if negative then "-inf" else "inf"
  | finite negative mantissa exponent =>
    let (ds, power) := if mantissa = 0 then (0, 0) else digits mantissa exponent
    (if negative then "-" else "") ++ positional ds power

end Nomenclator.Binary
