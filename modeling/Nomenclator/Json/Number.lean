import Nomenclator.Binary
import Nomenclator.Text.Number

/-!
# Numbers of JSON

A whole number is kept as it is while it fits into sixty-four bits. Any other number is a
significand times a power of ten: the significand takes digits as long as they fit, and those that
do not only scale it. Both factors are rounded, and so is what comes of them, so the last bit of
such a number need not be the nearest one.
-/

namespace Nomenclator.Json.Number

open Text (digitValue valueOf)

/-- A number in writing: its sign, its digits on both sides of the point, and its exponent. -/
structure Written where
  negative : Bool
  whole : List Char
  fraction : List Char
  /-- The exponent with its sign, if there is one. -/
  exponent : Option (Bool × List Char)
  deriving Repr, DecidableEq

/-- The greatest significand. -/
def significandLimit : Nat := 0xFFFFFFFFFFFFFFFF

/-- Takes digits into a significand, and leaves those from the first one on that does not fit. -/
def gather (n : Nat) : List Char → Nat × List Char
  | [] => (n, [])
  | d :: ds =>
    let next := n * 10 + digitValue d
    if next ≤ significandLimit then gather next ds else (n, d :: ds)

/-- The greatest exponent of a power of ten that can be kept. -/
def powerLimit : Int := 308

/-- Scales a number by a power of ten, a large negative one step by step; none if the result is
too large. -/
def scale? (x : Binary) (power : Int) : Option Binary :=
  if power < -powerLimit then
    if x.isZero then some x
    else
      (Binary.ofDecimal? false 1 powerLimit).bind fun p =>
        (x.div? p).bind fun x => scale? x (power + powerLimit)
  else if powerLimit < power then if x.isZero then some x else none
  else if power < 0 then (Binary.ofDecimal? false 1 (-power)).bind x.div?
  else (Binary.ofDecimal? false 1 power).bind x.mul?
termination_by (-power).toNat
decreasing_by
  unfold powerLimit at *
  omega

/-- The power of ten that an exponent means. -/
def powerOf : Option (Bool × List Char) → Int
  | none => 0
  | some (negative, ds) => if negative then -(valueOf 10 ds : Int) else valueOf 10 ds

/-- The binary fraction that a number stands for; none if it is too large. -/
def Written.real? (w : Written) : Option Binary :=
  let (n, dropped) := gather 0 w.whole
  let (n, left) := gather n w.fraction
  let power : Int := dropped.length - (w.fraction.length - left.length : Nat)
  (Binary.ofRatio? w.negative n 1).bind fun x => scale? x (power + powerOf w.exponent)

/-- The whole number that a number is, if it has neither fraction nor exponent and fits. Zero has
no sign among the whole numbers. -/
def Written.int? (w : Written) : Option Int :=
  let n := valueOf 10 w.whole
  if !w.fraction.isEmpty || w.exponent.isSome then none
  else if w.negative then if 0 < n && n ≤ 0x8000000000000000 then some (-(n : Int)) else none
  else if n ≤ significandLimit then some n
  else none

end Nomenclator.Json.Number
