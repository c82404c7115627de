/-!
# Binary fractions

Numbers that need not be whole are kept as a whole number of at most fifty-three bits times a
power of two. What does not fit is rounded to the nearest such number, of two to the one whose
last bit is zero. All of it is arithmetic on whole numbers, so nothing here depends on a machine.
-/

namespace Nomenclator

/-- A number that need not be whole. -/
inductive Binary where
  /-- The mantissa times the power of two with the exponent; zero has a sign as well. -/
  | finite (negative : Bool) (mantissa : Nat) (exponent : Int)
  | infinite (negative : Bool)
  /-- What is no number. -/
  | undefined
  deriving Repr, DecidableEq, Inhabited

namespace Binary

/-- The number of bits of a mantissa. -/
def width : Nat := 53

/-- The least exponent. -/
def leastExponent : Int := -1074

/-- The greatest exponent of a mantissa of full width. -/
def greatestExponent : Int := 971

/-- The whole number nearest to a quotient, the even one of two. -/
def nearest (n d : Nat) : Nat :=
  let whole := n / d
  let rest := n % d
  if d < 2 * rest || (2 * rest == d && whole % 2 == 1) then whole + 1 else whole

/-- A quotient times a power of two as numerator and denominator. -/
def shifted (n d : Nat) (exponent : Int) : Nat × Nat :=
  (n * Nat.pow 2 exponent.toNat, d * Nat.pow 2 (-exponent).toNat)

/-- The binary fraction nearest to a quotient; none if the quotient is too large. -/
def ofRatio? (negative : Bool) (n d : Nat) : Option Binary :=
  if n = 0 then some (finite negative 0 0)
  else
    let guess : Int := n.log2 - d.log2
    let (m, b) := shifted n d (-guess)
    let top := if m < b then guess - 1 else guess
    let exponent := max (top - (width - 1)) leastExponent
    let (m, b) := shifted n d (-exponent)
    let mantissa := nearest m b
    if mantissa < Nat.pow 2 width then
      if greatestExponent < exponent then none else some (finite negative mantissa exponent)
    else if greatestExponent ≤ exponent then none
    else some (finite negative (Nat.pow 2 (width - 1)) (exponent + 1))

/-- The number of decimal places before the point that are looked at: beyond it nothing fits. -/
def placeLimit : Int := 400

/-- The binary fraction nearest to a whole number times a power of ten; none if that is too
large. -/
def ofDecimal? (negative : Bool) (digits : Nat) (power : Int) : Option Binary :=
  let places := ((Nat.toDigits 10 digits).length : Int) + power
  if digits = 0 || places < -placeLimit then some (finite negative 0 0)
  else if placeLimit < places then none
  else ofRatio? negative (digits * Nat.pow 10 power.toNat) (Nat.pow 10 (-power).toNat)

/-- The product of two binary fractions; none if it is too large. -/
def mul? : Binary → Binary → Option Binary
  | finite s m e, finite t n f =>
    let (a, b) := shifted (m * n) 1 (e + f)
    ofRatio? (s != t) a b
  | _, _ => none

/-- The quotient of two binary fractions, the second one not zero. -/
def div? : Binary → Binary → Option Binary
  | finite s m e, finite t n f =>
    let (a, b) := shifted m n (e - f)
    ofRatio? (s != t) a b
  | _, _ => none

/-- The number is zero. -/
def isZero : Binary → Bool
  | finite _ m _ => m == 0
  | _ => false

/-- The nearest whole number that is not negative and not beyond a limit; halves go up. What is
no number goes to zero. -/
def clamped (limit : Nat) : Binary → Nat
  | finite false m e =>
    let (a, b) := shifted m 1 e
    min ((2 * a + b) / (2 * b)) limit
  | infinite false => limit
  | _ => 0

end Binary

end Nomenclator
