/-!
# Numbers in text

Whole numbers as they stand in variables, addresses and escapes: digits of one base, with no
separators, and in some places a sign.
-/

namespace Nomenclator.Text

/-- The value of a digit in bases up to sixteen. -/
def digitValue (c : Char) : Nat :=
  if c.isDigit then c.toNat - '0'.toNat
  else if 'a' ≤ c ∧ c ≤ 'f' then c.toNat - 'a'.toNat + 10
  else if 'A' ≤ c ∧ c ≤ 'F' then c.toNat - 'A'.toNat + 10
  else 16

/-- The character is a digit of a base up to sixteen. -/
def isDigitOf (base : Nat) (c : Char) : Bool := digitValue c < base

/-- The number that some digits stand for. -/
def valueOf (base : Nat) (digits : List Char) : Nat :=
  digits.foldl (fun n c => n * base + digitValue c) 0

/-- Reads one digit or more, and nothing else. -/
def digits? (base : Nat) (s : List Char) : Option Nat :=
  if !s.isEmpty && s.all (isDigitOf base) then some (valueOf base s) else none

/-- A whole number fits into sixty-four bits, one of them for the sign. -/
def isWord (n : Int) : Bool := -0x8000000000000000 ≤ n && n < 0x8000000000000000

/-- Reads a decimal number that may carry a plus sign. -/
def unsigned? : List Char → Option Nat
  | '+' :: s => digits? 10 s
  | s => digits? 10 s

/-- Reads a decimal number that may carry a sign. -/
def signed? : List Char → Option Int
  | '-' :: s => (digits? 10 s).map fun n => -(n : Int)
  | s => (unsigned? s).map Int.ofNat

/-- The hexadecimal digits of a number below sixteen. -/
def hexDigit (n : Nat) (upper : Bool) : Char :=
  if n < 10 then Char.ofNat ('0'.toNat + n)
  else Char.ofNat ((if upper then 'A' else 'a').toNat + (n - 10))

/-- A number in lower case hexadecimal digits. -/
def hex (n : Nat) : String := String.ofList (Nat.toDigits 16 n)

end Nomenclator.Text
