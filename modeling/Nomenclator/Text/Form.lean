import Nomenclator.Text.Number
import Nomenclator.Text.Octets

/-!
# Form encoding

Query strings are lists of named values. Values are written with a plus sign for a space and a
percent escape for every octet that is neither a letter, a digit nor one of `*-._`. Reading is
more lenient than writing: a percent sign that begins no escape stands for itself, and empty
pieces between ampersands are passed over.
-/

namespace Nomenclator.Text.Form

/-- An octet as an escape, in upper case. -/
def escape (b : Nat) : List Char := ['%', hexDigit (b / 16) true, hexDigit (b % 16) true]

/-- The character is written as it is. -/
def isPlain (c : Char) : Bool :=
  c.isAlphanum || c == '*' || c == '-' || c == '.' || c == '_'

/-- A value in written form. -/
def encode (s : List Char) : List Char :=
  s.flatMap fun c =>
    if isPlain c then [c] else if c == ' ' then ['+'] else (Octets.ofChar c).flatMap escape

/-- The octets that percent escapes and other characters stand for. -/
def unescape : List Char → List Nat
  | [] => []
  | '%' :: a :: b :: rest =>
    if isDigitOf 16 a && isDigitOf 16 b then
      (digitValue a * 16 + digitValue b) :: unescape rest
    else '%'.toNat :: unescape (a :: b :: rest)
  | c :: rest => Octets.ofChar c ++ unescape rest

/-- The value that a written form stands for. -/
def decode (s : List Char) : List Char :=
  Octets.decode (unescape (s.map fun c => if c == '+' then ' ' else c))

/-- Named values as a query string. -/
def encodePairs (pairs : List (String × String)) : String :=
  String.ofList (List.intercalate ['&']
    (pairs.map fun p => encode p.1.toList ++ '=' :: encode p.2.toList))

/-- Splits a text at every occurrence of a character. -/
def splitAt (sep : Char) (s : List Char) : List (List Char) :=
  s.foldr (fun c pieces =>
    if c == sep then [] :: pieces
    else match pieces with
      | [] => [[c]]
      | p :: rest => (c :: p) :: rest) [[]]

/-- One named value; without an equals sign the value is empty. -/
def decodePair (s : List Char) : String × String :=
  (String.ofList (decode (s.takeWhile (· != '='))),
    String.ofList (decode ((s.dropWhile (· != '=')).drop 1)))

/-- The named values of a query string, in order. -/
def decodePairs (s : List Char) : List (String × String) :=
  ((splitAt '&' s).filter fun piece => !piece.isEmpty).map decodePair

end Nomenclator.Text.Form
