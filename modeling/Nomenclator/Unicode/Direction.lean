import Nomenclator.Unicode.Ranges

/-!
# Directions of writing

Each character has a direction of its own or adapts to what is around it.
-/

namespace Nomenclator.Unicode

/-- The direction of a character. -/
inductive Direction where
  | leftToRight
  | rightToLeft
  /-- A letter of the Arabic script and its relatives, from right to left. -/
  | arabicLetter
  | arabicNumber
  | europeanNumber
  | numberSeparator
  | numberTerminator
  | commonSeparator
  /-- A mark, which goes with the character in front of it. -/
  | mark
  | boundary
  | neutral
  deriving Repr, DecidableEq, Inhabited

/-- Reads a direction from its letter. -/
def Direction.ofLetter : Char → Direction
  | 'L' => .leftToRight
  | 'R' => .rightToLeft
  | 'A' => .arabicLetter
  | 'N' => .arabicNumber
  | 'E' => .europeanNumber
  | 'S' => .numberSeparator
  | 'T' => .numberTerminator
  | 'C' => .commonSeparator
  | 'M' => .mark
  | 'B' => .boundary
  | _ => .neutral

/-- The directions of all characters that domain names may hold, in writing. -/
def directionLines : List String := [
  "0B 9O 5B eO 7T 3O 5S 1C 1S 1C 2E aC 1O 12L qO 4B yO 1T 4O aT 6O 15L oO 1L chO 2L 7O eL 2O sL",
  "1O hM 35L 4O 2L 3jO 2L 3vM 8L 73O 5T 2M 19R 1M 1R 1M 2R 1M 2R 1M 9R 1iO 2A 1T 2A 1C 1A 1O 2M",
  "bA 1cM lN aT 1N 2A 3M 1A 2tM 8O 1M 6A 2M 2O 1M 4A 2E aA nM 1A uM tA 2hM bA fR 17M 9R 2O 4R",
  "3M 1R oM 4R 1M 9R 1M 3R 1M 7R 15M 5R 2A 1jM 9A 16M 1lL 1jM 1L 1M 1L 4M 8L 4M 1L 3M fL 2M 2L",
  "tM 1L 1mM 1L 4M 6L 6M 1L kM 4L cT 2L 7T 1L 2M 5L 1lM 2L 3M rL kM 2L 3M 1L bM 2L 1lM 1L 4M 8L",
  "4M 3L iM 4L bT 8L 1M 8L 1mM 1L 2M 1L 1M 6L 6M aL bM 4L sM 1L 1pM 1L cM 3L zO 6T 1O 6M 1L 3M",
  "1L 1jM 1L 1M 3L 5M iL aM 4L iO 7L 2M 1L 1mM 1L fM 9L dM 4L qM 2L 1lM 2L 4M 5L 7M 1L kM 4L rM",
  "1L 20M 5L 3M 6L 2hM 1L 2M bT 1L 7M 8L 2qM 1L 2M 9L bM 8L 20M 2L rM 1L 1M 1L 1M 1O 4L 1fM eL",
  "1M 5L 1M 2L 5M 1dL 8M 1L 2uM 4L 1M 6L 1M 2L 2M 2L pM 2L 4M 3L gM 4L dM 1L 2M 2L 6M 1L fM 1L",
  "jjM 3L 1cO gL 2oO 1L iiO 5L 36M 3L tM 2L uM eL iM eL 1jM 7L 8M 1L 2M bL 7T 1L 1M 3L gO wL",
  "39M 2L yM 1L 3aM 3L 4M 2L 9M 1L 6M 7O 6L 48O yL nM 2L 2M 3L 1kM 1L 1M 9L 1M 1L 2M 8L 6M dL",
  "1cM 2cL 1cM 1L 1M 5L 1M 1L 5M 1L 14M 9L cM 2L wM 4L 2M 2L 1M 3L 1kM 1L 1M 2L 3M 1L 1M 3L 1mM",
  "8L 2M 5L 45M 3L 1M dL 1M 7L 4M 1L 6M 1L 3M 2L 5iM 1tL ejB 4O wT 5O fC 1O 2jT 1cM 1gO 16T cO",
  "kL 1oO 3sS 1T 1O 82L 1xO qL 1O lyL 1O 9fL 74O moL 51O 7L 3M 4L 6O 7L 3jM 1L 2oM wO edL 3O pL",
  "9M 4L 2O 1L 6O 4L 2O 4L 2gM 4L 3O 1L 2iO 1L 5gO 1cL 5hsO 1sL h3kO 1sL 8tO 3L 2nM 4O 1M aO 3L",
  "tM 2L 28M 2L eO zL 2tO 1L 3dM 1L 3M 1L 4M 1L pM 2L 1O 4M 4L 8T 8L 1gO cL 1wM aL iM iL dM 1L",
  "12M 8L pM bL 1aM 3L 1cM 1L 2M 4L 2M 2L 13M 1L 1vM 6L 2M 2L 2M bL 3M 1L 8M 1L 1bM 1L 1fM 1L",
  "1M 3L 2M 2L 5M 2L 1M 1L 16M 2L 8M bL 2xO 2eL 11M 1L 2M 1L 4M 3L fn2M 44A hO gtM 11O 1aA b1L",
  "75O 1L 1qO 25L 3O 1sL 19M 3nL 2oM 1E vL 3aM aL w0R 7zO 1R 69M fR 14M 8R 4lM 6R 26O 7R cgA",
  "10M cN gR 15M 5O 1R 6pN wR 17M 2R lA eO 16M 6R 1cA mM bA vR iM 4R 3eL 1M 1L 1iM fL bO kL aM",
  "1L 2M 2L aM 3L 1dM 4L 2M 2L 7M eL 1cM 3L 10M 5L 1M 9L 1pM 1L cM 2L 1gM 9L aM 4L 2M 1L 2nM 3L",
  "2M 1L 1M 2L 6M 1L 2M 1rL 2nM 1L 3M dL gM 2L 1lM 2L 3M 1L 11M qL 1nM 7L cM 1L 1M 1L 1M 1L eM",
  "vL 1kM 8L 2M 3L 1M 1L nM 1L 2cM 6L 1M 1L 4M 2L 1M 2L 6mM 6L 4M 2L 1M 2L rM 10L 1fM 8L 2M 1L",
  "1M 2L vO wL 17M 1L 1M 1L 2M 6L 1M 1L 2tM 3L 2M 4L 1M 9L 73M 9L 1M 2L 74M 2L 1M 1L 4M 1L 40M",
  "8L 4M 1L wM 6L 2M 2L 14M 6L 2M 4L 8M 9L 1M 6L 2M 3L 1aM dL 1M 2L 5iM 1L 1M 3L 1M 1L 5lM eL",
  "2cM nL 1M 7L 1M 2L 1M 23L 1dM lL 1M 9L 1sM 3L 2M 1L 1M 1L 9nM 2L bM 2L 1gM 8L 2M 1L 1M 1L nM",
  "2eL 11O 8T 4O uL 401M 1L 6M pL 8u6M cL 3M 3L 1xcM 5L 1nM 7L t4M 1L 1rM 4L 27O 1L 1M cL f59M",
  "2L 31dO lcM 28L evM 3L hM 8L 2M 7L uM 4L 1nO 2hM 3O 3fL 1sO 2oL 1b4M 1jL 4M 1eL 8M 1L eM 1L",
  "mM v9L 74M 74L 1cM 7L afM iL 18M 4L fT cxL sM 4L 72M 2L 6rM 1L 2M 1L 7M 2L 5M 9L 76R 5sM 2aR",
  "yM 7R meA hrO gwL tO 3L 1pO 1lL 3eO 2owL"]

/-- The directions of all characters that domain names may hold. -/
def directionTable : Ranges Direction :=
  Ranges.ofLines (fun letter _ => Direction.ofLetter letter) directionLines

/-- The direction of a character that a domain name may hold. -/
def directionOf (c : Char) : Direction := (directionTable.get? c).getD .neutral

end Nomenclator.Unicode
