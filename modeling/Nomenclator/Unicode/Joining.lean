import Nomenclator.Unicode.Ranges

/-!
# How letters join

In cursive scripts letters join their neighbours, some on both sides, some on one.
-/

namespace Nomenclator.Unicode

/-- On which sides a letter joins its neighbours. -/
inductive Joining where
  | both
  | left
  | right
  /-- It lets its neighbours join each other. -/
  | transparent
  | none
  deriving Repr, DecidableEq, Inhabited

/-- Reads a kind of joining from its letter. -/
def Joining.ofLetter : Char → Joining
  | 'D' => .both
  | 'L' => .left
  | 'R' => .right
  | 'T' => .transparent
  | _ => .none

/-- How all letters join, in writing. -/
def joiningLines : List String := [
  "0U 4tT 1U giT 34U 7nT 7U 7bT 19U 1T 1U 1T 2U 1T 2U 1T 1U 20T bU 1T 1U 3D 1U 1R 4D 1R 1D 1R",
  "1D 5R 4D dU 1D 7R 1D 2T lU eD 2T 1R 3U 1R 3D gR iD 12R 1D 2R 9D 1R 1D 1R 1D 2R 2U 1R 1T 7U",
  "2T 6U 2T 2U 1T 4R 2U aD 3U 2D 1U fT 1R 1T 1D 3R 5D 4R 1D 9R 1D 1R 1D 1R 1D 2R 1T rU 2R 1D bR",
  "3D fR 2D 4R 1D 1R 2D 3R 2D 6U 12T bU pD xT 9U 9T 1U oT 4U 1T 9U 1T 3U 1T 5U iR 1D 5R 2D 1R",
  "1D aR 1D 1R 3T 3U 4D 1U 1D 4U 1R 1D 1R 2U 5R jU 3D 1U 2D 5R 1D 1U 7T 9D aR 3U 1R 1D 2R 2D 6R",
  "1D fU 1T oU 1T wU 1jT 1U 1T 1U 4T 8U 4T 1U 3T 7U aT 2U tT 1U 1mT 1U 4T 4U 8T 1U kT 2U qT 1U",
  "2T 2U 1lT 1U 4T 2U 4T 2U 2T 3U 3T 1U uT 2U 3T 1U bT 2U 1lT 1U 4T 5U 1T 2U 4T 1U kT 2U mT 6U",
  "1T 1U 1mT 1U 2T 1U 1T 4U 8T 1U 7T 2U bT 2U uT 1U 1pT 1U cT 1U 1eT 1U 3T 1U 1jT 1U 1T 3U 5T",
  "3U 1T 4U 7T 2U bT 2U tT 1U 1mT 1U 2T 1U 6T 1U 5T 2U kT 2U sT 2U 1lT 2U 4T 4U 8T 1U kT 2U tT",
  "1U 20T 1U 7T 3U 1T 1U 2iT 1U 2T 7U cT 8U 2qT 1U 2T 9U bT 7U 21T 2U rT 1U 1T 1U 1T 1U 1jT eU",
  "1T 5U 1T 2U 5T bU 1T 10U 9T 1U 2uT 4U 1T 6U 1T 2U 2T 2U pT 2U 4T 3U gT 4U dT 1U 2T 2U 6T 1U",
  "fT 1U jjT 3U qaT 3U tT 2U uT 2U uT 2U 1sT 2U 1T 7U 8T 1U 2T bU 9T 1U 15D 1U 3T 3U 1T 1U gD",
  "2hU cT 2D yT 1D 1U 39T 3U 4T 2U 9T 1U 6T 3U 63T 2U 2T 1U 1mT 1U 1T 7U 1T 1U 1T 1U 2T 8U 6T",
  "aU 2T 1U 1cT 1aU 2T cU kT 4U 1cT 1U 1T 5U 1T 1U 5T 1U 14T 9U cT 2U wT 4U 2T 2U 1T 3U 1kT 1U",
  "1T 2U 3T 1U 1T 3U 1mT 8U 2T 2U 48T 3U 1T dU 1T 7U 4T 1U 6T 1U 3T 2U 5iT 1sU ejT 1U 2T 2U qT",
  "5U 1dT 5U 5T 6U 2oT xU 2daT 3U 3xT 1U 2oT wU feT 4U 2zT 2U n9wT 4U 1T aU wT 2U 28T 2U 7kT 1U",
  "3T 1U 4T 1U pT 2U 5T 1U jD 1eL 1U 29T 2U qT iU dT 1U 12T 8U pT bU 1aT 3U 1cT 1U 2T 4U 2T 2U",
  "13T 1U 1vT 6U 2T 2U 2T 2U cT 1U 8T 1U 1bT 1U 1fT 1U 1T 3U 2T 2U 5T 2U 1T 1U 16T 2U 8T 1U 6mT",
  "1U 2T 1U 4T 1U fn4T 1U khT gU gT gU 5rT 1U 6xT 3U e9T 1U 6aT 1U 45T 5U 1aeT 3U 1T 2U 5T 4U",
  "14T 3U 4T 1U 3kD 5R 1U 1R 1U 1R 2U 2L 1R 5D 4L 1D 5R 1D 3R 1U 2R 1T 2U 4D 4R 1U 40D 1R 1D 1R",
  "3D 3R 1D 2R 1D 1R 2D 1R 1U nR 4D 2U 9dL 1D xR 1D 1T 4U 1tT 5U 8tT 2U lR 1D 2U 1D 2U 1eT 6U",
  "1cD 3R 1D hU 1T bD 3R 1U rD 4R 2D cT 4U 16D 1U 1D 2R 3U 1D 1R 2D 2R 1D 2U 1D 1R 2D 1U 4R 1D",
  "1L 1U 1hT 1U 1iT fU 15T 1U 2T 2U aT 3U 1dT 4U 2T 2U 7T 1U 1pT 3U 10T 5U 1T 8U 1qT 1U cT 2U",
  "1gT 9U aT 4U 2T 1U 2nT 3U 2T 1U 1T 2U 6T 1U 2T 1U 4dT 1U 3T 8U lT 2U 1lT 2U 3T 1U 11T 7U 3T",
  "5U 1yT 6U dT 1U 1T 1U 1T 1U eT 2U 2dT 8U 2T 3U 1T 1U nT 1U 2cT 6U 1T 1U 4T 2U 1T 2U 6mT 4U",
  "6T 2U 1T 2U rT 2U 2dT 8U 2T 1U 1T 2U 2yT 1U 1T 1U 2T 6U 1T 1U 2tT 1U 1T 1U 2T 4U 1T 5U 77T",
  "9U 1T 2U 74T 2U 1T 1U 4T 1U 40T 4U 2T 2U 4T 1U wT aU 14T 6U 2T 4U 8T 1U 9T 6U 2T 3U 1aT dU",
  "1T 2U 5iT 1U 1T 3U 1T 1U 5lT 7U 1T 6U 1T 1U 2aT mU 2T 7U 1T 2U 1T 2U 3eT 6U 3T 1U 1T 2U 1T",
  "7U 1T 1U 20T 2U 3T 1U 1T 1U 9nT 2U bT 2U 1gT 5U 5T 1U 1T 1U nT 1U 445T hU 6T fU 8ugT cU 3T",
  "3U 1xcT 5U 1nT 7U t4T 1U 1rT 4U 29T 1U f5kT 2U 1T 4U 3mkT 1aU 2T nU f4T 3U 9T gU 2T 7U uT 4U",
  "44T 3U 1izT 1jU 4T 1eU 8T 1U eT 1U mT 5U 1T fU 11sT 7U 1T hU 2T 7U 1T 2U 1T 5U 2sT 1U 4gT 7U",
  "afT 1U 1pT 4U e4T 4U 72T 2U 6rT 1U 2T 1U 7T 2U 5T 1U d6T 7U 15D 1wT 8U gzatT 1U uT 2oU 3kT",
  "6oU"]

/-- How all letters join. -/
def joiningTable : Ranges Joining :=
  Ranges.ofLines (fun letter _ => Joining.ofLetter letter) joiningLines

/-- How a character joins its neighbours. -/
def joiningOf (c : Char) : Joining := (joiningTable.get? c).getD .none

end Nomenclator.Unicode
