import Nomenclator.Unicode.Ranges

/-!
# Marks

The characters that only change the one in front of them, so that nothing can begin with one.
-/

namespace Nomenclator.Unicode

/-- Where marks begin and end, in writing. -/
def markLines : List String := [
  "0O lcM 34O 7nM 7O 7bM 19O 1M 1O 1M 2O 1M 2O 1M 1O 20M bO 1cM lO gM 1O 2tM 7O 2M 6O 2M 2O 1M",
  "4O zM 1O uM rO 2jM bO 1mM 9O 9M 1O oM 4O 1M 9O 1M 3O 1M 5O 17M 3O 1nM 9O 16M oO 1M xO 1iM 3O",
  "1M iO 1M 7O aM 2O tM 3O 1kM 1O 1M 7O 2M 2O 2M 3O 9M 1O aM 2O qM 1O 2M 3O 1kM 1O 1M 5O 4M 2O",
  "2M 3O 3M 1O uM 2O 3M 1O bM 3O 1kM 1O 1M 8O 1M 3O 1M 3O kM 2O mM 6O 1M 3O 1kM 1O 1M 7O 2M 2O",
  "2M 3O 7M 3O aM 2O uM 1O 1nM 5O 3M 3O 1M 4O 9M 1O 14M 5O 1jM 1O 1M 7O 1M 3O 1M 4O 7M 2O bM 2O",
  "tM 3O 1kM 1O 1M 7O 1M 3O 1M 4O 7M 2O bM 2O fM 1O cM 4O 1jM 2O 1M 7O 1M 3O 1M 4O 9M 1O aM 2O",
  "tM 3O 1yM 1O 4M 6O 1M 1O 1M 8O iM 2O 1pM 1O 2M 7O cM 8O 2qM 1O 2M 9O bM 7O 21M 2O rM 1O 1M",
  "1O 1M 1O 4M 2O 1dM kO 1M 2O 5M bO 1M 10O 9M 1O 2sM kO nM 4O 4M 3O 1M 3O 2M 7O 3M 4O dM cO 1M",
  "1O aM 4O jjM 3O qaM 4O sM 3O tM 2O uM 2O 1sM wO 9M 1O 19M 3O 1M 1O 39M 2O yM 1O 3aM cO 4M cO",
  "63M 5O 1lM aO 1M tO 2M 1O 1cM 1aO 2M cO kM 5O 1bM hO 12M 9O cM 3O uM dO 1kM eO 1cM kO 48M 3O",
  "1M lO 4M 1O 6M 1O 2M 3O 5iM 1sO k0M xO 2daM 3O 3xM 1O 2oM wO feM 6O 2xM 2O n9wM 4O 1M aO wM",
  "2O 28M 2O 7kM 1O 3M 1O 4M 1O nM 5O 4M 1O 2bM 2O 1eM iO qM iO dM 1O 12M 8O pM dO 18M 4O 1bM",
  "eO 10M 1O 1vM eO cM 1O 8M 2O 19M 3O 1eM 1O 1M 3O 2M 2O 5M 2O 1M 1O 15M 5O 5M 2O 6kM 8O 1M 2O",
  "fn4M 1O khM gO gM gO r1M 1O 6aM 1O 45M 5O 1aeM 3O 1M 2O 5M 4O 14M 3O 4M 1O 4lM 2O fxM 4O 1tM",
  "5O 8tM 2O 25M 6O 1yM bO 1dM 4O 3eM 3O 1hM fO 15M 1O 2M 2O aM 4O 19M bO 7M 1O 1pM 3O 10M eO",
  "gM 2O 18M 1O cM 3O 1cM eO 8M 4O 1M 2O 2kM cO 6M 1O 2M 1O 4dM cO lM 4O 1jM 2O 1M 7O 2M 2O 2M",
  "3O 9M 1O aM 2O 2M 7O 3M 5O 1vM 9O 1M 1O 2M 1O 1M 4O 1M 5O 1M 1O eM 2O 2aM iO nM 1O 29M kO",
  "6jM 7O 2M 9O rM 2O 2aM hO 2yM dO 2tM fO 74M fO 6tM 6O 1M 2O 2M 4O 1M 1O 1M 2O 3xM 7O 2M 7O",
  "3M 1O sM aO 14M 7O 1M 4O 8M 1O 9M bO 1aM gO 5iM 8O 5jM 8O 1M 8O 2aM mO 1M eO 3eM 6O 3M 1O 1M",
  "2O 1M 7O 1M 1O 1uM 5O 1M 2O 1M 5O 9nM 4O 9M 2O 1M 1O 1cM 7O 3M 5O nM 1O 44lM 1O 6M fO 8ugM",
  "iO 1xcM 5O 1nM 7O t4M 1O 1M 1jO 7M 4O 29M 1O bM 2O f57M 2O 3mpM 1aO 2M nO f2M 5O 3M 6O 8M 8O",
  "2M 7O uM 4O 44M 3O 1izM 1jO 4M 1eO 8M 1O eM 1O mM 5O 1M fO 11sM 7O 1M hO 2M 7O 1M 2O 1M 5O",
  "2sM 1O 4gM 7O afM 1O 1pM 4O e4M 4O 72M 2O 6rM 1O 2M 1O 7M 2O 5M 1O d6M 7O 31M 7O gzhxM 6oO"]

/-- Where marks begin and end. -/
def markTable : Ranges Bool := Ranges.ofLines (fun letter _ => letter == 'M') markLines

/-- The character is a mark. -/
def isMark (c : Char) : Bool := (markTable.get? c).getD false

end Nomenclator.Unicode
