import Nomenclator.Text.Form

/-!
# Escapes in addresses

Each part of an address has its own characters that may not stand in it and are written as
percent escapes. The classes grow from the fragment over the path to the user; the query has a
class of its own. Characters beyond ASCII and controls are escaped everywhere.
-/

namespace Nomenclator.Url

/-- The character is a control or lies beyond ASCII. -/
def isUnprintable (c : Char) : Bool := c.toNat < 0x20 || 0x7F ≤ c.toNat

/-- The character is escaped in a fragment. -/
def isUnsafeInFragment (c : Char) : Bool :=
  isUnprintable c || [' ', '"', '<', '>', '\x60'].contains c

/-- The character is escaped in a path. -/
def isUnsafeInPath (c : Char) : Bool :=
  isUnsafeInFragment c || ['#', '?', '\x7b', '\x7d'].contains c

/-- The character is escaped in a user's name or password. -/
def isUnsafeInUser (c : Char) : Bool :=
  isUnsafeInPath c || ['/', ':', ';', '=', '@', '[', '\\', ']', '^', '|'].contains c

/-- The character is escaped in a query; schemes of the web escape the apostrophe too. -/
def isUnsafeInQuery (web : Bool) (c : Char) : Bool :=
  isUnprintable c || [' ', '"', '#', '<', '>'].contains c || (web && c == '\'')

/-- Writes a text with the characters of a class escaped. -/
def escape (isUnsafe : Char → Bool) (s : List Char) : String :=
  String.ofList (s.flatMap fun c =>
    if isUnsafe c then (Text.Octets.ofChar c).flatMap Text.Form.escape else [c])

end Nomenclator.Url
