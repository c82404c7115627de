/-!
# Cache settings

How much is kept, and how changes reach what is kept.
-/

namespace Nomenclator.Cache

/-- The settings of all caches and of the invalidation queue. -/
structure Config where
  /-- Whether values are kept at all. -/
  enabled : Bool := true
  /-- The most entries for one store. -/
  perStoreLimit : Nat := 10000
  /-- How many seconds an entry lives; zero means until it is pushed out. -/
  ttlSeconds : Nat := 0
  /-- The most pending events. -/
  eventQueueLimit : Nat := 1024
  /-- The time between two automatic consumptions, in milliseconds. -/
  autoConsumeMs : Nat := 5000
  /-- The most events that one consumption takes. -/
  consumeBatchLimit : Nat := 100
  deriving Repr, DecidableEq, Inhabited

namespace Config

/-- The number of entries that one store may have; at least one. -/
def capacity (c : Config) : Nat := max c.perStoreLimit 1

/-- How long entries live, if they do not live until they are pushed out. -/
def ttl? (c : Config) : Option Nat :=
  if c.ttlSeconds = 0 then none else some c.ttlSeconds

end Config

end Nomenclator.Cache
