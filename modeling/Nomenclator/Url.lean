import Nomenclator.Address

/-!
# Web addresses

The address of a peer: a scheme, perhaps an authority, a path, and perhaps a query and a
fragment. A path is either a list of segments, beside which other paths can be named, or a fixed
text, beside which nothing can.
-/

namespace Nomenclator

/-- Why a text is no address, or an address no base of another. -/
inductive UrlError where
  | emptyHost
  | invalidDomainName
  | invalidService
  | invalidV4
  | invalidV6
  | invalidDomainCharacter
  | missingBase
  | fixedBase
  deriving Repr, DecidableEq

/-- The text of an address error. -/
def UrlError.message : UrlError → String
  | .emptyHost => "empty host"
  | .invalidDomainName => "invalid international domain name"
  | .invalidService => "invalid port number"
  | .invalidV4 => "invalid IPv4 address"
  | .invalidV6 => "invalid IPv6 address"
  | .invalidDomainCharacter => "invalid domain character"
  | .missingBase => "relative URL without a base"
  | .fixedBase => "relative URL with a cannot-be-a-base base"

namespace Url

/-- Who is asked. -/
inductive Host where
  | name (text : String)
  | v4 (octets : List Nat)
  | v6 (groups : List Nat)
  deriving Repr, DecidableEq, Inhabited

/-- The written form of a host. -/
def Host.render : Host → String
  | .name text => text
  | .v4 octets => Address.renderV4 octets
  | .v6 groups => s!"[{Address.renderV6 groups}]"

/-- A host with the user who asks and the number of a service. -/
structure Authority where
  /-- The user's name and password, as they are written. -/
  user : String
  host : Host
  /-- The service number, if it is not the usual one of the scheme. -/
  service : Option Nat
  deriving Repr, DecidableEq, Inhabited

/-- The written form of an authority. -/
def Authority.render (a : Authority) : String :=
  (if a.user.isEmpty then "" else s!"{a.user}@") ++ a.host.render
    ++ (match a.service with
      | some n => s!":{n}"
      | none => "")

/-- What is asked for. -/
inductive Route where
  | segments (parts : List String)
  | fixed (text : String)
  deriving Repr, DecidableEq, Inhabited

/-- The written form of a path: each segment behind a slash. -/
def Route.render : Route → String
  | .segments parts => String.join (parts.map fun p => "/" ++ p)
  | .fixed text => text

end Url

/-- An address, all of its parts in their written form. -/
structure Url where
  scheme : String
  authority : Option Url.Authority
  route : Url.Route
  query : Option String
  fragment : Option String
  deriving Repr, DecidableEq, Inhabited

namespace Url

/-- What keeps a path that begins with two slashes from being read as an authority. -/
def guard : Route → String
  | .segments ("" :: _ :: _) => "/."
  | _ => ""

/-- The written form of an address. -/
def render (u : Url) : String :=
  u.scheme ++ ":"
    ++ (match u.authority with
      | some a => "//" ++ a.render
      | none => guard u.route)
    ++ u.route.render
    ++ (match u.query with
      | some q => "?" ++ q
      | none => "")
    ++ (match u.fragment with
      | some f => "#" ++ f
      | none => "")

/-- The path of an address. -/
def path (u : Url) : String := u.route.render

/-- The address whose path puts some segments in the place of the last one. Query and fragment
belong to the old path and go with it. -/
def beside (u : Url) (segments : List String) : Except UrlError Url :=
  match u.route with
  | .fixed _ => .error .fixedBase
  | .segments parts =>
    .ok { u with route := .segments (parts.dropLast ++ segments), query := none, fragment := none }

end Url

end Nomenclator
