import AppLinks.Url.Address
import AppLinks.Url.Path

/-!
URLs and their written form.
-/

namespace AppLinks

namespace Url

inductive Host where
  /-- A name as it is written; in a special URL it is a domain name in its ASCII form. -/
  | name (text : List Char)
  | ipv4 (address : Nat)
  | ipv6 (pieces : List Nat)
  deriving DecidableEq, Repr

def Host.text : Host → List Char
  | .name t => t
  | .ipv4 a => (Ipv4.render a).toList
  | .ipv6 ps => '[' :: (Ipv6.render ps).toList ++ [']']

structure Authority where
  /-- The user name, and after a colon the password. -/
  userinfo : List Char := []
  /-- There is no host where none is written. -/
  host : Option Host := none
  /-- A port that is not the usual one of the scheme. -/
  port : Option Nat := none
  deriving DecidableEq, Repr

inductive Location where
  | opaquePath (text : List Char)
  | segments (list : List (List Char))
  deriving DecidableEq, Repr

def Location.text : Location → List Char
  | .opaquePath t => t
  | .segments l => Path.render l

end Url

/-- A URL. All parts are kept in their written form. -/
structure Url where
  scheme : List Char
  authority : Option Url.Authority
  location : Url.Location
  query : Option (List Char)
  fragment : Option (List Char)
  deriving DecidableEq, Repr

namespace Url

/-- The schemes that are read by rules of their own, with their usual ports. -/
def specialSchemes : List (String × Option Nat) :=
  [("http", some 80), ("https", some 443), ("ws", some 80), ("wss", some 443), ("ftp", some 21),
   ("file", none)]

def isSpecial (scheme : List Char) : Bool := (specialSchemes.lookup (String.ofList scheme)).isSome

def usualPort (scheme : List Char) : Option Nat :=
  (specialSchemes.lookup (String.ofList scheme)).join

def hostText (u : Url) : List Char :=
  match u.authority with
  | some a => (a.host.map Host.text).getD []
  | none => []

def hasHost (u : Url) : Bool := u.authority.any (·.host.isSome)

def path (u : Url) : List Char := u.location.text

def Authority.text (a : Authority) : List Char :=
  ['/', '/'] ++ (if a.userinfo.isEmpty then [] else a.userinfo ++ ['@']) ++
    (a.host.map Host.text).getD [] ++
    match a.port with
    | some p => ':' :: (toString p).toList
    | none => []

/-- The written form of a URL. Where no authority keeps two slashes at the start of the path from
being taken for one, `/.` is put before them. -/
def text (u : Url) : List Char :=
  u.scheme ++ ':' ::
    (match u.authority with
      | some a => a.text
      | none => if ['/', '/'].isPrefixOf u.path then ['/', '.'] else []) ++
    u.path ++
    (match u.query with
      | some q => '?' :: q
      | none => []) ++
    match u.fragment with
      | some f => '#' :: f
      | none => []

def render (u : Url) : String := String.ofList u.text

/-- Whether the host of a URL names a site. -/
def isWeb (u : Url) : Bool := u.scheme = "http".toList || u.scheme = "https".toList

end Url

end AppLinks
