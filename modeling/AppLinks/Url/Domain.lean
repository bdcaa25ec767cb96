import AppLinks.Unicode.Category
import AppLinks.Unicode.Compose
import AppLinks.Unicode.Direction
import AppLinks.Unicode.HostMapping
import AppLinks.Unicode.Joining
import AppLinks.Url.Address
import AppLinks.Url.Punycode

/-!
Domain names: the ASCII form of a name that may hold any characters.

Characters are mapped and composed; labels outside ASCII are then written in Punycode, and
labels that are so written already have to stand for a label that could be written.
-/

namespace AppLinks.Url.Domain

def isForbidden (c : Char) : Bool :=
  c.toNat ≤ 0x20 || c.toNat = 0x7F ||
    c ∈ ['%', '#', '/', ':', '<', '>', '?', '@', '[', '\\', ']', '^', '|']

def labels : List Char → List (List Char)
  | [] => [[]]
  | c :: r =>
    if c = '.' then [] :: labels r
    else match labels r with
      | [] => [[c]]
      | l :: ls => (c :: l) :: ls

def join : List (List Char) → List Char
  | [] => []
  | [l] => l
  | l :: ls => l ++ '.' :: join ls

def isAscii (s : List Char) : Bool := s.all (·.toNat < 0x80)

/-- What marks a label written in Punycode. -/
def mark : List Char := ['x', 'n', '-', '-']

def isCombining (c : Char) : Bool := Unicode.Category.mark.contains (Unicode.Category.of c)

/-- Whether a label that is not ASCII may stand in a name. -/
def isValidLabel (l : List Char) : Bool :=
  l.all Unicode.HostMapping.isKept && !l.any isForbidden && !l.contains '.' &&
    !l.head?.any isCombining &&
    Unicode.Compose.normalize l == l && Unicode.Joining.allows [] l

/-- The label behind a label of a mapped name: what a Punycode label stands for, and otherwise
the label itself. -/
def readLabel? (l : List Char) : Option (List Char) :=
  if mark.isPrefixOf l then
    match Punycode.decode? (l.drop mark.length) with
    | none => none
    | some u => if isAscii u || !isValidLabel u then none else some u
  else if isAscii l || isValidLabel l then some l
  else none

def writeLabel (l : List Char) : List Char := if isAscii l then l else mark ++ Punycode.encode l

def toAscii (name : List Char) : Except UrlError (List Char) :=
  match name.mapM Unicode.HostMapping.map? with
  | none => .error .domainName
  | some mapped =>
    let mapped := Unicode.Compose.normalize mapped.flatten
    match (labels mapped).mapM readLabel? with
    | none => .error .domainName
    | some ls =>
      let rightward := ls.any (·.any Unicode.Direction.isRightward)
      if ls.any (·.any isForbidden) || (rightward && !ls.all Unicode.Direction.allows) then
        .error .domainName
      else .ok (join (ls.map writeLabel))

end AppLinks.Url.Domain
