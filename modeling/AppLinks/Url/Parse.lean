import AppLinks.Url.Basic
import AppLinks.Url.Domain

/-!
Hosts and URLs from their text.
-/

namespace AppLinks.Url.Host

def isForbidden (c : Char) : Bool :=
  c ∈ ['\x00', '\t', '\n', '\r', ' ', '#', '/', ':', '<', '>', '?', '@', '[', '\\', ']', '^', '|']

def ofBrackets (s : List Char) : Except UrlError Host :=
  if s.getLast? = some ']' then (Ipv6.parse (s.drop 1).dropLast).map .ipv6 else .error .ipv6

/-- The host of a special URL: an address, or a domain name that is put in its ASCII form. -/
def ofDomain (s : List Char) : Except UrlError Host :=
  if s.head? = some '[' then ofBrackets s
  else match Text.Utf8.decode? (Text.Percent.decode s) with
    | none => .error .domainName
    | some decoded => do
      let domain ← Domain.toAscii decoded
      if domain.isEmpty then .error .emptyHost
      else if Ipv4.endsInNumber domain then (Ipv4.parse domain).map .ipv4
      else .ok (.name domain)

/-- The host of any other URL: an address in brackets, or a name that is only encoded. -/
def ofName (s : List Char) : Except UrlError Host :=
  if s.head? = some '[' then ofBrackets s
  else if s.any isForbidden then .error .domainCharacter
  else .ok (.name (Text.Percent.encode Text.Percent.control s))

end AppLinks.Url.Host

namespace AppLinks.Url

/-- Takes the scheme at the start of a text: a letter, then letters, digits, `+`, `-` and `.`, up
to a colon. It is put in lower case; what follows the colon is left. -/
def takeScheme? (s : List Char) : Option (List Char × List Char) :=
  let isInner (c : Char) : Bool := c.isAlphanum || c ∈ ['+', '-', '.']
  match s.head?, s.dropWhile isInner with
  | some a, ':' :: rest =>
    if a.isAlpha then some ((s.takeWhile isInner).map Char.toLower, rest) else none
  | _, _ => none

def endsAuthority (special : Bool) (c : Char) : Bool :=
  c = '/' || c = '?' || c = '#' || (special && c = '\\')

def cutAtLast (s : List Char) : Option (List Char × List Char) :=
  if s.contains '@' then
    let after := (s.reverse.takeWhile (· ≠ '@')).reverse
    some (s.take (s.length - after.length - 1), after)
  else none

def readUserinfo (s : List Char) : List Char :=
  let encode := Text.Percent.encode Text.Percent.userinfo
  let user := s.takeWhile (· ≠ ':')
  let password := (s.dropWhile (· ≠ ':')).drop 1
  encode user ++ if password.isEmpty then [] else ':' :: encode password

/-- The length of the host at the start of a text: it ends at a colon outside brackets. -/
def hostLength (special inBrackets : Bool) : List Char → Nat
  | [] => 0
  | c :: r =>
    if (c = ':' && !inBrackets) || endsAuthority special c then 0
    else hostLength special (if c = '[' then true else if c = ']' then false else inBrackets) r + 1

/-- Reads a port. What stops it has to end the authority; the usual port is left out. -/
def readPort (scheme : List Char) (s : List Char) : Except UrlError (Option Nat × List Char) :=
  let digits := s.takeWhile (·.isDigit)
  let rest := s.drop digits.length
  let port := digits.foldl (fun n c => n * 10 + (c.toNat - 48)) 0
  if 65535 < port || !rest.head?.all (endsAuthority true) then .error .port
  else .ok (if digits.isEmpty || usualPort scheme = some port then none else some port, rest)

def readOptionalPort (scheme : List Char) : List Char → Except UrlError (Option Nat × List Char)
  | ':' :: r => readPort scheme r
  | r => .ok (none, r)

/-- Reads a host, and gives what follows it. A special URL has one, and so has a URL with a port. -/
def readHost (special : Bool) (s : List Char) : Except UrlError (Option Host × List Char) :=
  let n := hostLength special false s
  let rest := s.drop n
  if n = 0 then
    if special || rest.head? = some ':' then .error .emptyHost else .ok (none, rest)
  else do
    let host ← if special then Host.ofDomain (s.take n) else Host.ofName (s.take n)
    return (some host, rest)

def cutUserinfo (special : Bool) (s : List Char) : Option (List Char) × List Char :=
  let whole := s.takeWhile (!endsAuthority special ·)
  match cutAtLast whole with
  | some (info, after) => (some info, after ++ s.drop whole.length)
  | none => (none, s)

def readAuthority (scheme : List Char) (s : List Char) :
    Except UrlError (Authority × List Char) :=
  let special := isSpecial scheme
  let (written, s) := cutUserinfo special s
  let userinfo := readUserinfo (written.getD [])
  if written = some [] && s.head?.any (endsAuthority special) then .error .emptyHost
  else do
    let (host, rest) ← readHost special s
    let (port, rest) ← readOptionalPort scheme rest
    if host.isNone && !userinfo.isEmpty then .error .emptyHost
    else .ok ({ userinfo, host, port }, rest)

def beforeQuery (s : List Char) : List Char := s.takeWhile fun c => c ≠ '?' && c ≠ '#'

def readTail (special : Bool) (s : List Char) : Option (List Char) × Option (List Char) :=
  let rest := s.drop (beforeQuery s).length
  let beforeFragment := rest.takeWhile (· ≠ '#')
  let query := match beforeFragment with
    | '?' :: q =>
      let escapes := if special then Text.Percent.specialQuery else Text.Percent.query
      some (Text.Percent.encode escapes q)
    | _ => none
  let fragment := match rest.drop beforeFragment.length with
    | '#' :: f => some (Text.Percent.encode Text.Percent.fragment f)
    | _ => none
  (query, fragment)

def finish (scheme : List Char) (authority : Option Authority) (location : Location)
    (s : List Char) : Url :=
  let (query, fragment) := readTail (isSpecial scheme) s
  { scheme, authority, location, query, fragment }

def isSlash (c : Char) : Bool := c = '/' || c = '\\'

/-- The path after an authority. A special URL has at least one segment. -/
def readPath (special : Bool) (s : List Char) : Location :=
  let p := beforeQuery s
  match p with
  | [] => .segments (if special then [[]] else [])
  | c :: r =>
    .segments (Path.read special (if c = '/' || (special && c = '\\') then r else c :: r))

def readFile (s : List Char) : Except UrlError Url :=
  let scheme := "file".toList
  let build (host : Option Host) (p rest : List Char) : Url :=
    let (list, drive) := Path.readFile p
    finish scheme (some { host := if drive then none else host }) (.segments list) rest
  match s with
  | a :: b :: r =>
    if isSlash a && isSlash b then
      let h := r.takeWhile (!endsAuthority true ·)
      -- a drive in place of the host belongs to the path
      if Path.isDrive h then .ok (build none (beforeQuery r) r)
      else do
        let host ← if h.isEmpty then pure none else (Host.ofDomain h).map some
        let host := if host = some (.name "localhost".toList) then none else host
        let rest := r.drop h.length
        let p := beforeQuery rest
        return build host (if p.head?.any isSlash then p.drop 1 else p) rest
    else
      let p := beforeQuery s
      .ok (build none (if isSlash a then p.drop 1 else p) s)
  | _ =>
    let p := beforeQuery s
    .ok (build none (if p.head?.any isSlash then p.drop 1 else p) s)

def readAfterScheme (scheme : List Char) (s : List Char) : Except UrlError Url :=
  if scheme = "file".toList then readFile s
  else if isSpecial scheme then do
    let (authority, rest) ← readAuthority scheme (s.dropWhile isSlash)
    return finish scheme (some authority) (readPath true rest) rest
  else match s with
    | '/' :: '/' :: r => do
      let (authority, rest) ← readAuthority scheme r
      return finish scheme (some authority) (readPath false rest) rest
    | '/' :: r => .ok (finish scheme none (.segments (Path.read false (beforeQuery r))) r)
    | _ =>
      .ok (finish scheme none
        (.opaquePath (Text.Percent.encode Text.Percent.control (beforeQuery s))) s)

/-- The text without the blanks and controls around it and without tabs and line ends in it. -/
def clean (s : List Char) : List Char :=
  let isBlank (c : Char) : Bool := c.toNat ≤ 0x20
  (((s.dropWhile isBlank).reverse.dropWhile isBlank).reverse).filter fun c =>
    c ≠ '\t' && c ≠ '\n' && c ≠ '\r'

def parse (text : String) : Except UrlError Url :=
  match takeScheme? (clean text.toList) with
  | some (scheme, rest) => readAfterScheme scheme rest
  | none => .error .noScheme

def queryPairs (u : Url) : List (String × String) := Text.Form.pairs (u.query.getD [])

end AppLinks.Url
