import AppLinks.Text.Percent

/-!
Addresses that stand for the host of a URL, and what can be wrong with the text of a URL.

Of the numbers in dots there are up to four parts, each in decimal, octal or hexadecimal, of which
the last one fills all octets that the others leave. In square brackets there are eight pieces of
sixteen bits, of which one run of zeros may be left out, and of which the last two may be written as
four decimal numbers.
-/

namespace AppLinks

inductive UrlError where
  | emptyHost
  | domainName
  | domainCharacter
  | port
  | ipv4
  | ipv6
  | noScheme
  deriving DecidableEq, Repr

def UrlError.message : UrlError → String
  | .emptyHost => "empty host"
  | .domainName => "invalid international domain name"
  | .domainCharacter => "invalid domain character"
  | .port => "invalid port number"
  | .ipv4 => "invalid IPv4 address"
  | .ipv6 => "invalid IPv6 address"
  | .noScheme => "relative URL without a base"

end AppLinks

namespace AppLinks.Url.Ipv4

def digits? (base : Nat) (s : List Char) : Option Nat :=
  s.foldl (fun acc c => do
    let n ← acc
    let d ← Text.Percent.hexValue? c
    if d < base then some (n * base + d) else none) (some 0)

/-- The number that a part writes: `0x` stands before a hexadecimal one and `0` before an octal
one, and nothing after them is zero. -/
def number? : List Char → Option Nat
  | [] => none
  | '0' :: 'x' :: r => digits? 16 r
  | '0' :: 'X' :: r => digits? 16 r
  | '0' :: c :: r => digits? 8 (c :: r)
  | s => digits? 10 s

/-- The parts of a host, without an empty one at the end. -/
def parts (s : List Char) : List (List Char) :=
  let ps := Text.Form.splitOn '.' s
  if ps.getLast? = some [] then ps.dropLast else ps

def endsInNumber (s : List Char) : Bool :=
  match (parts s).getLast? with
  | none => false
  | some p => (!p.isEmpty && p.all (·.isDigit)) || (number? p).isSome

def parse (s : List Char) : Except UrlError Nat :=
  let ps := parts s
  if 4 < ps.length then .error .ipv4
  else match ps.mapM number? with
    | none => .error .ipv4
    | some ns =>
      let last := ns.getLastD 0
      let before := ns.dropLast
      if Nat.pow 256 (4 - before.length) ≤ last || before.any (255 < ·) then .error .ipv4
      else .ok (before.zipIdx.foldl (fun a p => a + p.1 * Nat.pow 256 (3 - p.2)) last)

def render (a : Nat) : String :=
  ".".intercalate ([a / 16777216 % 256, a / 65536 % 256, a / 256 % 256, a % 256].map toString)

end AppLinks.Url.Ipv4

namespace AppLinks.Url.Ipv6

/-- Takes up to `n` hexadecimal digits: their value, how many they are, and what follows. -/
def takeHex : Nat → List Char → Nat × Nat × List Char
  | 0, s => (0, 0, s)
  | _ + 1, [] => (0, 0, [])
  | n + 1, c :: r => match Text.Percent.hexValue? c with
    | none => (0, 0, c :: r)
    | some d =>
      let (v, k, rest) := takeHex n r
      (d * Nat.pow 16 k + v, k + 1, rest)

/-- Takes a decimal number below 256 that has no needless zero. -/
def takeDecimal (s : List Char) : Option (Nat × List Char) :=
  let ds := s.takeWhile (·.isDigit)
  let v := ds.foldl (fun n c => n * 10 + (c.toNat - 48)) 0
  if ds.isEmpty || (1 < ds.length && ds.head? = some '0') || 3 < ds.length || 255 < v then none
  else some (v, s.drop ds.length)

def fourDecimals? (s : List Char) : Option (List Nat) := do
  let (a, s) ← takeDecimal s
  let s ← dot? s
  let (b, s) ← takeDecimal s
  let s ← dot? s
  let (c, s) ← takeDecimal s
  let s ← dot? s
  let (d, s) ← takeDecimal s
  if s.isEmpty then some [a * 256 + b, c * 256 + d] else none
where
  dot? : List Char → Option (List Char)
    | '.' :: r => some r
    | _ => none

/-- Reads pieces up to the end. `room` is how many more may come, the zeros left out counting as
one; `gap` is where they were left out, and `done` are the pieces so far. -/
def pieces? : Nat → Option Nat → List Nat → List Char → Option (Option Nat × List Nat)
  | _, gap, done, [] => some (gap, done)
  | 0, _, _, _ => none
  | room + 1, gap, done, ':' :: r =>
    if gap.isSome then none else pieces? room (some done.length) done r
  | room + 1, gap, done, s =>
    let (v, k, rest) := takeHex 4 s
    match rest with
    | '.' :: _ =>
      if k = 0 || room = 0 then none
      else (fourDecimals? s).map fun l => (gap, done ++ l)
    | ':' :: r => if r.isEmpty then none else pieces? room gap (done ++ [v]) r
    | [] => some (gap, done ++ [v])
    | _ => none

def parse (s : List Char) : Except UrlError (List Nat) :=
  let read := match s with
    | ':' :: ':' :: r => pieces? 7 (some 0) [] r
    | ':' :: _ => none
    | _ => pieces? 8 none [] s
  match read with
  | none => .error .ipv6
  | some (none, ps) => if ps.length = 8 then .ok ps else .error .ipv6
  | some (some gap, ps) =>
    if 8 < ps.length then .error .ipv6
    else .ok (ps.take gap ++ List.replicate (8 - ps.length) 0 ++ ps.drop gap)

def renderPiece (n : Nat) : String := String.ofList (Nat.toDigits 16 n)

def zeroRun (ps : List Nat) : Nat := (ps.takeWhile (· = 0)).length

/-- The place and the length of the first longest run of at least two zeros. -/
def longestRun (ps : List Nat) : Option (Nat × Nat) :=
  (List.range ps.length).foldl (fun best i =>
    let n := zeroRun (ps.drop i)
    if 2 ≤ n && best.all (·.2 < n) then some (i, n) else best) none

/-- The address in its usual form, in which the first longest run of zeros is left out. -/
def render (ps : List Nat) : String :=
  let text (l : List Nat) : String := ":".intercalate (l.map renderPiece)
  match longestRun ps with
  | none => text ps
  | some (i, n) => text (ps.take i) ++ "::" ++ text (ps.drop (i + n))

end AppLinks.Url.Ipv6
