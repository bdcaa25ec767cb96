import AppLinks.Text.Utf8

/-!
Percent-coding of texts: `%` and two hexadecimal digits stand for one octet.

An encoding is given by the set of ASCII characters it escapes; characters outside ASCII are
always escaped, octet by octet. Decoding takes every well-formed escape and leaves any other
`%` alone.
-/

namespace AppLinks.Text.Percent

/-- The hexadecimal digit of a value below sixteen, in upper case. -/
def hexDigit (n : Nat) : Char := if n < 10 then Char.ofNat (48 + n) else Char.ofNat (55 + n)

def hexValue? (c : Char) : Option Nat :=
  let n := c.toNat
  if 48 ≤ n ∧ n ≤ 57 then some (n - 48)
  else if 65 ≤ n ∧ n ≤ 70 then some (n - 55)
  else if 97 ≤ n ∧ n ≤ 102 then some (n - 87)
  else none

def escape (b : UInt8) : List Char := ['%', hexDigit (b.toNat / 16), hexDigit (b.toNat % 16)]

def encodeChar (escapes : Char → Bool) (c : Char) : List Char :=
  if escapes c || 0x80 ≤ c.toNat then (Utf8.encodeChar c).flatMap escape else [c]

/-- A text with the characters in `escapes`, and all those outside ASCII, escaped. -/
def encode (escapes : Char → Bool) (s : List Char) : List Char := s.flatMap (encodeChar escapes)

def decode : List Char → List UInt8
  | [] => []
  | '%' :: h :: l :: r => match hexValue? h, hexValue? l with
    | some a, some b => UInt8.ofNat (16 * a + b) :: decode r
    | _, _ => Utf8.encodeChar '%' ++ decode (h :: l :: r)
  | c :: r => Utf8.encodeChar c ++ decode r

/-- The text that a percent-coded text stands for; octets that are no text are replaced. -/
def decodeText (s : List Char) : List Char := Utf8.decodeLossy (decode s)

/-! ### The sets of the parts of a URL -/

def control (c : Char) : Bool := c.toNat < 0x20 || c.toNat = 0x7F

def fragment (c : Char) : Bool := control c || c ∈ [' ', '"', '<', '>', '\x60']

def path (c : Char) : Bool := fragment c || c ∈ ['#', '?', '\x7b', '\x7d']

def userinfo (c : Char) : Bool :=
  path c || c ∈ ['/', ':', ';', '=', '@', '[', '\\', ']', '^', '|']

def query (c : Char) : Bool := control c || c ∈ [' ', '"', '#', '<', '>']

def specialQuery (c : Char) : Bool := query c || c = '\''

end AppLinks.Text.Percent

/-! ### Form coding: pairs of a key and a value -/

namespace AppLinks.Text.Form

/-- Cuts a text at every `sep`; there is always one piece more than there are separators. -/
def splitOn (sep : Char) : List Char → List (List Char)
  | [] => [[]]
  | c :: r =>
    if c = sep then [] :: splitOn sep r
    else match splitOn sep r with
      | [] => [[c]]
      | p :: ps => (c :: p) :: ps

/-- Cuts a text at the first `sep`, which is dropped; without one, the second part is empty. -/
def cutAt (sep : Char) (s : List Char) : List Char × List Char :=
  (s.takeWhile (· != sep), (s.dropWhile (· != sep)).drop 1)

def decode (s : List Char) : List Char :=
  Percent.decodeText (s.map fun c => if c = '+' then ' ' else c)

/-- The pairs of a form-coded text, in order. Empty stretches between `&` are no pairs. -/
def pairs (s : List Char) : List (String × String) :=
  ((splitOn '&' s).filter (!·.isEmpty)).map fun p =>
    let kv := cutAt '=' p
    (String.ofList (decode kv.1), String.ofList (decode kv.2))

end AppLinks.Text.Form
