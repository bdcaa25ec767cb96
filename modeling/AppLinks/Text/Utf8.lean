/-!
UTF-8 as lists of octets: writing a text, and reading octets back.

Reading never fails as a whole. Every ill-formed stretch is one fault, and a fault covers the
longest start of a well-formed character, so reading goes on at the first octet that cannot
continue it. `decode?` refuses a faulty list; `decodeLossy` puts a replacement character for
each fault.
-/

namespace AppLinks.Text.Utf8

def encodeChar (c : Char) : List UInt8 :=
  let n := c.toNat
  if n < 0x80 then [UInt8.ofNat n]
  else if n < 0x800 then [UInt8.ofNat (0xC0 + n / 64), UInt8.ofNat (0x80 + n % 64)]
  else if n < 0x10000 then
    [UInt8.ofNat (0xE0 + n / 4096), UInt8.ofNat (0x80 + n / 64 % 64), UInt8.ofNat (0x80 + n % 64)]
  else
    [UInt8.ofNat (0xF0 + n / 262144), UInt8.ofNat (0x80 + n / 4096 % 64),
      UInt8.ofNat (0x80 + n / 64 % 64), UInt8.ofNat (0x80 + n % 64)]

def encode (s : List Char) : List UInt8 := s.flatMap encodeChar

/-- A character of which some octets are still to come. -/
structure Partial where
  /-- How many octets are owed after the next one. -/
  owed : Nat
  low : Nat
  high : Nat
  bits : Nat
  deriving DecidableEq, Repr

inductive Lead where
  | whole (c : Char)
  | opens (p : Partial)
  | stray

/-- The meaning of a first octet. The bounds on the second one keep out overlong forms,
surrogates, and values above the last code point. -/
def lead (b : UInt8) : Lead :=
  let n := b.toNat
  if n < 0x80 then .whole (Char.ofNat n)
  else if n < 0xC2 then .stray
  else if n < 0xE0 then .opens ⟨0, 0x80, 0xBF, n - 0xC0⟩
  else if n = 0xE0 then .opens ⟨1, 0xA0, 0xBF, 0⟩
  else if n = 0xED then .opens ⟨1, 0x80, 0x9F, 0xD⟩
  else if n < 0xF0 then .opens ⟨1, 0x80, 0xBF, n - 0xE0⟩
  else if n = 0xF0 then .opens ⟨2, 0x90, 0xBF, 0⟩
  else if n < 0xF4 then .opens ⟨2, 0x80, 0xBF, n - 0xF0⟩
  else if n = 0xF4 then .opens ⟨2, 0x80, 0x8F, 4⟩
  else .stray

/-- Reads octets, with a character perhaps half read; `none` in the result is a fault. -/
def scan : Option Partial → List UInt8 → List (Option Char)
  | none, [] => []
  | some _, [] => [none]
  | none, b :: r => match lead b with
    | .whole c => some c :: scan none r
    | .opens p => scan (some p) r
    | .stray => none :: scan none r
  | some p, b :: r =>
    if p.low ≤ b.toNat ∧ b.toNat ≤ p.high then
      let bits := p.bits * 64 + b.toNat % 64
      match p.owed with
      | 0 => some (Char.ofNat bits) :: scan none r
      | k + 1 => scan (some ⟨k, 0x80, 0xBF, bits⟩) r
    else none :: match lead b with
      | .whole c => some c :: scan none r
      | .opens q => scan (some q) r
      | .stray => none :: scan none r

def decode? (bytes : List UInt8) : Option (List Char) := (scan none bytes).mapM id

def replacement : Char := '\uFFFD'

/-- The text of a list of octets, with a replacement character for each fault. -/
def decodeLossy (bytes : List UInt8) : List Char := (scan none bytes).map (·.getD replacement)

end AppLinks.Text.Utf8
