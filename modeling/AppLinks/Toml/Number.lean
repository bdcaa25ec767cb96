import AppLinks.Decimal.Binary64
import AppLinks.Text.Percent
import AppLinks.Toml.Value

/-!
Numbers.

A single underscore may stand between two digits. Integers have 64 bits. A fraction beyond the
greatest binary one is refused, but a negative one becomes the negative infinity.
-/

namespace AppLinks.Toml

/-- Reads digits and drops the underscores between them. -/
def readDigits (isDigit : Char → Bool) (s : List Char) : Option (List Char × List Char) :=
  let token := s.takeWhile fun c => isDigit c || c = '_'
  if (Text.Form.splitOn '_' token).any (·.isEmpty) then none
  else some (token.filter (· ≠ '_'), s.drop token.length)

def digitsValue (base : Nat) (ds : List Char) : Nat :=
  ds.foldl (fun n c => n * base + (Text.Percent.hexValue? c).getD 0) 0

/-- An integer, if it has 64 bits. -/
def integer? (n : Int) : Option Value :=
  if -0x8000000000000000 ≤ n ∧ n < 0x8000000000000000 then some (.integer n) else none

def isDigitOf (base : Nat) (c : Char) : Bool := (Text.Percent.hexValue? c).any (· < base)

def readBased (base : Nat) (s : List Char) : Option (Value × List Char) := do
  let (ds, s) ← readDigits (isDigitOf base) s
  return (← integer? (digitsValue base ds), s)

/-- The binary fraction that is nearest to `n · 10 ^ e`. -/
def nearest (n : Nat) (e : Int) : Decimal.Binary64 :=
  let magnitude : Int := (Nat.toDigits 10 n).length + e
  if n = 0 || magnitude < -330 then 0
  else if 330 < magnitude then .infinity
  else .ofScientific n (e < 0) e.natAbs

def signed? (negative : Bool) (b : Decimal.Binary64) : Option Value :=
  if negative then some (.float b.negate)
  else if b = .infinity then none
  else some (.float b)

def readExponent? (s : List Char) : Option (Option Int × List Char) :=
  let read (negative : Bool) (r : List Char) : Option (Option Int × List Char) := do
    let (ds, r) ← readDigits Char.isDigit r
    let e : Int := digitsValue 10 ds
    return (some (if negative then -e else e), r)
  match s with
  | 'e' :: '+' :: r | 'E' :: '+' :: r => read false r
  | 'e' :: '-' :: r | 'E' :: '-' :: r => read true r
  | 'e' :: r | 'E' :: r => read false r
  | _ => some (none, s)

def readDecimal (negative : Bool) (s : List Char) : Option (Value × List Char) := do
  let (ds, s) ← readDigits Char.isDigit s
  if ds.head? = some '0' && 1 < ds.length then none
  match s with
  | '.' :: r =>
    let (after, r) ← readDigits Char.isDigit r
    let (e, r) ← readExponent? r
    let b := nearest (digitsValue 10 (ds ++ after)) (e.getD 0 - after.length)
    return (← signed? negative b, r)
  | _ =>
    match ← readExponent? s with
    | (some e, r) => return (← signed? negative (nearest (digitsValue 10 ds) e), r)
    | (none, r) =>
      let n : Int := digitsValue 10 ds
      return (← integer? (if negative then -n else n), r)

/-- Reads a number after its sign, or the word for an infinity or for no number. -/
def readSigned (negative : Bool) : List Char → Option (Value × List Char)
  | 'i' :: 'n' :: 'f' :: r => some (.float (if negative then .negate .infinity else .infinity), r)
  | 'n' :: 'a' :: 'n' :: r => some (.float .nan, r)
  | s => readDecimal negative s

def readNumber : List Char → Option (Value × List Char)
  | '+' :: r => readSigned false r
  | '-' :: r => readSigned true r
  | '0' :: 'x' :: r => readBased 16 r
  | '0' :: 'o' :: r => readBased 8 r
  | '0' :: 'b' :: r => readBased 2 r
  | s => readSigned false s

end AppLinks.Toml
