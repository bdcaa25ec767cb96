/-!
Binary fractions of 64 bits: the value that a pattern of bits stands for, and the arithmetic on
patterns that reading a number needs.
-/

namespace AppLinks.Decimal

/-- A pattern of 64 bits that stands for a number, an infinity, or no number. -/
abbrev Binary64 := UInt64

namespace Binary64

def ofFloat (x : Float) : Binary64 := x.toBits

/-- The pattern that is nearest to a natural number. -/
def ofNat (n : Nat) : Binary64 := ofFloat (Float.ofNat n)

/-- The pattern that is nearest to `n · 10 ^ e`, or to `n / 10 ^ e` if `down`. -/
def ofScientific (n : Nat) (down : Bool) (e : Nat) : Binary64 :=
  ofFloat (Float.ofScientific n down e)

def isNegative (b : Binary64) : Bool := 0x8000000000000000 ≤ b.toNat

def negate (b : Binary64) : Binary64 := b ^^^ 0x8000000000000000

def exponentBits (b : Binary64) : Nat := b.toNat / 0x10000000000000 % 0x800

def fractionBits (b : Binary64) : Nat := b.toNat % 0x10000000000000

def isFinite (b : Binary64) : Bool := b.exponentBits != 2047

def infinity : Binary64 := 0x7FF0000000000000

def nan : Binary64 := 0x7FF8000000000000

/-- Without its sign the number is `m · 2 ^ q` for this `m` and this `q`. -/
def parts (b : Binary64) : Nat × Int :=
  if b.exponentBits = 0 then (b.fractionBits, -1074)
  else (0x10000000000000 + b.fractionBits, (b.exponentBits : Int) - 1075)

/-- Whether the next smaller number is only half as far away as the next larger one. -/
def narrowBelow (b : Binary64) : Bool := b.fractionBits = 0 && 1 < b.exponentBits

def mul (a b : Binary64) : Binary64 := ofFloat (Float.ofBits a * Float.ofBits b)

def div (a b : Binary64) : Binary64 := ofFloat (Float.ofBits a / Float.ofBits b)

end Binary64

end AppLinks.Decimal
