import AppLinks.Decimal.Binary64

/-!
The shortest decimal fraction that reads back as a binary one.

All real numbers between the two midpoints to its neighbours round to a binary fraction, and the
midpoints do too if its last bit is zero. For one digit, then two, and so on, the two decimal
fractions next to the number are tried; the first that lies in that interval is the answer, and
of two the nearer one.
-/

namespace AppLinks.Decimal

/-- A positive fraction together with the bounds of what rounds to it, over one denominator. -/
structure Interval where
  value : Nat
  low : Nat
  high : Nat
  denominator : Nat
  closed : Bool

def Interval.ofParts (m : Nat) (q : Int) (narrowBelow : Bool) : Interval :=
  let scale := Nat.pow 2 (q - 2).toNat
  { value := 4 * m * scale
    low := (4 * m - if narrowBelow then 1 else 2) * scale
    high := (4 * m + 2) * scale
    denominator := Nat.pow 2 (2 - q).toNat
    closed := m % 2 = 0 }

def Interval.holds (i : Interval) (n d : Nat) : Bool :=
  let x := n * i.denominator
  if i.closed then i.low * d ≤ x && x ≤ i.high * d else i.low * d < x && x < i.high * d

/-- The place of the first digit of `n / d`: zero for the ones, one for the tens. The fuel is an
upper bound on how far it lies after the point. -/
def firstPlace (fuel n d : Nat) : Int :=
  if d ≤ n then ((Nat.toDigits 10 (n / d)).length : Int) - 1
  else match fuel with
    | 0 => 0
    | k + 1 => firstPlace k (n * 10) d - 1

/-- The decimal fraction with its last digit at place `e` that is in the interval and nearest to
its value, as the multiple of `10 ^ e`. -/
def Interval.nearest? (i : Interval) (e : Int) : Option Nat :=
  let up := Nat.pow 10 (-e).toNat
  let down := Nat.pow 10 e.toNat
  let n := i.value * up
  let d := i.denominator * down
  let below := n / d
  let fits (k : Nat) : Bool := 0 < k && i.holds (k * down) up
  let above := below + 1
  if fits below && fits above then
    some (if 2 * (n % d) < d || (2 * (n % d) = d && below % 2 = 0) then below else above)
  else if fits below then some below
  else if fits above then some above
  else none

def Interval.search (i : Interval) (first : Int) : Nat → Nat → Nat × Int
  | 0, used => (i.value / i.denominator, first - used + 1)
  | n + 1, used => match i.nearest? (first - used) with
    | some k => (k, first - used)
    | none => Interval.search i first n (used + 1)

/-- Drops zeros at the end; the fuel is the number of digits. -/
def trimZeros : Nat → Nat → Int → Nat × Int
  | 0, k, e => (k, e)
  | f + 1, k, e => if k % 10 = 0 then trimZeros f (k / 10) (e + 1) else (k, e)

/-- The digits and the exponent of the shortest decimal fraction for `m · 2 ^ q`. -/
def shortest (m : Nat) (q : Int) (narrowBelow : Bool) : Nat × Int :=
  let i := Interval.ofParts m q narrowBelow
  let (k, e) := i.search (firstPlace 400 i.value i.denominator) 17 0
  trimZeros 20 k e

/-- Where numbers are written without an exponent, and how exponents are written. -/
structure Style where
  /-- The first place of the largest numbers that are written without an exponent. -/
  largest : Int
  smallest : Int
  /-- What stands before an exponent that is not negative. -/
  plus : String
  deriving Repr

def Style.digits (style : Style) (k : Nat) (e : Int) : String :=
  let ds := Nat.toDigits 10 k
  let place := e + ds.length - 1
  if style.smallest ≤ place ∧ place ≤ style.largest then
    if 0 ≤ e then String.ofList (ds ++ List.replicate e.toNat '0') ++ ".0"
    else if 0 ≤ place then
      let n := (place + 1).toNat
      String.ofList (ds.take n ++ '.' :: ds.drop n)
    else "0." ++ String.ofList (List.replicate (-place - 1).toNat '0' ++ ds)
  else
    let mantissa := match ds with
      | [] => ""
      | [d] => d.toString
      | d :: r => String.ofList (d :: '.' :: r)
    mantissa ++ "e" ++ (if place < 0 then "-" else style.plus) ++ toString place.natAbs

def Style.render (style : Style) (b : Binary64) : String :=
  let (m, q) := b.parts
  (if b.isNegative then "-" else "") ++
    if m = 0 then "0.0"
    else
      let (k, e) := shortest m q b.narrowBelow
      style.digits k e

end AppLinks.Decimal
