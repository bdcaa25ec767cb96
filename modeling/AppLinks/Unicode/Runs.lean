/-!
Tables over all code points, kept as runs.

A table is a list of runs, each a length and a value; the runs follow one another from code
point zero, and a code point after the last run has no value. Tables are written as texts of
numerals. A numeral is in base 32, the first digit the most significant; its last digit is one
of `0-9a-v` and every other digit one of `A-Z`, `w-z`, `+`, `-`, so numerals need no separators.
Blanks and line ends between the digits do not count.
-/

namespace AppLinks.Unicode

def lastDigit? (c : Char) : Option Nat :=
  let n := c.toNat
  if 48 ≤ n ∧ n ≤ 57 then some (n - 48)
  else if 97 ≤ n ∧ n ≤ 118 then some (n - 87)
  else none

def innerDigit (c : Char) : Nat :=
  let n := c.toNat
  if 65 ≤ n ∧ n ≤ 90 then n - 65
  else if 119 ≤ n ∧ n ≤ 122 then n - 93
  else if c = '+' then 30
  else 31

/-- Reads one more digit: the numerals so far, the last first, and the value of the digits since. -/
def readDigit (s : List Nat × Nat) (c : Char) : List Nat × Nat :=
  match lastDigit? c with
  | some d => ((s.2 * 32 + d) :: s.1, 0)
  | none => (s.1, s.2 * 32 + innerDigit c)

def numerals (s : String) : List Nat :=
  ((s.toList.filter fun c => c ≠ ' ' && c ≠ '\n').foldl readDigit ([], 0)).1.reverse

/-- Runs of a length and a value. -/
abbrev Runs := List (Nat × Nat)

def pairUp : List Nat → Runs
  | a :: b :: r => (a, b) :: pairUp r
  | _ => []

/-- A table from its text: lengths and values by turns. -/
def Runs.ofString (s : String) : Runs := pairUp (numerals s)

def Runs.value? : Runs → Nat → Option Nat
  | [], _ => none
  | (len, v) :: r, n => if n < len then some v else Runs.value? r (n - len)

/-- A set from its text: the lengths of stretches outside and inside it by turns. -/
def Runs.setOfString (s : String) : Runs :=
  (numerals s).zipIdx.map fun p => (p.1, p.2 % 2)

def Runs.holds (t : Runs) (c : Char) : Bool := t.value? c.toNat == some 1

end AppLinks.Unicode
