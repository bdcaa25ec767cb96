/-!
Punycode: labels with characters outside ASCII, written in letters, digits and hyphens.

The ASCII characters come first, then a hyphen if there are any, then for each other character,
in the order of code points, how far it lies from the one before as a numeral of digits with
changing bounds.
-/

namespace AppLinks.Url.Punycode

def digitChar (d : Nat) : Char := if d < 26 then Char.ofNat (97 + d) else Char.ofNat (22 + d)

def digitValue? (c : Char) : Option Nat :=
  let n := c.toNat
  if 97 ≤ n ∧ n ≤ 122 then some (n - 97)
  else if 65 ≤ n ∧ n ≤ 90 then some (n - 65)
  else if 48 ≤ n ∧ n ≤ 57 then some (n - 22)
  else none

/-- The bound of the digit at place `k`; a digit below its bound is the last of its numeral. -/
def threshold (k bias : Nat) : Nat := if k ≤ bias then 1 else min 26 (k - bias)

theorem threshold_bounds (k bias : Nat) : 1 ≤ threshold k bias ∧ threshold k bias ≤ 26 := by
  unfold threshold
  split <;> omega

def scaleDown (delta k : Nat) : Nat × Nat :=
  if 455 < delta then scaleDown (delta / 35) (k + 36) else (delta, k)
termination_by delta
decreasing_by exact Nat.div_lt_self (by omega) (by omega)

/-- The bias after a numeral: small after small distances, larger after large ones. -/
def adapt (delta count : Nat) (first : Bool) : Nat :=
  let d := if first then delta / 700 else delta / 2
  let r := scaleDown (d + d / count) 0
  r.2 + 36 * r.1 / (r.1 + 38)

def numeral (bias k q : Nat) : List Char :=
  let t := threshold k bias
  if q < t then [digitChar q]
  else digitChar (t + (q - t) % (36 - t)) :: numeral bias (k + 36) ((q - t) / (36 - t))
termination_by q
decreasing_by
  have h := threshold_bounds k bias
  calc (q - threshold k bias) / (36 - threshold k bias)
      ≤ q - threshold k bias := Nat.div_le_self _ _
    _ < q := by omega

/-- The state of writing: what was written, the distance since, the bias, and how many
characters are accounted for. -/
structure Writing where
  out : List Char
  delta : Nat
  bias : Nat
  handled : Nat

/-- Passes over one character of the label while those equal to `m` are written. -/
def Writing.visit (basic m : Nat) (w : Writing) (c : Char) : Writing :=
  if c.toNat < m then { w with delta := w.delta + 1 }
  else if c.toNat = m then
    { out := w.out ++ numeral w.bias 36 w.delta
      delta := 0
      bias := adapt w.delta (w.handled + 1) (w.handled = basic)
      handled := w.handled + 1 }
  else w

/-- Writes the characters of the given code points, which ascend; `n` is the next one to reach. -/
def writeAll (label : List Char) (basic : Nat) : List Nat → Nat → Writing → Writing
  | [], _, w => w
  | m :: ms, n, w =>
    let w := { w with delta := w.delta + (m - n) * (w.handled + 1) }
    let w := label.foldl (Writing.visit basic m) w
    writeAll label basic ms (m + 1) { w with delta := w.delta + 1 }

def insertSorted (x : Nat) : List Nat → List Nat
  | [] => [x]
  | y :: ys =>
    if x < y then x :: y :: ys else if x = y then y :: ys else y :: insertSorted x ys

def encode (label : List Char) : List Char :=
  let basic := label.filter (·.toNat < 0x80)
  let others := ((label.filter (0x80 ≤ ·.toNat)).map Char.toNat).foldr insertSorted []
  let lead := if basic.isEmpty then [] else basic ++ ['-']
  lead ++ (writeAll label basic.length others 128 ⟨[], 0, 72, basic.length⟩).out

/-- Reads a numeral from place `k` on, the digit there counting `weight`; gives the sum with
`i` and what follows. -/
def readNumeral (bias : Nat) : List Char → Nat → Nat → Nat → Option (Nat × List Char)
  | [], _, _, _ => none
  | c :: r, k, weight, i => match digitValue? c with
    | none => none
    | some d =>
      let t := threshold k bias
      if d < t then some (i + d * weight, r)
      else readNumeral bias r (k + 36) (weight * (36 - t)) (i + d * weight)

theorem readNumeral_length (bias : Nat) (s : List Char) (k weight i : Nat) {p : Nat × List Char}
    (h : readNumeral bias s k weight i = some p) : p.2.length < s.length := by
  induction s generalizing k weight i with
  | nil => simp [readNumeral] at h
  | cons c r ih =>
    rw [readNumeral] at h
    split at h
    · simp at h
    · dsimp only at h
      split at h
      · rw [← Option.some.inj h]; simp
      · have := ih _ _ _ h
        simp only [List.length_cons]
        omega

def insertAll (bias n i : Nat) (out : List Char) (s : List Char) : Option (List Char) :=
  if s.isEmpty then some out
  else match _h : readNumeral bias s 36 1 i with
    | none => none
    | some (j, r) =>
      let count := out.length + 1
      let m := n + j / count
      if m.isValidChar then
        insertAll (adapt (j - i) count (i = 0)) m (j % count + 1)
          (out.insertIdx (j % count) (Char.ofNat m)) r
      else none
termination_by s.length
decreasing_by exact readNumeral_length _ _ _ _ _ _h

def decode? (s : List Char) : Option (List Char) :=
  let tail := s.reverse.takeWhile (· != '-')
  let head := (s.take (s.length - tail.length)).dropLast
  if head.all (·.toNat < 0x80) then insertAll 72 128 0 head tail.reverse else none

end AppLinks.Url.Punycode
