import AppLinks.Regex.Basic

/-!
Searching a text for an expression, and what its groups capture.

Of several ways to match, the first one counts: the left alternative before the right one, and more
repetitions before fewer ones, or the other way round. A search tries the ways in this order, and
gives up one as soon as what comes after it fails. `find` is told what comes after as a function.
-/

namespace AppLinks.Regex

/-- A position in a text, and the stretches that groups have captured on the way there. -/
structure Spot where
  pos : Nat
  before : Option Char
  rest : List Char
  /-- The captured stretches with the names of their groups, the last first. -/
  captures : List (String × List Char) := []
  deriving DecidableEq, Repr

def Spot.next (s : Spot) (c : Char) (rest : List Char) : Spot :=
  { s with pos := s.pos + 1, before := some c, rest }

def Spot.keep (s t : Spot) (name : String) : Spot :=
  { t with captures := (name, s.rest.take (t.pos - s.pos)) :: t.captures }

/-- A way to go on from a spot. -/
abbrev Resume (α : Type) := Spot → Option α

/-- Goes on after each of the ways that something leads to from a spot. -/
abbrev Finder (α : Type) := Spot → Resume α → Option α

def Finder.exactly {α : Type} (f : Finder α) : Nat → Finder α
  | 0, s, k => k s
  | n + 1, s, k => f s fun t => f.exactly n t k

/-- Something at most `n` times. A time that stays where it is does not count. -/
def Finder.upTo {α : Type} (f : Finder α) (greedy : Bool) : Nat → Finder α
  | 0, s, k => k s
  | n + 1, s, k =>
    let once (_ : Unit) : Option α :=
      f s fun t => if s.pos < t.pos then f.upTo greedy n t k else none
    if greedy then match once () with
      | some a => some a
      | none => k s
    else match k s with
      | some a => some a
      | none => once ()

namespace Expr

/-- Goes on after the stretches that an expression matches from a spot, the preferred ones first,
until this leads somewhere. -/
def find {α : Type} : Expr → Finder α
  | .empty, s, k => k s
  | .char set, s, k =>
    match s.rest with
    | [] => none
    | c :: r => if set c then k (s.next c r) else none
  | .look l, s, k => if l.holds s.before s.rest.head? then k s else none
  | .seq a b, s, k => a.find s fun t => b.find t k
  | .alt a b, s, k =>
    match a.find s k with
    | some r => some r
    | none => b.find s k
  | .times a least most greedy, s, k =>
    if most.all (least ≤ ·) then
      a.find.exactly least s fun t =>
        a.find.upTo greedy (most.elim t.rest.length (· - least)) t k
    else none
  | .capture name a, s, k => a.find s fun t => k (s.keep t name)

def matchAt (e : Expr) (s : Spot) : Option (Spot × Spot) := (e.find s some).map (s, ·)

/-- The preferred stretch at the first position, from here on, where an expression matches one. -/
def search (e : Expr) (pos : Nat) (before : Option Char) : List Char → Option (Spot × Spot)
  | [] => e.matchAt { pos, before, rest := [] }
  | c :: r => match e.matchAt { pos, before, rest := c :: r } with
    | some m => some m
    | none => e.search (pos + 1) (some c) r

def searchAt (e : Expr) (text : List Char) (start : Nat) : Option (Spot × Spot) :=
  e.search start (AppLinks.Regex.before text start) (text.drop start)

theorem fst_of_matchAt {e : Expr} {s : Spot} {m : Spot × Spot} (h : e.matchAt s = some m) :
    m.1 = s := by
  obtain ⟨t, -, rfl⟩ := Option.map_eq_some_iff.1 h
  rfl

theorem pos_le_of_search {e : Expr} {pos : Nat} {b : Option Char} {rest : List Char}
    {m : Spot × Spot} (h : e.search pos b rest = some m) : pos ≤ m.1.pos := by
  induction rest generalizing pos b with
  | nil => exact Nat.le_of_eq (congrArg Spot.pos (fst_of_matchAt h).symm)
  | cons c r ih =>
    rw [search] at h
    split at h
    · rename_i m' hm
      cases h
      exact Nat.le_of_eq (congrArg Spot.pos (fst_of_matchAt hm).symm)
    · exact Nat.le_of_succ_le (ih h)

theorem start_le_of_searchAt {e : Expr} {text : List Char} {start : Nat} {m : Spot × Spot}
    (h : e.searchAt text start = some m) : start ≤ m.1.pos :=
  pos_le_of_search h

end Expr

end AppLinks.Regex
