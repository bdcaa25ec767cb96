import AppLinks.Regex.Search
import Mathlib.Data.List.TakeWhile
import Mathlib.Tactic.Common

/-!
How a search goes through expressions one after another.

An expression that does not look back finds the same from every spot with the same text ahead. So
for such expressions the search can be followed on the text ahead alone, one expression at a time:
a character is taken, a class takes as long a stretch as it can, and the captured stretches pile up.
-/

namespace AppLinks.Regex

variable {α β : Type}

/-! ### Results of a search -/

/-- Two finders between which a function on results leads. -/
def Finder.Maps (f : α → β) (F : Finder α) (G : Finder β) : Prop :=
  ∀ s k, (F s k).map f = G s fun t => (k t).map f

namespace Finder.Maps

variable {f : α → β} {F : Finder α} {G : Finder β}

lemma exactly (h : F.Maps f G) (n : Nat) : Maps f (F.exactly n) (G.exactly n) := by
  induction n with
  | zero => intro s k; rfl
  | succ n ih =>
    intro s k
    rw [Finder.exactly, h]
    simp only [Finder.exactly, ih _ _]

lemma upTo (h : F.Maps f G) (greedy : Bool) (n : Nat) :
    Maps f (F.upTo greedy n) (G.upTo greedy n) := by
  induction n with
  | zero => intro s k; rfl
  | succ n ih =>
    intro s k
    have honce : (F s fun t => if s.pos < t.pos then F.upTo greedy n t k else none).map f =
        G s fun t => if s.pos < t.pos then G.upTo greedy n t fun t => (k t).map f else none := by
      rw [h]
      congr 1
      funext t
      split
      · exact ih t k
      · rfl
    unfold Finder.upTo
    dsimp only
    rw [← honce]
    cases greedy with
    | true => cases F s fun t => if s.pos < t.pos then F.upTo true n t k else none <;> rfl
    | false => cases k s <;> rfl

end Finder.Maps

/-- What is done with the result of a search can be done where the search ends. -/
lemma find_map (f : α → β) (e : Expr) : Finder.Maps f e.find e.find := by
  induction e with
  | empty => intro s k; rfl
  | char set =>
    intro s k
    simp only [Expr.find]
    cases s.rest with
    | nil => rfl
    | cons c r => by_cases h : set c = true <;> simp [h]
  | look l =>
    intro s k
    by_cases h : l.holds s.before s.rest.head? = true <;> simp [Expr.find, h]
  | seq a b iha ihb =>
    intro s k
    rw [Expr.find, iha]
    simp only [Expr.find, ihb _ _]
  | alt a b iha ihb =>
    intro s k
    rw [Expr.find, Expr.find, ← iha, ← ihb]
    cases a.find s k <;> rfl
  | times a least most greedy ih =>
    intro s k
    rw [Expr.find, Expr.find]
    split
    · rw [ih.exactly least]
      congr 1
      funext t
      exact ih.upTo greedy _ t k
    · rfl
  | capture name a ih =>
    intro s k
    rw [Expr.find, ih]
    rfl

/-! ### Expressions that do not look back -/

/-- Expressions in which no condition asks about the character before. -/
def Expr.Ahead : Expr → Prop
  | .empty => True
  | .char _ => True
  | .look l => l = .textEnd
  | .seq a b => a.Ahead ∧ b.Ahead
  | .alt a b => a.Ahead ∧ b.Ahead
  | .times a _ _ _ => a.Ahead
  | .capture _ a => a.Ahead

/-- Spots with the same text ahead and the same captures, at a fixed distance. -/
structure Spot.Alike (a b : Nat) (s t : Spot) : Prop where
  pos : s.pos + a = t.pos + b
  rest : s.rest = t.rest
  captures : s.captures = t.captures

/-- Finders that find the same from spots that are alike. -/
def Finder.Alike (a b : Nat) (F G : Finder α) : Prop :=
  ∀ s t (k l : Resume α), Spot.Alike a b s t → (∀ s t, Spot.Alike a b s t → k s = l t) →
    F s k = G t l

namespace Finder.Alike

variable {a b : Nat} {F G : Finder α}

lemma exactly (h : F.Alike a b G) (n : Nat) : Alike a b (F.exactly n) (G.exactly n) := by
  induction n with
  | zero => intro s t k l hst hkl; exact hkl s t hst
  | succ n ih =>
    intro s t k l hst hkl
    exact h s t _ _ hst fun s t hst => ih s t k l hst hkl

lemma upTo (h : F.Alike a b G) (greedy : Bool) (n : Nat) :
    Alike a b (F.upTo greedy n) (G.upTo greedy n) := by
  induction n with
  | zero => intro s t k l hst hkl; exact hkl s t hst
  | succ n ih =>
    intro s t k l hst hkl
    have honce : (F s fun s' => if s.pos < s'.pos then F.upTo greedy n s' k else none) =
        G t fun t' => if t.pos < t'.pos then G.upTo greedy n t' l else none := by
      refine h s t _ _ hst fun s' t' hst' => ?_
      have hpos := hst.pos
      have hpos' := hst'.pos
      have hiff : s.pos < s'.pos ↔ t.pos < t'.pos := by omega
      simp only [hiff, ih s' t' k l hst' hkl]
    unfold Finder.upTo
    dsimp only
    rw [honce, hkl s t hst]

end Finder.Alike

/-- An expression that does not look back finds the same from spots that are alike. -/
lemma find_alike {e : Expr} (he : e.Ahead) (a b : Nat) :
    Finder.Alike (α := α) a b e.find e.find := by
  induction e with
  | empty => intro s t k l hst hkl; exact hkl s t hst
  | char set =>
    intro s t k l hst hkl
    simp only [Expr.find, hst.rest]
    cases t.rest with
    | nil => rfl
    | cons c r =>
      have hnext : Spot.Alike a b (s.next c r) (t.next c r) :=
        ⟨by have := hst.pos; simp only [Spot.next]; omega, rfl, hst.captures⟩
      simp only [hkl _ _ hnext]
  | look l =>
    intro s t k l' hst hkl
    obtain rfl : l = .textEnd := he
    simp only [Expr.find, Look.holds, hst.rest, hkl s t hst]
    rfl
  | seq e f ihe ihf =>
    intro s t k l hst hkl
    exact ihe he.1 s t _ _ hst fun s t hst => ihf he.2 s t k l hst hkl
  | alt e f ihe ihf =>
    intro s t k l hst hkl
    rw [Expr.find, Expr.find, ihe he.1 s t k l hst hkl, ihf he.2 s t k l hst hkl]
  | times e least most greedy ih =>
    intro s t k l hst hkl
    rw [Expr.find, Expr.find]
    split
    · refine (ih he).exactly least s t _ _ hst fun s t hst => ?_
      rw [hst.rest]
      exact (ih he).upTo greedy _ s t k l hst hkl
    · rfl
  | capture name e ih =>
    intro s t k l hst hkl
    refine ih he s t _ _ hst fun s' t' hst' => hkl _ _ ⟨hst'.pos, hst'.rest, ?_⟩
    have hlen : s'.pos - s.pos = t'.pos - t.pos := by
      have hpos := hst.pos
      have hpos' := hst'.pos
      omega
    simp only [Spot.keep, hst.rest, hst'.captures, hlen]

/-! ### Expressions one after another -/

def Expr.concat : List Expr → Expr
  | [] => .empty
  | [e] => e
  | e :: es => .seq e (concat es)

lemma Expr.concat_cons_cons (e f : Expr) (es : List Expr) :
    concat (e :: f :: es) = .seq e (concat (f :: es)) := rfl

/-- Goes on after expressions one after another. -/
def findAll : List Expr → Finder α
  | [], s, k => k s
  | e :: es, s, k => e.find s fun t => findAll es t k

lemma find_concat (es : List Expr) (s : Spot) (k : Resume α) :
    (Expr.concat es).find s k = findAll es s k := by
  induction es generalizing s with
  | nil => rfl
  | cons e es ih =>
    cases es with
    | nil => rfl
    | cons f es =>
      rw [Expr.concat_cons_cons, Expr.find, findAll]
      simp only [ih]

lemma findAll_alike {es : List Expr} (hes : ∀ e ∈ es, e.Ahead) (a b : Nat) :
    Finder.Alike (α := α) a b (findAll es) (findAll es) := by
  induction es with
  | nil => intro s t k l hst hkl; exact hkl s t hst
  | cons e es ih =>
    intro s t k l hst hkl
    refine find_alike (hes e (by simp)) a b s t _ _ hst fun s t hst => ?_
    exact ih (fun e he => hes e (List.mem_cons_of_mem _ he)) s t k l hst hkl

/-! ### Captured stretches -/

/-- What is captured, on top of `caps`, by expressions one after another from the beginning of a
text. -/
def captured (es : List Expr) (rest : List Char) (caps : List (String × List Char)) :
    Option (List (String × List Char)) :=
  findAll es { pos := 0, before := none, rest, captures := caps } fun t => some t.captures

/-- From any spot the same is captured as from the beginning of what is ahead. -/
lemma findAll_captures {es : List Expr} (hes : ∀ e ∈ es, e.Ahead) (s : Spot) :
    (findAll es s fun t => some t.captures) = captured es s.rest s.captures :=
  findAll_alike hes 0 s.pos s _ _ _ ⟨Nat.add_comm _ _, rfl, rfl⟩ fun _ _ h => by rw [h.captures]

section Captured

variable {es : List Expr} {rest : List Char} {caps : List (String × List Char)} {set : CharSet}

lemma captured_char_nil : captured (.char set :: es) [] caps = none := rfl

lemma captured_char_cons (hes : ∀ e ∈ es, e.Ahead) (c : Char) (r : List Char) :
    captured (.char set :: es) (c :: r) caps = if set c then captured es r caps else none := by
  simp only [captured, findAll, Expr.find]
  rw [findAll_captures hes]
  rfl

lemma captured_textEnd :
    captured [.look .textEnd] rest caps = if rest = [] then some caps else none := by
  cases rest with
  | nil => rfl
  | cons c r => rfl

end Captured

/-! ### The longest stretch -/

/-- The spot after a number of characters. -/
def Spot.skip (s : Spot) : Nat → Spot
  | 0 => s
  | n + 1 => match s.rest with
    | [] => s
    | c :: r => (s.next c r).skip n

@[simp] lemma Spot.next_rest (s : Spot) (c : Char) (r : List Char) : (s.next c r).rest = r := rfl

lemma Spot.skip_next {s : Spot} {c : Char} {r : List Char} (h : s.rest = c :: r) (n : Nat) :
    (s.next c r).skip n = s.skip (n + 1) := by
  rw [Spot.skip, h]

lemma Spot.skip_spec (s : Spot) {n : Nat} (hn : n ≤ s.rest.length) :
    (s.skip n).pos = s.pos + n ∧ (s.skip n).rest = s.rest.drop n ∧
      (s.skip n).captures = s.captures := by
  induction n generalizing s with
  | zero => exact ⟨rfl, rfl, rfl⟩
  | succ n ih =>
    cases h : s.rest with
    | nil => simp [h] at hn
    | cons c r =>
      obtain ⟨hpos, hrest, hcaps⟩ := ih (s.next c r) (by simpa [h, Spot.next] using hn)
      rw [Spot.skip_next h] at hpos hrest hcaps
      have hnext : (s.next c r).pos = s.pos + 1 := rfl
      exact ⟨by omega, hrest, hcaps⟩

/-- A search that either succeeds after the longest stretch or fails after every shorter one. -/
def Resume.Longest (set : CharSet) (s : Spot) (k : Resume α) : Prop :=
  ∀ n < (s.rest.takeWhile set).length,
    k (s.skip n) = none ∨ (k (s.skip (s.rest.takeWhile set).length)).isSome

lemma Resume.Longest.next {set : CharSet} {s : Spot} {k : Resume α} (h : Resume.Longest set s k)
    {c : Char} {r : List Char} (hr : s.rest = c :: r) (hc : set c = true) :
    Resume.Longest set (s.next c r) k := by
  intro n hn
  have hlen : (s.rest.takeWhile set).length = (r.takeWhile set).length + 1 := by simp [hr, hc]
  have hn' : n < (r.takeWhile set).length := hn
  have hk := h (n + 1) (by omega)
  rwa [hlen, ← Spot.skip_next hr, ← Spot.skip_next hr] at hk

/-- Taking as many characters of a set as there are. -/
lemma upTo_char {set : CharSet} {n : Nat} {s : Spot} {k : Resume α} (hn : s.rest.length ≤ n)
    (hk : Resume.Longest set s k) :
    (Expr.char set).find.upTo true n s k = k (s.skip (s.rest.takeWhile set).length) := by
  induction n generalizing s with
  | zero =>
    obtain hr : s.rest = [] := List.length_eq_zero_iff.1 (Nat.le_zero.1 hn)
    rw [hr]
    rfl
  | succ n ih =>
    -- one more character, and what comes after it
    have honce : ((Expr.char set).find s fun t =>
        if s.pos < t.pos then (Expr.char set).find.upTo true n t k else none) =
          if s.rest.takeWhile set = [] then none
          else k (s.skip (s.rest.takeWhile set).length) := by
      rw [Expr.find]
      cases hr : s.rest with
      | nil => rfl
      | cons c r =>
        by_cases hc : set c = true
        · have hpos : s.pos < (s.next c r).pos := Nat.lt_succ_self _
          have hrest := ih (s := s.next c r) (by simpa [hr, Spot.next] using hn) (hk.next hr hc)
          rw [Spot.skip_next hr] at hrest
          simpa [hc, hpos] using hrest
        · simp [hc]
    unfold Finder.upTo
    dsimp only
    rw [honce, if_pos rfl]
    by_cases hnil : s.rest.takeWhile set = []
    · rw [if_pos hnil, hnil]
      rfl
    · rw [if_neg hnil]
      rcases hk 0 (List.length_pos_iff.2 hnil) with h | h
      · cases hlast : k (s.skip (s.rest.takeWhile set).length) with
        | none => exact h
        | some a => rfl
      · obtain ⟨a, ha⟩ := Option.isSome_iff_exists.1 h
        rw [ha]

/-- A class any number of times. -/
lemma find_star {set : CharSet} {s : Spot} {k : Resume α} (hk : Resume.Longest set s k) :
    (Expr.times (.char set) 0 none true).find s k = k (s.skip (s.rest.takeWhile set).length) := by
  rw [Expr.find, if_pos (by rfl)]
  exact upTo_char (Nat.le_refl _) hk

/-- A class at least once. -/
lemma find_plus {set : CharSet} {s : Spot} {k : Resume α} (hk : Resume.Longest set s k) :
    (Expr.times (.char set) 1 none true).find s k =
      if s.rest.takeWhile set = [] then none else k (s.skip (s.rest.takeWhile set).length) := by
  rw [Expr.find, if_pos (by rfl)]
  simp only [Finder.exactly]
  rw [Expr.find]
  cases hr : s.rest with
  | nil => rfl
  | cons c r =>
    by_cases hc : set c = true
    · have hrest := upTo_char (Nat.le_refl _) (hk.next hr hc)
      rw [Spot.skip_next hr] at hrest
      simp only [hc, if_true]
      simpa [hc] using hrest
    · simp [hc]

section Captured

variable {es : List Expr} {rest : List Char} {caps : List (String × List Char)} {set : CharSet}
  {name : String}

lemma findAll_keep (hes : ∀ e ∈ es, e.Ahead) (caps : List (String × List Char)) (name : String)
    {rest : List Char} {n : Nat} (hn : n ≤ rest.length) :
    (findAll es (Spot.keep { pos := 0, before := none, rest, captures := caps }
      (Spot.skip { pos := 0, before := none, rest, captures := caps } n) name)
      fun t => some t.captures) = captured es (rest.drop n) ((name, rest.take n) :: caps) := by
  rw [findAll_captures hes]
  obtain ⟨hpos, hrest, hcaps⟩ :=
    Spot.skip_spec { pos := 0, before := none, rest, captures := caps } hn
  simp only [Spot.keep, hpos, hrest, hcaps, Nat.zero_add, Nat.sub_zero]

/-- The group of a class that repeats takes all it can, if what comes next cannot begin with a
member of the class. -/
lemma captured_plus (hes : ∀ e ∈ es, e.Ahead)
    (hnext : ∀ c r caps, set c = true → captured es (c :: r) caps = none) {w r : List Char}
    (hw : ∀ c ∈ w, set c = true) (hr : ∀ c ∈ r.head?, set c = false) :
    captured (.capture name (.times (.char set) 1 none true) :: es) (w ++ r) caps =
      if w = [] then none else captured es r ((name, w) :: caps) := by
  have htake : (w ++ r).takeWhile set = w := by
    rw [List.takeWhile_append_of_pos hw]
    cases r with
    | nil => simp
    | cons c r => simp [hr c rfl]
  have hlen {n : Nat} (hn : n ≤ w.length) : n ≤ (w ++ r).length := by
    rw [List.length_append]
    omega
  have hkeep {n : Nat} (hn : n ≤ w.length) := findAll_keep hes caps name (hlen hn)
  rw [captured, findAll, Expr.find, find_plus]
  · rw [htake, hkeep (Nat.le_refl _), List.drop_left, List.take_left]
  · intro n hn
    left
    rw [htake] at hn
    dsimp only
    rw [hkeep (Nat.le_of_lt hn), List.drop_append_of_le_length (Nat.le_of_lt hn),
      List.drop_eq_getElem_cons hn]
    exact hnext _ _ _ (hw _ (List.getElem_mem hn))

/-- The group of a class that repeats takes everything, if everything is in the class. -/
lemma captured_star (hes : ∀ e ∈ es, e.Ahead) (hall : ∀ c ∈ rest, set c = true)
    (hend : (captured es [] ((name, rest) :: caps)).isSome) :
    captured (.capture name (.times (.char set) 0 none true) :: es) rest caps =
      captured es [] ((name, rest) :: caps) := by
  have htake : rest.takeWhile set = rest := List.takeWhile_eq_self_iff.2 hall
  have hkeep := findAll_keep hes caps name (Nat.le_refl rest.length)
  rw [List.drop_length, List.take_length] at hkeep
  rw [captured, findAll, Expr.find, find_star]
  · rw [htake, hkeep]
  · intro n _
    right
    rw [htake]
    dsimp only
    rw [hkeep]
    exact hend

/-- A character that may be left out is taken if it leads somewhere. -/
lemma captured_optional :
    captured (.times (.char set) 0 (some 1) true :: es) rest caps =
      match captured (.char set :: es) rest caps with
      | some caps => some caps
      | none => captured es rest caps := by
  have hone (k : Resume (List (String × List Char))) (s : Spot) :
      (Expr.times (.char set) 0 (some 1) true).find s k = match (Expr.char set).find s k with
      | some a => some a
      | none => k s := by
    have hmoves : ((Expr.char set).find s fun t => if s.pos < t.pos then k t else none) =
        (Expr.char set).find s k := by
      rw [Expr.find, Expr.find]
      cases s.rest with
      | nil => rfl
      | cons c r =>
        have hpos : s.pos < (s.next c r).pos := Nat.lt_succ_self _
        simp only [hpos, if_true]
    have honce : (Expr.times (.char set) 0 (some 1) true).find s k =
        (Expr.char set).find.upTo true 1 s k := by
      rw [Expr.find, if_pos (by rfl)]
      rfl
    rw [honce, ← hmoves, Finder.upTo, if_pos rfl]
    simp only [Finder.upTo]
    cases (Expr.char set).find s fun t => if s.pos < t.pos then k t else none <;> rfl
  simp only [captured, findAll, hone]

end Captured

end AppLinks.Regex
