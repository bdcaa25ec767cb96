import AppLinks.Route.Pattern
import Mathlib.Tactic.Common

/-!
The scan that cuts a pattern at its slashes.

`Within` is what the scan asks of the text of one segment. A text is cut into parts exactly if they
stand between the slashes and each of them is within one segment.
-/

namespace AppLinks.Route

/-- A text that stays within one segment when it is scanned from a depth, and ends outside all
parentheses. -/
def Within (parameter : Bool) : Nat → Bool → List Char → Prop
  | d, escaped, [] => d = 0 ∧ escaped = false
  | d, true, _ :: r => Within parameter d false r
  | d, false, c :: r =>
    if c = '\\' ∧ 0 < d then Within parameter d true r
    else if c = '(' ∧ parameter then Within parameter (d + 1) false r
    else if c = ')' ∧ parameter then 0 < d ∧ Within parameter (d - 1) false r
    else (c = '/' → 0 < d) ∧ Within parameter d false r

/-- The scan of a text cuts off a first part and goes on after a slash, if there is one. -/
def Splits (parameter : Bool) (d : Nat) (escaped : Bool) (s : List Char)
    (parts : List (List Char)) : Prop :=
  ∃ p ps, parts = p :: ps ∧ Within parameter d escaped p ∧
    ((s = p ∧ ps = []) ∨
      ∃ r, s = p ++ '/' :: r ∧ split 0 false (beginsParameter r) r = some ps)

/-- The first part is empty, or it begins where the text does. -/
lemma splits_cons_iff {parameter : Bool} {d : Nat} {e : Bool} {c : Char} {r : List Char}
    {parts : List (List Char)} :
    Splits parameter d e (c :: r) parts ↔
      (c = '/' ∧ d = 0 ∧ e = false ∧
        ∃ ps, parts = [] :: ps ∧ split 0 false (beginsParameter r) r = some ps) ∨
      ∃ p ps, parts = (c :: p) :: ps ∧ Within parameter d e (c :: p) ∧
        ((r = p ∧ ps = []) ∨
          ∃ t, r = p ++ '/' :: t ∧ split 0 false (beginsParameter t) t = some ps) := by
  refine ⟨?_, ?_⟩
  · rintro ⟨p, ps, rfl, hp, h⟩
    cases p with
    | nil =>
      left
      rcases h with ⟨h, -⟩ | ⟨t, h, ht⟩
      · cases h
      · cases h
        exact ⟨rfl, hp.1, hp.2, ps, rfl, ht⟩
    | cons x p =>
      right
      rcases h with ⟨h, hps⟩ | ⟨t, h, ht⟩
      · cases h
        exact ⟨r, ps, rfl, hp, Or.inl ⟨rfl, hps⟩⟩
      · cases h
        exact ⟨p, ps, rfl, hp, Or.inr ⟨t, rfl, ht⟩⟩
  · rintro (⟨rfl, rfl, rfl, ps, rfl, hps⟩ | ⟨p, ps, rfl, hp, h⟩)
    · exact ⟨[], ps, rfl, ⟨rfl, rfl⟩, Or.inr ⟨r, rfl, hps⟩⟩
    · refine ⟨c :: p, ps, rfl, hp, ?_⟩
      rcases h with ⟨rfl, hps⟩ | ⟨t, rfl, ht⟩
      · exact Or.inl ⟨rfl, hps⟩
      · exact Or.inr ⟨t, rfl, ht⟩

/-- A step that separates nothing puts one character before the first part. -/
lemma splits_consFirst {parameter : Bool} {d d' : Nat} {e e' : Bool} {c : Char} {r : List Char}
    (hsep : ¬ (c = '/' ∧ d = 0 ∧ e = false))
    (hstep : ∀ p, Within parameter d e (c :: p) ↔ Within parameter d' e' p)
    (ih : ∀ parts, split d' e' parameter r = some parts ↔ Splits parameter d' e' r parts)
    (parts : List (List Char)) :
    (split d' e' parameter r).map (consFirst c) = some parts ↔
      Splits parameter d e (c :: r) parts := by
  rw [Option.map_eq_some_iff, splits_cons_iff]
  refine ⟨?_, ?_⟩
  · rintro ⟨qs, hqs, rfl⟩
    obtain ⟨p, ps, rfl, hp, h⟩ := (ih qs).1 hqs
    exact Or.inr ⟨p, ps, rfl, (hstep p).2 hp, h⟩
  · rintro (⟨hc, hd, he, -⟩ | ⟨p, ps, rfl, hp, h⟩)
    · exact absurd ⟨hc, hd, he⟩ hsep
    · exact ⟨p :: ps, (ih _).2 ⟨p, ps, rfl, (hstep p).1 hp, h⟩, rfl⟩

/-- At the end of a text the scan has to be outside all parentheses. -/
lemma split_nil_iff {parameter : Bool} {d : Nat} {e : Bool} (hesc : e = true → 0 < d)
    (parts : List (List Char)) :
    split d e parameter [] = some parts ↔ Splits parameter d e [] parts := by
  by_cases hd : d = 0
  · have he : e = false := by
      by_contra h
      have := hesc (by simpa using h)
      omega
    simp [split, Splits, Within, hd, he, eq_comm]
  · rw [split, if_neg hd]
    refine ⟨?_, ?_⟩
    · intro h; cases h
    · rintro ⟨p, ps, rfl, hp, ⟨rfl, -⟩ | ⟨r, hr, -⟩⟩
      · exact absurd hp.1 hd
      · simp at hr

/-- What the scan does from any state in which a pending escape stands within parentheses. -/
lemma split_eq_some_iff {parameter : Bool} (s : List Char) :
    ∀ {d : Nat} {e : Bool}, (e = true → 0 < d) → ∀ parts,
      split d e parameter s = some parts ↔ Splits parameter d e s parts := by
  induction s with
  | nil => exact split_nil_iff
  | cons c r ih =>
    intro d e hesc parts
    cases e with
    | true =>
      rw [split, if_pos rfl]
      exact splits_consFirst (by simp) (fun p => by rw [Within]) (ih (by simp)) parts
    | false =>
      rw [split, if_neg (by simp)]
      by_cases h1 : c = '\\' ∧ 0 < d
      · rw [if_pos (by simpa using h1)]
        refine splits_consFirst (by omega) (fun p => ?_) (ih fun _ => h1.2) parts
        rw [Within, if_pos h1]
      rw [if_neg (by simpa using h1)]
      by_cases h2 : c = '(' ∧ parameter = true
      · have hc : c ≠ '/' := by rw [h2.1]; decide
        rw [if_pos (by simpa using h2)]
        refine splits_consFirst (by tauto) (fun p => ?_) (ih (by simp)) parts
        rw [Within, if_neg h1, if_pos h2]
      rw [if_neg (by simpa using h2)]
      by_cases h3 : c = ')' ∧ parameter = true
      · have hc : c ≠ '/' := by rw [h3.1]; decide
        have hw (p : List Char) : Within parameter d false (c :: p) ↔
            0 < d ∧ Within parameter (d - 1) false p := by
          rw [Within, if_neg h1, if_neg h2, if_pos h3]
        rw [if_pos (by simpa using h3)]
        by_cases hd : d = 0
        · -- a parenthesis that was never opened: the scan gives up
          subst hd
          rw [if_pos rfl, splits_cons_iff]
          simp [hc, hw]
        · rw [if_neg hd]
          refine splits_consFirst (by tauto) (fun p => ?_) (ih (by simp)) parts
          rw [hw]
          exact and_iff_right (by omega)
      have hw (p : List Char) : Within parameter d false (c :: p) ↔
          (c = '/' → 0 < d) ∧ Within parameter d false p := by
        rw [Within, if_neg h1, if_neg h2, if_neg h3]
      rw [if_neg (by simpa using h3)]
      by_cases h4 : c = '/' ∧ d = 0
      · obtain ⟨rfl, rfl⟩ := h4
        rw [if_pos (by simp), Option.map_eq_some_iff, splits_cons_iff]
        simp [hw, eq_comm, and_comm]
      · rw [if_neg (by simpa using h4)]
        refine splits_consFirst (by tauto) (fun p => ?_) (ih (by simp)) parts
        rw [hw]
        exact and_iff_right fun hc => Nat.pos_of_ne_zero fun hd => h4 ⟨hc, hd⟩

lemma beginsParameter_append (p r : List Char) :
    beginsParameter (p ++ '/' :: r) = beginsParameter p := by
  cases p with
  | nil => rfl
  | cons c p => rfl

/-- **Cutting at slashes**: the scan gives the parts that make up the text and each stay within
one segment. -/
lemma split_iff {b : List Char} {parts : List (List Char)} :
    split 0 false (beginsParameter b) b = some parts ↔
      parts ≠ [] ∧ b = ['/'].intercalate parts ∧
        ∀ p ∈ parts, Within (beginsParameter p) 0 false p := by
  induction parts generalizing b with
  | nil =>
    rw [split_eq_some_iff b (by simp)]
    simp [Splits]
  | cons p ps ih =>
    rw [split_eq_some_iff b (by simp)]
    refine ⟨?_, ?_⟩
    · rintro ⟨q, qs, h, hq, hb⟩
      obtain ⟨rfl, rfl⟩ := List.cons.inj h
      rcases hb with ⟨rfl, rfl⟩ | ⟨r, rfl, hr⟩
      · simpa using hq
      · obtain ⟨hne, rfl, hall⟩ := ih.1 hr
        rw [beginsParameter_append] at hq
        refine ⟨by simp, ?_, ?_⟩
        · rw [List.intercalate_cons_of_ne_nil hne]
          simp
        · simpa using ⟨hq, hall⟩
    · rintro ⟨-, rfl, hall⟩
      have hp := hall p (by simp)
      by_cases hps : ps = []
      · subst hps
        exact ⟨p, [], rfl, by simpa using hp, Or.inl ⟨by simp, rfl⟩⟩
      · have hb : ['/'].intercalate (p :: ps) = p ++ '/' :: ['/'].intercalate ps := by
          rw [List.intercalate_cons_of_ne_nil hps]
          simp
        rw [hb, beginsParameter_append]
        refine ⟨p, ps, rfl, hp, Or.inr ⟨_, rfl, ih.2 ⟨hps, rfl, ?_⟩⟩⟩
        exact fun q hq => hall q (List.mem_cons_of_mem _ hq)

end AppLinks.Route
