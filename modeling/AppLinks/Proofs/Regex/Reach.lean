import AppLinks.Regex.Basic
import Mathlib.Logic.Function.Iterate
import Mathlib.Tactic.Common

/-!
The computed ends are the ends of the stretches that an expression matches.

Both sides are read as relations between positions. A repetition is a number of copies of a
relation, and a copy that stays where it is can be left out; so beyond the length of the text more
copies lead nowhere else.
-/

namespace AppLinks.Regex

variable {text : List Char}

theorem Spans.le {e : Expr} {i j : Nat} (h : Spans text e i j) : i ≤ j ∧ j ≤ text.length := by
  induction h with
  | empty h => exact ⟨Nat.le_refl _, h⟩
  | char h _ => exact ⟨Nat.le_succ _, (List.getElem?_eq_some_iff.1 h).1⟩
  | look h _ => exact ⟨Nat.le_refl _, h⟩
  | seq _ _ iha ihb => exact ⟨Nat.le_trans iha.1 ihb.1, ihb.2⟩
  | altLeft _ ih => exact ih
  | altRight _ ih => exact ih
  | timesEnd h => exact ⟨Nat.le_refl _, h⟩
  | timesMore _ _ _ iha ihb => exact ⟨Nat.le_trans iha.1 ihb.1, ihb.2⟩
  | capture _ ih => exact ih

section Inversion

variable {i j : Nat}

lemma spans_empty_iff : Spans text .empty i j ↔ i = j ∧ j ≤ text.length := by
  refine ⟨?_, ?_⟩
  · rintro ⟨h⟩; exact ⟨rfl, h⟩
  · rintro ⟨rfl, h⟩; exact .empty h

lemma spans_char_iff {set : CharSet} :
    Spans text (.char set) i j ↔ j = i + 1 ∧ ∃ c, text[i]? = some c ∧ set c = true := by
  refine ⟨?_, ?_⟩
  · rintro ⟨⟩; exact ⟨rfl, _, ‹_›, ‹_›⟩
  · rintro ⟨rfl, c, hc, hset⟩; exact .char hc hset

lemma spans_look_iff {l : Look} :
    Spans text (.look l) i j ↔
      i = j ∧ j ≤ text.length ∧ l.holds (before text j) text[j]? = true := by
  refine ⟨?_, ?_⟩
  · rintro ⟨⟩; exact ⟨rfl, ‹_›, ‹_›⟩
  · rintro ⟨rfl, h, hl⟩; exact .look h hl

lemma spans_seq_iff {a b : Expr} {k : Nat} :
    Spans text (.seq a b) i k ↔ ∃ j, Spans text a i j ∧ Spans text b j k := by
  refine ⟨?_, ?_⟩
  · rintro ⟨⟩; exact ⟨_, ‹_›, ‹_›⟩
  · rintro ⟨j, ha, hb⟩; exact .seq ha hb

lemma spans_alt_iff {a b : Expr} :
    Spans text (.alt a b) i j ↔ Spans text a i j ∨ Spans text b i j := by
  refine ⟨?_, ?_⟩
  · intro h
    cases h with
    | altLeft h => exact Or.inl h
    | altRight h => exact Or.inr h
  · rintro (h | h)
    · exact .altLeft h
    · exact .altRight h

lemma spans_capture_iff {name : String} {a : Expr} :
    Spans text (.capture name a) i j ↔ Spans text a i j := by
  refine ⟨?_, ?_⟩
  · rintro ⟨⟩; assumption
  · exact .capture

end Inversion

/-! ### Copies of a relation -/

/-- A relation as many times in a row. -/
inductive Copies (R : Nat → Nat → Prop) : Nat → Nat → Nat → Prop where
  | none {i : Nat} : Copies R 0 i i
  | more {k i j l : Nat} : R i j → Copies R k j l → Copies R (k + 1) i l

namespace Copies

variable {R : Nat → Nat → Prop}

lemma zero_iff {i j : Nat} : Copies R 0 i j ↔ i = j := by
  refine ⟨?_, ?_⟩
  · rintro ⟨⟩
    rfl
  · rintro rfl
    exact .none

lemma succ_iff {k i l : Nat} : Copies R (k + 1) i l ↔ ∃ j, R i j ∧ Copies R k j l := by
  refine ⟨?_, ?_⟩
  · rintro ⟨⟩
    exact ⟨_, ‹_›, ‹_›⟩
  · rintro ⟨j, h, hs⟩
    exact .more h hs

lemma le (hR : ∀ {i j}, R i j → i ≤ j) {k i l : Nat} (h : Copies R k i l) : i ≤ l := by
  induction h with
  | none => exact Nat.le_refl _
  | more hij _ ih => exact Nat.le_trans (hR hij) ih

lemma end_le {n : Nat} (hR : ∀ {i j}, R i j → j ≤ n) {k i l : Nat} (h : Copies R k i l)
    (hi : i ≤ n) : l ≤ n := by
  induction h with
  | none => exact hi
  | more hij _ ih => exact ih (hR hij)

lemma add_iff {a b i l : Nat} :
    Copies R (a + b) i l ↔ ∃ j, Copies R a i j ∧ Copies R b j l := by
  induction a generalizing i with
  | zero => simp [zero_iff]
  | succ a ih =>
    rw [Nat.succ_add, succ_iff]
    simp only [ih, succ_iff]
    refine ⟨?_, ?_⟩
    · rintro ⟨j, hij, m, ha, hb⟩
      exact ⟨m, ⟨j, hij, ha⟩, hb⟩
    · rintro ⟨m, ⟨j, hij, ha⟩, hb⟩
      exact ⟨j, hij, m, ha, hb⟩

/-- Among more copies than there is room for, one stays where it is. -/
lemma pred (hR : ∀ {i j}, R i j → i ≤ j) {k i l : Nat} (h : Copies R k i l) (hk : l - i < k) :
    Copies R (k - 1) i l := by
  induction h with
  | none => exact absurd hk (by omega)
  | @more k i j l hij hjl ih =>
    rcases Nat.eq_or_lt_of_le (hR hij) with rfl | hlt
    · exact hjl
    · have hle := hjl.le hR
      have hk' : l - j < k := by omega
      obtain ⟨m, rfl⟩ : ∃ m, k = m + 1 := ⟨k - 1, by omega⟩
      exact .more hij (ih hk')

/-- At most as many copies beyond the necessary ones are needed as there is room. -/
lemma shorten {n : Nat} (hR : ∀ {i j}, R i j → i ≤ j) {least k i l : Nat} (h : Copies R k i l)
    (hl : l ≤ n) (hk : least ≤ k) : ∃ m ≤ n + 1, Copies R (least + m) i l := by
  induction k with
  | zero =>
    obtain rfl : least = 0 := by omega
    exact ⟨0, by omega, h⟩
  | succ k ih =>
    by_cases hroom : k + 1 ≤ least + (n + 1)
    · refine ⟨k + 1 - least, by omega, ?_⟩
      have hsum : least + (k + 1 - least) = k + 1 := by omega
      rwa [hsum]
    · exact ih (h.pred hR (by omega)) (by omega)

end Copies

/-- A repetition matches as many copies as it allows. -/
lemma spans_times_iff {a : Expr} {least : Nat} {most : Option Nat} {greedy : Bool} {i j : Nat} :
    Spans text (.times a least most greedy) i j ↔ i ≤ text.length ∧
      ∃ k, least ≤ k ∧ (∀ m ∈ most, k ≤ m) ∧ Copies (Spans text a) k i j := by
  refine ⟨?_, ?_⟩
  · intro h
    generalize he : Expr.times a least most greedy = e at h
    induction h generalizing least most with
    | timesEnd h =>
      cases he
      exact ⟨h, 0, Nat.le_refl _, by simp, .none⟩
    | @timesMore a least most greedy i j k haij hmost _ _ ih =>
      cases he
      obtain ⟨-, n, hn, hm, hc⟩ := ih rfl
      refine ⟨Nat.le_trans haij.le.1 haij.le.2, n + 1, by omega, ?_, .more haij hc⟩
      intro m hm'
      have hpred := hm (m - 1) (by simp [Option.mem_def.1 hm'])
      have hne : m ≠ 0 := fun h => hmost (by simpa [h] using hm')
      omega
    | empty | char | look | seq | altLeft | altRight | capture => cases he
  · rintro ⟨hi, k, hk, hm, hc⟩
    induction hc generalizing least most with
    | none =>
      obtain rfl : least = 0 := by omega
      exact .timesEnd hi
    | @more k i j l hij hjl ih =>
      refine .timesMore hij (fun h => ?_) (ih hij.le.2 (by omega) ?_)
      · exact absurd (hm 0 h) (by omega)
      · intro m hm'
        obtain ⟨m', hm'', rfl⟩ := Option.map_eq_some_iff.1 hm'
        have := hm m' hm''
        omega

/-! ### Positions as bits -/

lemma testBit_bit {b : Prop} [Decidable b] {n i : Nat} :
    ((if b then 1 else 0) + 2 * n).testBit i = true ↔
      (i = 0 ∧ b) ∨ ∃ k, i = k + 1 ∧ n.testBit k = true := by
  cases i with
  | zero => by_cases hb : b <;> simp [hb, Nat.testBit_zero]
  | succ k =>
    have hdiv : ((if b then 1 else 0) + 2 * n) / 2 = n := by
      split <;> omega
    simp [Nat.testBit_succ, hdiv]

lemma testBit_double {n j : Nat} :
    (2 * n).testBit j = true ↔ ∃ i, j = i + 1 ∧ n.testBit i = true := by
  have h := testBit_bit (b := False) (n := n) (i := j)
  simpa using h

lemma testBit_charMask (set : CharSet) (i : Nat) :
    (set.mask text).testBit i = true ↔ ∃ c, text[i]? = some c ∧ set c = true := by
  induction text generalizing i with
  | nil => simp [CharSet.mask]
  | cons c r ih =>
    rw [CharSet.mask, testBit_bit]
    cases i with
    | zero => simp
    | succ k => simp [ih]

lemma testBit_lookMask (l : Look) (prev : Option Char) (i : Nat) :
    (l.mask prev text).testBit i = true ↔ i ≤ text.length ∧
      l.holds (if i = 0 then prev else text[i - 1]?) text[i]? = true := by
  induction text generalizing prev i with
  | nil =>
    rw [Look.mask]
    by_cases h : l.holds prev none = true
    · cases i <;> simp [h, Nat.testBit_succ]
    · cases i <;> simp [h]
  | cons c r ih =>
    rw [Look.mask, testBit_bit]
    cases i with
    | zero => simp
    | succ k =>
      cases k with
      | zero => simp [ih]
      | succ k => simp [ih]

/-! ### What the computation finds -/

/-- A computation on sets of positions finds the ends that a relation leads to. -/
def Computes (text : List Char) (f : Nat → Nat) (R : Nat → Nat → Prop) : Prop :=
  ∀ s, (∀ i, s.testBit i = true → i ≤ text.length) →
    ∀ j, (f s).testBit j = true ↔ ∃ i, s.testBit i = true ∧ R i j

lemma applyTimes_eq (f : Nat → Nat) (k s : Nat) : applyTimes f k s = f^[k] s := by
  induction k generalizing s with
  | zero => rfl
  | succ k ih =>
    simp only [applyTimes]
    split
    · rename_i h
      rw [Function.iterate_fixed h]
    · rw [ih, Function.iterate_succ_apply]

lemma growTimes_eq (f : Nat → Nat) (k s : Nat) :
    growTimes f k s = (fun t => t ||| f t)^[k] s := by
  induction k generalizing s with
  | zero => rfl
  | succ k ih =>
    simp only [growTimes]
    split
    · rename_i h
      rw [Function.iterate_fixed h]
    · rw [ih, Function.iterate_succ_apply]

namespace Computes

variable {f g : Nat → Nat} {R S : Nat → Nat → Prop}

lemma bounded (hf : Computes text f R)
    (hR : ∀ {i j}, i ≤ text.length → R i j → j ≤ text.length) {s : Nat}
    (hs : ∀ i, s.testBit i = true → i ≤ text.length) (j : Nat) (hj : (f s).testBit j = true) :
    j ≤ text.length := by
  obtain ⟨i, hi, h⟩ := (hf s hs j).1 hj
  exact hR (hs i hi) h

lemma comp (hf : Computes text f R) (hR : ∀ {i j}, i ≤ text.length → R i j → j ≤ text.length)
    (hg : Computes text g S) : Computes text (g ∘ f) fun i k => ∃ j, R i j ∧ S j k := by
  intro s hs k
  rw [Function.comp_apply, hg (f s) (hf.bounded hR hs)]
  simp only [hf s hs]
  refine ⟨?_, ?_⟩
  · rintro ⟨j, ⟨i, hi, hij⟩, hjk⟩
    exact ⟨i, hi, j, hij, hjk⟩
  · rintro ⟨i, hi, j, hij, hjk⟩
    exact ⟨j, ⟨i, hi, hij⟩, hjk⟩

lemma iterate (hf : Computes text f R) (hR : ∀ {i j}, R i j → j ≤ text.length) (k : Nat) :
    Computes text f^[k] (Copies R k) := by
  induction k with
  | zero => intro s _ j; simp [Copies.zero_iff]
  | succ k ih =>
    intro s hs j
    rw [Function.iterate_succ, (hf.comp (fun _ => hR) ih) s hs]
    simp only [Copies.succ_iff]

lemma grow (hf : Computes text f R) (hR : ∀ {i j}, R i j → j ≤ text.length) (k : Nat) :
    Computes text (fun t => t ||| f t)^[k] fun i j => ∃ m ≤ k, Copies R m i j := by
  induction k with
  | zero =>
    intro s _ j
    simp [Copies.zero_iff]
  | succ k ih =>
    intro s hs j
    have hs' : ∀ i, (s ||| f s).testBit i = true → i ≤ text.length := by
      intro i hi
      rw [Nat.testBit_or, Bool.or_eq_true] at hi
      exact hi.elim (hs i) (hf.bounded (fun _ => hR) hs i)
    rw [Function.iterate_succ_apply, ih _ hs']
    simp only [Nat.testBit_or, Bool.or_eq_true, hf s hs]
    refine ⟨?_, ?_⟩
    · rintro ⟨i, hi | ⟨h, hh, hhi⟩, m, hm, hc⟩
      · exact ⟨i, hi, m, by omega, hc⟩
      · exact ⟨h, hh, m + 1, by omega, .more hhi hc⟩
    · rintro ⟨i, hi, m, hm, hc⟩
      cases hc with
      | none => exact ⟨_, Or.inl hi, 0, by omega, .none⟩
      | more hij hjl => exact ⟨_, Or.inr ⟨_, hi, hij⟩, _, by omega, hjl⟩

end Computes

lemma computes_copies {a : Plan} {R : Nat → Nat → Prop} (h : Computes text a.reach R)
    (hR : ∀ {i j}, R i j → j ≤ text.length) (least more : Nat) :
    Computes text (Plan.times a least more).reach
      fun i j => ∃ m ≤ more, Copies R (least + m) i j := by
  intro s hs j
  rw [Plan.reach, applyTimes_eq, growTimes_eq]
  have hboth := ((h.iterate hR least).comp (fun hi hc => hc.end_le hR hi) (h.grow hR more)) s hs j
  rw [Function.comp_apply] at hboth
  simp only [hboth, Copies.add_iff]
  refine ⟨?_, ?_⟩
  · rintro ⟨i, hi, k, hik, m, hm, hkj⟩
    exact ⟨i, hi, m, hm, k, hik, hkj⟩
  · rintro ⟨i, hi, m, hm, k, hik, hkj⟩
    exact ⟨i, hi, k, hik, m, hm, hkj⟩

/-- From every set of starts, the plan of a repetition finds the ends of its stretches. -/
lemma computes_times {a : Expr} {least : Nat} {most : Option Nat} {greedy : Bool}
    (ih : Computes text (a.plan text).reach (Spans text a)) :
    Computes text ((Expr.times a least most greedy).plan text).reach
      (Spans text (.times a least most greedy)) := by
  have hle : ∀ {i j}, Spans text a i j → i ≤ j := fun h => h.le.1
  have hend : ∀ {i j}, Spans text a i j → j ≤ text.length := fun h => h.le.2
  have hcopies := computes_copies ih hend least
  intro s hs j
  simp only [spans_times_iff]
  cases most with
  | none =>
    rw [Expr.plan, hcopies _ s hs]
    refine ⟨?_, ?_⟩
    · rintro ⟨i, hi, m, -, hc⟩
      exact ⟨i, hi, hs i hi, least + m, by omega, by simp, hc⟩
    · rintro ⟨i, hi, hin, k, hk, -, hc⟩
      obtain ⟨m, hm, hc'⟩ := hc.shorten hle (hc.end_le hend hin) hk
      exact ⟨i, hi, m, hm, hc'⟩
  | some most =>
    rw [Expr.plan]
    split
    · rw [hcopies _ s hs]
      refine ⟨?_, ?_⟩
      · rintro ⟨i, hi, m, hm, hc⟩
        exact ⟨i, hi, hs i hi, least + m, by omega, by simp; omega, hc⟩
      · rintro ⟨i, hi, -, k, hk, hm, hc⟩
        have hkm := hm most rfl
        obtain ⟨m, rfl⟩ := Nat.exists_eq_add_of_le hk
        exact ⟨i, hi, m, by omega, hc⟩
    · rw [Plan.reach, Nat.zero_testBit]
      refine ⟨?_, ?_⟩
      · intro h; cases h
      · rintro ⟨i, -, -, k, hk, hm, -⟩
        have hkm := hm most rfl
        omega

/-- From every set of starts, the plan of an expression finds the ends of its stretches. -/
lemma computes_reach (e : Expr) : Computes text (e.plan text).reach (Spans text e) := by
  induction e with
  | empty =>
    intro s hs j
    simp only [Expr.plan, Plan.reach, spans_empty_iff]
    exact ⟨fun h => ⟨j, h, rfl, hs j h⟩, by rintro ⟨i, hi, rfl, -⟩; exact hi⟩
  | char set =>
    intro s _ j
    simp only [Expr.plan, Plan.reach, testBit_double, Nat.testBit_and, Bool.and_eq_true,
      testBit_charMask, spans_char_iff]
    exact ⟨fun ⟨i, h, hi, hc⟩ => ⟨i, hi, h, hc⟩, fun ⟨i, hi, h, hc⟩ => ⟨i, h, hi, hc⟩⟩
  | look l =>
    intro s _ j
    simp only [Expr.plan, Plan.reach, Nat.testBit_and, Bool.and_eq_true, testBit_lookMask,
      spans_look_iff]
    exact ⟨fun ⟨hj, h⟩ => ⟨j, hj, rfl, h⟩, by rintro ⟨i, hi, rfl, h⟩; exact ⟨hi, h⟩⟩
  | seq a b iha ihb =>
    intro s hs j
    have h := (iha.comp (fun _ h => h.le.2) ihb) s hs j
    rw [Function.comp_apply] at h
    simp only [Expr.plan, Plan.reach, h, spans_seq_iff]
  | alt a b iha ihb =>
    intro s hs j
    simp only [Expr.plan, Plan.reach, Nat.testBit_or, Bool.or_eq_true, iha s hs, ihb s hs,
      spans_alt_iff, and_or_left, exists_or]
  | times a least most greedy ih => exact computes_times ih
  | capture name a ih =>
    intro s hs j
    simp only [Expr.plan, ih s hs, spans_capture_iff]

/-- **Matching**: an expression is found to match a text if and only if it matches a stretch of
the text. -/
theorem isMatch_iff_spans (e : Expr) (text : List Char) :
    e.isMatch text = true ↔ ∃ i j, Spans text e i j := by
  have heverywhere (i : Nat) : (everywhere text).testBit i = true ↔ i ≤ text.length := by
    have hpow : everywhere text = 2 ^ (text.length + 1) - 1 := rfl
    rw [hpow, Nat.testBit_two_pow_sub_one, decide_eq_true_iff, Nat.lt_succ_iff]
  have hreach := computes_reach e (everywhere text) fun i => (heverywhere i).1
  rw [Expr.isMatch, bne_iff_ne]
  refine ⟨?_, ?_⟩
  · intro h
    obtain ⟨j, hj⟩ := Nat.exists_testBit_of_ne_zero h
    obtain ⟨i, -, hij⟩ := (hreach j).1 hj
    exact ⟨i, j, hij⟩
  · rintro ⟨i, j, hij⟩ h
    have hj := (hreach j).2 ⟨i, (heverywhere i).2 (Nat.le_trans hij.le.1 hij.le.2), hij⟩
    rw [h, Nat.zero_testBit] at hj
    cases hj

end AppLinks.Regex
