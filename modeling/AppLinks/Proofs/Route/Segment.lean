import AppLinks.Proofs.Result
import AppLinks.Proofs.Route.Scan

/-!
The text of a segment.

The scan and the reader of a segment look for the ends of names and constraints in different ways.
A well-formed segment is one for which both agree: its text is within one segment, and it is read
back as the segment.
-/

namespace AppLinks.Route

open Result

/-- A text whose parentheses, counted from a depth, end at depth one without ever going below
zero. A backslash at a positive depth takes the next character with it, and a slash does not stand
at depth zero. -/
inductive Balanced : Nat → List Char → Prop where
  | done : Balanced 1 []
  | escape {d : Nat} {c : Char} {r : List Char} : 0 < d → Balanced d r →
      Balanced d ('\\' :: c :: r)
  | opens {d : Nat} {r : List Char} : Balanced (d + 1) r → Balanced d ('(' :: r)
  | closes {d : Nat} {r : List Char} : Balanced d r → Balanced (d + 1) (')' :: r)
  | plain {d : Nat} {c : Char} {r : List Char} : c ≠ '(' → c ≠ ')' → (c = '\\' → d = 0) →
      (c = '/' → 0 < d) → Balanced d r → Balanced d (c :: r)

/-- Segments that can stand in a pattern. -/
def Segment.WellFormed : Segment → Prop
  | .literal t => t ≠ "" ∧ '/' ∉ t.toList ∧ t.toList.head? ≠ some ':' ∧ t ≠ "*"
  | .parameter name constraint =>
    name ≠ "" ∧ (∀ c ∈ name.toList, c ≠ '/' ∧ c ≠ '(' ∧ c ≠ ')') ∧
      ∀ t ∈ constraint, t ≠ "" ∧ (∃ e, Regex.parse t = .ok e) ∧ Balanced 1 t.toList
  | .wildcard => True

/-! ### What the scan asks of a segment -/

/-- Outside parameters only a slash matters. -/
lemma within_literal_iff {p : List Char} : Within false 0 false p ↔ '/' ∉ p := by
  induction p with
  | nil => simp [Within]
  | cons c p ih =>
    rw [Within, if_neg (by omega), if_neg (by simp), if_neg (by simp), ih, List.mem_cons, not_or]
    refine and_congr_left fun _ => ⟨fun h hc => ?_, fun h hc => absurd hc.symm h⟩
    exact absurd (h hc.symm) (by omega)

/-- A name is read at depth zero, where a backslash is a character like any other. -/
lemma within_name_iff {name r : List Char} (hname : '(' ∉ name) :
    Within true 0 false (name ++ r) ↔
      (∀ c ∈ name, c ≠ '/' ∧ c ≠ ')') ∧ Within true 0 false r := by
  induction name with
  | nil => simp
  | cons c name ih =>
    rw [List.mem_cons, not_or] at hname
    rw [List.cons_append, Within, if_neg (by omega), if_neg (fun h => hname.1 h.1.symm)]
    by_cases hc : c = ')'
    · simp [hc]
    · rw [if_neg (by simpa using hc), ih hname.2]
      simp [hc, and_assoc]

/-- A constraint is read from depth one up to the parenthesis that closes it. -/
lemma within_constraint_iff (c : List Char) :
    (∀ d, Within true d false (c ++ [')']) ↔ Balanced d c) ∧
      ∀ d, 0 < d → (Within true d true (c ++ [')']) ↔ ∃ x r, c = x :: r ∧ Balanced d r) := by
  induction c with
  | nil =>
    refine ⟨?_, ?_⟩
    · intro d
      refine ⟨?_, ?_⟩
      · intro h
        simp only [List.nil_append, Within] at h
        obtain rfl : d = 1 := by simp at h; omega
        exact .done
      · rintro ⟨⟩
        simp [Within]
    · intro d hd
      simp [Within]
      omega
  | cons x r ih =>
    obtain ⟨ih, ihesc⟩ := ih
    refine ⟨?_, ?_⟩
    · intro d
      rw [List.cons_append, Within]
      by_cases h1 : x = '\\' ∧ 0 < d
      · obtain ⟨rfl, hd⟩ := h1
        rw [if_pos ⟨rfl, hd⟩, ihesc d hd]
        refine ⟨?_, ?_⟩
        · rintro ⟨y, t, rfl, h⟩
          exact .escape hd h
        · intro h
          cases h with
          | escape _ h => exact ⟨_, _, rfl, h⟩
          | plain _ _ h0 _ _ => exact absurd (h0 rfl) (by omega)
      rw [if_neg h1]
      by_cases h2 : x = '('
      · subst h2
        rw [if_pos (by simp), ih]
        refine ⟨?_, ?_⟩
        · exact .opens
        · intro h
          cases h with
          | opens h => exact h
          | plain h0 => exact absurd rfl h0
      rw [if_neg (by simpa using h2)]
      by_cases h3 : x = ')'
      · subst h3
        rw [if_pos (by simp), ih]
        refine ⟨?_, ?_⟩
        · rintro ⟨hd, h⟩
          obtain ⟨e, rfl⟩ := Nat.exists_eq_succ_of_ne_zero (Nat.ne_of_gt hd)
          exact .closes h
        · intro h
          cases h with
          | closes h => exact ⟨Nat.succ_pos _, h⟩
          | plain _ h0 => exact absurd rfl h0
      rw [if_neg (by simpa using h3), ih]
      refine ⟨?_, ?_⟩
      · rintro ⟨hs, h⟩
        refine .plain h2 h3 (fun hx => ?_) hs h
        by_contra hd
        exact h1 ⟨hx, Nat.pos_of_ne_zero hd⟩
      · intro h
        cases h with
        | escape hd _ => exact absurd ⟨rfl, hd⟩ h1
        | opens _ => exact absurd rfl h2
        | closes _ => exact absurd rfl h3
        | plain _ _ _ hs h => exact ⟨hs, h⟩
    · intro d _
      rw [List.cons_append, Within, ih]
      simp

/-- The parts around the first parenthesis. -/
lemma cut_name {name r : List Char} (hname : '(' ∉ name) (hr : ∀ c ∈ r.head?, c = '(') :
    (name ++ r).takeWhile (· ≠ '(') = name ∧ (name ++ r).dropWhile (· ≠ '(') = r := by
  have hall : ∀ c ∈ name, decide (c ≠ '(') = true := by
    intro c hc
    simpa using fun h : c = '(' => hname (h ▸ hc)
  rw [List.takeWhile_append_of_pos hall, List.dropWhile_append_of_pos hall]
  cases r with
  | nil => simp
  | cons c r => simp [hr c (by simp)]

lemma parse_bare {name : List Char} (hname : '(' ∉ name) :
    Segment.parse (':' :: name) = Segment.checked (':' :: name) name none := by
  obtain ⟨ht, hd⟩ := cut_name hname (r := []) (by simp)
  rw [List.append_nil] at ht hd
  rw [Segment.parse]
  simp only [ht, hd]

lemma parse_constrained {name inner : List Char} (hname : '(' ∉ name) :
    Segment.parse (':' :: (name ++ '(' :: inner)) =
      if inner.getLast? = some ')' then
        Segment.checked (':' :: (name ++ '(' :: inner)) name (some inner.dropLast)
      else .error (.constraintNotLast (String.ofList (':' :: (name ++ '(' :: inner)))) := by
  obtain ⟨ht, hd⟩ := cut_name hname (r := '(' :: inner) (by simp)
  rw [Segment.parse]
  simp only [ht, hd]

lemma parse_literal {p : List Char} (h1 : p ≠ ['*']) (h2 : p.head? ≠ some ':') :
    Segment.parse p = .ok (.literal (String.ofList p)) := by
  unfold Segment.parse
  split
  · exact absurd rfl h1
  · exact absurd rfl h2
  · rfl

lemma checked_eq_ok_iff {part name : List Char} {constraint : Option (List Char)} {s : Segment} :
    Segment.checked part name constraint = .ok s ↔
      name ≠ [] ∧ ')' ∉ name ∧
        (∀ c ∈ constraint, c ≠ [] ∧ ∃ e, Regex.parse (String.ofList c) = .ok e) ∧
        s = .parameter (String.ofList name) (constraint.map String.ofList) := by
  unfold Segment.checked
  by_cases hname : name = [] ∨ ')' ∈ name
  · rw [if_pos (by simpa using hname)]
    refine ⟨?_, ?_⟩
    · intro h; cases h
    · rintro ⟨h1, h2, -⟩
      exact absurd hname (not_or.2 ⟨h1, h2⟩)
  rw [if_neg (by simpa using hname)]
  obtain ⟨h1, h2⟩ := not_or.1 hname
  cases constraint with
  | none => simp [h1, h2, eq_comm]
  | some c =>
    by_cases hc : c = []
    · simp [hc]
    · cases hp : Regex.parse (String.ofList c) with
      | ok e =>
        have hall : ∀ d ∈ some c, d ≠ [] ∧ ∃ e, Regex.parse (String.ofList d) = .ok e := by
          rintro d ⟨⟩
          exact ⟨hc, e, hp⟩
        simp only [List.isEmpty_iff, hc, if_false, hp, Except.ok.injEq]
        exact ⟨fun h => ⟨h1, h2, hall, h.symm⟩, fun h => h.2.2.2.symm⟩
      | error e => simp [hc, hp]

@[simp] lemma text_bare (name : String) :
    (Segment.parameter name none).text.toList = ':' :: name.toList := by
  simp [Segment.text]

@[simp] lemma text_constrained (name c : String) :
    (Segment.parameter name (some c)).text.toList =
      ':' :: (name.toList ++ '(' :: (c.toList ++ [')'])) := by
  simp [Segment.text]

lemma within_colon_iff {spec : List Char} :
    Within true 0 false (':' :: spec) ↔ Within true 0 false spec := by
  rw [Within, if_neg (by omega), if_neg (by simp), if_neg (by simp)]
  simp

lemma within_bare_iff {name : List Char} (hname : '(' ∉ name) :
    Within true 0 false (':' :: name) ↔ ∀ c ∈ name, c ≠ '/' ∧ c ≠ ')' := by
  have h := within_name_iff hname (r := [])
  rw [List.append_nil] at h
  rw [within_colon_iff, h]
  simp [Within]

lemma within_constrained_iff {name c : List Char} (hname : '(' ∉ name) :
    Within true 0 false (':' :: (name ++ '(' :: (c ++ [')']))) ↔
      (∀ x ∈ name, x ≠ '/' ∧ x ≠ ')') ∧ Balanced 1 c := by
  rw [within_colon_iff, within_name_iff hname, Within, if_neg (by omega), if_pos (by simp),
    (within_constraint_iff c).1]

/-- A text within one segment is read as a segment if and only if it is the written form of a
well-formed one. -/
lemma parse_sound {p : List Char} {s : Segment} (hne : p ≠ [])
    (hw : Within (beginsParameter p) 0 false p) (h : Segment.parse p = .ok s) :
    s.WellFormed ∧ s.text.toList = p := by
  by_cases hstar : p = ['*']
  · subst hstar
    cases h
    exact ⟨trivial, rfl⟩
  by_cases hcolon : p.head? = some ':'
  · obtain ⟨spec, rfl⟩ : ∃ spec, p = ':' :: spec := by
      cases p with
      | nil => simp at hcolon
      | cons c spec => exact ⟨spec, by simpa using hcolon⟩
    have hb : beginsParameter (':' :: spec) = true := rfl
    rw [hb] at hw
    by_cases hparen : '(' ∈ spec
    · obtain ⟨name, inner, rfl, hname⟩ := List.eq_append_cons_of_mem hparen
      rw [parse_constrained hname] at h
      split at h
      · rename_i hlast
        obtain ⟨c, rfl⟩ := List.getLast?_eq_some_iff.1 hlast
        rw [List.dropLast_concat] at h
        obtain ⟨h1, h2, h3, rfl⟩ := checked_eq_ok_iff.1 h
        obtain ⟨hn, hbal⟩ := (within_constrained_iff hname).1 hw
        obtain ⟨hc, he⟩ := h3 c rfl
        refine ⟨⟨by simpa using h1, ?_, ?_⟩, by simp⟩
        · intro x hx
          rw [String.toList_ofList] at hx
          exact ⟨(hn x hx).1, fun hx' => hname (hx' ▸ hx), (hn x hx).2⟩
        · rintro t ht
          cases ht
          exact ⟨by simpa using hc, he, by simpa using hbal⟩
      · cases h
    · rw [parse_bare hparen] at h
      obtain ⟨h1, h2, -, rfl⟩ := checked_eq_ok_iff.1 h
      have hn := (within_bare_iff hparen).1 hw
      refine ⟨⟨by simpa using h1, ?_, by simp⟩, by simp⟩
      intro x hx
      rw [String.toList_ofList] at hx
      exact ⟨(hn x hx).1, fun hx' => hparen (hx' ▸ hx), (hn x hx).2⟩
  · rw [parse_literal hstar hcolon] at h
    cases h
    have hb : beginsParameter p = false := by simpa [beginsParameter] using hcolon
    rw [hb, within_literal_iff] at hw
    refine ⟨⟨by simpa using hne, by simpa using hw, by simpa using hcolon, fun h => hstar ?_⟩,
      by simp [Segment.text]⟩
    rw [← String.toList_ofList (l := p), h]
    rfl

/-- The written form of a well-formed segment stays within one segment and is read back. -/
lemma parse_complete {s : Segment} (hs : s.WellFormed) :
    s.text.toList ≠ [] ∧ Within (beginsParameter s.text.toList) 0 false s.text.toList ∧
      Segment.parse s.text.toList = .ok s := by
  cases s with
  | literal t =>
    obtain ⟨h1, h2, h3, h4⟩ := hs
    have hb : beginsParameter t.toList = false := by simpa [beginsParameter] using h3
    have hstar : t.toList ≠ ['*'] := by
      intro h
      exact h4 (by rw [← String.ofList_toList (s := t), h])
    refine ⟨by simpa [Segment.text] using h1, ?_, ?_⟩
    · rw [Segment.text, hb, within_literal_iff]
      exact h2
    · rw [Segment.text, parse_literal hstar h3, String.ofList_toList]
  | parameter name constraint =>
    obtain ⟨h1, h2, h3⟩ := hs
    have hname : '(' ∉ name.toList := fun h => (h2 _ h).2.1 rfl
    have hclose : ')' ∉ name.toList := fun h => (h2 _ h).2.2 rfl
    have hn : ∀ x ∈ name.toList, x ≠ '/' ∧ x ≠ ')' := fun x hx => ⟨(h2 x hx).1, (h2 x hx).2.2⟩
    cases constraint with
    | none =>
      rw [text_bare]
      refine ⟨by simp, (within_bare_iff hname).2 hn, ?_⟩
      rw [parse_bare hname, checked_eq_ok_iff]
      exact ⟨by simpa using h1, hclose, by simp, by simp⟩
    | some c =>
      obtain ⟨hc, he, hbal⟩ := h3 c rfl
      rw [text_constrained]
      refine ⟨by simp, (within_constrained_iff hname).2 ⟨hn, hbal⟩, ?_⟩
      rw [parse_constrained hname, if_pos (by simp), List.dropLast_concat, checked_eq_ok_iff]
      exact ⟨by simpa using h1, hclose, by simpa using ⟨hc, he⟩, by simp⟩
  | wildcard => exact ⟨by decide, within_literal_iff.2 (by decide), rfl⟩

end AppLinks.Route
