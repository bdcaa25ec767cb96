import AppLinks.Proofs.Regex.Reading
import AppLinks.Proofs.Route.Grammar
import AppLinks.Proofs.Text.Percent
import AppLinks.Route.Matcher

/-!
The expressions that a pattern is made into.

The texts of the segments are read one after another. What a matcher searches with is the list of
what the segments write, with a slash between them and one around them that may be left out.
-/

namespace AppLinks.Route

open Regex Result

/-! ### The names of the groups -/

lemma groupName_toList (index : Nat) :
    (groupName index).toList = 'p' :: Nat.toDigits 10 index := by
  simp [groupName, toString]

lemma groupName_injective {i j : Nat} (h : groupName i = groupName j) : i = j := by
  have hdigits : Nat.toDigits 10 i = Nat.toDigits 10 j := by
    have hlist := congrArg String.toList h
    rw [groupName_toList, groupName_toList] at hlist
    exact (List.cons.inj hlist).2
  rw [← Nat.ofDigitChars_ten_toDigits (n := i), hdigits, Nat.ofDigitChars_ten_toDigits]

lemma groupName_ne_wildcardGroup (index : Nat) : groupName index ≠ wildcardGroup := by
  intro h
  have hlist := congrArg String.toList h
  rw [groupName_toList] at hlist
  simp [wildcardGroup] at hlist

/-- The name of the group of a segment. -/
def Segment.group? (index : Nat) : Segment → Option String
  | .literal _ => none
  | .parameter _ _ => some (groupName index)
  | .wildcard => some wildcardGroup

/-- The names of the groups of segments, of which the first one is at `index`. -/
def groupsFrom (index : Nat) : List Segment → List String
  | [] => []
  | s :: ss => (s.group? index).toList ++ groupsFrom (index + 1) ss

lemma mem_groupsFrom {index : Nat} {ss : List Segment} {n : String} (h : n ∈ groupsFrom index ss) :
    (n = wildcardGroup ∧ .wildcard ∈ ss) ∨ ∃ i, index ≤ i ∧ n = groupName i := by
  induction ss generalizing index with
  | nil => cases h
  | cons s ss ih =>
    rw [groupsFrom, List.mem_append] at h
    rcases h with h | h
    · cases s with
      | literal t => cases h
      | parameter name constraint =>
        exact Or.inr ⟨index, Nat.le_refl _, by simpa [Segment.group?] using h⟩
      | wildcard => exact Or.inl ⟨by simpa [Segment.group?] using h, by simp⟩
    · rcases ih h with ⟨h, hmem⟩ | ⟨i, hi, h⟩
      · exact Or.inl ⟨h, List.mem_cons_of_mem _ hmem⟩
      · exact Or.inr ⟨i, by omega, h⟩

/-- No two groups of a pattern have the same name. -/
lemma nodup_groupsFrom (index : Nat) {ss : List Segment} (hw : .wildcard ∉ ss.dropLast) :
    (groupsFrom index ss).Nodup := by
  induction ss generalizing index with
  | nil => exact .nil
  | cons s ss ih =>
    obtain ⟨hlast, hrest⟩ := wildcard_last_cons.1 hw
    rw [groupsFrom, List.nodup_append]
    refine ⟨by cases s.group? index <;> simp, ih (index + 1) hrest, ?_⟩
    rintro n hn m hm rfl
    cases s with
    | literal t => cases hn
    | parameter name constraint =>
      obtain rfl : n = groupName index := by simpa [Segment.group?] using hn
      rcases mem_groupsFrom hm with ⟨h, -⟩ | ⟨i, hi, h⟩
      · exact groupName_ne_wildcardGroup index h
      · have := groupName_injective h
        omega
    | wildcard =>
      rw [hlast rfl] at hm
      cases hm

/-! ### The expressions -/

/-- The expression of a component that a parameter stands for. -/
def componentExpr : Expr := .times (.char fun c => c ≠ '/') 1 none true

/-- The expression of the rest of a path. -/
def remainderExpr : Expr := .times (.char fun c => c ≠ '\n') 0 none true

def optionalSlash : Expr := .times (.char (.single '/')) 0 (some 1) true

/-- What a literal segment looks like in a path. -/
def literalForm (t : String) : List Char := Text.Percent.encode Text.Percent.path t.toList

/-- The expressions of a segment. -/
def Segment.exprs (index : Nat) : Segment → List Expr
  | .literal t => (literalForm t).map fun c => .char (.single c)
  | .parameter _ _ => [.capture (groupName index) componentExpr]
  | .wildcard => [.capture wildcardGroup remainderExpr]

/-- The expressions of segments, of which the first one is at `index`. -/
def exprsFrom (index : Nat) : List Segment → List Expr
  | [] => []
  | [s] => s.exprs index
  | s :: ss => s.exprs index ++ .char (.single '/') :: exprsFrom (index + 1) ss

/-- The end of a path. -/
def endExprs : List Expr := [optionalSlash, .look .textEnd]

/-- The expressions of a path that a pattern fits. -/
def pathExprs (ss : List Segment) : List Expr := optionalSlash :: (exprsFrom 0 ss ++ endExprs)

lemma ahead_segment (index : Nat) (s : Segment) : ∀ e ∈ s.exprs index, e.Ahead := by
  intro e he
  cases s with
  | literal t =>
    obtain ⟨c, -, rfl⟩ := List.mem_map.1 he
    trivial
  | parameter name constraint =>
    rw [List.mem_singleton.1 he]
    trivial
  | wildcard =>
    rw [List.mem_singleton.1 he]
    trivial

/-- What is true of a slash and of the expressions of each segment is true of all of them. -/
lemma forall_exprsFrom {P : Expr → Prop} (hslash : P (.char (.single '/')))
    (hsegment : ∀ index (s : Segment), ∀ e ∈ s.exprs index, P e) (index : Nat)
    (ss : List Segment) : ∀ e ∈ exprsFrom index ss, P e := by
  induction ss generalizing index with
  | nil => intro e he; cases he
  | cons s ss ih =>
    cases ss with
    | nil => exact hsegment index s
    | cons t ts =>
      intro e he
      rw [exprsFrom, List.mem_append, List.mem_cons] at he
      · rcases he with he | rfl | he
        · exact hsegment index s e he
        · exact hslash
        · exact ih (index + 1) e he
      · simp

lemma ahead_exprsFrom (index : Nat) (ss : List Segment) : ∀ e ∈ exprsFrom index ss, e.Ahead :=
  forall_exprsFrom trivial ahead_segment index ss

lemma ahead_endExprs : ∀ e ∈ endExprs, e.Ahead := by
  intro e he
  rcases List.mem_cons.1 he with rfl | he
  · trivial
  · rw [List.mem_singleton.1 he]
    rfl

lemma ahead_pathExprs (ss : List Segment) : ∀ e ∈ pathExprs ss, e.Ahead := by
  intro e he
  rcases List.mem_cons.1 he with rfl | he
  · trivial
  rcases List.mem_append.1 he with he | he
  · exact ahead_exprsFrom 0 ss e he
  · exact ahead_endExprs e he

/-- Nothing in the expression of a path nests deeply. -/
lemma height_pathExprs (ss : List Segment) : ∀ e ∈ pathExprs ss, e.height ≤ 4 := by
  have hsegment (index : Nat) (s : Segment) : ∀ e ∈ s.exprs index, e.height ≤ 4 := by
    cases s <;> simp [Segment.exprs, componentExpr, remainderExpr, Expr.height]
  have hexprs := forall_exprsFrom (by simp [Expr.height]) hsegment 0 ss
  have hend : ∀ e ∈ endExprs, e.height ≤ 4 := by simp [endExprs, optionalSlash, Expr.height]
  rw [pathExprs, List.forall_mem_cons, List.forall_mem_append]
  exact ⟨by simp [optionalSlash, Expr.height], hexprs, hend⟩

/-! ### The texts of the expressions -/

lemma literalForm_ne_nil {t : String} (ht : t ≠ "") : literalForm t ≠ [] :=
  Text.Percent.encode_ne_nil (by simpa using ht)

lemma writes_parameter (index : Nat) : Reader.Writes
    ("(?P<".toList ++ (groupName index).toList ++ ">[^/]+)".toList) [groupName index]
    [.capture (groupName index) componentExpr] := by
  have hdigit : ∀ d ∈ Nat.toDigits 10 index, Reader.isNameChar d false = true ∧ d ≠ '>' := by
    intro d hd
    have hd' := Nat.isDigit_of_mem_toDigits (by decide) (by decide) hd
    refine ⟨?_, by rintro rfl; cases hd'⟩
    simp [Reader.isNameChar, Unicode.Property.isAlphanumeric, hd']
  have h := Reader.writes_group (c := 'p') ⟨by decide, by decide⟩ hdigit Reader.writes_component
  rwa [← groupName_toList, String.ofList_toList] at h

lemma writes_wildcard : Reader.Writes
    ("(?P<".toList ++ wildcardGroup.toList ++ ">.*)".toList) [wildcardGroup]
    [.capture wildcardGroup remainderExpr] := by
  have hlist : wildcardGroup.toList = 'w' :: ['i', 'l', 'd', 'c', 'a', 'r', 'd'] := by decide
  have hall : ['i', 'l', 'd', 'c', 'a', 'r', 'd'].all
      (fun d => Reader.isNameChar d false && d != '>') = true := by decide
  have hname : ∀ d ∈ ['i', 'l', 'd', 'c', 'a', 'r', 'd'],
      Reader.isNameChar d false = true ∧ d ≠ '>' := fun d hd => by
    simpa only [Bool.and_eq_true, bne_iff_ne] using List.all_eq_true.1 hall d hd
  have h := Reader.writes_group (c := 'w') ⟨by decide, by decide⟩ hname Reader.writes_line
  rwa [← hlist, String.ofList_toList] at h

/-- The text of a segment is read as the expressions of the segment. -/
lemma writes_source {s : Segment} (hs : s.WellFormed) (index : Nat) :
    Reader.Writes (s.source index) (s.group? index).toList (s.exprs index) := by
  cases s with
  | literal t => exact Reader.writes_quote (literalForm_ne_nil hs.1)
  | parameter name constraint => exact writes_parameter index
  | wildcard => exact writes_wildcard

lemma writes_sourceFrom {ss : List Segment} (hss : ∀ s ∈ ss, s.WellFormed) (hne : ss ≠ [])
    (index : Nat) :
    Reader.Writes (sourceFrom index ss) (groupsFrom index ss) (exprsFrom index ss) := by
  induction ss generalizing index with
  | nil => exact absurd rfl hne
  | cons s ss ih =>
    have hs := writes_source (hss s (by simp)) index
    cases ss with
    | nil => simpa [groupsFrom, sourceFrom, exprsFrom] using hs
    | cons t ts =>
      have hslash := Reader.writes_char (c := '/') (by decide)
      have hrest := ih (fun s hs => hss s (List.mem_cons_of_mem _ hs)) (by simp) (index + 1)
      exact Reader.writes_append hs (Reader.writes_append hslash hrest)

lemma writes_path {ss : List Segment} (hss : ∀ s ∈ ss, s.WellFormed) (hne : ss ≠ []) :
    Reader.Writes ("/?".toList ++ sourceFrom 0 ss ++ "/?$".toList) (groupsFrom 0 ss)
      (pathExprs ss) := by
  have hend : Reader.Writes "/?$".toList [] endExprs :=
    Reader.writes_append Reader.writes_optionalSlash Reader.writes_dollar
  have h := Reader.writes_append
    (Reader.writes_append Reader.writes_optionalSlash (writes_sourceFrom hss hne 0)) hend
  simpa [pathExprs, optionalSlash] using h

/-! ### Matchers -/

/-- What a pattern is made into. -/
structure Compiled (m : Matcher) : Prop where
  wellFormed : WellFormed m.pattern.segments
  captures : capturesFrom 0 m.pattern.segments = .ok m.captures
  anchored : m.anchored = .concat (.look .textStart :: pathExprs m.pattern.segments)
  unanchored : m.unanchored = .concat (pathExprs m.pattern.segments)

/-- A matcher is made from the pattern that its text writes. -/
lemma parse_of_ofRoute {route : String} {m : Matcher} (h : Matcher.ofRoute route = .ok m) :
    Pattern.parse route = .ok m.pattern ∧ Matcher.compile m.pattern = .ok m := by
  obtain ⟨p, hp, hm⟩ := bind_eq_ok.1 h
  unfold Matcher.ofPattern at hm
  split at hm
  · rename_i m' hc
    cases hm
    have hpat : m.pattern = p := by
      obtain ⟨_, -, h⟩ := bind_eq_ok.1 hc
      obtain ⟨_, -, h⟩ := bind_eq_ok.1 h
      obtain ⟨_, -, h⟩ := bind_eq_ok.1 h
      rw [← pure_eq_ok.1 h]
    rw [hpat]
    exact ⟨hp, hc⟩
  · cases hm

lemma route_of_ofRoute {route : String} {m : Matcher} (h : Matcher.ofRoute route = .ok m) :
    m.route = route := (parse_eq_ok_iff.1 (parse_of_ofRoute h).1).1

/-- A matcher searches with the expressions of the segments of its pattern. -/
lemma compiled_of_ofRoute {route : String} {m : Matcher} (h : Matcher.ofRoute route = .ok m) :
    Compiled m := by
  obtain ⟨hp, hm⟩ := parse_of_ofRoute h
  have hwf := (parse_eq_ok_iff.1 hp).2.1
  obtain ⟨captures, hcap, hm⟩ := bind_eq_ok.1 hm
  obtain ⟨anchored, ha, hm⟩ := bind_eq_ok.1 hm
  obtain ⟨unanchored, hu, hm⟩ := bind_eq_ok.1 hm
  have hpath := writes_path hwf.each hwf.ne_nil
  have hnodup := nodup_groupsFrom 0 hwf.wildcard_last
  have hcaret := Reader.writes_append Reader.writes_caret hpath
  have ha' := Reader.parse_of_writes hcaret hnodup ha
  have hu' := Reader.parse_of_writes hpath hnodup hu
  have hm' := pure_eq_ok.1 hm
  refine ⟨hwf, ?_, ?_, ?_⟩
  · rw [hcap, ← hm']
  · rw [← hm']
    exact ha'
  · rw [← hm']
    exact hu'

end AppLinks.Route
