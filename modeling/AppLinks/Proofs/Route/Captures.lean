import AppLinks.Proofs.Regex.Anchor
import AppLinks.Proofs.Route.Leftmost
import Mathlib.Data.List.Nodup

/-!
What the groups of a route capture when a match begins where the path begins.

Where a literal or a component ends is forced by the slash behind it, and the rest of a path, which
a wildcard takes, ends where the path does. So the search has no choice: a path is matched exactly
if its components cover it, and each group captures its component.
-/

namespace AppLinks.Route

open Regex Result

/-- Whether the expressions of a segment match a component. -/
def Segment.Fits : Segment → List Char → Prop
  | .literal t, c => c = literalForm t
  | .parameter _ _, c => c ≠ []
  | .wildcard, _ => True

/-- The captures of segments, of which the first one is at `index`, from their components. -/
def capturesOf (index : Nat) : List Segment → List (List Char) → List (String × List Char)
  | s :: ss, c :: cs => ((s.group? index).map (·, c)).toList ++ capturesOf (index + 1) ss cs
  | _, _ => []

/-- A path without a slash in front, and what each segment takes of it. -/
inductive Covers : List Segment → List Char → List (List Char) → Prop where
  | last {s : Segment} {c e : List Char} : s ≠ .wildcard → s.Fits c → '/' ∉ c →
      e = [] ∨ e = ['/'] → Covers [s] (c ++ e) [c]
  | remainder {r : List Char} : Covers [.wildcard] r [r]
  | cons {s : Segment} {ss : List Segment} {c r : List Char} {cs : List (List Char)} :
      s ≠ .wildcard → ss ≠ [] → s.Fits c → '/' ∉ c → Covers ss r cs →
      Covers (s :: ss) (c ++ '/' :: r) (c :: cs)

/-- A wildcard by itself takes all of a path. -/
lemma covers_wildcard_iff {p : List Char} {cs : List (List Char)} :
    Covers [.wildcard] p cs ↔ cs = [p] := by
  refine ⟨fun h => ?_, fun h => h ▸ .remainder⟩
  cases h with
  | last hw => exact absurd rfl hw
  | remainder => rfl
  | cons _ hne => exact absurd rfl hne

/-- What a wildcard takes is within one line; a component may have line feeds. -/
def Segment.OnLine : Segment → List Char → Prop
  | .wildcard, r => '\n' ∉ r
  | _, _ => True

lemma Segment.onLine_of_ne {s : Segment} (hw : s ≠ .wildcard) (c : List Char) : s.OnLine c := by
  cases s with
  | literal | parameter => trivial
  | wildcard => exact absurd rfl hw

lemma Covers.onLine {ss : List Segment} {p : List Char} {cs : List (List Char)}
    (h : Covers ss p cs) (hline : '\n' ∉ p) : List.Forall₂ Segment.OnLine ss cs := by
  induction h with
  | last hw => exact .cons (Segment.onLine_of_ne hw _) .nil
  | remainder => exact .cons hline .nil
  | cons hw _ _ _ _ ih =>
    exact .cons (Segment.onLine_of_ne hw _) (ih fun h => hline (by simp [h]))

section Captured

variable {es : List Expr} {rest : List Char} {caps out : List (String × List Char)}

/-- Expressions that can only begin at a slash or at the end. -/
def AtBreak (es : List Expr) : Prop :=
  ∀ c r caps, c ≠ '/' → captured es (c :: r) caps = none

lemma single_slash {c : Char} : CharSet.single '/' c = true ↔ c = '/' := by
  simp [CharSet.single]

lemma captured_slash (hes : ∀ e ∈ es, e.Ahead) :
    captured (.char (.single '/') :: es) rest caps = some out ↔
      ∃ r, rest = '/' :: r ∧ captured es r caps = some out := by
  cases rest with
  | nil => simp [captured_char_nil]
  | cons c r =>
    rw [captured_char_cons hes]
    by_cases hc : c = '/'
    · subst hc
      rw [if_pos (single_slash.2 rfl)]
      simp
    · rw [if_neg fun h => hc (single_slash.1 h)]
      simp [hc]

lemma captured_end : captured endExprs rest caps = some out ↔
    (rest = [] ∨ rest = ['/']) ∧ out = caps := by
  have htext (r : List Char) (out : List (String × List Char)) :
      captured [.look .textEnd] r caps = some out ↔ r = [] ∧ out = caps := by
    rw [captured_textEnd]
    by_cases hr : r = [] <;> simp [hr, eq_comm]
  have hslash (out : List (String × List Char)) :
      captured [.char (.single '/'), .look .textEnd] rest caps = some out ↔
        rest = ['/'] ∧ out = caps := by
    rw [captured_slash (by simp [Expr.Ahead])]
    simp only [htext]
    refine ⟨?_, ?_⟩
    · rintro ⟨r, rfl, rfl, h⟩
      exact ⟨rfl, h⟩
    · rintro ⟨rfl, h⟩
      exact ⟨[], rfl, rfl, h⟩
  rw [endExprs, optionalSlash, captured_optional]
  cases h : captured [.char (.single '/'), .look .textEnd] rest caps with
  | some caps' =>
    obtain ⟨rfl, rfl⟩ := (hslash caps').1 h
    simp [eq_comm]
  | none =>
    have hne : rest ≠ ['/'] := by
      rintro rfl
      rw [(hslash caps).2 ⟨rfl, rfl⟩] at h
      cases h
    simp only [htext, hne, or_false]

lemma atBreak_end : AtBreak endExprs := by
  intro c r caps hc
  by_contra h
  obtain ⟨out, hout⟩ := Option.ne_none_iff_exists'.1 h
  obtain ⟨h | h, -⟩ := captured_end.1 hout
  · cases h
  · exact hc (List.cons.inj h).1

lemma atBreak_slash (hes : ∀ e ∈ es, e.Ahead) : AtBreak (.char (.single '/') :: es) := by
  intro c r caps hc
  rw [captured_char_cons hes, if_neg fun h => hc (single_slash.1 h)]

lemma captured_literal (hes : ∀ e ∈ es, e.Ahead) {w : List Char} :
    captured ((w.map fun c => .char (.single c)) ++ es) rest caps = some out ↔
      ∃ r, rest = w ++ r ∧ captured es r caps = some out := by
  induction w generalizing rest with
  | nil => simp
  | cons c w ih =>
    rw [List.map_cons, List.cons_append]
    cases rest with
    | nil => simp [captured_char_nil]
    | cons d r =>
      rw [captured_char_cons]
      · by_cases hd : d = c
        · subst hd
          have hset : CharSet.single d d = true := by simp [CharSet.single]
          rw [if_pos hset, ih]
          simp
        · have hset : ¬ CharSet.single c d = true := by simpa [CharSet.single] using hd
          rw [if_neg hset]
          simp [hd]
      · intro e he
        rcases List.mem_append.1 he with he | he
        · obtain ⟨c, -, rfl⟩ := List.mem_map.1 he
          trivial
        · exact hes e he

lemma slash_not_mem_literalForm {t : String} (ht : '/' ∉ t.toList) : '/' ∉ literalForm t := by
  rw [literalForm, Text.Percent.mem_encode_iff (by decide) (by decide)]
  exact fun h => ht h.1

lemma captured_component (hes : ∀ e ∈ es, e.Ahead) (hbreak : AtBreak es) {name : String} :
    captured (.capture name componentExpr :: es) rest caps = some out ↔
      ∃ c r, rest = c ++ r ∧ c ≠ [] ∧ '/' ∉ c ∧ captured es r ((name, c) :: caps) = some out := by
  have hnext : ∀ (c : Char) (r : List Char) (caps), decide (c ≠ '/') = true →
      captured es (c :: r) caps = none := fun c r caps hc => hbreak c r caps (by simpa using hc)
  refine ⟨?_, ?_⟩
  · intro h
    obtain ⟨c, r, rfl, hc, hr⟩ : ∃ c r, rest = c ++ r ∧ (∀ d ∈ c, decide (d ≠ '/') = true) ∧
        ∀ d ∈ r.head?, decide (d ≠ '/') = false := by
      refine ⟨rest.takeWhile (· ≠ '/'), rest.dropWhile (· ≠ '/'),
        List.takeWhile_append_dropWhile.symm, fun d => List.mem_takeWhile_imp, fun d hd => ?_⟩
      have hhead := List.head?_dropWhile_not (· ≠ '/') rest
      rwa [Option.mem_def.1 hd] at hhead
    rw [componentExpr, captured_plus hes hnext hc hr] at h
    split at h
    · cases h
    · rename_i hne
      exact ⟨c, r, rfl, hne, fun hmem => by simpa using hc _ hmem, h⟩
  · rintro ⟨c, r, rfl, hc, hslash, h⟩
    rw [componentExpr, captured_plus hes hnext, if_neg hc, h]
    · intro d hd
      simpa using fun h : d = '/' => hslash (h ▸ hd)
    · intro d hd
      cases r with
      | nil => cases hd
      | cons d' r =>
        cases hd
        by_contra hne
        rw [hbreak d r _ (by simpa using hne)] at h
        cases h

/-- The expressions of a segment take a component, if what comes next can only begin at a slash or
at the end. -/
lemma captured_segment (hes : ∀ e ∈ es, e.Ahead) (hbreak : AtBreak es) {s : Segment}
    (hs : s.WellFormed) (hw : s ≠ .wildcard) (index : Nat) :
    captured (s.exprs index ++ es) rest caps = some out ↔
      ∃ c r, rest = c ++ r ∧ s.Fits c ∧ '/' ∉ c ∧
        captured es r (((s.group? index).map (·, c)).toList ++ caps) = some out := by
  cases s with
  | literal t =>
    have hform : '/' ∉ literalForm t := slash_not_mem_literalForm hs.2.1
    simp only [Segment.exprs, captured_literal hes]
    refine ⟨?_, ?_⟩
    · rintro ⟨r, rfl, h⟩
      exact ⟨_, r, rfl, rfl, hform, h⟩
    · rintro ⟨c, r, rfl, rfl, -, h⟩
      exact ⟨r, rfl, h⟩
  | parameter name constraint => exact captured_component hes hbreak
  | wildcard => exact absurd rfl hw

lemma capturesOf_cons (index : Nat) (s : Segment) (ss : List Segment) (c : List Char)
    (cs : List (List Char)) (caps : List (String × List Char)) :
    (capturesOf index (s :: ss) (c :: cs)).reverse ++ caps =
      (capturesOf (index + 1) ss cs).reverse ++
        (((s.group? index).map (·, c)).toList ++ caps) := by
  rw [capturesOf, List.reverse_append, List.append_assoc]
  cases s.group? index <;> rfl

lemma captured_remainder (caps : List (String × List Char)) (hline : '\n' ∉ rest) :
    captured (.capture wildcardGroup remainderExpr :: endExprs) rest caps =
      some ((wildcardGroup, rest) :: caps) := by
  have hend : captured endExprs [] ((wildcardGroup, rest) :: caps) =
      some ((wildcardGroup, rest) :: caps) := captured_end.2 ⟨Or.inl rfl, rfl⟩
  rw [remainderExpr, captured_star ahead_endExprs, hend]
  · intro c hc
    simpa using fun h : c = '\n' => hline (h ▸ hc)
  · rw [hend]
    rfl

/-- The rest of a path does not go past the end of a line. -/
lemma captured_remainder_of_line (caps : List (String × List Char)) (hline : '\n' ∈ rest) :
    captured (.capture wildcardGroup remainderExpr :: endExprs) rest caps = none := by
  have hend {n : Nat} (hn : n ≤ (rest.takeWhile fun c => c ≠ '\n').length)
      (caps : List (String × List Char)) : captured endExprs (rest.drop n) caps = none := by
    have hmem : '\n' ∈ rest.drop n := by
      rw [← List.take_append_drop n rest, List.mem_append] at hline
      refine hline.resolve_left fun h => ?_
      have hinit : rest.take n <+: rest.takeWhile fun c => c ≠ '\n' :=
        List.prefix_of_prefix_length_le (List.take_prefix n rest) (List.takeWhile_prefix _)
          (by rw [List.length_take]; omega)
      simpa using List.mem_takeWhile_imp (hinit.subset h)
    by_contra h
    obtain ⟨out, hout⟩ := Option.ne_none_iff_exists'.1 h
    rcases (captured_end.1 hout).1 with h | h
    · simp [h] at hmem
    · simp [h] at hmem
  have hlen := (List.takeWhile_prefix (l := rest) fun c => c ≠ '\n').length_le
  have hkeep {n : Nat} (hn : n ≤ (rest.takeWhile fun c => c ≠ '\n').length) :=
    (findAll_keep ahead_endExprs caps wildcardGroup (Nat.le_trans hn hlen)).trans (hend hn _)
  rw [remainderExpr, captured, findAll, Expr.find, find_star]
  · exact hkeep (Nat.le_refl _)
  · exact fun n hn => .inl (hkeep (Nat.le_of_lt hn))

lemma exprsFrom_cons (index : Nat) (s : Segment) {ss : List Segment} (hss : ss ≠ []) :
    exprsFrom index (s :: ss) =
      s.exprs index ++ .char (.single '/') :: exprsFrom (index + 1) ss := by
  obtain ⟨t, ts, rfl⟩ := List.exists_cons_of_ne_nil hss
  rfl

/-- What the expressions of segments capture from a path without a slash in front. -/
lemma captured_iff_covers {ss : List Segment} (hne : ss ≠ []) (hss : ∀ s ∈ ss, s.WellFormed)
    (hlast : .wildcard ∉ ss.dropLast) (index : Nat) :
    captured (exprsFrom index ss ++ endExprs) rest caps = some out ↔
      ∃ cs, Covers ss rest cs ∧ List.Forall₂ Segment.OnLine ss cs ∧
        out = (capturesOf index ss cs).reverse ++ caps := by
  induction ss generalizing index rest caps with
  | nil => exact absurd rfl hne
  | cons s ss ih =>
    have hs := hss s (by simp)
    obtain ⟨hwild, hlast'⟩ := wildcard_last_cons.1 hlast
    by_cases hnil : ss = []
    · subst hnil
      by_cases hw : s = .wildcard
      · subst hw
        rw [exprsFrom, Segment.exprs, List.singleton_append]
        by_cases hline : '\n' ∈ rest
        · rw [captured_remainder_of_line caps hline]
          refine ⟨fun h => (by cases h), ?_⟩
          rintro ⟨cs, hc, hon, -⟩
          obtain rfl := covers_wildcard_iff.1 hc
          exact absurd hline (List.forall₂_cons.1 hon).1
        · rw [captured_remainder caps hline, Option.some_inj]
          refine ⟨?_, ?_⟩
          · rintro rfl
            exact ⟨[rest], .remainder, .cons hline .nil, by rw [capturesOf_cons]; rfl⟩
          · rintro ⟨cs, hc, -, rfl⟩
            obtain rfl := covers_wildcard_iff.1 hc
            rw [capturesOf_cons]
            rfl
      · rw [exprsFrom, captured_segment ahead_endExprs atBreak_end hs hw]
        simp only [captured_end]
        refine ⟨?_, ?_⟩
        · rintro ⟨c, r, rfl, hfit, hslash, hr, rfl⟩
          exact ⟨[c], .last hw hfit hslash hr, .cons (Segment.onLine_of_ne hw c) .nil,
            by rw [capturesOf_cons]; rfl⟩
        · rintro ⟨cs, hc, -, rfl⟩
          cases hc with
          | last _ hfit hslash he =>
            exact ⟨_, _, rfl, hfit, hslash, he, by rw [capturesOf_cons]; rfl⟩
          | remainder => exact absurd rfl hw
          | cons _ h => exact absurd rfl h
    · have hw : s ≠ .wildcard := fun h => hnil (hwild h)
      have hahead : ∀ e ∈ exprsFrom (index + 1) ss ++ endExprs, e.Ahead := by
        intro e he
        rcases List.mem_append.1 he with he | he
        · exact ahead_exprsFrom _ ss e he
        · exact ahead_endExprs e he
      have hahead' : ∀ e ∈ .char (.single '/') :: (exprsFrom (index + 1) ss ++ endExprs),
          e.Ahead := by
        intro e he
        rcases List.mem_cons.1 he with rfl | he
        · trivial
        · exact hahead e he
      have ih' {r : List Char} {caps : List (String × List Char)} :
          captured (exprsFrom (index + 1) ss ++ endExprs) r caps = some out ↔
            ∃ cs, Covers ss r cs ∧ List.Forall₂ Segment.OnLine ss cs ∧
              out = (capturesOf (index + 1) ss cs).reverse ++ caps :=
        ih hnil (fun t ht => hss t (List.mem_cons_of_mem _ ht)) hlast' (index + 1)
      rw [exprsFrom_cons index s hnil, List.append_assoc, List.cons_append,
        captured_segment hahead' (atBreak_slash hahead) hs hw]
      simp only [captured_slash hahead, ih']
      refine ⟨?_, ?_⟩
      · rintro ⟨c, _, rfl, hfit, hslash, r, rfl, cs, hcs, hon, rfl⟩
        exact ⟨c :: cs, .cons hw hnil hfit hslash hcs, .cons (Segment.onLine_of_ne hw c) hon,
          by rw [capturesOf_cons]⟩
      · rintro ⟨cs, hc, hon, rfl⟩
        cases hc with
        | last => exact absurd rfl hnil
        | remainder => exact absurd rfl hnil
        | @cons _ _ c r cs _ _ hfit hslash hcs =>
          exact ⟨c, _, rfl, hfit, hslash, r, rfl, cs, hcs, (List.forall₂_cons.1 hon).2,
            by rw [capturesOf_cons]⟩

/-- No component that a segment asks for is empty, but for what a wildcard takes. -/
lemma ne_nil_of_fits {s : Segment} (hs : s.WellFormed) (hw : s ≠ .wildcard) {c : List Char}
    (hc : s.Fits c) : c ≠ [] := by
  cases s with
  | literal t =>
    obtain rfl : c = literalForm t := hc
    exact literalForm_ne_nil hs.1
  | parameter name constraint => exact hc
  | wildcard => exact absurd rfl hw

/-- Only a wildcard by itself takes a slash in front. -/
lemma covers_slash {ss : List Segment} {p r : List Char} {cs : List (List Char)}
    (h : Covers ss p cs) (hp : p = '/' :: r) (hss : ∀ s ∈ ss, s.WellFormed) : ss = [.wildcard] := by
  have hempty {s : Segment} {c e : List Char} (hs : s.WellFormed) (hw : s ≠ .wildcard)
      (hfit : s.Fits c) (hslash : '/' ∉ c) (hp : c ++ e = '/' :: r) : False := by
    obtain ⟨d, c, rfl⟩ := List.exists_cons_of_ne_nil (ne_nil_of_fits hs hw hfit)
    rw [List.cons_append] at hp
    exact hslash (by simp [(List.cons.inj hp).1])
  cases h with
  | last hw hfit hslash => exact (hempty (hss _ (by simp)) hw hfit hslash hp).elim
  | remainder => rfl
  | cons hw _ hfit hslash => exact (hempty (hss _ (by simp)) hw hfit hslash hp).elim

/-- Only a wildcard by itself is content with nothing. -/
lemma covers_nil {ss : List Segment} {p : List Char} {cs : List (List Char)}
    (h : Covers ss p cs) (hp : p = []) (hss : ∀ s ∈ ss, s.WellFormed) : ss = [.wildcard] := by
  cases h with
  | last hw hfit =>
    exact absurd (List.append_eq_nil_iff.1 hp).1 (ne_nil_of_fits (hss _ (by simp)) hw hfit)
  | remainder => rfl
  | cons => simp at hp

/-- What the expressions of a path capture. The slash in front is always taken if there is one. -/
lemma captured_path {ss : List Segment} (hwf : WellFormed ss) {path : List Char} :
    captured (pathExprs ss) path [] = some out ↔
      ∃ cs, Covers ss (dropLeadingSlash path) cs ∧ List.Forall₂ Segment.OnLine ss cs ∧
        out = (capturesOf 0 ss cs).reverse := by
  have hahead : ∀ e ∈ exprsFrom 0 ss ++ endExprs, e.Ahead :=
    fun e he => ahead_pathExprs ss e (List.mem_cons_of_mem _ he)
  have hcovers {rest : List Char} (out : List (String × List Char)) :
      captured (exprsFrom 0 ss ++ endExprs) rest [] = some out ↔
        ∃ cs, Covers ss rest cs ∧ List.Forall₂ Segment.OnLine ss cs ∧
          out = (capturesOf 0 ss cs).reverse := by
    have h : captured (exprsFrom 0 ss ++ endExprs) rest [] = some out ↔
        ∃ cs, Covers ss rest cs ∧ List.Forall₂ Segment.OnLine ss cs ∧
          out = (capturesOf 0 ss cs).reverse ++ [] :=
      captured_iff_covers hwf.ne_nil hwf.each hwf.wildcard_last 0
    simpa only [List.append_nil] using h
  rw [pathExprs, optionalSlash, captured_optional]
  by_cases hhead : ∃ r, path = '/' :: r
  · obtain ⟨r, rfl⟩ := hhead
    rw [captured_char_cons hahead, if_pos (single_slash.2 rfl)]
    have hdrop : dropLeadingSlash ('/' :: r) = r := rfl
    rw [hdrop, ← hcovers]
    cases h : captured (exprsFrom 0 ss ++ endExprs) r [] with
    | some out' => rfl
    | none =>
      -- without the slash taken, the first component would be empty
      have hnone : captured (exprsFrom 0 ss ++ endExprs) ('/' :: r) [] = none := by
        by_contra hsome
        obtain ⟨out', hout'⟩ := Option.ne_none_iff_exists'.1 hsome
        obtain ⟨cs, hcs, hon, -⟩ := (hcovers out').1 hout'
        obtain rfl := covers_slash hcs rfl hwf.each
        obtain rfl := covers_wildcard_iff.1 hcs
        have hr : '\n' ∉ r := fun h => (List.forall₂_cons.1 hon).1 (List.mem_cons_of_mem _ h)
        rw [(hcovers _).2 ⟨[r], .remainder, .cons hr .nil, rfl⟩] at h
        cases h
      rw [hnone]
  · have hdrop : dropLeadingSlash path = path :=
      dropLeadingSlash_of_head? fun h => hhead (List.head?_eq_some_iff.1 h)
    have hnone : captured (.char (.single '/') :: (exprsFrom 0 ss ++ endExprs)) path [] = none := by
      by_contra hsome
      obtain ⟨out', hout'⟩ := Option.ne_none_iff_exists'.1 hsome
      obtain ⟨r, rfl, -⟩ := (captured_slash hahead).1 hout'
      exact hhead ⟨r, rfl⟩
    rw [hnone, hdrop]
    exact hcovers out

end Captured

end AppLinks.Route
