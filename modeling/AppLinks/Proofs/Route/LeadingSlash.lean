import AppLinks.Proofs.Route.Captures
import Mathlib.Data.List.Infix

/-!
A slash in front of a path does not count.

An expression of a path takes one slash in front, so no component begins there, and what a wildcard
by itself captures begins behind it. A match from anywhere is the first anchored one among the ends
of a path, and with a slash in front there is one more of them, which captures the same as the next.
-/

namespace AppLinks.Route

open Regex

/-! ### From the beginning -/

section Captured

variable {rest : List Char} {caps : List (String × List Char)}

/-- The first component of a path is not empty, unless a wildcard takes all of it. -/
lemma captured_rooted {ss : List Segment} (hwf : WellFormed ss) (hw : ss ≠ [.wildcard]) :
    captured (exprsFrom 0 ss ++ endExprs) ('/' :: rest) caps = none := by
  -- what follows the first segment begins at a slash or at the end
  have hfirst {es : List Expr} (hes : ∀ e ∈ es, e.Ahead) (hbreak : AtBreak es) {s : Segment}
      (hs : s.WellFormed) (hsw : s ≠ .wildcard) :
      captured (s.exprs 0 ++ es) ('/' :: rest) caps = none := by
    by_contra h
    obtain ⟨out, hout⟩ := Option.ne_none_iff_exists'.1 h
    obtain ⟨c, r, hc, hfit, hslash, -⟩ := (captured_segment hes hbreak hs hsw 0).1 hout
    obtain ⟨d, c, rfl⟩ := List.exists_cons_of_ne_nil (ne_nil_of_fits hs hsw hfit)
    exact hslash (by simp [← (List.cons.inj hc).1])
  obtain ⟨s, ss, rfl⟩ := List.exists_cons_of_ne_nil hwf.ne_nil
  have hs := hwf.each s (by simp)
  obtain ⟨hlast, -⟩ := wildcard_last_cons.1 hwf.wildcard_last
  have hsw : s ≠ .wildcard := fun h => hw (by rw [h, hlast h])
  by_cases hnil : ss = []
  · subst hnil
    exact hfirst ahead_endExprs atBreak_end hs hsw
  · have hahead : ∀ e ∈ exprsFrom 1 ss ++ endExprs, e.Ahead := by
      intro e he
      rcases List.mem_append.1 he with he | he
      · exact ahead_exprsFrom 1 ss e he
      · exact ahead_endExprs e he
    rw [exprsFrom_cons 0 s hnil, List.append_assoc, List.cons_append]
    refine hfirst ?_ (atBreak_slash hahead) hs hsw
    intro e he
    rcases List.mem_cons.1 he with rfl | he
    · trivial
    · exact hahead e he

/-- The slash in front is passed over by the expressions of a path. -/
lemma captured_leadingSlash {ss : List Segment} (hwf : WellFormed ss)
    (hrest : rest.head? ≠ some '/') :
    captured (pathExprs ss) ('/' :: rest) caps = captured (pathExprs ss) rest caps := by
  have hahead : ∀ e ∈ exprsFrom 0 ss ++ endExprs, e.Ahead :=
    fun e he => ahead_pathExprs ss e (List.mem_cons_of_mem _ he)
  have hskip : captured (.char (.single '/') :: (exprsFrom 0 ss ++ endExprs)) rest caps = none := by
    cases rest with
    | nil => rfl
    | cons c r => exact atBreak_slash hahead c r caps fun h => hrest (by rw [h]; rfl)
  rw [pathExprs, optionalSlash, captured_optional, captured_optional, hskip,
    captured_char_cons hahead, if_pos (single_slash.2 rfl)]
  cases hcap : captured (exprsFrom 0 ss ++ endExprs) rest caps with
  | some out => rfl
  | none =>
    dsimp only
    by_cases hw : ss = [.wildcard]
    · subst hw
      have hremainder : exprsFrom 0 [.wildcard] ++ endExprs =
          .capture wildcardGroup remainderExpr :: endExprs := rfl
      rw [hremainder] at hcap ⊢
      by_cases hline : '\n' ∈ rest
      · exact captured_remainder_of_line caps (List.mem_cons_of_mem _ hline)
      · rw [captured_remainder caps hline] at hcap
        cases hcap
    · exact captured_rooted hwf hw

end Captured

/-! ### From anywhere -/

/-- The first end of a text that leads somewhere. -/
lemma findSome?_tails {α : Type} {f : List Char → Option α} {text : List Char} {p : Nat} {a : α}
    (hp : p ≤ text.length) (ha : f (text.drop p) = some a)
    (hbefore : ∀ q < p, f (text.drop q) = none) : text.tails.findSome? f = some a := by
  induction text generalizing p with
  | nil => simpa using ha
  | cons c r ih =>
    rw [List.tails_cons, List.findSome?_cons]
    cases p with
    | zero =>
      rw [List.drop_zero] at ha
      rw [ha]
    | succ p =>
      have hfirst := hbefore 0 (Nat.succ_pos p)
      rw [List.drop_zero] at hfirst
      rw [hfirst]
      exact ih (by simpa using hp) ha fun q hq => hbefore (q + 1) (Nat.succ_lt_succ hq)

/-- A match from anywhere is the first anchored match of an end of the path. -/
lemma matchPath_unanchored {m : Matcher} (hm : Compiled m) (path : List Char) :
    m.matchPath path false = path.tails.findSome? (m.matchPath · true) := by
  have hspec := matchFrom_spec hm path 0
  rw [← Matcher.matchPath] at hspec
  cases hres : m.matchPath path false with
  | none =>
    rw [hres] at hspec
    refine (List.findSome?_eq_none_iff.2 fun t ht => ?_).symm
    rw [List.suffix_iff_eq_drop.1 ((List.mem_tails _ _).1 ht)]
    exact hspec _ (Nat.zero_le _) (Nat.sub_le _ _)
  | some params =>
    rw [hres] at hspec
    obtain ⟨p, hp, -, hparams, hbefore⟩ := hspec
    exact (findSome?_tails hp hparams fun q => hbefore q (Nat.zero_le _)).symm

/-- A slash in front of a path does not count, wherever matches have to begin. -/
lemma matchPath_leadingSlash {m : Matcher} (hm : Compiled m) {path : List Char}
    (hpath : path.head? ≠ some '/') (anchored : Bool) :
    m.matchPath ('/' :: path) anchored = m.matchPath path anchored := by
  have hanchored : m.matchPath ('/' :: path) true = m.matchPath path true := by
    rw [matchPath_anchored hm, matchPath_anchored hm, captured_leadingSlash hm.wellFormed hpath]
  cases anchored with
  | true => exact hanchored
  | false =>
    obtain ⟨ends, hends⟩ : ∃ ends, path.tails = path :: ends := by
      cases path with
      | nil => exact ⟨[], rfl⟩
      | cons c r => exact ⟨r.tails, List.tails_cons c r⟩
    rw [matchPath_unanchored hm, matchPath_unanchored hm, List.tails_cons, hends,
      List.findSome?_cons, List.findSome?_cons, hanchored]
    cases m.matchPath path true <;> rfl

end AppLinks.Route
