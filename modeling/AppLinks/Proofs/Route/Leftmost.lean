import AppLinks.Proofs.Route.Expressions

/-!
Matching from anywhere finds the first place where the rest of the path matches from its beginning.

The two expressions of a matcher differ in the condition at the start alone, and what is behind
that condition does not look back. So at each place both capture the same, and the search passes
over a place only if the rest of the path from there on does not match.
-/

namespace AppLinks.Route

open Regex

/-! ### Searches -/

/-- What a match captures, where expressions do not look back. -/
lemma captures_of_matchAt {es : List Expr} (hes : ∀ e ∈ es, e.Ahead) (s : Spot) :
    ((Expr.concat es).matchAt s).map (fun m => m.2.captures) = captured es s.rest s.captures := by
  have hmap := find_map (fun t : Spot => t.captures) (Expr.concat es) s some
  rw [Expr.matchAt, Option.map_map]
  refine hmap.trans ?_
  rw [find_concat]
  exact findAll_captures hes s

/-- What a search finds is the first place where something is captured. -/
lemma search_spec {es : List Expr} (hes : ∀ e ∈ es, e.Ahead) (rest : List Char) (pos : Nat)
    (b : Option Char) :
    match (Expr.concat es).search pos b rest with
    | none => ∀ i ≤ rest.length, captured es (rest.drop i) [] = none
    | some (s, t) => ∃ i ≤ rest.length, s.pos = pos + i ∧
        captured es (rest.drop i) [] = some t.captures ∧
        ∀ j < i, captured es (rest.drop j) [] = none := by
  induction rest generalizing pos b with
  | nil =>
    have hcap := captures_of_matchAt hes { pos, before := b, rest := [] }
    rw [Expr.search]
    cases hm : (Expr.concat es).matchAt { pos, before := b, rest := [] } with
    | none =>
      rw [hm] at hcap
      intro i _
      simpa using hcap.symm
    | some m =>
      rw [hm] at hcap
      have hfst := Expr.fst_of_matchAt hm
      refine ⟨0, Nat.le_refl _, by rw [hfst]; rfl, ?_, by simp⟩
      simpa using hcap.symm
  | cons c r ih =>
    have hcap := captures_of_matchAt hes { pos, before := b, rest := c :: r }
    rw [Expr.search]
    cases hm : (Expr.concat es).matchAt { pos, before := b, rest := c :: r } with
    | some m =>
      rw [hm] at hcap
      have hfst := Expr.fst_of_matchAt hm
      refine ⟨0, Nat.zero_le _, by rw [hfst]; rfl, ?_, by simp⟩
      simpa using hcap.symm
    | none =>
      rw [hm] at hcap
      have hhere : captured es (c :: r) [] = none := hcap.symm
      have hlater := ih (pos + 1) (some c)
      dsimp only
      cases hs : (Expr.concat es).search (pos + 1) (some c) r with
      | none =>
        rw [hs] at hlater
        rintro (_ | i) hi
        · exact hhere
        · exact hlater i (by simpa using hi)
      | some m =>
        rw [hs] at hlater
        obtain ⟨i, hi, hpos, hi', hbefore⟩ := hlater
        refine ⟨i + 1, by simpa using hi, by rw [hpos]; omega, hi', ?_⟩
        rintro (_ | j) hj
        · exact hhere
        · exact hbefore j (by omega)

/-- An anchored search looks at the first place alone. -/
lemma search_anchored (es : List Expr) (hne : es ≠ []) (hes : ∀ e ∈ es, e.Ahead)
    (rest : List Char) :
    ((Expr.concat (.look .textStart :: es)).search 0 none rest).map (fun m => m.2.captures) =
      captured es rest [] := by
  have hconcat : Expr.concat (.look .textStart :: es) = .seq (.look .textStart) (.concat es) := by
    obtain ⟨e, es, rfl⟩ := List.exists_cons_of_ne_nil hne
    rfl
  have hlater (pos : Nat) (c : Char) (rest : List Char) :
      (Expr.concat (.look .textStart :: es)).search pos (some c) rest = none := by
    rw [hconcat]
    induction rest generalizing pos c with
    | nil => rfl
    | cons d r ih => exact ih (pos + 1) d
  have hfirst (rest : List Char) :
      (Expr.concat (.look .textStart :: es)).matchAt { pos := 0, before := none, rest } =
        (Expr.concat es).matchAt { pos := 0, before := none, rest } := by
    rw [hconcat]
    rfl
  have hcap := captures_of_matchAt hes { pos := 0, before := none, rest }
  rw [← hfirst] at hcap
  cases rest with
  | nil => exact hcap
  | cons c r =>
    rw [Expr.search]
    cases hm : (Expr.concat (.look .textStart :: es)).matchAt
        { pos := 0, before := none, rest := c :: r } with
    | some m =>
      rw [hm] at hcap
      exact hcap
    | none =>
      rw [hm] at hcap
      dsimp only
      rw [hlater]
      exact hcap

/-! ### Matchers -/

lemma matchPath_anchored {m : Matcher} (hm : Compiled m) (path : List Char) :
    m.matchPath path true =
      (captured (pathExprs m.pattern.segments) path []).bind (extract · .empty m.captures) := by
  have hs := search_anchored (pathExprs m.pattern.segments) (by simp [pathExprs])
    (ahead_pathExprs _) path
  rw [← hm.anchored] at hs
  rw [← hs, Matcher.matchPath, Matcher.matchFrom, if_pos (Nat.zero_le _)]
  simp only [if_true]
  have hat : m.anchored.searchAt path 0 = m.anchored.search 0 none path := rfl
  split
  · rename_i h
    rw [if_pos rfl] at h
    rw [← hat, h]
    rfl
  · rename_i s t h
    rw [if_pos rfl] at h
    rw [← hat, h]
    dsimp only [Option.map, Option.bind]
    cases extract t.captures .empty m.captures <;> rfl

/-- One round of looking for a match from anywhere. -/
lemma matchFrom_unanchored (m : Matcher) (path : List Char) {start : Nat}
    (hstart : start ≤ path.length) :
    m.matchFrom path false start = match m.unanchored.searchAt path start with
      | none => none
      | some (s, t) => (extract t.captures .empty m.captures).or
          (m.matchFrom path false (s.pos + 1)) := by
  rw [Matcher.matchFrom, if_pos hstart]
  split
  · rename_i h
    rw [if_neg Bool.false_ne_true] at h
    rw [h]
  · rename_i s t h
    rw [if_neg Bool.false_ne_true] at h
    rw [h]
    dsimp only
    cases extract t.captures .empty m.captures <;> rfl

/-- A match from anywhere, looked for from a position on, is the first anchored one. -/
lemma matchFrom_spec {m : Matcher} (hm : Compiled m) (path : List Char) (start : Nat) :
    match m.matchFrom path false start with
    | none => ∀ p, start ≤ p → p ≤ path.length → m.matchPath (path.drop p) true = none
    | some params => ∃ p ≤ path.length, start ≤ p ∧
        m.matchPath (path.drop p) true = some params ∧
        ∀ q, start ≤ q → q < p → m.matchPath (path.drop q) true = none := by
  induction hn : path.length + 1 - start using Nat.strong_induction_on generalizing start with
  | _ n ih =>
    by_cases hstart : start ≤ path.length
    swap
    · rw [Matcher.matchFrom, if_neg hstart]
      intro p hp hp'
      omega
    have hanchored (p : Nat) : m.matchPath (path.drop p) true =
        (captured (pathExprs m.pattern.segments) (path.drop p) []).bind
          (extract · .empty m.captures) := matchPath_anchored hm _
    have hsearch := search_spec (ahead_pathExprs m.pattern.segments) (path.drop start) start
      (before path start)
    rw [← hm.unanchored] at hsearch
    simp only [List.drop_drop, List.length_drop] at hsearch
    rw [matchFrom_unanchored m path hstart]
    cases hs : m.unanchored.searchAt path start with
    | none =>
      -- nothing fits anywhere
      rw [Expr.searchAt] at hs
      rw [hs] at hsearch
      intro p hp hp'
      have hp'' := hsearch (p - start) (by omega)
      rw [Nat.add_sub_cancel' hp] at hp''
      rw [hanchored, hp'']
      rfl
    | some found =>
      obtain ⟨s, t⟩ := found
      rw [Expr.searchAt] at hs
      rw [hs] at hsearch
      obtain ⟨i, hi, hpos, hcap, hbefore⟩ := hsearch
      rw [← hpos] at hcap
      have hle : s.pos ≤ path.length := by omega
      have hhere : m.matchPath (path.drop s.pos) true = extract t.captures .empty m.captures := by
        rw [hanchored, hcap]
        rfl
      have hpassed : ∀ q, start ≤ q → q < s.pos → m.matchPath (path.drop q) true = none := by
        intro q hq hq'
        have hq'' := hbefore (q - start) (by omega)
        rw [Nat.add_sub_cancel' hq] at hq''
        rw [hanchored, hq'']
        rfl
      dsimp only
      cases hext : extract t.captures .empty m.captures with
      | some params => exact ⟨s.pos, hle, by omega, by rw [hhere, hext], hpassed⟩
      | none =>
        -- a constraint refuses its value, and the search goes on behind this place
        have hlater := ih (path.length + 1 - (s.pos + 1)) (by omega) (s.pos + 1) rfl
        have hpassed' : ∀ q, start ≤ q → q < s.pos + 1 → m.matchPath (path.drop q) true = none := by
          intro q hq hq'
          rcases Nat.lt_succ_iff_lt_or_eq.1 hq' with hq' | rfl
          · exact hpassed q hq hq'
          · rw [hhere, hext]
        rw [Option.none_or]
        cases hres : m.matchFrom path false (s.pos + 1) with
        | none =>
          rw [hres] at hlater
          intro p hp hp'
          by_cases hlt : p < s.pos + 1
          · exact hpassed' p hp hlt
          · exact hlater p (by omega) hp'
        | some params =>
          rw [hres] at hlater
          obtain ⟨p, hp, hsp, hpar, hbefore'⟩ := hlater
          refine ⟨p, hp, by omega, hpar, fun q hq hq' => ?_⟩
          by_cases hlt : q < s.pos + 1
          · exact hpassed' q hq hlt
          · exact hbefore' q (by omega) hq'

/-- **Leftmost matching**: a match from anywhere gives what an anchored match of the rest of the
path gives at the first place where there is one, and fails if there is no such place. -/
theorem unanchored_iff_leftmost {route : String} {m : Matcher} (h : Matcher.ofRoute route = .ok m)
    (path : List Char) :
    (∀ params, m.matchPath path false = some params ↔ ∃ p ≤ path.length,
      m.matchPath (path.drop p) true = some params ∧
      ∀ q < p, m.matchPath (path.drop q) true = none) ∧
    (m.matchPath path false = none ↔
      ∀ p ≤ path.length, m.matchPath (path.drop p) true = none) := by
  have hspec := matchFrom_spec (compiled_of_ofRoute h) path 0
  rw [← Matcher.matchPath] at hspec
  cases hres : m.matchPath path false with
  | none =>
    rw [hres] at hspec
    have hall : ∀ p ≤ path.length, m.matchPath (path.drop p) true = none :=
      fun p hp => hspec p (Nat.zero_le _) hp
    refine ⟨fun params => ⟨fun h => (Option.some_ne_none _ h.symm).elim, ?_⟩,
      iff_of_true rfl hall⟩
    rintro ⟨p, hp, hpar, -⟩
    rw [hall p hp] at hpar
    cases hpar
  | some params =>
    rw [hres] at hspec
    obtain ⟨p, hp, -, hpar, hbefore⟩ := hspec
    refine ⟨fun params' => ⟨?_, ?_⟩, ⟨fun h => (Option.some_ne_none _ h).elim, fun hall => ?_⟩⟩
    · rintro ⟨⟩
      exact ⟨p, hp, hpar, fun q hq => hbefore q (Nat.zero_le _) hq⟩
    · rintro ⟨p', hp', hpar', hbefore'⟩
      -- there is only one first place
      rcases Nat.lt_trichotomy p p' with hlt | rfl | hlt
      · rw [hbefore' p hlt] at hpar
        cases hpar
      · rw [← hpar, hpar']
      · rw [hbefore p' (Nat.zero_le _) hlt] at hpar'
        cases hpar'
    · rw [hall p hp] at hpar
      cases hpar

/-- Places where the constraint refuses its value are passed over. -/
theorem unanchored_iff_leftmost_retry : ∃ m, Matcher.ofRoute ":id([0-9]+)" = .ok m ∧
    m.matchPath "/ä7".toList false = some (Params.ofPairs [("id", "7")]) := by
  have hfirst : ∀ q < 2, (Matcher.ofRoute ":id([0-9]+)").toOption.bind
      (·.matchPath ("/ä7".toList.drop q) true) = none := by decide +kernel
  have hfound : (Matcher.ofRoute ":id([0-9]+)").toOption.bind
      (·.matchPath ("/ä7".toList.drop 2) true) =
        some (Params.ofPairs [("id", "7")]) := by decide +kernel
  cases hm : Matcher.ofRoute ":id([0-9]+)" with
  | error e => simp [hm, Except.toOption] at hfound
  | ok m =>
    rw [hm] at hfirst hfound
    exact ⟨m, rfl, ((unanchored_iff_leftmost hm _).1 _).2 ⟨2, by decide, hfound, hfirst⟩⟩

end AppLinks.Route
