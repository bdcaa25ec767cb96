import AppLinks.Proofs.Regex.Anchor
import AppLinks.Proofs.Route.Expressions
import AppLinks.Settings.Basic

/-!
Anchors cannot be escaped.

Host patterns and the constraints of parameters are read between anchors. Each of them is also an
expression by itself, so what stands between the anchors cannot reach them: the anchored
expression accepts the texts that the expression by itself matches as a whole.
-/

namespace AppLinks

open Result

namespace Regex

/-- An expression is the anchored one of a text, and accepts what the expression that the text
writes by itself matches as a whole, in whichever of its ways to match. -/
def AcceptsWhole (text : String) (anchored : Expr) : Prop :=
  parse (anchor text) = .ok anchored ∧
    ∃ e, parse text = .ok e ∧ ∀ v, anchored.accepts v = true ↔ Spans v e 0 v.length

lemma acceptsWhole_of_parse {text : String} {anchored : Expr} (hself : ∃ e, parse text = .ok e)
    (h : parseAnchored text = .ok anchored) : AcceptsWhole text anchored := by
  obtain ⟨e, he⟩ := hself
  exact ⟨h, e, he, accepts_iff_spans he h⟩

end Regex

open Regex

/-- A host pattern is read by itself before it is read between anchors. -/
lemma acceptsWhole_of_readHostPattern {p : String} {r : Expr} (h : readHostPattern p = .ok r) :
    AcceptsWhole p r := by
  unfold readHostPattern at h
  split at h
  · rename_i e hread
    cases h
    obtain ⟨a, ha, hwhole⟩ := bind_eq_ok.1 hread
    exact acceptsWhole_of_parse ⟨a, ha⟩ hwhole
  · cases h

namespace Route

/-- The constraints of the captures are the anchored constraints of the segments. -/
lemma mem_capturesFrom_iff {ss : List Segment} {index : Nat} {caps : List Capture}
    (h : capturesFrom index ss = .ok caps) {name group : String} {r : Expr} :
    .parameter name group (some r) ∈ caps ↔
      ∃ i c, group = groupName (index + i) ∧ ss[i]? = some (.parameter name (some c)) ∧
        parseAnchored c = .ok r := by
  induction ss generalizing index caps with
  | nil =>
    cases h
    simp
  | cons s ss ih =>
    obtain ⟨cap, hcap, h⟩ := bind_eq_ok.1 h
    obtain ⟨rest, hrest, h⟩ := bind_eq_ok.1 h
    rw [← pure_eq_ok.1 h, List.mem_append, ih hrest, Option.mem_toList]
    have hhead : some (.parameter name group (some r)) = cap ↔
        ∃ c, group = groupName index ∧ s = .parameter name (some c) ∧
          parseAnchored c = .ok r := by
      cases s with
      | literal t =>
        cases hcap
        simp
      | wildcard =>
        cases hcap
        simp
      | parameter n constraint =>
        cases constraint with
        | none =>
          cases hcap
          simp
        | some t =>
          obtain ⟨e, he, hcap⟩ := bind_eq_ok.1 hcap
          rw [← pure_eq_ok.1 hcap]
          refine ⟨?_, ?_⟩
          · rintro ⟨⟩
            exact ⟨t, rfl, rfl, he⟩
          · rintro ⟨c, rfl, ⟨⟩, hc⟩
            rw [he] at hc
            cases hc
            rfl
    rw [eq_comm, hhead]
    refine ⟨?_, ?_⟩
    · rintro (⟨c, hgroup, rfl, hc⟩ | ⟨i, c, hgroup, hi, hc⟩)
      · exact ⟨0, c, hgroup, rfl, hc⟩
      · exact ⟨i + 1, c, by rw [hgroup, Nat.add_right_comm, Nat.add_assoc], hi, hc⟩
    · rintro ⟨i, c, hgroup, hi, hc⟩
      cases i with
      | zero => exact .inl ⟨c, hgroup, Option.some.inj hi, hc⟩
      | succ i => exact .inr ⟨i, c, by rw [hgroup, Nat.add_right_comm, Nat.add_assoc], hi, hc⟩

lemma constraint_read {ss : List Segment} {index : Nat} {caps : List Capture}
    (h : capturesFrom index ss = .ok caps) {i : Nat} {name c : String}
    (hi : ss[i]? = some (.parameter name (some c))) : ∃ r, parseAnchored c = .ok r := by
  induction ss generalizing index caps i with
  | nil => cases hi
  | cons s ss ih =>
    obtain ⟨cap, hcap, h⟩ := bind_eq_ok.1 h
    obtain ⟨rest, hrest, -⟩ := bind_eq_ok.1 h
    cases i with
    | zero =>
      obtain rfl := Option.some.inj hi
      obtain ⟨r, hr, -⟩ := bind_eq_ok.1 hcap
      exact ⟨r, hr⟩
    | succ i => exact ih hrest hi

/-- **Anchors cannot be escaped.** A host pattern that can be read accepts a text if and only if
the expression that the pattern writes by itself has a match that is the whole text. The same holds
of the constraints of a pattern that can be made into a matcher: each is kept with the parameter it
was written for, and no other constraint is asked. -/
theorem anchored_accepts_whole :
    (∀ p r, readHostPattern p = .ok r → AcceptsWhole p r) ∧
    ∀ route m, Matcher.ofRoute route = .ok m →
      (∀ i name c, m.pattern.segments[i]? = some (.parameter name (some c)) →
        ∃ r, .parameter name (groupName i) (some r) ∈ m.captures ∧ AcceptsWhole c r) ∧
      ∀ name group r, .parameter name group (some r) ∈ m.captures →
        ∃ i c, group = groupName i ∧ m.pattern.segments[i]? = some (.parameter name (some c)) ∧
          AcceptsWhole c r := by
  refine ⟨fun p r => acceptsWhole_of_readHostPattern, fun route m hm => ?_⟩
  have hcompiled := compiled_of_ofRoute hm
  have hself {i : Nat} {name c : String}
      (hi : m.pattern.segments[i]? = some (.parameter name (some c))) :
      ∃ e, parse c = .ok e := by
    have hwf := hcompiled.wellFormed.each _ (List.mem_of_getElem? hi)
    exact (hwf.2.2 c rfl).2.1
  refine ⟨fun i name c hi => ?_, fun name group r hmem => ?_⟩
  · obtain ⟨r, hr⟩ := constraint_read hcompiled.captures hi
    refine ⟨r, (mem_capturesFrom_iff hcompiled.captures).2 ⟨i, c, ?_, hi, hr⟩,
      acceptsWhole_of_parse (hself hi) hr⟩
    rw [Nat.zero_add]
  · obtain ⟨i, c, hgroup, hi, hr⟩ := (mem_capturesFrom_iff hcompiled.captures).1 hmem
    rw [Nat.zero_add] at hgroup
    exact ⟨i, c, hgroup, hi, acceptsWhole_of_parse (hself hi) hr⟩

/-- A flag reaches both alternatives of a host pattern, and neither of them accepts a segment of
which it matches a part. A constraint may prefer a match that is not the whole text. -/
theorem anchored_accepts_whole_alternatives :
    (∃ r, readHostPattern "(?x)site|w eb" = .ok r ∧ AcceptsWhole "(?x)site|w eb" r ∧
      r.accepts "web".toList = true ∧ r.accepts "website".toList = false) ∧
    ∃ m r, Matcher.ofRoute "on/:day(a|ab)" = .ok m ∧
      .parameter "day" (groupName 1) (some r) ∈ m.captures ∧ AcceptsWhole "a|ab" r := by
  refine ⟨?_, ?_⟩
  · have hfound : (readHostPattern "(?x)site|w eb").toOption.map
        (fun r => (r.accepts "web".toList, r.accepts "website".toList)) = some (true, false) := by
      decide +kernel
    cases hr : readHostPattern "(?x)site|w eb" with
    | error e => simp [hr, Except.toOption] at hfound
    | ok r =>
      simp only [hr, Except.toOption, Option.map_some, Option.some.injEq, Prod.mk.injEq] at hfound
      exact ⟨r, rfl, anchored_accepts_whole.1 _ r hr, hfound⟩
  · have hfound : (Matcher.ofRoute "on/:day(a|ab)").toOption.map (·.pattern.segments) =
        some [.literal "on", .parameter "day" (some "a|ab")] := by decide +kernel
    cases hm : Matcher.ofRoute "on/:day(a|ab)" with
    | error e => simp [hm, Except.toOption] at hfound
    | ok m =>
      simp only [hm, Except.toOption, Option.map_some, Option.some.injEq] at hfound
      have hday : m.pattern.segments[1]? = some (.parameter "day" (some "a|ab")) := by
        rw [hfound]
        rfl
      obtain ⟨r, hmem, hr⟩ := (anchored_accepts_whole.2 _ m hm).1 1 _ _ hday
      exact ⟨m, r, rfl, hmem, hr⟩

end Route

end AppLinks
