import AppLinks.Proofs.Route.Whole
import AppLinks.Proofs.Session.Registry

/-!
What is an expression by itself can be a constraint or a host pattern.

Such an expression is read twice, by itself and between anchors, and the segments of a pattern are
made into two more texts that are read. The second reading goes through what the first one went
through, so there are few ways left in which it can fail: a comment at the end of the text takes up
the closing anchor, or the anchors go beyond the limits of nesting and weight. The texts of the
segments always write expressions, and these never nest deeply.
-/

namespace AppLinks

open Regex Result

namespace Route

/-! ### The captures of a pattern -/

/-- All constraints can be put between anchors. -/
def ConstraintsFit (ss : List Segment) : Prop :=
  ∀ name c, .parameter name (some c) ∈ ss → Anchorable c

lemma exists_ofSegment (index : Nat) {s : Segment}
    (h : ∀ name c, s = .parameter name (some c) → ∃ e, parseAnchored c = .ok e) :
    ∃ cap, Capture.ofSegment index s = .ok cap := by
  cases s with
  | literal t => exact ⟨_, rfl⟩
  | wildcard => exact ⟨_, rfl⟩
  | parameter name constraint =>
    cases constraint with
    | none => exact ⟨_, rfl⟩
    | some c =>
      obtain ⟨e, he⟩ := h name c rfl
      exact ⟨_, bind_eq_ok.2 ⟨e, he, rfl⟩⟩

lemma exists_capturesFrom (index : Nat) {ss : List Segment}
    (h : ∀ name c, .parameter name (some c) ∈ ss → ∃ e, parseAnchored c = .ok e) :
    ∃ caps, capturesFrom index ss = .ok caps := by
  induction ss generalizing index with
  | nil => exact ⟨[], rfl⟩
  | cons s ss ih =>
    obtain ⟨cap, hcap⟩ := exists_ofSegment index (s := s) fun name c hs => h name c (by simp [hs])
    obtain ⟨caps, hcaps⟩ := ih (index + 1) fun name c hmem => h name c (List.mem_cons_of_mem _ hmem)
    exact ⟨_, bind_eq_ok.2 ⟨cap, hcap, bind_eq_ok.2 ⟨caps, hcaps, rfl⟩⟩⟩

/-- The captures can be made if and only if each constraint can be put between anchors. -/
lemma exists_capturesFrom_iff (index : Nat) {ss : List Segment} (hss : ∀ s ∈ ss, s.WellFormed) :
    (∃ caps, capturesFrom index ss = .ok caps) ↔ ConstraintsFit ss := by
  have hparse {name c : String} (hmem : .parameter name (some c) ∈ ss) :
      (∃ e, parseAnchored c = .ok e) ↔ Anchorable c := by
    obtain ⟨e, he⟩ := ((hss _ hmem).2.2 c rfl).2.1
    exact exists_parseAnchored_iff he
  refine ⟨?_, fun hfit => exists_capturesFrom index fun name c hmem =>
    (hparse hmem).2 (hfit name c hmem)⟩
  rintro ⟨caps, hcaps⟩ name c hmem
  obtain ⟨i, hi⟩ := List.getElem?_of_mem hmem
  exact (hparse hmem).1 (constraint_read hcaps hi)

/-! ### The expressions of a path -/

/-- The text of the expression that searches a path from anywhere. -/
def pathSource (ss : List Segment) : List Char :=
  "/?".toList ++ sourceFrom 0 ss ++ "/?$".toList

/-- The expressions of a path are not too large. -/
structure PathFits (ss : List Segment) : Prop where
  anchored : (wholePart (String.ofList ('^' :: pathSource ss))).weight ≤ weightLimit
  unanchored : (wholePart (String.ofList (pathSource ss))).weight ≤ weightLimit

section Path

variable {ss : List Segment}

lemma writes_caret_path (hwf : WellFormed ss) :
    Reader.Writes ('^' :: pathSource ss) (groupsFrom 0 ss) (.look .textStart :: pathExprs ss) :=
  Reader.writes_append Reader.writes_caret (writes_path hwf.each hwf.ne_nil)

/-- Nothing but their size keeps the expressions of a path from being read. -/
lemma exists_parse_path_iff (hwf : WellFormed ss) :
    ((∃ e, parse (String.ofList ('^' :: pathSource ss)) = .ok e) ∧
      ∃ e, parse (String.ofList (pathSource ss)) = .ok e) ↔ PathFits ss := by
  have hnodup := nodup_groupsFrom 0 hwf.wildcard_last
  have hheight : ∀ e ∈ pathExprs ss, e.height < nestingLimit := fun e he =>
    (height_pathExprs ss e he).trans_lt (by decide)
  have hheight' : ∀ e ∈ .look .textStart :: pathExprs ss, e.height < nestingLimit :=
    List.forall_mem_cons.2 ⟨by decide, hheight⟩
  rw [Reader.exists_parse_of_writes_iff (writes_caret_path hwf) hnodup hheight', pathSource,
    Reader.exists_parse_of_writes_iff (writes_path hwf.each hwf.ne_nil) hnodup hheight]
  exact ⟨fun h => ⟨h.1, h.2⟩, fun h => ⟨h.1, h.2⟩⟩

/-! ### How much a path weighs -/

/-- What one character of a pattern adds to the load of its expressions at most. -/
def charLoad : Nat := 12 * (16 * stepWeight)

lemma load_segment_le (index : Nat) (s : Segment) :
    ((s.exprs index).map Expr.load).sum ≤ charLoad * s.text.toList.length := by
  cases s with
  | literal t =>
    have hlen : (literalForm t).length ≤ 12 * t.toList.length := Text.Percent.length_encode_le _ _
    have hsum : (((Segment.literal t).exprs index).map Expr.load).sum =
        (literalForm t).length * (16 * stepWeight) := by
      simp [Segment.exprs, Expr.load, Function.comp_def]
    rw [hsum, Segment.text, charLoad]
    calc (literalForm t).length * (16 * stepWeight)
        ≤ 12 * t.toList.length * (16 * stepWeight) := Nat.mul_le_mul_right _ hlen
      _ = 12 * (16 * stepWeight) * t.toList.length := Nat.mul_right_comm _ _ _
  | parameter name constraint =>
    have hsum : (((Segment.parameter name constraint).exprs index).map Expr.load).sum =
        17 * stepWeight := rfl
    have hpos : 1 ≤ (Segment.parameter name constraint).text.toList.length := by
      cases constraint <;> simp [Segment.text]
    rw [hsum]
    exact (by decide : 17 * stepWeight ≤ charLoad * 1).trans (Nat.mul_le_mul_left _ hpos)
  | wildcard => exact (by decide : 17 * stepWeight ≤ charLoad * 1)

lemma load_exprsFrom_le (index : Nat) (ss : List Segment) :
    ((exprsFrom index ss).map Expr.load).sum ≤ charLoad * (written ss).length := by
  induction ss generalizing index with
  | nil => exact Nat.zero_le _
  | cons s ss ih =>
    have hs := load_segment_le index s
    cases ss with
    | nil => simpa [exprsFrom, written] using hs
    | cons t ts =>
      have hrest := ih (index + 1)
      have hslash : (Expr.char (.single '/')).load ≤ charLoad := by decide
      have hsum : ((exprsFrom index (s :: t :: ts)).map Expr.load).sum =
          ((s.exprs index).map Expr.load).sum + ((Expr.char (.single '/')).load +
            ((exprsFrom (index + 1) (t :: ts)).map Expr.load).sum) := by
        rw [exprsFrom, List.map_append, List.sum_append, List.map_cons, List.sum_cons]
        simp
      have hlen : (written (s :: t :: ts)).length =
          s.text.toList.length + (1 + (written (t :: ts)).length) := by
        rw [written_cons (by simp), List.length_append, List.length_cons, Nat.add_comm 1]
      rw [hsum, hlen, Nat.mul_add, Nat.mul_add, Nat.mul_one]
      exact Nat.add_le_add hs (Nat.add_le_add hslash hrest)

/-- The expressions of a pattern that is not very long are not too large. -/
lemma pathFits_of_length (hwf : WellFormed ss) (hlen : (written ss).length ≤ 1700) :
    PathFits ss := by
  have hnodup := nodup_groupsFrom 0 hwf.wildcard_last
  obtain ⟨-, -, -, hanchored⟩ := Reader.wholePart_of_writes (writes_caret_path hwf) hnodup
  obtain ⟨-, -, -, hunanchored⟩ :=
    Reader.wholePart_of_writes (writes_path hwf.each hwf.ne_nil) hnodup
  have hload : ((pathExprs ss).map Expr.load).sum =
      ((exprsFrom 0 ss).map Expr.load).sum + 35 * stepWeight := by
    simp [pathExprs, endExprs, optionalSlash, Expr.load, stepWeight]
    omega
  have hbound : ((pathExprs ss).map Expr.load).sum + stepWeight ≤ weightLimit := by
    have hle := load_exprsFrom_le 0 ss
    have hmul : charLoad * (written ss).length ≤ charLoad * 1700 := Nat.mul_le_mul_left _ hlen
    have hlimit : charLoad * 1700 + 35 * stepWeight + stepWeight ≤ weightLimit := by decide
    omega
  rw [Expr.load_concat] at hanchored hunanchored
  refine ⟨hanchored.trans ?_, hunanchored.trans ?_⟩
  · rw [List.map_cons, List.sum_cons, Nat.add_comm]
    exact hbound
  · exact (Nat.le_add_right _ _).trans hbound

end Path

/-! ### Matchers -/

lemma exists_compile_iff {p : Pattern} (hwf : WellFormed p.segments) :
    (∃ m, Matcher.compile p = .ok m) ↔ ConstraintsFit p.segments ∧ PathFits p.segments := by
  rw [← exists_capturesFrom_iff 0 hwf.each, ← exists_parse_path_iff hwf]
  refine ⟨?_, ?_⟩
  · rintro ⟨m, hm⟩
    obtain ⟨captures, hcaptures, hm⟩ := bind_eq_ok.1 hm
    obtain ⟨anchored, hanchored, hm⟩ := bind_eq_ok.1 hm
    obtain ⟨unanchored, hunanchored, -⟩ := bind_eq_ok.1 hm
    exact ⟨⟨captures, hcaptures⟩, ⟨anchored, hanchored⟩, unanchored, hunanchored⟩
  · rintro ⟨⟨captures, hcaptures⟩, ⟨anchored, hanchored⟩, unanchored, hunanchored⟩
    exact ⟨_, bind_eq_ok.2 ⟨captures, hcaptures, bind_eq_ok.2 ⟨anchored, hanchored,
      bind_eq_ok.2 ⟨unanchored, hunanchored, rfl⟩⟩⟩⟩

lemma exists_ofRoute_iff {route : String} {p : Pattern} (hp : Pattern.parse route = .ok p) :
    (∃ m, Matcher.ofRoute route = .ok m) ↔ ConstraintsFit p.segments ∧ PathFits p.segments := by
  have hroute : Matcher.ofRoute route = Matcher.ofPattern p := by
    rw [Matcher.ofRoute, hp]
    rfl
  rw [← exists_compile_iff (parse_eq_ok_iff.1 hp).2.1, hroute, Matcher.ofPattern]
  cases Matcher.compile p <;> simp

lemma length_body_le (raw : String) : (body raw).length ≤ raw.length := by
  have htrailing (s : List Char) : (dropTrailingSlash s).length ≤ s.length := by
    unfold dropTrailingSlash
    split
    · simp
    · exact Nat.le_refl _
  calc (body raw).length
      ≤ (dropLeadingSlash raw.toList).length := htrailing _
    _ ≤ raw.toList.length := (dropLeadingSlash_suffix _).length_le
    _ = raw.length := String.length_toList

end Route

open Route

/-! ### Host patterns -/

lemma exists_readHostPattern_iff {p : String} {e : Expr} (h : parse p = .ok e) :
    (∃ e', readHostPattern p = .ok e') ↔ Anchorable p := by
  have hwhole : parseWhole p = parseAnchored p := by
    rw [parseWhole, h]
    rfl
  rw [← exists_parseAnchored_iff h, readHostPattern, hwhole]
  cases parseAnchored p <;> simp

namespace Router

/-- **What is accepted by itself is accepted between anchors**, unless it ends within a comment or
the limits leave no room for the anchors. A host pattern that is an expression can be read if and
only if it is not of that kind. A route that is a pattern gets its matcher, and can be registered
with every router, if and only if none of its constraints is of that kind and its path is not too
large; a route of up to 1700 characters never is. -/
theorem accepts_expressions (pattern route : String) :
    (∀ e, parse pattern = .ok e →
      ((∃ e', readHostPattern pattern = .ok e') ↔ Anchorable pattern)) ∧
    ∀ p, Pattern.parse route = .ok p →
      ((∃ m, Matcher.ofRoute route = .ok m) ↔
        ConstraintsFit p.segments ∧ PathFits p.segments) ∧
      (∀ (r : Router) (binding : Binding), (∃ r', r.register route binding = .ok r') ↔
        ConstraintsFit p.segments ∧ PathFits p.segments) ∧
      (route.length ≤ 1700 → PathFits p.segments) := by
  refine ⟨fun e => exists_readHostPattern_iff, fun p hp => ?_⟩
  obtain ⟨-, hwf, hbody⟩ := parse_eq_ok_iff.1 hp
  have hroute := exists_ofRoute_iff hp
  refine ⟨hroute, fun r binding => ?_, fun hlen => ?_⟩
  · rw [← hroute, Router.register]
    cases Matcher.ofRoute route <;> simp [bind, Except.bind]
  · exact pathFits_of_length hwf (hbody ▸ (length_body_le route).trans hlen)

/-- Flags and a comment with an end are no obstacle. -/
theorem accepts_expressions_closed_comment :
    (∃ e, readHostPattern "(?x)site # shop\n" = .ok e) ∧
    ∃ p, Pattern.parse "table/:id((?i)a[0-9]+)/*" = .ok p ∧
      (∃ m, Matcher.ofRoute "table/:id((?i)a[0-9]+)/*" = .ok m) ∧
      ∀ (r : Router) (binding : Binding),
        ∃ r', r.register "table/:id((?i)a[0-9]+)/*" binding = .ok r' := by
  obtain ⟨hhost, hroute⟩ :=
    accepts_expressions "(?x)site # shop\n" "table/:id((?i)a[0-9]+)/*"
  have hp : (Pattern.parse "table/:id((?i)a[0-9]+)/*").toOption.map (·.segments) =
      some [.literal "table", .parameter "id" (some "(?i)a[0-9]+"), .wildcard] := by decide +kernel
  obtain ⟨e, he, -⟩ := eq_ok_of_view (f := fun _ => ()) (b := ())
    (by decide +kernel : (parse "(?x)site # shop\n").toOption.map (fun _ => ()) = some ())
  obtain ⟨p, hp, hsegments⟩ := eq_ok_of_view hp
  obtain ⟨hmatcher, hregister, hlength⟩ := hroute p hp
  have hfit : ConstraintsFit p.segments ∧ PathFits p.segments := by
    refine ⟨fun name c hmem => ?_, hlength (by decide)⟩
    obtain ⟨-, rfl⟩ : name = "id" ∧ c = "(?i)a[0-9]+" := by simpa [hsegments] using hmem
    decide +kernel
  exact ⟨(hhost e he).2 (by decide +kernel), p, hp, hmatcher.2 hfit,
    fun r binding => (hregister r binding).2 hfit⟩

/-- A comment without an end takes up the closing anchor: the text is an expression by itself, but
it is neither a host pattern nor the constraint of a route. -/
theorem accepts_expressions_not_open_comment :
    (∃ e, parse "(?x)y#z" = .ok e) ∧
    readHostPattern "(?x)y#z" =
      .error (.configuration (.hostPattern "(?x)y#z" .groupUnclosed)) ∧
    (∃ p, Pattern.parse ":id((?x)y#z)" = .ok p) ∧
    Matcher.ofRoute ":id((?x)y#z)" =
      .error (.invalidPattern ":id((?x)y#z)" (.anchoring .groupUnclosed)) := by
  refine ⟨⟨_, rfl⟩, rfl, ⟨_, rfl⟩, rfl⟩

end Router

end AppLinks
