import AppLinks.Proofs.Regex.Reach
import AppLinks.Proofs.Regex.Reading
import AppLinks.Regex.Parse

/-!
An anchored expression matches what the expression between the anchors matches as a whole.

A text that is an expression by itself is read between the anchors as it is read alone: the group
around it stays at the bottom of the stack of open groups, and no character of the text can reach
it. So at the end of the text the group holds what the text writes, and the flags that were set in
the text end with the group. Only a comment that is still open there, or one of the limits, can keep
the text from being read between the anchors.
-/

namespace AppLinks.Regex

open Result

namespace Reader

/-- A reader with one more group around all others. -/
def inside (r : Reader) (g : Group) : Reader := { r with around := r.around ++ [g] }

section Projections

variable (r : Reader) (g : Group)

@[simp] lemma inside_flags : (r.inside g).flags = r.flags := rfl
@[simp] lemma inside_current : (r.inside g).current = r.current := rfl
@[simp] lemma inside_around : (r.inside g).around = r.around ++ [g] := rfl
@[simp] lemma inside_names : (r.inside g).names = r.names := rfl
@[simp] lemma inside_comment : (r.inside g).comment = r.comment := rfl
@[simp] lemma inside_mode : (r.inside g).mode = r.mode := rfl

end Projections

/-- What the outermost group was opened with. -/
def edge (r : Reader) : Option (Flags × Option String) :=
  ((r.current :: r.around).map fun g => (g.outer, g.name)).getLast?

/-- A result for a reader is also one for the reader with a further group around it, and the
outermost group stays the same. -/
def Carries (g : Group) (r : Reader) (x y : Except SyntaxError Reader) : Prop :=
  ∀ r', x = .ok r' → y = .ok (r'.inside g) ∧ r'.edge = r.edge

namespace Carries

variable {g : Group} {r : Reader} {x y x' y' : Except SyntaxError Reader}

lemma ok {r' : Reader} (h : r'.edge = r.edge) : Carries g r (.ok r') (.ok (r'.inside g)) := by
  rintro _ ⟨⟩
  exact ⟨rfl, h⟩

lemma error {e : SyntaxError} : Carries g r (.error e) y := by
  rintro _ ⟨⟩

lemma ite {c : Prop} [Decidable c] (h : Carries g r x y) (h' : Carries g r x' y') :
    Carries g r (if c then x else x') (if c then y else y') := by
  split
  · exact h
  · exact h'

lemma bind {α : Type} {v : Except SyntaxError α} {f f' : α → Except SyntaxError Reader}
    (h : ∀ a, Carries g r (f a) (f' a)) : Carries g r (v >>= f) (v >>= f') := by
  intro r' hr
  obtain ⟨a, rfl, ha⟩ := bind_eq_ok.1 hr
  exact h a r' ha

lemma andThen {f : Reader → Except SyntaxError Reader} (h : Carries g r x y)
    (hf : ∀ r', Carries g r' (f r') (f (r'.inside g))) : Carries g r (x >>= f) (y >>= f) := by
  intro r'' hr
  obtain ⟨r', hx, hr'⟩ := bind_eq_ok.1 hr
  obtain ⟨hy, hedge⟩ := h r' hx
  obtain ⟨hf', hedge'⟩ := hf r' r'' hr'
  exact ⟨bind_eq_ok.2 ⟨_, hy, hf'⟩, hedge'.trans hedge⟩

lemma of_edge {s : Reader} (h : Carries g s x y) (hs : s.edge = r.edge) : Carries g r x y := by
  intro r' hr
  obtain ⟨hy, hedge⟩ := h r' hr
  exact ⟨hy, hedge.trans hs⟩

end Carries

/-! ### The parts of a step -/

variable (r : Reader) (g : Group)

lemma edge_parts {r r' : Reader} (ha : r'.around = r.around)
    (ho : r'.current.outer = r.current.outer) (hn : r'.current.name = r.current.name) :
    r'.edge = r.edge := by
  simp only [edge, List.map_cons, ha, ho, hn]

lemma carries_add (p : Part) : Carries g r (.ok (r.add p)) (.ok ((r.inside g).add p)) :=
  .ok (edge_parts rfl rfl rfl)

lemma carries_mode (m : Mode) :
    Carries g r (.ok { r with mode := m }) (.ok { r.inside g with mode := m }) :=
  .ok (edge_parts rfl rfl rfl)

lemma carries_addChar (s : Except SyntaxError CharSet) (weight : Nat) :
    Carries g r (r.addChar s weight) ((r.inside g).addChar s weight) :=
  .bind fun _ => carries_add r g _

lemma carries_addLook (l : Look) :
    Carries g r (.ok (r.addLook l)) (.ok ((r.inside g).addLook l)) :=
  carries_add r g _

lemma carries_addPrimitive (p : Primitive) :
    Carries g r (r.addPrimitive p) ((r.inside g).addPrimitive p) := by
  cases p with
  | literal w => exact carries_addChar r g _ _
  | shorthand s negated => exact carries_addChar r g _ _
  | property text negated => exact carries_addChar r g _ _
  | look l =>
    cases l with
    | word unicode edge =>
      cases edge with
      | boundary => exact carries_mode r g _
      | inside | start | finish | startHalf | finishHalf => exact carries_addLook r g _
    | textStart | textEnd | lineStart | lineEnd => exact carries_addLook r g _

lemma carries_repeatLast (least : Nat) (most : Option Nat) (skips : Bool) :
    Carries g r (r.repeatLast least most skips) ((r.inside g).repeatLast least most skips) := by
  unfold repeatLast
  rw [inside_current]
  split
  · exact .ite (.ok (edge_parts rfl rfl rfl)) .error
  · exact .error

lemma carries_startCount : Carries g r r.startCount (r.inside g).startCount := by
  unfold startCount
  rw [inside_current]
  split
  · exact .ite (carries_mode r g _) .error
  · exact .error

lemma carries_turnLast : Carries g r (.ok r.turnLast) (.ok (r.inside g).turnLast) := by
  unfold turnLast
  rw [inside_current]
  split
  · exact .ok (edge_parts rfl rfl rfl)
  · exact .ok (edge_parts rfl rfl rfl)

lemma edge_openGroup (flags : Flags) (name : Option String) :
    (r.openGroup flags name).edge = r.edge := by
  simp only [edge, openGroup, List.map_cons, List.getLast?_cons_cons]

lemma carries_openGroup (flags : Flags) (name : Option String) :
    Carries g r (.ok (r.openGroup flags name)) (.ok ((r.inside g).openGroup flags name)) :=
  .ok (edge_openGroup r flags name)

lemma carries_closeGroup : Carries g r r.closeGroup (r.inside g).closeGroup := by
  unfold closeGroup
  rw [inside_around]
  cases h : r.around with
  | nil => exact .error
  | cons o around =>
    refine .ok ?_
    simp only [edge, add, h, List.map_cons, List.getLast?_cons_cons]

lemma carries_readPart (c : Char) : Carries g r (r.readPart c) ((r.inside g).readPart c) := by
  unfold readPart
  exact .ite (carries_mode r g _) <| .ite (carries_closeGroup r g) <|
    .ite (.ok (edge_parts rfl rfl rfl)) <| .ite (carries_mode r g _) <|
    .ite (carries_repeatLast r g _ _ _) <| .ite (carries_repeatLast r g _ _ _) <|
    .ite (carries_repeatLast r g _ _ _) <| .ite (carries_startCount r g) <|
    .ite (carries_mode r g _) <| .ite (carries_addChar r g _ _) <|
    .ite (carries_addLook r g _) <| .ite (carries_addLook r g _) <| carries_addPrimitive r g _

lemma carries_readFlag (l : FlagList) (c : Char) :
    Carries g r (r.readFlag l c) ((r.inside g).readFlag l c) := by
  unfold readFlag
  refine .ite (.ite .error <| .ite (carries_openGroup r g _ _) <| .ite .error ?_) <|
    .ite (.ite .error (carries_mode r g _)) ?_
  · exact (carries_add { r with flags := l.flags } g _).of_edge (edge_parts rfl rfl rfl)
  · split
    · exact .error
    · exact .ite .error (carries_mode r g _)

lemma carries_readName (name : List Char) (c : Char) :
    Carries g r (r.readName name c) ((r.inside g).readName name c) := by
  unfold readName
  refine .ite (.ite .error <| .ite .error ?_) (.ite (carries_mode r g _) .error)
  exact (carries_openGroup { r with names := _ } g _ _).of_edge (edge_parts rfl rfl rfl)

lemma carries_readLeast (digits : Option Nat) (ended : Bool) (c : Char) :
    Carries g r (r.readLeast digits ended c) ((r.inside g).readLeast digits ended c) := by
  unfold readLeast
  refine .ite (.bind fun _ => carries_mode r g _) <| .ite (carries_mode r g _) <|
    .ite (carries_mode r g _) ?_
  split
  · exact .ite (carries_repeatLast r g _ _ _) .error
  · exact .error

lemma carries_readMost (least digits : Option Nat) (blank ended : Bool) (c : Char) :
    Carries g r (r.readMost least digits blank ended c)
      ((r.inside g).readMost least digits blank ended c) := by
  unfold readMost
  refine .ite (.bind fun _ => carries_mode r g _) <| .ite (carries_mode r g _) <| .ite .error ?_
  split
  · exact .ite (carries_repeatLast r g _ _ _) .error
  · exact .ite .error (carries_repeatLast r g _ _ _)
  · exact .error

lemma carries_readBoundary (name : List Char) (c : Char) :
    Carries g r (r.readBoundary name c) ((r.inside g).readBoundary name c) := by
  unfold readBoundary
  refine .ite (carries_mode r g _) (.ite ?_ .error)
  split
  · exact carries_addLook r g _
  · exact .error

lemma carries_read (c : Char) : Carries g r (r.read c) ((r.inside g).read c) := by
  unfold read
  rw [inside_mode]
  split
  · refine .bind fun a => ?_
    cases a with
    | more e => exact carries_mode r g _
    | done p => exact carries_addPrimitive r g p
  · refine .ite (carries_mode r g _) ?_
    have hlook := (carries_startCount (r.addLook r.boundaryLook) g).of_edge (r := r)
      (edge_parts rfl rfl rfl)
    exact hlook.andThen fun r' => carries_readLeast r' g _ _ _
  · exact carries_readBoundary r g _ c
  · refine .bind fun a => ?_
    cases a with
    | more b => exact carries_mode r g _
    | done set depth => exact carries_add r g _
  · refine .ite (carries_mode r g _) ?_
    exact (carries_readPart (r.openGroup r.flags none) g c).of_edge (edge_openGroup r _ _)
  · exact .ite (carries_mode r g _) <| .ite (carries_mode r g _) <| .ite .error <|
      carries_readFlag r g _ c
  · exact .ite (carries_mode r g _) .error
  · exact .ite .error (carries_readName r g _ c)
  · exact carries_readName r g _ c
  · exact carries_readFlag r g _ c
  · exact carries_readLeast r g _ _ c
  · exact carries_readMost r g _ _ _ _ c
  · exact (carries_readPart { r with mode := .part } g c).of_edge (edge_parts rfl rfl rfl)

lemma carries_settle (c : Char) : ∃ r' used, r.settle c = .ok (r', used) ∧
    (r.inside g).settle c = .ok (r'.inside g, used) ∧ r'.edge = r.edge := by
  unfold settle
  rw [inside_mode]
  split
  · split
    · obtain ⟨h, hedge⟩ := carries_turnLast r g _ rfl
      exact ⟨_, true, rfl, by rw [← Except.ok.inj h], hedge⟩
    · split
      · exact ⟨_, false, rfl, rfl, rfl⟩
      · exact ⟨_, false, rfl, rfl, edge_parts rfl rfl rfl⟩
  · split
    · exact ⟨_, true, rfl, rfl, edge_parts rfl rfl rfl⟩
    · exact ⟨_, false, rfl, rfl, edge_parts rfl rfl rfl⟩
  · exact ⟨_, false, rfl, rfl, rfl⟩

/-- One character cannot reach a group that is around all groups it was read in. -/
lemma carries_step (c : Char) : Carries g r (r.step c) ((r.inside g).step c) := by
  obtain ⟨r', used, hs, hs', hedge⟩ := carries_settle r g c
  unfold step
  rw [inside_comment, hs, hs']
  refine .ite (.ok (edge_parts rfl rfl rfl)) (.of_edge ?_ hedge)
  exact .ite (.ok rfl) <| .ite (.ok (edge_parts rfl rfl rfl)) <| carries_read r' g c

/-- Nor can a text. -/
lemma carries_run (s : List Char) : Carries g r (r.run s) ((r.inside g).run s) := by
  induction s generalizing r with
  | nil => exact .ok rfl
  | cons c s ih =>
    have h := (carries_step r g c).andThen (f := fun r' => r'.run s) fun r' => ih r'
    simpa only [run, List.foldlM_cons] using h

/-! ### The end of an anchored text -/

/-- The group that an anchored text is read in, with what stands before it. -/
def anchorGroup : Group := { parts := [{ expr := .look .textStart, weight := stepWeight }] }

lemma run_anchor : ({} : Reader).run "^(?:".toList = .ok (({} : Reader).inside anchorGroup) := rfl

/-- A character that is no blank and begins no comment is read after what was kept back. -/
lemma step_eq_read {r r' : Reader} {c : Char} (hc : r.comment = false)
    (hs : r.settle c = .ok (r', false)) (hblank : Unicode.Property.isBlank c = false)
    (hhash : c ≠ '#') : r.step c = r'.read c := by
  have hskip : (r'.flags.verbose && r'.skipsBlanks && (Unicode.Property.isBlank c || c = '#')) =
      false := by simp [hblank, hhash]
  rw [step, hc, hs]
  simp only [Bool.false_eq_true, if_false, bind, Except.bind, hskip]

/-- A closing parenthesis after a whole expression closes the group around it. -/
lemma step_close {r : Reader} (hm : r.Settles) (ha : r.around = []) (hc : r.comment = false) :
    (r.inside g).step ')' = .ok ({ r with flags := r.current.outer, current := g }.add
      r.settled.current.close) := by
  have hsettle : ∃ r', (r.inside g).settle ')' = .ok (r', false) ∧
      (r'.mode = .part ∨ ∃ skips, r'.mode = .preference skips) ∧
      r' = { r.settled.inside g with mode := r'.mode } := by
    rcases hm with hm | ⟨skips, hm⟩ | hm
    · exact ⟨r.inside g, by simp [settle, hm], Or.inl hm, by simp [settled, hm, inside]⟩
    · cases skips with
      | true => exact ⟨r.inside g, by simp [settle, hm], Or.inr ⟨_, hm⟩,
          by simp [settled, hm, inside]⟩
      | false =>
        exact ⟨{ r.inside g with mode := .part }, by simp [settle, hm], Or.inl rfl,
          by simp [settled, hm]⟩
    · exact ⟨(r.inside g).addLook r.boundaryLook, by simp [settle, hm, boundaryLook], Or.inl rfl,
        by simp [settled, hm, addLook, add, inside]⟩
  obtain ⟨r', hs, hmode, hr'⟩ := hsettle
  rw [step_eq_read (r := r.inside g) hc hs (by decide) (by decide)]
  have hread : r'.read ')' = { r' with mode := .part }.closeGroup := by
    rcases hmode with hmode | ⟨skips, hmode⟩ <;> rw [read, hmode] <;> rfl
  rw [hread, hr']
  cases hm' : r.mode <;>
  simp [closeGroup, ha, settled, add, addLook, inside, hm']

/-- A comment takes up the end of an anchored text, and the group stays open. -/
lemma run_end_comment {r : Reader} (hc : r.comment = true) :
    (r.inside g).run ")$".toList = .ok (r.inside g) := by
  have hstep {c : Char} (hne : c ≠ '\n') : (r.inside g).step c = .ok (r.inside g) := by
    simp [step, hc, hne, inside]
  have hlist : ")$".toList = [')', '$'] := rfl
  rw [hlist, run_cons (hstep (by decide)), run_cons (hstep (by decide))]
  rfl

/-- Otherwise the group is closed, and the flags of the text end with it. -/
lemma run_end {r : Reader} (hm : r.Settles) (ha : r.around = []) (hc : r.comment = false)
    (houter : r.current.outer = {}) :
    (r.inside g).run ")$".toList = .ok (({ r with flags := {}, current := g }.add
      r.settled.current.close).addLook .textEnd) := by
  have hlist : ")$".toList = [')', '$'] := rfl
  rw [hlist, run_cons (step_close _ hm ha hc), houter]
  refine (run_cons ?_ []).trans rfl
  rw [step_eq_read (by simpa [add] using hc) rfl (by decide) (by decide)]
  rfl

/-- A part between the conditions of the anchors. -/
def anchored (p : Part) : Part :=
  { expr := .seq (.look .textStart) (.seq p.expr (.look .textEnd))
    depth := p.depth + 2
    weight := p.weight + 2 * stepWeight
    consumes := p.consumes }

/-- What has been read when the group between the anchors is closed. -/
lemma sequence_anchored {h : Group} (hname : h.name = none) :
    Part.sequence ({ expr := .look .textEnd, weight := stepWeight } :: h.close ::
      anchorGroup.parts) = anchored h.whole := by
  have hexpr : h.close.expr = h.whole.expr := by rw [Group.close, hname]
  have hdepth : h.close.depth = h.whole.depth + 1 := rfl
  have hweight : h.close.weight = h.whole.weight := rfl
  have hconsumes : h.close.consumes = h.whole.consumes := rfl
  simp only [Part.sequence, anchorGroup, anchored, List.foldl_cons, List.foldl_nil, List.any_cons,
    List.any_nil, hexpr, hdepth, hweight, hconsumes, Part.mk.injEq, Bool.false_or, Bool.or_false,
    and_true, true_and]
  omega

/-- What the anchored form of a text is read as, by what the text itself is read as. -/
lemma parseAnchored_of_run {text : String} {r : Reader}
    (hr : ({} : Reader).run text.toList = .ok r) (hm : r.Settles) (ha : r.around = []) :
    parseAnchored text =
      if r.comment then .error .groupUnclosed
      else withinLimits (anchored r.settled.current.whole) := by
  obtain ⟨hin, hedge⟩ := carries_run {} anchorGroup text.toList r hr
  obtain ⟨houter, hname⟩ : r.current.outer = {} ∧ r.current.name = none := by
    simpa [edge, ha] using hedge
  have hrun : ({} : Reader).run (anchor text).toList = (r.inside anchorGroup).run ")$".toList := by
    have hsplit : (anchor text).toList = "^(?:".toList ++ (text.toList ++ ")$".toList) := by
      simp [anchor]
    rw [hsplit, run_append, run_anchor, Except.bind, run_append, hin, Except.bind]
  rw [parseAnchored, parse, hrun]
  split
  · rename_i hc
    rw [run_end_comment _ hc]
    exact finish_open (by simpa [Settles] using hm) (by simp)
  · rename_i hc
    rw [run_end _ hm ha (by simpa using hc) houter]
    have hset : r.settled.current.name = none := by
      unfold settled
      split
      · exact hname
      · exact hname
    rw [← sequence_anchored hset]
    exact finish_closed (r := ({ r with flags := {}, current := anchorGroup }.add
      r.settled.current.close).addLook .textEnd) (.inl rfl) ha

end Reader

lemma run_of_parse {text : String} {e : Expr} (h : parse text = .ok e) :
    ∃ r, ({} : Reader).run text.toList = .ok r ∧ r.Settles ∧ r.around = [] ∧
      r.settled.current.whole.expr = e := by
  obtain ⟨r, hr, hf⟩ := bind_eq_ok.1 h
  exact ⟨r, hr, Reader.finish_eq_ok hf⟩

/-- An anchored text writes what the text writes, between the conditions of the anchors. -/
lemma parseAnchored_eq {text : String} {e e' : Expr} (h : parse text = .ok e)
    (h' : parseAnchored text = .ok e') :
    e' = .seq (.look .textStart) (.seq e (.look .textEnd)) := by
  obtain ⟨r, hr, hm, ha, rfl⟩ := run_of_parse h
  rw [Reader.parseAnchored_of_run hr hm ha] at h'
  split at h'
  · cases h'
  · exact (Reader.withinLimits_eq_ok h').symm

/-- Whether a text, read as an expression, ends within a comment. -/
def endsInComment (text : String) : Bool :=
  (({} : Reader).run text.toList).toOption.any (·.comment)

/-- Texts that stay expressions when they are put between anchors: the closing anchor does not
become part of a comment, and the limits leave room for the anchors. -/
structure Anchorable (text : String) : Prop where
  ends : endsInComment text = false
  nests : (wholePart text).depth + 2 ≤ nestingLimit
  weighs : (wholePart text).weight + 2 * stepWeight ≤ weightLimit

lemma anchorable_iff {text : String} : Anchorable text ↔ endsInComment text = false ∧
    (wholePart text).depth + 2 ≤ nestingLimit ∧
    (wholePart text).weight + 2 * stepWeight ≤ weightLimit :=
  ⟨fun h => ⟨h.ends, h.nests, h.weighs⟩, fun h => ⟨h.1, h.2.1, h.2.2⟩⟩

instance (text : String) : Decidable (Anchorable text) := decidable_of_iff _ anchorable_iff.symm

/-- Nothing else keeps an expression from being put between anchors. -/
lemma exists_parseAnchored_iff {text : String} {e : Expr} (h : parse text = .ok e) :
    (∃ e', parseAnchored text = .ok e') ↔ Anchorable text := by
  obtain ⟨r, hr, hm, ha, -⟩ := run_of_parse h
  have hends : endsInComment text = r.comment := by simp [endsInComment, hr, Except.toOption]
  rw [Reader.parseAnchored_of_run hr hm ha, anchorable_iff, hends, wholePart_of_run hr]
  cases hc : r.comment with
  | true => simp
  | false =>
    rw [if_neg (by simp), Reader.exists_withinLimits_iff]
    exact (and_iff_right rfl).symm

/-- **Anchoring**: an expression between anchors accepts a text if and only if the expression by
itself matches the whole text. -/
theorem accepts_iff_spans {text : String} {e e' : Expr} (h : parse text = .ok e)
    (h' : parseAnchored text = .ok e') (v : List Char) :
    e'.accepts v = true ↔ Spans v e 0 v.length := by
  rw [parseAnchored_eq h h', Expr.accepts, isMatch_iff_spans]
  have hstart {j : Nat} (hj : j ≤ v.length) : (before v j).isNone = true ↔ j = 0 := by
    cases j with
    | zero => simp [before]
    | succ k => simp [before]; omega
  simp only [spans_seq_iff, spans_look_iff, Look.holds]
  refine ⟨?_, ?_⟩
  · rintro ⟨i, k, j, ⟨rfl, hj, hs⟩, m, he, rfl, hm, hend⟩
    obtain rfl := (hstart hj).1 hs
    have hlen : m = v.length := by
      rw [Option.isNone_iff_eq_none, List.getElem?_eq_none_iff] at hend
      omega
    rwa [← hlen]
  · intro he
    exact ⟨0, v.length, 0, ⟨rfl, Nat.zero_le _, by simp [before]⟩, v.length, he, rfl, Nat.le_refl _,
      by simp⟩

end AppLinks.Regex
