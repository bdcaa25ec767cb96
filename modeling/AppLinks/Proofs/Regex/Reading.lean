import AppLinks.Proofs.Regex.Find
import AppLinks.Proofs.Result
import AppLinks.Proofs.Text.Percent
import AppLinks.Regex.Parse
import Mathlib.Algebra.GroupWithZero.Nat
import Mathlib.Algebra.Order.BigOperators.Group.List
import Mathlib.Algebra.Order.Group.Nat

/-!
Reading an expression that was put together from pieces.

Each piece of text adds its own parts to the alternative that is being read and leaves all else as
it was, so a text of several pieces writes the expressions of the pieces one after another. Each
part is no deeper and no heavier than its expression says, so such a text can be read if it is not
too long.
-/

namespace AppLinks.Regex

open Result

/-- How deeply an expression nests at most that is put together from pieces of text. -/
def Expr.height : Expr → Nat
  | .empty | .look _ => 0
  | .char _ => 1
  | .seq a b => max a.height b.height
  | .alt a b => max a.height b.height + 1
  | .times a _ _ _ => a.height + 1
  | .capture _ a => a.height + 2

/-- What an expression weighs at most that is put together from pieces of text. -/
def Expr.load : Expr → Nat
  | .empty => 0
  | .look _ => stepWeight
  | .char _ => 16 * stepWeight
  | .seq a b => a.load + b.load
  | .alt a b => a.load + b.load + stepWeight
  | .times a least most _ => max (most.getD (max least 1)) 1 * (a.load + stepWeight)
  | .capture _ a => a.load

lemma Expr.height_concat_le {es : List Expr} {n : Nat} (h : ∀ e ∈ es, e.height ≤ n) :
    (concat es).height ≤ n := by
  induction es with
  | nil => exact Nat.zero_le n
  | cons e es ih =>
    have hrest := ih fun f hf => h f (List.mem_cons_of_mem _ hf)
    cases es with
    | nil => exact h e (by simp)
    | cons f es => exact Nat.max_le.2 ⟨h e (by simp), hrest⟩

lemma Expr.height_le_concat {es : List Expr} {e : Expr} (h : e ∈ es) :
    e.height ≤ (concat es).height := by
  induction es with
  | nil => cases h
  | cons f es ih =>
    cases es with
    | nil => rw [List.mem_singleton.1 h]; rfl
    | cons g es =>
      rcases List.mem_cons.1 h with rfl | h
      · exact Nat.le_max_left _ _
      · exact (ih h).trans (Nat.le_max_right _ _)

lemma Expr.load_concat (es : List Expr) : (concat es).load = (es.map load).sum := by
  induction es with
  | nil => rfl
  | cons e es ih =>
    cases es with
    | nil => simp [concat]
    | cons f es => rw [concat_cons_cons, load, ih, ← List.sum_cons, ← List.map_cons]

namespace Reader

/-! ### Steps and ends -/

lemma run_cons {r r' : Reader} {c : Char} (h : r.step c = .ok r') (s : List Char) :
    r.run (c :: s) = r'.run s := by
  rw [run, List.foldlM_cons, h]
  rfl

/-- A reader at the end of a text, where nothing more can come. -/
def settled (r : Reader) : Reader :=
  match r.mode with
  | .boundary => r.addLook r.boundaryLook
  | _ => r

/-- Whether nothing is begun that has to be ended by more characters of a text. -/
def Settles (r : Reader) : Prop :=
  r.mode = .part ∨ (∃ skips, r.mode = .preference skips) ∨ r.mode = .boundary

/-- The expression of a part that is the whole of a text, if it is within the limits. -/
def withinLimits (p : Part) : Except SyntaxError Expr :=
  if nestingLimit < p.depth then .error .nestingTooDeep
  else if weightLimit < p.weight then .error .tooLarge
  else .ok p.expr

lemma withinLimits_eq_ok {p : Part} {e : Expr} (h : withinLimits p = .ok e) : p.expr = e := by
  unfold withinLimits at h
  split at h
  · cases h
  · split at h
    · cases h
    · exact Except.ok.inj h

lemma exists_withinLimits_iff {p : Part} :
    (∃ e, withinLimits p = .ok e) ↔ p.depth ≤ nestingLimit ∧ p.weight ≤ weightLimit := by
  unfold withinLimits
  split_ifs with hdepth hweight
  · exact iff_of_false (by simp) (by omega)
  · exact iff_of_false (by simp) (by omega)
  · exact iff_of_true ⟨_, rfl⟩ (by omega)

lemma finish_closed {r : Reader} (hm : r.Settles) (ha : r.around = []) :
    r.finish = withinLimits r.settled.current.whole := by
  unfold finish settled withinLimits
  rcases hm with hm | ⟨skips, hm⟩ | hm <;> simp [hm, ha, addLook, add]

lemma finish_open {r : Reader} (hm : r.Settles) (ha : r.around ≠ []) :
    r.finish = .error .groupUnclosed := by
  unfold finish
  rcases hm with hm | ⟨skips, hm⟩ | hm <;> simp [hm, ha, addLook, add]

lemma finish_eq_ok {r : Reader} {e : Expr} (h : r.finish = .ok e) :
    r.Settles ∧ r.around = [] ∧ r.settled.current.whole.expr = e := by
  have hm : r.Settles := by
    unfold finish at h
    unfold Settles
    cases hm : r.mode <;> simp [hm] at h ⊢
  have ha : r.around = [] := by
    by_contra ha
    rw [finish_open hm ha] at h
    cases h
  rw [finish_closed hm ha] at h
  exact ⟨hm, ha, withinLimits_eq_ok h⟩

/-! ### What a piece of text does -/

/-- A reader between two parts, in text without flags. -/
structure Ready (r : Reader) : Prop where
  flags : r.flags = {}
  comment : r.comment = false
  mode : r.mode = .part ∨ r.mode = .preference false

/-- A part that is no deeper and no heavier than its expression says. -/
structure Bounded (p : Part) : Prop where
  depth : p.depth ≤ p.expr.height
  weight : p.weight ≤ p.expr.load

/-- What a piece of text does: it adds groups of some names, and parts for some expressions. -/
structure Adds (names : List String) (es : List Expr) (r r' : Reader) : Prop where
  ready : r'.Ready
  around : r'.around = r.around
  names : r'.names = names.reverse ++ r.names
  current : ∃ ps : List Part, ps.map (·.expr) = es.reverse ∧ (∀ p ∈ ps, Bounded p) ∧
    r'.current = { r.current with parts := ps ++ r.current.parts }

/-- A piece of text that can be read wherever its names are new. -/
def Writes (s : List Char) (names : List String) (es : List Expr) : Prop :=
  names.Nodup → ∀ r : Reader, r.Ready → (∀ n ∈ names, n ∉ r.names) →
    ∃ r', r.run s = .ok r' ∧ Adds names es r r'

lemma writes_of_part {s : List Char} {e : Expr} {m : Mode} (hm : m = .part ∨ m = .preference false)
    (h : ∀ current around names mode, mode = .part ∨ mode = .preference false →
      ∃ p : Part, p.expr = e ∧ Bounded p ∧ ({ current, around, names, mode } : Reader).run s =
        .ok { current := { current with parts := p :: current.parts }, around, names, mode := m }) :
    Writes s [] [e] := by
  rintro - ⟨flags, current, around, names, comment, mode⟩ ⟨hf, hc, hmode⟩ -
  dsimp only at hf hc hmode
  subst hf hc
  obtain ⟨p, rfl, hp, hrun⟩ := h current around names mode hmode
  exact ⟨_, hrun, ⟨rfl, rfl, hm⟩, rfl, rfl, [p], rfl, by simpa using hp, rfl⟩

/-! ### Characters -/

/-- The part of a character that stands for itself. -/
def literalPart (c : Char) : Part :=
  { expr := .char (.single c), weight := setWeight {} (.literal ⟨c, false⟩), consumes := true }

lemma bounded_literalPart (c : Char) : Bounded (literalPart c) where
  depth := Nat.zero_le _
  weight := by
    have hle := Text.Utf8.length_encodeChar_le c
    rw [literalPart, setWeight, Expr.load, Nat.mul_comm]
    exact Nat.mul_le_mul_right _ (hle.trans (by decide))

lemma Bounded.times {p : Part} (hp : Bounded p) (least : Nat) (most : Option Nat) (greedy : Bool) :
    Bounded (p.times least most greedy) where
  depth := Nat.succ_le_succ hp.depth
  weight := by
    have hcopies : (if p.consumes then most.getD (max least 1) else 1) ≤
        max (most.getD (max least 1)) 1 := by
      split
      · exact Nat.le_max_left _ _
      · exact Nat.le_max_right _ _
    exact Nat.mul_le_mul hcopies (Nat.add_le_add_right hp.weight _)

lemma writes_char {c : Char} (hc : Escape.isMeta c = false) :
    Writes [c] [] [.char (.single c)] := by
  refine writes_of_part (Or.inl rfl) fun current around names mode hm =>
    ⟨literalPart c, rfl, bounded_literalPart c, ?_⟩
  have hread (r : Reader) : r.readPart c = r.addPrimitive (.literal ⟨c, false⟩) := by
    simp only [Escape.isMeta, List.mem_cons, decide_eq_false_iff_not, not_or] at hc
    obtain ⟨h1, h2, h3, h4, h5, h6, h7, h8, h9, -, h11, -, h13, h14, -⟩ := hc
    simp [readPart, h1, h2, h3, h4, h5, h6, h7, h8, h9, h11, h13, h14]
  have hne : c ≠ '?' := by rintro rfl; cases hc
  refine (run_cons (?_ : _ = Except.ok _) []).trans rfl
  rcases hm with rfl | rfl
  · simp only [step, settle, read, hread, bind, Except.bind]
    rfl
  · simp only [step, settle, if_neg hne, read, hread, bind, Except.bind]
    rfl

lemma writes_escaped {c : Char} (hc : Escape.isMeta c = true) :
    Writes ['\\', c] [] [.char (.single c)] := by
  refine writes_of_part (Or.inl rfl) fun current around names mode hm =>
    ⟨literalPart c, rfl, bounded_literalPart c, ?_⟩
  have hescape : Escape.ofChar {} c = .ok (.done (.literal ⟨c, false⟩)) := by
    unfold Escape.ofChar
    exact if_pos (by rw [Escape.isEscapable, hc, Bool.true_or])
  have hback : ({ current, around, names, mode } : Reader).step '\\' =
      .ok { current, around, names, mode := .escape .start } := by
    rcases hm with rfl | rfl <;> rfl
  refine (run_cons hback [c]).trans ((run_cons (?_ : _ = Except.ok _) []).trans rfl)
  simp only [step, settle, read, Escape.step, hescape, bind, Except.bind]
  rfl

/-! ### Pieces of text -/

lemma Adds.trans {names names' : List String} {es es' : List Expr} {r r' r'' : Reader}
    (h : Adds names es r r') (h' : Adds names' es' r' r'') :
    Adds (names ++ names') (es ++ es') r r'' := by
  obtain ⟨ps, hps, hbound, hcur⟩ := h.current
  obtain ⟨ps', hps', hbound', hcur'⟩ := h'.current
  refine ⟨h'.ready, h'.around.trans h.around, ?_, ps' ++ ps, ?_, ?_, ?_⟩
  · rw [h'.names, h.names, List.reverse_append, List.append_assoc]
  · rw [List.map_append, hps, hps', List.reverse_append]
  · intro p hp
    exact (List.mem_append.1 hp).elim (hbound' p) (hbound p)
  · rw [hcur', hcur, List.append_assoc]

lemma writes_append {s s' : List Char} {names names' : List String} {es es' : List Expr}
    (h : Writes s names es) (h' : Writes s' names' es') :
    Writes (s ++ s') (names ++ names') (es ++ es') := by
  intro hnodup r hr hfresh
  obtain ⟨hn, hn', hdisj⟩ := List.nodup_append.1 hnodup
  obtain ⟨r', hrun, hadds⟩ := h hn r hr fun n hmem => hfresh n (List.mem_append_left _ hmem)
  have hfresh' : ∀ n ∈ names', n ∉ r'.names := by
    intro n hmem
    rw [hadds.names, List.mem_append, List.mem_reverse, not_or]
    exact ⟨fun h => hdisj n h n hmem rfl, hfresh n (List.mem_append_right _ hmem)⟩
  obtain ⟨r'', hrun', hadds'⟩ := h' hn' r' hadds.ready hfresh'
  refine ⟨r'', ?_, hadds.trans hadds'⟩
  rw [run_append, hrun]
  exact hrun'

/-- A quoted text stands for its characters. -/
lemma writes_quote {s : List Char} (hs : s ≠ []) :
    Writes (quote s) [] (s.map fun c => .char (.single c)) := by
  have hone (c : Char) : Writes (quote [c]) [] [.char (.single c)] := by
    cases hc : Escape.isMeta c with
    | true => simpa [quote, hc] using writes_escaped hc
    | false => simpa [quote, hc] using writes_char hc
  induction s with
  | nil => exact absurd rfl hs
  | cons c s ih =>
    by_cases h : s = []
    · subst h
      exact hone c
    · simpa [quote] using writes_append (hone c) (ih h)

/-- A slash that may be left out. -/
lemma writes_optionalSlash :
    Writes "/?".toList [] [.times (.char (.single '/')) 0 (some 1) true] := by
  have hbound := (bounded_literalPart '/').times 0 (some 1) true
  refine writes_of_part (Or.inr rfl) fun current around names mode hm => ⟨_, rfl, hbound, ?_⟩
  rcases hm with rfl | rfl <;> rfl

lemma bounded_look (l : Look) : Bounded { expr := .look l, weight := stepWeight } :=
  ⟨Nat.zero_le _, Nat.le_refl _⟩

lemma writes_caret : Writes "^".toList [] [.look .textStart] := by
  refine writes_of_part (Or.inl rfl) fun current around names mode hm =>
    ⟨_, rfl, bounded_look .textStart, ?_⟩
  rcases hm with rfl | rfl <;> rfl

lemma writes_dollar : Writes "$".toList [] [.look .textEnd] := by
  refine writes_of_part (Or.inl rfl) fun current around names mode hm =>
    ⟨_, rfl, bounded_look .textEnd, ?_⟩
  rcases hm with rfl | rfl <;> rfl

/-- A set of characters that nests at most once. -/
lemma bounded_set (set : CharSet) {depth : Nat} (h : depth ≤ 1) :
    Bounded { expr := .char set, depth, weight := 16 * stepWeight, consumes := true } :=
  ⟨h, Nat.le_refl _⟩

/-- A class of all characters but the slash, at least once. -/
lemma writes_component :
    Writes "[^/]+".toList [] [.times (.char fun c => c ≠ '/') 1 none true] := by
  have hset : ((CharSet.nothing.union (.single '/')).negateIf true : CharSet) =
      fun c => decide (c ≠ '/') := by
    funext c
    simp [CharSet.negateIf, CharSet.compl, CharSet.union, CharSet.nothing, CharSet.single,
      beq_eq_decide]
  rw [← hset]
  have hbound := (bounded_set ((CharSet.nothing.union (.single '/')).negateIf true)
    (Nat.le_refl 1)).times 1 none true
  refine writes_of_part (Or.inr rfl) fun current around names mode hm => ⟨_, rfl, hbound, ?_⟩
  rcases hm with rfl | rfl <;> rfl

/-- Anything but the end of a line, any number of times. -/
lemma writes_line :
    Writes ".*".toList [] [.times (.char fun c => c ≠ '\n') 0 none true] := by
  have hbound := (bounded_set (fun c => c ≠ '\n') (Nat.zero_le 1)).times 0 none true
  refine writes_of_part (Or.inr rfl) fun current around names mode hm => ⟨_, rfl, hbound, ?_⟩
  rcases hm with rfl | rfl <;> rfl

/-! ### Groups -/

lemma sequence_expr (ps : List Part) :
    (Part.sequence ps).expr = .concat (ps.map (·.expr)).reverse := by
  have hfold (ps : List Part) (e : Expr) (es : List Expr) :
      ps.foldl (fun e q => Expr.seq q.expr e) (Expr.concat (e :: es)) =
        Expr.concat ((ps.map (·.expr)).reverse ++ e :: es) := by
    induction ps generalizing e es with
    | nil => rfl
    | cons p ps ih =>
      rw [List.foldl_cons, ← Expr.concat_cons_cons, ih, List.map_cons, List.reverse_cons,
        List.append_assoc]
      rfl
  cases ps with
  | nil => rfl
  | cons p ps =>
    cases ps with
    | nil => rfl
    | cons q ps =>
      have h := hfold (q :: ps) p.expr []
      rw [List.map_cons, List.reverse_cons, ← h]
      rfl

lemma depth_sequence_le {ps : List Part} {n : Nat} (h : ∀ p ∈ ps, p.depth ≤ n) :
    (Part.sequence ps).depth ≤ n + 1 := by
  have hfold (ps : List Part) (d : Nat) (hd : d ≤ n) (h : ∀ p ∈ ps, p.depth ≤ n) :
      ps.foldl (fun d q => max d q.depth) d ≤ n := by
    induction ps generalizing d with
    | nil => exact hd
    | cons p ps ih =>
      exact ih _ (Nat.max_le.2 ⟨hd, h p (by simp)⟩) fun q hq => h q (List.mem_cons_of_mem _ hq)
  cases ps with
  | nil => exact Nat.zero_le _
  | cons p ps =>
    cases ps with
    | nil => exact Nat.le_succ_of_le (h p (by simp))
    | cons q ps => exact Nat.succ_le_succ (hfold _ _ (Nat.zero_le _) h)

lemma weight_sequence (ps : List Part) :
    (Part.sequence ps).weight = (ps.map (·.weight)).sum := by
  have hfold (ps : List Part) (w : Nat) :
      ps.foldl (fun w q => w + q.weight) w = w + (ps.map (·.weight)).sum := by
    induction ps generalizing w with
    | nil => rfl
    | cons p ps ih => rw [List.foldl_cons, ih, List.map_cons, List.sum_cons, Nat.add_assoc]
  cases ps with
  | nil => rfl
  | cons p ps =>
    cases ps with
    | nil => simp [Part.sequence]
    | cons q ps => exact (hfold _ 0).trans (Nat.zero_add _)

lemma bounded_sequence {ps : List Part} {es : List Expr} (hps : ps.map (·.expr) = es.reverse)
    (h : ∀ p ∈ ps, Bounded p) : (Part.sequence ps).depth ≤ (Expr.concat es).height + 1 ∧
      (Part.sequence ps).weight ≤ (Expr.concat es).load := by
  refine ⟨depth_sequence_le fun p hp => (h p hp).depth.trans (Expr.height_le_concat ?_), ?_⟩
  · rw [← List.mem_reverse, ← hps]
    exact List.mem_map_of_mem hp
  · have hle := List.sum_le_sum fun p hp => (h p hp).weight
    calc (Part.sequence ps).weight
        = (ps.map (·.weight)).sum := weight_sequence ps
      _ ≤ (ps.map fun p => p.expr.load).sum := hle
      _ = ((ps.map (·.expr)).map Expr.load).sum := by rw [List.map_map]; rfl
      _ = (Expr.concat es).load := by
          rw [hps, List.map_reverse, List.sum_reverse, Expr.load_concat]

lemma run_name (current : Group) (around : List Group) (names : List String) {s : List Char}
    (hs : ∀ c ∈ s, isNameChar c false = true ∧ c ≠ '>') {read : List Char} (hread : read ≠ []) :
    ({ current, around, names, mode := .groupName read } : Reader).run s =
      .ok { current, around, names, mode := .groupName (s.reverse ++ read) } := by
  induction s generalizing read with
  | nil => rfl
  | cons c s ih =>
    obtain ⟨hc, hne⟩ := hs c (by simp)
    have hempty : read.isEmpty = false := by simpa using hread
    have hstep : ({ current, around, names, mode := .groupName read } : Reader).step c =
        .ok { current, around, names, mode := .groupName (c :: read) } := by
      simp only [step, settle, Reader.read, readName, if_neg hne, hempty, hc, bind, Except.bind]
      rfl
    rw [run_cons hstep, ih (fun d hd => hs d (List.mem_cons_of_mem _ hd)) (by simp)]
    simp

/-- A group with a name, around a piece of text that adds no groups. -/
lemma writes_group {c : Char} {name inner : List Char} {es : List Expr}
    (hc : isNameChar c true = true ∧ c ≠ '>')
    (hname : ∀ d ∈ name, isNameChar d false = true ∧ d ≠ '>') (hinner : Writes inner [] es) :
    Writes ("(?P<".toList ++ (c :: name) ++ '>' :: (inner ++ [')'])) [String.ofList (c :: name)]
      [.capture (String.ofList (c :: name)) (.concat es)] := by
  rintro - ⟨flags, current, around, names, comment, mode⟩ ⟨hf, hcom, hmode⟩ hfresh
  dsimp only at hf hcom hmode hfresh
  subst hf hcom
  -- up to the name
  have hopen : ({ current, around, names, mode } : Reader).run "(?P<".toList =
      .ok { current, around, names, mode := .groupName [] } := by
    rcases hmode with rfl | rfl <;> rfl
  have hfirst : ({ current, around, names, mode := .groupName [] } : Reader).step c =
      .ok { current, around, names, mode := .groupName [c] } := by
    simp only [step, settle, read, readName, if_neg hc.2, List.isEmpty_nil, hc.1, bind, Except.bind]
    rfl
  have hread := run_name current around names hname
    (List.cons_ne_nil c [])
  -- into the group
  have hrev : (name.reverse ++ [c]).reverse = c :: name := by simp
  have hnew : names.contains (String.ofList (c :: name)) = false := by
    simpa using hfresh _ (List.mem_singleton.2 rfl)
  have hend : ({ current, around, names, mode := .groupName (name.reverse ++ [c]) } : Reader).step
      '>' = .ok
        { current := { name := some (String.ofList (c :: name)) }, around := current :: around
          names := String.ofList (c :: name) :: names } := by
    have hempty : (name.reverse ++ [c]).isEmpty = false := by simp
    simp only [step, settle, read, readName, hempty, hrev, hnew, bind, Except.bind]
    rfl
  -- to its end
  obtain ⟨⟨flags', current', around', names', comment', mode'⟩, hrun, ⟨hf', hcom', hmode'⟩, ha',
    hn', ps, hps, hbound, hcur⟩ := hinner .nil
      { current := { name := some (String.ofList (c :: name)) }, around := current :: around,
        names := String.ofList (c :: name) :: names } ⟨rfl, rfl, Or.inl rfl⟩ (by simp)
  dsimp only at hf' hcom' hmode' ha' hn' hcur
  rw [List.reverse_nil, List.nil_append] at hn'
  rw [List.append_nil] at hcur
  subst hf' hcom' ha' hn' hcur
  let closed : Group := { name := some (String.ofList (c :: name)), parts := ps }
  have hclose : ({ current := closed, around := current :: around,
                   names := String.ofList (c :: name) :: names, mode := mode' } : Reader).step ')' =
        .ok { current := { current with parts := closed.close :: current.parts }
              around := around
              names := String.ofList (c :: name) :: names } := by
    rcases hmode' with rfl | rfl <;> rfl
  have hwhole : closed.whole = Part.sequence ps := rfl
  have hexpr : closed.close.expr = .capture (String.ofList (c :: name)) (.concat es) := by
    simp only [Group.close, hwhole, sequence_expr, hps, List.reverse_reverse]
    rfl
  obtain ⟨hdepth, hweight⟩ := bounded_sequence hps hbound
  have hclosed : Bounded closed.close := by
    refine ⟨?_, ?_⟩
    · rw [hexpr]
      exact Nat.succ_le_succ (hwhole ▸ hdepth)
    · rw [hexpr]
      exact (congrArg Part.weight hwhole).trans_le hweight
  refine ⟨{ current := { current with parts := closed.close :: current.parts }
            around := around
            names := String.ofList (c :: name) :: names },
    ?_, ⟨rfl, rfl, Or.inl rfl⟩, rfl, rfl, [closed.close], by simp [hexpr],
    by simpa using hclosed, rfl⟩
  rw [List.append_assoc, run_append, hopen, Except.bind, List.cons_append, run_cons hfirst,
    run_append, hread, Except.bind, run_cons hend, run_append, hrun, Except.bind, run_cons hclose]
  rfl

end Reader

/-- What the whole of a text is read as. -/
def wholePart (text : String) : Part :=
  ((({} : Reader).run text.toList).toOption.map (·.settled.current.whole)).getD { expr := .empty }

lemma wholePart_of_run {text : String} {r : Reader} (hr : ({} : Reader).run text.toList = .ok r) :
    wholePart text = r.settled.current.whole := by
  simp [wholePart, hr, Except.toOption]

namespace Reader

section Writing

variable {s : List Char} {names : List String} {es : List Expr}

/-- What a text is read as that is put together from pieces. -/
lemma wholePart_of_writes (h : Writes s names es) (hn : names.Nodup) :
    parse (String.ofList s) = withinLimits (wholePart (String.ofList s)) ∧
      (wholePart (String.ofList s)).expr = .concat es ∧
      (wholePart (String.ofList s)).depth ≤ (Expr.concat es).height + 1 ∧
      (wholePart (String.ofList s)).weight ≤ (Expr.concat es).load := by
  obtain ⟨r', hrun, hadds⟩ := h hn {} ⟨rfl, rfl, Or.inl rfl⟩ (by simp)
  obtain ⟨ps, hps, hbound, hcur⟩ := hadds.current
  rw [← String.toList_ofList (l := s)] at hrun
  have hm : r'.Settles := hadds.ready.mode.elim .inl fun hm => .inr (.inl ⟨_, hm⟩)
  have hsettled : r'.settled = r' := by
    rcases hadds.ready.mode with hm | hm <;> rw [settled, hm]
  have hwhole : wholePart (String.ofList s) = Part.sequence ps := by
    rw [wholePart_of_run hrun, hsettled, hcur]
    simp [Group.whole, Part.alternatives]
  have hparse : parse (String.ofList s) = withinLimits (wholePart (String.ofList s)) := by
    rw [parse, wholePart_of_run hrun, hrun]
    exact finish_closed hm hadds.around
  refine ⟨hparse, ?_⟩
  rw [hwhole, sequence_expr, hps, List.reverse_reverse]
  exact ⟨rfl, bounded_sequence hps hbound⟩

lemma parse_of_writes {e : Expr} (h : Writes s names es) (hn : names.Nodup)
    (he : parse (String.ofList s) = .ok e) : e = .concat es := by
  obtain ⟨hparse, hexpr, -⟩ := wholePart_of_writes h hn
  rw [hparse] at he
  rw [← hexpr, withinLimits_eq_ok he]

/-- A text that is put together from pieces can be read if it is not too large. -/
lemma exists_parse_of_writes_iff (h : Writes s names es) (hn : names.Nodup)
    (hes : ∀ e ∈ es, e.height < nestingLimit) :
    (∃ e, parse (String.ofList s) = .ok e) ↔
      (wholePart (String.ofList s)).weight ≤ weightLimit := by
  obtain ⟨hparse, -, hdepth, -⟩ := wholePart_of_writes h hn
  have hheight := Expr.height_concat_le fun e he => Nat.le_sub_one_of_lt (hes e he)
  have hpos : 0 < nestingLimit := by decide
  rw [hparse, exists_withinLimits_iff]
  exact and_iff_right (by omega)

end Writing

end Reader

end AppLinks.Regex
