import AppLinks.Proofs.Route.Components
import Mathlib.Data.Finset.Card

/-!
What becomes of the captures of a match.

Each parameter and the wildcard have a name, under which the decoded text of their component is
found. The names of the parameters differ from each other, but one of them may be the name of the
wildcard. Then the wildcard comes later and takes its place, and one capture is lost.
-/

namespace AppLinks

namespace Params

lemma mem_keys_insertAll {p : Params} {pairs : List (String × String)} {k : String} :
    k ∈ (p.insertAll pairs).entries.map Prod.fst ↔
      k ∈ p.entries.map Prod.fst ∨ k ∈ pairs.map Prod.fst := by
  induction pairs generalizing p with
  | nil => simp [insertAll]
  | cons kv r ih =>
    have hkeys : (p.insertAll (kv :: r)) = (p.insert kv.1 kv.2).insertAll r := rfl
    rw [hkeys, ih, insert, mem_keys_setIn, List.map_cons, List.mem_cons, or_assoc]
    exact or_left_comm

lemma size_ofPairs (pairs : List (String × String)) :
    (ofPairs pairs).size = (pairs.map Prod.fst).toFinset.card := by
  have hkeys : ((ofPairs pairs).entries.map Prod.fst).toFinset =
      (pairs.map Prod.fst).toFinset := by
    ext k
    rw [List.mem_toFinset, List.mem_toFinset, ofPairs, mem_keys_insertAll]
    simp [empty]
  rw [← hkeys, List.toFinset_card_of_nodup (ofPairs pairs).nodup, List.length_map, size]

end Params

namespace Route

/-! ### The names of captures -/

/-- The name under which the text of a segment is found. -/
def Segment.key? : Segment → Option String
  | .literal _ => none
  | .parameter name _ => some name
  | .wildcard => some wildcardKey

lemma Segment.fst_binding (s : Segment) (c : List Char) :
    (s.binding c).map Prod.fst = s.key? := by
  cases s <;> rfl

lemma map_fst_bindings {ss : List Segment} {cs : List (List Char)}
    (h : List.Forall₂ Segment.Accepts ss cs) :
    (bindings ss cs).map Prod.fst = ss.filterMap Segment.key? := by
  induction h with
  | nil => rfl
  | @cons s c ss cs _ _ ih =>
    rw [bindings_cons, List.map_append, ih, List.filterMap_cons, ← s.fst_binding c]
    cases s.binding c <;> rfl

/-- The names of captures are those of the parameters, and that of the wildcard behind them. -/
lemma keys_eq {ss : List Segment} (hlast : .wildcard ∉ ss.dropLast) :
    ss.filterMap Segment.key? = ss.filterMap Segment.name? ++
      if ss.getLast? = some .wildcard then [wildcardKey] else [] := by
  induction ss with
  | nil => rfl
  | cons s ss ih =>
    obtain ⟨hwild, hlast'⟩ := wildcard_last_cons.1 hlast
    by_cases hnil : ss = []
    · subst hnil
      cases s <;> rfl
    · have hkeys := ih hlast'
      obtain ⟨t, ts, rfl⟩ := List.exists_cons_of_ne_nil hnil
      rw [List.getLast?_cons_cons]
      cases s with
      | literal text => exact hkeys
      | parameter name constraint => exact congrArg (name :: ·) hkeys
      | wildcard => exact absurd (hwild rfl) hnil

/-- Behind a parameter its name comes again only as the name of the wildcard. -/
lemma mem_later_keys {ss : List Segment} (hlast : .wildcard ∉ ss.dropLast)
    (hnames : (ss.filterMap Segment.name?).Nodup) {i : Nat} {name : String}
    {constraint : Option String} (hi : ss[i]? = some (.parameter name constraint))
    (hlater : name ∈ (ss.drop (i + 1)).filterMap Segment.key?) :
    name = wildcardKey ∧ ss.getLast? = some .wildcard := by
  induction ss generalizing i with
  | nil => cases hi
  | cons s ss ih =>
    obtain ⟨-, hlast'⟩ := wildcard_last_cons.1 hlast
    have hne : ss ≠ [] := by
      rintro rfl
      simp at hlater
    have hgetLast : (s :: ss).getLast? = ss.getLast? := by
      obtain ⟨t, ts, rfl⟩ := List.exists_cons_of_ne_nil hne
      exact List.getLast?_cons_cons
    rw [hgetLast]
    cases i with
    | zero =>
      obtain rfl := Option.some.inj hi
      have hfresh : name ∉ ss.filterMap Segment.name? := (List.nodup_cons.1 hnames).1
      rw [Nat.zero_add, List.drop_one, List.tail_cons, keys_eq hlast', List.mem_append] at hlater
      have hmem := hlater.resolve_left hfresh
      split at hmem
      · rename_i hw
        exact ⟨List.mem_singleton.1 hmem, hw⟩
      · cases hmem
    | succ i =>
      have hnames' : (ss.filterMap Segment.name?).Nodup := by
        rw [List.filterMap_cons] at hnames
        split at hnames
        · exact hnames
        · exact hnames.of_cons
      exact ih hlast' hnames' hi hlater

/-! ### The values of captures -/

/-- A name is bound to what a captured text stands for. -/
def Binds (params : Params) (name : String) (captured : Option (List Char)) : Prop :=
  ∃ c, captured = some c ∧ params.get? name = some (String.ofList (Text.Percent.decodeText c))

/-- The last segment of a name says what its value is. -/
lemma get?_bindings {ss : List Segment} {cs : List (List Char)}
    (h : List.Forall₂ Segment.Accepts ss cs) {i : Nat} {s : Segment} (hi : ss[i]? = some s)
    {name : String} (hname : s.key? = some name)
    (hlater : name ∉ (ss.drop (i + 1)).filterMap Segment.key?) (params : Params) :
    Binds (params.insertAll (bindings ss cs)) name cs[i]? := by
  induction h generalizing i params with
  | nil => cases hi
  | @cons t c ss cs _ hrest ih =>
    rw [bindings_cons]
    cases i with
    | zero =>
      obtain rfl := Option.some.inj hi
      obtain ⟨v, hv⟩ : ∃ v, t.binding c = some (name, v) ∧
          v = String.ofList (Text.Percent.decodeText c) := by
        cases t with
        | literal => cases hname
        | parameter | wildcard =>
          cases hname
          exact ⟨_, rfl, rfl⟩
      refine ⟨c, rfl, ?_⟩
      have hnone : (bindings ss cs).reverse.lookup name = none := by
        refine Params.lookup_of_notMem ?_
        rw [List.map_reverse, List.mem_reverse, map_fst_bindings hrest]
        exact hlater
      rw [hv.1, Option.toList_some, List.singleton_append, Params.insertAll, List.foldl_cons,
        ← Params.insertAll, Params.get?_insertAll, hnone, Option.none_or, Params.get?_insert,
        if_pos rfl, hv.2]
    | succ i =>
      have hsplit : params.insertAll ((t.binding c).toList ++ bindings ss cs) =
          (params.insertAll (t.binding c).toList).insertAll (bindings ss cs) :=
        List.foldl_append
      rw [hsplit]
      exact ih hi hlater _

/-! ### Matches -/

/-- What the segments of a pattern stand for in a path, from where a match begins. This is where
the path begins, or, if matches may begin anywhere, the first place where there is one. -/
structure Matcher.Match (m : Matcher) (path : List Char) (anchored : Bool) (start : Nat)
    (cs : List (List Char)) : Prop where
  start_le : start ≤ path.length
  anchored : anchored = true → start = 0
  first : ∀ q < start, m.matchPath (path.drop q) true = none
  components : components m.pattern.segments (path.drop start) = some cs
  accepts : List.Forall₂ Segment.Accepts m.pattern.segments cs

/-- A match from anywhere is one from the beginning, of the rest of the path. -/
lemma exists_start {m : Matcher} (hm : Compiled m) {path : List Char} {anchored : Bool}
    {params : Params} (h : m.matchPath path anchored = some params) :
    ∃ start ≤ path.length, (anchored = true → start = 0) ∧
      m.matchPath (path.drop start) true = some params ∧
      ∀ q < start, m.matchPath (path.drop q) true = none := by
  cases anchored with
  | true => exact ⟨0, Nat.zero_le _, fun _ => rfl, h, fun q hq => absurd hq (Nat.not_lt_zero q)⟩
  | false =>
    have hspec := matchFrom_spec hm path 0
    rw [← Matcher.matchPath, h] at hspec
    obtain ⟨start, hle, -, hparams, hfirst⟩ := hspec
    exact ⟨start, hle, fun h => absurd h Bool.false_ne_true, hparams,
      fun q => hfirst q (Nat.zero_le _)⟩

lemma exists_match {m : Matcher} (hm : Compiled m) {path : List Char} {anchored : Bool}
    {params : Params} (h : m.matchPath path anchored = some params) :
    ∃ start cs, m.Match path anchored start cs ∧
      params = Params.ofPairs (bindings m.pattern.segments cs) := by
  obtain ⟨start, hle, hanchored, hparams, hfirst⟩ := exists_start hm h
  obtain ⟨cs, hcs, -, haccepts, hvalues⟩ := (matchPath_iff_covers hm).1 hparams
  exact ⟨start, cs,
    ⟨hle, hanchored, hfirst, (cut_of_covers hcs hm.wellFormed.each).1, haccepts⟩, hvalues⟩

/-- One of the parameters has the name of the wildcard. -/
def Pattern.Shadowed (p : Pattern) : Prop := p.hasWildcard = true ∧ wildcardKey ∈ p.names

instance (p : Pattern) : Decidable p.Shadowed :=
  inferInstanceAs (Decidable (_ ∧ _))

/-- There is one value for each parameter and for the wildcard, and it is the decoded text that the
segment has captured. -/
structure Kept (p : Pattern) (cs : List (List Char)) (params : Params) : Prop where
  size : params.size = p.names.length + if p.hasWildcard then 1 else 0
  parameter : ∀ (i : Nat) name constraint, p.segments[i]? = some (.parameter name constraint) →
    Binds params name cs[i]?
  wildcard : p.hasWildcard = true → Binds params wildcardKey cs.getLast?

lemma hasWildcard_iff {p : Pattern} :
    p.hasWildcard = true ↔ p.segments.getLast? = some .wildcard := by
  rw [Pattern.hasWildcard, beq_iff_eq]

section Bindings

variable {p : Pattern} {cs : List (List Char)}

lemma size_bindings (hwf : WellFormed p.segments)
    (hcs : List.Forall₂ Segment.Accepts p.segments cs) :
    (Params.ofPairs (bindings p.segments cs)).size =
      p.names.length + if p.hasWildcard = true ∧ wildcardKey ∉ p.names then 1 else 0 := by
  have hnames : p.names.toFinset.card = p.names.length :=
    List.toFinset_card_of_nodup hwf.names_distinct
  rw [Params.size_ofPairs, map_fst_bindings hcs, keys_eq hwf.wildcard_last, ← Pattern.names]
  by_cases hw : p.hasWildcard = true
  · rw [if_pos (hasWildcard_iff.1 hw), List.toFinset_append, List.toFinset_cons,
      List.toFinset_nil, LawfulSingleton.insert_empty_eq, Finset.union_comm,
      Finset.singleton_union, Finset.card_insert_eq_ite, hnames]
    by_cases hmem : wildcardKey ∈ p.names <;> simp [hw, hmem]
  · rw [if_neg fun h => hw (hasWildcard_iff.2 h), List.append_nil, hnames]
    simp [hw]

lemma binds_parameter (hwf : WellFormed p.segments)
    (hcs : List.Forall₂ Segment.Accepts p.segments cs) {i : Nat} {name : String}
    {constraint : Option String} (hi : p.segments[i]? = some (.parameter name constraint))
    (hname : name = wildcardKey → p.hasWildcard = false) :
    Binds (Params.ofPairs (bindings p.segments cs)) name cs[i]? := by
  refine get?_bindings hcs hi rfl (fun hlater => ?_) _
  obtain ⟨hkey, hw⟩ := mem_later_keys hwf.wildcard_last hwf.names_distinct hi hlater
  rw [hasWildcard_iff.2 hw] at hname
  cases hname hkey

lemma binds_wildcard (hcs : List.Forall₂ Segment.Accepts p.segments cs)
    (hw : p.hasWildcard = true) :
    Binds (Params.ofPairs (bindings p.segments cs)) wildcardKey cs.getLast? := by
  have hlast := hasWildcard_iff.1 hw
  have hpos : 0 < p.segments.length := by
    rw [List.length_pos_iff]
    rintro hnil
    rw [hnil] at hlast
    cases hlast
  rw [List.getLast?_eq_getElem?] at hlast ⊢
  rw [← hcs.length_eq]
  refine get?_bindings hcs hlast rfl ?_ _
  rw [Nat.sub_add_cancel hpos, List.drop_length]
  exact List.not_mem_nil

end Bindings

/-- **No capture is lost**, unless a parameter has the name of the wildcard: in a match of either
kind there is one value for each parameter and for the wildcard, which is the decoded text of the
component that its segment stands for. If a parameter has the name of the wildcard, then the rest of
the path is found under this name, and this parameter has no value of its own. -/
theorem captures_kept {route : String} {m : Matcher} (h : Matcher.ofRoute route = .ok m)
    {path : List Char} {anchored : Bool} {params : Params}
    (hmatch : m.matchPath path anchored = some params) :
    ∃ start cs, m.Match path anchored start cs ∧
      (¬ m.pattern.Shadowed → Kept m.pattern cs params) ∧
      (m.pattern.Shadowed → params.size = m.pattern.names.length ∧
        (∀ (i : Nat) name constraint, m.pattern.segments[i]? = some (.parameter name constraint) →
          name ≠ wildcardKey → Binds params name cs[i]?) ∧
        Binds params wildcardKey cs.getLast?) := by
  have hm := compiled_of_ofRoute h
  have hwf := hm.wellFormed
  obtain ⟨start, cs, hstart, rfl⟩ := exists_match hm hmatch
  have hsize := size_bindings hwf hstart.accepts
  refine ⟨start, cs, hstart, fun hnot => ⟨?_, fun i name constraint hi => ?_, ?_⟩,
    fun hshadowed => ⟨?_, fun i name constraint hi hname => ?_, ?_⟩⟩
  · rw [hsize]
    by_cases hw : m.pattern.hasWildcard = true
    · have hmem : wildcardKey ∉ m.pattern.names := fun hmem => hnot ⟨hw, hmem⟩
      simp [hw, hmem]
    · simp [hw]
  · refine binds_parameter hwf hstart.accepts hi fun hkey => ?_
    by_contra hw
    have hmem : name ∈ m.pattern.names :=
      List.mem_filterMap.2 ⟨_, List.mem_of_getElem? hi, rfl⟩
    exact hnot ⟨by simpa using hw, hkey ▸ hmem⟩
  · exact binds_wildcard hstart.accepts
  · rw [hsize, if_neg fun hnot => hnot.2 hshadowed.2, Nat.add_zero]
  · exact binds_parameter hwf hstart.accepts hi fun hkey => absurd hkey hname
  · exact binds_wildcard hstart.accepts hshadowed.1

/-- A name that is the same as a text of the pattern, in a match that does not begin where the path
begins. -/
theorem captures_kept_anywhere : ∃ m, Matcher.ofRoute "on/:on/*" = .ok m ∧
    m.matchPath "/lights/on/%61/b/".toList false =
      some (Params.ofPairs [("on", "a"), ("*", "b/")]) ∧
    ¬ m.pattern.Shadowed ∧
    ∃ start cs, m.Match "/lights/on/%61/b/".toList false start cs ∧
      Kept m.pattern cs (Params.ofPairs [("on", "a"), ("*", "b/")]) := by
  have hfound : (Matcher.ofRoute "on/:on/*").toOption.map (fun m =>
      (m.matchPath "/lights/on/%61/b/".toList false, decide m.pattern.Shadowed)) =
        some (some (Params.ofPairs [("on", "a"), ("*", "b/")]), false) := by decide +kernel
  obtain ⟨m, hm, hview⟩ := Result.eq_ok_of_view hfound
  obtain ⟨hmatch, hshadowed⟩ := Prod.mk.inj hview
  have hnot := of_decide_eq_false hshadowed
  obtain ⟨start, cs, hstart, hkept, -⟩ := captures_kept hm hmatch
  exact ⟨m, hm, hmatch, hnot, start, cs, hstart, hkept hnot⟩

/-- The value of a parameter with the name of the wildcard is lost. -/
theorem captures_lost_shadowed : ∃ m params, Matcher.ofRoute ":*/*" = .ok m ∧
    m.matchPath "a/b".toList true = some params ∧ m.matchPath "a/b".toList false = some params ∧
    m.pattern.names.length + (if m.pattern.hasWildcard then 1 else 0) = 2 ∧ params.size = 1 ∧
    params.get? "*" = some "b" := by
  have hfound : (Matcher.ofRoute ":*/*").toOption.map (fun m =>
      (m.matchPath "a/b".toList true, m.matchPath "a/b".toList false,
        m.pattern.names.length + (if m.pattern.hasWildcard then 1 else 0))) =
        some (some (Params.ofPairs [("*", "b")]), some (Params.ofPairs [("*", "b")]), 2) := by
    decide +kernel
  obtain ⟨m, hm, hview⟩ := Result.eq_ok_of_view hfound
  obtain ⟨hanchored, hanywhere, hsize⟩ : _ ∧ _ ∧ _ := by simpa only [Prod.mk.injEq] using hview
  exact ⟨m, _, hm, hanchored, hanywhere, hsize, rfl, rfl⟩

end Route

end AppLinks
