import AppLinks.Proofs.Route.Values
import AppLinks.Proofs.Text.ReadBack
import Mathlib.Data.List.ReduceOption

/-!
Paths that are written for a pattern are matched by it.

Each parameter is given a value, and what follows is given to the wildcard. Values are escaped, so a
slash in a value does not cut its component, and decoding gives the value back. A match of the path
has these values under the names of their parameters, and no others.
-/

namespace AppLinks

/-- If no name comes with two values, the pairs say what the values are. -/
lemma Params.get?_ofPairs_eq_some_iff {pairs : List (String × String)}
    (hpairs : ∀ {k v v'}, (k, v) ∈ pairs → (k, v') ∈ pairs → v = v') {k v : String} :
    (ofPairs pairs).get? k = some v ↔ (k, v) ∈ pairs := by
  have hmem {w : String} (h : pairs.reverse.lookup k = some w) : (k, w) ∈ pairs :=
    List.mem_reverse.1 (mem_of_lookup h)
  rw [get?_ofPairs]
  refine ⟨hmem, fun h => ?_⟩
  cases hlookup : pairs.reverse.lookup k with
  | none =>
    have hne := List.lookup_eq_none_iff.1 hlookup (k, v) (List.mem_reverse.2 h)
    simp at hne
  | some w => rw [hpairs (hmem hlookup) h]

namespace Route

open Regex Result

/-- All characters but the letters and digits of ASCII. -/
def nonAlphanumeric (c : Char) : Bool := !c.isAlphanum

/-- A value as it is written in a path. -/
def writeValue (v : String) : List Char := Text.Percent.encode nonAlphanumeric v.toList

/-- The component of a segment, with values for the parameters and the rest for a wildcard. -/
def Segment.write (values : String → String) (rest : String) : Segment → List Char
  | .literal t => literalForm t
  | .parameter name _ => writeValue (values name)
  | .wildcard => writeValue rest

/-- The path of a pattern, with values for its parameters and the rest for its wildcard. -/
def Pattern.write (p : Pattern) (values : String → String) (rest : String) : List Char :=
  '/' :: ['/'].intercalate (p.segments.map (Segment.write values rest))

/-- Values that the parameters of a pattern may have: they are not empty, and each constraint
matches the whole of its value. -/
def Pattern.Admits (p : Pattern) (values : String → String) : Prop :=
  ∀ name constraint, .parameter name constraint ∈ p.segments → values name ≠ "" ∧
    ∀ t ∈ constraint, ∃ e, Regex.parse t = .ok e ∧
      Spans (values name).toList e 0 (values name).toList.length

/-- A name with the value that a match of a written path has under it. -/
def Pattern.Assigns (p : Pattern) (values : String → String) (rest name v : String) : Prop :=
  (name ∈ p.names ∧ v = values name) ∨ (p.hasWildcard = true ∧ name = wildcardKey ∧ v = rest)

/-! ### Written components -/

lemma decodeText_writeValue (v : String) : Text.Percent.decodeText (writeValue v) = v.toList :=
  Text.Percent.decodeText_encode (by decide) v.toList

lemma not_mem_writeValue {c : Char} (hescaped : nonAlphanumeric c = true) (hpercent : c ≠ '%')
    (hhex : Text.Percent.hexValue? c = none) (v : String) : c ∉ writeValue v := by
  rw [writeValue, Text.Percent.mem_encode_iff hpercent hhex, hescaped]
  simp

lemma slash_not_mem_writeValue (v : String) : '/' ∉ writeValue v :=
  not_mem_writeValue (by decide) (by decide) (by decide) v

section Written

variable {values : String → String} {rest : String}

lemma slash_not_mem_write {s : Segment} (hs : s.WellFormed) : '/' ∉ s.write values rest := by
  cases s with
  | literal t => exact slash_not_mem_literalForm hs.2.1
  | parameter name constraint => exact slash_not_mem_writeValue _
  | wildcard => exact slash_not_mem_writeValue _

/-- A segment accepts what is written for it. -/
lemma accepts_write {p : Pattern} (hp : p.Admits values) {s : Segment} (hs : s ∈ p.segments) :
    s.Accepts (s.write values rest) := by
  cases s with
  | literal t => rfl
  | parameter name constraint =>
    obtain ⟨hne, hconstraint⟩ := hp name constraint hs
    refine ⟨Text.Percent.encode_ne_nil (by simpa using hne), fun t ht => ?_⟩
    rw [Segment.write, decodeText_writeValue]
    exact hconstraint t ht
  | wildcard => trivial

/-- Segments take the components that stand between slashes. -/
lemma covers_intercalate {ss : List Segment} {cs : List (List Char)} (hne : ss ≠ [])
    (hlast : .wildcard ∉ ss.dropLast) (hfits : List.Forall₂ Segment.Fits ss cs)
    (hcs : ∀ c ∈ cs, '/' ∉ c) : Covers ss (['/'].intercalate cs) cs := by
  induction hfits with
  | nil => exact absurd rfl hne
  | @cons s c ss cs hfit hfits ih =>
    obtain ⟨hwild, hlast'⟩ := wildcard_last_cons.1 hlast
    have hslash := hcs c (by simp)
    by_cases hnil : ss = []
    · subst hnil
      cases hfits
      rw [List.intercalate_singleton]
      by_cases hw : s = .wildcard
      · subst hw
        exact .remainder
      · have h := Covers.last hw hfit hslash (.inl rfl)
        rwa [List.append_nil] at h
    · have hrest := ih hnil hlast' fun d hd => hcs d (List.mem_cons_of_mem _ hd)
      have hcs' : cs ≠ [] := by
        rintro rfl
        exact hnil (List.forall₂_nil_right_iff.1 hfits)
      rw [List.intercalate_cons_of_ne_nil hcs', List.append_assoc, List.singleton_append]
      exact .cons (fun h => hnil (hwild h)) hnil hfit hslash hrest

lemma onLine_write (s : Segment) : s.OnLine (s.write values rest) := by
  cases s with
  | literal | parameter => trivial
  | wildcard => exact not_mem_writeValue (by decide) (by decide) (by decide) rest

/-- The names and values of a written path are those that were given. -/
lemma mem_bindings_write {p : Pattern} {name v : String} :
    (name, v) ∈ bindings p.segments (p.segments.map (Segment.write values rest)) ↔
      (name ∈ p.names ∧ v = values name) ∨
        (.wildcard ∈ p.segments ∧ name = wildcardKey ∧ v = rest) := by
  have hbinding (s : Segment) : s.binding (s.write values rest) = match s with
      | .literal _ => none
      | .parameter n _ => some (n, values n)
      | .wildcard => some (wildcardKey, rest) := by
    cases s <;> simp [Segment.binding, Segment.write, decodeText_writeValue]
  rw [bindings, List.reduceOption_mem_iff, List.zipWith_map_right, List.zipWith_self, List.mem_map,
    Pattern.names]
  simp only [List.mem_filterMap, hbinding]
  constructor
  · rintro ⟨s, hs, heq⟩
    cases s with
    | literal t => cases heq
    | parameter n constraint =>
      cases heq
      exact .inl ⟨⟨_, hs, rfl⟩, rfl⟩
    | wildcard =>
      cases heq
      exact .inr ⟨hs, rfl, rfl⟩
  · rintro (⟨⟨s, hs, hname⟩, rfl⟩ | ⟨hs, rfl, rfl⟩)
    · cases s with
      | literal | wildcard => cases hname
      | parameter n constraint =>
        cases hname
        exact ⟨_, hs, rfl⟩
    · exact ⟨_, hs, rfl⟩

end Written

/-- A name has one value, unless a parameter has the name of the wildcard. -/
lemma Pattern.Assigns.unique {p : Pattern} {values : String → String} {rest name v v' : String}
    (hshadowed : ¬ p.Shadowed) (h : p.Assigns values rest name v)
    (h' : p.Assigns values rest name v') : v = v' := by
  rcases h with ⟨hname, rfl⟩ | ⟨hw, hkey, rfl⟩
  · rcases h' with ⟨-, rfl⟩ | ⟨hw, rfl, -⟩
    · rfl
    · exact absurd ⟨hw, hname⟩ hshadowed
  · rcases h' with ⟨hname, -⟩ | ⟨-, -, rfl⟩
    · exact absurd ⟨hw, hkey ▸ hname⟩ hshadowed
    · rfl

lemma mem_wildcard_iff {p : Pattern} (hwf : WellFormed p.segments) :
    .wildcard ∈ p.segments ↔ p.hasWildcard = true := by
  rw [hasWildcard_iff]
  refine ⟨fun hmem => ?_, List.mem_of_getLast?⟩
  rw [← List.dropLast_append_getLast hwf.ne_nil, List.mem_append, List.mem_singleton] at hmem
  rw [List.getLast?_eq_getLast_of_ne_nil hwf.ne_nil, hmem.resolve_left hwf.wildcard_last]

/-- **Written paths are read back.** Whatever values the parameters of a pattern are given, if only
they are not empty and the constraints match them as a whole, and whatever the wildcard is given,
the path that is written with them matches. What the match gives are these values under the names of
their parameters, and the rest under the name of the wildcard, if no parameter has this name. -/
theorem written_path_matches {route : String} {m : Matcher} (h : Matcher.ofRoute route = .ok m)
    (hshadowed : ¬ m.pattern.Shadowed) {values : String → String}
    (hvalues : m.pattern.Admits values) (rest : String) :
    ∃ params, m.matchPath (m.pattern.write values rest) true = some params ∧
      ∀ name v, params.get? name = some v ↔ m.pattern.Assigns values rest name v := by
  have hm := compiled_of_ofRoute h
  have hwf := hm.wellFormed
  let cs := m.pattern.segments.map (Segment.write values rest)
  have haccepts : List.Forall₂ Segment.Accepts m.pattern.segments cs :=
    List.forall₂_map_right_iff.2 (List.forall₂_same.2 fun s hs => accepts_write hvalues hs)
  have honLine : List.Forall₂ Segment.OnLine m.pattern.segments cs :=
    List.forall₂_map_right_iff.2 (List.forall₂_same.2 fun s _ => onLine_write s)
  have hcovers : Covers m.pattern.segments (dropLeadingSlash (m.pattern.write values rest)) cs := by
    refine covers_intercalate hwf.ne_nil hwf.wildcard_last
      (haccepts.imp fun _ _ h => h.fits) fun c hc => ?_
    obtain ⟨s, hs, rfl⟩ := List.mem_map.1 hc
    exact slash_not_mem_write (hwf.each s hs)
  have hassigns {name v : String} : (name, v) ∈ bindings m.pattern.segments cs ↔
      m.pattern.Assigns values rest name v := by
    rw [mem_bindings_write, mem_wildcard_iff hwf, Pattern.Assigns]
  refine ⟨_, (matchPath_iff_covers hm).2 ⟨cs, hcovers, honLine, haccepts, rfl⟩, fun name v => ?_⟩
  rw [← hassigns]
  exact Params.get?_ofPairs_eq_some_iff fun h h' =>
    (hassigns.1 h).unique hshadowed (hassigns.1 h')

/-- A constraint that admits a letter outside ASCII, and values with slashes, a line feed and a
percent sign. -/
theorem written_path_matches_escaped :
    let values := fun name => if name = "lang" then "été" else "a/b\n%41"
    ∃ m, Matcher.ofRoute "menü/:lang([a-é]+)/:name/*" = .ok m ∧ ¬ m.pattern.Shadowed ∧
      m.pattern.Admits values ∧
      m.pattern.write values "c/ d/" =
        "/men%C3%BC/%C3%A9t%C3%A9/a%2Fb%0A%2541/c%2F%20d%2F".toList ∧
      ∃ params, m.matchPath (m.pattern.write values "c/ d/") true = some params ∧
        ∀ name v, params.get? name = some v ↔ m.pattern.Assigns values "c/ d/" name v := by
  intro values
  have hfound : (Matcher.ofRoute "menü/:lang([a-é]+)/:name/*").toOption.map (fun m =>
      (m.pattern.segments, decide m.pattern.Shadowed, m.pattern.write values "c/ d/")) =
      some ([.literal "menü", .parameter "lang" (some "[a-é]+"), .parameter "name" none, .wildcard],
        false, "/men%C3%BC/%C3%A9t%C3%A9/a%2Fb%0A%2541/c%2F%20d%2F".toList) := by decide +kernel
  have hread : (Regex.parse "[a-é]+").toOption.isSome := by decide +kernel
  have haccepts : (parseAnchored "[a-é]+").toOption.map (·.accepts "été".toList) = some true := by
    decide +kernel
  obtain ⟨m, hm, hviews⟩ := Result.eq_ok_of_view hfound
  simp only [Prod.mk.injEq] at hviews
  obtain ⟨hsegments, hshadowed, hwritten⟩ := hviews
  have hadmits : m.pattern.Admits values := by
    intro name constraint hmem
    simp only [hsegments, List.mem_cons, List.not_mem_nil, Segment.parameter.injEq, reduceCtorEq,
      or_false, false_or] at hmem
    rcases hmem with ⟨rfl, rfl⟩ | ⟨rfl, rfl⟩
    · refine ⟨by decide, ?_⟩
      rintro _ ⟨⟩
      obtain ⟨e, he⟩ := Option.isSome_iff_exists.1 hread
      obtain ⟨e', he', hwhole⟩ := Result.eq_ok_of_view haccepts
      rw [Result.toOption_eq_some] at he
      exact ⟨e, he, (accepts_iff_spans he he' _).1 hwhole⟩
    · refine ⟨by decide, ?_⟩
      rintro _ ⟨⟩
  have hnot := of_decide_eq_false hshadowed
  exact ⟨m, hm, hnot, hadmits, hwritten, written_path_matches hm hnot hadmits "c/ d/"⟩

end Route

end AppLinks
