import AppLinks.Proofs.Route.Values

/-!
Parameters and the components of a path.

What a parameter captures has a slash or the end of the path behind it, and, unless it is what the
pattern begins with, a slash in front of it. So it is a whole component. What a pattern begins with
may begin within a component if matches may begin anywhere, but a match begins at the first place
where it can: a parameter leaves text of its component out only if its constraint refuses the whole
component.
-/

namespace AppLinks.Route

/-- A component of a path, which is a longest stretch of it without slashes. -/
def IsComponent (path w : List Char) : Prop := w ≠ [] ∧ w ∈ path.splitOn '/'

instance (path w : List Char) : Decidable (IsComponent path w) :=
  inferInstanceAs (Decidable (_ ∧ _))

/-! ### Stretches of a path -/

/-- A stretch without slashes between two slashes, or the ends of the path, is a component. -/
lemma isComponent_between {a w b : List Char} (hne : w ≠ []) (hw : '/' ∉ w)
    (ha : ∀ x ∈ a.getLast?, x = '/') (hb : ∀ x ∈ b.head?, x = '/') :
    IsComponent (a ++ w ++ b) w := by
  have hfirst : w ∈ (w ++ b).splitOn '/' := by
    cases b with
    | nil => rw [List.append_nil, List.splitOn_eq_singleton hw]; exact List.mem_singleton_self w
    | cons x b =>
      obtain rfl := hb x rfl
      rw [List.splitOn_append_cons_self_of_not_mem hw]
      exact List.mem_cons_self
  refine ⟨hne, ?_⟩
  rcases List.eq_nil_or_concat a with rfl | ⟨a, x, rfl⟩
  · exact hfirst
  · rw [List.concat_eq_append] at ha ⊢
    obtain rfl := ha x (by rw [List.getLast?_concat]; rfl)
    rw [List.append_assoc, List.append_assoc, List.singleton_append,
      List.splitOn_append_cons_self]
    exact List.mem_append_right _ hfirst

lemma exists_last_run (p : List Char) :
    ∃ d u, p = d ++ u ∧ '/' ∉ u ∧ ∀ x ∈ d.getLast?, x = '/' := by
  induction p using List.reverseRecOn with
  | nil => exact ⟨[], [], rfl, List.not_mem_nil, nofun⟩
  | append_singleton p x ih =>
    by_cases hx : x = '/'
    · subst hx
      refine ⟨p ++ ['/'], [], (List.append_nil _).symm, List.not_mem_nil, ?_⟩
      intro y hy
      rw [List.getLast?_concat] at hy
      exact (Option.some.inj hy).symm
    · obtain ⟨d, u, rfl, hu, hd⟩ := ih
      refine ⟨d, u ++ [x], List.append_assoc d u [x], ?_, hd⟩
      simpa [hu] using Ne.symm hx

/-- What a segment stands for has a slash or the end behind it, and a slash in front of it unless
it is the first one. -/
lemma Covers.between {ss : List Segment} {p : List Char} {cs : List (List Char)}
    (h : Covers ss p cs) {i : Nat} {s : Segment} (hi : ss[i]? = some s) (hs : s ≠ .wildcard) :
    ∃ a c b, p = a ++ c ++ b ∧ cs[i]? = some c ∧ '/' ∉ c ∧
      (if i = 0 then a = [] else a.getLast? = some '/') ∧ ∀ x ∈ b.head?, x = '/' := by
  induction h generalizing i with
  | @last t c e _ _ hslash he =>
    cases i with
    | zero => exact ⟨[], c, e, rfl, rfl, hslash, rfl, by rcases he with rfl | rfl <;> simp⟩
    | succ i => cases hi
  | remainder =>
    cases i with
    | zero => exact absurd (Option.some.inj hi).symm hs
    | succ i => cases hi
  | @cons t ss c r cs _ _ _ hslash _ ih =>
    cases i with
    | zero => exact ⟨[], c, '/' :: r, rfl, rfl, hslash, rfl, by simp⟩
    | succ i =>
      obtain ⟨a, c', b, rfl, hc', hslash', ha, hb⟩ := ih hi
      refine ⟨c ++ '/' :: a, c', b, by simp, hc', hslash', ?_, hb⟩
      rw [if_neg (Nat.succ_ne_zero i), List.getLast?_append, List.getLast?_cons]
      split at ha
      · rw [ha]
        rfl
      · rw [ha]
        rfl

/-- A parameter in front can take more of a path in front. -/
lemma Covers.extend {name : String} {constraint : Option String} {ss : List Segment}
    {p c u : List Char} {cs : List (List Char)}
    (h : Covers (.parameter name constraint :: ss) p (c :: cs)) (hu : '/' ∉ u) :
    Covers (.parameter name constraint :: ss) (u ++ p) ((u ++ c) :: cs) := by
  have hfits (hc : c ≠ []) : (Segment.parameter name constraint).Fits (u ++ c) :=
    fun h => hc (List.append_eq_nil_iff.1 h).2
  have hjoin (hc : '/' ∉ c) : '/' ∉ u ++ c := fun h => (List.mem_append.1 h).elim hu hc
  cases h with
  | last hw hfit hslash he =>
    rw [← List.append_assoc]
    exact .last hw (hfits hfit) (hjoin hslash) he
  | cons hw hne hfit hslash hrest =>
    rw [← List.append_assoc]
    exact .cons hw hne (hfits hfit) (hjoin hslash) hrest

/-! ### Where a match begins -/

section Match

variable {m : Matcher} {path : List Char} {start : Nat} {cs : List (List Char)}

/-- What is in front of what the segments of a match take ends where the match begins, or behind
the slash there. -/
lemma exists_front (hstart : start ≤ path.length) :
    ∃ front, path = front ++ dropLeadingSlash (path.drop start) ∧
      (front.getLast? = some '/' ∨
        front.length = start ∧ dropLeadingSlash (path.drop start) = path.drop start) := by
  have htake : (path.take start).length = start := List.length_take_of_le hstart
  by_cases hslash : (path.drop start).head? = some '/'
  · obtain ⟨r, hr⟩ := List.head?_eq_some_iff.1 hslash
    refine ⟨path.take start ++ ['/'], ?_, .inl List.getLast?_concat⟩
    have hdrop : dropLeadingSlash ('/' :: r) = r := rfl
    rw [hr, hdrop, List.append_assoc, List.singleton_append, ← hr, List.take_append_drop]
  · rw [dropLeadingSlash_of_head? hslash]
    exact ⟨path.take start, (List.take_append_drop _ _).symm, .inr ⟨htake, rfl⟩⟩

/-- If a parameter in front of a pattern accepts more text in front, there is a match from there. -/
lemma matchPath_extend (hm : Compiled m) {name : String} {constraint : Option String}
    {ss : List Segment} (hss : m.pattern.segments = .parameter name constraint :: ss)
    {p c u : List Char} (hcovers : Covers m.pattern.segments p (c :: cs))
    (hon : List.Forall₂ Segment.OnLine m.pattern.segments (c :: cs))
    (haccepts : List.Forall₂ Segment.Accepts m.pattern.segments (c :: cs)) (hne : u ≠ [])
    (hu : '/' ∉ u) (hmore : (Segment.parameter name constraint).Accepts (u ++ c)) :
    m.matchPath (u ++ p) true ≠ none := by
  have hhead : (u ++ p).head? ≠ some '/' := by
    rw [List.head?_append_of_ne_nil _ hne]
    exact fun h => hu (List.mem_of_head? h)
  refine Option.ne_none_iff_exists'.2
    ⟨_, (matchPath_iff_covers hm).2 ⟨(u ++ c) :: cs, ?_, ?_, ?_, rfl⟩⟩
  all_goals rw [hss] at hcovers hon haccepts ⊢
  · rw [dropLeadingSlash_of_head? hhead]
    exact hcovers.extend hu
  · exact .cons trivial (List.forall₂_cons.1 hon).2
  · exact .cons hmore (List.forall₂_cons.1 haccepts).2

/-- What a parameter in front of a pattern captures is the end of a component. It is all of it if
the constraint holds for all of it, since the match would begin there. -/
lemma first_component (hm : Compiled m) (hstart : start ≤ path.length)
    (hfirst : ∀ q < start, m.matchPath (path.drop q) true = none)
    {name : String} {constraint : Option String} {ss : List Segment}
    (hss : m.pattern.segments = .parameter name constraint :: ss) {c : List Char}
    (hcovers : Covers m.pattern.segments (dropLeadingSlash (path.drop start)) (c :: cs))
    (hon : List.Forall₂ Segment.OnLine m.pattern.segments (c :: cs))
    (haccepts : List.Forall₂ Segment.Accepts m.pattern.segments (c :: cs)) :
    ∃ w, IsComponent path w ∧ c <:+ w ∧ (start = 0 → c = w) ∧
      ((Segment.parameter name constraint).Accepts w → c = w) := by
  have hhead : m.pattern.segments[0]? = some (.parameter name constraint) := by
    rw [hss]
    rfl
  have hne : c ≠ [] := by
    rw [hss] at haccepts
    exact (List.forall₂_cons.1 haccepts).1.1
  obtain ⟨front, hpath, hfront⟩ := exists_front hstart
  obtain ⟨_, _, b, hp, ⟨⟩, hslash, rfl, hb⟩ := hcovers.between hhead nofun
  -- `u` is the part of the component that is in front of the match
  obtain ⟨d, u, rfl, hu, hd⟩ := exists_last_run front
  have hw : IsComponent path (u ++ c) := by
    have hslash' : '/' ∉ u ++ c := fun h => (List.mem_append.1 h).elim hu hslash
    have h := isComponent_between (by simp [hne]) hslash' hd hb
    rw [hpath, hp]
    simpa using h
  have hwhole (h : u = []) : c = u ++ c := by rw [h, List.nil_append]
  refine ⟨u ++ c, hw, List.suffix_append u c, ?_⟩
  rcases hfront with hbreak | ⟨hlen, hdrop⟩
  · have hnil : u = [] := by
      by_contra hnil
      rw [List.getLast?_append_of_ne_nil _ hnil] at hbreak
      exact hu (List.mem_of_getLast? hbreak)
    exact ⟨fun _ => hwhole hnil, fun _ => hwhole hnil⟩
  rw [List.length_append] at hlen
  refine ⟨fun hzero => hwhole (List.eq_nil_of_length_eq_zero (by omega)), fun hmore => ?_⟩
  by_contra hpart
  have hnil : u ≠ [] := fun h => hpart (hwhole h)
  have hbefore : d.length < start := by
    have hpos := List.length_pos_iff.2 hnil
    omega
  have hrest : path.drop d.length = u ++ dropLeadingSlash (path.drop start) := by
    conv_lhs => rw [hpath, List.append_assoc, List.drop_left]
  refine matchPath_extend hm hss hcovers hon haccepts hnil hu hmore ?_
  rw [← hrest]
  exact hfirst d.length hbefore

/-- What any other parameter captures is a component. -/
lemma later_component {i : Nat} (hi : i ≠ 0) {s : Segment} (hs : m.pattern.segments[i]? = some s)
    (hw : s ≠ .wildcard) (hstart : start ≤ path.length)
    (hcovers : Covers m.pattern.segments (dropLeadingSlash (path.drop start)) cs) {c : List Char}
    (hc : cs[i]? = some c) (hne : c ≠ []) : IsComponent path c := by
  obtain ⟨front, hpath, -⟩ := exists_front hstart
  obtain ⟨a, c', b, hp, hc', hslash, ha, hb⟩ := hcovers.between hs hw
  obtain rfl : c = c' := Option.some.inj (hc.symm.trans hc')
  rw [if_neg hi] at ha
  have hfront : ∀ x ∈ (front ++ a).getLast?, x = '/' := by
    rw [List.getLast?_append, ha]
    exact fun x hx => (Option.some.inj hx).symm
  have h := isComponent_between hne hslash hfront hb
  rw [hpath, hp]
  simpa using h

end Match

/-- **Parameters capture whole components**, unless a pattern begins with a parameter, its match may
begin anywhere, and the constraint refuses the component as a whole: the value of a parameter is the
decoded text of the end of a component, and its constraint matches this text. This is all of the
component if matches have to begin where the path begins, if the parameter is not the first segment,
or if it has no constraint; and otherwise if and only if the constraint matches the decoded text of
all of the component. A parameter with the name of a wildcard is left out, which has no value of its
own. -/
theorem parameter_component {route : String} {m : Matcher} (h : Matcher.ofRoute route = .ok m)
    {path : List Char} {anchored : Bool} {params : Params}
    (hmatch : m.matchPath path anchored = some params) {i : Nat} {name : String}
    {constraint : Option String}
    (hi : m.pattern.segments[i]? = some (.parameter name constraint))
    (hname : name = wildcardKey → m.pattern.hasWildcard = false) :
    ∃ w c, IsComponent path w ∧ c <:+ w ∧
      params.get? name = some (String.ofList (Text.Percent.decodeText c)) ∧
      (Segment.parameter name constraint).Accepts c ∧
      (c = w ↔ (Segment.parameter name constraint).Accepts w) ∧
      (anchored = true ∨ i ≠ 0 ∨ constraint = none → c = w) := by
  have hm := compiled_of_ofRoute h
  obtain ⟨start, hstart, hanchored, hparams, hfirst⟩ := exists_start hm hmatch
  obtain ⟨cs, hcovers, hon, haccepts, rfl⟩ := (matchPath_iff_covers hm).1 hparams
  obtain ⟨c, hc, hvalue⟩ := binds_parameter hm.wellFormed haccepts hi hname
  have hacc : (Segment.parameter name constraint).Accepts c := by
    obtain ⟨hlt, hs⟩ := List.getElem?_eq_some_iff.1 hi
    obtain ⟨hlt', hc'⟩ := List.getElem?_eq_some_iff.1 hc
    rw [← hs, ← hc']
    exact haccepts.get hlt hlt'
  cases i with
  | succ i =>
    have hw := later_component (Nat.succ_ne_zero i) hi nofun hstart hcovers hc hacc.1
    exact ⟨c, c, hw, List.suffix_refl c, hvalue, hacc, iff_of_true rfl hacc, fun _ => rfl⟩
  | zero =>
    obtain ⟨ss, hss⟩ : ∃ ss, m.pattern.segments = .parameter name constraint :: ss :=
      List.head?_eq_some_iff.1 (List.head?_eq_getElem?.trans hi)
    obtain ⟨cs', rfl⟩ : ∃ cs', cs = c :: cs' :=
      List.head?_eq_some_iff.1 (List.head?_eq_getElem?.trans hc)
    obtain ⟨w, hw, hsuffix, hzero, hall⟩ :=
      first_component hm hstart hfirst hss hcovers hon haccepts
    refine ⟨w, c, hw, hsuffix, hvalue, hacc, ⟨fun heq => heq ▸ hacc, hall⟩, ?_⟩
    rintro (hanch | hpos | rfl)
    · exact hzero (hanchored hanch)
    · exact absurd rfl hpos
    · exact hall ⟨hw.1, nofun⟩

/-- A constraint that refuses what is in front of the component that it accepts. -/
theorem parameter_component_retry : ∃ m, Matcher.ofRoute ":id([0-9]+)/*" = .ok m ∧
    m.matchPath "/x/%312/rest".toList false =
      some (Params.ofPairs [("id", "12"), ("*", "rest")]) ∧
    m.pattern.segments[0]? = some (.parameter "id" (some "[0-9]+")) ∧
    ∃ w c, IsComponent "/x/%312/rest".toList w ∧ c <:+ w ∧
      (Params.ofPairs [("id", "12"), ("*", "rest")]).get? "id" =
        some (String.ofList (Text.Percent.decodeText c)) ∧
      (Segment.parameter "id" (some "[0-9]+")).Accepts c ∧
      (c = w ↔ (Segment.parameter "id" (some "[0-9]+")).Accepts w) := by
  have hfound : (Matcher.ofRoute ":id([0-9]+)/*").toOption.map (fun m =>
      (m.matchPath "/x/%312/rest".toList false, m.pattern.segments[0]?)) =
        some (some (Params.ofPairs [("id", "12"), ("*", "rest")]),
          some (.parameter "id" (some "[0-9]+"))) := by decide +kernel
  obtain ⟨m, hm, hview⟩ := Result.eq_ok_of_view hfound
  obtain ⟨hmatch, hi⟩ := Prod.mk.inj hview
  obtain ⟨w, c, hw, hsuffix, hvalue, hacc, hall, -⟩ :=
    parameter_component hm hmatch hi fun h => absurd h (by decide)
  exact ⟨m, hm, hmatch, hi, w, c, hw, hsuffix, hvalue, hacc, hall⟩

/-- A match may begin within an escape, and then the value of the parameter is not that of the
component, which the constraint refuses. -/
theorem parameter_component_within : ∃ m params, Matcher.ofRoute ":id([0-9]+)" = .ok m ∧
    m.matchPath "/12%20".toList false = some params ∧ params.get? "id" = some "20" ∧
    ∀ w, IsComponent "/12%20".toList w → String.ofList (Text.Percent.decodeText w) = "12 " := by
  have hfound : (Matcher.ofRoute ":id([0-9]+)").toOption.map
      (·.matchPath "/12%20".toList false) = some (some (Params.ofPairs [("id", "20")])) := by
    decide +kernel
  have hsplit : "/12%20".toList.splitOn '/' = [[], "12%20".toList] := by decide +kernel
  obtain ⟨m, hm, hmatch⟩ := Result.eq_ok_of_view hfound
  refine ⟨m, _, hm, hmatch, rfl, ?_⟩
  rintro w ⟨hne, hw⟩
  rw [hsplit] at hw
  obtain rfl : w = "12%20".toList := by simpa [hne] using hw
  decide +kernel

end AppLinks.Route
