import AppLinks.Proofs.Route.Captures
import AppLinks.Proofs.Url.OneLine
import AppLinks.Router.Basic
import Mathlib.Data.List.Forall2

/-!
Matching a path from its beginning is comparing its components with the segments of a pattern.

`components` cuts a path into what each segment stands for, and `Segment.Accepts` says what of it a
segment asks for. The components that cover a path are those into which it is cut, and what is read
from their captures are the bindings.
-/

namespace AppLinks.Route

open Regex Result

/-! ### Comparing components -/

/-- What each of some segments stands for in a path without a slash in front. A slash at the end
does not count, unless a wildcard takes it with all that is left for it. -/
def cut (ss : List Segment) (p : List Char) : Option (List (List Char)) :=
  if ss.getLast? = some .wildcard then
    let cs := p.splitOn '/'
    let n := ss.length - 1
    if n < cs.length then some (cs.take n ++ [['/'].intercalate (cs.drop n)]) else none
  else
    let cs := (dropTrailingSlash p).splitOn '/'
    if cs.length = ss.length then some cs else none

/-- What each of some segments stands for in a path. -/
def components (ss : List Segment) (path : List Char) : Option (List (List Char)) :=
  cut ss (dropLeadingSlash path)

/-- Whether a component is what a segment asks for: the encoded text of a literal, or a text that
is not empty and whose decoded form the constraint matches as a whole. -/
def Segment.Accepts : Segment → List Char → Prop
  | .literal t, c => c = literalForm t
  | .parameter _ constraint, c => c ≠ [] ∧ ∀ t ∈ constraint, ∃ e, Regex.parse t = .ok e ∧
      Spans (Text.Percent.decodeText c) e 0 (Text.Percent.decodeText c).length
  | .wildcard, _ => True

/-- The name and the value that a segment gives to its component. -/
def Segment.binding : Segment → List Char → Option (String × String)
  | .literal _, _ => none
  | .parameter name _, c => some (name, String.ofList (Text.Percent.decodeText c))
  | .wildcard, c => some (wildcardKey, String.ofList (Text.Percent.decodeText c))

/-- The names and values that segments give to their components, in order. -/
def bindings (ss : List Segment) (cs : List (List Char)) : List (String × String) :=
  (List.zipWith Segment.binding ss cs).reduceOption

/-! ### Cutting a path into components -/

lemma dropTrailingSlash_of_not_mem {c : List Char} (hc : '/' ∉ c) : dropTrailingSlash c = c :=
  if_neg fun h => hc (List.mem_of_getLast? h)

lemma dropTrailingSlash_concat (c : List Char) : dropTrailingSlash (c ++ ['/']) = c := by
  rw [dropTrailingSlash, if_pos List.getLast?_concat, List.dropLast_concat]

lemma dropTrailingSlash_append {c r : List Char} (hr : r ≠ []) :
    dropTrailingSlash (c ++ '/' :: r) = c ++ '/' :: dropTrailingSlash r := by
  obtain ⟨r', x, rfl⟩ := (List.eq_nil_or_concat r).resolve_left hr
  rw [List.concat_eq_append]
  by_cases hx : x = '/'
  · subst hx
    rw [← List.cons_append, ← List.append_assoc, dropTrailingSlash_concat, dropTrailingSlash_concat]
  · have hkeep (l : List Char) : dropTrailingSlash (l ++ [x]) = l ++ [x] := by
      rw [dropTrailingSlash, if_neg (by simpa using hx)]
    rw [← List.cons_append, ← List.append_assoc, hkeep, hkeep, ← List.cons_append,
      ← List.append_assoc]

lemma cut_cons {s : Segment} {ss : List Segment} {c r : List Char} (hss : ss ≠ [])
    (hc : '/' ∉ c) (hr : r ≠ [] ∨ ss.getLast? = some .wildcard) :
    cut (s :: ss) (c ++ '/' :: r) = (cut ss r).map (c :: ·) := by
  obtain ⟨t, ts, rfl⟩ := List.exists_cons_of_ne_nil hss
  rw [cut, cut, List.getLast?_cons_cons]
  dsimp only
  by_cases hw : (t :: ts).getLast? = some .wildcard
  · rw [if_pos hw, if_pos hw, List.splitOn_append_cons_self_of_not_mem hc]
    simp only [List.length_cons, Nat.add_sub_cancel, Nat.add_lt_add_iff_right, List.take_succ_cons,
      List.drop_succ_cons, List.cons_append]
    split <;> rfl
  · rw [if_neg hw, if_neg hw, dropTrailingSlash_append (hr.resolve_right hw),
      List.splitOn_append_cons_self_of_not_mem hc]
    simp only [List.length_cons, Nat.add_right_cancel_iff]
    split <;> rfl

lemma eq_of_dropTrailingSlash (p : List Char) :
    ∃ e, p = dropTrailingSlash p ++ e ∧ (e = [] ∨ e = ['/']) := by
  unfold dropTrailingSlash
  split
  · rename_i h
    obtain ⟨q, rfl⟩ := List.getLast?_eq_some_iff.1 h
    exact ⟨['/'], by rw [List.dropLast_concat], Or.inr rfl⟩
  · exact ⟨[], (List.append_nil p).symm, Or.inl rfl⟩

lemma splitOn_eq_singleton_iff {p c : List Char} : p.splitOn '/' = [c] ↔ p = c ∧ '/' ∉ c := by
  refine ⟨?_, ?_⟩
  · intro h
    have hp : ['/'].intercalate (p.splitOn '/') = p := List.intercalate_splitOn '/'
    rw [h, List.intercalate_singleton] at hp
    subst hp
    refine ⟨rfl, fun hmem => ?_⟩
    obtain ⟨a, b, rfl, ha⟩ := List.eq_append_cons_of_mem hmem
    rw [List.splitOn_append_cons_self_of_not_mem ha] at h
    exact List.splitOn_ne_nil '/' b (List.cons.inj h).2
  · rintro ⟨rfl, hc⟩
    exact List.splitOn_eq_singleton hc

lemma cut_single {s : Segment} (hw : s ≠ .wildcard) {p c : List Char} :
    cut [s] p = some [c] ↔ dropTrailingSlash p = c ∧ '/' ∉ c := by
  have hlast : [s].getLast? ≠ some .wildcard := by simpa using hw
  rw [cut, if_neg hlast, ← splitOn_eq_singleton_iff]
  dsimp only
  refine ⟨?_, ?_⟩
  · intro h
    split at h
    · exact Option.some_inj.1 h
    · cases h
  · intro h
    rw [h]
    rfl

/-- What segments take of a path is what each of them stands for. -/
lemma cut_of_covers {ss : List Segment} {p : List Char} {cs : List (List Char)}
    (h : Covers ss p cs) (hss : ∀ s ∈ ss, s.WellFormed) :
    cut ss p = some cs ∧ List.Forall₂ Segment.Fits ss cs := by
  induction h with
  | @last s c e hw hfit hslash he =>
    refine ⟨(cut_single hw).2 ⟨?_, hslash⟩, .cons hfit .nil⟩
    rcases he with rfl | rfl
    · rw [List.append_nil, dropTrailingSlash_of_not_mem hslash]
    · exact dropTrailingSlash_concat c
  | remainder => exact ⟨by simp [cut], .cons trivial .nil⟩
  | @cons s ss c r cs hw hne hfit hslash hcs ih =>
    obtain ⟨hcut, hfits⟩ := ih fun t ht => hss t (List.mem_cons_of_mem _ ht)
    have hr : r ≠ [] ∨ ss.getLast? = some .wildcard := by
      -- only a wildcard is content with nothing
      by_contra hnot
      obtain ⟨hr, hlast⟩ := not_or.1 hnot
      rw [covers_nil hcs (not_ne_iff.1 hr) fun t ht => hss t (List.mem_cons_of_mem _ ht)] at hlast
      exact hlast rfl
    refine ⟨?_, .cons hfit hfits⟩
    rw [cut_cons hne hslash hr, hcut]
    rfl

lemma slash_mem_of_splitOn {p : List Char} (h : 1 < (p.splitOn '/').length) : '/' ∈ p := by
  by_contra hp
  rw [List.splitOn_eq_singleton hp] at h
  exact absurd h (Nat.lt_irrefl 1)

/-- A path that is cut for several segments has a slash behind what the first one stands for. -/
lemma exists_break_of_cut {s : Segment} {ss : List Segment} (hss : ss ≠ []) {p : List Char}
    {cs : List (List Char)} (h : cut (s :: ss) p = some cs) :
    ∃ c r, p = c ++ '/' :: r ∧ '/' ∉ c ∧ (r ≠ [] ∨ ss.getLast? = some .wildcard) := by
  obtain ⟨t, ts, rfl⟩ := List.exists_cons_of_ne_nil hss
  rw [cut, List.getLast?_cons_cons] at h
  dsimp only at h
  by_cases hw : (t :: ts).getLast? = some .wildcard
  · rw [if_pos hw] at h
    split at h
    · rename_i hlen
      have hp := slash_mem_of_splitOn (p := p) (by simp only [List.length_cons] at hlen; omega)
      obtain ⟨c, r, rfl, hc⟩ := List.eq_append_cons_of_mem hp
      exact ⟨c, r, rfl, hc, Or.inr hw⟩
    · cases h
  · rw [if_neg hw] at h
    split at h
    · rename_i hlen
      have hp := slash_mem_of_splitOn (p := dropTrailingSlash p)
        (by simp only [List.length_cons] at hlen; omega)
      obtain ⟨e, he, -⟩ := eq_of_dropTrailingSlash p
      have hmem : '/' ∈ p := by
        rw [he]
        exact List.mem_append_left _ hp
      obtain ⟨c, r, rfl, hc⟩ := List.eq_append_cons_of_mem hmem
      refine ⟨c, r, rfl, hc, Or.inl ?_⟩
      rintro rfl
      rw [dropTrailingSlash_concat] at hp
      exact hc hp
    · cases h

lemma covers_of_cut {ss : List Segment} (hne : ss ≠ []) (hlast : .wildcard ∉ ss.dropLast)
    {p : List Char} {cs : List (List Char)} (hcut : cut ss p = some cs)
    (hfits : List.Forall₂ Segment.Fits ss cs) : Covers ss p cs := by
  induction ss generalizing p cs with
  | nil => exact absurd rfl hne
  | cons s ss ih =>
    obtain ⟨hwild, hlast'⟩ := wildcard_last_cons.1 hlast
    cases hfits with
    | @cons _ c _ cs hfit hfits =>
    by_cases hnil : ss = []
    · subst hnil
      cases hfits
      by_cases hw : s = .wildcard
      · subst hw
        obtain ⟨-, rfl⟩ : 0 < (p.splitOn '/').length ∧ p = c := by simpa [cut] using hcut
        exact .remainder
      · obtain ⟨rfl, hslash⟩ := (cut_single hw).1 hcut
        obtain ⟨e, hp, he⟩ := eq_of_dropTrailingSlash p
        have h := Covers.last hw hfit hslash he
        rwa [← hp] at h
    · have hw : s ≠ .wildcard := fun h => hnil (hwild h)
      obtain ⟨d, r, rfl, hd, hr⟩ := exists_break_of_cut hnil hcut
      rw [cut_cons hnil hd hr] at hcut
      obtain ⟨cs', hcut', heq⟩ := Option.map_eq_some_iff.1 hcut
      obtain ⟨rfl, rfl⟩ := List.cons.inj heq
      exact .cons hw hnil hfit hd (ih hnil hlast' hcut' hfits)

/-! ### Reading the captures -/

lemma Segment.Accepts.fits {s : Segment} {c : List Char} (h : s.Accepts c) : s.Fits c := by
  cases s with
  | literal t => exact h
  | parameter name constraint => exact h.1
  | wildcard => trivial

lemma bindings_cons (s : Segment) (ss : List Segment) (c : List Char) (cs : List (List Char)) :
    bindings (s :: ss) (c :: cs) = (s.binding c).toList ++ bindings ss cs := by
  rw [bindings, List.zipWith_cons_cons]
  cases s.binding c <;> rfl

lemma map_fst_capturesOf {ss : List Segment} {cs : List (List Char)}
    (h : List.Forall₂ Segment.Fits ss cs) (index : Nat) :
    (capturesOf index ss cs).map Prod.fst = groupsFrom index ss := by
  induction h generalizing index with
  | nil => rfl
  | @cons s c ss cs _ _ ih =>
    rw [capturesOf, groupsFrom, List.map_append, ih]
    cases s.group? index <;> rfl

/-- A stretch that a group of a parameter has captured gives a value if the constraint matches the
whole of it. -/
lemma accepts_parameter {name : String} {constraint : Option String} {index : Nat}
    (hs : (Segment.parameter name constraint).WellFormed) {cap : Option Capture}
    (hcap : Capture.ofSegment index (.parameter name constraint) = .ok cap) {c : List Char}
    (hc : c ≠ []) : ∃ compiled, cap = some (.parameter name (groupName index) compiled) ∧
      (compiled.all (·.accepts (Text.Percent.decodeText c)) = true ↔
        (Segment.parameter name constraint).Accepts c) := by
  cases constraint with
  | none =>
    cases hcap
    exact ⟨none, rfl, by simp [Segment.Accepts, hc]⟩
  | some t =>
    obtain ⟨e', he', hcap⟩ := bind_eq_ok.1 hcap
    obtain ⟨-, ⟨e, he⟩, -⟩ := hs.2.2 t rfl
    refine ⟨some e', (pure_eq_ok.1 hcap).symm, ?_⟩
    rw [Option.all_some, accepts_iff_spans he he', Segment.Accepts]
    simp [hc, he]

/-- Reading captured stretches: there are values if every constraint holds, and they are those of
the segments in order. -/
lemma extract_eq_some_iff {ss : List Segment} {cs : List (List Char)}
    (hfits : List.Forall₂ Segment.Fits ss cs) (hss : ∀ s ∈ ss, s.WellFormed) {index : Nat}
    {caps : List Capture} (hcaps : capturesFrom index ss = .ok caps)
    {found : List (String × List Char)}
    (hfound : ∀ n c, (n, c) ∈ capturesOf index ss cs → found.lookup n = some c)
    {params out : Params} :
    extract found params caps = some out ↔
      List.Forall₂ Segment.Accepts ss cs ∧ out = params.insertAll (bindings ss cs) := by
  induction hfits generalizing index caps params with
  | nil =>
    cases hcaps
    rw [extract, Option.some_inj, and_iff_right .nil]
    exact eq_comm
  | @cons s c ss cs hfit hfits ih =>
    obtain ⟨cap, hcap, hcaps⟩ := bind_eq_ok.1 hcaps
    obtain ⟨caps', hcaps', hcaps⟩ := bind_eq_ok.1 hcaps
    obtain rfl := pure_eq_ok.1 hcaps
    have hs := hss s (by simp)
    have hfound' : ∀ n c, (n, c) ∈ capturesOf (index + 1) ss cs → found.lookup n = some c :=
      fun n c h => hfound n c (List.mem_append_right _ h)
    have ih' {params : Params} : extract found params caps' = some out ↔
        List.Forall₂ Segment.Accepts ss cs ∧ out = params.insertAll (bindings ss cs) :=
      ih (fun t ht => hss t (List.mem_cons_of_mem _ ht)) hcaps' hfound'
    rw [bindings_cons, List.forall₂_cons]
    cases s with
    | literal t =>
      cases hcap
      have haccepts : (Segment.literal t).Accepts c := hfit
      rw [and_iff_right haccepts]
      exact ih'
    | parameter name constraint =>
      obtain ⟨compiled, rfl, haccepts⟩ := accepts_parameter hs hcap hfit
      have hlookup := hfound (groupName index) c (by simp [capturesOf, Segment.group?])
      simp only [Option.toList_some, List.singleton_append, extract, hlookup]
      rw [← haccepts]
      by_cases hall : compiled.all (·.accepts (Text.Percent.decodeText c)) = true
      · rw [if_pos hall, and_iff_right hall]
        exact ih'
      · rw [if_neg hall]
        simp [hall]
    | wildcard =>
      cases hcap
      have hlookup := hfound wildcardGroup c (by simp [capturesOf, Segment.group?])
      have haccepts : Segment.wildcard.Accepts c := trivial
      rw [and_iff_right haccepts]
      simp only [Option.toList_some, List.singleton_append, extract, hlookup]
      exact ih'

/-- What a match from the beginning gives: the values of components that cover the path. -/
lemma matchPath_iff_covers {m : Matcher} (hm : Compiled m) {path : List Char} {params : Params} :
    m.matchPath path true = some params ↔
      ∃ cs, Covers m.pattern.segments (dropLeadingSlash path) cs ∧
        List.Forall₂ Segment.OnLine m.pattern.segments cs ∧
        List.Forall₂ Segment.Accepts m.pattern.segments cs ∧
        params = Params.ofPairs (bindings m.pattern.segments cs) := by
  have hwf := hm.wellFormed
  have hextract {cs : List (List Char)} (hfits : List.Forall₂ Segment.Fits m.pattern.segments cs) :
      extract (capturesOf 0 m.pattern.segments cs).reverse .empty m.captures = some params ↔
        List.Forall₂ Segment.Accepts m.pattern.segments cs ∧
          params = Params.ofPairs (bindings m.pattern.segments cs) := by
    refine extract_eq_some_iff hfits hwf.each hm.captures fun n c hmem =>
      Params.lookup_of_mem ?_ ?_
    · rw [List.map_reverse, List.nodup_reverse, map_fst_capturesOf hfits]
      exact nodup_groupsFrom 0 hwf.wildcard_last
    · exact List.mem_reverse.2 hmem
  rw [matchPath_anchored hm, Option.bind_eq_some_iff]
  refine ⟨?_, ?_⟩
  · rintro ⟨out, hout, hparams⟩
    obtain ⟨cs, hcs, hon, rfl⟩ := (captured_path hwf).1 hout
    exact ⟨cs, hcs, hon, (hextract (cut_of_covers hcs hwf.each).2).1 hparams⟩
  · rintro ⟨cs, hcs, hon, haccepts, rfl⟩
    exact ⟨_, (captured_path hwf).2 ⟨cs, hcs, hon, rfl⟩,
      (hextract (cut_of_covers hcs hwf.each).2).2 ⟨haccepts, rfl⟩⟩

lemma matchPath_eq_some_iff {m : Matcher} (hm : Compiled m) {path : List Char}
    (hline : '\n' ∉ path) (params : Params) :
    m.matchPath path true = some params ↔
      ∃ cs, components m.pattern.segments path = some cs ∧
        List.Forall₂ Segment.Accepts m.pattern.segments cs ∧
        params = Params.ofPairs (bindings m.pattern.segments cs) := by
  have hwf := hm.wellFormed
  rw [matchPath_iff_covers hm]
  refine ⟨?_, ?_⟩
  · rintro ⟨cs, hcs, -, haccepts, hparams⟩
    exact ⟨cs, (cut_of_covers hcs hwf.each).1, haccepts, hparams⟩
  · rintro ⟨cs, hcut, haccepts, hparams⟩
    have hfits := haccepts.imp fun _ _ h => Segment.Accepts.fits h
    have hcs := covers_of_cut hwf.ne_nil hwf.wildcard_last hcut hfits
    exact ⟨cs, hcs, hcs.onLine fun h => hline ((dropLeadingSlash_suffix path).subset h), haccepts,
      hparams⟩

/-! ### Paths of URLs -/

lemma oneLine_normalize (n : Normalizer) {u : Url} (hu : Url.OneLine (rawRoute u)) :
    Url.OneLine (n.normalize u) := by
  have hroot {r : List Char} (hr : Url.OneLine r) : Url.OneLine (root r) := by
    unfold root
    split
    · exact hr
    · simpa using hr
  have hsite {r : List Char} (hr : Url.OneLine r) : Url.OneLine (dropSite u r) := by
    unfold dropSite
    dsimp only
    split
    · exact hr.of_subset (List.drop_subset _ _)
    · exact hr
  have htrim {r : List Char} (hr : Url.OneLine r) : Url.OneLine (n.trim r) := by
    unfold Normalizer.trim
    split
    · have hrest := hr.of_subset (List.tail_sublist r).subset
      have hdrop := hrest.of_subset (List.dropWhile_sublist (· ≠ '/')).subset
      simpa [dropLeading] using hdrop.of_subset (List.tail_sublist _).subset
    · exact hr
  unfold Normalizer.normalize Normalizer.normalizeRoute
  split
  · exact hu
  · exact htrim (hroot (hsite hu))

/-- The paths that are matched against the routes have no line feeds. -/
lemma oneLine_candidatePath {text : String} {u : Url} (h : Url.parse text = .ok u) (r : Router) :
    Url.OneLine (r.candidatePath u) := by
  have hu := Url.plain_of_parse h
  have hraw : Url.OneLine (rawRoute u) := Url.Lacks.append_iff.2 ⟨hu.host _ (.inl rfl), hu.path⟩
  unfold Router.candidatePath
  split
  · exact oneLine_normalize r.normalizer hraw
  · exact hraw

/-- **Component-wise matching**: a path without line feeds matches from its beginning if and only
if it can be cut into as many components as the pattern has segments, a wildcard taking all that is
left, and each segment accepts its component. The parameters are the names and values that the
segments give to their components, in order. The paths of URLs have no line feeds. -/
theorem anchored_iff_components {route : String} {m : Matcher}
    (h : Matcher.ofRoute route = .ok m) :
    (∀ path, '\n' ∉ path → ∀ params, m.matchPath path true = some params ↔
      ∃ cs, components m.pattern.segments path = some cs ∧
        List.Forall₂ Segment.Accepts m.pattern.segments cs ∧
        params = Params.ofPairs (bindings m.pattern.segments cs)) ∧
    ∀ text u, Url.parse text = .ok u → ∀ r : Router, '\n' ∉ r.candidatePath u :=
  ⟨fun _ hline params => matchPath_eq_some_iff (compiled_of_ofRoute h) hline params,
    fun _ _ hu r => oneLine_candidatePath hu r⟩

/-- A wildcard takes the slashes at the end, and the text of a component is decoded. -/
theorem anchored_iff_components_trailing : ∃ m, Matcher.ofRoute "files/:name([a-z]+)/*" = .ok m ∧
    m.matchPath "/files/a%62/c//".toList true =
      some (Params.ofPairs [("name", "ab"), ("*", "c//")]) ∧
    ∃ cs, components m.pattern.segments "/files/a%62/c//".toList = some cs ∧
      List.Forall₂ Segment.Accepts m.pattern.segments cs ∧
      Params.ofPairs [("name", "ab"), ("*", "c//")] =
        Params.ofPairs (bindings m.pattern.segments cs) := by
  have hfound : (Matcher.ofRoute "files/:name([a-z]+)/*").toOption.bind
      (·.matchPath "/files/a%62/c//".toList true) =
        some (Params.ofPairs [("name", "ab"), ("*", "c//")]) := by decide +kernel
  cases hm : Matcher.ofRoute "files/:name([a-z]+)/*" with
  | error e => simp [hm, Except.toOption] at hfound
  | ok m =>
    rw [hm] at hfound
    exact ⟨m, rfl, hfound, ((anchored_iff_components hm).1 _ (by decide) _).1 hfound⟩

end AppLinks.Route
