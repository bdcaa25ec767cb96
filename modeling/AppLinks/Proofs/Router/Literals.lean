import AppLinks.Proofs.Route.Components
import AppLinks.Proofs.Session.ApplicationLinks
import AppLinks.Proofs.Text.Percent
import Mathlib.Data.Set.List
import AppLinks.Proofs.Url.Hosted

/-!
Links of the application that are written as a pattern of literals is.

The first literal is the host of the link, and the other ones are its path. A literal is compared in
the encoded form that paths have. That is the form of every part of the path, but a host keeps some
characters that are escaped in paths.
-/

namespace AppLinks

open Route (Matcher)
open Result

namespace Route

/-! ### Paths of literals -/

/-- Components with a slash between them are what each segment stands for. -/
lemma cut_intercalate {ss : List Segment} {cs : List (List Char)} (hlen : ss.length = cs.length)
    (hne : ss ≠ []) (hw : .wildcard ∉ ss) (hcs : ∀ c ∈ cs, c ≠ [] ∧ '/' ∉ c) :
    cut ss (['/'].intercalate cs) = some cs := by
  induction ss generalizing cs with
  | nil => exact absurd rfl hne
  | cons s ss ih =>
    cases cs with
    | nil => cases hlen
    | cons c cs =>
      obtain ⟨-, hslash⟩ := hcs c (by simp)
      obtain ⟨hsw, hw⟩ := not_or.1 fun h => hw (List.mem_cons.2 h)
      have hlen : ss.length = cs.length := Nat.succ.inj hlen
      by_cases hnil : ss = []
      · subst hnil
        obtain rfl := List.length_eq_zero_iff.1 hlen.symm
        rw [List.intercalate_singleton]
        exact (cut_single (Ne.symm hsw)).2 ⟨dropTrailingSlash_of_not_mem hslash, hslash⟩
      · have hcs' := fun d hd => hcs d (List.mem_cons_of_mem c hd)
        obtain ⟨d, ds, rfl⟩ : ∃ d ds, cs = d :: ds :=
          List.exists_cons_of_ne_nil fun h => hnil (List.length_eq_zero_iff.1 (by simp [hlen, h]))
        have hrest : ['/'].intercalate (d :: ds) ≠ [] := by
          rw [Url.intercalate_cons]
          simp [(hcs' d (by simp)).1]
        rw [List.intercalate_cons_of_ne_nil (by simp), List.append_assoc, List.singleton_append,
          cut_cons hnil hslash (.inl hrest), ih hlen hnil hw hcs']
        rfl

/-- A path that ends in the literals of a pattern after the first one matches if it begins with
this one. -/
lemma matchPath_literals_iff {m : Matcher} (hm : Compiled m) {t : String} {ts : List String}
    (hsegments : m.pattern.segments = (t :: ts).map .literal) {c : List Char} (hne : c ≠ [])
    (hslash : '/' ∉ c) (hline : '\n' ∉ c ++ Url.Path.render (ts.map literalForm)) :
    (m.matchPath (c ++ Url.Path.render (ts.map literalForm)) true).isSome = true ↔
      c = literalForm t := by
  have hliteral : ∀ x ∈ t :: ts, literalForm x ≠ [] ∧ '/' ∉ literalForm x := by
    intro x hx
    have hwf := hm.wellFormed.each (.literal x) (by
      rw [hsegments]
      exact List.mem_map_of_mem hx)
    exact ⟨literalForm_ne_nil hwf.1, slash_not_mem_literalForm hwf.2.1⟩
  have hcomponents : components m.pattern.segments (c ++ Url.Path.render (ts.map literalForm)) =
      some (c :: ts.map literalForm) := by
    have hhead : (c ++ Url.Path.render (ts.map literalForm)).head? ≠ some '/' := by
      obtain ⟨d, c, rfl⟩ := List.exists_cons_of_ne_nil hne
      rintro ⟨⟩
      exact hslash (by simp)
    rw [components, dropLeadingSlash_of_head? hhead, ← Url.intercalate_cons, hsegments]
    refine cut_intercalate (by simp) (by simp) (by simp) fun d hd => ?_
    rcases List.mem_cons.1 hd with rfl | hd
    · exact ⟨hne, hslash⟩
    · obtain ⟨x, hx, rfl⟩ := List.mem_map.1 hd
      exact hliteral x (List.mem_cons_of_mem _ hx)
  have hrest : List.Forall₂ Segment.Accepts (ts.map .literal) (ts.map literalForm) := by
    rw [List.forall₂_map_left_iff, List.forall₂_map_right_iff, List.forall₂_same]
    exact fun _ _ => rfl
  rw [Option.isSome_iff_exists]
  refine ⟨?_, ?_⟩
  · rintro ⟨params, hparams⟩
    obtain ⟨cs, hcs, haccepts, -⟩ := (matchPath_eq_some_iff hm hline params).1 hparams
    rw [hcomponents] at hcs
    cases hcs
    rw [hsegments] at haccepts
    cases haccepts with
    | cons hfirst _ => exact hfirst
  · rintro rfl
    refine ⟨_, (matchPath_eq_some_iff hm hline _).2 ⟨_, hcomponents, ?_, rfl⟩⟩
    rw [hsegments]
    exact .cons rfl hrest

/-- A pattern of literals is read as the texts between its slashes. -/
lemma segments_of_literals {raw : String} {p : Pattern} (hp : Pattern.parse raw = .ok p)
    (hliteral : ∀ s ∈ p.segments, ∃ t, s = .literal t) {ts : List String} (hne : ts ≠ [])
    (hraw : raw.toList = ['/'].intercalate (ts.map String.toList))
    (hts : ∀ t ∈ ts, t.toList ≠ [] ∧ '/' ∉ t.toList) : p.segments = ts.map .literal := by
  obtain ⟨-, hwf, hbody⟩ := parse_eq_ok_iff.1 hp
  obtain ⟨us, hus⟩ : ∃ us : List String, us.map .literal = p.segments := by
    rw [← Set.mem_range, Set.range_list_map]
    exact fun s hs => (hliteral s hs).imp fun _ => Eq.symm
  rw [← hus] at hwf hbody
  have hne' : us ≠ [] := by simpa using hwf.ne_nil
  have hedges : raw.toList.head? ≠ some '/' ∧ raw.toList.getLast? ≠ some '/' := by
    rw [hraw]
    refine ⟨?_, Url.getLast?_intercalate fun c hc => ?_⟩
    · obtain ⟨t, ts, rfl⟩ := List.exists_cons_of_ne_nil hne
      obtain ⟨hnil, hslash⟩ := hts t (by simp)
      obtain ⟨c, r, hc⟩ := List.exists_cons_of_ne_nil hnil
      rw [List.map_cons, Url.intercalate_cons, hc]
      rintro ⟨⟩
      exact hslash (by simp [hc])
    · obtain ⟨t, ht, rfl⟩ := List.mem_map.1 hc
      exact ⟨(hts t ht).1, fun h => (hts t ht).2 (List.mem_of_getLast? h)⟩
  have hjoined : ['/'].intercalate (ts.map String.toList) =
      ['/'].intercalate (us.map String.toList) := by
    rw [← hraw, ← body_eq_toList hedges.1 hedges.2, hbody, written, List.map_map]
    rfl
  -- no text holds a slash, so what stands between slashes is known
  have hparts := congrArg (List.splitOn '/') hjoined
  rw [List.splitOn_intercalate '/' _ (by simpa using hne),
    List.splitOn_intercalate '/' _ (by simpa using hne')] at hparts
  · rw [← hus, List.map_injective_iff.2 (fun _ _ => String.toList_injective) hparts]
  · intro c hc
    obtain ⟨u, hu, rfl⟩ := List.mem_map.1 hc
    exact (hwf.each _ (List.mem_map_of_mem hu)).2.1
  · intro c hc
    obtain ⟨t, ht, rfl⟩ := List.mem_map.1 hc
    exact (hts t ht).2

end Route

namespace Url

/-! ### Hosts and literals -/

/-- Characters that a host keeps and a path has escaped. -/
def keptInHosts : List Char := ['"', '\x60', '\x7b', '\x7d']

/-- A host is written as a part of a path is if it has none of the characters that only paths
escape. -/
lemma encode_host_iff {s : List Char} (hs : ∀ c ∈ s, Host.isForbidden c = false) :
    Text.Percent.encode Text.Percent.control s = Text.Percent.encode Text.Percent.path s ↔
      ∀ c ∈ s, c ∉ keptInHosts := by
  refine ⟨fun h c hc hkept => ?_, fun h => Text.Percent.encode_congr fun c hc => ?_⟩
  · have hall : keptInHosts.all (fun c => c ≠ '%' ∧ Text.Percent.hexValue? c = none ∧
        Text.Percent.control c = false ∧ c.toNat < 0x80 ∧ Text.Percent.path c = true) = true := by
      decide
    obtain ⟨hpercent, hhex, hcontrol, hascii, hpath⟩ :=
      of_decide_eq_true (List.all_eq_true.1 hall c hkept)
    have hmem := (Text.Percent.mem_encode_iff hpercent hhex).2 ⟨hc, hcontrol, hascii⟩
    rw [h, Text.Percent.mem_encode_iff hpercent hhex, hpath] at hmem
    exact absurd hmem.2.1 (by simp)
  · have hforbidden := hs c hc
    have hkept := h c hc
    simp only [Host.isForbidden, decide_eq_false_iff_not, List.mem_cons, not_or] at hforbidden
    simp only [keptInHosts, List.mem_cons, not_or] at hkept
    simp [Text.Percent.path, Text.Percent.fragment, hforbidden, hkept]

end Url

namespace Router

/-- **Links that are written as a pattern of literals**: take a scheme that is not special, a first
text and others that stand for themselves in a URL, and a router with start anchors and without a
host pattern whose only route is those texts with slashes between them, all read as literals. If
the scheme, and those texts behind it, are a URL, then the route matches it if and only if the
first text has no double quote, grave accent or curly bracket. A path has these four escaped, and
so has the literal, but a host keeps them. -/
theorem matches_as_written (scheme first : String) (others : List String)
    (hscheme : Url.IsScheme scheme.toList)
    (hspecial : Url.isSpecial (scheme.toList.map Char.toLower) = false)
    (hparts : ∀ t ∈ first :: others, Url.IsPart t.toList) {u : Url}
    (hu : Url.parse (scheme ++ "://" ++ "/".intercalate (first :: others)) = .ok u)
    {config : RouterConfig} (hanchors : config.useStartAnchors = true)
    (hpattern : config.hostPattern? = none) {r₀ r : Router} (hr₀ : ofConfig config = .ok r₀)
    {binding : Binding} (hr : r₀.register ("/".intercalate (first :: others)) binding = .ok r)
    (hliteral : ∀ e ∈ r.entries, ∀ s ∈ e.matcher.pattern.segments, ∃ t, s = .literal t) :
    (r.matchUrl? u).isSome = true ↔ ∀ c ∈ first.toList, c ∉ Url.keptInHosts := by
  have hjoined : ("/".intercalate (first :: others)).toList =
      ['/'].intercalate ((first :: others).map String.toList) := by
    rw [String.toList_intercalate]
    rfl
  obtain ⟨hallowed, hweb, hhost, hpath⟩ := Url.parse_hosted hscheme hspecial
    (List.forall_mem_map.2 hparts)
    (by rw [String.toList_append, String.toList_append, hjoined]; simp) hu
  have hnone := ((Consistent.ofConfig hr₀).register hr).hostExpr_eq_none
  obtain ⟨n, -, hempty⟩ := bind_eq_ok.1 hr₀
  obtain rfl := pure_eq_ok.1 hempty
  obtain ⟨m, hm, hsingle⟩ := bind_eq_ok.1 hr
  obtain rfl := pure_eq_ok.1 hsingle
  have hcompiled := Route.compiled_of_ofRoute hm
  have hnames : ∀ t ∈ first :: others, t.toList ≠ [] ∧ '/' ∉ t.toList := fun t ht =>
    ⟨(hparts t ht).ne_nil, fun h => ((hparts t ht).plain _ h).2 (by simp)⟩
  have hsegments : m.pattern.segments = (first :: others).map .literal :=
    Route.segments_of_literals (Route.parse_of_ofRoute hm).1
      (hliteral ⟨m, binding, 0⟩ (by simp)) (by simp) hjoined hnames
  have hroute : Route.rawRoute u = Text.Percent.encode Text.Percent.control first.toList ++
      Url.Path.render (others.map Route.literalForm) := by
    rw [Route.rawRoute, hhost, hpath, List.map_map]
    rfl
  have hline : '\n' ∉ Route.rawRoute u := fun h => by
    rcases List.mem_append.1 h with h | h
    · exact (Url.plain_of_parse hu).host _ (.inl rfl) h
    · exact (Url.plain_of_parse hu).path h
  have hslash : '/' ∉ Text.Percent.encode Text.Percent.control first.toList := by
    rw [Text.Percent.mem_encode_iff (by decide) (by decide)]
    exact fun h => (hnames first (by simp)).2 h.1
  rw [hroute] at hline
  have hmatch := Route.matchPath_literals_iff hcompiled hsegments
    (Text.Percent.encode_ne_nil (hnames first (by simp)).1) hslash hline
  rw [← Url.encode_host_iff hallowed, ← Route.literalForm, ← hmatch, ← hroute,
    matchUrl?_of_not_web (by simpa using hcompiled) (hnone hpattern) hweb]
  simp [capture?, hanchors]

/-- A first text with letters that hosts have escaped as paths have, and curly brackets in a later
one. -/
theorem matches_as_written_escaped :
    let texts := ["(café)", "\x7bid\x7d", "a b"]
    let config : RouterConfig := { useStartAnchors := true, useNormalizedPaths := true }
    ∃ u r₀ r, Url.parse ("dpl" ++ "://" ++ "/".intercalate texts) = .ok u ∧
      ofConfig config = .ok r₀ ∧
      r₀.register ("/".intercalate texts) (.callback "show" fun _ => .ok ()) = .ok r ∧
      (r.matchUrl? u).isSome = true := by
  intro texts config
  have hurl : (Url.parse ("dpl" ++ "://" ++ "/".intercalate texts)).toOption.map Url.hasHost =
      some true := by decide +kernel
  obtain ⟨u, hu, -⟩ := eq_ok_of_view hurl
  have hmade : (ofConfig config >>= fun r₀ => r₀.register ("/".intercalate texts)
      (.callback "show" fun _ => .ok ())).toOption.map
        (fun r => r.entries.map fun e => e.matcher.pattern.segments) =
      some [texts.map .literal] := by decide +kernel
  obtain ⟨r, hr, hsegments⟩ := eq_ok_of_view hmade
  obtain ⟨r₀, hr₀, hr⟩ := bind_eq_ok.1 hr
  have hfirst : "(café)".toList.all (· ∉ Url.keptInHosts) = true := by decide +kernel
  refine ⟨u, r₀, r, hu, hr₀, hr, (matches_as_written "dpl" "(café)" ["\x7bid\x7d", "a b"]
    (by decide +kernel) (by decide +kernel) (by decide +kernel) hu rfl rfl hr₀ hr ?_).2
    fun c hc => of_decide_eq_true (List.all_eq_true.1 hfirst c hc)⟩
  intro e he s hs
  have hmem : e.matcher.pattern.segments ∈ [texts.map Route.Segment.literal] := by
    rw [← hsegments]
    exact List.mem_map_of_mem he
  rw [List.mem_singleton.1 hmem] at hs
  obtain ⟨t, -, rfl⟩ := List.mem_map.1 hs
  exact ⟨t, rfl⟩

/-- Curly brackets in the first text: it is all there is of the authority, and yet the route that
is written as the link is does not match it, be routes brought into their normal form or not. -/
theorem matches_as_written_not_in_hosts :
    let texts := ["\x7bid\x7d", "edit"]
    let router := fun normalized => do
      let r₀ ← ofConfig { useStartAnchors := true, useNormalizedPaths := normalized }
      r₀.register ("/".intercalate texts) (.callback "show" fun _ => .ok ())
    Url.IsScheme "dpl".toList ∧ Url.isSpecial ("dpl".toList.map Char.toLower) = false ∧
      (∀ t ∈ texts, Url.IsPart t.toList) ∧
      ∀ normalized, ∃ u r, Url.parse ("dpl" ++ "://" ++ "/".intercalate texts) = .ok u ∧
        u.authority = some { host := some (.name "\x7bid\x7d".toList) } ∧
        router normalized = .ok r ∧
        r.entries.map (fun e => e.matcher.pattern.segments) = [texts.map .literal] ∧
        (r.matchUrl? u).isSome = false := by
  intro texts router
  refine ⟨by decide +kernel, by decide +kernel, by decide +kernel, fun normalized => ?_⟩
  have hurl : (Url.parse ("dpl" ++ "://" ++ "/".intercalate texts)).toOption.map
      (fun u => (u.authority, (router normalized).toOption.map fun r =>
        (r.entries.map (fun e => e.matcher.pattern.segments), (r.matchUrl? u).isSome))) =
      some (some { host := some (.name "\x7bid\x7d".toList) },
        some ([texts.map .literal], false)) := by
    cases normalized <;> decide +kernel
  obtain ⟨u, hu, hviews⟩ := eq_ok_of_view hurl
  obtain ⟨hauthority, hmade⟩ := Prod.mk.inj hviews
  obtain ⟨r, hr, hviews⟩ := eq_ok_of_view hmade
  obtain ⟨hsegments, hmatch⟩ := Prod.mk.inj hviews
  exact ⟨u, r, hu, hauthority, hr, hsegments, hmatch⟩

end Router

end AppLinks
