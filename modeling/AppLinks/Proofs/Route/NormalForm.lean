import AppLinks.Proofs.Route.Whole
import AppLinks.Proofs.Url.OneLine
import AppLinks.Proofs.Url.Web
import AppLinks.Router.Basic

/-!
The normal form of the routes of URLs.

A link of the web and a link of the application lead to the same place if they have the same base:
the path of the one, and the host of the other with its path after it. The normal form of a route
is the base of its URL, without the leading segment if the host pattern matches that as a whole.
So with normal forms a router cannot tell two URLs of one base apart.
-/

namespace AppLinks

/-- A text with a slash at its start, cut behind its leading segment. -/
def Route.CutAt (text segment rest : List Char) : Prop :=
  text = '/' :: (segment ++ rest) ∧ '/' ∉ segment ∧ (rest = [] ∨ rest.head? = some '/')

/-- What a URL leads to, apart from the site: its path, with the host before it if the host names
no site, and with a slash at its start. -/
def Url.base (u : Url) : List Char :=
  if u.isWeb then u.path
  else if (u.hostText ++ u.path).head? = some '/' then u.hostText ++ u.path
  else '/' :: (u.hostText ++ u.path)

/-- The entry that a URL selects, and the parameters that its route gives. -/
def Router.selected? (r : Router) (u : Url) : Option (Entry × Params) :=
  (r.matchUrl? u).map fun (e, link) => (e, link.routeParameters)

namespace Route

open Regex Result

/-- A host pattern, if there is one, matches a text as a whole. -/
def HostMatches (pattern : Option String) (segment : List Char) : Prop :=
  ∃ p, pattern = some p ∧ p ≠ "" ∧ ∃ e, Regex.parse p = .ok e ∧ Spans segment e 0 segment.length

/-! ### The base of a URL -/

/-- The host of a site is followed by a path, and holds no slash itself. -/
lemma dropSite_rawRoute {text : String} {u : Url} (hu : Url.parse text = .ok u)
    (hweb : u.isWeb = true) : dropSite u (rawRoute u) = u.path := by
  have hpath := Url.head_path_of_isWeb hu hweb
  have hslash : '/' ∉ u.hostText := (Url.plain_of_parse hu).host '/' (.inr rfl)
  cases hhost : u.hostText with
  | nil =>
    have hraw : rawRoute u = u.path := by rw [rawRoute, hhost, List.nil_append]
    have hrooted : isRooted u.path = true := by simpa [isRooted] using hpath
    simp [dropSite, hraw, hrooted]
  | cons c host =>
    have hc : c ≠ '/' := by
      rintro rfl
      exact hslash (by simp [hhost])
    have hraw : rawRoute u = (c :: host) ++ u.path := by rw [rawRoute, hhost]
    have hhas : u.hasHost = true := by
      cases ha : u.authority with
      | none => simp [Url.hostText, ha] at hhost
      | some a => cases hb : a.host <;> simp [Url.hostText, Url.hasHost, ha, hb] at hhost ⊢
    have hrest : ((c :: host) ++ u.path).drop (c :: host).length = u.path := List.drop_left
    have hrooted : isRooted u.path = true := by simpa [isRooted] using hpath
    have hunrooted : isRooted ((c :: host) ++ u.path) = false := by simpa [isRooted] using hc
    simp only [dropSite, hraw, hhost, hrest, hweb, hhas, hrooted, hunrooted]
    simp

lemma root_eq (route : List Char) :
    root route = if route.head? = some '/' then route else '/' :: route := by
  simp [root, isRooted]

lemma head_base {text : String} {u : Url} (hu : Url.parse text = .ok u) :
    u.base.head? = some '/' := by
  unfold Url.base
  split
  · rename_i hweb
    exact Url.head_path_of_isWeb hu hweb
  · split
    · assumption
    · rfl

lemma root_dropSite {text : String} {u : Url} (hu : Url.parse text = .ok u) :
    root (dropSite u (rawRoute u)) = u.base := by
  by_cases hweb : u.isWeb = true
  · rw [dropSite_rawRoute hu hweb, Url.base, if_pos hweb, root_eq,
      if_pos (Url.head_path_of_isWeb hu hweb)]
  · have hsite : dropSite u (rawRoute u) = u.hostText ++ u.path := by
      simp [dropSite, hweb, rawRoute]
    rw [hsite, Url.base, if_neg hweb, root_eq]

/-- The route of a URL is never taken to be in normal form already. -/
lemma normalize_eq_trim {text : String} {u : Url} (hu : Url.parse text = .ok u) (n : Normalizer) :
    n.normalize u = n.trim u.base := by
  have hsettled : Normalizer.isSettled (rawRoute u) u = false := by simp [Normalizer.isSettled]
  rw [Normalizer.normalize, Normalizer.normalizeRoute, hsettled, if_neg (by simp),
    root_dropSite hu]

/-! ### The leading segment -/

/-- What is left out is the leading segment with the slash before it. -/
lemma cutAt_leading {text : List Char} (h : text.head? = some '/') :
    ∃ rest, CutAt text (leading text) rest ∧
      dropLeading text = if rest = [] then ['/'] else rest := by
  obtain ⟨t, rfl⟩ : ∃ t, text = '/' :: t := by
    cases text with
    | nil => cases h
    | cons c t => exact ⟨t, by rw [Option.some.inj h]⟩
  have hhead := List.head?_dropWhile_not (· ≠ '/') t
  refine ⟨t.dropWhile (· ≠ '/'), ⟨?_, ?_, ?_⟩, ?_⟩
  · rw [leading, List.tail_cons, List.takeWhile_append_dropWhile]
  · intro hmem
    simpa using List.mem_takeWhile_imp hmem
  · cases hrest : t.dropWhile (· ≠ '/') with
    | nil => exact .inl rfl
    | cons c r =>
      rw [hrest] at hhead
      exact .inr (by simpa using hhead)
  · rw [dropLeading, List.tail_cons]
    cases hrest : t.dropWhile (· ≠ '/') with
    | nil => rfl
    | cons c r =>
      rw [hrest] at hhead
      obtain rfl : c = '/' := by simpa using hhead
      rfl

/-! ### The host pattern -/

/-- A normalizer has the expression of its host pattern, and none for a pattern that is none. -/
lemma hostExpr_cases {pattern : Option String} {n : Normalizer}
    (h : Normalizer.ofPattern pattern = .ok n) :
    (pattern.filter (!·.isEmpty) = none ∧ n.hostExpr = none) ∨
      ∃ p r, pattern = some p ∧ p ≠ "" ∧ readHostPattern p = .ok r ∧ n.hostExpr = some r := by
  obtain ⟨r?, hr, hn⟩ := bind_eq_ok.1 h
  rw [← pure_eq_ok.1 hn]
  unfold RouterConfig.hostExpr? RouterConfig.hostPattern? at hr
  dsimp only at hr
  split at hr
  · rename_i hnone
    cases hr
    exact .inl ⟨hnone, rfl⟩
  · rename_i p hp
    obtain ⟨r, hread, rfl⟩ := map_eq_ok.1 hr
    obtain ⟨hsome, hne⟩ := Option.filter_eq_some_iff.1 hp
    exact .inr ⟨p, r, hsome, by simpa using hne, hread, rfl⟩

/-- The expression of a normalizer accepts what its host pattern matches as a whole. -/
lemma any_hostExpr_iff {pattern : Option String} {n : Normalizer}
    (h : Normalizer.ofPattern pattern = .ok n) (segment : List Char) :
    n.hostExpr.any (·.accepts segment) = true ↔ HostMatches pattern segment := by
  rcases hostExpr_cases h with ⟨hnone, hexpr⟩ | ⟨p, r, rfl, hne, hread, hexpr⟩
  · rw [hexpr]
    refine iff_of_false (by simp) ?_
    rintro ⟨p, rfl, hne, -⟩
    simp [hne] at hnone
  · obtain ⟨-, e, he, haccepts⟩ := acceptsWhole_of_readHostPattern hread
    rw [hexpr, Option.any_some, haccepts]
    refine ⟨fun hs => ⟨p, rfl, hne, e, he, hs⟩, ?_⟩
    rintro ⟨_, ⟨⟩, -, e', he', hs⟩
    rw [he] at he'
    cases he'
    exact hs

/-! ### Selection -/

/-- Which entry is selected depends on the path that is matched, and on no other part of a URL. -/
lemma selected?_eq (r : Router) (u : Url) :
    r.selected? u = r.entries.findSome? fun e =>
      (r.capture? (r.candidatePath u) e).map fun params => (e, params) := by
  rw [Router.selected?, Router.matchUrl?, List.map_findSome?]
  congr 1
  funext e
  rw [Function.comp_apply, Option.map_map]
  rfl

/-- **The normal form reconciles the links of the web with those of the application.** The normal
form of the route of a URL is its base without the leading segment, if there is a host pattern that
matches this segment as a whole, and the base as it is otherwise; a slash remains where nothing
follows the segment. So a router that uses normal forms selects the same entry with the same
parameters for a URL and for any URL of the web whose path is the base of the first, whatever the
hosts of the two; the first may be of the web as well, and then its base is its path. -/
theorem normal_form_of_base {text : String} {u : Url} (hu : Url.parse text = .ok u) :
    (∀ pattern n, Normalizer.ofPattern pattern = .ok n → ∃ segment rest,
      CutAt u.base segment rest ∧
        (HostMatches pattern segment → n.normalize u = if rest = [] then ['/'] else rest) ∧
        (¬ HostMatches pattern segment → n.normalize u = u.base)) ∧
    ∀ r : Router, r.config.useNormalizedPaths = true → ∀ text' w, Url.parse text' = .ok w →
      w.isWeb = true → w.path = u.base → r.selected? u = r.selected? w := by
  refine ⟨fun pattern n hn => ?_, fun r hr text' w hw hweb hpath => ?_⟩
  · obtain ⟨rest, hcut, hdrop⟩ := cutAt_leading (head_base hu)
    refine ⟨leading u.base, rest, hcut, fun hmatch => ?_, fun hmatch => ?_⟩
    · rw [normalize_eq_trim hu, Normalizer.trim, if_pos ((any_hostExpr_iff hn _).2 hmatch), hdrop]
    · rw [normalize_eq_trim hu, Normalizer.trim,
        if_neg fun h => hmatch ((any_hostExpr_iff hn _).1 h)]
  · have hbase : w.base = u.base := by rw [Url.base, if_pos hweb, hpath]
    have hcandidate : r.candidatePath u = r.candidatePath w := by
      rw [Router.candidatePath, Router.candidatePath, if_pos hr, if_pos hr,
        normalize_eq_trim hu, normalize_eq_trim hw, hbase]
    rw [selected?_eq, selected?_eq, hcandidate]

/-- A link of the application and one of the web to the same place, whose leading segment a host
pattern leaves out. -/
theorem normal_form_of_base_site : ∃ u w n,
    Url.parse "dpl://site/book/42" = .ok u ∧ Url.parse "https://[::1]/site/book/42" = .ok w ∧
      Normalizer.ofPattern (some "site") = .ok n ∧
      (∃ segment rest, CutAt u.base segment rest ∧
        (HostMatches (some "site") segment → n.normalize u = if rest = [] then ['/'] else rest) ∧
        (¬ HostMatches (some "site") segment → n.normalize u = u.base)) ∧
      ∀ r : Router, r.config.useNormalizedPaths = true → r.selected? u = r.selected? w := by
  have hpath : (Url.parse "dpl://site/book/42").toOption.map Url.base =
      some "/site/book/42".toList := by decide +kernel
  have hpath' : (Url.parse "https://[::1]/site/book/42").toOption.map
      (fun w => (w.isWeb, w.path)) = some (true, "/site/book/42".toList) := by decide +kernel
  have hpattern : (Normalizer.ofPattern (some "site")).toOption.isSome := by decide +kernel
  cases hu : Url.parse "dpl://site/book/42" with
  | error e => simp [hu, Except.toOption] at hpath
  | ok u =>
    cases hw : Url.parse "https://[::1]/site/book/42" with
    | error e => simp [hw, Except.toOption] at hpath'
    | ok w =>
      cases hn : Normalizer.ofPattern (some "site") with
      | error e => simp [hn, Except.toOption] at hpattern
      | ok n =>
        simp only [hu, hw, Except.toOption, Option.map_some, Option.some.injEq,
          Prod.mk.injEq] at hpath hpath'
        have h := normal_form_of_base hu
        exact ⟨u, w, n, rfl, rfl, rfl, h.1 _ n hn, fun r hr =>
          h.2 r hr _ w hw hpath'.1 (hpath'.2.trans hpath.symm)⟩

end Route

end AppLinks
