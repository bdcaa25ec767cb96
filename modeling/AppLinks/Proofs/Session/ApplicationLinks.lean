import AppLinks.Proofs.Route.LeadingSlash
import AppLinks.Proofs.Session.Registry

/-!
The normal form of links of the application.

The host of such a link is kept, so without a host pattern its normal form is its route with a
slash in front. A matcher passes over that slash, and a router in use selects the same entry and
hands out the same link whether routes are brought into their normal form or not.
-/

namespace AppLinks

open Route (Matcher Normalizer)
open Result

namespace Route

/-- Without a host pattern the normal form of a link of the application has a slash in front, and
nothing else is changed. -/
lemma normalize_of_not_web {n : Normalizer} (hn : n.hostExpr = none) {u : Url}
    (hu : u.isWeb = false) : n.normalize u = root (rawRoute u) := by
  have hsettled : Normalizer.isSettled (rawRoute u) u = false := by simp [Normalizer.isSettled]
  have hsite : dropSite u (rawRoute u) = rawRoute u := by simp [dropSite, hu]
  rw [Normalizer.normalize, Normalizer.normalizeRoute, hsettled, if_neg (by simp), hsite,
    Normalizer.trim, hn]
  rfl

/-- A path matches as it does with a slash in front. -/
lemma matchPath_root {m : Matcher} (hm : Compiled m) (path : List Char) (anchored : Bool) :
    m.matchPath (root path) anchored = m.matchPath path anchored := by
  rw [root_eq]
  split
  · rfl
  · rename_i hpath
    exact matchPath_leadingSlash hm hpath anchored

end Route

namespace Router

/-- The candidate path of a link of the application matches as its route does. -/
lemma capture?_of_not_web {r : Router} (hn : r.normalizer.hostExpr = none) {u : Url}
    (hu : u.isWeb = false) {e : Entry} (he : Route.Compiled e.matcher) :
    r.capture? (r.candidatePath u) e = r.capture? (Route.rawRoute u) e := by
  unfold candidatePath
  split
  · rw [Route.normalize_of_not_web hn hu]
    exact Route.matchPath_root he _ _
  · rfl

/-- Which entry matches a link of the application depends on its route alone. -/
lemma matchUrl?_of_not_web {r : Router} (hentries : ∀ e ∈ r.entries, Route.Compiled e.matcher)
    (hn : r.normalizer.hostExpr = none) {u : Url} (hu : u.isWeb = false) :
    r.matchUrl? u = r.entries.findSome? fun e =>
      (r.capture? (Route.rawRoute u) e).map fun params => (e, Link.ofMatch u e.route params) := by
  have hcapture : ∀ e ∈ r.entries,
      r.capture? (r.candidatePath u) e = r.capture? (Route.rawRoute u) e :=
    fun e he => capture?_of_not_web hn hu (hentries e he)
  unfold matchUrl?
  generalize r.candidatePath u = path at hcapture ⊢
  generalize r.entries = es at hcapture ⊢
  induction es with
  | nil => rfl
  | cons e es ih =>
    rw [List.findSome?_cons, List.findSome?_cons, hcapture e (by simp),
      ih fun e' he' => hcapture e' (List.mem_cons_of_mem _ he')]

lemma Consistent.hostExpr_eq_none {registered : List (String × Binding)} {r : Router}
    (h : r.Consistent registered) (hpattern : r.config.hostPattern? = none) :
    r.normalizer.hostExpr = none := by
  rcases Route.hostExpr_cases h.normalizer with ⟨-, hexpr⟩ | ⟨p, e, hp, hne, -, -⟩
  · exact hexpr
  · simp [RouterConfig.hostPattern?, hp, hne] at hpattern

end Router

namespace Session

/-- **The normal form does not change where links of the application lead.** A router in use that
has no host pattern gives the same result for a link that is not of the web, be it no match or an
entry with the link handed to it, whether routes are brought into their normal form or not, and
wherever matches have to begin. This is so because a pattern matches a path with a slash in front
as it matches the path without it. -/
theorem routes_of_application_links {s : Session} (h : s.router.Made) (steps : List Step) :
    let r := (s.run steps).router
    (r.config.hostPattern? = none → ∀ (u : Url), u.isWeb = false → ∀ anchored,
      ((r.setUseStartAnchors anchored).setUseNormalizedPaths true).matchUrl? u =
        ((r.setUseStartAnchors anchored).setUseNormalizedPaths false).matchUrl? u) ∧
    ∀ route m, Matcher.ofRoute route = .ok m → ∀ path, path.head? ≠ some '/' → ∀ anchored,
      m.matchPath ('/' :: path) anchored = m.matchPath path anchored := by
  intro r
  have hr : r.Consistent ((s.trace steps).filterMap registration?) := run_consistent h.consistent _
  refine ⟨fun hpattern u hu anchored => ?_, fun route m hm path hpath anchored =>
    Route.matchPath_leadingSlash (Route.compiled_of_ofRoute hm) hpath anchored⟩
  have hentries : ∀ e ∈ r.entries, Route.Compiled e.matcher :=
    fun e he => Route.compiled_of_ofRoute (hr.matcher e he)
  have hroute (b : Bool) := Router.matchUrl?_of_not_web
    (r := (r.setUseStartAnchors anchored).setUseNormalizedPaths b) hentries
    (hr.hostExpr_eq_none hpattern) hu
  rw [hroute, hroute]
  rfl

/-- The rest of a link that a wildcard takes, and a path that is looked for from anywhere. -/
theorem routes_of_application_links_rest :
    let menu : Binding := .callback "show" fun _ => .ok ()
    let steps : List Step := [.useStartAnchors true, .register ":id([0-9]+)" menu,
      .register "*" menu]
    let r := (Session.run {} steps).router
    ({} : Session).router.Made ∧ r.config.hostPattern? = none ∧
      (∃ u, Url.parse "dpl:a/7//" = .ok u ∧ u.isWeb = false ∧
        (((r.setUseStartAnchors true).setUseNormalizedPaths true).matchUrl? u).map
          (fun found => (found.1.index, found.2.routeParameters)) =
            some (1, Params.ofPairs [("*", "a/7//")]) ∧
        ((r.setUseStartAnchors true).setUseNormalizedPaths true).matchUrl? u =
          ((r.setUseStartAnchors true).setUseNormalizedPaths false).matchUrl? u) ∧
      ∃ m, Matcher.ofRoute ":id([0-9]+)" = .ok m ∧
        m.matchPath "/a7".toList false = m.matchPath "a7".toList false := by
  intro menu steps r
  have hlaws := routes_of_application_links (s := {}) .empty steps
  have hpattern : r.config.hostPattern? = none := by decide +kernel
  have hfound : (Url.parse "dpl:a/7//").toOption.map (fun u => (u.isWeb,
      (((r.setUseStartAnchors true).setUseNormalizedPaths true).matchUrl? u).map
        (fun found => (found.1.index, found.2.routeParameters)))) =
      some (false, some (1, Params.ofPairs [("*", "a/7//")])) := by decide +kernel
  have hroute : (Matcher.ofRoute ":id([0-9]+)").toOption.map Matcher.route =
      some ":id([0-9]+)" := by decide +kernel
  refine ⟨.empty, hpattern, ?_, ?_⟩
  · obtain ⟨u, hu, hviews⟩ := eq_ok_of_view hfound
    obtain ⟨hweb, hmatch⟩ := Prod.mk.inj hviews
    exact ⟨u, hu, hweb, hmatch, hlaws.1 hpattern u hweb true⟩
  · obtain ⟨m, hm, -⟩ := eq_ok_of_view hroute
    exact ⟨m, hm, hlaws.2 _ m hm "a7".toList (by decide) false⟩

end Session

end AppLinks
