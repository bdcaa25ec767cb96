import AppLinks.Proofs.Link.Lookup
import AppLinks.Proofs.Route.Values
import AppLinks.Proofs.Session.FirstMatch

/-!
Parts of a URL that do not count.

Where a URL leads is said by its scheme, its host and its path. Nothing else of it has a part in
selecting a route. A match has a value for every name that its pattern declares, so the parameters
of the query, which come second, are never asked for one of these names.
-/

namespace AppLinks

/-- Two URLs lead to the same place: only their user names, ports, queries and fragments may be
different. -/
structure Url.SameTarget (u v : Url) : Prop where
  scheme : u.scheme = v.scheme
  host : u.authority.bind (·.host) = v.authority.bind (·.host)
  path : u.path = v.path

/-- The names that a pattern declares: those of its parameters, and that of a wildcard. -/
def Route.Pattern.Declares (p : Pattern) (name : String) : Prop :=
  name ∈ p.names ∨ p.hasWildcard = true ∧ name = wildcardKey

namespace Url.SameTarget

variable {u v : Url}

lemma hostText (h : u.SameTarget v) : u.hostText = v.hostText := by
  have htext (w : Url) : w.hostText = ((w.authority.bind (·.host)).map Host.text).getD [] := by
    cases hw : w.authority <;> simp [Url.hostText, hw]
  rw [htext, htext, h.host]

lemma hasHost (h : u.SameTarget v) : u.hasHost = v.hasHost := by
  have hhas (w : Url) : w.hasHost = (w.authority.bind (·.host)).isSome := by
    cases hw : w.authority <;> simp [Url.hasHost, hw]
  rw [hhas, hhas, h.host]

lemma isWeb (h : u.SameTarget v) : u.isWeb = v.isWeb := by
  rw [Url.isWeb, Url.isWeb, h.scheme]

lemma rawRoute (h : u.SameTarget v) : Route.rawRoute u = Route.rawRoute v := by
  rw [Route.rawRoute, Route.rawRoute, h.hostText, h.path]

/-- The normal form of a route is the same for URLs that lead to the same place. -/
lemma normalizeRoute (h : u.SameTarget v) (n : Route.Normalizer) (route : List Char) :
    n.normalizeRoute route u = n.normalizeRoute route v := by
  have hsettled : Route.Normalizer.isSettled route u = Route.Normalizer.isSettled route v := by
    rw [Route.Normalizer.isSettled, Route.Normalizer.isSettled, h.rawRoute]
  have hsite : Route.dropSite u route = Route.dropSite v route := by
    rw [Route.dropSite, Route.dropSite, h.hostText, h.isWeb, h.hasHost]
  rw [Route.Normalizer.normalizeRoute, Route.Normalizer.normalizeRoute, hsettled, hsite]

lemma candidatePath (h : u.SameTarget v) (r : Router) :
    r.candidatePath u = r.candidatePath v := by
  rw [Router.candidatePath, Router.candidatePath, Route.Normalizer.normalize,
    Route.Normalizer.normalize, h.rawRoute, h.normalizeRoute]

end Url.SameTarget

/-! ### Declared names -/

namespace Route

/-- What a pattern declares are the names of its captures. -/
lemma Pattern.declares_iff {p : Pattern} (hlast : .wildcard ∉ p.segments.dropLast) {name : String} :
    p.Declares name ↔ name ∈ p.segments.filterMap Segment.key? := by
  rw [Pattern.Declares, hasWildcard_iff, keys_eq hlast, List.mem_append, Pattern.names]
  by_cases hw : p.segments.getLast? = some .wildcard <;> simp [hw]

/-- A match has a value for each name that its pattern declares. -/
lemma exists_value {m : Matcher} (hm : Compiled m) {path : List Char} {anchored : Bool}
    {params : Params} (h : m.matchPath path anchored = some params) {name : String}
    (hname : m.pattern.Declares name) : ∃ value, params.get? name = some value := by
  obtain ⟨start, cs, hmatch, rfl⟩ := exists_match hm h
  rw [Pattern.declares_iff hm.wellFormed.wildcard_last, ← map_fst_bindings hmatch.accepts] at hname
  obtain ⟨⟨name, value⟩, hmem, rfl⟩ := List.mem_map.1 hname
  exact Params.exists_get?_ofPairs_iff.2 ⟨value, hmem⟩

end Route

namespace Session

open Result

/-- **Only where a URL leads selects a route.** Every router in use selects the same entry, or none,
with the same parameters for two URLs with the same scheme, host and path. Each name that the
pattern of the entry declares has a value in both links that comes from the path, whether it is
looked up by itself or among all parameters, and whatever the queries say about this name. -/
theorem selected_by_target {s : Session} (h : s.router.Made) (steps : List Step) {u v : Url}
    (huv : u.SameTarget v) :
    let r := (s.run steps).router
    r.selected? u = r.selected? v ∧
    ∀ e link, r.matchUrl? u = some (e, link) → ∃ link', r.matchUrl? v = some (e, link') ∧
      link'.routeParameters = link.routeParameters ∧
      ∀ name, e.matcher.pattern.Declares name → ∃ value,
        link.routeParameters.get? name = some value ∧
        link.get? name = some value ∧ link'.get? name = some value ∧
        link.parameters.get? name = some value ∧ link'.parameters.get? name = some value := by
  intro r
  have hr : r.Consistent ((s.trace steps).filterMap registration?) := run_consistent h.consistent _
  refine ⟨by rw [Route.selected?_eq, Route.selected?_eq, huv.candidatePath r],
    fun e link hmatch => ?_⟩
  obtain ⟨before, after, hentries, hnone, params, hparams, rfl⟩ :=
    Router.matchUrl?_eq_some_iff.1 hmatch
  have hmatch' : r.matchUrl? v = some (e, .ofMatch v e.route params) := by
    rw [huv.candidatePath r] at hnone hparams
    exact Router.matchUrl?_eq_some_iff.2 ⟨before, after, hentries, hnone, params, hparams, rfl⟩
  refine ⟨_, hmatch', rfl, fun name hname => ?_⟩
  have he : e ∈ r.entries := by simp [hentries]
  obtain ⟨value, hvalue⟩ := Route.exists_value (Route.compiled_of_ofRoute (hr.matcher e he)) hparams
    hname
  have hfound (w : Url) : (Link.ofMatch w e.route params).get? name = some value :=
    Link.get?_of_routeParameter hvalue
  refine ⟨value, hvalue, hfound u, hfound v, ?_, ?_⟩
  · rw [Link.get?_parameters, hfound u]
  · rw [Link.get?_parameters, hfound v]

/-- A query that names the parameter, the wildcard and its own again and again. -/
theorem selected_by_target_query :
    let menu : Binding := .callback "show" fun _ => .ok ()
    let steps : List Step := [.register "shop/:id([0-9]+)" menu, .register "shop/:id/*" menu]
    let r := (Session.run {} steps).router
    ({} : Session).router.Made ∧ ∃ u v, Url.parse "dpl://shop/%37/a/?id=8&*=x&id=9" = .ok u ∧
      Url.parse "dpl://me:pw@shop:80/%37/a/#id=5" = .ok v ∧ u.SameTarget v ∧
      r.selected? u = r.selected? v ∧ ∃ e link link', r.matchUrl? u = some (e, link) ∧
        r.matchUrl? v = some (e, link') ∧ e.matcher.pattern.Declares "id" ∧
        link.queryParameters.get? "id" = some "9" ∧ link'.queryParameters.get? "id" = none ∧
        link.get? "id" = some "7" ∧ link'.get? "id" = some "7" ∧
        link.parameters.get? "id" = some "7" ∧ link'.parameters.get? "id" = some "7" := by
  intro menu steps r
  let places (text : String) := (Url.parse text).toOption.map fun w =>
    (w.scheme, w.authority.bind (·.host), w.path)
  have hplaces : places "dpl://shop/%37/a/?id=8&*=x&id=9" =
      places "dpl://me:pw@shop:80/%37/a/#id=5" := by decide +kernel
  have hfound : (Url.parse "dpl://shop/%37/a/?id=8&*=x&id=9").toOption.map (fun u =>
      (r.matchUrl? u).map fun found => (found.1.matcher.pattern.names,
        found.2.routeParameters.get? "id", found.2.queryParameters.get? "id")) =
      some (some (["id"], some "7", some "9")) := by decide +kernel
  have hfound' : (Url.parse "dpl://me:pw@shop:80/%37/a/#id=5").toOption.map (fun v =>
      (r.matchUrl? v).map fun found => found.2.queryParameters.get? "id") =
      some (some none) := by decide +kernel
  obtain ⟨u, hu, hmatch⟩ := eq_ok_of_view hfound
  obtain ⟨v, hv, hmatch'⟩ := eq_ok_of_view hfound'
  have huv : u.SameTarget v := by
    simp only [places, hu, hv, Except.toOption, Option.map_some, Option.some.injEq, Prod.mk.injEq]
      at hplaces
    exact ⟨hplaces.1, hplaces.2.1, hplaces.2.2⟩
  obtain ⟨⟨e, link⟩, hsome, hparts⟩ := Option.map_eq_some_iff.1 hmatch
  obtain ⟨hnames, hparts⟩ := Prod.mk.inj hparts
  obtain ⟨hid, hquery⟩ := Prod.mk.inj hparts
  have hdeclares : e.matcher.pattern.Declares "id" := by
    refine .inl ?_
    rw [hnames]
    exact List.mem_singleton_self _
  obtain ⟨hselected, hlinks⟩ := selected_by_target (s := {}) .empty steps huv
  obtain ⟨link', hsome', -, hvalues⟩ := hlinks e link hsome
  obtain ⟨value, hvalue, hget, hget', hall, hall'⟩ := hvalues "id" hdeclares
  obtain rfl : value = "7" := Option.some.inj (hvalue.symm.trans hid)
  have hquery' : link'.queryParameters.get? "id" = none := by
    rw [hsome'] at hmatch'
    exact Option.some.inj hmatch'
  exact ⟨.empty, u, v, hu, hv, huv, hselected, e, link, link', hsome, hsome', hdeclares, hquery,
    hquery', hget, hget', hall, hall'⟩

end Session

end AppLinks
