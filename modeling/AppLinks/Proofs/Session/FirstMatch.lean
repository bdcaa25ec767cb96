import AppLinks.Proofs.Session.Registry

/-!
The first route wins.

A search tries the entries in the order of their numbers and ends at the first one that matches.
Entries that are registered later come behind all others, so they take no URL away from those that
were there before, and a URL that nothing matched can only go to one of the new entries.
-/

namespace AppLinks

open Route (Matcher)
open Result

/-- Whether a notice is about trying an entry. -/
def Notice.isAttempt : Notice → Bool
  | .tried .. => true
  | _ => false

namespace Router

/-- An entry takes a URL: it matches, no entry with a smaller number does, and the link has its
pattern, the URL and the parameters of its match. -/
structure Takes (r : Router) (u : Url) (e : Entry) (link : Link) : Prop where
  registered : r.entries[e.index]? = some e
  matches_path : r.capture? (r.candidatePath u) e = some link.routeParameters
  first : ∀ e' ∈ r.entries, e'.index < e.index → r.capture? (r.candidatePath u) e' = none
  route : link.route = e.route
  url : link.url = u
  link : link = .ofMatch u e.route link.routeParameters

/-- The entries that are tried for a URL. -/
def tried (r : Router) (u : Url) : List Entry :=
  match r.matchUrl? u with
  | some (e, _) => r.entries.take (e.index + 1)
  | none => r.entries

/-- What is told about trying an entry for a URL. -/
def attempt (r : Router) (u : Url) (e : Entry) : Notice :=
  .tried e.route (String.ofList (r.candidatePath u)) r.config.useStartAnchors
    (r.capture? (r.candidatePath u) e).isSome

variable {registered : List (String × Binding)} {r r' : Router} {u : Url}

/-! ### The search -/

lemma matchUrl?_eq_none_iff :
    r.matchUrl? u = none ↔ ∀ e ∈ r.entries, r.capture? (r.candidatePath u) e = none := by
  simp only [matchUrl?, List.findSome?_eq_none_iff, Option.map_eq_none_iff]

/-- A match splits the entries into those before it, which do not match, itself, and the rest. -/
lemma matchUrl?_eq_some_iff {e : Entry} {link : Link} :
    r.matchUrl? u = some (e, link) ↔ ∃ before after, r.entries = before ++ e :: after ∧
      (∀ e' ∈ before, r.capture? (r.candidatePath u) e' = none) ∧
      ∃ params, r.capture? (r.candidatePath u) e = some params ∧
        link = .ofMatch u e.route params := by
  rw [matchUrl?, List.findSome?_eq_some_iff]
  constructor
  · rintro ⟨before, a, after, hentries, hmatch, hnone⟩
    obtain ⟨params, hparams, heq⟩ := Option.map_eq_some_iff.1 hmatch
    obtain ⟨rfl, rfl⟩ := Prod.mk.inj heq
    exact ⟨before, after, hentries, fun e' he' => Option.map_eq_none_iff.1 (hnone e' he'), params,
      hparams, rfl⟩
  · rintro ⟨before, after, hentries, hnone, params, hparams, rfl⟩
    refine ⟨before, e, after, hentries, ?_, fun e' he' => ?_⟩
    · rw [hparams]
      rfl
    · rw [hnone e' he']
      rfl

/-- The entries before one have the smaller numbers. -/
lemma Consistent.mem_before_iff (h : r.Consistent registered) {before after : List Entry}
    {e e' : Entry} (hentries : r.entries = before ++ e :: after) :
    e' ∈ before ↔ e' ∈ r.entries ∧ e'.index < e.index := by
  have he : e.index = before.length := h.numbered _ e (by simp [hentries])
  rw [he]
  constructor
  · intro hmem
    obtain ⟨i, hi, hget⟩ := List.mem_iff_getElem.1 hmem
    have hi' : r.entries[i]? = some e' := by
      rw [hentries, List.getElem?_append_left hi, List.getElem?_eq_getElem hi, hget]
    exact ⟨List.mem_of_getElem? hi', h.numbered i e' hi' ▸ hi⟩
  · rintro ⟨hmem, hlt⟩
    obtain ⟨i, hi⟩ := List.mem_iff_getElem?.1 hmem
    rw [h.numbered i e' hi] at hlt
    rw [hentries, List.getElem?_append_left hlt] at hi
    exact List.mem_of_getElem? hi

/-- A URL goes to the entry with the least number that matches it. -/
lemma Consistent.matchUrl?_iff_takes (h : r.Consistent registered) {e : Entry} {link : Link} :
    r.matchUrl? u = some (e, link) ↔ r.Takes u e link := by
  rw [matchUrl?_eq_some_iff]
  constructor
  · rintro ⟨before, after, hentries, hnone, params, hparams, rfl⟩
    have hget : r.entries[before.length]? = some e := by simp [hentries]
    refine ⟨?_, hparams, fun e' he' hlt => ?_, rfl, rfl, rfl⟩
    · rw [h.numbered _ e hget]
      exact hget
    · exact hnone e' ((h.mem_before_iff hentries).2 ⟨he', hlt⟩)
  · rintro ⟨hget, hparams, hfirst, -, -, hlink⟩
    obtain ⟨hlt, hget⟩ := List.getElem?_eq_some_iff.1 hget
    have hrest : r.entries.drop e.index = e :: r.entries.drop (e.index + 1) := by
      rw [List.drop_eq_getElem_cons hlt, hget]
    have hentries : r.entries = r.entries.take e.index ++ e :: r.entries.drop (e.index + 1) := by
      rw [← hrest, List.take_append_drop]
    refine ⟨_, _, hentries, fun e' he' => ?_, _, hparams, hlink⟩
    obtain ⟨hmem, hlt⟩ := (h.mem_before_iff hentries).1 he'
    exact hfirst e' hmem hlt

/-- Entries with the same pattern match the same paths, so only the first of them is selected. -/
lemma Consistent.index_le (h : r.Consistent registered) {e e' : Entry} {link : Link}
    (htakes : r.Takes u e link) (he' : e' ∈ r.entries) (hroute : e'.route = e.route) :
    e.index ≤ e'.index := by
  by_contra hlt
  have he := List.mem_of_getElem? htakes.registered
  have hmatcher : e'.matcher = e.matcher := by
    have hread := h.matcher e' he'
    rw [hroute, h.matcher e he] at hread
    exact (Except.ok.inj hread).symm
  have hnone := htakes.first e' he' (Nat.lt_of_not_le hlt)
  rw [capture?, hmatcher, ← capture?, htakes.matches_path] at hnone
  cases hnone

/-! ### What is told about a search -/

lemma filter_candidateNotices (r : Router) (u : Url) :
    (r.candidateNotices u).filter Notice.isAttempt = [] := by
  unfold candidateNotices normalizeNotices
  split
  · split <;> rfl
  · rfl

lemma filter_tryNotices (r : Router) (path : List Char) (es : List Entry) :
    (r.tryNotices path es).filter Notice.isAttempt = r.tryNotices path es := by
  induction es with
  | nil => rfl
  | cons e es ih =>
    rw [tryNotices]
    split
    · rfl
    · rw [List.filter_cons_of_pos rfl, ih]

lemma tryNotices_of_none {es : List Entry}
    (h : ∀ e ∈ es, r.capture? (r.candidatePath u) e = none) (rest : List Entry) :
    r.tryNotices (r.candidatePath u) (es ++ rest) =
      es.map (r.attempt u) ++ r.tryNotices (r.candidatePath u) rest := by
  induction es with
  | nil => rfl
  | cons e es ih =>
    have he := h e (by simp)
    rw [List.cons_append, tryNotices, ih fun e' he' => h e' (List.mem_cons_of_mem _ he'),
      List.map_cons, attempt, he]
    rfl

/-- Each entry that is tried is told of once, in order. -/
lemma Consistent.filter_matchNotices (h : r.Consistent registered) (u : Url) :
    (r.matchNotices u).filter Notice.isAttempt = (r.tried u).map (r.attempt u) := by
  rw [matchNotices, List.filter_append, filter_candidateNotices, List.nil_append, filter_tryNotices,
    tried]
  cases hmatch : r.matchUrl? u with
  | none =>
    have hall := tryNotices_of_none (matchUrl?_eq_none_iff.1 hmatch) []
    rwa [List.append_nil, tryNotices, List.append_nil] at hall
  | some found =>
    obtain ⟨e, link⟩ := found
    obtain ⟨before, after, hentries, hnone, params, hparams, -⟩ := matchUrl?_eq_some_iff.1 hmatch
    have he : e.index = before.length := h.numbered _ e (by simp [hentries])
    have htake : r.entries.take (e.index + 1) = before ++ [e] := by
      rw [hentries, he, List.take_append, List.take_of_length_le (by omega)]
      simp
    dsimp only
    rw [htake, hentries, tryNotices_of_none hnone, tryNotices, hparams, List.map_append,
      List.map_singleton, attempt, hparams]
    rfl

/-! ### Later registrations -/

def extend (r : Router) (added : List Entry) : Router := { r with entries := r.entries ++ added }

/-- Further entries are asked for what no entry before them matches. -/
lemma matchUrl?_extend (r : Router) (added : List Entry) (u : Url) :
    (r.extend added).matchUrl? u =
      (r.matchUrl? u).or ({ r with entries := added }.matchUrl? u) :=
  List.findSome?_append

lemma extend_extend (r : Router) (added added' : List Entry) :
    (r.extend added).extend added' = r.extend (added ++ added') := by
  simp only [extend, List.append_assoc]

lemma register_eq_extend {route : String} {binding : Binding}
    (h : r.register route binding = .ok r') :
    ∃ e, r' = r.extend [e] ∧ (e.route, e.binding) = (route, binding) := by
  obtain ⟨m, hm, hr⟩ := bind_eq_ok.1 h
  exact ⟨_, (pure_eq_ok.1 hr).symm, by rw [Entry.route, Route.route_of_ofRoute hm]⟩

end Router

namespace Session

/-- A registration puts one entry behind the others, or none if it is refused. -/
lemma step_register_router (s : Session) (route : String) (binding : Binding) :
    ∃ added, (s.step (.register route binding)).2.router = s.router.extend added ∧
      ∀ e ∈ added, (e.route, e.binding) = (route, binding) := by
  unfold step
  dsimp only
  split
  · rename_i router hregister
    obtain ⟨e, rfl, he⟩ := Router.register_eq_extend hregister
    exact ⟨[e], rfl, fun e' he' => List.mem_singleton.1 he' ▸ he⟩
  · exact ⟨[], by simp [Router.extend], by simp⟩

def registerAll (s : Session) (routes : List (String × Binding)) : Session :=
  s.run (routes.map fun (route, binding) => .register route binding)

/-- Whatever comes of registrations, they only put entries of their own behind the others. -/
lemma registerAll_router (s : Session) (routes : List (String × Binding)) :
    ∃ added, (s.registerAll routes).router = s.router.extend added ∧
      ∀ e ∈ added, (e.route, e.binding) ∈ routes := by
  induction routes generalizing s with
  | nil => exact ⟨[], by simp [registerAll, run, Router.extend], by simp⟩
  | cons first routes ih =>
    obtain ⟨route, binding⟩ := first
    obtain ⟨one, hstep, hone⟩ := step_register_router s route binding
    obtain ⟨added, hrouter, hadded⟩ := ih (s.step (.register route binding)).2
    have hrun : s.registerAll ((route, binding) :: routes) =
      (s.step (.register route binding)).2.registerAll routes := rfl
    refine ⟨one ++ added, by rw [hrun, hrouter, hstep, Router.extend_extend], fun e he => ?_⟩
    rcases List.mem_append.1 he with he | he
    · exact List.mem_cons.2 (.inl (hone e he))
    · exact List.mem_cons_of_mem _ (hadded e he)

/-- What registrations change for a URL: nothing if it was matched before, and otherwise it may go
to an entry that they have put behind the others. -/
lemma matchUrl?_registerAll {registered : List (String × Binding)} {s : Session}
    (h : s.router.Consistent registered) (routes : List (String × Binding)) (u : Url) :
    (s.registerAll routes).router.matchUrl? u = s.router.matchUrl? u ∨
      s.router.matchUrl? u = none ∧ ∃ e link,
        (s.registerAll routes).router.matchUrl? u = some (e, link) ∧
        s.router.size ≤ e.index ∧ (e.route, e.binding) ∈ routes := by
  obtain ⟨added, hrouter, hadded⟩ := registerAll_router s routes
  have hconsistent := run_consistent h (routes.map fun (route, binding) => .register route binding)
  rw [← registerAll, hrouter] at hconsistent
  rw [hrouter, Router.matchUrl?_extend]
  cases hbefore : s.router.matchUrl? u with
  | some found => exact .inl rfl
  | none =>
    rw [Option.none_or]
    cases hafter : { s.router with entries := added }.matchUrl? u with
    | none => exact .inl rfl
    | some found =>
      obtain ⟨e, link⟩ := found
      obtain ⟨before, after, rfl, -⟩ := Router.matchUrl?_eq_some_iff.1 hafter
      refine .inr ⟨rfl, e, link, rfl, ?_, hadded e (by simp)⟩
      have hindex : e.index = (s.router.entries ++ before).length :=
        hconsistent.numbered _ e (by simp [Router.extend])
      rw [hindex, List.length_append]
      exact Nat.le_add_right _ _

/-- **The first route wins.** In every router in use a URL is matched if and only if some entry
matches its path, and then it goes to the entry with the least number that does, with the pattern of
this entry and the parameters of its match. The entries are tried in order up to this one, each of
them is told of once, and an entry with the pattern of an earlier one is never selected. Further
registrations, refused or not, change nothing for a URL that is matched, and one that is not can
only go to an entry that they have added. -/
theorem first_match_wins {s : Session} (h : s.router.Made) (steps : List Step) :
    let r := (s.run steps).router
    (∀ u,
      (r.matchUrl? u = none ↔ ∀ e ∈ r.entries, r.capture? (r.candidatePath u) e = none) ∧
      (∀ e link, r.matchUrl? u = some (e, link) ↔ r.Takes u e link) ∧
      (r.matchNotices u).filter Notice.isAttempt = (r.tried u).map (r.attempt u) ∧
      ∀ e link, r.Takes u e link → ∀ e' ∈ r.entries, e'.route = e.route → e.index ≤ e'.index) ∧
    ∀ routes u,
      let r' := ((s.run steps).registerAll routes).router
      r'.matchUrl? u = r.matchUrl? u ∨
        r.matchUrl? u = none ∧ ∃ e link, r'.matchUrl? u = some (e, link) ∧ r'.Takes u e link ∧
          r.size ≤ e.index ∧ (e.route, e.binding) ∈ routes := by
  intro r
  have hr : r.Consistent ((s.trace steps).filterMap registration?) := run_consistent h.consistent _
  refine ⟨fun u => ⟨Router.matchUrl?_eq_none_iff, fun e link => hr.matchUrl?_iff_takes,
    hr.filter_matchNotices u, fun e link htakes e' => hr.index_le htakes⟩, fun routes u => ?_⟩
  intro r'
  rcases matchUrl?_registerAll hr routes u with hsame | ⟨hnone, e, link, hmatch, hnew⟩
  · exact .inl hsame
  · have hr' : r'.Consistent _ := run_consistent hr _
    exact .inr ⟨hnone, e, link, hmatch, hr'.matchUrl?_iff_takes.1 hmatch, hnew⟩

/-- The rest of a link that an earlier wildcard takes from a later parameter; of the further
registrations the second one is refused. -/
theorem first_match_wins_overlap :
    let menu : Binding := .callback "show" fun _ => .ok ()
    let steps : List Step := [.register "order/:id" menu, .register "menu/*" menu,
      .register "menu/:id" menu, .register "menu/*" menu]
    let r := (Session.run {} steps).router
    ({} : Session).router.Made ∧ ∃ u e link, Url.parse "dpl://menu/7" = .ok u ∧
      r.matchUrl? u = some (e, link) ∧ r.Takes u e link ∧ e.index = 1 ∧
      link.routeParameters = Params.ofPairs [("*", "7")] ∧
      ((r.matchNotices u).filter Notice.isAttempt).length = 2 ∧
      ((Session.run {} steps).registerAll [("menu/7", menu), ("menu/:", menu)]).router.matchUrl? u =
        some (e, link) := by
  intro menu steps r
  have hfound : (Url.parse "dpl://menu/7").toOption.map (fun u =>
      ((r.matchUrl? u).map fun found => (found.1.index, found.2.routeParameters),
        (r.tried u).length)) =
      some (some (1, Params.ofPairs [("*", "7")]), 2) := by decide +kernel
  obtain ⟨u, hu, hviews⟩ := eq_ok_of_view hfound
  obtain ⟨hmatch, htried⟩ := Prod.mk.inj hviews
  obtain ⟨⟨e, link⟩, hsome, hparts⟩ := Option.map_eq_some_iff.1 hmatch
  obtain ⟨hindex, hparameters⟩ := Prod.mk.inj hparts
  obtain ⟨hlinks, hlater⟩ := first_match_wins (s := {}) .empty steps
  obtain ⟨-, htakes, htold, -⟩ := hlinks u
  refine ⟨.empty, u, e, link, hu, hsome, (htakes e link).1 hsome, hindex, hparameters, ?_, ?_⟩
  · rw [htold, List.length_map]
    exact htried
  · rcases hlater [("menu/7", menu), ("menu/:", menu)] u with hsame | ⟨hnone, -⟩
    · exact hsame.trans hsome
    · cases hsome.symm.trans hnone

end Session

end AppLinks
