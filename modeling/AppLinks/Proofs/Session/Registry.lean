import AppLinks.Proofs.Route.NormalForm
import AppLinks.Session

/-!
What is true of every router in use.

The text of the host pattern and its expression are two copies of one fact, and the routes are
numbered in the order of their registration. A router has these properties from the start, every
step of a session keeps them, and a step that is refused changes nothing at all.
-/

namespace AppLinks

open Route (Matcher Normalizer)
open Result

/-- A router as it can be made. -/
inductive Router.Made : Router → Prop where
  | empty : Made {}
  | ofConfig {config : RouterConfig} {r : Router} : Router.ofConfig config = .ok r → Made r
  | ofSettings {settings : Settings} {r : Router} : Router.ofSettings settings = .ok r → Made r

/-- The routes of a router are `registered`, in this order, each with its own matcher and with its
number, and the normalizer is the one of the host pattern in the configuration. -/
structure Router.Consistent (registered : List (String × Binding)) (r : Router) : Prop where
  numbered : ∀ (i : Nat) (e : Entry), r.entries[i]? = some e → e.index = i
  inOrder : r.entries.map (fun e => (e.route, e.binding)) = registered
  matcher : ∀ e ∈ r.entries, Matcher.ofRoute e.route = .ok e.matcher
  normalizer : Normalizer.ofPattern r.config.additionalHostPattern = .ok r.normalizer

namespace Router

variable {registered : List (String × Binding)} {r r' : Router}

/-- No pattern and an empty one give the same normalizer. -/
lemma ofPattern_hostPattern? (config : RouterConfig) :
    Normalizer.ofPattern config.hostPattern? =
      Normalizer.ofPattern config.additionalHostPattern := by
  have hfilter : config.hostPattern?.filter (!·.isEmpty) = config.hostPattern? := by
    rw [RouterConfig.hostPattern?, Option.filter_filter]
    congr 1
    funext p
    rw [Bool.and_self]
  simp only [Normalizer.ofPattern, RouterConfig.hostExpr?]
  rw [RouterConfig.hostPattern?, hfilter]
  rfl

lemma Consistent.ofConfig {config : RouterConfig} (h : Router.ofConfig config = .ok r) :
    r.Consistent [] := by
  obtain ⟨n, hn, hr⟩ := bind_eq_ok.1 h
  rw [← pure_eq_ok.1 hr]
  exact ⟨by simp, rfl, by simp, by rw [← hn, ofPattern_hostPattern?]⟩

lemma Made.consistent (h : r.Made) : r.Consistent [] := by
  cases h with
  | empty => exact ⟨by simp, rfl, by simp, rfl⟩
  | ofConfig h => exact .ofConfig h
  | ofSettings h => exact .ofConfig h

/-- A new route comes last. -/
lemma Consistent.register (h : r.Consistent registered) {route : String} {binding : Binding}
    (hr : r.register route binding = .ok r') :
    r'.Consistent (registered ++ [(route, binding)]) := by
  obtain ⟨m, hm, hr⟩ := bind_eq_ok.1 hr
  rw [← pure_eq_ok.1 hr]
  have hroute := Route.route_of_ofRoute hm
  refine ⟨fun i e hi => ?_, ?_, fun e he => ?_, h.normalizer⟩
  · rcases Nat.lt_or_ge i r.entries.length with hlt | hge
    · rw [List.getElem?_append_left hlt] at hi
      exact h.numbered i e hi
    · rw [List.getElem?_append_right hge] at hi
      obtain ⟨hlast, rfl⟩ := List.getElem?_eq_some_iff.1 hi
      simp only [List.length_singleton] at hlast
      simp only [List.getElem_singleton]
      omega
  · rw [List.map_append, h.inOrder, List.map_singleton, Entry.route, hroute]
  · rcases List.mem_append.1 he with he | he
    · exact h.matcher e he
    · obtain rfl := List.mem_singleton.1 he
      rw [Entry.route, hroute]
      exact hm

lemma register_eq_error_iff {route : String} {binding : Binding} {e : LinkError} :
    r.register route binding = .error e ↔ Matcher.ofRoute route = .error e := bind_pure_eq_error

lemma setHostPattern_eq_error_iff {pattern : Option String} {e : LinkError} :
    r.setHostPattern pattern = .error e ↔ Normalizer.ofPattern pattern = .error e :=
  bind_pure_eq_error

/-- The text of the pattern and its expression change together. -/
lemma Consistent.setHostPattern (h : r.Consistent registered) {pattern : Option String}
    (hr : r.setHostPattern pattern = .ok r') : r'.Consistent registered := by
  obtain ⟨n, hn, hr⟩ := bind_eq_ok.1 hr
  rw [← pure_eq_ok.1 hr]
  exact ⟨h.numbered, h.inOrder, h.matcher, hn⟩

/-- The pattern of a consistent router can be read, and its normalizer has this pattern. -/
lemma Consistent.hostPattern (h : r.Consistent registered) :
    (∀ p, r.config.additionalHostPattern = some p → ∃ e, readHostPattern p = .ok e) ∧
      r.normalizer.hasHostPattern = r.config.hostPattern?.isSome ∧
      ∀ p, r.config.hostPattern? = some p →
        ∃ e, readHostPattern p = .ok e ∧ r.normalizer.hostExpr = some e := by
  have hempty : ∃ e, readHostPattern "" = .ok e := by
    have hsome : (readHostPattern "").toOption.isSome := by decide +kernel
    cases hread : readHostPattern "" with
    | ok e => exact ⟨e, rfl⟩
    | error e => simp [hread, Except.toOption] at hsome
  rw [Normalizer.hasHostPattern, RouterConfig.hostPattern?]
  rcases Route.hostExpr_cases h.normalizer with ⟨hnone, hexpr⟩ | ⟨p, e, hp, hne, hread, hexpr⟩
  · refine ⟨fun p hp => ?_, by rw [hnone, hexpr]; rfl, fun p hp => ?_⟩
    · obtain rfl : p = "" := by simpa [hp] using hnone
      exact hempty
    · rw [hnone] at hp
      cases hp
  · have hfilter : (some p).filter (!·.isEmpty) = some p := by simp [hne]
    rw [hp, hfilter, hexpr]
    exact ⟨fun q hq => Option.some.inj hq ▸ ⟨e, hread⟩, rfl,
      fun q hq => Option.some.inj hq ▸ ⟨e, hread, rfl⟩⟩

end Router

namespace Session

/-! ## Steps -/

def trace (s : Session) : List Step → List (Step × Outcome)
  | [] => []
  | st :: steps => (st, (s.step st).1) :: (s.step st).2.trace steps

end Session

/-- What a step has registered, unless it was refused. -/
def registration? : Step × Outcome → Option (String × Binding)
  | (.register _ _, .refused _) => none
  | (.register route binding, _) => some (route, binding)
  | _ => none

namespace Session

variable {registered : List (String × Binding)}

lemma update_consistent {s : Session} (h : s.router.Consistent registered)
    {r : Except LinkError Router} (hr : ∀ router, r = .ok router → router.Consistent registered)
    (outcome : Router → Outcome) : (s.update r outcome).2.router.Consistent registered := by
  cases r with
  | ok router => exact hr router rfl
  | error e => exact h

/-- **A step keeps a router consistent**, and adds what it registers. -/
lemma step_consistent {s : Session} (h : s.router.Consistent registered) (st : Step) :
    (s.step st).2.router.Consistent
      (registered ++ (registration? (st, (s.step st).1)).toList) := by
  have hsame {r : Router} (hr : r.Consistent registered) :
      r.Consistent (registered ++ (none : Option (String × Binding)).toList) := by
    rwa [Option.toList_none, List.append_nil]
  cases st with
  | register route binding =>
    unfold step
    dsimp only
    split
    · rename_i router hrouter
      exact h.register hrouter
    · exact hsame h
  | useStartAnchors b => exact hsame ⟨h.numbered, h.inOrder, h.matcher, h.normalizer⟩
  | useNormalizedPaths b => exact hsame ⟨h.numbered, h.inOrder, h.matcher, h.normalizer⟩
  | hostPattern pattern => exact hsame (update_consistent h (fun _ => h.setHostPattern) _)
  | setGate gate => exact hsame ⟨h.numbered, h.inOrder, h.matcher, h.normalizer⟩
  | clearGate => exact hsame ⟨h.numbered, h.inOrder, h.matcher, h.normalizer⟩
  | handle url panics => exact hsame h
  | handleText text panics => exact hsame h
  | handleActivity activity panics => exact hsame h
  | act index deed =>
    unfold step
    dsimp only
    split <;> exact hsame h
  | tell notices => exact hsame h

/-- **A run keeps a router consistent.** -/
lemma run_consistent {s : Session} (h : s.router.Consistent registered) (steps : List Step) :
    (s.run steps).router.Consistent
      (registered ++ (s.trace steps).filterMap registration?) := by
  induction steps generalizing s registered with
  | nil => simpa [run, trace] using h
  | cons st steps ih =>
    have hrest := ih (step_consistent h st)
    rw [List.append_assoc] at hrest
    cases hreg : registration? (st, (s.step st).1) <;> simpa [run, trace, hreg] using hrest

/-- A step is refused if it registers what is no pattern or sets a host pattern that cannot be
read, and for no other reason. -/
lemma step_refused_iff (s : Session) (st : Step) (e : LinkError) :
    (s.step st).1 = .refused e ↔
      (∃ route binding, st = .register route binding ∧ Matcher.ofRoute route = .error e) ∨
        ∃ pattern, st = .hostPattern pattern ∧ Normalizer.ofPattern pattern = .error e := by
  have hperform {α : Type} (s : Session) (x : Run α) {outcome : α → Outcome}
      (houtcome : ∀ a, outcome a ≠ .refused e) : (s.perform x outcome).1 ≠ .refused e := by
    unfold perform
    rcases x.run.run s.ledger with ⟨_ | a, l⟩
    · exact Outcome.noConfusion
    · exact houtcome a
  have hdispatch (p : Option Panic) (x : Completion → Run Bool) :
      (s.dispatch p x).1 ≠ .refused e := hperform _ _ fun _ => Outcome.noConfusion
  cases st with
  | register route binding =>
    have hroute : (∃ route' binding', Step.register route binding = .register route' binding' ∧
        Matcher.ofRoute route' = .error e) ↔ s.router.register route binding = .error e := by
      simp [Router.register_eq_error_iff]
    rw [hroute, or_iff_left (by simp)]
    unfold step
    dsimp only
    cases s.router.register route binding with
    | ok router => exact iff_of_false (hperform _ _ fun _ => Outcome.noConfusion) (by simp)
    | error e' => simp
  | hostPattern pattern =>
    have hpattern : (∃ pattern', Step.hostPattern pattern = .hostPattern pattern' ∧
        Normalizer.ofPattern pattern' = .error e) ↔
          s.router.setHostPattern pattern = .error e := by
      simp [Router.setHostPattern_eq_error_iff]
    rw [hpattern, or_iff_right (by simp)]
    unfold step
    dsimp only
    cases s.router.setHostPattern pattern <;> simp [update]
  | handle url p => exact iff_of_false (hdispatch _ _) (by simp)
  | handleText text p => exact iff_of_false (hdispatch _ _) (by simp)
  | handleActivity activity p => exact iff_of_false (hdispatch _ _) (by simp)
  | act index deed =>
    refine iff_of_false ?_ (by simp)
    unfold step
    dsimp only
    split
    · exact hperform _ _ fun _ => Outcome.noConfusion
    · exact Outcome.noConfusion
  | tell notices => exact iff_of_false (hperform _ _ fun _ => Outcome.noConfusion) (by simp)
  | useStartAnchors | useNormalizedPaths | setGate | clearGate =>
    exact iff_of_false Outcome.noConfusion (by simp)

/-- A step that is refused leaves everything as it was. -/
lemma step_refused {s : Session} {st : Step} {e : LinkError} (h : (s.step st).1 = .refused e) :
    (s.step st).2 = s := by
  rcases (step_refused_iff s st e).1 h with ⟨route, binding, rfl, hm⟩ | ⟨pattern, rfl, hn⟩
  · unfold step
    dsimp only
    rw [Router.register_eq_error_iff.2 hm]
  · unfold step
    dsimp only
    rw [Router.setHostPattern_eq_error_iff.2 hn, update]

/-- **Every router in use is consistent.** Its routes and bindings are the registrations that were
not refused, in their order, each route with the matcher that is made from its text and numbered by
its place. The host pattern in the configuration can be read, and what is left out of paths is what
this very pattern matches; without a pattern nothing is. A step that is refused, because it
registers what is no pattern or sets a host pattern that cannot be read, leaves everything as it
was. -/
theorem router_in_use {s : Session} (h : s.router.Made) (steps : List Step) :
    let r := (s.run steps).router
    (∀ (i : Nat) (e : Entry), r.entries[i]? = some e → e.index = i) ∧
    r.entries.map (fun e => (e.route, e.binding)) = (s.trace steps).filterMap registration? ∧
    (∀ e ∈ r.entries, Matcher.ofRoute e.route = .ok e.matcher) ∧
    (∀ p, r.config.additionalHostPattern = some p → ∃ e, readHostPattern p = .ok e) ∧
    Normalizer.ofPattern r.config.additionalHostPattern = .ok r.normalizer ∧
    r.normalizer.hasHostPattern = r.config.hostPattern?.isSome ∧
    (∀ p, r.config.hostPattern? = some p →
      ∃ e, readHostPattern p = .ok e ∧ r.normalizer.hostExpr = some e) ∧
    ∀ st e, (((s.run steps).step st).1 = .refused e ↔
        (∃ route binding, st = .register route binding ∧ Matcher.ofRoute route = .error e) ∨
          ∃ pattern, st = .hostPattern pattern ∧ Normalizer.ofPattern pattern = .error e) ∧
      (((s.run steps).step st).1 = .refused e → ((s.run steps).step st).2 = s.run steps) := by
  intro r
  have hr : r.Consistent ((s.trace steps).filterMap registration?) := run_consistent h.consistent _
  obtain ⟨hread, hhas, hexpr⟩ := hr.hostPattern
  exact ⟨hr.numbered, hr.inOrder, hr.matcher, hread, hr.normalizer, hhas, hexpr,
    fun st e => ⟨step_refused_iff _ st e, step_refused⟩⟩

/-- What is refused leaves no trace: the parameter of the second route has no name, and the second
host pattern has a group without an end. -/
theorem router_in_use_refusals :
    let menu : Binding := .callback "show" fun _ => .ok ()
    let steps : List Step := [.hostPattern (some "site"), .register "menu/:id" menu,
      .register "menu/:" menu, .hostPattern (some "site((")]
    let r := (Session.run {} steps).router
    ({} : Session).router.Made ∧ r.routes = ["menu/:id"] ∧
      ∃ e, readHostPattern "site" = .ok e ∧ r.normalizer.hostExpr = some e := by
  intro binding steps r
  obtain ⟨-, hentries, -, -, -, -, hexpr, -⟩ := router_in_use (s := {}) .empty steps
  have hroutes : r.routes =
      (r.entries.map fun e => (e.route, e.binding)).map Prod.fst := by
    rw [List.map_map]
    rfl
  have htrace : ((trace {} steps).filterMap registration?).map Prod.fst = ["menu/:id"] := by
    decide +kernel
  refine ⟨.empty, ?_, hexpr "site" (by decide +kernel)⟩
  calc r.routes
      = (r.entries.map fun e => (e.route, e.binding)).map Prod.fst := hroutes
    _ = ((trace {} steps).filterMap registration?).map Prod.fst :=
        congrArg (List.map Prod.fst) hentries
    _ = ["menu/:id"] := htrace

end Session

end AppLinks
