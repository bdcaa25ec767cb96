import AppLinks.Proofs.Result
import AppLinks.Proofs.Route.Expressions
import AppLinks.Proofs.Router.Handlers
import AppLinks.Proofs.Session.SingleDelivery

/-!
What comes of an attempt that reaches a handler.

The completion receives the first of what the handler signals while it is called, what the router
reports then, and what is signalled later by sinks that were kept. The attempt itself ends in a
panic only if the completion does, when the router calls it for its report.
-/

namespace AppLinks

open Ledger

variable {panics : List (Option Panic)} {c : Completion} {l : Ledger} {u : Url} {e : Entry}
  {link : Link} {maker : Maker}

/-! ## Attempts -/

namespace Router

lemma calls_gateEvents (r : Router) : calls r.gateEvents = r.gateEvents := by
  unfold gateEvents
  split <;> rfl

lemma reached_opened (h : l.Sound panics) (hc : c.call = panics.length) (r : Router) (u : Url)
    (e : Entry) :
    Reached (panics ++ [c.panics]) l.pending.length c r.gateEvents [] l (r.opened u e c l) := by
  refine ⟨opened_sound h hc r u e, ⟨[], rfl, ?_⟩, _, ?_, List.append_assoc ..⟩
  · have hstory : (r.opened u e c l).usesOf l.pending.length =
        l.usesOf l.pending.length ++ [.opened c] := usesOf_snoc_self rfl
    rw [hstory, h.unused _ (Nat.le_refl _), List.nil_append]
  · rw [calls_append, calls_log, List.append_nil, calls_gateEvents]

/-- An attempt gives the link of the first match to a handler. -/
lemma handle_handling {r : Router} (h : l.Sound panics) (hc : c.call = panics.length)
    (hadmits : r.Admits l) (hmatch : r.matchUrl? u = some (e, link))
    (hb : e.binding = .class maker) :
    let sink : Sink := { place := l.pending.length, route := e.route }
    let out := (r.handle u c).run.run l
    ∃ ds sent told, e.Handling maker link sink (some u) (r.opened u e c l) ds sent told ∧
      Reached (panics ++ [c.panics]) sink.place c (r.gateEvents ++ ds) (sent ++ told.toList) l
        out.2 ∧
      out.1 = if sent = [] ∧ told.isSome then c.ends true else .ok true := by
  intro sink out
  have hopened : Reached (panics ++ [c.panics]) sink.place c r.gateEvents [] l
    (r.opened u e c l) := reached_opened h hc r u e
  obtain ⟨ds, sent, told, hhandling, hreached, hresult⟩ :=
    e.dispatch_handling hb link (some u) hopened
  have hout : out = (((e.dispatch link sink (some u)).run.run (r.opened u e c l)).1.map
      fun _ => true, ((e.dispatch link sink (some u)).run.run (r.opened u e c l)).2) :=
    handle_matched hadmits hmatch c
  rw [hout]
  refine ⟨ds, sent, told, hhandling, hreached, ?_⟩
  dsimp only
  rw [hresult]
  split
  · exact c.answer_map_map
  · rfl

/-! ### Uses are not taken back -/

lemma handle_uses (r : Router) (u : Url) (c : Completion) (l : Ledger) :
    l.uses <+: ((r.handle u c).run.run l).2.uses := by
  by_cases h : r.Admits l
  · cases hmatch : r.matchUrl? u with
    | none =>
      rw [handle_unmatched h hmatch]
      exact List.prefix_refl _
    | some found =>
      obtain ⟨e, link⟩ := found
      rw [handle_matched h hmatch]
      exact (Sink.upholds_uses _ l.uses).dispatch e link (some u) _ (List.prefix_append _ _)
  · rw [handle_closed h]
    exact List.prefix_refl _

lemma handleText_uses (r : Router) (text : String) (c : Completion) (l : Ledger) :
    l.uses <+: ((r.handleText text c).run.run l).2.uses := by
  rw [handleText]
  split
  · exact r.handle_uses _ c l
  · rw [reject_run]
    exact List.prefix_refl _

lemma handleActivity_uses (r : Router) (a : Activity) (c : Completion) (l : Ledger) :
    l.uses <+: ((r.handleActivity a c).run.run l).2.uses := by
  rw [handleActivity]
  split
  · exact r.handle_uses _ c l
  · rw [reject_run]
    exact List.prefix_refl _

end Router

namespace Session

lemma step_uses (s : Session) (st : Step) : s.ledger.uses <+: (s.step st).2.ledger.uses := by
  cases st with
  | register route binding =>
    unfold step
    dsimp only
    split
    · exact List.prefix_refl _
    · exact List.prefix_refl _
  | hostPattern pattern =>
    unfold step update
    dsimp only
    split
    · exact List.prefix_refl _
    · exact List.prefix_refl _
  | useStartAnchors | useNormalizedPaths | setGate | clearGate | tell => exact List.prefix_refl _
  | handle url p => exact s.router.handle_uses url _ s.ledger
  | handleText text p => exact s.router.handleText_uses text _ s.ledger
  | handleActivity activity p => exact s.router.handleActivity_uses activity _ s.ledger
  | act index deed =>
    unfold step
    dsimp only
    split
    · rename_i sink _
      exact (sink.upholds_uses s.ledger.uses).follow none _ s.ledger (List.prefix_refl _)
    · exact List.prefix_refl _

lemma run_uses (s : Session) (steps : List Step) :
    s.ledger.uses <+: (s.run steps).ledger.uses := by
  induction steps generalizing s with
  | nil => exact List.prefix_refl _
  | cons st steps ih => exact (s.step_uses st).trans (ih _)

lemma run_usesOf (s : Session) (steps : List Step) (place : Nat) :
    s.ledger.usesOf place <+: (s.run steps).ledger.usesOf place :=
  ((s.run_uses steps).filter _).map _

/-! ## What is received -/

lemma Sound.received {s : Session} (h : s.Sound panics) {place : Nat} {us : List Use}
    (huses : s.ledger.usesOf place = .opened c :: us) :
    s.ledger.received c.call = (signals us).take 1 := by
  obtain ⟨_, ⟨⟩, hserves⟩ := h.1.serves huses
  exact hserves.received

/-- The completion of a place receives the first of the signals `sent` to it so far, and of those
that come to it as the session goes on, in whatever way. A sink of the place that was kept can send
one. -/
def ReceivesFirst (s : Session) (place : Nat) (c : Completion)
    (sent : List (Bool × Option LinkError)) : Prop :=
  ∀ later, let s' := s.run later
    ∃ us rest, signals us = sent ∧ s'.ledger.usesOf place = .opened c :: (us ++ rest) ∧
      (later = [] → rest = []) ∧
      s'.ledger.received c.call = (sent ++ signals rest).take 1 ∧
      ∀ index route a, s'.ledger.saved[index]? = some { place, route } →
        (s'.step (.act index (.act a))).2.ledger.received c.call =
          (sent ++ signals rest ++ a.signal?.toList).take 1

/-- **Nothing else is received than the first signal**, as a session goes on. -/
lemma Sound.receivesFirst {s : Session} (h : s.Sound panics) {place : Nat} {us : List Use}
    (huses : s.ledger.usesOf place = .opened c :: us) :
    s.ReceivesFirst place c (signals us) := by
  intro later s'
  have hsound : s'.Sound _ := run_sound h later
  obtain ⟨rest, hrest⟩ := s.run_usesOf later place
  have hstory : s'.ledger.usesOf place = .opened c :: (us ++ rest) := by
    rw [← hrest, huses, List.cons_append]
  refine ⟨us, rest, rfl, hstory, fun hlater => ?_, ?_, fun index route a hkept => ?_⟩
  · subst hlater
    have hsame : s.ledger.usesOf place ++ rest = s.ledger.usesOf place := hrest
    exact List.append_right_eq_self.1 hsame
  · rw [hsound.received hstory, signals_append]
  · obtain ⟨_, _, hstory', hreceived, -⟩ := step_act_delivers hsound hkept a
    cases hstory.symm.trans hstory'
    rw [hreceived, signals_append]

lemma step_handle (s : Session) (u : Url) (p : Option Panic) :
    let out := (s.router.handle u { call := s.attempts, panics := p }).run.run s.ledger
    (s.step (.handle u p)).1 = (match out.1 with | .ok b => .matched b | .error p => .panicked p) ∧
      (s.step (.handle u p)).2.ledger = out.2 := by
  refine ⟨?_, rfl⟩
  unfold step dispatch perform
  dsimp only
  rcases (s.router.handle u { call := s.attempts, panics := p }).run.run s.ledger with ⟨_ | _, l⟩
  · rfl
  · rfl

/-- **What comes of a link that reaches a handler.** In any session, if the gate lets a link through
and the first route that matches is bound to a class, then the link is dealt with in one of the ways
that `Entry.Handling` lists, whatever the factory and the handler do. Of the application, the gate
is called, if there is one, and what this way says, and nothing else; so the factory is called once,
and a handler that declines the link is not called. The completion receives the first of what the
handler signals while it is called, of what the router reports then, and of what is signalled later,
by sinks that were kept. So a report is received if and only if nothing was signalled before it;
then the attempt ends as the completion does, and in all other cases it answers that the link was
routed, even if the completion has panicked in a signal of the handler. For a handler that does one
deed after another, what comes first is the first signal among the deeds, or else the first
panic. -/
theorem handler_outcome (r : Router) (steps : List Step) (panics : Option Panic) :
    let s := Session.run { router := r } steps
    s.router.Admits s.ledger → s.router.matchUrl? u = some (e, link) → e.binding = .class maker →
    let c : Completion := { call := s.attempts, panics }
    let sink : Sink := { place := s.ledger.pending.length, route := e.route }
    let out := s.step (.handle u panics)
    ∃ called sent told, e.Handling maker link sink (some u) (s.router.opened u e c s.ledger)
        called sent told ∧
      (∃ es, calls es = s.router.gateEvents ++ called ∧
        out.2.ledger.journal = s.ledger.journal ++ es) ∧
      (panics = none ∨ sent ≠ [] ∨ told = none → out.1 = .matched true) ∧
      (∀ p, panics = some p → sent = [] → told ≠ none → out.1 = .panicked p) ∧
      (∀ h deeds, maker.made link = .ok (.ok h) → h.answer link = .ok true →
        h.handle link = .ofDeeds deeds → (sent ++ told.toList).head? =
          (Deed.signals deeds).head?.or ((Deed.panic? deeds).map e.panicked)) ∧
      out.2.ReceivesFirst sink.place c (sent ++ told.toList) := by
  intro s hadmits hmatch hb c sink out
  have hfresh : Sound [] { router := r } := ⟨sound_empty, rfl⟩
  have hsound : s.Sound (steps.filterMap Step.attempt?) := run_sound hfresh steps
  obtain ⟨called, sent, told, hhandling, hreached, hresult⟩ :=
    Router.handle_handling (c := c) hsound.1 hsound.2 hadmits hmatch hb
  have houtcome := (s.step_handle u panics).1
  rw [hresult] at houtcome
  refine ⟨called, sent, told, hhandling, hreached.calls, fun hquiet => ?_,
    fun p hp hsent htold => ?_,
    fun h deeds hmade hanswer hdeeds => hhandling.head?_ofDeeds hmade hanswer hdeeds, ?_⟩
  · by_cases hreceived : sent = [] ∧ told.isSome
    · have hnone : panics = none :=
        hquiet.resolve_right fun h => h.elim (absurd hreceived.1) fun h => by simp [h] at hreceived
      subst hnone
      rw [if_pos hreceived] at houtcome
      exact houtcome
    · rw [if_neg hreceived] at houtcome
      exact houtcome
  · subst hp
    rw [if_pos ⟨hsent, Option.isSome_iff_ne_none.2 htold⟩] at houtcome
    exact houtcome
  · obtain ⟨us, hsignals, huses⟩ := hreached.story
    rw [← hsignals]
    exact (step_sound hsound (.handle u panics)).receivesFirst huses

/-- What three handlers come to: one that panics before it signals, with a message, one without a
message, and one that asks, signals and only then panics. -/
theorem handler_outcome_panics :
    let loud : Panic := { message? := some "no disk" }
    let mute : Panic := { message? := none }
    let maker (deeds : List Deed) : Maker :=
      .factory "made" fun _ => .ok (.ok { handle := fun _ => .ofDeeds deeds })
    let url : Url :=
      { scheme := "app".toList, authority := none, location := .segments ["a".toList]
        query := none, fragment := none }
    ∃ m, Route.Matcher.ofRoute "a" = .ok m ∧
      let r (deeds : List Deed) : Router :=
        { entries := [{ matcher := m, binding := .class (maker deeds), index := 0 }] }
      let receives (deeds : List Deed) (receipt : Bool × Option LinkError) : Prop :=
        let out := Session.step { router := r deeds } (.handle url none)
        out.1 = .matched true ∧ out.2.ledger.received 0 = [receipt]
      receives [.act .isCompleted, .panic loud]
          (false, some (.handlerInvocationFailed "a" (.text "no disk"))) ∧
        receives [.panic mute]
          (false, some (.handlerInvocationFailed "a" (.text "handler panicked"))) ∧
        receives [.act .isCompleted, .act .succeed, .panic mute] (true, none) := by
  intro loud mute maker url
  have hfound : (Route.Matcher.ofRoute "a").toOption.map
      (·.matchPath (Route.rawRoute url) false) = some (some Params.empty) := by decide +kernel
  obtain ⟨m, hm, hpath⟩ := Result.eq_ok_of_view hfound
  refine ⟨m, hm, ?_⟩
  intro r receives
  have hroute : m.route = "a" := Route.route_of_ofRoute hm
  -- the first of the signals and panics among the deeds is received
  have hfirst (deeds : List Deed) (receipt : Bool × Option LinkError)
      (hreceipt : (Deed.signals deeds).head?.or ((Deed.panic? deeds).map
        (Entry.panicked { matcher := m, binding := .class (maker deeds), index := 0 })) =
          some receipt) : receives deeds receipt := by
    have hcapture : (r deeds).capture? ((r deeds).candidatePath url)
        { matcher := m, binding := .class (maker deeds), index := 0 } = some .empty := hpath
    have hmatch : (r deeds).matchUrl? url = some
        ({ matcher := m, binding := .class (maker deeds), index := 0 },
          Link.ofMatch url m.route .empty) := by
      simp only [Router.matchUrl?, r, List.findSome?_cons, hcapture, Option.map_some]
      rfl
    obtain ⟨called, sent, told, -, -, hreturns, -, hdeeds, hreceived⟩ :=
      handler_outcome (r deeds) [] none (fun gate hgate => by cases hgate) hmatch rfl
    obtain ⟨us, rest, -, -, hrest, hreceived, -⟩ := hreceived []
    obtain rfl := hrest rfl
    refine ⟨hreturns (.inl rfl), hreceived.trans ?_⟩
    rw [signals_nil, List.append_nil, List.take_one, hdeeds _ deeds rfl rfl rfl, hreceipt]
    rfl
  refine ⟨hfirst _ _ ?_, hfirst _ _ ?_, hfirst _ _ rfl⟩
  · simp [Deed.signals, Deed.panic?, Action.signal?, Entry.panicked, Entry.failure, Entry.route,
      hroute, loud]
  · simp [Deed.signals, Deed.panic?, Entry.panicked, Entry.failure, Entry.route, hroute, mute]

end Session

end AppLinks
