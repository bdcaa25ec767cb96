import AppLinks.Proofs.Router.Containment
import AppLinks.Proofs.Router.Signals
import AppLinks.Session

/-!
Single delivery over whole sessions.

An attempt makes one place for its completion, or answers it without one. From then on everything
that is done in a session keeps the ledger sound, so that each completion is called by the first
signal for it and by nothing else. This holds at every moment, also while a handler is called.
-/

namespace AppLinks

open Ledger

variable {panics : List (Option Panic)} {c : Completion}

/-! ## Attempts -/

/-- A run is an attempt with a completion: a sound ledger is sound afterwards, and the attempt is
counted. -/
def Run.Counts {α : Type} (panics : List (Option Panic)) (c : Completion) (x : Run α) : Prop :=
  ∀ l : Ledger, l.Sound panics → (x.run.run l).2.Sound (panics ++ [c.panics])

lemma Run.Counts.log {α : Type} {f : Unit → Run α} (hf : Counts panics c (f ()))
    (attempt : Option Url) (notices : List Notice) :
    Counts panics c (Run.log attempt notices >>= f) :=
  fun l h => hf _ (Offers.log attempt notices l ⟨h, Nat.zero_le _⟩).1

namespace Router

/-- An attempt may end without a place for its completion. -/
lemma reject_counts (hc : c.call = panics.length) (attempt : Option Url) (notices : List Notice)
    (error : LinkError) :
    Run.Counts panics c (Run.log attempt notices >>= fun _ =>
      c.deliver false (some error) >>= fun _ => (pure false : Run Bool)) := by
  refine .log (fun l h => ?_) attempt notices
  obtain ⟨call, panics⟩ := c
  cases panics <;> exact h.direct hc rfl rfl rfl rfl

/-- An attempt may make a place for its completion, and call a handler with a sink for it. -/
lemma dispatch_counts (hc : c.call = panics.length) (e : Entry) (link : Link)
    (attempt : Option Url) :
    Run.Counts panics c (Sink.new e.route c >>= fun sink =>
      e.dispatch link sink attempt >>= fun _ => (pure true : Run Bool)) := by
  intro l h
  have hopened : ((Sink.new e.route c).run.run l).2.Offers (panics ++ [c.panics])
      (l.pending.length + 1) := ⟨h.opened hc rfl rfl rfl rfl, by simp [Sink.new_run]⟩
  have hkeeps : Run.Keeps (Offers (panics ++ [c.panics]) (l.pending.length + 1))
      (e.dispatch link { place := l.pending.length, route := e.route } attempt) :=
    (Sink.upholds_offers (Nat.lt_succ_self l.pending.length)).dispatch e link attempt
  rw [Run.run_bind, Sink.new_run] at *
  exact (Run.Keeps.bind hkeeps (fun _ => .pure true) _ hopened).1

lemma asksGate_sound (r : Router) {l : Ledger} (h : l.Sound panics) :
    ∃ b l', r.asksGate.run.run l = (.ok b, l') ∧ l'.Sound panics := by
  rw [asksGate]
  split
  · exact ⟨true, l, rfl, h⟩
  · exact ⟨_, _, rfl, h.congr rfl h.kept rfl fun call => by simp [received, Event.receipt?]⟩

/-- The ledger on which an attempt gives a link to a route: the gate was asked, and there is a place
for the completion. -/
def opened (r : Router) (u : Url) (e : Entry) (c : Completion) (l : Ledger) : Ledger :=
  ((Sink.new e.route c).run.run ((r.afterGate l).noting
    ((r.matchNotices u ++ [Notice.dispatching e.route e.index]).map (.log (some u))))).2

lemma opened_sound {l : Ledger} (h : l.Sound panics) (hc : c.call = panics.length) (r : Router)
    (u : Url) (e : Entry) : (r.opened u e c l).Sound (panics ++ [c.panics]) := by
  obtain ⟨b, hgate, -⟩ := r.asksGate_run l
  obtain ⟨b', l', hgate', hsound⟩ := r.asksGate_sound h
  obtain rfl : l' = r.afterGate l := (Prod.mk.inj (hgate'.symm.trans hgate)).2
  have htold := (Offers.log (some u) (r.matchNotices u ++ [Notice.dispatching e.route e.index])
    (r.afterGate l) ⟨hsound, Nat.zero_le _⟩).1
  exact htold.opened hc rfl rfl rfl rfl

/-- **An attempt keeps a ledger sound** and counts as one, in every way in which it can end. -/
lemma handle_counts (r : Router) (u : Url) (hc : c.call = panics.length) :
    Run.Counts panics c (r.handle u c) := by
  intro l h
  obtain ⟨b, l', hgate, h'⟩ := r.asksGate_sound h
  rw [handle, Run.run_bind, hgate]
  cases b with
  | false => exact reject_counts hc _ _ _ l' h'
  | true =>
    refine Run.Counts.log ?_ (some u) (r.matchNotices u) l' h'
    cases hmatch : r.matchUrl? u with
    | none => exact reject_counts hc _ _ _
    | some found =>
      obtain ⟨e, link⟩ := found
      exact .log (dispatch_counts hc e link (some u)) (some u) _

lemma handleText_counts (r : Router) (text : String) (hc : c.call = panics.length) :
    Run.Counts panics c (r.handleText text c) := by
  rw [handleText]
  split
  · exact r.handle_counts _ hc
  · exact reject_counts hc _ _ _

lemma handleActivity_counts (r : Router) (a : Activity) (hc : c.call = panics.length) :
    Run.Counts panics c (r.handleActivity a c) := by
  rw [handleActivity]
  split
  · exact r.handle_counts _ hc
  · exact reject_counts hc _ _ _

end Router

/-! ## Steps -/

/-- How the completion ends that a step makes an attempt with, if it makes one. -/
def Step.attempt? : Step → Option (Option Panic)
  | .handle _ panics | .handleText _ panics | .handleActivity _ panics => some panics
  | _ => none

namespace Session

/-- The ledger is sound for the attempts so far. -/
def Sound (panics : List (Option Panic)) (s : Session) : Prop :=
  s.ledger.Sound panics ∧ s.attempts = panics.length

lemma perform_sound {α : Type} {s : Session} (h : s.Sound panics) {x : Run α}
    (hx : (x.run.run s.ledger).2.Sound panics) (outcome : α → Outcome) :
    (s.perform x outcome).2.Sound panics := ⟨hx, h.2⟩

lemma log_sound {s : Session} (h : s.Sound panics) (notices : List Notice)
    (outcome : Unit → Outcome) : (s.perform (Run.log none notices) outcome).2.Sound panics :=
  perform_sound h (Offers.log none notices s.ledger ⟨h.1, Nat.zero_le _⟩).1 outcome

lemma dispatch_sound {s : Session} (h : s.Sound panics) (p : Option Panic)
    {x : Completion → Run Bool} (hx : ∀ c, c.call = panics.length → Run.Counts panics c (x c)) :
    (s.dispatch p x).2.Sound (panics ++ [p]) := by
  refine ⟨hx { call := s.attempts, panics := p } h.2 s.ledger h.1, ?_⟩
  rw [List.length_append, List.length_singleton, ← h.2]
  rfl

lemma update_sound {s : Session} (h : s.Sound panics) (r : Except LinkError Router)
    (outcome : Router → Outcome) : (s.update r outcome).2.Sound panics := by
  cases r <;> exact h

lemma act_sound {s : Session} (h : s.Sound panics) (index : Nat) (deed : Deed) :
    (s.step (.act index deed)).2.Sound panics := by
  unfold step
  dsimp only
  split
  · rename_i sink hsink
    have hplace := h.1.kept sink (List.mem_of_getElem? hsink)
    have hoffers : s.ledger.Offers panics s.ledger.pending.length := ⟨h.1, Nat.le_refl _⟩
    exact perform_sound h ((Sink.upholds_offers hplace).follow none _ _ hoffers).1 _
  · exact h

/-- **A step keeps a session sound**, and is an attempt or not. -/
lemma step_sound {s : Session} (h : s.Sound panics) (st : Step) :
    (s.step st).2.Sound (panics ++ st.attempt?.toList) := by
  have hsame : ∀ {s' : Session}, s'.Sound panics →
      s'.Sound (panics ++ (none : Option (Option Panic)).toList) := by
    intro s' h'
    rwa [Option.toList_none, List.append_nil]
  cases st with
  | register route binding =>
    refine hsame ?_
    unfold step
    dsimp only
    split
    · rename_i router _
      exact log_sound (s := { s with router }) h _ fun _ => .size router.size
    · exact h
  | useStartAnchors b => exact hsame (update_sound h _ _)
  | useNormalizedPaths b => exact hsame (update_sound h _ _)
  | hostPattern pattern => exact hsame (update_sound h _ _)
  | setGate gate => exact hsame ⟨h.1.congr rfl h.1.kept rfl fun _ => rfl, h.2⟩
  | clearGate => exact hsame h
  | handle url p => exact dispatch_sound h p fun _ hc => s.router.handle_counts url hc
  | handleText text p => exact dispatch_sound h p fun _ hc => s.router.handleText_counts text hc
  | handleActivity a p => exact dispatch_sound h p fun _ hc => s.router.handleActivity_counts a hc
  | act index deed => exact hsame (act_sound h index deed)
  | tell notices => exact hsame (log_sound h notices _)

/-- **A run keeps a session sound.** -/
lemma run_sound {s : Session} (h : s.Sound panics) (steps : List Step) :
    (s.run steps).Sound (panics ++ steps.filterMap Step.attempt?) := by
  induction steps generalizing s panics with
  | nil => simpa [run] using h
  | cons st steps ih =>
    have hrest := ih (step_sound h st)
    rw [List.append_assoc] at hrest
    cases ha : st.attempt? <;> simpa [run, ha] using hrest

/-! ## Moments -/

/-- What a session says at some moment, with how the completions end of the attempts that were begun
since its last step. A moment is between two steps, or an attempt has made a place for its
completion; since then things may have been noted, and anything may have been done with sinks of
this place and of all others. -/
inductive Moment (s : Session) : List (Option Panic) → Ledger → Prop where
  | between : Moment s [] s.ledger
  | opened (u : Url) (e : Entry) (p : Option Panic) :
    Moment s [p] (s.router.opened u e { call := s.attempts, panics := p } s.ledger)
  | noted {now : List (Option Panic)} {l : Ledger} (es : List Event) : Moment s now l →
    (∀ e ∈ es, ∀ call, e.receipt? call = none) → Moment s now (l.noting es)
  | acted {now : List (Option Panic)} {l : Ledger} (sink : Sink) (attempt : Option Url)
    (a : Action) : Moment s now l → sink.place < l.pending.length →
    Moment s now ((sink.act attempt a).run.run l).2

/-- **A sound session has a sound ledger at every moment.** -/
lemma Moment.sound {s : Session} {now : List (Option Panic)} {l : Ledger} (hl : s.Moment now l)
    (h : s.Sound panics) : l.Sound (panics ++ now) := by
  induction hl with
  | between =>
    rw [List.append_nil]
    exact h.1
  | opened u e p =>
    let c : Completion := { call := s.attempts, panics := p }
    exact Router.opened_sound (c := c) h.1 h.2 s.router u e
  | noted es _ hquiet ih => exact (Offers.note hquiet _ ⟨ih, Nat.zero_le _⟩).1
  | acted sink attempt a _ hplace ih =>
    exact (Sink.act_keeps hplace attempt a _ ⟨ih, Nat.le_refl _⟩).1

/-- What a ledger says about the completions of attempts, of which `panics` says how they end, and
what comes of all that can be done with a sink. -/
structure Delivers (panics : List (Option Panic)) (l : Ledger) : Prop where
  once : ∀ call, (l.received call).length ≤ 1
  reached : ∀ call < panics.length, (l.received call).length = 1 ∨
    ∃ p c us, c.call = call ∧ l.usesOf p = .opened c :: us
  apart : ∀ p q c d us vs, l.usesOf p = .opened c :: us → l.usesOf q = .opened d :: vs →
    c.call = d.call → p = q
  place : ∀ p u us, l.usesOf p = u :: us → ∃ c, u = .opened c ∧ c.IsOf panics ∧
    l.received c.call = (signals us).take 1 ∧ RightStory c us ∧
    ∀ route attempt a, let sink : Sink := { place := p, route }
      sink.Answers a c us l ((sink.act attempt a).run.run l)

lemma Delivers.of_sound {l : Ledger} (h : l.Sound panics) : Delivers panics l where
  once := h.once
  reached call hlt := by
    refine (h.reached call hlt).imp_right ?_
    rintro ⟨p, c, us, hcall, hs⟩
    exact ⟨p, c, us, hcall, hs.uses⟩
  apart p q c d us vs hp hq hcall := by
    obtain ⟨_, ⟨⟩, hs⟩ := h.serves hp
    obtain ⟨_, ⟨⟩, hs'⟩ := h.serves hq
    exact h.apart p q c d us vs hs hs' hcall
  place p u us huses := by
    obtain ⟨c, rfl, hs⟩ := h.serves huses
    exact ⟨c, rfl, h.isOf hs, hs.received, hs.right, fun route attempt a =>
      Sink.act_answers hs attempt a⟩

/-! ## Sinks that were kept -/

lemma step_act_eq {s : Session} {index : Nat} {sink : Sink}
    (hkept : s.ledger.saved[index]? = some sink) (a : Action) :
    s.step (.act index (.act a)) =
      let out := (sink.act none a).run.run s.ledger
      match out.1 with
      | .ok answer => (.nothing, { s with ledger := out.2.noting [.action a answer] })
      | .error p => (.panicked p, { s with ledger := out.2 }) := by
  unfold step perform
  dsimp only
  rw [hkept, Script.ofDeeds]
  dsimp only
  rw [Sink.follow_act_run]
  dsimp only
  cases ((sink.act none a).run.run s.ledger).1 with
  | ok answer => rfl
  | error p => rfl

/-- A kept sink is answered as any other one, and the completion receives what it has to. -/
lemma step_act_delivers {s : Session} (h : s.Sound panics) {index : Nat} {sink : Sink}
    (hkept : s.ledger.saved[index]? = some sink) (a : Action) :
    let out := s.step (.act index (.act a))
    ∃ c us, s.ledger.usesOf sink.place = .opened c :: us ∧
      out.2.ledger.received c.call = (signals us ++ a.signal?.toList).take 1 ∧
      (a.signal? ≠ none → match c.answerAfter us with
        | .ok first => out.1 = .nothing ∧
          out.2.ledger.journal.getLast? = some (.action a (.flag first))
        | .error p => out.1 = .panicked p) := by
  intro out
  obtain ⟨c, us, -, hserves⟩ := h.1.served sink.place (h.1.kept sink (List.mem_of_getElem? hkept))
  have hanswers := Sink.act_answers hserves none a
  refine ⟨c, us, hserves.uses, ?_, fun ha => ?_⟩
  · rw [← hanswers.received]
    simp only [out, step_act_eq hkept]
    split
    · simp [Ledger.received, Ledger.noting, Event.receipt?]
    · rfl
  · obtain ⟨⟨handled, error⟩, ha⟩ := Option.ne_none_iff_exists'.1 ha
    obtain ⟨hout, -⟩ := hanswers.signal handled error ha
    simp only [out, step_act_eq hkept, hout]
    cases c.answerAfter us with
    | ok first => exact ⟨rfl, List.getLast?_concat⟩
    | error p => rfl

/-- **Single delivery.** In whatever order a session makes attempts, acts on sinks that were kept
and changes its router, and whatever the handlers do with their sinks and with those that were kept:
at every moment each completion has received at most one signal, and each attempt was answered
without a place for its completion or has one place. What was done with the sinks of a place is
right: the completion has received the first signal and no other, the first signal was answered with
`true` (or ended in the panic of the completion) and all others with `false`, and the completion
counts as called from the first signal on. Whatever is done next with a sink of the place comes out
in the same way, and leaves all other places and completions as they are. A step that acts on a sink
that was kept makes the answer known, or ends in the panic of the completion. -/
theorem single_delivery (r : Router) (steps : List Step) :
    let s := Session.run { router := r } steps
    let panics := steps.filterMap Step.attempt?
    s.attempts = panics.length ∧
    (∀ now l, s.Moment now l → Delivers (panics ++ now) l) ∧
    ∀ index sink a, s.ledger.saved[index]? = some sink →
      let out := s.step (.act index (.act a))
      ∃ c us, s.ledger.usesOf sink.place = .opened c :: us ∧
        out.2.ledger.received c.call = (signals us ++ a.signal?.toList).take 1 ∧
        (a.signal? ≠ none → match c.answerAfter us with
          | .ok first => out.1 = .nothing ∧
            out.2.ledger.journal.getLast? = some (.action a (.flag first))
          | .error p => out.1 = .panicked p) := by
  intro s panics
  have hfresh : Sound [] { router := r } := ⟨sound_empty, rfl⟩
  have h : s.Sound panics := run_sound hfresh steps
  exact ⟨h.2, fun now l hl => .of_sound (hl.sound h),
    fun index sink a hkept => step_act_delivers h hkept a⟩

/-- The completion panics, and yet the handler goes on: what it says then is not received, and what
is said later, by the sink that it has kept, is answered with `false`. -/
theorem single_delivery_after_panic :
    let full : Panic := { message? := some "full" }
    let late : Script := .act (.fail (.text "late")) fun _ => .act .save fun _ => .done
    let handler : Handler := { handle := fun _ => .act .succeed fun _ => late }
    let url : Url :=
      { scheme := "app".toList, authority := none, location := .segments ["a".toList]
        query := none, fragment := none }
    let s := Session.run {} [.register "a" (.class (.default handler)), .handle url (some full)]
    let c : Completion := { call := 0, panics := some full }
    let out := s.step (.act 0 (.act .succeed))
    ∃ us, s.ledger.usesOf 0 = .opened c :: us ∧ RightStory c us ∧
      (signals us).map Prod.fst = [true, false] ∧ s.ledger.received 0 = [(true, none)] ∧
      out.1 = .nothing ∧ out.2.ledger.received 0 = [(true, none)] ∧
      out.2.ledger.journal.getLast? = some (.action .succeed (.flag false)) := by
  intro full late handler url s c out
  have hviews : s.ledger.saved[0]? = some { place := 0, route := "a" } ∧
      (signals (s.ledger.usesOf 0)).map (fun receipt => (receipt.1, receipt.2.isSome)) =
        [(true, false), (false, true)] := by decide +kernel
  obtain ⟨hsaved, hsent⟩ := hviews
  obtain ⟨-, hmoments, hkept⟩ := single_delivery {} [.register "a" (.class (.default handler)),
    .handle url (some full)]
  obtain ⟨c', us, huses, hreceived, hanswered⟩ := hkept 0 _ .succeed hsaved
  obtain ⟨_, ⟨⟩, hof, hfirst, hright, -⟩ := (hmoments [] _ .between).place 0 _ us huses
  obtain rfl : c' = c := by
    obtain ⟨call, panics⟩ := c'
    cases call with
    | zero => exact congrArg _ (Option.some.inj hof).symm
    | succ n => cases hof
  have hstory : signals (s.ledger.usesOf 0) = signals us := by
    rw [huses]
    rfl
  rw [hstory] at hsent
  have hsides := congrArg (List.map Prod.fst) hsent
  rw [List.map_map] at hsides
  obtain ⟨⟨handled, error⟩, rest, hus, hhead, -⟩ := List.map_eq_cons_iff.1 hsent
  obtain ⟨rfl, herror⟩ := Prod.mk.inj hhead
  obtain rfl : error = none := by simpa using herror
  have hrefused : c.answerAfter us = .ok false := if_neg (by simp [hus])
  specialize hanswered nofun
  rw [hus] at hfirst hreceived
  rw [hrefused] at hanswered
  exact ⟨us, huses, hright, hsides, hfirst, hanswered.1, hreceived, hanswered.2⟩

end Session

end AppLinks
