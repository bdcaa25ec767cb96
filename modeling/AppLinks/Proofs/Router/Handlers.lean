import AppLinks.Proofs.Router.Containment
import AppLinks.Proofs.Router.Signals

/-!
How handlers deal with links.

A handler is made, asked and called, and each of these can fail. It signals while it is called, and
the router reports afterwards if the handler declined the link or failed. So the signals come before
the report, and the completion receives the report only if there was no signal.
-/

namespace AppLinks

variable {e : Entry} {maker : Maker} {link : Link} {sink : Sink} {c : Completion} {l l₀ : Ledger}
  {panics : List (Option Panic)} {place : Nat} {cs : List Event}
  {sent : List (Bool × Option LinkError)}

/-! ## Making, asking and calling -/

/-- What comes of making a handler for a link. -/
def Maker.made (link : Link) : Maker → Except Panic (Except Cause Handler)
  | .default h => .ok (.ok h)
  | .factory _ make => make link

/-- What comes of asking a handler whether it wants a link. -/
def Handler.answer (h : Handler) (link : Link) : Except Panic Bool :=
  match h.wants? with
  | none => .ok true
  | some wants => wants link

/-- The call by which a handler is asked, if it can be asked. -/
def Handler.asking (h : Handler) : List Event := if h.wants?.isSome then [.asked] else []

lemma Ledger.noting_nil (l : Ledger) : l.noting [] = l := by
  simp [noting]

lemma Run.ofCall_run {α : Type} (r : Except Panic α) (l : Ledger) :
    (Run.ofCall r).run.run l = (r, l) := by
  cases r <;> rfl

lemma Maker.make_run (maker : Maker) (link : Link) (l : Ledger) :
    (maker.make link).run.run l = (maker.made link, l.noting (maker.calls link)) := by
  cases maker with
  | default h =>
    rw [Maker.calls, Ledger.noting_nil]
    rfl
  | factory name make =>
    rw [Maker.make, Run.note_bind_run, Run.ofCall_run]
    rfl

lemma Handler.wants_run (h : Handler) (link : Link) (l : Ledger) :
    (h.wants link).run.run l = (h.answer link, l.noting h.asking) := by
  rw [Handler.wants, Handler.answer, Handler.asking]
  cases h.wants? with
  | none => exact congrArg (Prod.mk _) l.noting_nil.symm
  | some wants =>
    dsimp only
    rw [Run.note_bind_run, Run.ofCall_run]
    rfl

/-- The calls up to that of a handler. -/
def Maker.callsWith (maker : Maker) (h : Handler) (link : Link) : List Event :=
  maker.calls link ++ h.asking ++ [.handle link]

/-- A handler that was made is asked, and called if it wants the link. -/
lemma Maker.handle_run_of_made {h : Handler} (hmade : maker.made link = .ok (.ok h)) (sink : Sink)
    (attempt : Option Url) (l : Ledger) :
    (maker.handle link sink attempt).run.run l =
      match h.answer link with
      | .error p => (.error p, l.noting (maker.calls link ++ h.asking))
      | .ok false => (.ok (.ok false), l.noting (maker.calls link ++ h.asking))
      | .ok true =>
        let out := (sink.follow attempt (h.handle link)).run.run
          (l.noting (maker.callsWith h link))
        (out.1.map fun _ => .ok true, out.2) := by
  rw [Maker.handle, Run.run_bind, Maker.make_run, hmade]
  dsimp only
  rw [Run.run_bind, Handler.wants_run, Ledger.noting_noting]
  rcases h.answer link with p | b
  · rfl
  · cases b with
    | false => rfl
    | true =>
      dsimp only
      rw [if_pos rfl, Run.note_bind_run, Ledger.noting_noting, Run.bind_pure_run]
      rfl

/-! ## Outcomes -/

/-- How a handler can deal with a link that is given to it on a ledger: which functions of the
application are called, what the handler signals, and what the router reports then, if it does. -/
inductive Entry.Handling (e : Entry) (maker : Maker) (link : Link) (sink : Sink)
    (attempt : Option Url) (l : Ledger) :
    List Event → List (Bool × Option LinkError) → Option (Bool × Option LinkError) → Prop where
  | makingPanics {p : Panic} : maker.made link = .error p →
    Handling e maker link sink attempt l (maker.calls link) [] (some (e.panicked p))
  | makingFails {cause : Cause} : maker.made link = .ok (.error cause) →
    Handling e maker link sink attempt l (maker.calls link) [] (some (e.failure cause))
  /-- The handler panics when it is asked whether it wants the link. -/
  | askingPanics {h : Handler} {p : Panic} : maker.made link = .ok (.ok h) →
    h.answer link = .error p →
    Handling e maker link sink attempt l (maker.calls link ++ h.asking) []
      (some (e.panicked p))
  | declines {h : Handler} : maker.made link = .ok (.ok h) → h.answer link = .ok false →
    Handling e maker link sink attempt l (maker.calls link ++ h.asking) [] (some (false, none))
  /-- The handler is called and panics, perhaps after signals. -/
  | handlingPanics {h : Handler} {p : Panic} : maker.made link = .ok (.ok h) →
    h.answer link = .ok true →
    ((sink.follow attempt (h.handle link)).run.run (l.noting (maker.callsWith h link))).1 =
      .error p →
    Handling e maker link sink attempt l (maker.callsWith h link)
      (sink.signalled attempt (h.handle link) (l.noting (maker.callsWith h link)))
      (some (e.panicked p))
  /-- The handler is called and returns, perhaps without a signal. -/
  | returns {h : Handler} : maker.made link = .ok (.ok h) → h.answer link = .ok true →
    ((sink.follow attempt (h.handle link)).run.run (l.noting (maker.callsWith h link))).1 =
      .ok () →
    Handling e maker link sink attempt l (maker.callsWith h link)
      (sink.signalled attempt (h.handle link) (l.noting (maker.callsWith h link))) none

/-- A handler that does deeds one after another: what is signalled or reported first is the first
signal of a deed, or, if a deed panics before there was one, this panic. -/
lemma Entry.Handling.head?_ofDeeds {attempt : Option Url} {told : Option (Bool × Option LinkError)}
    (hhandling : e.Handling maker link sink attempt l cs sent told) {h : Handler}
    (hmade : maker.made link = .ok (.ok h)) (hanswer : h.answer link = .ok true)
    {ds : List Deed} (hdeeds : h.handle link = .ofDeeds ds) :
    (sent ++ told.toList).head? = (Deed.signals ds).head?.or
      ((Deed.panic? ds).map e.panicked) := by
  have hfirst (l : Ledger) : (sink.signalled attempt (h.handle link) l).head? =
      (Deed.signals ds).head? := hdeeds ▸ sink.head?_signalled_ofDeeds attempt ds l
  have hend (hquiet : Deed.signals ds = []) (l : Ledger) :
      ((sink.follow attempt (h.handle link)).run.run l).1 =
        (Deed.panic? ds).elim (.ok ()) .error :=
    hdeeds ▸ sink.follow_ofDeeds attempt hquiet l
  cases hhandling with
  | makingPanics hmade' => cases hmade'.symm.trans hmade
  | makingFails hmade' => cases hmade'.symm.trans hmade
  | askingPanics hmade' hanswer' =>
    cases hmade'.symm.trans hmade
    cases hanswer'.symm.trans hanswer
  | declines hmade' hanswer' =>
    cases hmade'.symm.trans hmade
    cases hanswer'.symm.trans hanswer
  | @handlingPanics _ p hmade' _ hpanic =>
    cases hmade'.symm.trans hmade
    rw [List.head?_append, hfirst]
    cases hsignals : Deed.signals ds with
    | cons receipt rest => rfl
    | nil =>
      rw [hend hsignals] at hpanic
      cases hp : Deed.panic? ds with
      | none => simp [hp] at hpanic
      | some q =>
        rw [hp] at hpanic
        cases hpanic
        rfl
  | returns hmade' _ hreturn =>
    cases hmade'.symm.trans hmade
    rw [List.head?_append, hfirst]
    cases hsignals : Deed.signals ds with
    | cons receipt rest => rfl
    | nil =>
      rw [hend hsignals] at hreturn
      cases hp : Deed.panic? ds with
      | none => rfl
      | some q => simp [hp] at hreturn

/-! ## What a ledger says afterwards -/

/-- A ledger comes after another one and is sound; the functions `cs` of the application were called
in between, and `sent` was signalled to a place since it was made. -/
structure Ledger.Reached (panics : List (Option Panic)) (place : Nat) (c : Completion)
    (cs : List Event) (sent : List (Bool × Option LinkError)) (l₀ l : Ledger) : Prop where
  sound : l.Sound panics
  story : ∃ us, signals us = sent ∧ l.usesOf place = .opened c :: us
  calls : ∃ es, calls es = cs ∧ l.journal = l₀.journal ++ es

namespace Ledger.Reached

lemma lt (h : Reached panics place c cs sent l₀ l) : place < l.pending.length := by
  obtain ⟨us, -, huses⟩ := h.story
  obtain ⟨_, -, hserves⟩ := h.sound.serves huses
  exact hserves.lt

lemma offers (h : Reached panics place c cs sent l₀ l) : l.Offers panics (place + 1) :=
  ⟨h.sound, h.lt⟩

lemma noting (h : Reached panics place c cs sent l₀ l) (es : List Event)
    (hquiet : ∀ e ∈ es, ∀ call, e.receipt? call = none) :
    Reached panics place c (cs ++ AppLinks.calls es) sent l₀ (l.noting es) := by
  obtain ⟨fs, hcalls, hjournal⟩ := h.calls
  refine ⟨(Ledger.Offers.note hquiet l h.offers).1, h.story, fs ++ es, ?_, ?_⟩
  · rw [calls_append, hcalls]
  · rw [Ledger.noting, hjournal, List.append_assoc]

lemma calls_advance {α : Type} {x : Run α} (h : Reached panics place c cs sent l₀ l)
    (hx : x.Advances []) :
    ∃ es, AppLinks.calls es = cs ∧ (x.run.run l).2.journal = l₀.journal ++ es := by
  obtain ⟨es, rfl, hjournal⟩ := h.calls
  obtain ⟨fs, -, hjournal', hcalls, -, -⟩ := hx l
  refine ⟨es ++ fs, ?_, ?_⟩
  · rw [calls_append, List.sublist_nil.1 hcalls, List.append_nil]
  · rw [hjournal', hjournal, List.append_assoc]

/-- A script only signals. -/
lemma follow (h : Reached panics sink.place c cs sent l₀ l) (attempt : Option Url)
    (script : Script) :
    Reached panics sink.place c cs (sent ++ sink.signalled attempt script l) l₀
      ((sink.follow attempt script).run.run l).2 := by
  have hupholds : sink.Upholds (Ledger.Offers panics (sink.place + 1)) :=
    Sink.upholds_offers (Nat.lt_succ_self sink.place)
  obtain ⟨us, rfl, huses⟩ := h.story
  obtain ⟨vs, hsignals, huses'⟩ := sink.follow_usesOf attempt script l
  refine ⟨(hupholds.follow attempt script l h.offers).1, ⟨us ++ vs, ?_, ?_⟩,
    h.calls_advance (sink.follow_advances attempt script)⟩
  · rw [signals_append, hsignals]
  · rw [huses', huses, List.cons_append]

/-- A signal is received if it is the first one, and is answered by whether it is. -/
lemma complete (h : Reached panics sink.place c cs sent l₀ l) (attempt : Option Url)
    (handled : Bool) (error : Option LinkError) :
    let out := (sink.complete attempt handled error).run.run l
    Reached panics sink.place c cs (sent ++ [(handled, error)]) l₀ out.2 ∧
      out.1 = if sent = [] then c.answer else .ok false := by
  intro out
  have hupholds : sink.Upholds (Ledger.Offers panics (sink.place + 1)) :=
    Sink.upholds_offers (Nat.lt_succ_self sink.place)
  obtain ⟨us, rfl, huses⟩ := h.story
  obtain ⟨_, ⟨⟩, hserves⟩ := h.sound.serves huses
  obtain ⟨hresult, husing⟩ := Sink.complete_using hserves attempt handled error
  refine ⟨⟨(hupholds.complete attempt handled error l h.offers).1,
    ⟨us ++ [.signal handled error out.1], ?_, (hserves.use husing).uses⟩,
    h.calls_advance (sink.complete_advances attempt handled error)⟩, hresult⟩
  rw [signals_snoc]
  rfl

/-- A report is received if nothing was signalled before it. -/
lemma report (h : Reached panics sink.place c cs sent l₀ l) (attempt : Option Url)
    (notice : Notice) (error : Option LinkError) :
    let out := (sink.report attempt notice error).run.run l
    Reached panics sink.place c cs (sent ++ [(false, error)]) l₀ out.2 ∧
      out.1 = if sent = [] then c.answer.map fun _ => () else .ok () := by
  have hlogged : Reached panics sink.place c cs sent l₀ (l.noting [.log attempt notice]) := by
    have hnoting := h.noting [.log attempt notice] (by simp [Event.receipt?])
    rwa [show AppLinks.calls [.log attempt notice] = [] from rfl, List.append_nil] at hnoting
  obtain ⟨hreached, hanswer⟩ := hlogged.complete attempt false error
  rw [Sink.report, Run.log, Run.note_bind_run, Run.bind_pure_run]
  refine ⟨hreached, ?_⟩
  dsimp only
  rw [List.map_singleton, hanswer]
  split <;> rfl

end Ledger.Reached

/-! ## Giving a link to a handler -/

lemma Event.receipt?_of_isCall {ev : Event} (h : ev.isCall = true) (call : Nat) :
    ev.receipt? call = none := by
  cases ev with
  | completion => cases h
  | gate | callback | factory | asked | handle | action | log => rfl

lemma Maker.isCall_calls (maker : Maker) (link : Link) :
    ∀ ev ∈ maker.calls link, ev.isCall = true := by
  cases maker <;> simp [Maker.calls, Event.isCall]

lemma Handler.isCall_asking (h : Handler) : ∀ ev ∈ h.asking, ev.isCall = true := by
  unfold Handler.asking
  split <;> simp [Event.isCall]

lemma Ledger.Reached.call (h : Reached panics place c cs sent l₀ l) {ds : List Event}
    (hds : ∀ ev ∈ ds, ev.isCall = true) :
    Reached panics place c (cs ++ ds) sent l₀ (l.noting ds) := by
  have hcalls : AppLinks.calls ds = ds := List.filter_eq_self.2 hds
  have hnoting := h.noting ds fun ev hev => Event.receipt?_of_isCall (hds ev hev)
  rwa [hcalls] at hnoting

namespace Entry

/-- A handler is made, asked and called, and the router has to report or not. -/
lemma handle_handling (e : Entry) (maker : Maker) (link : Link) (attempt : Option Url)
    (h : Ledger.Reached panics sink.place c cs [] l₀ l) :
    let out := (maker.handle link sink attempt).run.run l
    ∃ ds sent told, e.Handling maker link sink attempt l ds sent told ∧
      Ledger.Reached panics sink.place c (cs ++ ds) sent l₀ out.2 ∧
      told = (e.verdict out.1).map fun verdict => (false, verdict.2) := by
  have hmaking := maker.isCall_calls link
  rcases hmade : maker.made link with p | cause | handler
  · rw [Maker.handle, Run.run_bind, Maker.make_run, hmade]
    exact ⟨_, _, _, .makingPanics hmade, h.call hmaking, congrArg some (e.panicked_eq p)⟩
  · rw [Maker.handle, Run.run_bind, Maker.make_run, hmade]
    exact ⟨_, _, _, .makingFails hmade, h.call hmaking, rfl⟩
  have hasking : ∀ ev ∈ maker.calls link ++ handler.asking, ev.isCall = true := fun ev hev =>
    (List.mem_append.1 hev).elim (hmaking ev) (handler.isCall_asking ev)
  rw [Maker.handle_run_of_made hmade]
  rcases hanswer : handler.answer link with p | wants
  · exact ⟨_, _, _, .askingPanics hmade hanswer, h.call hasking, congrArg some (e.panicked_eq p)⟩
  cases wants with
  | false => exact ⟨_, _, _, .declines hmade hanswer, h.call hasking, rfl⟩
  | true =>
    have hhandling : ∀ ev ∈ maker.callsWith handler link, ev.isCall = true := fun ev hev =>
      (List.mem_append.1 hev).elim (hasking ev) fun hev => by rw [List.mem_singleton.1 hev]; rfl
    have hreached := (h.call hhandling).follow attempt (handler.handle link)
    rw [List.nil_append] at hreached
    dsimp only
    cases hend : ((sink.follow attempt (handler.handle link)).run.run
        (l.noting (maker.callsWith handler link))).1 with
    | error p =>
      exact ⟨_, _, _, .handlingPanics hmade hanswer hend, hreached, congrArg some (e.panicked_eq p)⟩
    | ok => exact ⟨_, _, _, .returns hmade hanswer hend, hreached, rfl⟩

/-- **A link is given to a handler**: its signals come first, and then the report of the router,
which ends as the completion does if it is received. -/
lemma dispatch_handling {maker : Maker} (hb : e.binding = .class maker) (link : Link)
    (attempt : Option Url) (h : Ledger.Reached panics sink.place c cs [] l₀ l) :
    let out := (e.dispatch link sink attempt).run.run l
    ∃ ds sent told, e.Handling maker link sink attempt l ds sent told ∧
      Ledger.Reached panics sink.place c (cs ++ ds) (sent ++ told.toList) l₀ out.2 ∧
      out.1 = if sent = [] ∧ told.isSome then c.answer.map fun _ => () else .ok () := by
  obtain ⟨ds, sent, told, hhandling, hreached, rfl⟩ := e.handle_handling maker link attempt h
  rw [dispatch_class_run hb]
  generalize (maker.handle link sink attempt).run.run l = answered at *
  refine ⟨ds, sent, _, hhandling, ?_⟩
  dsimp only
  cases e.verdict answered.1 with
  | none => exact ⟨by simpa using hreached, by simp⟩
  | some verdict =>
    obtain ⟨hreported, hresult⟩ := hreached.report attempt verdict.1 verdict.2
    exact ⟨hreported, by simpa using hresult⟩

end Entry

end AppLinks
