import AppLinks.Proofs.Router.Trace

/-!
What a routing attempt runs, and what it lets through.

The gate is asked first and at most once. If it lets the link through and a route matches, then
what this route is bound to is called and nothing else of the application is. Its panics become
reports; the only panic that leaves an attempt is one of the completion, in a call by the router.
-/

namespace AppLinks

variable {r : Router} {u : Url} {c : Completion} {l : Ledger} {e : Entry} {link : Link}
  {es : List Event}

/-! ## Completions -/

/-- How an attempt ends that answers `b` once the router has called the completion. -/
def Completion.ends (c : Completion) (b : Bool) : Except Panic Bool := c.answer.map fun _ => b

lemma Completion.ends_eq_ok {b b' : Bool} (h : c.ends b = .ok b') : b = b' := by
  obtain ⟨call, panics⟩ := c
  cases panics <;> cases h
  rfl

lemma Completion.ends_eq_error {b : Bool} {p : Panic} (h : c.ends b = .error p) :
    c.panics = some p := by
  obtain ⟨call, panics⟩ := c
  cases panics <;> cases h
  rfl

/-- A completion is called once, with what it receives, and nothing happens afterwards. -/
def Completion.CalledLast (c : Completion) (es : List Event) (receipt : Bool × Option LinkError) :
    Prop :=
  deliveries es = [(c.call, receipt)] ∧
    es.getLast? = some (.completion c.call receipt.1 receipt.2)

lemma Completion.CalledLast.after {fs : List Event} {receipt : Bool × Option LinkError}
    (h : c.CalledLast es receipt) (hfs : deliveries fs = []) : c.CalledLast (fs ++ es) receipt :=
  ⟨by rw [deliveries_append, hfs, h.1, List.nil_append],
    by rw [List.getLast?_append, h.2, Option.some_or]⟩

lemma Completion.CalledLast.of_fromReport {receipt : Bool × Option LinkError}
    (h : c.CalledLast (fromReport es) receipt) :
    es.getLast? = some (.completion c.call receipt.1 receipt.2) := by
  have hsplit : es.takeWhile (!·.isReport) ++ fromReport es = es :=
    List.takeWhile_append_dropWhile
  rw [← hsplit, List.getLast?_append, h.2, Option.some_or]

lemma Completion.answer_map_map (c : Completion) :
    (c.answer.map fun _ => ()).map (fun _ => true) = c.ends true := by
  obtain ⟨call, panics⟩ := c
  cases panics <;> rfl

def Ledger.noting (l : Ledger) (es : List Event) : Ledger := { l with journal := l.journal ++ es }

lemma Ledger.noting_noting (l : Ledger) (es fs : List Event) :
    (l.noting es).noting fs = l.noting (es ++ fs) := by
  simp [noting]

lemma Run.note_bind_run {β : Type} (es : List Event) (f : Unit → Run β) (l : Ledger) :
    (Run.note es >>= f).run.run l = (f ()).run.run (l.noting es) := rfl

lemma Run.bind_pure_run {α β : Type} (x : Run α) (b : β) (l : Ledger) :
    (x >>= fun _ => pure b).run.run l = ((x.run.run l).1.map fun _ => b, (x.run.run l).2) := by
  rw [run_bind]
  rcases x.run.run l with ⟨_ | _, l'⟩ <;> rfl

lemma reject_run (c : Completion) (attempt : Option Url) (notices : List Notice)
    (error : LinkError) (l : Ledger) :
    (Run.log attempt notices >>= fun _ =>
        c.deliver false (some error) >>= fun _ => (pure false : Run Bool)).run.run l =
      (c.ends false, l.noting
        (notices.map (.log attempt) ++ [.completion c.call false (some error)])) := by
  rw [Run.log, Run.note_bind_run, ← Ledger.noting_noting]
  obtain ⟨call, panics⟩ := c
  cases panics <;> rfl

/-! ## Reports -/

/-- Tells a notice, and signals that the link was not handled. -/
def Sink.report (s : Sink) (attempt : Option Url) (notice : Notice) (error : Option LinkError) :
    Run Unit := do
  Run.log attempt [notice]
  let _ ← s.complete attempt false error

/-- **What a report does.** It calls the completion that is pending and ends as this call does, or
else it is only noted. -/
lemma Sink.report_run (s : Sink) (attempt : Option Url) (notice : Notice)
    (error : Option LinkError) (l : Ledger) :
    ∃ l', (s.report attempt notice error).run.run l =
        (match s.completion? l with | some c => c.answer.map fun _ => () | none => .ok (), l') ∧
      l'.gateCalls = l.gateCalls ∧
      l'.journal = l.journal ++ [.log attempt notice,
        match s.completion? l with
        | some c => .completion c.call false error
        | none => .log attempt (.duplicateSignal s.route false)] := by
  have hsame : s.completion? (l.noting [.log attempt notice]) = s.completion? l := rfl
  rw [report, Run.log, Run.note_bind_run, Run.run_bind, complete_run, List.map_singleton, hsame]
  cases s.completion? l with
  | none => exact ⟨_, rfl, rfl, by simp [Ledger.noting]⟩
  | some c =>
    obtain ⟨call, panics⟩ := c
    cases panics <;> exact ⟨_, rfl, rfl, by simp [Ledger.noting]⟩

/-- What is reported after a handler has answered or has ended in a panic; a handler that took the
link speaks for itself. -/
def Entry.verdict (e : Entry) : Except Panic (Except Cause Bool) →
    Option (Notice × Option LinkError)
  | .ok (.ok true) => none
  | .ok (.ok false) => some (.declined e.route, none)
  | .ok (.error cause) => some (.invocationFailed e.route cause,
      some (.handlerInvocationFailed e.route cause))
  | .error p => some (.invocationFailed e.route (.text p.reason),
      some (.handlerInvocationFailed e.route (.text p.reason)))

lemma Entry.isReport_of_verdict {answer : Except Panic (Except Cause Bool)}
    {told : Notice × Option LinkError} (h : e.verdict answer = some told) :
    told.1.isReport = true := by
  rcases answer with p | cause | b
  · cases h
    rfl
  · cases h
    rfl
  · cases b <;> cases h
    rfl

def Entry.failure (e : Entry) (cause : Cause) : Bool × Option LinkError :=
  (false, some (.handlerInvocationFailed e.route cause))

/-- What is reported of a panic: its message, or that a handler panicked if it has none. -/
def Entry.panicked (e : Entry) (p : Panic) : Bool × Option LinkError :=
  match p.message? with
  | some message => e.failure (.text message)
  | none => e.failure (.text "handler panicked")

lemma Entry.panicked_eq (e : Entry) (p : Panic) : e.panicked p = e.failure (.text p.reason) := by
  obtain ⟨_ | _⟩ := p <;> rfl

/-- What the completion receives when a callback has ended. -/
def Entry.receipt (e : Entry) : Except Panic Unit → Bool × Option LinkError
  | .ok () => (true, none)
  | .error p => e.panicked p

/-! ## Bindings -/

/-- How it can go when a link is given to what a route is bound to: what happens, and what comes of
it. -/
inductive Entry.Course (e : Entry) (link : Link) (c : Completion) (es : List Event) :
    Except Panic Bool → Prop where
  /-- The callback is called, and then the completion. -/
  | callback {name : String} {run : Link → Except Panic Unit} :
    e.binding = .callback name run → calls es = [.callback name link] →
    c.CalledLast es (e.receipt (run link)) → Course e link c es (c.ends true)
  /-- A handler took the link, and the router has nothing to report. -/
  | taken {maker : Maker} :
    e.binding = .class maker → (calls es).Sublist (e.binding.calls link) →
    fromReport es = [] → Course e link c es (.ok true)
  /-- The router has to report, but a signal was sent before that. -/
  | late {maker : Maker} :
    e.binding = .class maker → (calls es).Sublist (e.binding.calls link) →
    (∃ receipt, (c.call, receipt) ∈ deliveries es) → deliveries (fromReport es) = [] →
    Course e link c es (.ok true)
  /-- The router reports that a handler declined the link or failed. -/
  | reported {maker : Maker} {error : Option LinkError} :
    e.binding = .class maker → (calls es).Sublist (e.binding.calls link) →
    c.CalledLast (fromReport es) (false, error) → Course e link c es (c.ends true)

namespace Entry

lemma Course.after_log {result : Except Panic Bool} (h : e.Course link c es result)
    (attempt : Option Url) {notices : List Notice} (hn : ∀ n ∈ notices, n.isReport = false) :
    e.Course link c (notices.map (.log attempt) ++ es) result := by
  have hreport : ∀ ev ∈ notices.map (Event.log attempt), ev.isReport = false := by
    intro ev hev
    obtain ⟨n, hmem, rfl⟩ := List.mem_map.1 hev
    exact hn n hmem
  have hcalls : calls (notices.map (.log attempt) ++ es) = calls es := by simp
  cases h with
  | callback hb hcall hlast => exact .callback hb (by rwa [hcalls]) (hlast.after (by simp))
  | taken hb hcall hnone =>
    exact .taken hb (by rwa [hcalls]) (by rwa [fromReport_append hreport])
  | late hb hcall hearly hnone =>
    obtain ⟨receipt, hearly⟩ := hearly
    exact .late hb (by rwa [hcalls]) ⟨receipt, by simp [hearly]⟩
      (by rwa [fromReport_append hreport])
  | reported hb hcall hlast =>
    exact .reported hb (by rwa [hcalls]) (by rwa [fromReport_append hreport])

lemma Course.calls_subset {result : Except Panic Bool} (h : e.Course link c es result) :
    ∀ ev ∈ calls es, ev ∈ e.binding.calls link := by
  cases h with
  | callback hb hcalls =>
    rw [hcalls, hb]
    exact fun ev hev => hev
  | taken _ hcalls => exact fun ev hev => hcalls.subset hev
  | late _ hcalls => exact fun ev hev => hcalls.subset hev
  | reported _ hcalls => exact fun ev hev => hcalls.subset hev

lemma reportFailure_eq (e : Entry) (sink : Sink) (attempt : Option Url) (cause : Cause) :
    e.reportFailure sink attempt cause = sink.report attempt (.invocationFailed e.route cause)
      (some (.handlerInvocationFailed e.route cause)) := rfl

/-- A callback ends in any way, and the completion is told. -/
lemma dispatch_callback {name : String} {run : Link → Except Panic Unit} {sink : Sink}
    (hb : e.binding = .callback name run) (hslot : sink.completion? l = some c)
    (attempt : Option Url) :
    let out := (e.dispatch link sink attempt).run.run l
    ∃ es, out.2.gateCalls = l.gateCalls ∧ out.2.journal = l.journal ++ es ∧
      e.Course link c es (out.1.map fun _ => true) := by
  have hslot' : sink.completion? (l.noting [.callback name link]) = some c := hslot
  simp only [dispatch, hb]
  rw [Run.note_bind_run]
  cases hrun : run link with
  | ok =>
    dsimp only
    rw [Run.run_bind, Sink.complete_run, hslot']
    have hcourse : e.Course link c
        [.callback name link, .completion c.call true none] (c.ends true) :=
      .callback hb rfl (by rw [hrun]; exact ⟨rfl, rfl⟩)
    obtain ⟨call, panics⟩ := c
    cases panics <;> exact ⟨_, rfl, List.append_assoc .., hcourse⟩
  | error p =>
    obtain ⟨l', hreport, hgate, hjournal⟩ := sink.report_run attempt
      (.invocationFailed e.route (.text p.reason))
      (some (.handlerInvocationFailed e.route (.text p.reason))) (l.noting [.callback name link])
    rw [hslot'] at hreport hjournal
    dsimp only
    rw [reportFailure_eq, hreport, Completion.answer_map_map]
    exact ⟨_, hgate, hjournal.trans (List.append_assoc ..),
      .callback hb rfl (by rw [hrun, receipt, panicked_eq]; exact ⟨rfl, rfl⟩)⟩

/-- A handler is made and called, and the router reports what it has to. -/
lemma dispatch_class_run {maker : Maker} (hb : e.binding = .class maker) (link : Link)
    (sink : Sink) (attempt : Option Url) (l : Ledger) :
    (e.dispatch link sink attempt).run.run l =
      let out := (maker.handle link sink attempt).run.run l
      match e.verdict out.1 with
      | none => (.ok (), out.2)
      | some told => (sink.report attempt told.1 told.2).run.run out.2 := by
  simp only [dispatch, hb]
  rw [Run.run_bind, Run.run_attempt]
  rcases (maker.handle link sink attempt).run.run l with ⟨p | cause | b, l'⟩
  · rfl
  · rfl
  · cases b <;> rfl

/-- A handler ends in any way, and the router reports what it has to. -/
lemma dispatch_class {maker : Maker} {sink : Sink} (hb : e.binding = .class maker)
    (hslot : l.pending[sink.place]? = some (some c)) (attempt : Option Url) :
    let out := (e.dispatch link sink attempt).run.run l
    ∃ es, out.2.gateCalls = l.gateCalls ∧ out.2.journal = l.journal ++ es ∧
      e.Course link c es (out.1.map fun _ => true) := by
  obtain ⟨es, hgate, hes, hcalls, hquiet, hslots⟩ := maker.handle_advances link sink attempt l
  specialize hslots sink.place (some c) hslot
  rw [dispatch_class_run hb]
  generalize (maker.handle link sink attempt).run.run l = answered at *
  rw [← hb] at hcalls
  dsimp only
  cases hverdict : e.verdict answered.1 with
  | none =>
    exact ⟨es, hgate, hes, .taken hb hcalls (fromReport_eq_nil hquiet)⟩
  | some told =>
    have hnotice := isReport_of_verdict hverdict
    obtain ⟨l', hreport, hgate', hjournal⟩ := sink.report_run attempt told.1 told.2 answered.2
    rw [hes, List.append_assoc] at hjournal
    dsimp only
    rw [hreport]
    refine ⟨_, hgate'.trans hgate, hjournal, ?_⟩
    -- the handler may have signalled, and then the report is too late
    rcases hslots with hpending | ⟨hpending, hearly⟩
    · have hcompletion : sink.completion? answered.2 = some c := by
        simp [Sink.completion?, hpending]
      have hlast : c.CalledLast (fromReport (es ++
          [.log attempt told.1, .completion c.call false told.2])) (false, told.2) := by
        rw [fromReport_append hquiet, fromReport_log hnotice]
        exact ⟨rfl, rfl⟩
      rw [hcompletion, Completion.answer_map_map]
      exact .reported hb (by simpa [calls, Event.isCall] using hcalls) hlast
    · have hcompletion : sink.completion? answered.2 = none := by
        simp [Sink.completion?, hpending]
      obtain ⟨receipt, hearly⟩ := hearly c rfl
      rw [hcompletion]
      refine .late hb ?_ ⟨receipt, by simp [hearly]⟩ ?_
      · simpa [calls, Event.isCall] using hcalls
      · rw [fromReport_append hquiet, fromReport_log hnotice]
        rfl

/-- **A link is given to a binding**: whatever happens there, nothing else is called, and a panic
goes further only if it is one of the completion that the router itself has called. -/
lemma dispatch_course (e : Entry) (link : Link) (sink : Sink)
    (hslot : l.pending[sink.place]? = some (some c)) (attempt : Option Url) :
    let out := (e.dispatch link sink attempt).run.run l
    ∃ es, out.2.gateCalls = l.gateCalls ∧ out.2.journal = l.journal ++ es ∧
      e.Course link c es (out.1.map fun _ => true) := by
  cases hb : e.binding with
  | callback name run => exact dispatch_callback hb (by simp [Sink.completion?, hslot]) attempt
  | «class» maker => exact dispatch_class hb hslot attempt

end Entry

/-! ## Attempts -/

namespace Router

/-- The gate lets a link through, as it is asked next. -/
def Admits (r : Router) (l : Ledger) : Prop := ∀ gate ∈ r.gate, gate l.gateCalls = .ok true

def gateEvents (r : Router) : List Event := if r.gate.isSome then [.gate] else []

/-- The ledger after the gate was asked, if there is one. -/
def afterGate (r : Router) (l : Ledger) : Ledger :=
  { l with gateCalls := l.gateCalls + r.gateEvents.length, journal := l.journal ++ r.gateEvents }

/-- A gate that panics is closed. -/
lemma asksGate_run (r : Router) (l : Ledger) :
    ∃ b, r.asksGate.run.run l = (.ok b, r.afterGate l) ∧ (b = true ↔ r.Admits l) := by
  rw [asksGate, Admits, afterGate, gateEvents]
  cases r.gate with
  | none => exact ⟨true, by simp; rfl, by simp⟩
  | some gate =>
    refine ⟨(gate l.gateCalls).toOption.getD false, rfl, ?_⟩
    cases hanswer : gate l.gateCalls <;> simp [hanswer, Except.toOption]

/-! ### Notices of a search -/

lemma isReport_of_mem_tryNotices {path : List Char} {entries : List Entry} {n : Notice}
    (h : n ∈ r.tryNotices path entries) : n.isReport = false := by
  induction entries with
  | nil => cases h
  | cons e entries ih =>
    rw [tryNotices] at h
    rcases List.mem_cons.1 h with rfl | h
    · rfl
    · split at h
      · cases h
      · exact ih h

lemma isReport_of_mem_matchNotices {n : Notice} (h : n ∈ r.matchNotices u) :
    n.isReport = false := by
  rcases List.mem_append.1 h with h | h
  · rw [candidateNotices, normalizeNotices] at h
    split at h
    · split at h
      · cases h
      · rw [List.mem_singleton.1 h]
        rfl
    · cases h
  · exact isReport_of_mem_tryNotices h

/-! ### Attempts by how far they come -/

lemma handle_closed (h : ¬ r.Admits l) (u : Url) (c : Completion) :
    (r.handle u c).run.run l = (c.ends false, (r.afterGate l).noting
      [.log (some u) .gateClosed, .completion c.call false (some .applicationCannotHandle)]) := by
  obtain ⟨b, hgate, hb⟩ := r.asksGate_run l
  obtain rfl : b = false := by simpa using mt hb.1 h
  rw [handle, Run.run_bind, hgate]
  exact reject_run c (some u) [.gateClosed] .applicationCannotHandle _

lemma handle_unmatched (h : r.Admits l) (hmatch : r.matchUrl? u = none) (c : Completion) :
    (r.handle u c).run.run l = (c.ends false, (r.afterGate l).noting
      ((r.matchNotices u ++ [Notice.unmatched]).map (.log (some u)) ++
        [.completion c.call false (some (.routeNotFound (.unmatched u.render)))])) := by
  obtain ⟨b, hgate, hb⟩ := r.asksGate_run l
  obtain rfl : b = true := hb.2 h
  rw [handle, Run.run_bind, hgate, hmatch, List.map_append, List.append_assoc,
    ← Ledger.noting_noting]
  exact reject_run c (some u) [.unmatched] (.routeNotFound (.unmatched u.render)) _

lemma handle_matched (h : r.Admits l) (hmatch : r.matchUrl? u = some (e, link)) (c : Completion) :
    let told := (r.afterGate l).noting
      ((r.matchNotices u ++ [Notice.dispatching e.route e.index]).map (.log (some u)))
    let out := (e.dispatch link { place := l.pending.length, route := e.route }
      (some u)).run.run ((Sink.new e.route c).run.run told).2
    (r.handle u c).run.run l = (out.1.map fun _ => true, out.2) := by
  obtain ⟨b, hgate, hb⟩ := r.asksGate_run l
  obtain rfl : b = true := hb.2 h
  intro told out
  have hdispatch : (Sink.new e.route c >>= fun sink =>
      e.dispatch link sink (some u) >>= fun _ => (pure true : Run Bool)).run.run told =
        (out.1.map fun _ => true, out.2) := by
    rw [Run.run_bind, Sink.new_run]
    exact Run.bind_pure_run _ true _
  rw [← hdispatch, handle, Run.run_bind, hgate, hmatch]
  dsimp only [told]
  rw [List.map_append, ← Ledger.noting_noting]
  rfl

/-! ### Other bindings -/

/-- The router with the same routes, bound to something else. -/
def rebind (r : Router) (f : Entry → Binding) : Router :=
  { r with entries := r.entries.map fun e => { e with binding := f e } }

lemma matchUrl?_rebind (r : Router) (f : Entry → Binding) (u : Url) :
    (r.rebind f).matchUrl? u =
      (r.matchUrl? u).map fun x => ({ x.1 with binding := f x.1 }, x.2) := by
  rw [matchUrl?, matchUrl?, rebind, List.findSome?_map, List.map_findSome?]
  congr 1
  funext e
  rw [Function.comp_apply, Function.comp_apply, Option.map_map]
  rfl

lemma tryNotices_rebind (r : Router) (f : Entry → Binding) (path : List Char)
    (entries : List Entry) :
    (r.rebind f).tryNotices path (entries.map fun e => { e with binding := f e }) =
      r.tryNotices path entries := by
  induction entries with
  | nil => rfl
  | cons e entries ih =>
    have hcapture : (r.rebind f).capture? path { e with binding := f e } = r.capture? path e := rfl
    rw [List.map_cons, tryNotices, tryNotices, ih, hcapture]
    rfl

lemma matchNotices_rebind (r : Router) (f : Entry → Binding) (u : Url) :
    (r.rebind f).matchNotices u = r.matchNotices u :=
  congrArg (r.candidateNotices u ++ ·) (r.tryNotices_rebind f (r.candidatePath u) r.entries)

/-- **What other routes are bound to does not matter.** -/
lemma handle_rebind {f : Entry → Binding}
    (hf : ∀ e link, r.Admits l → r.matchUrl? u = some (e, link) → f e = e.binding)
    (c : Completion) : ((r.rebind f).handle u c).run.run l = (r.handle u c).run.run l := by
  have hgate : (r.rebind f).afterGate l = r.afterGate l := rfl
  by_cases h : r.Admits l
  · have h' : (r.rebind f).Admits l := h
    cases hmatch : r.matchUrl? u with
    | none =>
      have hmatch' : (r.rebind f).matchUrl? u = none := by rw [matchUrl?_rebind, hmatch]; rfl
      rw [handle_unmatched h hmatch, handle_unmatched h' hmatch', matchNotices_rebind, hgate]
    | some found =>
      obtain ⟨e, link⟩ := found
      have hmatch' : (r.rebind f).matchUrl? u = some (e, link) := by
        rw [matchUrl?_rebind, hmatch, Option.map_some, hf e link h hmatch]
      rw [handle_matched h hmatch, handle_matched h' hmatch', matchNotices_rebind, hgate]
  · have h' : ¬ (r.rebind f).Admits l := h
    rw [handle_closed h, handle_closed h', hgate]

/-! ### Containment -/

/-- How an attempt can go, once the gate was asked: what happens, and what comes of it. -/
inductive Course (r : Router) (u : Url) (c : Completion) (l : Ledger) (es : List Event) :
    Except Panic Bool → Prop where
  /-- The gate is closed. -/
  | closed : ¬ r.Admits l → calls es = [] →
    c.CalledLast es (false, some .applicationCannotHandle) → Course r u c l es (c.ends false)
  /-- No route matches. -/
  | unmatched : r.Admits l → r.matchUrl? u = none → calls es = [] →
    c.CalledLast es (false, some (.routeNotFound (.unmatched u.render))) →
    Course r u c l es (c.ends false)
  /-- The link of the first match goes to what its route is bound to. -/
  | matched {e : Entry} {link : Link} {result : Except Panic Bool} : r.Admits l →
    r.matchUrl? u = some (e, link) → e.Course link c es result → Course r u c l es result

lemma Course.gate_not_mem {result : Except Panic Bool} (h : r.Course u c l es result) :
    .gate ∉ es := by
  have hcalls : Event.gate ∉ calls es := by
    cases h with
    | closed _ hcalls => simp [hcalls]
    | unmatched _ _ hcalls => simp [hcalls]
    | matched _ _ hcourse =>
      exact fun hmem => Binding.gate_not_mem_calls _ _ (hcourse.calls_subset _ hmem)
  exact fun hmem => hcalls (List.mem_filter.2 ⟨hmem, rfl⟩)

/-- The answer of an attempt that ends without a panic. -/
lemma Course.ok_iff {result : Except Panic Bool} (h : r.Course u c l es result) {b : Bool}
    (hb : result = .ok b) : b = true ↔ r.Admits l ∧ (r.matchUrl? u).isSome := by
  cases h with
  | closed hclosed => simp [← Completion.ends_eq_ok hb, hclosed]
  | unmatched _ hmatch => simp [← Completion.ends_eq_ok hb, hmatch]
  | matched hadmits hmatch hcourse =>
    have htrue : true = b := by
      cases hcourse with
      | callback => exact Completion.ends_eq_ok hb
      | taken => exact Except.ok.inj hb
      | late => exact Except.ok.inj hb
      | reported => exact Completion.ends_eq_ok hb
    simp [← htrue, hadmits, hmatch]

/-- Only the completion can have panicked, when the router called it. -/
lemma Course.error {result : Except Panic Bool} (h : r.Course u c l es result) {p : Panic}
    (hp : result = .error p) :
    c.panics = some p ∧ ∃ handled error, es.getLast? = some (.completion c.call handled error) := by
  cases h with
  | closed _ _ hlast => exact ⟨Completion.ends_eq_error hp, _, _, hlast.2⟩
  | unmatched _ _ _ hlast => exact ⟨Completion.ends_eq_error hp, _, _, hlast.2⟩
  | matched _ _ hcourse =>
    cases hcourse with
    | callback _ _ hlast => exact ⟨Completion.ends_eq_error hp, _, _, hlast.2⟩
    | taken => cases hp
    | late => cases hp
    | reported _ _ hlast => exact ⟨Completion.ends_eq_error hp, _, _, hlast.of_fromReport⟩

/-- **How an attempt goes.** -/
lemma handle_course (r : Router) (u : Url) (c : Completion) (l : Ledger) :
    let out := (r.handle u c).run.run l
    ∃ es, out.2.gateCalls = l.gateCalls + r.gateEvents.length ∧
      out.2.journal = l.journal ++ r.gateEvents ++ es ∧ r.Course u c l es out.1 := by
  by_cases h : r.Admits l
  · cases hmatch : r.matchUrl? u with
    | none =>
      rw [handle_unmatched h hmatch]
      refine ⟨_, rfl, rfl, .unmatched h hmatch ?_ ?_⟩
      · rw [calls_append, calls_log]
        rfl
      · exact .after ⟨rfl, rfl⟩ (deliveries_log ..)
    | some found =>
      obtain ⟨e, link⟩ := found
      rw [handle_matched h hmatch]
      dsimp only
      generalize htold : (r.matchNotices u ++ [Notice.dispatching e.route e.index]) = notices
      have hreport : ∀ n ∈ notices, n.isReport = false := by
        intro n hn
        rw [← htold] at hn
        rcases List.mem_append.1 hn with hn | hn
        · exact isReport_of_mem_matchNotices hn
        · rw [List.mem_singleton.1 hn]
          rfl
      have hslot : ((Sink.new e.route c).run.run
          ((r.afterGate l).noting (notices.map (.log (some u))))).2.pending[l.pending.length]? =
            some (some c) := List.getElem?_concat_length ..
      obtain ⟨es, hgate, hjournal, hcourse⟩ :=
        e.dispatch_course link { place := l.pending.length, route := e.route } hslot (some u)
      refine ⟨_, hgate, ?_, .matched h hmatch (hcourse.after_log (some u) hreport)⟩
      rw [hjournal]
      exact List.append_assoc ..
  · rw [handle_closed h]
    exact ⟨_, rfl, rfl, .closed h rfl ⟨rfl, rfl⟩⟩

/-- **An attempt is contained**, whatever the gate, the completion and the code of the application
do. The gate is asked at most once and first. If it is closed, because it says so or panics, or if
no route matches, then nothing else is called, and the completion is told so, once. Otherwise only
what the first matching route is bound to is called, and what all other routes are bound to does
not matter. A callback is called once, and then the completion, once, with what came of it. A
handler is made, asked and called at most once each; if it declines the link or fails, in whatever
way, then this is reported to the completion unless a signal has reached that before. An attempt
that returns answers whether the gate let the link through and a route matched. An attempt that
panics does so with the panic of the completion, and the call of the completion, by the router, is
the last that has happened: the panics of the gate, of a callback and of a handler end here, and so
does one that a completion raises while a handler signals. -/
theorem handle_contained (r : Router) (u : Url) (c : Completion) (l : Ledger) :
    let out := (r.handle u c).run.run l
    ∃ es, out.2.journal = l.journal ++ r.gateEvents ++ es ∧ .gate ∉ es ∧
      out.2.gateCalls = l.gateCalls + r.gateEvents.length ∧ r.Course u c l es out.1 ∧
      (∀ b, out.1 = .ok b → (b = true ↔ r.Admits l ∧ (r.matchUrl? u).isSome)) ∧
      (∀ p, out.1 = .error p → c.panics = some p ∧
        ∃ handled error, es.getLast? = some (.completion c.call handled error)) ∧
      ∀ f : Entry → Binding,
        (∀ e link, r.Admits l → r.matchUrl? u = some (e, link) → f e = e.binding) →
          ((r.rebind f).handle u c).run.run l = out := by
  intro out
  obtain ⟨es, hgate, hjournal, hcourse⟩ := r.handle_course u c l
  exact ⟨es, hjournal, hcourse.gate_not_mem, hgate, hcourse, fun b hb => hcourse.ok_iff hb,
    fun p hp => hcourse.error hp, fun f hf => handle_rebind hf c⟩

/-- The completion panics: this ends where a handler signals, but not where the router tells that a
handler declined the link. -/
example :
    let c : Completion := { call := 0, panics := some { message? := none } }
    let url : Url :=
      { scheme := "app".toList, authority := none, location := .segments ["a".toList]
        query := none, fragment := none }
    let outcome (handler : Handler) : Option (Option Bool) :=
      (register {} "a" (.class (.default handler))).toOption.map fun r =>
        ((r.handle url c).run.run {}).1.toOption
    outcome .accepting = some (some true) ∧
      outcome { Handler.accepting with wants? := some fun _ => .ok false } = some none := by
  decide +kernel

end Router

end AppLinks
