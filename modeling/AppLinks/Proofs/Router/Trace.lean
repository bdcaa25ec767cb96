import AppLinks.Proofs.Router.Keeping
import Mathlib.Data.List.TakeWhile

/-!
What a run adds to the journal.

The journal only grows, and what the application does is in it: each call of the gate and of what a
route is bound to, each signal that reached a completion, and what the router reports. A handler
calls nothing and reports nothing by what it does with sinks.
-/

namespace AppLinks

/-! ## Views of the journal -/

/-- Whether an event is a call of the gate or of what a route is bound to. -/
def Event.isCall : Event → Bool
  | .gate | .callback .. | .factory .. | .asked | .handle _ => true
  | .action .. | .completion .. | .log .. => false

/-- The call of a completion: the number of its attempt and what it receives. -/
def Event.delivery? : Event → Option (Nat × Bool × Option LinkError)
  | .completion call handled error => some (call, handled, error)
  | _ => none

/-- Whether it is told that a handler declined a link or failed. -/
def Notice.isReport : Notice → Bool
  | .declined _ | .invocationFailed .. => true
  | _ => false

def Event.isReport : Event → Bool
  | .log _ notice => notice.isReport
  | _ => false

/-- The calls of the gate and of what routes are bound to. -/
def calls (es : List Event) : List Event := es.filter Event.isCall

/-- What completions receive. -/
def deliveries (es : List Event) : List (Nat × Bool × Option LinkError) :=
  es.filterMap Event.delivery?

/-- What happens from the first report on. -/
def fromReport (es : List Event) : List Event := es.dropWhile (!·.isReport)

variable {es fs : List Event}

@[simp] lemma calls_append : calls (es ++ fs) = calls es ++ calls fs := List.filter_append ..

@[simp] lemma deliveries_append : deliveries (es ++ fs) = deliveries es ++ deliveries fs :=
  List.filterMap_append

@[simp] lemma calls_log (attempt : Option Url) (notices : List Notice) :
    calls (notices.map (.log attempt)) = [] := by
  simp [calls, Event.isCall]

@[simp] lemma deliveries_log (attempt : Option Url) (notices : List Notice) :
    deliveries (notices.map (.log attempt)) = [] := by
  simp [deliveries, Event.delivery?]

lemma fromReport_append (h : ∀ e ∈ es, e.isReport = false) :
    fromReport (es ++ fs) = fromReport fs :=
  List.dropWhile_append_of_pos fun e he => by simp [h e he]

lemma fromReport_eq_nil (h : ∀ e ∈ es, e.isReport = false) : fromReport es = [] := by
  rw [fromReport, List.dropWhile_eq_nil_iff]
  exact fun e he => by simp [h e he]

lemma fromReport_log {notice : Notice} (h : notice.isReport = true) (attempt : Option Url) :
    fromReport (.log attempt notice :: es) = .log attempt notice :: es := by
  simp [fromReport, Event.isReport, h]

/-! ## What the application does -/

variable {α β : Type} {l l' l'' : Ledger} {cs ds : List Event}

/-- Code of the application adds events to a ledger: of calls, only some of `cs`, in this order, and
no report. The gate is not asked, and a place has its completion as before, unless that was
called. -/
structure Ledger.AdvancesBy (es cs : List Event) (l l' : Ledger) : Prop where
  gateCalls : l'.gateCalls = l.gateCalls
  journal : l'.journal = l.journal ++ es
  calls : (calls es).Sublist cs
  quiet : ∀ e ∈ es, e.isReport = false
  slots : ∀ (p : Nat) (slot : Option Completion), l.pending[p]? = some slot →
    l'.pending[p]? = some slot ∨
      l'.pending[p]? = some none ∧ ∀ c ∈ slot, ∃ receipt, (c.call, receipt) ∈ deliveries es

/-- One ledger comes after another one, with code of the application between them. -/
def Ledger.Advances (cs : List Event) (l l' : Ledger) : Prop := ∃ es, l.AdvancesBy es cs l'

namespace Ledger

lemma AdvancesBy.trans (h : l.AdvancesBy es cs l') (h' : l'.AdvancesBy fs ds l'') :
    l.AdvancesBy (es ++ fs) (cs ++ ds) l'' where
  gateCalls := h'.gateCalls.trans h.gateCalls
  journal := by rw [h'.journal, h.journal, List.append_assoc]
  calls := by
    rw [calls_append]
    exact h.calls.append h'.calls
  quiet e he := (List.mem_append.1 he).elim (h.quiet e) (h'.quiet e)
  slots p slot hp := by
    rcases h.slots p slot hp with hmid | ⟨hmid, hcalled⟩
    · refine (h'.slots p slot hmid).imp_right fun ⟨hend, hcalled⟩ => ⟨hend, fun c hc => ?_⟩
      obtain ⟨receipt, hmem⟩ := hcalled c hc
      exact ⟨receipt, by simp [hmem]⟩
    · refine .inr ⟨(h'.slots p none hmid).elim id And.left, fun c hc => ?_⟩
      obtain ⟨receipt, hmem⟩ := hcalled c hc
      exact ⟨receipt, by simp [hmem]⟩

/-- Events may be added while the places stay as they are. -/
lemma AdvancesBy.note (hgate : l'.gateCalls = l.gateCalls) (hjournal : l'.journal = l.journal ++ es)
    (hpending : l'.pending = l.pending) (hcalls : (AppLinks.calls es).Sublist cs)
    (hquiet : ∀ e ∈ es, e.isReport = false) : l.AdvancesBy es cs l' :=
  ⟨hgate, hjournal, hcalls, hquiet, fun _ _ h => .inl (hpending ▸ h)⟩

lemma Advances.refl (cs : List Event) (l : Ledger) : l.Advances cs l :=
  ⟨[], .note rfl (List.append_nil _).symm rfl (List.nil_sublist cs) (by simp)⟩

lemma Advances.trans : l.Advances cs l' → l'.Advances ds l'' → l.Advances (cs ++ ds) l''
  | ⟨_, h⟩, ⟨_, h'⟩ => ⟨_, h.trans h'⟩

end Ledger

/-- A run is code of the application that calls only some of `cs`, in this order. -/
def Run.Advances (cs : List Event) (x : Run α) : Prop :=
  ∀ l : Ledger, l.Advances cs (x.run.run l).2

namespace Run.Advances

lemma pure (a : α) : Advances cs (Pure.pure a : Run α) := fun l => .refl cs l

lemma ofCall (r : Except Panic α) : Advances cs (Run.ofCall r) := by
  cases r with
  | ok a => exact pure a
  | error p => exact fun l => .refl cs l

lemma bind {x : Run α} {f : α → Run β} (ds : List Event) (hx : Advances cs x)
    (hf : ∀ a, Advances ds (f a)) : Advances (cs ++ ds) (x >>= f) := by
  intro l
  have hfirst := hx l
  rw [run_bind]
  rcases hr : x.run.run l with ⟨p | a, l'⟩ <;> rw [hr] at hfirst
  · exact hfirst.trans (.refl ds l')
  · exact hfirst.trans (hf a l')

lemma note {e : Event} (hcall : e.isCall = true) : Advances [e] (Run.note [e]) := by
  have hcalls : calls [e] = [e] := by simp [calls, hcall]
  have hquiet : ∀ e' ∈ [e], e'.isReport = false := by
    cases e <;> simp_all [Event.isCall, Event.isReport]
  exact fun l => ⟨[e], .note rfl rfl rfl (by rw [hcalls]) hquiet⟩

end Run.Advances

namespace Sink

lemma complete_advances (s : Sink) (attempt : Option Url) (handled : Bool)
    (error : Option LinkError) : Run.Advances [] (s.complete attempt handled error) := by
  intro l
  rw [complete_run]
  split
  · rename_i c hc
    refine ⟨[.completion c.call handled error], rfl, rfl, .slnil, by simp [Event.isReport],
      fun p slot hp => ?_⟩
    by_cases hplace : s.place = p
    · subst hplace
      obtain ⟨hlt, -⟩ := List.getElem?_eq_some_iff.1 hp
      obtain rfl : slot = some c := by simpa [completion?, hp] using hc
      refine .inr ⟨List.getElem?_set_self hlt, fun d hd => ⟨(handled, error), ?_⟩⟩
      obtain rfl := Option.some.inj hd
      exact List.mem_singleton_self _
    · exact .inl (by rwa [List.getElem?_set_ne hplace])
  · exact ⟨[.log attempt (.duplicateSignal s.route handled)],
      .note rfl rfl rfl .slnil (by simp [Event.isReport, Notice.isReport])⟩

lemma act_advances (s : Sink) (attempt : Option Url) (a : Action) :
    Run.Advances [] (s.act attempt a) := by
  intro l
  cases a with
  | succeed | fail | complete =>
    rw [act, Run.run_map]
    exact s.complete_advances attempt _ _ l
  | isCompleted | route | inspect | save =>
    exact ⟨[], .note rfl (List.append_nil _).symm rfl .slnil (by simp)⟩

/-- **A script calls nothing and reports nothing.** -/
lemma follow_advances (s : Sink) (attempt : Option Url) (script : Script) :
    Run.Advances [] (s.follow attempt script) := by
  intro l
  refine follow_keeps_of (I := l.Advances []) attempt (fun a answer l' h => ?_)
    (fun a l' h => h.trans (s.act_advances attempt a l'))
    (fun l' h k _ a => h.trans (k.act_advances attempt a l')) script l (.refl [] l)
  exact h.trans ⟨[.action a answer], .note rfl rfl rfl .slnil (by simp [Event.isReport])⟩

end Sink

/-- The calls by which a handler is made for a link. -/
def Maker.calls (link : Link) : Maker → List Event
  | .default _ => []
  | .factory name _ => [.factory name link]

/-- All calls by which a link can be given to what a route is bound to, in order. -/
def Binding.calls (link : Link) : Binding → List Event
  | .callback name _ => [.callback name link]
  | .class maker => maker.calls link ++ [.asked, .handle link]

lemma Binding.gate_not_mem_calls (b : Binding) (link : Link) : .gate ∉ b.calls link := by
  rcases b with _ | _ | _ <;> simp [calls, Maker.calls]

lemma Maker.make_advances (maker : Maker) (link : Link) :
    Run.Advances (maker.calls link) (maker.make link) := by
  cases maker with
  | default h => exact .pure _
  | factory name make =>
    exact .bind [] (.note rfl) fun _ => .ofCall _

lemma Handler.wants_advances (h : Handler) (link : Link) :
    Run.Advances [.asked] (h.wants link) := by
  rw [Handler.wants]
  split
  · exact .pure true
  · exact .bind [] (.note rfl) fun _ => .ofCall _

/-- **A handler is made, asked and called at most once each**, in this order, and nothing else is
called. -/
lemma Maker.handle_advances (maker : Maker) (link : Link) (sink : Sink) (attempt : Option Url) :
    Run.Advances ((Binding.class maker).calls link) (maker.handle link sink attempt) := by
  refine .bind [.asked, .handle link] (maker.make_advances link) fun made => ?_
  cases made with
  | error cause => exact .pure _
  | ok h =>
    refine .bind [.handle link] (h.wants_advances link) fun wants => ?_
    cases wants with
    | true =>
      refine .bind [] (.note rfl) fun _ => ?_
      exact .bind [] (sink.follow_advances attempt (h.handle link)) fun _ => .pure _
    | false => exact .pure _

end AppLinks
