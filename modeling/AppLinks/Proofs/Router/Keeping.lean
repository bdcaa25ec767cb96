import AppLinks.Proofs.Router.Uses
import AppLinks.Router.Dispatch

/-!
What runs keep.

A run keeps a property of the ledger if it holds afterwards, however the run has ended. Each thing
that can be done with a sink keeps a ledger sound, and so do scripts and calls of handlers, which
do one such thing after another.
-/

namespace AppLinks

namespace Run

variable {α β : Type} {I : Ledger → Prop}

lemma run_bind (x : Run α) (f : α → Run β) (l : Ledger) :
    (x >>= f).run.run l =
      match x.run.run l with
      | (.ok a, l') => (f a).run.run l'
      | (.error p, l') => (.error p, l') := by
  change (x.run >>= ExceptT.bindCont f).run l = _
  rw [StateT.run_bind]
  change (ExceptT.bindCont f (x.run.run l).1).run (x.run.run l).2 = _
  rcases x.run.run l with ⟨_ | _, l'⟩ <;> rfl

lemma run_map (g : α → β) (x : Run α) (l : Ledger) :
    (g <$> x).run.run l = ((x.run.run l).1.map g, (x.run.run l).2) := by
  rw [map_eq_pure_bind, run_bind]
  rcases x.run.run l with ⟨_ | _, l'⟩ <;> rfl

lemma run_attempt (x : Run α) (l : Ledger) :
    (attempt x).run.run l = (.ok (x.run.run l).1, (x.run.run l).2) := rfl

/-- A property of the ledger holds after a run if it holds before. -/
def Keeps (I : Ledger → Prop) (x : Run α) : Prop := ∀ l, I l → I (x.run.run l).2

namespace Keeps

lemma pure (a : α) : Keeps I (Pure.pure a : Run α) := fun _ h => h

lemma throw (p : Panic) : Keeps I (MonadExcept.throw p : Run α) := fun _ h => h

lemma ofCall (r : Except Panic α) : Keeps I (Run.ofCall r) := by
  cases r with
  | ok a => exact pure a
  | error p => exact throw p

lemma bind {x : Run α} {f : α → Run β} (hx : Keeps I x) (hf : ∀ a, Keeps I (f a)) :
    Keeps I (x >>= f) := by
  intro l h
  have hmid := hx l h
  rw [run_bind]
  rcases hr : x.run.run l with ⟨p | a, l'⟩ <;> rw [hr] at hmid
  · exact hmid
  · exact hf a l' hmid

/-- What follows may depend on the ledger that it reads. -/
lemma get_bind {f : Ledger → Run β} (hf : ∀ l, I l → I ((f l).run.run l).2) :
    Keeps I (get >>= f) := fun l h => hf l h

lemma attempt {x : Run α} (hx : Keeps I x) : Keeps I (Run.attempt x) := by
  intro l h
  rw [run_attempt]
  exact hx l h

end Keeps

end Run

/-! ## Sinks -/

namespace Ledger

variable {l : Ledger} {panics : List (Option Panic)} {m : Nat} {c : Completion} {us : List Use}

/-- A sound ledger with at least `m` places. -/
def Offers (panics : List (Option Panic)) (m : Nat) (l : Ledger) : Prop :=
  l.Sound panics ∧ m ≤ l.pending.length

lemma received_snoc {l' : Ledger} {e : Event} (hjournal : l'.journal = l.journal ++ [e])
    (call : Nat) : l'.received call = l.received call ++ (e.receipt? call).toList := by
  cases he : e.receipt? call <;> simp [received, hjournal, he]

/-- Events that are no completions are of no account. -/
lemma Offers.note {es : List Event} (hquiet : ∀ e ∈ es, ∀ call, e.receipt? call = none) :
    Run.Keeps (Offers panics m) (Run.note es) := by
  rintro l ⟨h, hm⟩
  have hreceived : ∀ call,
      received { l with journal := l.journal ++ es } call = l.received call := by
    intro call
    have hnone : es.filterMap (Event.receipt? call) = [] :=
      List.filterMap_eq_nil_iff.mpr fun e he => hquiet e he call
    simp [received, hnone]
  exact ⟨h.congr rfl h.kept rfl hreceived, hm⟩

lemma Offers.log (attempt : Option Url) (notices : List Notice) :
    Run.Keeps (Offers panics m) (Run.log attempt notices) :=
  Offers.note fun e he call => by
    obtain ⟨notice, -, rfl⟩ := List.mem_map.mp he
    rfl

end Ledger

namespace Sink

open Ledger

variable {l : Ledger} {panics : List (Option Panic)} {m : Nat} {c : Completion} {us : List Use}
  {s : Sink}

lemma new_run (route : String) (c : Completion) (l : Ledger) :
    (Sink.new route c).run.run l =
      (.ok { place := l.pending.length, route }, { l with
        pending := l.pending ++ [some c], uses := l.uses ++ [(l.pending.length, .opened c)] }) :=
  rfl

lemma completion?_eq (h : l.Serves s.place c us) :
    s.completion? l = if signals us = [] then some c else none := by
  simp [completion?, h.slot]

lemma isCompleted_eq (h : l.Serves s.place c us) : s.isCompleted l = !(signals us).isEmpty := by
  rw [isCompleted, completion?_eq h]
  cases signals us <;> simp

lemma forward_run (s : Sink) (attempt : Option Url) (handled : Bool) (error : Option LinkError)
    (l : Ledger) :
    (s.forward attempt handled error).run.run l =
      match s.completion? l with
      | some c => (c.answer, { l with
          pending := l.pending.set s.place none
          journal := l.journal ++ [.completion c.call handled error] })
      | none => (.ok false, { l with
          journal := l.journal ++ [.log attempt (.duplicateSignal s.route handled)] }) := by
  rw [forward, Run.run_bind]
  change (match s.completion? l with | some c => _ | none => _ : Run Bool).run.run l = _
  cases hc : s.completion? l with
  | none => rfl
  | some c =>
    obtain ⟨call, panics⟩ := c
    cases panics <;> rfl

/-- **What a signal does.** It calls the completion that is pending, or else is only noted. -/
lemma complete_run (s : Sink) (attempt : Option Url) (handled : Bool) (error : Option LinkError)
    (l : Ledger) :
    (s.complete attempt handled error).run.run l =
      match s.completion? l with
      | some c => (c.answer, { l with
          pending := l.pending.set s.place none
          journal := l.journal ++ [.completion c.call handled error]
          uses := l.uses ++ [(s.place, .signal handled error c.answer)] })
      | none => (.ok false, { l with
          journal := l.journal ++ [.log attempt (.duplicateSignal s.route handled)]
          uses := l.uses ++ [(s.place, .signal handled error (.ok false))] }) := by
  rw [complete, Run.run_bind, Run.run_attempt, forward_run]
  cases hc : s.completion? l with
  | none => rfl
  | some c =>
    obtain ⟨call, panics⟩ := c
    cases panics <;> rfl

lemma ask_run (s : Sink) (l : Ledger) :
    s.ask.run.run l =
      (.ok (s.isCompleted l), { l with uses := l.uses ++ [(s.place, .asked (s.isCompleted l))] }) :=
  rfl

/-! ### Everything that can be done with a sink -/

/-- The first signal is received and answered as the completion ends; every later one is answered
with `false`. -/
lemma complete_using (h : l.Serves s.place c us) (attempt : Option Url) (handled : Bool)
    (error : Option LinkError) :
    let out := (s.complete attempt handled error).run.run l
    out.1 = c.answerAfter us ∧
      l.Using out.2 s.place c us (.signal handled error out.1) := by
  intro out
  by_cases hnone : signals us = []
  · have hout : out = (c.answer, { l with
        pending := l.pending.set s.place none
        journal := l.journal ++ [.completion c.call handled error]
        uses := l.uses ++ [(s.place, .signal handled error c.answer)] }) := by
      simp only [out, complete_run, completion?_eq h, if_pos hnone]
    have hresult : c.answer = c.answerAfter us := (if_pos hnone).symm
    rw [hout]
    refine ⟨hresult, hresult, rfl, rfl, ?_, fun call => ?_⟩
    · simp [signals_snoc, Use.signal?]
    · rw [received_snoc rfl]
      by_cases hcall : call = c.call <;>
        simp [Event.receipt?, Use.signal?, hcall, hnone, eq_comm (a := c.call)]
  · have hout : out = (.ok false, { l with
        journal := l.journal ++ [.log attempt (.duplicateSignal s.route handled)]
        uses := l.uses ++ [(s.place, .signal handled error (.ok false))] }) := by
      simp only [out, complete_run, completion?_eq h, if_neg hnone]
    have hresult : .ok false = c.answerAfter us := (if_neg hnone).symm
    rw [hout]
    refine ⟨hresult, hresult, rfl, rfl, ?_, fun call => ?_⟩
    · simpa [signals_snoc, Use.signal?, hnone] using h.set_slot.symm
    · rw [received_snoc rfl]
      simp [Event.receipt?, hnone]

lemma ask_using (h : l.Serves s.place c us) :
    l.Using (s.ask.run.run l).2 s.place c us (.asked (s.isCompleted l)) := by
  refine ⟨isCompleted_eq h, rfl, rfl, ?_, fun call => ?_⟩
  · simpa [ask_run, signals_snoc, Use.signal?] using h.set_slot.symm
  · simp [ask_run, received, Use.signal?]

/-- **An action uses the sink**, or it says what the sink is for or keeps it. -/
lemma act_cases (h : l.Serves s.place c us) (attempt : Option Url) (a : Action) :
    (∃ u, l.Using ((s.act attempt a).run.run l).2 s.place c us u) ∨
      ((s.act attempt a).run.run l).2 = l ∨
      ((s.act attempt a).run.run l).2 = { l with saved := l.saved ++ [s] } := by
  cases a with
  | succeed | fail | complete =>
    rw [act, Run.run_map]
    exact .inl ⟨_, (complete_using h attempt _ _).2⟩
  | isCompleted =>
    rw [act, Run.run_map]
    exact .inl ⟨_, ask_using h⟩
  | route => exact .inr (.inl rfl)
  | inspect => exact .inl ⟨_, ask_using h⟩
  | save => exact .inr (.inr rfl)

/-- An action leaves all other places and completions as they are. -/
lemma act_frame (h : l.Serves s.place c us) (attempt : Option Url) (a : Action) :
    let l' := ((s.act attempt a).run.run l).2
    (∀ call ≠ c.call, l'.received call = l.received call) ∧
      ∀ q ≠ s.place, l'.usesOf q = l.usesOf q ∧ l'.pending[q]? = l.pending[q]? := by
  intro l'
  rcases act_cases h attempt a with ⟨u, hu⟩ | heq | heq
  · exact ⟨fun call hcall => hu.received_eq hcall, fun q hq => ⟨hu.usesOf_eq hq, hu.slot_eq hq⟩⟩
  · simp [l', heq]
  · simp [l', heq, received, usesOf]

lemma act_keeps (hs : s.place < m) (attempt : Option Url) (a : Action) :
    Run.Keeps (Offers panics m) (s.act attempt a) := by
  rintro l ⟨h, hm⟩
  have hplace : s.place < l.pending.length := by omega
  obtain ⟨c, us, -, hserves⟩ := h.served s.place hplace
  rcases act_cases hserves attempt a with ⟨u, hu⟩ | heq | heq
  · exact ⟨h.use hserves hu, by rwa [hu.length_eq]⟩
  · rw [heq]
    exact ⟨h, hm⟩
  · rw [heq]
    refine ⟨h.congr rfl (fun k hk => ?_) rfl fun _ => rfl, hm⟩
    rcases List.mem_append.mp hk with hk | hk
    · exact h.kept k hk
    · rwa [List.mem_singleton.mp hk]

/-- A script keeps what every action on its sink and on sinks that were kept keeps, however it goes
on after the panic of a completion. -/
lemma follow_keeps_of {I : Ledger → Prop} (attempt : Option Url)
    (htell : ∀ a answer, Run.Keeps I (Run.note [.action a answer]))
    (hact : ∀ a, Run.Keeps I (s.act attempt a))
    (hkept : ∀ l, I l → ∀ k ∈ l.saved, ∀ a, I ((k.act attempt a).run.run l).2)
    (script : Script) : Run.Keeps I (s.follow attempt script) := by
  induction script with
  | done => exact .pure ()
  | panic p => exact .throw p
  | act a next ih => exact .bind (.attempt (hact a)) fun answer => ih answer
  | actKept index a next missing ih ihMissing =>
    rw [follow]
    refine .get_bind fun l hl => ?_
    split
    · rename_i kept hkept'
      have hafter := hkept l hl kept (List.mem_of_getElem? hkept') a
      rw [Run.run_bind, Run.run_attempt]
      exact ih _ _ hafter
    · exact ihMissing l hl
  | tell a answer next ih => exact .bind (htell a answer) fun _ => ih

end Sink

/-- A property of the ledger holds on, whatever is noted, but for calls of completions, and whatever
is done with a sink and with those that were kept. -/
structure Sink.Upholds (s : Sink) (I : Ledger → Prop) : Prop where
  note : ∀ es : List Event, (∀ e ∈ es, ∀ call, e.receipt? call = none) → Run.Keeps I (Run.note es)
  act : ∀ attempt a, Run.Keeps I (s.act attempt a)
  kept : ∀ l, I l → ∀ k ∈ l.saved, ∀ attempt a, I ((k.act attempt a).run.run l).2

/-- A sound ledger stays sound, whatever is done with a sink of one of its places. -/
lemma Sink.upholds_offers {panics : List (Option Panic)} {m : Nat} {s : Sink} (hs : s.place < m) :
    s.Upholds (Ledger.Offers panics m) where
  note _ hquiet := .note hquiet
  act attempt a := Sink.act_keeps hs attempt a
  kept l hl k hk attempt a := by
    -- the kept sink may belong to a place behind the first `m` ones
    have hwide := Sink.act_keeps (hl.1.kept k hk) attempt a l ⟨hl.1, Nat.le_refl _⟩
    exact ⟨hwide.1, Nat.le_trans hl.2 hwide.2⟩

/-! ## Handlers and entries -/

namespace Sink.Upholds

variable {I : Ledger → Prop} {sink : Sink} (hsink : sink.Upholds I)
include hsink

lemma log (attempt : Option Url) (notices : List Notice) : Run.Keeps I (Run.log attempt notices) :=
  hsink.note _ fun e he call => by
    obtain ⟨notice, -, rfl⟩ := List.mem_map.mp he
    rfl

lemma complete (attempt : Option Url) (handled : Bool) (error : Option LinkError) :
    Run.Keeps I (sink.complete attempt handled error) := by
  intro l h
  have hact := hsink.act attempt (.complete handled error) l h
  rwa [Sink.act, Run.run_map] at hact

/-- **A script keeps what is upheld**, whatever it does with its sink and with those that were
kept. -/
lemma follow (attempt : Option Url) (script : Script) :
    Run.Keeps I (sink.follow attempt script) :=
  Sink.follow_keeps_of attempt (fun a answer => hsink.note _ (by simp [Event.receipt?]))
    (hsink.act attempt) (fun l hl k hk a => hsink.kept l hl k hk attempt a) script

lemma make (maker : Maker) (link : Link) : Run.Keeps I (maker.make link) := by
  cases maker with
  | default h => exact .pure _
  | factory name make => exact .bind (hsink.note _ (by simp [Event.receipt?])) fun _ => .ofCall _

lemma wants (h : Handler) (link : Link) : Run.Keeps I (h.wants link) := by
  rw [Handler.wants]
  split
  · exact .pure true
  · exact .bind (hsink.note _ (by simp [Event.receipt?])) fun _ => .ofCall _

lemma handle (maker : Maker) (link : Link) (attempt : Option Url) :
    Run.Keeps I (maker.handle link sink attempt) := by
  refine .bind (hsink.make maker link) fun made => ?_
  cases made with
  | error cause => exact .pure _
  | ok h =>
    refine .bind (hsink.wants h link) fun wants => ?_
    cases wants with
    | true =>
      refine .bind (hsink.note _ (by simp [Event.receipt?])) fun _ => ?_
      exact .bind (hsink.follow attempt (h.handle link)) fun _ => .pure _
    | false => exact .pure _

lemma reportFailure (e : Entry) (attempt : Option Url) (cause : Cause) :
    Run.Keeps I (e.reportFailure sink attempt cause) :=
  .bind (hsink.log attempt _) fun _ => .bind (hsink.complete attempt _ _) fun _ => .pure _

/-- **A call of a handler keeps what is upheld**, in every way in which it can end. -/
lemma dispatch (e : Entry) (link : Link) (attempt : Option Url) :
    Run.Keeps I (e.dispatch link sink attempt) := by
  rw [Entry.dispatch]
  split
  · refine .bind (hsink.note _ (by simp [Event.receipt?])) fun _ => ?_
    split
    · exact .bind (hsink.complete attempt _ _) fun _ => .pure _
    · exact hsink.reportFailure e attempt _
  · rename_i maker _
    refine .bind (.attempt (hsink.handle maker link attempt)) fun outcome => ?_
    split
    · exact .pure _
    · refine .bind (hsink.log attempt _) fun _ => ?_
      exact .bind (hsink.complete attempt _ _) fun _ => .pure _
    · exact hsink.reportFailure e attempt _
    · exact hsink.reportFailure e attempt _

end Sink.Upholds

end AppLinks
