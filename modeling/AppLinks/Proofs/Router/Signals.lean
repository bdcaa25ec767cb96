import AppLinks.Proofs.Router.Keeping

/-!
What handlers signal.

A handler signals by the sink that it is given, and by sinks of the same place that were kept. What
it signals depends on the answers that it gets, and so on the ledger. The uses of the place say it,
and nothing that is done later takes a use back.
-/

namespace AppLinks

/-- What an action signals. -/
def Action.signal? : Action → Option (Bool × Option LinkError)
  | .succeed => some (true, none)
  | .fail cause => some (false, some (.handler cause))
  | .complete handled error => some (handled, error)
  | .isCompleted | .route | .inspect | .save => none

/-- What deeds signal that are done one after another, up to the first panic. -/
def Deed.signals : List Deed → List (Bool × Option LinkError)
  | [] => []
  | .panic _ :: _ => []
  | .act a :: ds => a.signal?.toList ++ signals ds

def Deed.panic? : List Deed → Option Panic
  | [] => none
  | .panic p :: _ => some p
  | .act _ :: ds => panic? ds

namespace Sink

/-! ## Actions -/

lemma complete_uses (s : Sink) (attempt : Option Url) (handled : Bool) (error : Option LinkError)
    (l : Ledger) :
    ∃ result, ((s.complete attempt handled error).run.run l).2.uses =
      l.uses ++ [(s.place, .signal handled error result)] := by
  rw [complete_run]
  cases s.completion? l with
  | none => exact ⟨_, rfl⟩
  | some c => exact ⟨_, rfl⟩

/-- All actions that signal are one. -/
lemma act_eq_complete {s : Sink} {attempt : Option Url} {a : Action}
    {receipt : Bool × Option LinkError} (h : a.signal? = some receipt) :
    s.act attempt a = Answer.flag <$> s.complete attempt receipt.1 receipt.2 := by
  cases a <;> cases h <;> rfl

/-- An action uses only its own place, and what it signals is noted there. -/
lemma act_uses (s : Sink) (attempt : Option Url) (a : Action) (l : Ledger) :
    ∃ us : List Use, signals us = a.signal?.toList ∧
      ((s.act attempt a).run.run l).2.uses = l.uses ++ us.map (s.place, ·) := by
  cases a with
  | succeed | fail | complete =>
    rw [act, Run.run_map]
    obtain ⟨result, huses⟩ := s.complete_uses attempt _ _ l
    exact ⟨[.signal _ _ result], rfl, huses⟩
  | isCompleted =>
    rw [act, Run.run_map]
    exact ⟨[.asked _], rfl, rfl⟩
  | route => exact ⟨[], rfl, (List.append_nil _).symm⟩
  | inspect => exact ⟨[.asked (s.isCompleted l)], rfl, rfl⟩
  | save => exact ⟨[], rfl, (List.append_nil _).symm⟩

/-- What comes of an action on a sink, where `us` was done with the sinks of its place since that
was made for a completion: a first signal is answered as the completion ends, every later one with
`false`, and so it is noted. The completion has received the first signal of all and no other one,
and it counts as called if there was one. Other completions and their places do not change. -/
structure Answers (s : Sink) (a : Action) (c : Completion) (us : List Use) (l : Ledger)
    (out : Except Panic Answer × Ledger) : Prop where
  signal : ∀ handled error, a.signal? = some (handled, error) →
    out.1 = (c.answerAfter us).map .flag ∧
      out.2.usesOf s.place = .opened c :: (us ++ [.signal handled error (c.answerAfter us)])
  silence : a.signal? = none →
    ∃ vs, signals vs = [] ∧ out.2.usesOf s.place = .opened c :: (us ++ vs)
  isCompleted : a = .isCompleted → out.1 = .ok (.flag !(signals us).isEmpty)
  completedBefore : s.isCompleted l = !(signals us).isEmpty
  completedAfter : s.isCompleted out.2 = !(signals us ++ a.signal?.toList).isEmpty
  received : out.2.received c.call = (signals us ++ a.signal?.toList).take 1
  otherReceived : ∀ call ≠ c.call, out.2.received call = l.received call
  otherPlaces : ∀ q ≠ s.place,
    out.2.usesOf q = l.usesOf q ∧ out.2.pending[q]? = l.pending[q]?

/-- The story of a place goes on with what an action does. -/
lemma act_serves {s : Sink} {c : Completion} {us : List Use} {l : Ledger}
    (h : l.Serves s.place c us) (attempt : Option Url) (a : Action) :
    ∃ vs, signals vs = a.signal?.toList ∧
      ((s.act attempt a).run.run l).2.Serves s.place c (us ++ vs) := by
  cases ha : a.signal? with
  | some receipt =>
    rw [act_eq_complete ha, Run.run_map]
    exact ⟨_, rfl, h.use (complete_using h attempt receipt.1 receipt.2).2⟩
  | none =>
    cases a with
    | succeed | fail | complete => cases ha
    | isCompleted =>
      rw [act, Run.run_map]
      exact ⟨_, rfl, h.use (ask_using h)⟩
    | inspect => exact ⟨_, rfl, h.use (ask_using h)⟩
    | route => exact ⟨[], rfl, by rwa [List.append_nil]⟩
    | save => exact ⟨[], rfl, by rw [List.append_nil]; exact h.congr rfl rfl rfl⟩

/-- **An action on a sink is answered and received as it has to be.** -/
lemma act_answers {s : Sink} {c : Completion} {us : List Use} {l : Ledger}
    (h : l.Serves s.place c us) (attempt : Option Url) (a : Action) :
    s.Answers a c us l ((s.act attempt a).run.run l) := by
  obtain ⟨vs, hvs, hserves⟩ := act_serves h attempt a
  obtain ⟨hothers, hplaces⟩ := act_frame h attempt a
  have hsignals : signals (us ++ vs) = signals us ++ a.signal?.toList := by
    rw [signals_append, hvs]
  refine ⟨fun handled error ha => ?_, fun ha => ⟨vs, ?_, hserves.uses⟩, ?_, isCompleted_eq h, ?_,
    ?_, hothers, hplaces⟩
  · obtain ⟨hresult, husing⟩ := complete_using h attempt handled error
    rw [act_eq_complete ha, Run.run_map, ← hresult]
    exact ⟨rfl, (h.use husing).uses⟩
  · rw [hvs, ha]
    rfl
  · rintro rfl
    rw [act, Run.run_map, ask_run, isCompleted_eq h]
    rfl
  · rw [isCompleted_eq hserves, hsignals]
  · rw [hserves.received, hsignals]

def signalTo (s : Sink) (place : Nat) (a : Action) : List (Bool × Option LinkError) :=
  if s.place = place then a.signal?.toList else []

lemma act_usesOf (s : Sink) (attempt : Option Url) (a : Action) (l : Ledger) (place : Nat) :
    ∃ us, signals us = s.signalTo place a ∧
      ((s.act attempt a).run.run l).2.usesOf place = l.usesOf place ++ us := by
  obtain ⟨us, hsignals, huses⟩ := s.act_uses attempt a l
  rw [Ledger.usesOf, huses, List.filter_append, List.map_append, signalTo]
  by_cases hplace : s.place = place
  · refine ⟨us, by rw [if_pos hplace, hsignals], ?_⟩
    simp [Ledger.usesOf, List.filter_map, Function.comp_def, hplace]
  · refine ⟨[], by rw [if_neg hplace]; rfl, ?_⟩
    simp [Ledger.usesOf, List.filter_map, Function.comp_def, hplace]

/-- No use is taken back. -/
lemma upholds_uses (s : Sink) (before : List (Nat × Use)) :
    s.Upholds fun l => before <+: l.uses := by
  have hact (k : Sink) (attempt : Option Url) (a : Action) (l : Ledger) (h : before <+: l.uses) :
      before <+: ((k.act attempt a).run.run l).2.uses := by
    obtain ⟨us, -, huses⟩ := k.act_uses attempt a l
    rw [huses]
    exact h.trans (List.prefix_append _ _)
  exact ⟨fun _ _ _ h => h, fun attempt a l => hact s attempt a l,
    fun l h k _ attempt a => hact k attempt a l h⟩

/-! ## Scripts -/

lemma follow_act_run (s : Sink) (attempt : Option Url) (a : Action)
    (next : Except Panic Answer → Script) (l : Ledger) :
    (s.follow attempt (.act a next)).run.run l =
      let out := (s.act attempt a).run.run l
      (s.follow attempt (next out.1)).run.run out.2 := by
  rw [follow, Run.run_bind, Run.run_attempt]

lemma follow_actKept_run (s : Sink) (attempt : Option Url) (index : Nat) (a : Action)
    (next : Except Panic Answer → Script) (missing : Script) (l : Ledger) :
    (s.follow attempt (.actKept index a next missing)).run.run l =
      match l.saved[index]? with
      | some kept =>
        let out := (kept.act attempt a).run.run l
        (s.follow attempt (next out.1)).run.run out.2
      | none => (s.follow attempt missing).run.run l := by
  rw [follow]
  change (match l.saved[index]? with | some kept => _ | none => _ : Run Unit).run.run l = _
  cases l.saved[index]? with
  | none => rfl
  | some kept =>
    dsimp only
    rw [Run.run_bind, Run.run_attempt]

/-- What a script signals to the place of its sink, in order, when it is run on a ledger. -/
def signalled (s : Sink) (attempt : Option Url) :
    Script → Ledger → List (Bool × Option LinkError)
  | .done, _ => []
  | .panic _, _ => []
  | .act a next, l =>
    let out := (s.act attempt a).run.run l
    a.signal?.toList ++ s.signalled attempt (next out.1) out.2
  | .actKept index a next missing, l =>
    match l.saved[index]? with
    | some kept =>
      let out := (kept.act attempt a).run.run l
      kept.signalTo s.place a ++ s.signalled attempt (next out.1) out.2
    | none => s.signalled attempt missing l
  | .tell a answer next, l =>
    s.signalled attempt next ((Run.note [.action a answer]).run.run l).2

/-- **What a script signals is noted**, in order, among the uses of the place of its sink. -/
lemma follow_usesOf (s : Sink) (attempt : Option Url) (script : Script) (l : Ledger) :
    ∃ us, signals us = s.signalled attempt script l ∧
      ((s.follow attempt script).run.run l).2.usesOf s.place = l.usesOf s.place ++ us := by
  -- an action and what the script signals after it
  have hnext {k : Sink} {a : Action} {next : Except Panic Answer → Script} {l : Ledger}
      (ih : ∀ answer l, ∃ us, signals us = s.signalled attempt (next answer) l ∧
        ((s.follow attempt (next answer)).run.run l).2.usesOf s.place = l.usesOf s.place ++ us) :
      let out := (k.act attempt a).run.run l
      ∃ us, signals us = k.signalTo s.place a ++ s.signalled attempt (next out.1) out.2 ∧
        ((s.follow attempt (next out.1)).run.run out.2).2.usesOf s.place =
          l.usesOf s.place ++ us := by
    intro out
    obtain ⟨us, hsignals, huses⟩ := k.act_usesOf attempt a l s.place
    obtain ⟨vs, hsignals', huses'⟩ := ih out.1 out.2
    refine ⟨us ++ vs, ?_, ?_⟩
    · rw [signals_append, hsignals, hsignals']
    · rw [huses', huses, List.append_assoc]
  induction script generalizing l with
  | done => exact ⟨[], rfl, (List.append_nil _).symm⟩
  | panic p => exact ⟨[], rfl, (List.append_nil _).symm⟩
  | act a next ih =>
    have hself : s.signalTo s.place a = a.signal?.toList := if_pos rfl
    rw [follow_act_run, signalled, ← hself]
    exact hnext ih
  | actKept index a next missing ih ihMissing =>
    rw [follow_actKept_run, signalled]
    cases l.saved[index]? with
    | none => exact ihMissing l
    | some kept => exact hnext ih
  | tell a answer next ih => exact ih _

/-! ## Deeds -/

/-- What signals nothing calls no completion, and so it is answered. -/
lemma act_eq_ok (s : Sink) (attempt : Option Url) {a : Action} (h : a.signal? = none)
    (l : Ledger) : ∃ answer, ((s.act attempt a).run.run l).1 = .ok answer := by
  cases a with
  | succeed | fail | complete => cases h
  | isCompleted | route | inspect | save => exact ⟨_, rfl⟩

/-- The first signal of deeds that are done one after another does not depend on the answers. -/
lemma head?_signalled_ofDeeds (s : Sink) (attempt : Option Url) (ds : List Deed) (l : Ledger) :
    (s.signalled attempt (.ofDeeds ds) l).head? = (Deed.signals ds).head? := by
  induction ds generalizing l with
  | nil => rfl
  | cons d ds ih =>
    cases d with
    | panic p => rfl
    | act a =>
      rw [Script.ofDeeds, signalled, Deed.signals]
      cases ha : a.signal? with
      | some receipt => rfl
      | none =>
        obtain ⟨answer, hanswer⟩ := s.act_eq_ok attempt ha l
        rw [hanswer]
        exact ih _

/-- Deeds that signal nothing end in the first panic among them. -/
lemma follow_ofDeeds (s : Sink) (attempt : Option Url) {ds : List Deed}
    (hquiet : Deed.signals ds = []) (l : Ledger) :
    ((s.follow attempt (.ofDeeds ds)).run.run l).1 =
      (Deed.panic? ds).elim (.ok ()) .error := by
  induction ds generalizing l with
  | nil => rfl
  | cons d ds ih =>
    cases d with
    | panic p => rfl
    | act a =>
      obtain ⟨ha, hrest⟩ := List.append_eq_nil_iff.1 hquiet
      obtain ⟨answer, hanswer⟩ := s.act_eq_ok attempt (by simpa using ha) l
      rw [Script.ofDeeds, follow_act_run]
      dsimp only
      rw [hanswer]
      exact ih hrest _

end Sink

end AppLinks
