import AppLinks.Handler

/-!
Runs of routing: what has happened, and which completions are still to be called.

A sink belongs to a place for one completion. The first signal through any sink of the place takes
the completion out and calls it; every later one is only noted. A panic ends a run, but what has
happened until then remains: the journal says what was called and told, and the uses of the sinks
say what came of them.
-/

namespace AppLinks

/-- What the caller of a routing attempt wants to be told in the end. -/
structure Completion where
  call : Nat
  /-- The panic with which the completion ends, if it does. -/
  panics : Option Panic := none
  deriving DecidableEq, Repr

structure Sink where
  place : Nat
  route : String
  deriving DecidableEq, Repr

inductive Use where
  | opened (c : Completion)
  /-- A signal was sent, and this came of it. -/
  | signal (handled : Bool) (error : Option LinkError) (result : Except Panic Bool)
  | asked (answer : Bool)

inductive Event where
  | gate
  | callback (name : String) (link : Link)
  | factory (name : String) (link : Link)
  | asked
  | handle (link : Link)
  | action (a : Action) (answer : Answer)
  | completion (call : Nat) (handled : Bool) (error : Option LinkError)
  /-- A notice, and the attempt that it belongs to. -/
  | log (attempt : Option Url) (notice : Notice)

structure Ledger where
  /-- The places, with the completions that were not called yet. -/
  pending : List (Option Completion) := []
  saved : List Sink := []
  gateCalls : Nat := 0
  journal : List Event := []
  /-- What was done with the sinks, in order, each time with the number of the place. -/
  uses : List (Nat × Use) := []

abbrev Run := ExceptT Panic (StateM Ledger)

namespace Run

def note (events : List Event) : Run Unit :=
  modify fun l => { l with journal := l.journal ++ events }

def noteUse (place : Nat) (u : Use) : Run Unit :=
  modify fun l => { l with uses := l.uses ++ [(place, u)] }

def log (attempt : Option Url) (notices : List Notice) : Run Unit :=
  note (notices.map (.log attempt))

/-- The result of a call into the application. -/
def ofCall {α : Type} : Except Panic α → Run α
  | .ok a => pure a
  | .error p => throw p

/-- Runs to the end or to a panic, and goes on in both cases. -/
def attempt {α : Type} (x : Run α) : Run (Except Panic α) := ExceptT.mk do
  let r ← x.run
  return .ok r

end Run

def Completion.deliver (c : Completion) (handled : Bool) (error : Option LinkError) : Run Unit := do
  Run.note [.completion c.call handled error]
  match c.panics with
  | none => pure ()
  | some p => throw p

namespace Sink

def new (route : String) (c : Completion) : Run Sink := do
  let l ← get
  set { l with pending := l.pending ++ [some c] }
  Run.noteUse l.pending.length (.opened c)
  return { place := l.pending.length, route }

/-- The completion of a sink that was not called yet. -/
def completion? (s : Sink) (l : Ledger) : Option Completion := (l.pending[s.place]?).join

def isCompleted (s : Sink) (l : Ledger) : Bool := (s.completion? l).isNone

/-- Calls the completion if it was not called yet; answers whether it was not. -/
def forward (s : Sink) (attempt : Option Url) (handled : Bool) (error : Option LinkError) :
    Run Bool := do
  let l ← get
  match s.completion? l with
  | some c =>
    -- taken out before it is called, so that not even a panic puts it back
    set { l with pending := l.pending.set s.place none }
    c.deliver handled error
    return true
  | none =>
    Run.log attempt [.duplicateSignal s.route handled]
    return false

/-- Sends a signal; answers whether it is the first one. -/
def complete (s : Sink) (attempt : Option Url) (handled : Bool) (error : Option LinkError) :
    Run Bool := do
  -- a panic of the completion is noted as well, and then goes further
  let result ← Run.attempt (s.forward attempt handled error)
  Run.noteUse s.place (.signal handled error result)
  Run.ofCall result

def ask (s : Sink) : Run Bool := do
  let completed := s.isCompleted (← get)
  Run.noteUse s.place (.asked completed)
  return completed

def inspect (s : Sink) (completed : Bool) : String :=
  "CompletionSink \x7b route: " ++ quoted s.route ++ ", completed: " ++
    (if completed then "true" else "false") ++ " \x7d"

def act (s : Sink) (attempt : Option Url) : Action → Run Answer
  | .succeed => .flag <$> s.complete attempt true none
  | .fail cause => .flag <$> s.complete attempt false (some (.handler cause))
  | .complete handled error => .flag <$> s.complete attempt handled error
  | .isCompleted => .flag <$> s.ask
  | .route => return .text s.route
  | .inspect => return .text (s.inspect (← s.ask))
  | .save => do
    let l ← get
    set { l with saved := l.saved ++ [s] }
    return .number l.saved.length

def follow (s : Sink) (attempt : Option Url) : Script → Run Unit
  | .done => pure ()
  | .panic p => throw p
  | .act a next => do
    let answer ← Run.attempt (s.act attempt a)
    s.follow attempt (next answer)
  | .actKept index a next missing => do
    match (← get).saved[index]? with
    | some kept =>
      let answer ← Run.attempt (kept.act attempt a)
      s.follow attempt (next answer)
    | none => s.follow attempt missing
  | .tell a answer next => do
    Run.note [.action a answer]
    s.follow attempt next

end Sink

end AppLinks
