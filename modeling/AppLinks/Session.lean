import AppLinks.Router.Dispatch

/-!
Sessions: a router in use.

A step changes the router, routes something, or acts on a sink that was kept. A step that fails
or panics leaves the router as it was, and the session goes on.
-/

namespace AppLinks

structure Session where
  router : Router := {}
  ledger : Ledger := {}
  attempts : Nat := 0

inductive Step where
  | register (route : String) (binding : Binding)
  | useStartAnchors (b : Bool)
  | useNormalizedPaths (b : Bool)
  | hostPattern (pattern : Option String)
  | setGate (gate : Gate)
  | clearGate
  | handle (url : Url) (panics : Option Panic)
  | handleText (text : String) (panics : Option Panic)
  | handleActivity (activity : Activity) (panics : Option Panic)
  /-- Does something with a sink that was kept. -/
  | act (index : Nat) (deed : Deed)
  /-- Tells notices of a query. -/
  | tell (notices : List Notice)

inductive Outcome where
  | nothing
  | size (n : Nat)
  | config (c : RouterConfig)
  | matched (b : Bool)
  | refused (e : LinkError)
  | panicked (p : Panic)
  | noSink

namespace Session

/-- Runs something on the ledger. -/
def perform {α : Type} (s : Session) (x : Run α) (outcome : α → Outcome) : Outcome × Session :=
  let (r, ledger) := x.run.run s.ledger
  (match r with
    | .ok a => outcome a
    | .error p => .panicked p, { s with ledger })

/-- Makes an attempt with a completion of its own. -/
def dispatch (s : Session) (panics : Option Panic) (x : Completion → Run Bool) :
    Outcome × Session :=
  let (outcome, s') := s.perform (x { call := s.attempts, panics }) .matched
  (outcome, { s' with attempts := s.attempts + 1 })

/-- Replaces the router by one that may be refused. -/
def update (s : Session) (r : Except LinkError Router) (outcome : Router → Outcome) :
    Outcome × Session :=
  match r with
  | .ok router => (outcome router, { s with router })
  | .error e => (.refused e, s)

def step (s : Session) : Step → Outcome × Session
  | .register route binding =>
    match s.router.register route binding with
    | .ok router =>
      { s with router }.perform
        (Run.log none [.registered route s.router.size binding.inspect]) fun _ => .size router.size
    | .error e => (.refused e, s)
  | .useStartAnchors b => s.update (.ok (s.router.setUseStartAnchors b)) (.config ·.config)
  | .useNormalizedPaths b => s.update (.ok (s.router.setUseNormalizedPaths b)) (.config ·.config)
  | .hostPattern pattern => s.update (s.router.setHostPattern pattern) (.config ·.config)
  | .setGate gate =>
    (.nothing, { s with
      router := { s.router with gate := some gate }, ledger := { s.ledger with gateCalls := 0 } })
  | .clearGate => (.nothing, { s with router := { s.router with gate := none } })
  | .handle url panics => s.dispatch panics (s.router.handle url)
  | .handleText text panics => s.dispatch panics (s.router.handleText text)
  | .handleActivity activity panics => s.dispatch panics (s.router.handleActivity activity)
  | .act index deed =>
    match s.ledger.saved[index]? with
    | some sink => s.perform (sink.follow none (.ofDeeds [deed])) fun _ => .nothing
    | none => (.noSink, s)
  | .tell notices => s.perform (Run.log none notices) fun _ => .nothing

def run (s : Session) (steps : List Step) : Session := steps.foldl (fun s st => (s.step st).2) s

/-- A session with one sink, which is kept. -/
def ofSink (route : String) (panics : Option Panic) : Session where
  ledger :=
    { pending := [some { call := 0, panics }], saved := [{ place := 0, route }]
      uses := [(0, .opened { call := 0, panics })] }
  attempts := 1

end Session

end AppLinks
