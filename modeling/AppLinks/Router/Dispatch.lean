import AppLinks.Router.Basic
import AppLinks.Router.Run

/-!
Routing attempts.

The gate is asked first. Then the link of the first match goes to what its route is bound to.
Whatever happens there is reported to the completion, and a panic of a handler ends there. Only
panics of completions go further, and not even these if a handler has caused the call.
-/

namespace AppLinks

/-! ### Activities of a user that are continued in the application -/

structure Activity where
  type : String
  webpageUrl : Option Url
  deriving DecidableEq, Repr

namespace Activity

def browsingWebType : String := "NSUserActivityTypeBrowsingWeb"

def browsingWeb (url : Url) : Activity where
  type := browsingWebType
  webpageUrl := some url

def isBrowsingWeb (a : Activity) : Bool := a.type = browsingWebType

/-- The URL that an activity leads to. -/
def url? (a : Activity) : Option Url := a.webpageUrl.filter fun _ => a.isBrowsingWeb

end Activity

/-! ### Handlers -/

def Entry.reportFailure (e : Entry) (sink : Sink) (attempt : Option Url) (cause : Cause) :
    Run Unit := do
  Run.log attempt [.invocationFailed e.route cause]
  let _ ← sink.complete attempt false (some (.handlerInvocationFailed e.route cause))

def Maker.make (m : Maker) (link : Link) : Run (Except Cause Handler) :=
  match m with
  | .default h => return .ok h
  | .factory name make => do
    Run.note [.factory name link]
    Run.ofCall (make link)

def Handler.wants (h : Handler) (link : Link) : Run Bool :=
  match h.wants? with
  | none => return true
  | some f => do
    Run.note [.asked]
    Run.ofCall (f link)

/-- Makes a handler and gives it the link, if it wants it; answers whether it does. -/
def Maker.handle (m : Maker) (link : Link) (sink : Sink) (attempt : Option Url) :
    Run (Except Cause Bool) := do
  match ← m.make link with
  | .error cause => return .error cause
  | .ok h =>
    if ← h.wants link then
      Run.note [.handle link]
      sink.follow attempt (h.handle link)
      return .ok true
    else return .ok false

/-- Gives a link to what its route is bound to. -/
def Entry.dispatch (e : Entry) (link : Link) (sink : Sink) (attempt : Option Url) : Run Unit :=
  match e.binding with
  | .callback name run => do
    Run.note [.callback name link]
    match run link with
    | .ok () => let _ ← sink.complete attempt true none
    | .error p => e.reportFailure sink attempt (.text p.reason)
  | .class maker => do
    match ← Run.attempt (maker.handle link sink attempt) with
    -- the handler speaks for itself, perhaps later by a sink that it has kept
    | .ok (.ok true) => pure ()
    | .ok (.ok false) =>
      Run.log attempt [.declined e.route]
      let _ ← sink.complete attempt false none
    | .ok (.error cause) => e.reportFailure sink attempt cause
    | .error p => e.reportFailure sink attempt (.text p.reason)

namespace Router

/-- Whether the gate lets links through; a gate that panics does not. -/
def asksGate (r : Router) : Run Bool :=
  match r.gate with
  | none => return true
  | some gate => do
    let l ← get
    set { l with gateCalls := l.gateCalls + 1 }
    Run.note [.gate]
    return (gate l.gateCalls).toOption.getD false

/-- Routes a URL; answers whether the gate let it through and a route matched. -/
def handle (r : Router) (u : Url) (c : Completion) : Run Bool := do
  if ← r.asksGate then
    Run.log (some u) (r.matchNotices u)
    match r.matchUrl? u with
    | some (e, link) =>
      Run.log (some u) [.dispatching e.route e.index]
      let sink ← Sink.new e.route c
      e.dispatch link sink (some u)
      return true
    | none =>
      Run.log (some u) [.unmatched]
      c.deliver false (some (.routeNotFound (.unmatched u.render)))
      return false
  else
    Run.log (some u) [.gateClosed]
    c.deliver false (some .applicationCannotHandle)
    return false

def handleText (r : Router) (text : String) (c : Completion) : Run Bool := do
  match Url.parse text with
  | .ok u => r.handle u c
  | .error e =>
    Run.log none [.notUrl text e]
    c.deliver false (some (.routeNotFound (.notUrl text e)))
    return false

def handleActivity (r : Router) (a : Activity) (c : Completion) : Run Bool := do
  match a.url? with
  | some u => r.handle u c
  | none =>
    Run.log none [.noUrlInActivity a.type]
    c.deliver false (some (.routeNotFound (.noUrlInActivity a.type)))
    return false

end Router

end AppLinks
