import AppLinks.Error

/-!
What is told to a log.
-/

namespace AppLinks

/-- How much a notice matters. -/
inductive Level where
  | debug
  | info
  | warn
  deriving DecidableEq, Repr

def Level.name : Level → String
  | .debug => "DEBUG"
  | .info => "INFO"
  | .warn => "WARN"

inductive Detail where
  | text (s : String)
  | flag (b : Bool)
  | number (n : Nat)
  deriving DecidableEq, Repr

inductive Notice where
  | registered (route : String) (index : Nat) (binding : String)
  | normalized (route normalized : String)
  | tried (route path : String) (anchored matched : Bool)
  | dispatching (route : String) (index : Nat)
  | gateClosed
  | unmatched
  | notUrl (text : String) (e : UrlError)
  | noUrlInActivity (type : String)
  | declined (route : String)
  | invocationFailed (route : String) (cause : Cause)
  | duplicateSignal (route : String) (handled : Bool)

namespace Notice

def level : Notice → Level
  | .registered .. | .normalized .. | .tried .. => .debug
  | .dispatching .. | .declined .. => .info
  | _ => .warn

def message : Notice → String
  | .registered .. => "registered route"
  | .normalized .. => "normalized route"
  | .tried .. => "tried route"
  | .dispatching .. => "dispatching deep link"
  | .gateClosed => "application cannot handle deep links, rejecting"
  | .unmatched => "no registered route matches"
  | .notUrl .. => "unparsable deep link URL"
  | .noUrlInActivity .. => "user activity carries no routable URL"
  | .declined .. => "handler declined deep link"
  | .invocationFailed .. => "handler invocation failed"
  | .duplicateSignal .. => "ignoring duplicate completion signal"

def details : Notice → List (String × Detail)
  | .registered route index binding =>
    [("route", .text route), ("index", .number index), ("binding", .text binding)]
  | .normalized route result => [("route", .text route), ("normalized", .text result)]
  | .tried route path anchored matched =>
    [("route", .text route), ("path", .text path), ("anchored", .flag anchored),
      ("matched", .flag matched)]
  | .dispatching route index => [("route", .text route), ("index", .number index)]
  | .notUrl text e => [("url", .text text), ("error", .text e.message)]
  | .noUrlInActivity type => [("activity_type", .text type)]
  | .declined route => [("route", .text route)]
  | .invocationFailed route cause => [("route", .text route), ("error", .text cause.message)]
  | .duplicateSignal route handled => [("route", .text route), ("handled", .flag handled)]
  | .gateClosed | .unmatched => []

end Notice

end AppLinks
