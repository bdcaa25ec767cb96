import AppLinks.Link
import AppLinks.Notice

/-!
Handlers of links: code of the application, as far as routing can tell.

A callback is called with a link and returns or panics. A handler of a class is made for a link,
may be asked whether it wants the link, and then runs a script: it acts on the sink that it is
given and on sinks that were kept, sees what comes of each action, and goes on as it likes.
-/

namespace AppLinks

structure Panic where
  message? : Option String
  deriving DecidableEq, Repr

/-- What is told about a panic of a handler. -/
def Panic.reason (p : Panic) : String := p.message?.getD "handler panicked"

inductive Action where
  | succeed
  | fail (cause : Cause)
  | complete (handled : Bool) (error : Option LinkError)
  | isCompleted
  | route
  | inspect
  /-- Keeps the sink for later. -/
  | save

inductive Answer where
  | flag (b : Bool)
  | text (s : String)
  | number (n : Nat)
  deriving DecidableEq, Repr

/-- What a handler does with its sink. An action gives an answer or, if it has called a
completion that panics, the panic; a handler may go on after either. -/
inductive Script where
  | done
  | panic (p : Panic)
  | act (a : Action) (next : Except Panic Answer → Script)
  /-- Acts on the sink that was kept under a number, or goes on without one. -/
  | actKept (index : Nat) (a : Action) (next : Except Panic Answer → Script) (missing : Script)
  /-- Makes the answer of an action known. -/
  | tell (a : Action) (answer : Answer) (next : Script)

/-- Goes on after an answer; a panic goes further. -/
def Script.heed (next : Answer → Script) : Except Panic Answer → Script
  | .ok answer => next answer
  | .error p => .panic p

/-- One deed of a handler that does not heed the answers. -/
inductive Deed where
  | act (a : Action)
  | panic (p : Panic)

/-- The script of deeds that are done one after another; each answer is made known. -/
def Script.ofDeeds : List Deed → Script
  | [] => .done
  | .panic p :: _ => .panic p
  | .act a :: ds => .act a (.heed fun answer => .tell a answer (ofDeeds ds))

structure Handler where
  /-- Whether it wants a link; one that cannot be asked wants every link. -/
  wants? : Option (Link → Except Panic Bool) := none
  handle : Link → Script

def Handler.accepting : Handler where
  handle _ := .act .succeed (.heed fun _ => .done)

inductive Maker where
  | default (handler : Handler)
  /-- By a factory, which is called with the link. -/
  | factory (name : String) (make : Link → Except Panic (Except Cause Handler))

inductive Binding where
  | callback (name : String) (run : Link → Except Panic Unit)
  | class (maker : Maker)

namespace Binding

def isClass : Binding → Bool
  | .class _ => true
  | .callback .. => false

def isCallback : Binding → Bool
  | .callback .. => true
  | .class _ => false

def inspect : Binding → String
  | .callback .. => "Callback(..)"
  | .class _ => "Class(..)"

end Binding

end AppLinks
