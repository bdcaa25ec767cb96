import AppLinks.Json.Shape
import AppLinks.Regex.Syntax
import AppLinks.Url.Address

/-!
What can go wrong: with a route pattern, with a routing attempt, with a handler, and with the
configuration. Every error has a number and a text; only faults of patterns and of the
configuration are not confined to one routing attempt.
-/

namespace AppLinks

inductive PatternFault where
  | empty
  | emptySegment
  | unbalanced
  | wildcardNotLast
  | constraintNotLast (part : String)
  | parameterName (part : String)
  | emptyConstraint (name : String)
  | constraint (name : String) (e : Regex.SyntaxError)
  | duplicateName (name : String)
  /-- A constraint cannot be anchored, or the expression of the pattern is too large. -/
  | anchoring (e : Regex.SyntaxError)
  /-- Something that is told in other words. -/
  | told (text : String)
  deriving DecidableEq, Repr

def PatternFault.message : PatternFault → String
  | .empty => "pattern is empty"
  | .emptySegment => "empty segment"
  | .unbalanced => "unbalanced parentheses"
  | .wildcardNotLast => "wildcard must be the last segment"
  | .constraintNotLast part => "constraint of '" ++ part ++ "' must end the segment"
  | .parameterName part => "invalid parameter name in '" ++ part ++ "'"
  | .emptyConstraint name => "empty constraint for parameter '" ++ name ++ "'"
  | .constraint name e => "invalid constraint for '" ++ name ++ "': " ++ e.message
  | .duplicateName name => "duplicate parameter name '" ++ name ++ "'"
  | .anchoring e => e.message
  | .told text => text

inductive NoRoute where
  | unmatched (url : String)
  | notUrl (text : String) (e : UrlError)
  | noUrlInActivity (type : String)
  | told (text : String)
  deriving DecidableEq, Repr

def NoRoute.message : NoRoute → String
  | .unmatched url => "The URL '" ++ url ++ "' does not match a registered route"
  | .notUrl text e => "Invalid URL '" ++ text ++ "': " ++ e.message
  | .noUrlInActivity type => "User activity '" ++ type ++ "' carries no routable URL"
  | .told text => text

inductive Format where
  | toml
  | json
  deriving DecidableEq, Repr

def Format.name : Format → String
  | .toml => "TOML"
  | .json => "JSON"

inductive ReadFault where
  | missing
  | notText
  deriving DecidableEq, Repr

def ReadFault.message : ReadFault → String
  | .missing => "No such file or directory (os error 2)"
  | .notText => "stream did not contain valid UTF-8"

inductive ConfigFault where
  | hostPattern (pattern : String) (e : Regex.SyntaxError)
  | unreadable (format : Format) (path : String) (why : ReadFault)
  | malformed (format : Format) (diagnosis : String)
  | misshapen (format : Format) (e : Json.ShapeError)
  | told (text : String)
  deriving Repr

def ConfigFault.message : ConfigFault → String
  | .hostPattern pattern e => "Invalid additional_host_pattern '" ++ pattern ++ "': " ++ e.message
  | .unreadable format path why =>
    "Failed to read " ++ format.name ++ " file '" ++ path ++ "': " ++ why.message
  | .malformed format diagnosis => "Failed to parse " ++ format.name ++ ": " ++ diagnosis
  | .misshapen format e =>
    "Failed to deserialize settings from " ++ format.name ++ ": " ++ e.message
  | .told text => text

mutual

inductive LinkError where
  | invalidPattern (pattern : String) (fault : PatternFault)
  | applicationCannotHandle
  | routeNotFound (why : NoRoute)
  /-- A handler could not be made or called. -/
  | handlerInvocationFailed (route : String) (cause : Cause)
  /-- A handler reported an error of its own. -/
  | handler (cause : Cause)
  | configuration (fault : ConfigFault)

/-- What lies behind an error of a handler. -/
inductive Cause where
  | text (message : String)
  | error (e : LinkError)

end

mutual

def LinkError.message : LinkError → String
  | .invalidPattern pattern fault =>
    "Invalid route pattern '" ++ pattern ++ "': " ++ fault.message
  | .applicationCannotHandle => "The application cannot handle deep links right now"
  | .routeNotFound why => "Route not found: " ++ why.message
  | .handlerInvocationFailed route cause =>
    "Handler for route '" ++ route ++ "' failed: " ++ cause.message
  | .handler cause => "Handler reported an error: " ++ cause.message
  | .configuration fault => "Configuration error: " ++ fault.message

def Cause.message : Cause → String
  | .text t => t
  | .error e => e.message

end

mutual

/-- An error with its parts named and quoted. -/
def LinkError.inspect : LinkError → String
  | .invalidPattern pattern fault =>
    "InvalidPattern \x7b pattern: " ++ quoted pattern ++ ", reason: " ++ quoted fault.message ++
      " \x7d"
  | .applicationCannotHandle => "ApplicationCannotHandle"
  | .routeNotFound why => "RouteNotFound(" ++ quoted why.message ++ ")"
  | .handlerInvocationFailed route cause =>
    "HandlerInvocationFailed \x7b route: " ++ quoted route ++ ", source: " ++ cause.inspect ++
      " \x7d"
  | .handler cause => "Handler(" ++ cause.inspect ++ ")"
  | .configuration fault => "ConfigurationError(" ++ quoted fault.message ++ ")"

def Cause.inspect : Cause → String
  | .text t => quoted t
  | .error e => e.inspect

end

namespace LinkError

def kind : LinkError → String
  | .invalidPattern _ _ => "InvalidPattern"
  | .applicationCannotHandle => "ApplicationCannotHandle"
  | .routeNotFound _ => "RouteNotFound"
  | .handlerInvocationFailed _ _ => "HandlerInvocationFailed"
  | .handler _ => "Handler"
  | .configuration _ => "ConfigurationError"

def code : LinkError → Nat
  | .routeNotFound _ => 1
  | .handlerInvocationFailed _ _ => 2
  | .applicationCannotHandle => 3
  | .invalidPattern _ _ => 4
  | .handler _ => 5
  | .configuration _ => 6

/-- Whether only one routing attempt has failed. -/
def isRecoverable : LinkError → Bool
  | .invalidPattern _ _ | .configuration _ => false
  | _ => true

def cause? : LinkError → Option Cause
  | .handlerInvocationFailed _ c | .handler c => some c
  | _ => none

end LinkError

end AppLinks
