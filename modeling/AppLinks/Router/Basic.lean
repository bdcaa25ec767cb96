import AppLinks.Handler
import AppLinks.Route.Matcher
import AppLinks.Route.Normalizer

/-!
Routers: routes in the order of their registration, each with a binding, and the configuration.

The first route that matches a URL takes it. What a router tells about a search is a list of
notices, apart from the result.
-/

namespace AppLinks

open Route (Matcher Normalizer)

structure Entry where
  matcher : Matcher
  binding : Binding
  index : Nat

namespace Entry

def route (e : Entry) : String := e.matcher.route

def inspect (e : Entry) : String :=
  "RegistryEntry \x7b route: " ++ quoted e.route ++ ", binding: " ++ e.binding.inspect ++
    ", index: " ++ toString e.index ++ " \x7d"

end Entry

/-- What says whether links can be handled right now, by the number of times it was asked. -/
abbrev Gate := Nat → Except Panic Bool

structure Router where
  entries : List Entry := []
  config : RouterConfig := {}
  normalizer : Normalizer := {}
  gate : Option Gate := none

namespace Router

def ofConfig (config : RouterConfig) : Except LinkError Router := do
  return { config, normalizer := ← Normalizer.ofPattern config.hostPattern? }

def ofSettings (s : Settings) : Except LinkError Router := ofConfig s.router

/-! ### Configuration and registration -/

def setUseStartAnchors (r : Router) (b : Bool) : Router :=
  { r with config := { r.config with useStartAnchors := b } }

def setUseNormalizedPaths (r : Router) (b : Bool) : Router :=
  { r with config := { r.config with useNormalizedPaths := b } }

def setHostPattern (r : Router) (pattern : Option String) : Except LinkError Router := do
  let normalizer ← Normalizer.ofPattern pattern
  return { r with normalizer, config := { r.config with additionalHostPattern := pattern } }

/-- Puts a route behind all others. -/
def register (r : Router) (route : String) (binding : Binding) : Except LinkError Router := do
  let matcher ← Matcher.ofRoute route
  return { r with entries := r.entries ++ [{ matcher, binding, index := r.entries.length }] }

/-! ### Views -/

def size (r : Router) : Nat := r.entries.length

def routes (r : Router) : List String := r.entries.map Entry.route

/-- The binding of the first route that was written in exactly this way. -/
def binding? (r : Router) (route : String) : Option Binding :=
  (r.entries.find? (·.route = route)).map Entry.binding

def inspect (r : Router) : String :=
  "Router \x7b entries: [" ++ ", ".intercalate (r.entries.map Entry.inspect) ++ "], config: " ++
    r.config.inspect ++ ", has_gate: " ++ boolText r.gate.isSome ++ ", .. \x7d"

/-! ### Matching -/

/-- The path of a URL that is matched against the routes. -/
def candidatePath (r : Router) (u : Url) : List Char :=
  if r.config.useNormalizedPaths then r.normalizer.normalize u else Route.rawRoute u

def capture? (r : Router) (path : List Char) (e : Entry) : Option Params :=
  e.matcher.matchPath path r.config.useStartAnchors

/-- The first entry that matches a URL, and the link. -/
def matchUrl? (r : Router) (u : Url) : Option (Entry × Link) :=
  r.entries.findSome? fun e =>
    (r.capture? (r.candidatePath u) e).map fun params => (e, Link.ofMatch u e.route params)

/-! ### Notices -/

def normalizeNotices (r : Router) (route : List Char) (u : Url) : List Notice :=
  if Normalizer.isSettled route u then []
  else [.normalized (String.ofList route) (String.ofList (r.normalizer.normalizeRoute route u))]

def candidateNotices (r : Router) (u : Url) : List Notice :=
  if r.config.useNormalizedPaths then r.normalizeNotices (Route.rawRoute u) u else []

/-- What is told about trying entries up to the first one that matches. -/
def tryNotices (r : Router) (path : List Char) : List Entry → List Notice
  | [] => []
  | e :: es =>
    let matched := (r.capture? path e).isSome
    .tried e.route (String.ofList path) r.config.useStartAnchors matched ::
      if matched then [] else r.tryNotices path es

def matchNotices (r : Router) (u : Url) : List Notice :=
  r.candidateNotices u ++ r.tryNotices (r.candidatePath u) r.entries

end Router

end AppLinks
