import AppLinks.Params
import AppLinks.Regex.Parse
import AppLinks.Regex.Search
import AppLinks.Route.Pattern
import AppLinks.Text.Percent

/-!
Matching paths against route patterns.

A pattern is made into two expressions, whose groups capture what its parameters and its wildcard
stand for. A match ends where the path ends; a slash there may be left over. An anchored match
begins where the path begins, any other one at the first place where the pattern fits and all
constraints hold. A slash at the beginning is skipped. Literal segments are compared in their
percent-encoded form, and constraints are asked about decoded values.
-/

namespace AppLinks.Route

def wildcardKey : String := "*"

def wildcardGroup : String := "wildcard"

def groupName (index : Nat) : String := "p" ++ toString index

/-- What becomes of the stretch that a group captures. -/
inductive Capture where
  | parameter (name group : String) (constraint : Option Regex.Expr)
  | wildcard

def Capture.ofSegment (index : Nat) : Segment → Except Regex.SyntaxError (Option Capture)
  | .literal _ => .ok none
  | .parameter name none => .ok (some (.parameter name (groupName index) none))
  | .parameter name (some c) => do
    return some (.parameter name (groupName index) (some (← Regex.parseAnchored c)))
  | .wildcard => .ok (some .wildcard)

/-- What is captured by the groups of segments, of which the first one is at `index`. -/
def capturesFrom (index : Nat) : List Segment → Except Regex.SyntaxError (List Capture)
  | [] => .ok []
  | s :: ss => do
    let c ← Capture.ofSegment index s
    return c.toList ++ (← capturesFrom (index + 1) ss)

def Segment.source (index : Nat) : Segment → List Char
  | .literal t => Regex.quote (Text.Percent.encode Text.Percent.path t.toList)
  | .parameter _ _ => "(?P<".toList ++ (groupName index).toList ++ ">[^/]+)".toList
  | .wildcard => "(?P<".toList ++ wildcardGroup.toList ++ ">.*)".toList

def sourceFrom (index : Nat) : List Segment → List Char
  | [] => []
  | [s] => s.source index
  | s :: ss => s.source index ++ '/' :: sourceFrom (index + 1) ss

/-- Reads the captured stretches as values; there are none if a constraint refuses its value. -/
def extract (found : List (String × List Char)) (params : Params) : List Capture → Option Params
  | [] => some params
  | .parameter name group constraint :: cs =>
    match found.lookup group with
    | none => none
    | some raw =>
      let value := Text.Percent.decodeText raw
      -- constraints are asked about the decoded value
      if constraint.all (·.accepts value) then
        extract found (params.insert name (String.ofList value)) cs
      else none
  | .wildcard :: cs =>
    let value := Text.Percent.decodeText ((found.lookup wildcardGroup).getD [])
    extract found (params.insert wildcardKey (String.ofList value)) cs

structure Matcher where
  pattern : Pattern
  /-- The expression of paths that match from their beginning. -/
  anchored : Regex.Expr
  /-- The expression of the ends of paths that match from anywhere. -/
  unanchored : Regex.Expr
  captures : List Capture

namespace Matcher

def compile (pattern : Pattern) : Except Regex.SyntaxError Matcher := do
  let captures ← capturesFrom 0 pattern.segments
  let source := "/?".toList ++ sourceFrom 0 pattern.segments ++ "/?$".toList
  let anchored ← Regex.parse (String.ofList ('^' :: source))
  let unanchored ← Regex.parse (String.ofList source)
  return { pattern, anchored, unanchored, captures }

def ofPattern (pattern : Pattern) : Except LinkError Matcher :=
  match compile pattern with
  | .ok m => .ok m
  | .error e => .error (.invalidPattern pattern.raw (.anchoring e))

def ofRoute (route : String) : Except LinkError Matcher := do ofPattern (← Pattern.parse route)

def route (m : Matcher) : String := m.pattern.raw

/-- The parameters of a path from a position on. A place where the pattern fits but a constraint
refuses its value is passed over, unless matches have to begin where the path begins. -/
def matchFrom (m : Matcher) (path : List Char) (anchored : Bool) (start : Nat) : Option Params :=
  if start ≤ path.length then
    match _h : (if anchored then m.anchored else m.unanchored).searchAt path start with
    | none => none
    | some (s, t) => match extract t.captures .empty m.captures with
      | some params => some params
      | none => if anchored then none else m.matchFrom path anchored (s.pos + 1)
  else none
termination_by path.length + 1 - start
decreasing_by
  have := Regex.Expr.start_le_of_searchAt _h
  dsimp only at this
  omega

/-- The parameters of a path, from its beginning or from the first place that matches. -/
def matchPath (m : Matcher) (path : List Char) (anchored : Bool) : Option Params :=
  m.matchFrom path anchored 0

end Matcher

end AppLinks.Route
