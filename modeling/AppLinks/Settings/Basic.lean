import AppLinks.Error
import AppLinks.Regex.Parse

/-!
Settings of routing and of logging.

The host pattern is an expression that a whole path segment has to match; settings are valid if
it can be read. No pattern and an empty one mean the same.
-/

namespace AppLinks

structure RouterConfig where
  /-- Matches begin where the path begins. -/
  useStartAnchors : Bool := false
  /-- Links of the web and of the application are brought into one form first. -/
  useNormalizedPaths : Bool := false
  /-- A leading path segment that is left out in that form. -/
  additionalHostPattern : Option String := none
  deriving DecidableEq, Repr

structure Settings where
  debug : Bool := true
  logLevel : String := "info"
  router : RouterConfig := {}
  deriving DecidableEq, Repr

def readHostPattern (pattern : String) : Except LinkError Regex.Expr :=
  match Regex.parseWhole pattern with
  | .ok e => .ok e
  | .error e => .error (.configuration (.hostPattern pattern e))

def boolText (b : Bool) : String := if b then "true" else "false"

namespace RouterConfig

/-- The pattern of the leading segment; an empty one is none. -/
def hostPattern? (c : RouterConfig) : Option String := c.additionalHostPattern.filter (!·.isEmpty)

def hostExpr? (c : RouterConfig) : Except LinkError (Option Regex.Expr) :=
  match c.hostPattern? with
  | none => .ok none
  | some p => some <$> readHostPattern p

def inspect (c : RouterConfig) : String :=
  "RouterConfig \x7b use_start_anchors: " ++ boolText c.useStartAnchors ++
    ", use_normalized_paths: " ++ boolText c.useNormalizedPaths ++ ", additional_host_pattern: " ++
    (match c.additionalHostPattern with
      | none => "None"
      | some p => "Some(" ++ quoted p ++ ")") ++ " \x7d"

end RouterConfig

namespace Settings

/-- Refuses settings whose host pattern cannot be read. -/
def validate (s : Settings) : Except LinkError Unit := do
  let _ ← s.router.hostExpr?

def inspect (s : Settings) : String :=
  "Settings \x7b debug: " ++ boolText s.debug ++ ", log_level: " ++ quoted s.logLevel ++
    ", router: " ++ s.router.inspect ++ " \x7d"

end Settings

end AppLinks
