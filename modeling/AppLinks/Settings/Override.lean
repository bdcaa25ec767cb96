import AppLinks.Params
import AppLinks.Settings.Basic
import AppLinks.Unicode.Property

/-!
Settings overridden by the variables of an environment.

A flag is set by `true`, `1` and `yes` in any case and cleared by any other value. The value of
the host pattern is trimmed, and an empty one takes the pattern away.
-/

namespace AppLinks

def trimBlanks (s : List Char) : List Char :=
  ((s.dropWhile Unicode.Property.isBlank).reverse.dropWhile Unicode.Property.isBlank).reverse

def readFlag (text : String) : Bool :=
  String.ofList ((trimBlanks text.toList).map Char.toLower) ∈ ["true", "1", "yes"]

/-- The value of a pattern; an empty one is none. -/
def readPattern (text : String) : Option String :=
  let t := trimBlanks text.toList
  if t.isEmpty then none else some (String.ofList t)

namespace Settings

/-- The settings with the variables of an environment in place of what they name. -/
def override (environment : Params) (s : Settings) : Settings where
  debug := ((environment.get? "DEEPLINK_DEBUG").map readFlag).getD s.debug
  logLevel := (environment.get? "DEEPLINK_LOG_LEVEL").getD s.logLevel
  router :=
    { useStartAnchors :=
        ((environment.get? "DEEPLINK_USE_START_ANCHORS").map readFlag).getD s.router.useStartAnchors
      useNormalizedPaths :=
        ((environment.get? "DEEPLINK_USE_NORMALIZED_PATHS").map readFlag).getD
          s.router.useNormalizedPaths
      additionalHostPattern :=
        ((environment.get? "DEEPLINK_ADDITIONAL_HOST_PATTERN").map readPattern).getD
          s.router.additionalHostPattern }

end Settings

end AppLinks
