import AppLinks.Settings.Basic
import AppLinks.Url.Basic

/-!
Routes of URLs, and their normal form.

The route of a URL is its host followed by its path. In its normal form it begins with a slash,
the host of a site is left out, and so is a leading segment that the host pattern matches. A route
that begins with a slash and is not the one of the URL is taken to be in normal form already.
-/

namespace AppLinks.Route

def rawRoute (u : Url) : List Char := u.hostText ++ u.path

def isRooted (route : List Char) : Bool := route.head? = some '/'

def root (route : List Char) : List Char := if isRooted route then route else '/' :: route

/-- A route without the host of the site that a URL leads to. -/
def dropSite (u : Url) (route : List Char) : List Char :=
  let rest := route.drop u.hostText.length
  if u.isWeb && !isRooted route && u.hasHost && u.hostText.isPrefixOf route &&
    (rest.isEmpty || isRooted rest) then rest
  else route

/-- The leading segment of a route that begins with a slash. -/
def leading (route : List Char) : List Char := route.tail.takeWhile (· ≠ '/')

def dropLeading (route : List Char) : List Char :=
  '/' :: (route.tail.dropWhile (· ≠ '/')).drop 1

structure Normalizer where
  /-- The expression of the leading segment that is left out. -/
  hostExpr : Option Regex.Expr := none

namespace Normalizer

/-- The normalizer for a host pattern; an empty one is none. -/
def ofPattern (pattern : Option String) : Except LinkError Normalizer := do
  return { hostExpr := ← { additionalHostPattern := pattern : RouterConfig }.hostExpr? }

def hasHostPattern (n : Normalizer) : Bool := n.hostExpr.isSome

/-- Whether a route is taken to be in normal form. -/
def isSettled (route : List Char) (u : Url) : Bool := isRooted route && route ≠ rawRoute u

/-- A route that begins with a slash without the leading segment that the host pattern matches. -/
def trim (n : Normalizer) (route : List Char) : List Char :=
  if n.hostExpr.any (·.accepts (leading route)) then dropLeading route else route

def normalizeRoute (n : Normalizer) (route : List Char) (u : Url) : List Char :=
  if isSettled route u then route else n.trim (root (dropSite u route))

def normalize (n : Normalizer) (u : Url) : List Char := n.normalizeRoute (rawRoute u) u

end Normalizer

end AppLinks.Route
