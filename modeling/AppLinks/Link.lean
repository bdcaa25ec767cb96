import AppLinks.Params
import AppLinks.Url.Parse

/-!
Links as handlers get them: a URL, the route that matched it, and the parameters of both.

Where a parameter of the route and one of the query have the same name, that of the route counts.
Of several query parameters of one name the last counts.
-/

namespace AppLinks

structure Link where
  url : Url
  /-- The pattern of the route as it was written. -/
  route : String
  routeParameters : Params
  queryParameters : Params
  fragment : Option String
  /-- Where to go back to afterwards. -/
  callbackUrl : Option Url
  deriving DecidableEq, Repr

namespace Link

/-- The query parameter that holds a URL to go back to. -/
def callbackKey : String := "dpl_callback_url"

def ofMatch (url : Url) (route : String) (routeParameters : Params) : Link :=
  let queryParameters := Params.ofPairs url.queryPairs
  { url, route, routeParameters, queryParameters
    fragment := url.fragment.map String.ofList
    callbackUrl := (queryParameters.get? callbackKey).bind fun text => (Url.parse text).toOption }

def get? (l : Link) (key : String) : Option String :=
  match l.routeParameters.get? key with
  | some v => some v
  | none => l.queryParameters.get? key

def parameters (l : Link) : Params := l.queryParameters.merge l.routeParameters

end Link

end AppLinks
