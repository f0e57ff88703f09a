import WalletTrust.Http.Message
import WalletTrust.Http.Target

/-!
# Routes of the service

The first route that fits both path and method handles a request. Failing that, a route that fits
the path alone refuses the method, and a path that only has slashes too many at its end is
redirected. Pages of the framework have paths of their own.
-/

namespace WalletTrust.Http

inductive Route where
  | health
  | metrics
  | status
  | lookup
  | batch
  | setStatus
  | admin
  | transferAdmin
  | nextContract
  | setNextContract
  deriving DecidableEq, Repr

namespace Route

def all : List Route :=
  [.health, .metrics, .status, .lookup, .batch, .setStatus, .admin, .transferAdmin, .nextContract,
    .setNextContract]

def method : Route → String
  | .batch => "POST"
  | .setStatus => "POST"
  | .transferAdmin => "POST"
  | .setNextContract => "POST"
  | _ => "GET"

/-- The path of a route up to the wallet that some routes end in. -/
def base : Route → String
  | .health => "/health"
  | .metrics => "/metrics"
  | .status => "/api/v1/status/"
  | .lookup => "/api/v1/lookup/"
  | .batch => "/api/v1/status/batch"
  | .setStatus => "/api/v1/status"
  | .admin => "/api/v1/admin"
  | .transferAdmin => "/api/v1/admin/transfer"
  | .nextContract => "/api/v1/contract/next"
  | .setNextContract => "/api/v1/contract/next"

def endsInWallet : Route → Bool
  | .status => true
  | .lookup => true
  | _ => false

/-- How meters name a route. -/
def template (r : Route) : String := if r.endsInWallet then r.base ++ "\x7bwallet\x7d" else r.base

/-- The wallet in a path that fits a route, which is empty if the route has none. A wallet is a
segment that is not empty; a path without one may end in a line feed. -/
def wallet? (r : Route) (path : String) : Option String :=
  let base := r.base.toList
  let rest := path.toList.drop base.length
  if !base.isPrefixOf path.toList then none
  else if r.endsInWallet then
    if rest.isEmpty || rest.contains '/' then none else some (String.ofList rest)
  else if rest = [] ∨ rest = ['\n'] then some "" else none

def fits (r : Route) (path : String) : Bool := (r.wallet? path).isSome

end Route

namespace Page

def all : List Page := [.schema, .browser, .browserLogin, .reference]

def path : Page → String
  | .schema => "/openapi.json"
  | .browser => "/docs"
  | .browserLogin => "/docs/oauth2-redirect"
  | .reference => "/redoc"

def fits (p : Page) (path : String) : Bool := path == p.path || path == p.path ++ "\n"

/-- The methods that pages allow, as a refusal names them. -/
def methods : List String := ["GET", "HEAD"]

def allows (method : Text.Points) : Bool := methods.any fun name => Text.toPoints name == method

end Page

inductive Dispatch where
  | handle (route : Route) (wallet : String)
  | wrongMethod (route : Route)
  | page (page : Page) (allowed : Bool)
  | redirect (path : String)
  | unknown

def withoutSlashes (path : String) : String :=
  String.ofList (path.toList.reverse.dropWhile (· == '/')).reverse

def redirection? (path : String) : Option String :=
  if path != "/" && path.toList.getLast? == some '/' then
    let shorter := withoutSlashes path
    if Route.all.any (·.fits shorter) || Page.all.any (·.fits shorter) then some shorter else none
  else none

def dispatch (method : Text.Points) (path : String) : Dispatch :=
  match Route.all.find? fun r => Text.toPoints r.method == method && r.fits path with
  | some r => .handle r ((r.wallet? path).getD "")
  | none => match Route.all.find? (·.fits path) with
    | some r => .wrongMethod r
    | none => match Page.all.find? (·.fits path) with
      | some page => .page page (Page.allows method)
      | none => match redirection? path with
        | some path => .redirect path
        | none => .unknown

end WalletTrust.Http
