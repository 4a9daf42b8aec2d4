import Lxcup.Access.Routes
import Lxcup.Agent.Command
import Lxcup.Auth.Service
import Lxcup.Core.Resource

/-!
# Who may send which request

The rules of the middleware in front of all routes: which paths are open to everybody, what a
request has to show, and what a role may do.  They look at the path as a text, before it is matched
with the routes.

## Main definitions

* `Headers`, `cookieValue`, `sessionCredential`, `validCsrfRequest` — what a request shows.
* `AuthConfig` with `role` and `allows`.
* `isPublicRequest`, `isPasswordChangeAllowedPath`, `isAdminOnlyRoute`.
-/

namespace Lxcup.Access

open Lxcup.Lib Lxcup.Core Lxcup.Agent Lxcup.Auth

/-! ### Headers and cookies -/

/-- The headers of a request in their order, with lower-case names; a value that is not visible
ASCII is no text. -/
abbrev Headers := List (String × Option String)

namespace Headers

/-- `get(name)`, and `to_str().ok()` on it. -/
def get (headers : Headers) (name : String) : Option (Option String) := headers.lookup name

/-- `get_all(name)`. -/
def getAll (headers : Headers) (name : String) : List (Option String) :=
  (headers.filter fun header => header.1 = name).map Prod.snd

end Headers

/-- `SESSION_COOKIE_NAME`. -/
def sessionCookieName : String := "lxcup_session"

/-- `CSRF_COOKIE_NAME`. -/
def csrfCookieName : String := "lxcup_csrf"

/-- A cookie of a header, if it is one. -/
def cookiePair (cookie : List Char) : Option (String × String) :=
  (splitOnce '=' (trim cookie)).map fun pair => (String.ofList pair.1, String.ofList (trim pair.2))

/-- One more cookie in the loop of `cookie_value`; a second one of the name ends it. -/
def cookieStep (name : String) (result : Option String) (cookie : List Char) :
    Option (Option String) :=
  match cookiePair cookie with
  | none => some result
  | some (cookieName, value) =>
    if cookieName = name then if result.isSome then none else some (some value) else some result

/-- One more header in the loop of `cookie_value`. -/
def cookieHeaderStep (name : String) (result value : Option String) : Option (Option String) :=
  value.bind fun cookies => (cookies.toList.splitOn ';').foldlM (cookieStep name) result

/-- `cookie_value`. -/
def cookieValue (headers : Headers) (name : String) : Option String :=
  ((headers.getAll "cookie").foldlM (cookieHeaderStep name) none).join

/-- The token of a header of authorization. -/
def bearerToken (value : Option String) : Option String :=
  value.bind fun text => (stripPrefix "Bearer ".toList text.toList).map String.ofList

/-- `session_credential`: the token, and whether it was in a cookie. -/
def sessionCredential (headers : Headers) : Option (String × Bool) :=
  match headers.get "authorization" with
  | some value => (bearerToken value).map fun token => (token, false)
  | none => (cookieValue headers sessionCookieName).map fun token => (token, true)

/-- `valid_csrf_request`. -/
def validCsrfRequest (headers : Headers) : Bool :=
  match cookieValue headers csrfCookieName, (headers.get "x-csrf-token").join with
  | some cookieToken, some headerToken => cookieToken = headerToken
  | _, _ => false

/-- `is_unsafe_method`. -/
def isUnsafeMethod (method : Method) : Bool := method ∉ [.get, .head, .options]

/-- `is_write_method`. -/
def isWriteMethod (method : Method) : Bool := method ∈ [.post, .put, .patch, .delete]

/-! ### Paths -/

def startsWith (path start : String) : Bool := start.toList.isPrefixOf path.toList

def endsWith (path back : String) : Bool := back.toList.isSuffixOf path.toList

/-- `is_public_request`; the routes of the agents check a token of their own. -/
def isPublicRequest (accountAuthEnabled : Bool) (path : String) : Bool :=
  path ∈ ["/health/live", "/health/ready", "/metrics", "/api/v1/agents/heartbeat",
      "/api/v1/agents/workflows/claim"]
    || accountAuthEnabled && path ∈ ["/api/v1/auth/status", "/api/v1/auth/login"]
    || startsWith path "/api/v1/agents/workflows/" && endsWith path "/result"

/-- `is_password_change_allowed_path`. -/
def isPasswordChangeAllowedPath (path : String) : Bool :=
  path ∈ ["/api/v1/auth/session", "/api/v1/auth/logout", "/api/v1/auth/password"]

/-- `is_admin_only_route`. -/
def isAdminOnlyRoute (path : String) : Bool :=
  startsWith path "/api/v1/users" || startsWith path "/api/v1/secrets"
    || path = "/api/v1/auth/audit" || startsWith path "/api/v1/admin/"

/-! ### Roles -/

/-- `actor_role`. -/
def actorRole : AuthUserRole → ActorRole
  | .admin => .admin
  | .user => .operator

/-- The tokens of the roles, for a server without accounts. -/
structure AuthConfig where
  viewerToken : Option String
  operatorToken : Option String
  adminToken : Option String
  required : Bool
  tokenExpiresAt : Option Timestamp
  deriving DecidableEq, Repr, Inhabited

namespace AuthConfig

variable (auth : AuthConfig)

/-- `role`, at a time. -/
def role (headers : Headers) (now : Timestamp) : Option ActorRole :=
  if !auth.required then some .admin
  else if auth.tokenExpiresAt.any fun expiresAt => now ≥ expiresAt then none
  else
    (bearerToken (headers.get "authorization").join).bind fun token =>
      if auth.adminToken = some token then some .admin
      else if auth.operatorToken = some token then some .operator
      else if auth.viewerToken = some token then some .viewer
      else none

end AuthConfig

/-- What `allows` asks for besides reading, when the role matters. -/
def neededPermission (path : String) (method : Method) : Permission :=
  if method = .delete || endsWith path "/revoke" || endsWith path "/disable"
      || endsWith path "/abort" || startsWith path "/api/v1/secrets" && method ≠ .get then
    .destructive
  else .configure

/-- `AuthConfig::allows`. -/
def allows (path : String) (method : Method) (role : ActorRole) : Bool :=
  if path = "/api/v1/auth/logout" then true
  else if method = .get || method = .head then role.grants .read
  else if (path = "/api/v1/ansible/jobs" || endsWith path "/scans"
      || startsWith path "/api/v1/scans/") && method = .post then true
  else role.grants (neededPermission path method)

end Lxcup.Access
