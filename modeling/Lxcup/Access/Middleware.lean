import Lxcup.Access.Audit
import Lxcup.Lib.Program
import Lxcup.Server.Api

/-!
# The middleware in front of the API

`request_middleware` finds out who sends a request, refuses what is not allowed, writes to the audit
log what is about to be done, lets the request be handled, and writes down what came of it.

The database, the clocks, new ids and the functions that handle requests are effects with arbitrary
answers.  The counters of the metrics are left out.

## Main definitions

* `Server`, `Request`, `Response`, `ServerCall`.
* `authenticateRequest`, `reserveRequestAudit`, `finalizeRequestResponse`, `requestMiddleware` —
  the functions of the source.
-/

namespace Lxcup.Access

open Lxcup.Lib Lxcup.Core Lxcup.Auth Lxcup.Server

/-- The settings of the server. -/
structure Server where
  accountAuthEnabled : Bool
  auth : AuthConfig
  /-- The server runs with a database. -/
  repositories : Bool
  secureCookies : Bool
  deriving DecidableEq, Repr

structure Request where
  method : Method
  path : String
  headers : Headers
  deriving DecidableEq, Repr

/-- An answer; the body is told only for errors of the middleware. -/
structure Response where
  status : Nat
  headers : List (String × String)
  error : Option ApiError
  deriving DecidableEq, Repr

/-- `into_response` of an error. -/
def ofApiError (error : ApiError) : Response := ⟨error.status, [], some error⟩

/-- `PersistedAuthSession`, as far as it is used. -/
structure PersistedAuthSession where
  userId : Uuid
  username : String
  role : AuthUserRole
  mustChangePassword : Bool
  disabled : Bool
  expiresAt : Timestamp
  deriving DecidableEq, Repr

/-- `AuthUser`, as far as a login uses it. -/
structure LoginUser where
  id : Uuid
  username : String
  passwordHash : String
  role : AuthUserRole
  mustChangePassword : Bool
  disabled : Bool
  deriving DecidableEq, Repr

/-- The effects of the middleware and of logins. -/
inductive ServerCall
  /-- A new id of a request. -/
  | newRequestId
  /-- A new id of an entry of the audit log. -/
  | newEventId
  | now
  | sessionByTokenHash (tokenHash : String)
  /-- Wait until no backup is being made. -/
  | backupGate
  | appendAuditEvent (event : AuthAuditEvent)
  | updateAuditEventStatus (id : Uuid) (status : Nat) (state : String)
  /-- Let the request be handled, as one of the role and the user. -/
  | run (served : Served) (role : Option ActorRole) (actor : Option AuthenticatedUser)
  | userByUsername (username : String)
  /-- Have a thread of its own verify a password; it may be lost. -/
  | verifyPassword (password encoded : String)
  /-- The two ids that a new token is made of. -/
  | newToken
  | saveSession (userId : Uuid) (tokenHash : String) (expiresAt : Timestamp)
  | revokeSession (tokenHash : String)
  deriving DecidableEq, Repr

/-- What an effect answers; `none` for a database call tells that it has failed. -/
abbrev ServerCall.Answer : ServerCall → Type
  | .newRequestId | .newEventId => Uuid
  | .now => Timestamp
  | .sessionByTokenHash _ => Option (Option PersistedAuthSession)
  | .userByUsername _ => Option (Option LoginUser)
  | .newToken => Uuid × Uuid
  | .verifyPassword .. | .saveSession .. | .revokeSession _ => Bool
  | .backupGate => Unit
  | .appendAuditEvent _ => Bool
  | .updateAuditEventStatus .. => Option Bool
  | .run .. => Response

/-- A part of the middleware; it fails with an answer to the request. -/
abbrev Serve (α : Type) : Type := Process ServerCall ServerCall.Answer Response Unit α

/-- Call for an effect. -/
abbrev perform (e : ServerCall) : Serve e.Answer := Process.call e

variable (server : Server) (hash : String → String) (request : Request)

/-- The id that comes with a request. -/
def suppliedRequestId : Option Uuid :=
  (request.headers.get "x-request-id").join.bind fun value => Uuid.parseStr value.toList

/-- The id of a request, which may come with it. -/
def requestIdOf : Serve Uuid :=
  match suppliedRequestId request with
  | some requestId => pure requestId
  | none => perform .newRequestId

/-- `load_account_actor`, with the hash of tokens. -/
def loadAccountActor : Serve (AuthenticatedUser × Bool) :=
  match sessionCredential request.headers with
  | none => .fail (ofApiError .unauthorized)
  | some (token, cookieAuthenticated) =>
    if !server.repositories then .fail (ofApiError .storage)
    else do
      let session : Option (Option PersistedAuthSession) ←
        perform (.sessionByTokenHash (hash token))
      let session ← .ofOption session (ofApiError .storage)
      let session ← .ofOption session (ofApiError .unauthorized)
      return ({ session with id := session.userId, tokenHash := hash token }, cookieAuthenticated)

/-- `append_request_audit`. -/
def appendRequestAudit (actor : AuthenticatedUser) (requestId : Uuid) (status : Nat) :
    Serve Unit := do
  if !server.repositories then return ()
  else
    let id : Uuid ← perform .newEventId
    let now : Timestamp ← perform .now
    let _ : Bool ← perform (.appendAuditEvent
      (requestAuditEvent actor request.method request.path requestId status id now))
    return ()

/-- `audited_forbidden_response`, which the request is answered with. -/
def auditedForbidden {α : Type} (actor : AuthenticatedUser) (requestId : Uuid)
    (code message : String) : Serve α := do
  appendRequestAudit server request actor requestId 403
  .fail (ofApiError (.forbidden code message))

/-- `authorize_account_request`. -/
def authorizeAccountRequest (actor : AuthenticatedUser) (cookieAuthenticated : Bool)
    (requestId : Uuid) : Serve ActorRole := do
  if cookieAuthenticated && isUnsafeMethod request.method && !validCsrfRequest request.headers then
    auditedForbidden server request actor requestId "csrf_validation_failed"
      "the request could not be verified"
  else if actor.mustChangePassword && !isPasswordChangeAllowedPath request.path then
    .fail (ofApiError (.forbidden "password_change_required"
      "change the initial password before using the application"))
  else
    let role := actorRole actor.role
    if isAdminOnlyRoute request.path && actor.role ≠ .admin then
      auditedForbidden server request actor requestId "permission_denied"
        "the current role cannot perform this action"
    else if !allows request.path request.method role then
      auditedForbidden server request actor requestId "permission_denied"
        "the current role cannot perform this action"
    else return role

/-- `authorize_legacy_role`. -/
def authorizeLegacyRole (role : Option ActorRole) (isPublic : Bool) : Except Response Unit :=
  if !isPublic && role.isNone then .error (ofApiError .unauthorized)
  else if role.any fun role => !isPublic && !allows request.path request.method role then
    .error (ofApiError (.forbidden "permission_denied"
      "the current role cannot perform this action"))
  else .ok ()

/-- `authenticate_request`: the role and the user that the request is handled for. -/
def authenticateRequest (requestId : Uuid) :
    Serve (Option ActorRole × Option AuthenticatedUser) := do
  let isPublic := isPublicRequest server.accountAuthEnabled request.path
  if server.accountAuthEnabled && !isPublic then
    let (actor, cookieAuthenticated) ← loadAccountActor server hash request
    let role ← authorizeAccountRequest server request actor cookieAuthenticated requestId
    return (some role, some actor)
  else
    let now : Timestamp ← perform .now
    let role := server.auth.role request.headers now
    .ofExcept (authorizeLegacyRole request role isPublic)
    return (role, none)

/-- `reserve_request_audit`. -/
def reserveRequestAudit (actor : Option AuthenticatedUser) (requestId : Uuid) :
    Serve (Option Uuid) :=
  match actor.filter fun _ => isWriteMethod request.method with
  | none => return none
  | some actor => do
    let id : Uuid ← perform .newEventId
    let now : Timestamp ← perform .now
    .require server.repositories (ofApiError .storage)
    let written : Bool ← perform (.appendAuditEvent
      (requestAuditEvent actor request.method request.path requestId 102 id now))
    .require written (ofApiError .storage)
    return some id

/-- The header for a cookie that is gone. -/
def clearedCookie (name path attributes : String) (secure : Bool) : String × String :=
  ("set-cookie", name ++ "=; Path=" ++ path ++ "; Max-Age=0" ++ attributes ++ "; SameSite=Strict"
    ++ if secure then "; Secure" else "")

/-- `cleared_session_cookie_headers`. -/
def clearedSessionCookieHeaders (secure : Bool) : List (String × String) :=
  [clearedCookie sessionCookieName "/api/v1" "; HttpOnly" secure,
    clearedCookie csrfCookieName "/" "" secure]

/-- `should_clear_logout_cookies`. -/
def shouldClearLogoutCookies (response : Response) : Bool :=
  request.path = "/api/v1/auth/logout" && isSuccess response.status

/-- `persist_request_audit_outcome`. -/
def persistRequestAuditOutcome (auditId : Option Uuid) (status : Nat) : Serve Unit :=
  match auditId with
  | none => return ()
  | some auditId => do
    if !server.repositories then return ()
    else
      let _ : Option Bool ← perform (.updateAuditEventStatus auditId status
        (if isSuccess status then "completed" else "failed"))
      return ()

/-- The answer with the headers that are added to it. -/
def withHeaders (response : Response) (requestId : Uuid) : Response where
  status := response.status
  headers :=
    let headers := ("x-request-id", String.ofList requestId.toText)
      :: response.headers.filter fun header => header.1 ≠ "x-request-id"
    if shouldClearLogoutCookies request response then
      headers ++ clearedSessionCookieHeaders server.secureCookies
    else headers
  error := response.error

/-- `finalize_request_response`. -/
def finalizeRequestResponse (response : Response) (requestId : Uuid) (auditId : Option Uuid) :
    Serve Response := do
  let response := withHeaders server request response requestId
  persistRequestAuditOutcome server auditId response.status
  return response

/-- The guard that a write holds while no backup may begin. -/
def backupReadGuard : Serve Unit := do
  if isWriteMethod request.method && request.path ≠ "/api/v1/admin/backups" then
    perform .backupGate
  else return ()

/-- `request_middleware`. -/
def requestMiddleware : Serve Response := do
  let requestId ← requestIdOf request
  let (role, actor) ← authenticateRequest server hash request requestId
  backupReadGuard request
  let auditId ← reserveRequestAudit server request actor requestId
  let response : Response ← perform (.run (serve request.method request.path) role actor)
  finalizeRequestResponse server request response requestId auditId

end Lxcup.Access
