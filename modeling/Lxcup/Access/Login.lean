import Lxcup.Access.Guarded
import Lxcup.Auth.Passwords

/-!
# Logins

`auth_login` looks a user up, verifies the password, and opens a session: an entry in the audit log,
the session itself, and the outcome in the log, each by a statement of its own that may fail.  The
token goes to the client in a cookie, and its hash to the database.

## Main definitions

* `checkLogin`, `openSession`, `authLogin` — the function of the source, in two halves.
* `LoginPermits`, `LoggedIn`, `NotLoggedIn` — what holds of its calls and at the end.

## Main results

* `ensures_authLogin` — what holds of every run.
-/

namespace Lxcup.Access

open Lxcup.Lib Lxcup.Core Lxcup.Agent Lxcup.Auth Lxcup.Server

/-- A request to log in. -/
structure AuthLoginRequest where
  username : String
  password : String
  requestId : Uuid
  deriving DecidableEq, Repr

/-- A byte of a name. -/
def isUsernameChar (c : Char) : Bool := isAsciiAlphanumeric c || c ∈ ['.', '_', '-']

/-- `normalize_username`. -/
def normalizeUsername (username : String) : Option String :=
  let username := trim username.toList
  if username = [] || (String.ofList username).utf8ByteSize > 64
      || !username.all isUsernameChar then
    none
  else some (String.ofList (toAsciiLowercase username))

/-- `DUMMY_PASSWORD_HASH`. -/
def dummyPasswordHash : String :=
  "pbkdf2-sha256$600000$00000000000000000000000000000000$" ++
    "0000000000000000000000000000000000000000000000000000000000000000"

/-- `SESSION_LIFETIME_SECONDS`. -/
def sessionLifetimeSeconds : Nat := 8 * 60 * 60

/-- `SESSION_LIFETIME_HOURS`. -/
def sessionLifetime : Timestamp := 8 * 60 * 60 * 1000000000

/-- The text of a new token: two ids without hyphens. -/
def tokenText (token : Uuid × Uuid) : String :=
  String.ofList (toHex 32 token.1.bits.toNat ++ toHex 32 token.2.bits.toNat)

/-- The header for a cookie of a session. -/
def sessionCookie (name value path attributes : String) (secure : Bool) : String × String :=
  ("set-cookie", name ++ "=" ++ value ++ "; Path=" ++ path ++ "; Max-Age="
    ++ toString sessionLifetimeSeconds ++ attributes ++ "; SameSite=Strict"
    ++ if secure then "; Secure" else "")

/-- `session_cookie_headers`. -/
def sessionCookieHeaders (sessionToken csrfToken : String) (secure : Bool) :
    List (String × String) :=
  [sessionCookie sessionCookieName sessionToken "/api/v1" "; HttpOnly" secure,
    sessionCookie csrfCookieName csrfToken "/" "" secure]

section Source

variable (server : Server) (hash : String → String) (derive : KeyDerivation)
  (request : AuthLoginRequest)

/-- The entry for a login that has failed. -/
def failedLoginEvent (username : Option String) (id : Uuid) (createdAt : Timestamp) :
    AuthAuditEvent where
  id
  actorUserId := none
  actorUsername := username.getD "unknown"
  actorRole := .user
  action := "auth.login_failed"
  resourceType := "session"
  resourceId := none
  requestId := some request.requestId
  statusCode := 401
  details := ⟨none, none, none⟩
  createdAt

/-- `record_failed_login`, and the answer after it. -/
def recordFailedLogin {α : Type} (username : Option String) : Serve α := do
  let id : Uuid ← perform .newEventId
  let now : Timestamp ← perform .now
  let written : Bool ← perform (.appendAuditEvent (failedLoginEvent request username id now))
  .require written (ofApiError .storage)
  .fail (ofApiError .unauthorized)

/-- A password is verified although there is no user for it, and the login fails. -/
def refuseLogin {α : Type} (username : Option String) : Serve α := do
  let _ : Bool ← perform (.verifyPassword request.password dummyPasswordHash)
  recordFailedLogin request username

/-- The first half of `auth_login`: the user who has given the password. -/
def checkLogin : Serve LoginUser := do
  if !server.accountAuthEnabled then
    .fail (ofApiError (.notFound "account authentication is disabled"))
  else if request.password.utf8ByteSize > 1024 then .fail (ofApiError .unauthorized)
  else if !server.repositories then .fail (ofApiError .storage)
  else
    match normalizeUsername request.username with
    | none => refuseLogin request none
    | some username => do
      let user : Option (Option LoginUser) ← perform (.userByUsername username)
      let user ← .ofOption user (ofApiError .storage)
      match user.filter fun user => !user.disabled with
      | none => refuseLogin request (some username)
      | some user => do
        let joined : Bool ← perform (.verifyPassword request.password user.passwordHash)
        .require joined (ofApiError .storage)
        if verifyPassword derive request.password user.passwordHash then return user
        else recordFailedLogin request (some username)

/-- The entry for a login. -/
def loginEvent (user : LoginUser) (id : Uuid) (createdAt : Timestamp) : AuthAuditEvent where
  id
  actorUserId := some user.id
  actorUsername := user.username
  actorRole := user.role
  action := "auth.login"
  resourceType := "session"
  resourceId := none
  requestId := some request.requestId
  statusCode := 102
  details := ⟨none, some "pending", none⟩
  createdAt

/-- What a new session is made of. -/
structure SessionDraft where
  accessToken : Uuid × Uuid
  csrfToken : Uuid × Uuid
  expiresAt : Timestamp
  auditId : Uuid
  createdAt : Timestamp
  deriving DecidableEq, Repr

def draftSession : Serve SessionDraft := do
  let accessToken : Uuid × Uuid ← perform .newToken
  let csrfToken : Uuid × Uuid ← perform .newToken
  let now : Timestamp ← perform .now
  let auditId : Uuid ← perform .newEventId
  let createdAt : Timestamp ← perform .now
  return ⟨accessToken, csrfToken, now + sessionLifetime, auditId, createdAt⟩

/-- The session is saved, and the outcome is written to the log; a session whose login is not in
the log is revoked. -/
def storeSession (user : LoginUser) (draft : SessionDraft) : Serve Response := do
  let tokenHash := hash (tokenText draft.accessToken)
  let saved : Bool ← perform (.saveSession user.id tokenHash draft.expiresAt)
  if !saved then
    let _ : Option Bool ← perform (.updateAuditEventStatus draft.auditId 500 "failed")
    .fail (ofApiError .storage)
  else
    let updated : Option Bool ← perform (.updateAuditEventStatus draft.auditId 200 "completed")
    if updated ≠ some true then
      let _ : Bool ← perform (.revokeSession tokenHash)
      .fail (ofApiError .storage)
    else
      return ⟨200, sessionCookieHeaders (tokenText draft.accessToken) (tokenText draft.csrfToken)
        server.secureCookies, none⟩

/-- The second half of `auth_login`: a session for the user. -/
def openSession (user : LoginUser) : Serve Response := do
  let draft ← draftSession
  let written : Bool ← perform (.appendAuditEvent
    (loginEvent request user draft.auditId draft.createdAt))
  .require written (ofApiError .storage)
  storeSession server hash user draft

/-- `auth_login`. -/
def authLogin : Serve Response := do
  let user ← checkLogin server derive request
  openSession server hash request user

end Source

section Statement

variable (server : Server) (hash : String → String) (derive : KeyDerivation)
  (request : AuthLoginRequest)

/-- The user was found under the name of the request, is enabled, and has the password. -/
structure Proven (seen : List ServerExchange) (user : LoginUser) : Prop where
  found : ∃ username, normalizeUsername request.username = some username
    ∧ ⟨.userByUsername username, some (some user)⟩ ∈ seen
  enabled : user.disabled = false
  verified : verifyPassword derive request.password user.passwordHash = true

/-- The call opens a session. -/
def ServerCall.IsSave : ServerCall → Prop
  | saveSession .. => True
  | _ => False

/-- The login of a user is in the log, as a pending one. -/
def LoginReserved (user : LoginUser) (id : Uuid) (seen : List ServerExchange) : Prop :=
  ∃ createdAt, ⟨.appendAuditEvent (loginEvent request user id createdAt), true⟩ ∈ seen

/-- The token is new, and the session ends when its time is over. -/
structure Drafted (seen : List ServerExchange) (draft : SessionDraft) : Prop where
  token : ⟨.newToken, draft.accessToken⟩ ∈ seen
  expires : ∃ now, ⟨.now, now⟩ ∈ seen ∧ draft.expiresAt = now + sessionLifetime

/-- A session may be opened for the user. -/
structure Opens (seen : List ServerExchange) (user : LoginUser) (draft : SessionDraft) :
    Prop where
  proven : Proven derive request seen user
  drafted : Drafted seen draft
  reserved : LoginReserved request user draft.auditId seen

/-- The entry is one for a login of the user, or for one that has failed. -/
def LoginEntryFor (seen : List ServerExchange) (event : AuthAuditEvent) : Prop :=
  (∃ user id createdAt, Proven derive request seen user
      ∧ event = loginEvent request user id createdAt)
    ∨ ∃ username id createdAt, event = failedLoginEvent request username id createdAt

/-- What has to be so before a call. -/
structure LoginPermits (seen : List ServerExchange) (call : ServerCall) : Prop where
  notRun : ¬call.IsRun
  /-- At most one session is opened, and only for a user with the password. -/
  once : call.IsSave → All (fun call => ¬call.IsSave) seen
  opens : ∀ userId tokenHash expiresAt, call = .saveSession userId tokenHash expiresAt →
    ∃ user draft, userId = user.id ∧ tokenHash = hash (tokenText draft.accessToken)
      ∧ expiresAt = draft.expiresAt ∧ Opens derive request seen user draft
  entry : ∀ event, call = .appendAuditEvent event → LoginEntryFor derive request seen event
  /-- The outcome in the log is whether the session was saved. -/
  outcome : ∀ id status state, call = .updateAuditEventStatus id status state →
    ∃ user draft before saved, Opens derive request before user draft ∧ id = draft.auditId
      ∧ seen = before ++ [⟨.saveSession user.id (hash (tokenText draft.accessToken))
          draft.expiresAt, saved⟩]
      ∧ status = (if saved then 200 else 500)
      ∧ state = if saved then "completed" else "failed"

/-- The call has a password verified. -/
def ServerCall.verifies : ServerCall → Bool
  | verifyPassword .. => true
  | _ => false

/-- How many passwords were verified. -/
def verifications (seen : List ServerExchange) : Nat :=
  seen.countP fun exchange => exchange.1.verifies

/-- No session was opened. -/
def NoSession (seen : List ServerExchange) : Prop :=
  ∀ userId tokenHash expiresAt saved,
    ⟨.saveSession userId tokenHash expiresAt, saved⟩ ∈ seen → saved = false

/-- A login that has succeeded: a user with the password, whose session was saved and whose login is
in the log, gets the token of the session. -/
def LoggedIn (seen : List ServerExchange) (response : Response) : Prop :=
  ∃ user draft, Opens derive request seen user draft
    ∧ ⟨.saveSession user.id (hash (tokenText draft.accessToken)) draft.expiresAt, true⟩ ∈ seen
    ∧ ⟨.updateAuditEventStatus draft.auditId 200 "completed", some true⟩ ∈ seen
    ∧ response = ⟨200, sessionCookieHeaders (tokenText draft.accessToken)
        (tokenText draft.csrfToken) server.secureCookies, none⟩

/-- Why a login has failed. -/
inductive NotLoggedIn (seen : List ServerExchange) : Response → Prop
  | disabled (h : server.accountAuthEnabled = false) (hseen : seen = []) :
    NotLoggedIn seen (ofApiError (.notFound "account authentication is disabled"))
  /-- No password is verified that is too long. -/
  | tooLong (h : 1024 < request.password.utf8ByteSize) (hseen : seen = []) :
    NotLoggedIn seen (ofApiError .unauthorized)
  /-- As many passwords are verified for a user who is there as for one who is not. -/
  | refused (h : All (fun call => ¬call.IsSave) seen) (hverified : verifications seen = 1)
    (hlogged : ∃ username id createdAt,
      ⟨.appendAuditEvent (failedLoginEvent request username id createdAt), true⟩ ∈ seen) :
    NotLoggedIn seen (ofApiError .unauthorized)
  | storage (h : NoSession seen) : NotLoggedIn seen (ofApiError .storage)
  | revoked (tokenHash : String) (answer : Bool)
    (h : ⟨.revokeSession tokenHash, answer⟩ ∈ seen) (hother : ∀ userId tokenHash' expiresAt saved,
      ⟨.saveSession userId tokenHash' expiresAt, saved⟩ ∈ seen → tokenHash' = tokenHash) :
    NotLoggedIn seen (ofApiError .storage)

end Statement

/-! ### The first half -/

section Check

variable {server : Server} {derive : KeyDerivation} {request : AuthLoginRequest}
  {seen : List ServerExchange}

/-- What is called to find out who logs in. -/
structure LooksUp (request : AuthLoginRequest) (call : ServerCall) : Prop where
  notRun : ¬call.IsRun
  notSave : ¬call.IsSave
  notUpdate : ∀ id status state, call ≠ .updateAuditEventStatus id status state
  entry : ∀ event, call = .appendAuditEvent event →
    ∃ username id createdAt, event = failedLoginEvent request username id createdAt

/-- A call that only reads, or draws something new. -/
theorem LooksUp.of_reads {request : AuthLoginRequest} {call : ServerCall} (hrun : ¬call.IsRun)
    (hsave : ¬call.IsSave) (hlog : ¬call.IsLog) : LooksUp request call where
  notRun := hrun
  notSave := hsave
  notUpdate id status state hcall := hlog (by rw [hcall]; trivial)
  entry event hcall := absurd (by rw [hcall]; trivial) hlog

/-- A part of the first half. -/
abbrev Looks (server : Server) (request : AuthLoginRequest) {α : Type}
    (ok : List ServerExchange → α → Prop) (p : Serve α) (seen : List ServerExchange) : Prop :=
  Process.Only (LooksUp request) (fun more response =>
    All (LooksUp request) more → NotLoggedIn server request more response) ok p seen

theorem noSession_of_looksUp (h : All (LooksUp request) seen) : NoSession seen :=
  fun _ _ _ _ hmem => absurd trivial (h _ hmem).notSave

theorem verifications_concat (exchange : ServerExchange) :
    verifications (seen ++ [exchange])
      = verifications seen + if exchange.1.verifies then 1 else 0 := by
  rw [verifications, List.countP_append, List.countP_singleton]
  rfl

theorem storage_of_looksUp (h : All (LooksUp request) seen) :
    NotLoggedIn server request seen (ofApiError .storage) :=
  .storage (noSession_of_looksUp h)

theorem looks_recordFailedLogin {α : Type} {ok : List ServerExchange → α → Prop}
    {username : Option String} (hverified : verifications seen = 1) :
    Looks server request ok (recordFailedLogin request username) seen := by
  have hcall : ∀ call : ServerCall, (call = .newEventId ∨ call = .now) → LooksUp request call := by
    rintro call (rfl | rfl) <;> exact .of_reads False.elim False.elim False.elim
  refine (Process.only_call_eq (hcall _ (.inl rfl))).bind ?_
  rintro _ eventId - rfl
  refine (Process.only_call_eq (hcall _ (.inr rfl))).bind ?_
  rintro _ createdAt - rfl
  have hentry : LooksUp request
      (.appendAuditEvent (failedLoginEvent request username eventId createdAt)) := by
    refine ⟨False.elim, False.elim, fun _ _ _ hcall => (nomatch hcall), fun event hevent => ?_⟩
    exact ⟨username, eventId, createdAt, (ServerCall.appendAuditEvent.inj hevent).symm⟩
  refine (Process.only_call_eq hentry).bind ?_
  rintro _ written - rfl
  refine Process.only_require_of (fun _ hall => storage_of_looksUp hall) fun hwritten => ?_
  subst hwritten
  refine Process.only_fail fun hall => .refused ?_ ?_
    ⟨username, eventId, createdAt, List.mem_append_right _ List.mem_cons_self⟩
  · exact fun exchange hmem => (hall exchange hmem).notSave
  · rw [verifications_concat, verifications_concat, verifications_concat, hverified]
    rfl

theorem looksUp_verifyPassword (password encoded : String) :
    LooksUp request (.verifyPassword password encoded) :=
  .of_reads False.elim False.elim False.elim

theorem looks_refuseLogin {α : Type} {ok : List ServerExchange → α → Prop}
    {username : Option String} (hverified : verifications seen = 0) :
    Looks server request ok (refuseLogin request username) seen := by
  refine (Process.only_call_eq (looksUp_verifyPassword _ _)).bind ?_
  rintro _ joined - rfl
  refine looks_recordFailedLogin ?_
  rw [verifications_concat, hverified]
  rfl

/-- **Who has given the password** is found out without opening a session. -/
theorem looks_checkLogin :
    Looks server request (fun more user => Proven derive request more user)
      (checkLogin server derive request) [] := by
  unfold checkLogin
  split
  case isTrue hdisabled =>
    exact Process.only_fail fun _ => .disabled (by simpa using hdisabled) rfl
  case isFalse =>
    split
    case isTrue hlong => exact Process.only_fail fun _ => .tooLong hlong rfl
    case isFalse =>
      split
      case isTrue => exact Process.only_fail fun hall => storage_of_looksUp hall
      case isFalse =>
        split
        case h_1 => exact looks_refuseLogin rfl
        case h_2 username husername =>
          refine (Process.only_call_eq (.of_reads False.elim False.elim False.elim)).bind ?_
          rintro _ answer - rfl
          refine Process.only_ofOption (fun hall => storage_of_looksUp hall) fun user? huser => ?_
          subst huser
          split
          case h_1 => exact looks_refuseLogin rfl
          case h_2 user huser =>
            obtain ⟨rfl, henabled⟩ := Option.filter_eq_some_iff.mp huser
            refine (Process.only_call_eq (looksUp_verifyPassword _ _)).bind ?_
            rintro _ joined - rfl
            refine Process.only_require (fun hall => storage_of_looksUp hall) fun _ => ?_
            split
            case isTrue hverified =>
              exact Process.only_pure ⟨⟨username, husername, by simp⟩, by simpa using henabled,
                hverified⟩
            case isFalse => exact looks_recordFailedLogin rfl

end Check

/-! ### The second half -/

section Open

variable {server : Server} {hash : String → String} {derive : KeyDerivation}
  {request : AuthLoginRequest} {seen more : List ServerExchange} {user : LoginUser}

theorem LooksUp.permits {call : ServerCall} (h : LooksUp request call)
    (seen : List ServerExchange) : LoginPermits hash derive request seen call where
  notRun := h.notRun
  once hsave := absurd hsave h.notSave
  opens userId tokenHash expiresAt hcall := absurd (by rw [hcall]; trivial) h.notSave
  entry event hcall := .inr (h.entry event hcall)
  outcome id status state hcall := absurd hcall (h.notUpdate id status state)

theorem Proven.mono (h : Proven derive request seen user) (hle : seen <+: more) :
    Proven derive request more user := by
  obtain ⟨⟨username, hname, hfound⟩, henabled, hverified⟩ := h
  exact ⟨⟨username, hname, hle.subset hfound⟩, henabled, hverified⟩

theorem Opens.mono {draft : SessionDraft} (h : Opens derive request seen user draft)
    (hle : seen <+: more) : Opens derive request more user draft := by
  obtain ⟨hproven, ⟨htoken, now, hnow, hexpires⟩, createdAt, hreserved⟩ := h
  exact ⟨hproven.mono hle, ⟨hle.subset htoken, now, hle.subset hnow, hexpires⟩, createdAt,
    hle.subset hreserved⟩

theorem looks_draftSession : Looks server request Drafted draftSession seen := by
  have hcalls : ∀ (call : ServerCall) (more : List ServerExchange),
      (call = .newToken ∨ call = .newEventId ∨ call = .now) →
      Looks server request (fun more answer => ⟨call, answer⟩ ∈ more) (perform call) more := by
    rintro call more (rfl | rfl | rfl) <;>
      exact Process.only_call (.of_reads False.elim False.elim False.elim)
  refine (hcalls _ _ (.inl rfl)).bind fun s₁ token _ htoken => ?_
  refine (hcalls _ _ (.inl rfl)).bind fun s₂ csrfToken h₂ _ => ?_
  refine (hcalls _ _ (.inr (.inr rfl))).bind fun s₃ now h₃ hnow => ?_
  refine (hcalls _ _ (.inr (.inl rfl))).bind fun s₄ id h₄ _ => ?_
  refine (hcalls _ _ (.inr (.inr rfl))).bind fun s₅ createdAt h₅ _ => ?_
  have hafter : s₃ <+: s₅ := h₄.trans h₅
  exact Process.only_pure ⟨((h₂.trans h₃).trans hafter).subset htoken, now, hafter.subset hnow, rfl⟩

/-- The session that was saved is the only one. -/
theorem eq_of_mem_saved {others : List ServerExchange} {userId userId' : Uuid}
    {tokenHash tokenHash' : String} {expiresAt expiresAt' : Timestamp} {saved saved' : Bool}
    (hsave : All (fun call => ¬call.IsSave) seen) (hothers : All (fun call => ¬call.IsSave) others)
    (hmem : ⟨.saveSession userId tokenHash expiresAt, saved⟩
      ∈ seen ++ [⟨.saveSession userId' tokenHash' expiresAt', saved'⟩] ++ others) :
    tokenHash = tokenHash' ∧ saved = saved' := by
  obtain hmem | hmem := List.mem_append.mp hmem
  · obtain hmem | hmem := List.mem_append.mp hmem
    · exact absurd trivial (hsave _ hmem)
    · cases List.mem_singleton.mp hmem
      exact ⟨rfl, rfl⟩
  · exact absurd trivial (hothers _ hmem)

/-- A call that neither opens a session nor writes to the log. -/
theorem permits_revokeSession (tokenHash : String) :
    LoginPermits hash derive request seen (.revokeSession tokenHash) :=
  ⟨False.elim, False.elim, fun _ _ _ hcall => (nomatch hcall), fun _ hcall => (nomatch hcall),
    fun _ _ _ hcall => (nomatch hcall)⟩

/-- **The session is saved, or not, and the outcome is in the log.** -/
theorem ensures_storeSession {draft : SessionDraft} (hopens : Opens derive request seen user draft)
    (hsave : All (fun call => ¬call.IsSave) seen) :
    (storeSession server hash user draft).Ensures record (LoginPermits hash derive request)
      (fun seen _ => LoggedIn server hash derive request seen)
      (fun seen _ => NotLoggedIn server request seen) () seen := by
  have hpermits : LoginPermits hash derive request seen
      (.saveSession user.id (hash (tokenText draft.accessToken)) draft.expiresAt) := by
    refine ⟨False.elim, fun _ => hsave, fun userId tokenHash expiresAt hcall => ?_,
      fun _ hcall => (nomatch hcall), fun _ _ _ hcall => (nomatch hcall)⟩
    obtain ⟨rfl, rfl, rfl⟩ := ServerCall.saveSession.inj hcall
    exact ⟨user, draft, rfl, rfl, rfl, hopens⟩
  refine Process.ensures_call_bind hpermits fun saved => ?_
  have houtcome : LoginPermits hash derive request
      (seen ++ [⟨.saveSession user.id (hash (tokenText draft.accessToken)) draft.expiresAt,
        saved⟩])
      (.updateAuditEventStatus draft.auditId (if saved then 200 else 500)
        (if saved then "completed" else "failed")) := by
    refine ⟨False.elim, False.elim, fun _ _ _ hcall => (nomatch hcall),
      fun _ hcall => (nomatch hcall), fun id status state hcall => ?_⟩
    obtain ⟨hid, hstatus, hstate⟩ := ServerCall.updateAuditEventStatus.inj hcall
    exact ⟨user, draft, seen, saved, hopens, hid.symm, rfl, hstatus.symm, hstate.symm⟩
  cases saved with
  | false =>
    refine Process.ensures_call_bind houtcome fun written => ?_
    exact .storage fun userId tokenHash expiresAt saved hmem =>
      (eq_of_mem_saved hsave (all_nil.concat id written) hmem).2
  | true =>
    refine Process.ensures_call_bind houtcome fun updated => ?_
    split
    case isTrue =>
      refine Process.ensures_call_bind (permits_revokeSession _) fun revoked => ?_
      refine .revoked _ revoked (List.mem_append_right _ List.mem_cons_self)
        fun userId tokenHash expiresAt saved hmem => ?_
      rw [List.append_assoc] at hmem
      exact (eq_of_mem_saved hsave ((all_nil.concat id updated).concat id revoked) hmem).1
    case isFalse hupdated =>
      obtain rfl := not_not.mp hupdated
      refine ⟨user, draft, hopens.mono ?_, ?_, List.mem_append_right _ List.mem_cons_self, rfl⟩
      · rw [List.append_assoc]
        exact List.prefix_append seen _
      · exact List.mem_append_left _ (List.mem_append_right _ List.mem_cons_self)

/-- **A login is in the log before there is a session for it**, which is for a user who has given
the password; a token is handed out when the log tells that the login is completed; and when a login
fails, no session is left that was not revoked. -/
theorem ensures_authLogin (server : Server) (hash : String → String) (derive : KeyDerivation)
    (request : AuthLoginRequest) :
    (authLogin server hash derive request).Ensures record (LoginPermits hash derive request)
      (fun seen _ response => LoggedIn server hash derive request seen response)
      (fun seen _ response => NotLoggedIn server request seen response) () [] := by
  have hpre : ∀ (more : List ServerExchange) (call : ServerCall), All (LooksUp request) more →
      LooksUp request call → LoginPermits hash derive request ([] ++ more) call :=
    fun more call _ hcall => hcall.permits more
  have hfail : ∀ (more : List ServerExchange) (e : Response), All (LooksUp request) more →
      (All (LooksUp request) more → NotLoggedIn server request more e) →
      NotLoggedIn server request ([] ++ more) e := fun more e hmore he => he hmore
  change (checkLogin server derive request >>= fun _ => _).Ensures _ _ _ _ () ([] ++ [])
  refine looks_checkLogin.ensures_bind all_nil hpre hfail fun more user _ hmore hproven => ?_
  refine looks_draftSession.ensures_bind hmore hpre hfail fun more draft hle hmore hdrafted => ?_
  replace hproven := hproven.mono hle
  have hentry : LoginPermits hash derive request more
      (.appendAuditEvent (loginEvent request user draft.auditId draft.createdAt)) := by
    refine ⟨False.elim, False.elim, fun _ _ _ hcall => (nomatch hcall),
      fun event hcall => .inl ?_, fun _ _ _ hcall => (nomatch hcall)⟩
    exact ⟨user, draft.auditId, draft.createdAt, hproven,
      (ServerCall.appendAuditEvent.inj hcall).symm⟩
  refine Process.ensures_call_bind hentry fun written => ?_
  have hsave : All (fun call => ¬call.IsSave) more := fun exchange hmem =>
    (hmore exchange hmem).notSave
  replace hsave := hsave.concat id written
  refine Process.ensures_bind.mpr ((Process.ensures_require _ _).mpr ?_)
  split
  case isFalse =>
    exact .storage fun userId tokenHash expiresAt saved hmem => absurd trivial (hsave _ hmem)
  case isTrue hwritten =>
    subst hwritten
    refine ensures_storeSession
      ⟨hproven.mono (List.prefix_append _ _), ?_, draft.createdAt, ?_⟩ hsave
    · obtain ⟨htoken, now, hnow, hexpires⟩ := hdrafted
      exact ⟨List.mem_append_left _ htoken, now, List.mem_append_left _ hnow, hexpires⟩
    · exact List.mem_append_right _ List.mem_cons_self

end Open

end Lxcup.Access
