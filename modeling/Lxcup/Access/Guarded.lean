import Lxcup.Access.Matrix
import Lxcup.Access.Middleware
import Lxcup.Lib.Recorded

/-!
# Requests are handled only under the rules

What holds of every run of the middleware, whatever the request and whatever the database, the
clocks and the functions answer, and wherever the run is stopped.

A function is called at most once, for a user with a session or for a role with a token that grants
what the function needs, or because everybody may call it.  Before a user changes anything, the log
has an entry that names the user and what is about to be done.  A request that is not handled is
refused for one of the reasons below.

## Main definitions

* `SignedIn`, `Entitled` — for whom a function may be called.
* `IdOf`, `Reserved` — the entry that a user's request has in the log before it is handled.
* `Permits` — what has to be so before a call.
* `Refusal` — why a request is refused.

## Main results

* `ensures_requestMiddleware` — what holds of every run.
-/

namespace Lxcup.Access

open Lxcup.Lib Lxcup.Core Lxcup.Auth Lxcup.Server

/-- An exchange of the middleware. -/
abbrev ServerExchange := Exchange ServerCall ServerCall.Answer

/-- The user of a session. -/
def PersistedAuthSession.actor (session : PersistedAuthSession) (tokenHash : String) :
    AuthenticatedUser where
  id := session.userId
  username := session.username
  role := session.role
  mustChangePassword := session.mustChangePassword
  tokenHash := tokenHash
  expiresAt := session.expiresAt

section Statement

variable (server : Server) (hash : String → String) (request : Request)

/-- The request shows the token of a session of the user; when the token is in a cookie, a request
that is not safe has to show another one. -/
structure SignedIn (seen : List ServerExchange) (account : AuthenticatedUser)
    (cookieAuthenticated : Bool) : Prop where
  session : ∃ token session, sessionCredential request.headers = some (token, cookieAuthenticated)
    ∧ ⟨.sessionByTokenHash (hash token), some (some session)⟩ ∈ seen
    ∧ account = session.actor (hash token)

/-- The request comes from the pages of the server. -/
def SameSite (cookieAuthenticated : Bool) : Prop :=
  cookieAuthenticated = true → isUnsafeMethod request.method = true →
    validCsrfRequest request.headers = true

/-- The role grants what the function needs. -/
def Granted (handler : Handler) (role : ActorRole) : Prop :=
  (∀ permission ∈ handler.needs, role.grants permission = true)
    ∧ (request.method = .patch → endsDestructive request.path = true →
        role.grants .destructive = true)

/-- A function may be called for the role and the user. -/
def Entitled (handler : Handler) (seen : List ServerExchange) (role : Option ActorRole)
    (actor : Option AuthenticatedUser) : Prop :=
  if server.accountAuthEnabled then
    ∃ account cookieAuthenticated, actor = some account ∧ role = some (actorRole account.role)
      ∧ SignedIn hash request seen account cookieAuthenticated
      ∧ SameSite request cookieAuthenticated
      ∧ (account.mustChangePassword = true → handler.changesPassword = true)
      ∧ (handler.adminOnly = true → account.role = .admin)
      ∧ Granted request handler (actorRole account.role)
  else
    actor = none ∧ ∃ legacy now, role = some legacy ∧ ⟨.now, now⟩ ∈ seen
      ∧ server.auth.role request.headers now = some legacy ∧ Granted request handler legacy

/-- The call lets the request be handled. -/
def ServerCall.IsRun : ServerCall → Prop
  | run .. => True
  | _ => False

/-- The call writes to the log. -/
def ServerCall.IsLog : ServerCall → Prop
  | appendAuditEvent _ | updateAuditEventStatus .. => True
  | _ => False

/-- The id is the one that has come with the request, or else a new one. -/
def IdOf (requestId : Uuid) (seen : List ServerExchange) : Prop :=
  match suppliedRequestId request with
  | some supplied => requestId = supplied
  | none => ⟨.newRequestId, requestId⟩ ∈ seen

/-- The log has an entry for what the user is about to do. -/
def Reserved (actor : AuthenticatedUser) (id : Uuid) (seen : List ServerExchange) : Prop :=
  ∃ requestId now, IdOf request requestId seen ∧ ⟨.appendAuditEvent
    (requestAuditEvent actor request.method request.path requestId 102 id now), true⟩ ∈ seen

/-- The entry is one for the request, which is pending or was refused. -/
def EntryFor (request : Request) (event : AuthAuditEvent) : Prop :=
  ∃ actor requestId status id now, (status = 102 ∨ status = 403)
    ∧ event = requestAuditEvent actor request.method request.path requestId status id now

/-- What has to be so before a call. -/
structure Permits (seen : List ServerExchange) (call : ServerCall) : Prop where
  /-- A function is called at most once, and only under the rules. -/
  once : call.IsRun → All (fun call => ¬call.IsRun) seen
  entitled : ∀ served role actor, call = .run served role actor →
    served = serve request.method request.path ∧ ∀ handler, served = .handler handler →
      handler.isPublic server.accountAuthEnabled = false →
        Entitled server hash request handler seen role actor
  /-- What a user changes is in the log before. -/
  reserved : ∀ served role account, call = .run served role (some account) →
    isWriteMethod request.method = true → ∃ id, Reserved request account id seen
  entry : ∀ event, call = .appendAuditEvent event → EntryFor request event
  /-- The outcome that is written to the log is the one of the function. -/
  outcome : ∀ id status state, call = .updateAuditEventStatus id status state →
    ∃ account response before role,
      seen = before ++ [⟨.run (serve request.method request.path) role (some account), response⟩]
        ∧ Reserved request account id before ∧ status = response.status
        ∧ state = if isSuccess response.status then "completed" else "failed"

/-- A request was answered by the function. -/
def Handled (seen : List ServerExchange) (response : Response) : Prop :=
  ∃ role actor inner,
    ⟨.run (serve request.method request.path) role actor, inner⟩ ∈ seen
      ∧ response.status = inner.status
      ∧ ∀ account, actor = some account → isWriteMethod request.method = true →
          ∃ id state written, ⟨.updateAuditEventStatus id inner.status state, written⟩ ∈ seen

/-- A refused request of a user is in the log, if the database has taken it. -/
def Noted (actor : AuthenticatedUser) (seen : List ServerExchange) : Prop :=
  server.repositories = true → ∃ requestId id now written, IdOf request requestId seen
    ∧ ⟨.appendAuditEvent
      (requestAuditEvent actor request.method request.path requestId 403 id now), written⟩ ∈ seen

/-- A call to the database has failed, or there is no database. -/
def StorageFails (seen : List ServerExchange) : Prop :=
  server.repositories = false
    ∨ (∃ tokenHash, ⟨.sessionByTokenHash tokenHash, none⟩ ∈ seen)
    ∨ ∃ event, ⟨.appendAuditEvent event, false⟩ ∈ seen

/-- Why a request is refused. -/
inductive Refusal (seen : List ServerExchange) : Response → Prop
  | storage (h : StorageFails server seen) : Refusal seen (ofApiError .storage)
  /-- There is no token. -/
  | anonymous (h : sessionCredential request.headers = none) :
    Refusal seen (ofApiError .unauthorized)
  /-- The token is not that of a session. -/
  | expired (token : String) (cookieAuthenticated : Bool)
    (h : sessionCredential request.headers = some (token, cookieAuthenticated))
    (hanswer : ⟨.sessionByTokenHash (hash token), some none⟩ ∈ seen) :
    Refusal seen (ofApiError .unauthorized)
  | crossSite (account : AuthenticatedUser) (cookieAuthenticated : Bool)
    (h : SignedIn hash request seen account cookieAuthenticated)
    (hsite : ¬SameSite request cookieAuthenticated) (hnoted : Noted server request account seen) :
    Refusal seen (ofApiError (.forbidden "csrf_validation_failed"
      "the request could not be verified"))
  | passwordChange (account : AuthenticatedUser) (cookieAuthenticated : Bool)
    (h : SignedIn hash request seen account cookieAuthenticated)
    (hpassword : account.mustChangePassword = true)
    (hhandler : ∀ handler, serve request.method request.path = .handler handler →
      handler.changesPassword = false) :
    Refusal seen (ofApiError (.forbidden "password_change_required"
      "change the initial password before using the application"))
  | denied (account : AuthenticatedUser) (cookieAuthenticated : Bool)
    (h : SignedIn hash request seen account cookieAuthenticated)
    (hhandler : ∀ handler, serve request.method request.path = .handler handler →
      (handler.adminOnly = true ∧ account.role ≠ .admin)
        ∨ ¬Granted request handler (actorRole account.role))
    (hnoted : Noted server request account seen) :
    Refusal seen (ofApiError (.forbidden "permission_denied"
      "the current role cannot perform this action"))
  /-- The token is not that of a role. -/
  | noRole (now : Timestamp) (h : ⟨.now, now⟩ ∈ seen)
    (hrole : server.auth.role request.headers now = none) :
    Refusal seen (ofApiError .unauthorized)
  | roleDenied (now : Timestamp) (role : ActorRole) (h : ⟨.now, now⟩ ∈ seen)
    (hrole : server.auth.role request.headers now = some role)
    (hhandler : ∀ handler, serve request.method request.path = .handler handler →
      ¬Granted request handler role) :
    Refusal seen (ofApiError (.forbidden "permission_denied"
      "the current role cannot perform this action"))

/-- What holds when a request is not handled. -/
def Refused (seen : List ServerExchange) (response : Response) : Prop :=
  All (fun call => ¬call.IsRun) seen ∧ Refusal server hash request seen response

end Statement

/-! ### Before a request is handled -/

section Early

variable {server : Server} {hash : String → String} {request : Request}

/-- What is called before the request is handled. -/
structure Early (request : Request) (call : ServerCall) : Prop where
  notRun : ¬call.IsRun
  notUpdate : ∀ id status state, call ≠ .updateAuditEventStatus id status state
  entry : ∀ event, call = .appendAuditEvent event → EntryFor request event

/-- A call that neither lets the request be handled nor writes to the log. -/
theorem Early.of_reads {call : ServerCall} (hrun : ¬call.IsRun) (hlog : ¬call.IsLog) :
    Early request call where
  notRun := hrun
  notUpdate id status state hcall := hlog (by rw [hcall]; trivial)
  entry event hcall := absurd (by rw [hcall]; trivial) hlog

theorem Early.permits {call : ServerCall} (h : Early request call) (seen : List ServerExchange) :
    Permits server hash request seen call where
  once hrun := absurd hrun h.notRun
  entitled served role actor hcall := absurd (by rw [hcall]; trivial) h.notRun
  reserved served role account hcall := absurd (by rw [hcall]; trivial) h.notRun
  entry := h.entry
  outcome id status state hcall := absurd hcall (h.notUpdate id status state)

theorem early_append {actor : AuthenticatedUser} {requestId id : Uuid} {status : Nat}
    {now : Timestamp} (h : status = 102 ∨ status = 403) :
    Early request (.appendAuditEvent
      (requestAuditEvent actor request.method request.path requestId status id now)) := by
  refine ⟨False.elim, fun _ _ _ hcall => (nomatch hcall), fun event hcall => ?_⟩
  cases hcall
  exact ⟨actor, requestId, status, id, now, h, rfl⟩

/-- A part of the middleware before the request is handled. -/
abbrev Checks (server : Server) (hash : String → String) (request : Request) {α : Type}
    (ok : List ServerExchange → α → Prop) (p : Serve α) (seen : List ServerExchange) : Prop :=
  Process.Only (Early request) (Refusal server hash request) ok p seen

variable {seen : List ServerExchange}

theorem checks_requestIdOf :
    Checks server hash request (fun more requestId => IdOf request requestId more)
      (requestIdOf request) seen := by
  unfold requestIdOf IdOf
  cases suppliedRequestId request with
  | some supplied => exact Process.only_pure rfl
  | none => exact Process.only_call (.of_reads id id)

theorem IdOf.mono {requestId : Uuid} {more : List ServerExchange}
    (h : IdOf request requestId seen) (hle : seen <+: more) : IdOf request requestId more := by
  unfold IdOf at h ⊢
  cases hsupplied : suppliedRequestId request with
  | some supplied =>
    rw [hsupplied] at h
    exact h
  | none =>
    rw [hsupplied] at h
    exact hle.subset h

theorem checks_loadAccountActor :
    Checks server hash request (fun more account =>
        SignedIn hash request more account.1 account.2 ∧ server.repositories = true)
      (loadAccountActor server hash request) seen := by
  unfold loadAccountActor
  split
  case h_1 hnone => exact Process.only_fail (.anonymous hnone)
  case h_2 token cookieAuthenticated hcredential =>
    split
    case isTrue hrepositories =>
      exact Process.only_fail (.storage (.inl (by simpa using hrepositories)))
    case isFalse hrepositories =>
      refine (Process.only_call_eq (.of_reads id id)).bind ?_
      rintro _ session - rfl
      have hanswer : ⟨.sessionByTokenHash (hash token), session⟩
          ∈ seen ++ [⟨.sessionByTokenHash (hash token), session⟩] :=
        List.mem_append_right _ List.mem_cons_self
      match session with
      | none => exact Process.only_fail (.storage (.inr (.inl ⟨_, hanswer⟩)))
      | some none =>
        exact Process.only_fail (.expired token cookieAuthenticated hcredential hanswer)
      | some (some session) =>
        exact Process.only_pure ⟨⟨⟨token, session, hcredential, hanswer, rfl⟩⟩,
          by simpa using hrepositories⟩

theorem SignedIn.mono {more : List ServerExchange} {account : AuthenticatedUser}
    {cookieAuthenticated : Bool} (h : SignedIn hash request seen account cookieAuthenticated)
    (hle : seen <+: more) : SignedIn hash request more account cookieAuthenticated := by
  obtain ⟨token, session, hcredential, hanswer, hactor⟩ := h
  exact ⟨⟨token, session, hcredential, hle.subset hanswer, hactor⟩⟩

/-- A request that is refused with a note in the log. -/
theorem checks_auditedForbidden {α : Type} {ok : List ServerExchange → α → Prop}
    {actor : AuthenticatedUser} {requestId : Uuid} {code message : String}
    (hid : IdOf request requestId seen)
    (h : ∀ more, seen <+: more → Noted server request actor more →
      Refusal server hash request more (ofApiError (.forbidden code message))) :
    Checks server hash request ok (auditedForbidden server request actor requestId code message)
      seen := by
  have hnoted : Checks server hash request (fun more _ => Noted server request actor more)
      (appendRequestAudit server request actor requestId 403) seen := by
    unfold appendRequestAudit
    split
    case isTrue hrepositories =>
      refine Process.only_pure fun hsome => ?_
      rw [hsome] at hrepositories
      cases hrepositories
    case isFalse =>
      refine (Process.only_call (.of_reads id id)).bind fun _ eventId h₁ _ => ?_
      refine (Process.only_call (.of_reads id id)).bind fun _ now h₂ _ => ?_
      have hentry : Early request (.appendAuditEvent
          (requestAuditEvent actor request.method request.path requestId 403 eventId now)) :=
        early_append (.inr rfl)
      refine (Process.only_call hentry).bind fun _ written h₃ hwritten => ?_
      exact Process.only_pure fun _ =>
        ⟨requestId, eventId, now, written, hid.mono ((h₁.trans h₂).trans h₃), hwritten⟩
  exact hnoted.bind fun more _ hle hmore => Process.only_fail (h more hle hmore)

/-- What the rules for accounts let through. -/
structure Authorized (request : Request) (account : AuthenticatedUser)
    (cookieAuthenticated : Bool) : Prop where
  sameSite : SameSite request cookieAuthenticated
  password : account.mustChangePassword = true → isPasswordChangeAllowedPath request.path = true
  adminOnly : isAdminOnlyRoute request.path = true → account.role = .admin
  allowed : allows request.path request.method (actorRole account.role) = true

theorem checks_authorizeAccountRequest {account : AuthenticatedUser} {cookieAuthenticated : Bool}
    {requestId : Uuid} (h : SignedIn hash request seen account cookieAuthenticated)
    (hid : IdOf request requestId seen) :
    Checks server hash request (fun more role =>
        SignedIn hash request more account cookieAuthenticated
          ∧ role = actorRole account.role ∧ Authorized request account cookieAuthenticated)
      (authorizeAccountRequest server request account cookieAuthenticated requestId) seen := by
  unfold authorizeAccountRequest
  split
  case isTrue hsite =>
    refine checks_auditedForbidden hid fun more hle hnoted =>
      .crossSite account _ (h.mono hle) ?_ hnoted
    simp only [Bool.and_eq_true, Bool.not_eq_true'] at hsite
    intro hsame
    rw [hsame hsite.1.1 hsite.1.2] at hsite
    exact absurd hsite.2 (by decide)
  case isFalse hsite =>
    split
    case isTrue hpassword =>
      simp only [Bool.and_eq_true, Bool.not_eq_true'] at hpassword
      refine Process.only_fail (.passwordChange account _ h hpassword.1 fun handler hserve => ?_)
      rw [← isPasswordChangeAllowedPath_of_serve hserve, hpassword.2]
    case isFalse hpassword =>
      dsimp only
      split
      case isTrue hadmin =>
        refine checks_auditedForbidden hid fun more hle hnoted =>
          .denied account _ (h.mono hle) (fun handler hserve => .inl ?_) hnoted
        rw [← isAdminOnlyRoute_of_serve hserve]
        simpa using hadmin
      case isFalse hadmin =>
        split
        case isTrue hdenied =>
          refine checks_auditedForbidden hid fun more hle hnoted =>
            .denied account _ (h.mono hle) (fun handler hserve => .inr ?_) hnoted
          rw [Granted, ← allows_of_serve _ hserve]
          simpa using hdenied
        case isFalse hallowed =>
          refine Process.only_pure ⟨h, rfl, ?_, ?_, ?_, by simpa using hallowed⟩
          · intro hcookie hunsafe
            simpa [hcookie, hunsafe] using hsite
          · intro hchange
            simpa [hchange] using hpassword
          · intro honly
            simpa [honly] using hadmin

/-- For whom a request goes on: a user who is signed in, or a role. -/
structure Admitted (server : Server) (hash : String → String) (request : Request)
    (seen : List ServerExchange) (role : Option ActorRole) (actor : Option AuthenticatedUser) :
    Prop where
  account : server.accountAuthEnabled = true →
    isPublicRequest server.accountAuthEnabled request.path = false →
    ∃ account cookieAuthenticated, actor = some account ∧ role = some (actorRole account.role)
      ∧ SignedIn hash request seen account cookieAuthenticated
      ∧ Authorized request account cookieAuthenticated
  legacy : server.accountAuthEnabled = false →
    isPublicRequest server.accountAuthEnabled request.path = false →
    actor = none ∧ ∃ legacy now, role = some legacy ∧ ⟨.now, now⟩ ∈ seen
      ∧ server.auth.role request.headers now = some legacy
      ∧ allows request.path request.method legacy = true
  /-- There is a database where there are users. -/
  repositories : actor.isSome = true → server.repositories = true

theorem Admitted.mono {more : List ServerExchange} {role : Option ActorRole}
    {actor : Option AuthenticatedUser} (h : Admitted server hash request seen role actor)
    (hle : seen <+: more) : Admitted server hash request more role actor where
  account henabled hpublic := by
    obtain ⟨account, cookie, hactor, hrole, hsigned, hauthorized⟩ := h.account henabled hpublic
    exact ⟨account, cookie, hactor, hrole, hsigned.mono hle, hauthorized⟩
  legacy hdisabled hpublic := by
    obtain ⟨hactor, role, now, hrole, hnow, hrest⟩ := h.legacy hdisabled hpublic
    exact ⟨hactor, role, now, hrole, hle.subset hnow, hrest⟩
  repositories := h.repositories

theorem Admitted.entitled {role : Option ActorRole} {actor : Option AuthenticatedUser}
    {handler : Handler} (h : Admitted server hash request seen role actor)
    (hserve : serve request.method request.path = .handler handler)
    (hpublic : handler.isPublic server.accountAuthEnabled = false) :
    Entitled server hash request handler seen role actor := by
  rw [← isPublicRequest_of_serve _ hserve] at hpublic
  unfold Entitled
  split
  case isTrue henabled =>
    obtain ⟨account, cookie, hactor, hrole, hsigned, hauthorized⟩ := h.account henabled hpublic
    refine ⟨account, cookie, hactor, hrole, hsigned, hauthorized.sameSite, ?_, ?_,
      (allows_of_serve _ hserve).mp hauthorized.allowed⟩
    · rw [← isPasswordChangeAllowedPath_of_serve hserve]
      exact hauthorized.password
    · rw [← isAdminOnlyRoute_of_serve hserve]
      exact hauthorized.adminOnly
  case isFalse hdisabled =>
    obtain ⟨hactor, role, now, hrole, hnow, htoken, hallows⟩ :=
      h.legacy (by simpa using hdisabled) hpublic
    exact ⟨hactor, role, now, hrole, hnow, htoken, (allows_of_serve _ hserve).mp hallows⟩

theorem exists_of_authorizeLegacyRole_ok {role : Option ActorRole}
    (h : authorizeLegacyRole request role false = .ok ()) :
    ∃ legacy, role = some legacy ∧ allows request.path request.method legacy = true := by
  cases role with
  | none => cases h
  | some legacy =>
    refine ⟨legacy, rfl, ?_⟩
    cases hallows : allows request.path request.method legacy with
    | true => rfl
    | false => simp [authorizeLegacyRole, hallows] at h

theorem of_authorizeLegacyRole_error {role : Option ActorRole} {isPublic : Bool} {e : Response}
    (h : authorizeLegacyRole request role isPublic = .error e) :
    (role = none ∧ e = ofApiError .unauthorized)
      ∨ ∃ legacy, role = some legacy ∧ allows request.path request.method legacy ≠ true
        ∧ e = ofApiError (.forbidden "permission_denied"
          "the current role cannot perform this action") := by
  cases role with
  | none =>
    cases isPublic with
    | true => cases h
    | false => cases h; exact .inl ⟨rfl, rfl⟩
  | some legacy =>
    cases hallows : allows request.path request.method legacy with
    | true => simp [authorizeLegacyRole, hallows] at h
    | false =>
      cases isPublic with
      | true => simp [authorizeLegacyRole] at h
      | false =>
        simp only [authorizeLegacyRole, Option.any_some, hallows] at h
        exact .inr ⟨legacy, rfl, by simp [hallows], (Except.error.inj h).symm⟩

theorem checks_authenticateRequest {requestId : Uuid} (hid : IdOf request requestId seen) :
    Checks server hash request (fun more result =>
        Admitted server hash request more result.1 result.2)
      (authenticateRequest server hash request requestId) seen := by
  unfold authenticateRequest
  dsimp only
  split
  case isTrue hprivate =>
    rw [Bool.and_eq_true, Bool.not_eq_true'] at hprivate
    refine checks_loadAccountActor.bind ?_
    rintro more ⟨account, cookie⟩ hle ⟨hsigned, hrepositories⟩
    refine (checks_authorizeAccountRequest hsigned (hid.mono hle)).bind ?_
    rintro more' _ - ⟨hsigned', rfl, hauthorized⟩
    refine Process.only_pure ⟨fun _ _ => ?_, fun hdisabled => ?_, fun _ => hrepositories⟩
    · exact ⟨account, cookie, rfl, rfl, hsigned', hauthorized⟩
    · rw [hprivate.1] at hdisabled
      cases hdisabled
  case isFalse hpublic =>
    refine (Process.only_call (.of_reads id id)).bind fun more now _ hnow => ?_
    refine Process.only_ofExcept (fun e he => ?_) fun _ hok => Process.only_pure ?_
    · obtain ⟨hnone, rfl⟩ | ⟨legacy, hrole, hdenied, rfl⟩ := of_authorizeLegacyRole_error he
      · exact .noRole now hnow hnone
      · refine .roleDenied now legacy hnow hrole fun handler hserve => ?_
        rw [Granted, ← allows_of_serve _ hserve]
        exact hdenied
    · refine ⟨fun henabled hprivate => ?_, fun _ hprivate => ⟨rfl, ?_⟩, fun hsome => by cases hsome⟩
      · rw [henabled] at hpublic hprivate
        simp [hprivate] at hpublic
      · rw [hprivate] at hok
        obtain ⟨legacy, hrole, hallows⟩ := exists_of_authorizeLegacyRole_ok hok
        exact ⟨legacy, now, hrole, hnow, hrole, hallows⟩

/-- What is known of the entry for a request: there is one for what a user changes. -/
structure Audited (request : Request) (actor : Option AuthenticatedUser)
    (seen : List ServerExchange) (auditId : Option Uuid) : Prop where
  reserved : ∀ account, actor = some account → isWriteMethod request.method = true →
    ∃ id, auditId = some id ∧ Reserved request account id seen
  isSome : ∀ id, auditId = some id → ∃ account, actor = some account
    ∧ Reserved request account id seen

theorem checks_reserveRequestAudit {actor : Option AuthenticatedUser} {requestId : Uuid}
    (hid : IdOf request requestId seen) :
    Checks server hash request (fun more auditId => Audited request actor more auditId)
      (reserveRequestAudit server request actor requestId) seen := by
  unfold reserveRequestAudit
  split
  case h_1 hnone =>
    refine Process.only_pure ⟨fun account hactor hwrite => ?_, nofun⟩
    simp [hactor, hwrite] at hnone
  case h_2 account hsome =>
    obtain ⟨hactor, -⟩ := Option.filter_eq_some_iff.mp hsome
    refine (Process.only_call (.of_reads id id)).bind fun _ eventId h₁ _ => ?_
    refine (Process.only_call (.of_reads id id)).bind fun more now h₂ _ => ?_
    refine Process.only_require_of (fun hnone => .storage (.inl hnone)) fun _ => ?_
    have hentry : Early request (.appendAuditEvent
        (requestAuditEvent account request.method request.path requestId 102 eventId now)) :=
      early_append (.inl rfl)
    refine (Process.only_call hentry).bind fun more' written h₃ hwritten => ?_
    replace hid := hid.mono ((h₁.trans h₂).trans h₃)
    refine Process.only_require_of (fun hfailed => ?_) fun htrue => ?_
    · rw [hfailed] at hwritten
      exact .storage (.inr (.inr ⟨_, hwritten⟩))
    · rw [htrue] at hwritten
      refine Process.only_pure ⟨fun other hother _ => ?_, fun id heq => ?_⟩
      · obtain rfl := Option.some.inj (hactor.symm.trans hother)
        exact ⟨eventId, rfl, requestId, now, hid, hwritten⟩
      · obtain rfl := Option.some.inj heq
        exact ⟨account, hactor, requestId, now, hid, hwritten⟩

theorem checks_backupReadGuard :
    Checks server hash request (fun _ _ => True) (backupReadGuard request) seen := by
  unfold backupReadGuard
  split
  case isTrue => exact (Process.only_call (.of_reads id id)).mono fun _ _ _ => trivial
  case isFalse => exact Process.only_pure trivial

/-- What came of a request is written to its entry. -/
theorem permits_outcome {role : Option ActorRole} {account : AuthenticatedUser}
    {response : Response} {id : Uuid} (hreserved : Reserved request account id seen) :
    Permits server hash request
      (seen ++ [⟨.run (serve request.method request.path) role (some account), response⟩])
      (.updateAuditEventStatus id response.status
        (if isSuccess response.status then "completed" else "failed")) := by
  refine ⟨False.elim, fun _ _ _ hcall => (nomatch hcall), fun _ _ _ hcall => (nomatch hcall),
    fun _ hcall => (nomatch hcall), fun id' status state hcall => ?_⟩
  obtain ⟨hid, hstatus, hstate⟩ := ServerCall.updateAuditEventStatus.inj hcall
  exact ⟨account, response, seen, role, rfl, hid ▸ hreserved, hstatus.symm, hstate.symm⟩

/-- The answer of the function is passed on with its status. -/
theorem ensures_finalizeRequestResponse {role : Option ActorRole}
    {actor : Option AuthenticatedUser} {response : Response} {requestId : Uuid}
    {auditId : Option Uuid} (hadmitted : Admitted server hash request seen role actor)
    (haudited : Audited request actor seen auditId) :
    (finalizeRequestResponse server request response requestId auditId).Ensures record
      (Permits server hash request) (fun seen _ response => Handled request seen response)
      (fun seen _ response => Refused server hash request seen response) ()
      (seen ++ [⟨.run (serve request.method request.path) role actor, response⟩]) := by
  have hrun : ⟨.run (serve request.method request.path) role actor, response⟩
      ∈ seen ++ [⟨.run (serve request.method request.path) role actor, response⟩] :=
    List.mem_append_right _ List.mem_cons_self
  refine Process.ensures_bind.mpr ?_
  unfold persistRequestAuditOutcome
  cases auditId with
  | none =>
    refine ⟨role, actor, response, hrun, rfl, fun account hactor hwrite => ?_⟩
    obtain ⟨id, hid, -⟩ := haudited.reserved account hactor hwrite
    cases hid
  | some id =>
    obtain ⟨account, rfl, hreserved⟩ := haudited.isSome id rfl
    have hrepositories : server.repositories = true := hadmitted.repositories rfl
    simp only [hrepositories]
    refine Process.ensures_call_bind (permits_outcome hreserved) fun written => ?_
    refine ⟨role, some account, response, List.mem_append_left _ hrun, rfl, fun _ _ _ => ?_⟩
    exact ⟨id, _, written, List.mem_append_right _ List.mem_cons_self⟩

/-- **Requests are handled only under the rules**: a function is called at most once, for a user or
a role that grants what it needs, or because everybody may call it; what a user changes is in the
log before, with its outcome after; and a request that is not handled is refused for a reason. -/
theorem ensures_requestMiddleware (server : Server) (hash : String → String) (request : Request) :
    (requestMiddleware server hash request).Ensures record (Permits server hash request)
      (fun seen _ response => Handled request seen response)
      (fun seen _ response => Refused server hash request seen response) () [] := by
  have hpre : ∀ (more : List ServerExchange) (call : ServerCall), All (Early request) more →
      Early request call →
      Permits server hash request ([] ++ more) call :=
    fun more call _ hcall => hcall.permits more
  have hfail : ∀ (more : List ServerExchange) (e : Response), All (Early request) more →
      Refusal server hash request more e → Refused server hash request ([] ++ more) e :=
    fun more e hmore he => ⟨fun exchange hmem => (hmore exchange hmem).notRun, he⟩
  change (requestIdOf request >>= fun _ => _).Ensures _ _ _ _ () ([] ++ [])
  refine checks_requestIdOf.ensures_bind all_nil hpre hfail fun more requestId _ hmore hid => ?_
  refine (checks_authenticateRequest hid).ensures_bind hmore hpre hfail
    fun more result hle hmore hadmitted => ?_
  replace hid := hid.mono hle
  obtain ⟨role, actor⟩ := result
  refine checks_backupReadGuard.ensures_bind hmore hpre hfail fun more _ hle hmore _ => ?_
  replace hadmitted := hadmitted.mono hle
  refine (checks_reserveRequestAudit (hid.mono hle)).ensures_bind hmore hpre hfail
    fun more auditId hle hmore haudited => ?_
  replace hadmitted := hadmitted.mono hle
  change Process.Ensures _ _ _ _ _ () more
  have hrun : Permits server hash request more
      (.run (serve request.method request.path) role actor) := by
    refine ⟨fun _ exchange hmem => (hmore exchange hmem).notRun, ?_, ?_,
      fun _ hcall => (nomatch hcall), fun _ _ _ hcall => (nomatch hcall)⟩
    · intro served role' actor' hcall
      cases hcall
      exact ⟨rfl, fun handler hserve hpublic => hadmitted.entitled hserve hpublic⟩
    · intro served role' account hcall hwrite
      cases hcall
      obtain ⟨id, -, hreserved⟩ := haudited.reserved account rfl hwrite
      exact ⟨id, hreserved⟩
  exact Process.ensures_call_bind hrun fun response =>
    ensures_finalizeRequestResponse hadmitted haudited

end Early

end Lxcup.Access
