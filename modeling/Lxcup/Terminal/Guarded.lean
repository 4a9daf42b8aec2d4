import Lxcup.Terminal.Sessions

/-!
# What a terminal may do

What holds of every run of a terminal session, whatever the client and the machine send, whatever
the database and the clocks answer, and wherever the run is stopped.

The machine is connected to only for an admin whose request comes from the pages of the server,
with a lease on the machine and after the beginning of the session was written to the audit log.
The credential is given to a machine only that has shown a key which is known for it.  Whatever is
handed on, from the client to the machine or back, is what has just come in, and the session of the
admin was looked up again in between.  The lease is kept to the end, and then dropped once.

## Main definitions

* `Admitted`, `InSession` — for whom a terminal is opened, and what holds while it is open.
* `TerminalPermits` — what has to be so before a call.
* `Released`, `TerminalEnds` — how a request and a session end.

## Main results

* `ensures_terminalSession` — what holds of every run.
-/

namespace Lxcup.Terminal

open Lxcup.Lib Lxcup.Core Lxcup.Agent Lxcup.Auth Lxcup.Server Lxcup.Secrets Lxcup.Access

/-- An exchange of a session. -/
abbrev TerminalExchange := Exchange TerminalCall TerminalCall.Answer

/-! ### The statement -/

/-- A secret that is active, global and of one of the kinds, and its value. -/
structure ActiveSecret (seen : List TerminalExchange) (id : SecretId) (kinds : List SecretKind)
    (kind : SecretKind) (value : SecretValue) : Prop where
  metadata : ∃ entry, ⟨.secretMetadata id, .ok entry⟩ ∈ seen ∧ entry.status = .active
    ∧ entry.metadata.kind = kind ∧ entry.metadata.scope = .global
  kind : kind ∈ kinds
  value : ⟨.readSecret id, .ok value⟩ ∈ seen

/-- What it takes to sign in on the target. -/
structure Loaded (seen : List TerminalExchange) (target : Target)
    (connection : TerminalConnection) : Prop where
  supported : target.transport = .ssh ∧ target.kind ∈ [.lxc, .linuxServer]
    ∧ target.state = .managed
  name : connection.targetName = target.name
  address : connection.address = target.address ∧ validSshHost target.address = true
  username : target.sshUser = some connection.username
    ∧ validSshUsername connection.username = true
  credential : ∃ id, target.credentialSecretRef = some id ∧ ActiveSecret seen id
    [.sshPassword, .sshPrivateKey] connection.credentialKind connection.credential
  knownHosts : ∃ id, target.sshKnownHostsSecretRef = some id ∧ ActiveSecret seen id
    [.sshKnownHosts] .sshKnownHosts connection.knownHosts

section Statement

variable (server : TerminalServer) (request : TerminalRequest)

/-- An admin may open a terminal on the target. -/
structure Admitted (seen : List TerminalExchange) (actor : AuthenticatedUser)
    (targetId : TargetId) (connection : TerminalConnection) : Prop where
  requested : request.actor = some actor
  accounts : server.accountAuthEnabled = true
  admin : actor.role = .admin ∧ actor.mustChangePassword = false
  origin : validateWebsocketOrigin server request.headers = .ok ()
  parsed : Uuid.parseStr request.targetId.toList = some targetId.uuid
  found : ∃ target, ⟨.findTarget targetId, some (some target)⟩ ∈ seen
    ∧ Loaded seen target connection

/-- The call drops the lease. -/
def TerminalCall.IsRelease : TerminalCall → Prop
  | .release _ => True
  | _ => False

/-- The call takes a lease. -/
def TerminalCall.IsReserve : TerminalCall → Prop
  | .reserve .. => True
  | _ => False

/-- A lease on the target was taken for the actor, the only one, and it was not dropped. -/
structure Holds (seen : List TerminalExchange) (sessionId userId : Uuid) (targetId : TargetId) :
    Prop where
  reserved : ⟨.reserve sessionId userId targetId, .ok ()⟩ ∈ seen
  only : ∀ sessionId' userId' targetId' answer,
    ⟨.reserve sessionId' userId' targetId', answer⟩ ∈ seen → sessionId' = sessionId
  kept : All (fun call => ¬call.IsRelease) seen

/-- The session has an entry in the audit log from its beginning. -/
def Started (seen : List TerminalExchange) (actor : AuthenticatedUser) (targetId : TargetId)
    (connection : TerminalConnection) : Prop :=
  ∃ id now, ⟨.appendAuditEvent (terminalEvent actor targetId (some request.requestId)
    "terminal.started" 101 "started" (some connection.targetName) id now), true⟩ ∈ seen

/-- The actor, the target, the connection and the lease of a session. -/
structure SessionOf where
  actor : AuthenticatedUser
  targetId : TargetId
  connection : TerminalConnection
  sessionId : Uuid

/-- A lease is held by an admin who may open a terminal. -/
structure Leased (session : SessionOf) (seen : List TerminalExchange) : Prop where
  admitted : Admitted server request seen session.actor session.targetId session.connection
  holds : Holds seen session.sessionId session.actor.id session.targetId

/-- What holds while a terminal is open. -/
structure InSession (session : SessionOf) (seen : List TerminalExchange) : Prop extends
    Leased server request session seen where
  repositories : server.repositories = true
  started : Started request seen session.actor session.targetId session.connection
  upgraded : ⟨.upgrade, true⟩ ∈ seen

/-- The machine has shown a key that is known for it, and only `since` came after. -/
def KeyChecked (connection : TerminalConnection) (since seen : List TerminalExchange) : Prop :=
  ∃ before key, seen = before ++ [⟨.connect connection.address sshPort, .offers key⟩] ++ since
    ∧ server.checkKnownHosts connection.address sshPort key connection.knownHosts.value = some true

/-- The session of the actor was looked up, and is one of an admin who may still use it. -/
def Rechecked (actor : AuthenticatedUser) (before seen : List TerminalExchange) : Prop :=
  ∃ session now, seen = before
      ++ [⟨.sessionByTokenHash actor.tokenHash, some (some session)⟩] ++ [⟨.now, now⟩]
    ∧ isAdminSession actor session = true ∧ now < session.expiresAt

/-- What is handed on has just come in, and the session was looked up since. -/
def Passes (actor : AuthenticatedUser) (event : TerminalEvent) (seen : List TerminalExchange) :
    Prop :=
  ∃ before maximum idle checked now,
    Rechecked actor (before ++ [⟨.select maximum idle, event⟩]) checked
      ∧ seen = checked ++ [⟨.instant, now⟩]

/-- The bytes that a message of the client has for the machine. -/
def Carries (message : Incoming) (bytes : List UInt8) : Prop :=
  message = .binary bytes ∨ ∃ text data, message = .text text
    ∧ server.parseMessage text = some (.input data) ∧ bytes = utf8Bytes data

/-- The times at which the session ends: an hour after it has begun, and ten minutes after something
was handed on. -/
structure Deadlines (maximum idle : Timestamp) (seen : List TerminalExchange) : Prop where
  maximum : ∃ started, ⟨.instant, started⟩ ∈ seen ∧ maximum = started + maxSessionDuration
  idle : ∃ before last after, seen = before ++ ⟨.instant, last⟩ :: after
    ∧ All (fun call => call ≠ .instant) after ∧ idle = last + idleTimeout

/-- The entry is one for the beginning or the end of a session. -/
def SessionEntry (session : SessionOf) (event : AuthAuditEvent) : Prop :=
  ∃ id now, event = terminalEvent session.actor session.targetId (some request.requestId)
      "terminal.started" 101 "started" (some session.connection.targetName) id now
    ∨ ∃ outcome, event = terminalEvent session.actor session.targetId none "terminal.ended"
      (if endState outcome = "failed" then 502 else 200) (endState outcome) none id now

/-- How the session has ended was to be written to the audit log. -/
def EndNoted (session : SessionOf) (outcome : Except String Unit) (seen : List TerminalExchange) :
    Prop :=
  ∃ id now written, ⟨.appendAuditEvent (terminalEvent session.actor session.targetId none
    "terminal.ended" (if endState outcome = "failed" then 502 else 200) (endState outcome) none id
    now), written⟩ ∈ seen

/-- What has to be so before a call. -/
def TerminalPermits (seen : List TerminalExchange) : TerminalCall → Prop
  | .findTarget _ | .secretMetadata _ | .readSecret _ | .newEventId | .now => True
  | .newSessionId => All (fun call => call ≠ .newSessionId ∧ ¬call.IsReserve) seen
  | .reserve sessionId userId targetId =>
    ⟨.newSessionId, sessionId⟩ ∈ seen ∧ All (fun call => ¬call.IsReserve ∧ ¬call.IsRelease) seen
      ∧ ∃ actor connection, actor.id = userId
        ∧ Admitted server request seen actor targetId connection
  | .appendAuditEvent event =>
    ∃ session, Leased server request session seen ∧ SessionEntry request session event
  | .upgrade =>
    ∃ session, Leased server request session seen
      ∧ Started request seen session.actor session.targetId session.connection
  | .release sessionId =>
    ∃ session, session.sessionId = sessionId ∧ Leased server request session seen
      ∧ (⟨.upgrade, true⟩ ∈ seen → ∃ outcome, EndNoted session outcome seen)
  | .connect host port =>
    ∃ session, InSession server request session seen ∧ host = session.connection.address
      ∧ port = sshPort
  | .authenticatePassword username password =>
    ∃ session, InSession server request session seen
      ∧ session.connection.credentialKind = .sshPassword
      ∧ username = session.connection.username ∧ password = session.connection.credential.value
      ∧ KeyChecked server session.connection [] seen
  | .authenticatePublickey username key =>
    ∃ session, InSession server request session seen
      ∧ session.connection.credentialKind = .sshPrivateKey
      ∧ username = session.connection.username ∧ key = session.connection.credential.value
      ∧ KeyChecked server session.connection [⟨.bestRsaHash, true⟩] seen
  | .data bytes =>
    ∃ session message, InSession server request session seen
      ∧ Passes session.actor (.incoming message) seen ∧ Carries server message bytes
      ∧ bytes.length ≤ maxInputBytes
  | .windowChange columns rows =>
    ∃ session text, InSession server request session seen
      ∧ Passes session.actor (.incoming (.text text)) seen
      ∧ server.parseMessage text = some (.resize columns rows)
      ∧ validTerminalDimensions columns rows = true
  | .send (.output bytes) =>
    ∃ session, InSession server request session seen
      ∧ Passes session.actor (.host (.data bytes)) seen
  | .select maximum idle =>
    ∃ session, InSession server request session seen ∧ Deadlines maximum idle seen
  | .writeKnownHosts _ | .bestRsaHash | .shell _ | .send _ | .instant | .sessionByTokenHash _
  | .closeChannel | .disconnect _ | .longer =>
    ∃ session, InSession server request session seen

/-- No lease is left. -/
def Released (seen : List TerminalExchange) : Prop :=
  ∀ sessionId userId targetId, ⟨.reserve sessionId userId targetId, .ok ()⟩ ∈ seen →
    ⟨.release sessionId, ()⟩ ∈ seen

/-- How a session ends: its end was to be written down, and no lease is left. -/
def TerminalEnds (seen : List TerminalExchange) (outcome : Option (Except String Unit)) : Prop :=
  Released seen ∧ ∀ result, outcome = some result →
    ∃ session, Admitted server request seen session.actor session.targetId session.connection
      ∧ EndNoted session result seen

end Statement

/-! ### Before a lease is taken -/

section Admit

variable {server : TerminalServer} {request : TerminalRequest} {seen more : List TerminalExchange}

/-- What is called to find out whether a terminal may be opened. -/
def TerminalCall.IsLook : TerminalCall → Prop
  | .findTarget _ | .secretMetadata _ | .readSecret _ => True
  | _ => False

theorem ActiveSecret.mono {id : SecretId} {kinds : List SecretKind} {kind : SecretKind}
    {value : SecretValue} (h : ActiveSecret seen id kinds kind value) (hle : seen ⊆ more) :
    ActiveSecret more id kinds kind value := by
  obtain ⟨⟨entry, hentry, hrest⟩, hkind, hvalue⟩ := h
  exact ⟨⟨entry, hle hentry, hrest⟩, hkind, hle hvalue⟩

theorem Loaded.mono {target : Target} {connection : TerminalConnection}
    (h : Loaded seen target connection) (hle : seen ⊆ more) : Loaded more target connection := by
  obtain ⟨hsupported, hname, haddress, husername, ⟨id, hid, hcredential⟩, id', hid', hknown⟩ := h
  exact ⟨hsupported, hname, haddress, husername, ⟨id, hid, hcredential.mono hle⟩, id', hid',
    hknown.mono hle⟩

theorem Admitted.mono {actor : AuthenticatedUser} {targetId : TargetId}
    {connection : TerminalConnection} (h : Admitted server request seen actor targetId connection)
    (hle : seen ⊆ more) : Admitted server request more actor targetId connection := by
  obtain ⟨hrequested, haccounts, hadmin, horigin, hparsed, target, hfound, hloaded⟩ := h
  exact ⟨hrequested, haccounts, hadmin, horigin, hparsed, target, hle hfound, hloaded.mono hle⟩

/-- A part of what is done before a lease is taken. -/
abbrev Looks {α : Type} (ok : List TerminalExchange → α → Prop) (p : Respond α)
    (seen : List TerminalExchange) : Prop :=
  Process.Only TerminalCall.IsLook (fun _ _ => True) ok p seen

theorem looks_activeSecretMetadata {id : SecretId} :
    Looks (fun more entry => ⟨.secretMetadata id, .ok entry⟩ ∈ more ∧ entry.status = .active)
      (activeSecretMetadata id) seen := by
  refine (Process.only_call (e := TerminalCall.secretMetadata id) trivial).bind ?_
  rintro more answer - hanswer
  refine Process.only_ofExcept (fun _ _ => trivial) fun entry hentry => ?_
  refine Process.only_require trivial fun hactive => Process.only_pure ?_
  cases answer with
  | error e => cases hentry
  | ok entry' =>
    cases hentry
    exact ⟨hanswer, of_decide_eq_true hactive⟩

theorem looks_readSecret {id : SecretId} :
    Looks (fun more value => ⟨.readSecret id, .ok value⟩ ∈ more) (readSecret id) seen := by
  refine (Process.only_call (e := TerminalCall.readSecret id) trivial).bind ?_
  rintro more answer - hanswer
  cases answer with
  | error e => exact Process.only_fail trivial
  | ok value => exact Process.only_pure hanswer

theorem looks_loadTerminalConnection {target : Target} :
    Looks (fun more connection => Loaded more target connection) (loadTerminalConnection target)
      seen := by
  refine Process.only_require trivial fun hsupported => ?_
  refine Process.only_ofOption trivial fun username husername => ?_
  refine Process.only_require trivial fun haddress => ?_
  refine Process.only_ofOption trivial fun credentialId hcredentialId => ?_
  refine looks_activeSecretMetadata.bind fun s₁ credentialMetadata _ hcredential => ?_
  refine Process.only_require trivial fun hcredentialKind => ?_
  refine Process.only_ofOption trivial fun knownHostsId hknownHostsId => ?_
  refine looks_activeSecretMetadata.bind fun s₂ knownHostsMetadata h₂ hknownHosts => ?_
  refine Process.only_require trivial fun hknownHostsKind => ?_
  refine looks_readSecret.bind fun s₃ credential h₃ hcredentialValue => ?_
  refine looks_readSecret.bind fun s₄ knownHosts h₄ hknownHostsValue => ?_
  simp only [Bool.and_eq_true, decide_eq_true_eq] at hsupported hcredentialKind hknownHostsKind
  obtain ⟨husername, hvalid⟩ := Option.filter_eq_some_iff.mp husername
  refine Process.only_pure ⟨⟨hsupported.1.1, hsupported.1.2, hsupported.2⟩, rfl, ⟨rfl, haddress⟩,
    ⟨husername, hvalid⟩, ⟨credentialId, hcredentialId, ?_⟩, knownHostsId, hknownHostsId, ?_⟩
  · have hle := (h₂.trans h₃).trans h₄
    exact ⟨⟨credentialMetadata, hle.subset hcredential.1, hcredential.2, rfl, hcredentialKind.2⟩,
      hcredentialKind.1, h₄.subset hcredentialValue⟩
  · have hle := h₃.trans h₄
    exact ⟨⟨knownHostsMetadata, hle.subset hknownHosts.1, hknownHosts.2, hknownHostsKind⟩,
      List.mem_singleton.mpr rfl, hknownHostsValue⟩

/-- **A terminal is opened only for an admin**, on a machine that can be signed in on. -/
theorem looks_admitTerminal :
    Looks (fun more admitted => Admitted server request more admitted.1 admitted.2.1 admitted.2.2)
      (admitTerminal server request) seen := by
  refine Process.only_ofOption trivial fun actor hactor => ?_
  refine Process.only_ofExcept (fun _ _ => trivial) fun _ hadmin => ?_
  refine Process.only_ofExcept (fun _ _ => trivial) fun _ horigin => ?_
  refine Process.only_ofOption trivial fun targetId htargetId => ?_
  have hfind : Looks (fun more target => ⟨.findTarget ⟨targetId⟩, some (some target)⟩ ∈ more)
      (findTerminalTarget ⟨targetId⟩) seen := by
    refine (Process.only_call (e := TerminalCall.findTarget ⟨targetId⟩) trivial).bind ?_
    rintro more answer - hanswer
    refine Process.only_ofOption trivial fun found hfound => ?_
    subst hfound
    cases found with
    | none => exact Process.only_fail trivial
    | some target => exact Process.only_pure hanswer
  refine hfind.bind fun s₁ target h₁ hfound => ?_
  refine looks_loadTerminalConnection.bind fun s₂ connection h₂ hloaded => ?_
  have haccounts : server.accountAuthEnabled = true ∧ actor.role = .admin
      ∧ actor.mustChangePassword = false := by
    rw [ensureTerminalAdmin] at hadmin
    split at hadmin
    case isTrue h =>
      simp only [Bool.and_eq_true, decide_eq_true_eq, Bool.not_eq_true'] at h
      exact ⟨h.1.1, h.1.2, h.2⟩
    case isFalse => cases hadmin
  exact Process.only_pure ⟨hactor, haccounts.1, haccounts.2, horigin, htargetId, target,
    h₂.subset hfound, hloaded⟩

end Admit

/-! ### While a terminal is open -/

section Open

variable {server : TerminalServer} {request : TerminalRequest} {session : SessionOf}
  {seen : List TerminalExchange}

/-- The call takes no lease and drops none. -/
def TerminalCall.KeepsLease (call : TerminalCall) : Prop := ¬call.IsReserve ∧ ¬call.IsRelease

theorem Holds.concat {sessionId userId : Uuid} {targetId : TargetId} {e : TerminalCall}
    (h : Holds seen sessionId userId targetId) (he : e.KeepsLease) (r : e.Answer) :
    Holds (seen ++ [⟨e, r⟩]) sessionId userId targetId where
  reserved := List.mem_append_left _ h.reserved
  only sessionId' userId' targetId' answer hmem := by
    obtain hmem | hmem := List.mem_append.mp hmem
    · exact h.only _ _ _ _ hmem
    · obtain rfl := (Sigma.mk.inj (List.mem_singleton.mp hmem)).1
      exact absurd trivial he.1
  kept := h.kept.concat he.2 r

theorem Leased.concat {e : TerminalCall} (h : Leased server request session seen)
    (he : e.KeepsLease) (r : e.Answer) : Leased server request session (seen ++ [⟨e, r⟩]) :=
  ⟨h.admitted.mono (List.subset_append_left _ _), h.holds.concat he r⟩

theorem Started.mono {actor : AuthenticatedUser} {targetId : TargetId}
    {connection : TerminalConnection} {more : List TerminalExchange}
    (h : Started request seen actor targetId connection) (hle : seen ⊆ more) :
    Started request more actor targetId connection := by
  obtain ⟨id, now, hmem⟩ := h
  exact ⟨id, now, hle hmem⟩

theorem InSession.concat {e : TerminalCall} (h : InSession server request session seen)
    (he : e.KeepsLease) (r : e.Answer) : InSession server request session (seen ++ [⟨e, r⟩]) :=
  ⟨h.toLeased.concat he r, h.repositories, h.started.mono (List.subset_append_left _ _),
    List.mem_append_left _ h.upgraded⟩

theorem Deadlines.concat {maximum idle : Timestamp} (h : Deadlines maximum idle seen)
    (e : TerminalCall) (he : e ≠ .instant) (r : e.Answer) :
    Deadlines maximum idle (seen ++ [⟨e, r⟩]) := by
  obtain ⟨⟨started, hstarted, hmaximum⟩, before, last, after, rfl, hafter, hidle⟩ := h
  refine ⟨⟨started, List.mem_append_left _ hstarted, hmaximum⟩, before, last, after ++ [⟨e, r⟩],
    ?_, hafter.concat he r, hidle⟩
  rw [List.append_assoc, List.cons_append]

/-- Something is handed on. -/
theorem Deadlines.active {maximum idle : Timestamp} (h : Deadlines maximum idle seen)
    (now : Timestamp) : Deadlines maximum (now + idleTimeout) (seen ++ [⟨.instant, now⟩]) := by
  obtain ⟨started, hstarted, hmaximum⟩ := h.maximum
  exact ⟨⟨started, List.mem_append_left _ hstarted, hmaximum⟩, seen, now, [], rfl, all_nil, rfl⟩

theorem Deadlines.rechecked {maximum idle : Timestamp} {actor : AuthenticatedUser}
    {more : List TerminalExchange} (h : Deadlines maximum idle seen)
    (hchecked : Rechecked actor seen more) : Deadlines maximum idle more := by
  obtain ⟨found, now, rfl, -⟩ := hchecked
  have hlooked := h.concat (.sessionByTokenHash actor.tokenHash) nofun (some (some found))
  exact hlooked.concat .now nofun now

/-- A part of a session. -/
abbrev During (server : TerminalServer) (request : TerminalRequest) (session : SessionOf)
    {α : Type} (ok : List TerminalExchange → α → Prop) (p : Session α)
    (seen : List TerminalExchange) : Prop :=
  Process.Within (InSession server request session) (TerminalPermits server request) ok p seen

theorem during_call (e : TerminalCall) (h : InSession server request session seen)
    (he : TerminalPermits server request seen e) (hlease : e.KeepsLease) :
    During server request session (fun more r => more = seen ++ [⟨e, r⟩]) (perform e) seen :=
  Process.within_call he fun r => h.concat hlease r

theorem during_sendError {message : String} (h : InSession server request session seen) :
    During server request session (fun _ _ => True) (sendError message) seen := by
  refine (during_call (.send (.error message)) h ⟨session, h⟩ ⟨id, id⟩).bind ?_
  exact fun more _ hmore _ => Process.within_pure hmore trivial

/-- An error is told to the client, and the session ends. -/
theorem during_sendError_fail {α : Type} {ok : List TerminalExchange → α → Prop}
    {message reason : String} (h : InSession server request session seen) :
    During server request session ok (do sendError message; .fail reason) seen :=
  (during_sendError h).bind fun _ _ hmore _ => Process.within_fail hmore

/-! ### The connection -/

/-- **The key of the machine is one that is known for it**, when the connection is made. -/
theorem during_checkServerKey {before : List TerminalExchange} {connected : Connected}
    (h : InSession server request session seen)
    (hlast : seen = before ++ [⟨.connect session.connection.address sshPort, connected⟩]) :
    During server request session (fun more _ => KeyChecked server session.connection [] more)
      (checkServerKey server session.connection connected) seen := by
  cases connected with
  | timeout => exact Process.within_fail h
  | failed => exact Process.within_fail h
  | offers key =>
    refine (Process.within_require h).mono ?_
    rintro _ _ ⟨rfl, hknown⟩
    refine ⟨before, key, by rw [List.append_nil, hlast], ?_⟩
    cases hcheck : server.checkKnownHosts session.connection.address sshPort key
        session.connection.knownHosts.value with
    | none => rw [hcheck] at hknown; cases hknown
    | some known => rw [hcheck] at hknown; exact congrArg some hknown

theorem during_signedOn {answer : SignedOn} (h : InSession server request session seen) :
    During server request session (fun _ _ => True) (signedOn answer) seen := by
  match answer with
  | .timeout | .failed | .answered false => exact Process.within_fail h
  | .answered true => exact Process.within_pure h trivial

/-- **The credential is given to such a machine only.** -/
theorem during_authenticate (h : InSession server request session seen)
    (hkey : KeyChecked server session.connection [] seen) :
    During server request session (fun _ _ => True) (authenticate server session.connection)
      seen := by
  unfold authenticate
  split
  case h_1 hkind =>
    refine (during_call (.authenticatePassword _ _) h ⟨session, h, hkind, rfl, rfl, hkey⟩
      ⟨id, id⟩).bind ?_
    exact fun more answer hmore _ => during_signedOn hmore
  case h_2 hkind =>
    refine (Process.within_require h).bind ?_
    rintro _ _ _ ⟨rfl, -⟩
    refine (during_call .bestRsaHash h ⟨session, h⟩ ⟨id, id⟩).bind ?_
    rintro _ hash hmore rfl
    refine (Process.within_require hmore).bind ?_
    rintro _ _ _ ⟨rfl, rfl⟩
    obtain ⟨before, key, rfl, hknown⟩ := hkey
    refine (during_call (.authenticatePublickey _ _) hmore ⟨session, hmore, hkind, rfl, rfl, before,
      key, by rw [List.append_nil], hknown⟩ ⟨id, id⟩).bind ?_
    exact fun more answer hmore _ => during_signedOn hmore
  case h_3 => exact Process.within_fail h

theorem during_shellStep {step : ShellStep} {failure : String}
    (h : InSession server request session seen) :
    During server request session (fun _ _ => True) (shellStep step failure) seen := by
  refine (during_call (.shell step) h ⟨session, h⟩ ⟨id, id⟩).bind fun more done hmore _ => ?_
  exact (Process.within_require hmore).mono fun _ _ _ => trivial

theorem during_openSshSession (h : InSession server request session seen) :
    During server request session (fun _ _ => True) (openSshSession server session.connection)
      seen := by
  refine (during_call (.writeKnownHosts _) h ⟨session, h⟩ ⟨id, id⟩).bind fun s₁ written h₁ _ => ?_
  refine (Process.within_require h₁).bind fun s₂ _ h₂ _ => ?_
  refine (during_call (.connect _ _) h₂ ⟨session, h₂, rfl, rfl⟩ ⟨id, id⟩).bind ?_
  rintro _ connected h₃ rfl
  refine (during_checkServerKey h₃ rfl).bind fun s₄ _ h₄ hkey => ?_
  refine (during_authenticate h₄ hkey).bind fun s₅ _ h₅ _ => ?_
  refine (during_shellStep h₅).bind fun s₆ _ h₆ _ => ?_
  refine (during_shellStep h₆).bind fun s₇ _ h₇ _ => ?_
  refine (during_shellStep h₇).bind fun s₈ _ h₈ _ => ?_
  refine (during_shellStep h₈).bind fun s₉ _ h₉ _ => ?_
  exact during_shellStep h₉

/-! ### The loop -/

theorem during_sessionIsAdmin (h : InSession server request session seen) :
    During server request session
      (fun more admin => admin = true → Rechecked session.actor seen more)
      (sessionIsAdmin server session.actor) seen := by
  unfold sessionIsAdmin
  split
  case isTrue => exact Process.within_pure h nofun
  case isFalse =>
    refine (during_call (.sessionByTokenHash _) h ⟨session, h⟩ ⟨id, id⟩).bind ?_
    rintro _ answer h₁ rfl
    match answer with
    | none | some none => exact Process.within_pure h₁ nofun
    | some (some found) =>
      change During server request session _ (ite _ _ _) _
      split
      case isTrue hadmin =>
        refine (during_call .now h₁ trivial ⟨id, id⟩).bind ?_
        rintro _ now h₂ rfl
        refine Process.within_pure h₂ fun hnow => ?_
        exact ⟨found, now, rfl, hadmin, of_decide_eq_true hnow⟩
      case isFalse => exact Process.within_pure h₁ nofun

/-- **The session of the admin is looked up again.** -/
theorem during_recheck (h : InSession server request session seen) :
    During server request session (fun more _ => Rechecked session.actor seen more)
      (recheck server session.actor) seen := by
  refine (during_sessionIsAdmin h).bind fun more admin hmore hchecked => ?_
  split
  case isTrue hadmin => exact Process.within_pure hmore (hchecked hadmin)
  case isFalse => exact during_sendError_fail hmore

theorem during_nextIdleDeadline (h : InSession server request session seen) :
    During server request session
      (fun more idle => ∃ now, more = seen ++ [⟨.instant, now⟩] ∧ idle = now + idleTimeout)
      nextIdleDeadline seen := by
  refine (during_call .instant h ⟨session, h⟩ ⟨id, id⟩).bind fun more now hmore hnow => ?_
  exact Process.within_pure hmore ⟨now, hnow, rfl⟩

/-- The session goes on with new deadlines, or ends. -/
def GoesOn (maximum : Timestamp) (more : List TerminalExchange) (next : Option Timestamp) : Prop :=
  ∀ idle, next = some idle → Deadlines maximum idle more

variable {maximum idle : Timestamp} {before : List TerminalExchange}

/-- **Data is handed on** to the machine, after the check. -/
theorem during_forward {message : Incoming} {bytes : List UInt8}
    (h : InSession server request session seen) (hdeadlines : Deadlines maximum idle seen)
    (hchecked : Rechecked session.actor (before ++ [⟨.select maximum idle, .incoming message⟩])
      seen)
    (hcarries : Carries server message bytes) (hlength : bytes.length ≤ maxInputBytes) :
    During server request session (GoesOn maximum) (forward bytes) seen := by
  refine (during_nextIdleDeadline h).bind ?_
  rintro _ _ h₁ ⟨now, rfl, rfl⟩
  have hpasses : Passes session.actor (.incoming message) (seen ++ [⟨.instant, now⟩]) :=
    ⟨before, maximum, idle, seen, now, hchecked, rfl⟩
  refine (during_call (.data bytes) h₁ ⟨session, message, h₁, hpasses, hcarries, hlength⟩
    ⟨id, id⟩).bind ?_
  rintro _ sent h₂ rfl
  refine (Process.within_require h₂).bind ?_
  rintro _ _ _ ⟨rfl, -⟩
  refine Process.within_pure h₂ ?_
  rintro _ ⟨⟩
  exact (hdeadlines.active now).concat (.data bytes) nofun sent

theorem during_onIncoming {message : Incoming} (h : InSession server request session seen)
    (hdeadlines : Deadlines maximum idle seen)
    (hchecked : Rechecked session.actor (before ++ [⟨.select maximum idle, .incoming message⟩])
      seen) :
    During server request session (GoesOn maximum) (onIncoming server idle message) seen := by
  cases message with
  | text text =>
    rw [onIncoming]
    split
    case h_1 data hparse =>
      split
      case isTrue hlength =>
        refine during_forward h hdeadlines hchecked (.inr ⟨text, data, rfl, hparse, rfl⟩) ?_
        rwa [length_utf8Bytes]
      case isFalse => exact during_sendError_fail h
    case h_2 columns rows hparse =>
      split
      case isTrue hvalid =>
        refine (during_nextIdleDeadline h).bind ?_
        rintro _ _ h₁ ⟨now, rfl, rfl⟩
        have hpasses : Passes session.actor (.incoming (.text text))
            (seen ++ [⟨.instant, now⟩]) := ⟨before, maximum, idle, seen, now, hchecked, rfl⟩
        refine (during_call (.windowChange columns rows) h₁
          ⟨session, text, h₁, hpasses, hparse, hvalid⟩ ⟨id, id⟩).bind ?_
        rintro _ changed h₂ rfl
        refine (Process.within_require h₂).bind ?_
        rintro _ _ _ ⟨rfl, -⟩
        refine Process.within_pure h₂ ?_
        rintro _ ⟨⟩
        exact (hdeadlines.active now).concat (.windowChange columns rows) nofun changed
      case isFalse => exact during_sendError_fail h
    case h_3 => exact Process.within_pure h nofun
    case h_4 => exact during_sendError_fail h
  | binary data =>
    rw [onIncoming]
    split
    case isTrue hlength => exact during_forward h hdeadlines hchecked (.inl rfl) hlength
    case isFalse => exact during_sendError_fail h
  | ping payload =>
    refine (during_call (.send (.pong payload)) h ⟨session, h⟩ ⟨id, id⟩).bind ?_
    rintro _ sent h₁ rfl
    refine Process.within_pure h₁ fun idle' hidle => ?_
    split at hidle
    case isTrue =>
      cases hidle
      exact hdeadlines.concat (.send (.pong payload)) nofun sent
    case isFalse => cases hidle
  | pong =>
    refine Process.within_pure h ?_
    rintro _ ⟨⟩
    exact hdeadlines
  | failed => exact Process.within_fail h
  | ended => exact Process.within_pure h nofun

theorem during_onDeadline {reason : String} (h : InSession server request session seen) :
    During server request session (GoesOn maximum) (onDeadline reason) seen := by
  refine (during_call (.send (.closed reason)) h ⟨session, h⟩ ⟨id, id⟩).bind
    fun s₁ sent h₁ _ => ?_
  exact (Process.within_require h₁).bind fun s₂ _ h₂ _ => Process.within_fail h₂

/-- **One round.** -/
theorem during_onEvent {event : TerminalEvent}
    (h : InSession server request session (before ++ [⟨.select maximum idle, event⟩]))
    (hdeadlines : Deadlines maximum idle (before ++ [⟨.select maximum idle, event⟩])) :
    During server request session (GoesOn maximum) (onEvent server session.actor idle event)
      (before ++ [⟨.select maximum idle, event⟩]) := by
  match event with
  | .maximumDuration => exact during_onDeadline h
  | .idleTimeout => exact during_onDeadline h
  | .authCheck =>
    refine (during_recheck h).bind fun more _ hmore hchecked => Process.within_pure hmore ?_
    rintro _ ⟨⟩
    exact hdeadlines.rechecked hchecked
  | .incoming message =>
    refine (during_recheck h).bind fun more _ hmore hchecked => ?_
    exact during_onIncoming hmore (hdeadlines.rechecked hchecked) hchecked
  | .host (.data bytes) =>
    refine (during_recheck h).bind fun more _ hmore hchecked => ?_
    refine (during_nextIdleDeadline hmore).bind ?_
    rintro _ _ h₁ ⟨now, rfl, rfl⟩
    have hpasses : Passes session.actor (.host (.data bytes)) (more ++ [⟨.instant, now⟩]) :=
      ⟨before, maximum, idle, more, now, hchecked, rfl⟩
    refine (during_call (.send (.output bytes)) h₁ ⟨session, h₁, hpasses⟩ ⟨id, id⟩).bind ?_
    rintro _ sent h₂ rfl
    refine Process.within_pure h₂ fun idle' hidle => ?_
    split at hidle
    case isTrue =>
      cases hidle
      exact ((hdeadlines.rechecked hchecked).active now).concat (.send (.output bytes)) nofun sent
    case isFalse => cases hidle
  | .host .ended => exact Process.within_pure h nofun
  | .host .other =>
    refine Process.within_pure h ?_
    rintro _ ⟨⟩
    exact hdeadlines

/-- **All rounds.** -/
theorem during_runLoop {rounds : Nat} (h : InSession server request session seen)
    (hdeadlines : Deadlines maximum idle seen) :
    During server request session (fun _ _ => True)
      (runLoop server session.actor maximum rounds idle) seen := by
  induction rounds generalizing seen idle with
  | zero => exact (during_call .longer h ⟨session, h⟩ ⟨id, id⟩).bind fun _ longer => nomatch longer
  | succ rounds ih =>
    refine (during_call (.select maximum idle) h ⟨session, h, hdeadlines⟩ ⟨id, id⟩).bind ?_
    rintro _ event h₁ rfl
    have hselected := hdeadlines.concat (.select maximum idle) nofun event
    refine (during_onEvent h₁ hselected).bind fun more next hmore hnext => ?_
    cases next with
    | none => exact Process.within_pure hmore trivial
    | some idle => exact ih hmore (hnext idle rfl)

theorem during_endConnection {reason : String} (h : InSession server request session seen) :
    During server request session (fun _ _ => True) (endConnection reason) seen := by
  refine (during_call .closeChannel h ⟨session, h⟩ ⟨id, id⟩).bind fun more _ hmore _ => ?_
  exact (during_call (.disconnect reason) hmore ⟨session, hmore⟩ ⟨id, id⟩).mono fun _ _ _ => trivial

theorem during_runSession {rounds : Nat} (h : InSession server request session seen) :
    During server request session (fun _ _ => True)
      (runSession server session.actor session.connection rounds) seen := by
  refine (during_openSshSession h).attempt.bind fun s₁ opened h₁ _ => ?_
  cases opened with
  | error reason => exact during_sendError_fail h₁
  | ok _ =>
    refine (during_call (.send .ready) h₁ ⟨session, h₁⟩ ⟨id, id⟩).bind fun s₂ ready h₂ _ => ?_
    split
    case isTrue =>
      exact (during_endConnection h₂).bind fun s₃ _ h₃ _ => Process.within_fail h₃
    case isFalse =>
      refine (during_call .instant h₂ ⟨session, h₂⟩ ⟨id, id⟩).bind ?_
      rintro _ started h₃ rfl
      have hdeadlines : Deadlines (started + maxSessionDuration) (started + idleTimeout)
          (s₂ ++ [⟨.instant, started⟩]) :=
        ⟨⟨started, List.mem_append_right _ List.mem_cons_self, rfl⟩, s₂, started, [], rfl, all_nil,
          rfl⟩
      refine (during_runLoop h₃ hdeadlines).attempt.bind fun s₄ result h₄ _ => ?_
      refine (during_endConnection h₄).bind fun s₅ _ h₅ _ => ?_
      exact (Process.within_ofExcept h₅).mono fun _ _ _ => trivial

end Open

/-! ### The whole -/

section Whole

variable {server : TerminalServer} {request : TerminalRequest} {session : SessionOf}
  {seen : List TerminalExchange}

/-- When the lease is dropped, none is left. -/
theorem released_concat (h : Leased server request session seen) :
    Released (seen ++ [⟨.release session.sessionId, ()⟩]) := by
  intro sessionId userId targetId hmem
  obtain hmem | hmem := List.mem_append.mp hmem
  · obtain rfl := h.holds.only _ _ _ _ hmem
    exact List.mem_append_right _ List.mem_cons_self
  · cases List.mem_singleton.mp hmem

/-- An entry is written to the log, or not, and the lease is kept. -/
theorem ensures_recordTerminalAudit {requestId : Option Uuid} {action state : String} {status : Nat}
    {name : Option String} {β : Type} {f : Except ApiError Unit → Respond β}
    {okEnd : List TerminalExchange → Unit → β → Prop}
    {errEnd : List TerminalExchange → Unit → ApiError → Prop}
    (h : Leased server request session seen)
    (hentry : ∀ id now, SessionEntry request session (terminalEvent session.actor session.targetId
      requestId action status state name id now))
    (hstorage : server.repositories = false → ∀ e,
      (f (.error e)).Ensures record (TerminalPermits server request) okEnd errEnd () seen)
    (hf : ∀ more result id now written, server.repositories = true →
      Leased server request session more → seen ⊆ more →
      (⟨.upgrade, true⟩ ∈ more → ⟨.upgrade, true⟩ ∈ seen) →
      ⟨.appendAuditEvent (terminalEvent session.actor session.targetId requestId action status state
        name id now), written⟩ ∈ more → (result = .ok () → written = true) →
      (f result).Ensures record (TerminalPermits server request) okEnd errEnd () more) :
    ((recordTerminalAudit server session.actor session.targetId requestId action status state
      name).attempt >>= f).Ensures record (TerminalPermits server request) okEnd errEnd ()
        seen := by
  refine Process.ensures_bind.mpr (Process.ensures_attempt.mpr ?_)
  unfold recordTerminalAudit
  refine Process.ensures_bind.mpr ((Process.ensures_require _ _).mpr ?_)
  split
  case isFalse hrepositories => exact hstorage (by simpa using hrepositories) _
  case isTrue hrepositories =>
    refine Process.ensures_call_bind trivial fun id => ?_
    refine Process.ensures_call_bind trivial fun now => ?_
    have hid := h.concat (e := .newEventId) ⟨False.elim, False.elim⟩ id
    have hnow := hid.concat (e := .now) ⟨False.elim, False.elim⟩ now
    refine Process.ensures_call_bind ⟨session, hnow, hentry id now⟩ fun written => ?_
    have hwritten := hnow.concat (e := .appendAuditEvent _) ⟨False.elim, False.elim⟩ written
    have hle : seen ⊆ seen ++ [⟨.newEventId, id⟩] ++ [⟨.now, now⟩] ++ [⟨.appendAuditEvent
        (terminalEvent session.actor session.targetId requestId action status state name id now),
        written⟩] := by
      rw [List.append_assoc, List.append_assoc]
      exact List.subset_append_left _ _
    have hupgraded : ⟨.upgrade, true⟩ ∈ seen ++ [⟨.newEventId, id⟩] ++ [⟨.now, now⟩]
        ++ [⟨.appendAuditEvent (terminalEvent session.actor session.targetId requestId action status
          state name id now), written⟩] → ⟨.upgrade, true⟩ ∈ seen := by simp
    have hmem := List.mem_append_right (seen ++ [⟨.newEventId, id⟩] ++ [⟨.now, now⟩])
      (List.mem_singleton_self (⟨.appendAuditEvent (terminalEvent session.actor session.targetId
        requestId action status state name id now), written⟩ : TerminalExchange))
    refine (Process.ensures_require _ _).mpr ?_
    split
    case isTrue htrue =>
      exact hf _ _ id now written hrepositories hwritten hle hupgraded hmem fun _ => htrue
    case isFalse => exact hf _ _ id now written hrepositories hwritten hle hupgraded hmem nofun

/-- The lease is dropped. -/
theorem ensures_release {α : Type} {a : α} (h : Leased server request session seen)
    (hnoted : ⟨.upgrade, true⟩ ∈ seen → ∃ outcome, EndNoted session outcome seen) :
    (do
      perform (.release session.sessionId)
      return a : Respond α).Ensures record (TerminalPermits server request)
        (fun more _ a' => a' = a ∧ seen ⊆ more ∧ Released more)
        (fun more _ _ => Released more) () seen := by
  refine Process.ensures_call_bind ⟨session, rfl, h, hnoted⟩ fun _ => ?_
  exact ⟨rfl, List.subset_append_left _ _, released_concat h⟩

/-- **The end of a session is written down**, or the database has failed, before the lease is
dropped. -/
theorem ensures_terminalTask (h : InSession server request session seen) :
    (terminalTask server request session.actor session.targetId session.connection
      session.sessionId).Ensures record (TerminalPermits server request)
      (fun more _ outcome => Released more
        ∧ Admitted server request more session.actor session.targetId session.connection
        ∧ EndNoted session outcome more)
      (fun more _ _ => Released more) () seen := by
  refine (during_runSession h).ensures_attempt_bind fun more outcome hmore _ => ?_
  refine ensures_recordTerminalAudit hmore.toLeased (fun id now => ⟨id, now, .inr ⟨outcome, rfl⟩⟩)
    ?_ fun more' _ id now written _ hleased hle _ hmem _ => ?_
  · intro hstorage
    rw [hmore.repositories] at hstorage
    cases hstorage
  · refine (ensures_release hleased fun _ => ⟨outcome, id, now, written, hmem⟩).mono ?_ ?_
    · rintro s ⟨⟩ _ ⟨rfl, hle', hreleased⟩
      exact ⟨hreleased, hleased.admitted.mono hle', id, now, written, hle' hmem⟩
    · exact fun _ _ _ hreleased => hreleased

/-- What was called before a lease is taken. -/
theorem notLease_of_isLook {call : TerminalCall} (h : call.IsLook) :
    call ≠ .newSessionId ∧ call.KeepsLease ∧ call ≠ .upgrade := by
  cases call with
  | findTarget | secretMetadata | readSecret => exact ⟨nofun, ⟨False.elim, False.elim⟩, nofun⟩
  | _ => exact h.elim

/-- The lease is the only one. -/
theorem leased_of_reserved (hadmitted : Admitted server request seen session.actor session.targetId
      session.connection)
    (hkeeps : All TerminalCall.KeepsLease seen) :
    Leased server request session
      (seen ++ [⟨.reserve session.sessionId session.actor.id session.targetId, .ok ()⟩]) where
  admitted := hadmitted.mono (List.subset_append_left _ _)
  holds := by
    refine ⟨List.mem_append_right _ List.mem_cons_self, ?_, ?_⟩
    · intro sessionId' userId' targetId' answer hmem
      obtain hmem | hmem := List.mem_append.mp hmem
      · exact absurd trivial (hkeeps _ hmem).1
      · cases List.mem_singleton.mp hmem
        rfl
    · have hkept : All (fun call => ¬call.IsRelease) seen := fun exchange hmem =>
        (hkeeps exchange hmem).2
      exact hkept.concat id _

/-- **From the lease on.** -/
theorem ensures_leased (h : Leased server request session seen)
    (hnotUpgraded : ⟨.upgrade, true⟩ ∉ seen) :
    (do
      match ← (recordTerminalAudit server session.actor session.targetId (some request.requestId)
        "terminal.started" 101 "started" (some session.connection.targetName)).attempt with
      | .error e => do
        perform (.release session.sessionId)
        .fail e
      | .ok () => do
        let upgraded : Bool ← perform .upgrade
        if upgraded then
          let outcome ← terminalTask server request session.actor session.targetId
            session.connection session.sessionId
          return some outcome
        else
          perform (.release session.sessionId)
          return none : Respond (Option (Except String Unit))).Ensures record
      (TerminalPermits server request)
      (fun more _ outcome => TerminalEnds server request more outcome)
      (fun more _ _ => Released more) () seen := by
  have hentry := fun id now => (⟨id, now, .inl rfl⟩ : SessionEntry request session (terminalEvent
    session.actor session.targetId (some request.requestId) "terminal.started" 101 "started"
    (some session.connection.targetName) id now))
  refine ensures_recordTerminalAudit h hentry ?_ ?_
  · intro _ e
    exact Process.ensures_call_bind ⟨session, rfl, h, fun hmem => absurd hmem hnotUpgraded⟩
      fun _ => released_concat h
  · intro more result id now written hrepositories hleased hle hupgraded hmem hwritten
    have hnotUpgraded' : ⟨.upgrade, true⟩ ∉ more := fun hmem => hnotUpgraded (hupgraded hmem)
    cases result with
    | error e =>
      exact Process.ensures_call_bind ⟨session, rfl, hleased, fun hmem => absurd hmem hnotUpgraded'⟩
        fun _ => released_concat hleased
    | ok _ =>
      obtain rfl := hwritten rfl
      have hstarted : Started request more session.actor session.targetId session.connection :=
        ⟨id, now, hmem⟩
      refine Process.ensures_call_bind ⟨session, hleased, hstarted⟩ fun upgraded => ?_
      have hnext := hleased.concat (e := .upgrade) ⟨False.elim, False.elim⟩ upgraded
      split
      case isTrue htrue =>
        subst htrue
        have hopen : InSession server request session (more ++ [⟨.upgrade, true⟩]) :=
          ⟨hnext, hrepositories, hstarted.mono (List.subset_append_left _ _),
            List.mem_append_right _ List.mem_cons_self⟩
        refine Process.ensures_bind.mpr ((ensures_terminalTask hopen).mono ?_ fun _ _ _ h => h)
        rintro s ⟨⟩ outcome ⟨hreleased, hadmitted, hnoted⟩
        refine ⟨hreleased, fun result hresult => ⟨session, hadmitted, ?_⟩⟩
        exact Option.some.inj hresult ▸ hnoted
      case isFalse hfalse =>
        refine Process.ensures_call_bind ⟨session, rfl, hnext, fun hmem => ?_⟩ fun _ =>
          ⟨released_concat hnext, nofun⟩
        obtain hmem | hmem := List.mem_append.mp hmem
        · exact absurd hmem hnotUpgraded'
        · cases List.mem_singleton.mp hmem
          exact absurd rfl hfalse

/-- **A terminal session keeps to the rules**, whatever is answered. -/
theorem ensures_terminalSession (server : TerminalServer) (request : TerminalRequest) :
    (terminalSession server request).Ensures record (TerminalPermits server request)
      (fun more _ outcome => TerminalEnds server request more outcome)
      (fun more _ _ => Released more) () [] := by
  have hlooks : ∀ (more : List TerminalExchange) (call : TerminalCall),
      All TerminalCall.IsLook more → call.IsLook →
      TerminalPermits server request ([] ++ more) call := by
    intro more call _ hcall
    cases call with
    | findTarget | secretMetadata | readSecret => trivial
    | _ => exact hcall.elim
  have hnone : ∀ more : List TerminalExchange, All TerminalCall.IsLook more → Released more :=
    fun more hall _ _ _ hmem => (hall _ hmem).elim
  change (admitTerminal server request >>= fun _ => _).Ensures _ _ _ _ () ([] ++ [])
  refine looks_admitTerminal.ensures_bind all_nil hlooks (fun more _ hall _ => hnone more hall) ?_
  rintro more ⟨actor, targetId, connection⟩ - hall hadmitted
  have hbefore : All (fun call => call.KeepsLease ∧ call ≠ .upgrade) more := fun exchange hmem =>
    (notLease_of_isLook (hall exchange hmem)).2
  have hfirst : All (fun call => call ≠ .newSessionId ∧ ¬call.IsReserve) more :=
    fun exchange hmem =>
      have h := notLease_of_isLook (hall exchange hmem)
      ⟨h.1, h.2.1.1⟩
  refine Process.ensures_call_bind hfirst fun sessionId => ?_
  have hnew : TerminalCall.newSessionId.KeepsLease ∧ TerminalCall.newSessionId ≠ .upgrade :=
    ⟨⟨False.elim, False.elim⟩, nofun⟩
  have hkeeps : All (fun call => call.KeepsLease ∧ call ≠ .upgrade)
      (more ++ [⟨.newSessionId, sessionId⟩]) := hbefore.concat hnew sessionId
  have hmore := hadmitted.mono (List.subset_append_left more [⟨.newSessionId, sessionId⟩])
  have hlease : All TerminalCall.KeepsLease (more ++ [⟨.newSessionId, sessionId⟩]) :=
    fun exchange hmem => (hkeeps exchange hmem).1
  refine Process.ensures_call_bind ⟨List.mem_append_right _ List.mem_cons_self, hlease, actor,
    connection, rfl, hmore⟩ fun lease => ?_
  cases lease with
  | error e =>
    intro sessionId' userId' targetId' hmem
    obtain hmem | hmem := List.mem_append.mp hmem
    · exact absurd trivial (hlease _ hmem).1
    · cases List.mem_singleton.mp hmem
  | ok _ =>
    have hleased : Leased server request ⟨actor, targetId, connection, sessionId⟩ _ :=
      leased_of_reserved hmore hlease
    refine ensures_leased hleased fun hmem => ?_
    obtain hmem | hmem := List.mem_append.mp hmem
    · exact (hkeeps _ hmem).2 rfl
    · cases List.mem_singleton.mp hmem

end Whole

end Lxcup.Terminal
