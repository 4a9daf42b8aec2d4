import Lxcup.Access.Middleware
import Lxcup.Credentials.Service
import Lxcup.Lib.Recorded
import Lxcup.Lib.Utf8

/-!
# Terminal sessions

An admin may open a terminal on a machine: a web socket to the server, and from there a shell over
SSH.  `terminal_session` checks the request and loads what it takes to sign in on the machine,
takes a lease in the registry of the active sessions, and writes to the audit log that the session
begins.  `run_session` connects, and then hands on what comes from either side until one of them
ends it or a time is over.

The database, the secret store, the registry, the clocks, the web socket and the machine are
effects with arbitrary answers.  The loop is followed for a number of rounds; when it goes on for
longer, the program waits for an answer that does not exist.  What other crates parse and verify is
taken as it comes, with the functions of `TerminalServer`.

## Main definitions

* `ActiveTerminalSession`, `TerminalSessionRegistry`, `reserveTerminalSession` — the registry.
* `TerminalServer`, `TerminalRequest`, `TerminalCall` — what a session works with.
* `loadTerminalConnection`, `openSshSession`, `runSession`, `terminalSession` — the source.
-/

namespace Lxcup.Terminal

open Lxcup.Lib Lxcup.Core Lxcup.Agent Lxcup.Auth Lxcup.Server Lxcup.Secrets Lxcup.Access

/-! ### The registry -/

structure ActiveTerminalSession where
  userId : Uuid
  targetId : TargetId
  deriving DecidableEq, Repr

abbrev TerminalSessionRegistry := Table Uuid ActiveTerminalSession

/-- `MAX_SESSIONS_PER_USER`. -/
def maxSessionsPerUser : Nat := 2

/-- `MAX_SESSIONS_PER_TARGET`. -/
def maxSessionsPerTarget : Nat := 1

/-- `reserve_terminal_session`, on a registry whose lock is not poisoned. -/
def reserveTerminalSession (sessions : TerminalSessionRegistry) (sessionId userId : Uuid)
    (targetId : TargetId) : Except ApiError TerminalSessionRegistry :=
  if sessions.values.countP (fun session => session.targetId = targetId)
      ≥ maxSessionsPerTarget then
    .error (.conflict "terminal_target_busy"
      "a terminal session is already active for this resource")
  else if sessions.values.countP (fun session => session.userId = userId)
      ≥ maxSessionsPerUser then
    .error (.conflict "terminal_session_limit"
      "the administrator already has the maximum number of active terminal sessions")
  else .ok (sessions.put sessionId ⟨userId, targetId⟩)

/-! ### What a session works with -/

/-- `Authority`, of a header. -/
structure Authority where
  host : String
  port : Option Nat
  deriving DecidableEq, Repr

/-- `Url`, as far as an origin is compared. -/
structure OriginUrl where
  scheme : String
  path : String
  query : Option String
  fragment : Option String
  host : Option String
  portOrKnownDefault : Option Nat
  deriving DecidableEq, Repr

/-- `ClientMessage`. -/
inductive ClientMessage
  | input (data : String)
  | resize (columns rows : Nat)
  | close
  deriving DecidableEq, Repr

/-- The settings of the server, and the functions of other crates. -/
structure TerminalServer where
  accountAuthEnabled : Bool
  /-- The server runs with a database. -/
  repositories : Bool
  parseUrl : String → Option OriginUrl
  parseAuthority : String → Option Authority
  parseMessage : String → Option ClientMessage
  /-- `check_known_hosts_path`: whether the file has the key for the host and the port. -/
  checkKnownHosts : (host : String) → (port : Nat) → (key file : String) → Option Bool
  /-- `decode_secret_key` takes the text. -/
  decodesSecretKey : String → Bool

/-- A request for a terminal. -/
structure TerminalRequest where
  targetId : String
  actor : Option AuthenticatedUser
  requestId : Uuid
  headers : Headers
  /-- For how many rounds the loop of the session is followed. -/
  rounds : Nat
  deriving DecidableEq, Repr

/-- What the client sends. -/
inductive Incoming
  | text (text : String)
  | binary (data : List UInt8)
  | ping (payload : List UInt8)
  | pong
  | failed
  /-- The socket is closed, or there is no more. -/
  | ended
  deriving DecidableEq, Repr

/-- What the machine sends. -/
inductive HostMessage
  | data (bytes : List UInt8)
  /-- The shell has ended, or the channel. -/
  | ended
  | other
  deriving DecidableEq, Repr

/-- What the loop of a session goes on with. -/
inductive TerminalEvent
  | maximumDuration
  | idleTimeout
  | authCheck
  | incoming (message : Incoming)
  | host (message : HostMessage)
  deriving DecidableEq, Repr

/-- What is sent to the client. -/
inductive Outgoing
  | ready
  | closed (reason : String)
  | error (message : String)
  | output (bytes : List UInt8)
  | pong (payload : List UInt8)
  deriving DecidableEq, Repr

/-- How a connection was made. -/
inductive Connected
  | timeout
  | failed
  /-- The machine shows a key. -/
  | offers (key : String)
  deriving DecidableEq, Repr

/-- How signing in went. -/
inductive SignedOn
  | timeout
  | failed
  | answered (success : Bool)
  deriving DecidableEq, Repr

/-- The steps towards a shell, after signing in. -/
inductive ShellStep
  | openSession | requestPty | awaitPty | requestShell | awaitShell
  deriving DecidableEq, Repr

/-- The effects of a session. -/
inductive TerminalCall
  | findTarget (id : TargetId)
  | secretMetadata (id : SecretId)
  | readSecret (id : SecretId)
  | newSessionId
  | newEventId
  | now
  /-- Take a lease. -/
  | reserve (sessionId userId : Uuid) (targetId : TargetId)
  /-- Drop the lease. -/
  | release (sessionId : Uuid)
  | appendAuditEvent (event : AuthAuditEvent)
  /-- Wait for the web socket. -/
  | upgrade
  | writeKnownHosts (text : String)
  | connect (host : String) (port : Nat)
  | authenticatePassword (username password : String)
  | bestRsaHash
  | authenticatePublickey (username key : String)
  | shell (step : ShellStep)
  | send (message : Outgoing)
  | instant
  /-- Wait for what comes first. -/
  | select (maximum idle : Timestamp)
  | sessionByTokenHash (tokenHash : String)
  | data (bytes : List UInt8)
  | windowChange (columns rows : Nat)
  | closeChannel
  | disconnect (reason : String)
  /-- The loop goes on for longer. -/
  | longer
  deriving DecidableEq, Repr

/-- What an effect answers; `none` for a database call tells that it has failed. -/
abbrev TerminalCall.Answer : TerminalCall → Type
  | .findTarget _ => Option (Option Target)
  | .secretMetadata _ => Except SecretStoreError StoredSecretMetadata
  | .readSecret _ => Except SecretStoreError SecretValue
  | .newSessionId | .newEventId => Uuid
  | .now | .instant => Timestamp
  | .reserve .. => Except ApiError Unit
  | .release _ | .closeChannel | .disconnect _ => Unit
  | .appendAuditEvent _ | .upgrade | .writeKnownHosts _ | .bestRsaHash | .shell _ | .send _
  | .data _ | .windowChange .. => Bool
  | .connect .. => Connected
  | .authenticatePassword .. | .authenticatePublickey .. => SignedOn
  | .select .. => TerminalEvent
  | .sessionByTokenHash _ => Option (Option PersistedAuthSession)
  | .longer => Empty

/-- A part of the handler; it fails with an answer to the request. -/
abbrev Respond (α : Type) : Type := Process TerminalCall TerminalCall.Answer ApiError Unit α

/-- A part of a session; it fails with a reason. -/
abbrev Session (α : Type) : Type := Process TerminalCall TerminalCall.Answer String Unit α

/-- Call for an effect. -/
abbrev perform {φ : Type} (e : TerminalCall) :
    Process TerminalCall TerminalCall.Answer φ Unit e.Answer := Process.call e

/-- `TerminalConnection`, without the actor. -/
structure TerminalConnection where
  targetName : String
  address : String
  username : String
  credentialKind : SecretKind
  credential : SecretValue
  knownHosts : SecretValue

/-! ### Checks -/

/-- `ensure_terminal_admin`. -/
def ensureTerminalAdmin (accountAuthEnabled : Bool) (actor : AuthenticatedUser) :
    Except ApiError Unit :=
  if accountAuthEnabled && actor.role = .admin && !actor.mustChangePassword then .ok ()
  else .error (.forbidden "terminal_admin_required"
    "an active administrator account is required for terminal access")

/-- `origin_rejected`. -/
def originRejected : ApiError :=
  .forbidden "terminal_origin_rejected" "the terminal request origin could not be verified"

/-- `eq_ignore_ascii_case`. -/
def eqIgnoreAsciiCase (left right : String) : Bool :=
  toAsciiLowercase left.toList = toAsciiLowercase right.toList

/-- The port of a host whose header tells none. -/
def defaultPort (scheme : String) : Option Nat :=
  if scheme = "http" then some 80 else if scheme = "https" then some 443 else none

/-- The origin is the one of the host. -/
def isSameOrigin (origin : OriginUrl) (host : Authority) : Bool :=
  origin.scheme ∈ ["http", "https"] && origin.path = "/" && origin.query.isNone
    && origin.fragment.isNone && origin.host.any (fun name => eqIgnoreAsciiCase name host.host)
    && origin.portOrKnownDefault = host.port.or (defaultPort origin.scheme)

/-- `validate_websocket_origin`. -/
def validateWebsocketOrigin (server : TerminalServer) (headers : Headers) : Except ApiError Unit :=
  match headers.get "origin" with
  | none => .error originRejected
  | some origin =>
    match (headers.get "host").join.bind server.parseAuthority, origin.bind server.parseUrl with
    | some host, some origin => if isSameOrigin origin host then .ok () else .error originRejected
    | _, _ => .error originRejected

/-- `valid_ssh_username`. -/
def validSshUsername (username : String) : Bool :=
  username ≠ "" && username.utf8ByteSize ≤ 64
    && username.toList.all fun c => isAsciiAlphanumeric c || c ∈ ['.', '_', '-']

/-- `valid_ssh_host`. -/
def validSshHost (host : String) : Bool :=
  host ≠ "" && host.utf8ByteSize ≤ 253 && host.toList.head? ≠ some '-'
    && host.toList.all fun c => isAsciiAlphanumeric c || c ∈ ['.', ':', '-']

/-- `valid_terminal_dimensions`. -/
def validTerminalDimensions (columns rows : Nat) : Bool :=
  5 ≤ columns && columns ≤ 300 && 2 ≤ rows && rows ≤ 120

/-! ### The handler -/

section Handler

variable (server : TerminalServer) (request : TerminalRequest)

/-- `find_terminal_target`. -/
def findTerminalTarget (id : TargetId) : Respond Target := do
  let target : Option (Option Target) ← perform (.findTarget id)
  let target ← .ofOption target .storage
  .ofOption target (.notFound "resource not found")

/-- `active_secret_metadata`. -/
def activeSecretMetadata (id : SecretId) : Respond StoredSecretMetadata := do
  let metadata : Except SecretStoreError StoredSecretMetadata ← perform (.secretMetadata id)
  let metadata ← .ofExcept (metadata.mapError Credentials.mapSecretError)
  .require (metadata.status = .active)
    (.badRequest "terminal_ssh_profile_invalid" "the resource SSH secret is not active")
  return metadata

/-- `read`, of the secret store. -/
def readSecret (id : SecretId) : Respond SecretValue := do
  let value : Except SecretStoreError SecretValue ← perform (.readSecret id)
  .ofExcept (value.mapError Credentials.mapSecretError)

/-- The SSH profile is incomplete. -/
def profileInvalid : ApiError :=
  .badRequest "terminal_ssh_profile_invalid" "the resource SSH profile is incomplete or invalid"

/-- `load_terminal_connection`. -/
def loadTerminalConnection (target : Target) : Respond TerminalConnection := do
  .require (target.transport = .ssh && target.kind ∈ [.lxc, .linuxServer]
      && target.state = .managed)
    (.forbidden "terminal_resource_unsupported"
      "terminal access is available only for enabled LXC and Linux server resources")
  let username ← .ofOption (target.sshUser.filter validSshUsername) profileInvalid
  .require (validSshHost target.address) profileInvalid
  let credentialId ← .ofOption target.credentialSecretRef profileInvalid
  let credentialMetadata ← activeSecretMetadata credentialId
  .require (credentialMetadata.metadata.kind ∈ [.sshPassword, .sshPrivateKey]
      && credentialMetadata.metadata.scope = .global)
    (.badRequest "terminal_ssh_profile_invalid"
      "the resource SSH credential is not an active SSH password or private key")
  let knownHostsId ← .ofOption target.sshKnownHostsSecretRef
    (.badRequest "terminal_host_key_missing" "the resource has no registered SSH host-key secret")
  let knownHostsMetadata ← activeSecretMetadata knownHostsId
  .require (knownHostsMetadata.metadata.kind = .sshKnownHosts
      && knownHostsMetadata.metadata.scope = .global)
    (.badRequest "terminal_host_key_missing" "the resource SSH host-key reference is invalid")
  let credential ← readSecret credentialId
  let knownHosts ← readSecret knownHostsId
  return ⟨target.name, target.address, username, credentialMetadata.metadata.kind, credential,
    knownHosts⟩

/-- The entry for a session. -/
def terminalEvent (actor : AuthenticatedUser) (targetId : TargetId) (requestId : Option Uuid)
    (action : String) (status : Nat) (state : String) (targetName : Option String) (id : Uuid)
    (createdAt : Timestamp) : AuthAuditEvent where
  id
  actorUserId := some actor.id
  actorUsername := actor.username
  actorRole := actor.role
  action
  resourceType := "terminal_session"
  resourceId := some (String.ofList targetId.uuid.toText)
  requestId
  statusCode := status
  details := ⟨none, some state, targetName⟩
  createdAt

/-- `record_terminal_audit`. -/
def recordTerminalAudit (actor : AuthenticatedUser) (targetId : TargetId) (requestId : Option Uuid)
    (action : String) (status : Nat) (state : String) (targetName : Option String) :
    Respond Unit := do
  .require server.repositories .storage
  let id : Uuid ← perform .newEventId
  let now : Timestamp ← perform .now
  let written : Bool ← perform (.appendAuditEvent
    (terminalEvent actor targetId requestId action status state targetName id now))
  .require written .storage

end Handler

/-! ### The connection -/

/-- `SSH_PORT`. -/
def sshPort : Nat := 22

section Connection

variable (server : TerminalServer) (connection : TerminalConnection)

/-- How signing in is answered. -/
def signedOn : SignedOn → Session Unit
  | .timeout => .fail "ssh_authentication_timeout"
  | .failed | .answered false => .fail "ssh_authentication_failed"
  | .answered true => return ()

/-- Sign in with the credential. -/
def authenticate : Session Unit :=
  match connection.credentialKind with
  | .sshPassword => do
    let answer : SignedOn ← perform
      (.authenticatePassword connection.username connection.credential.value)
    signedOn answer
  | .sshPrivateKey => do
    .require (server.decodesSecretKey connection.credential.value) "ssh_private_key_invalid"
    let hash : Bool ← perform .bestRsaHash
    .require hash "ssh_authentication_failed"
    let answer : SignedOn ← perform
      (.authenticatePublickey connection.username connection.credential.value)
    signedOn answer
  | _ => .fail "ssh_credential_invalid"

/-- A step towards the shell. -/
def shellStep (step : ShellStep) (failure : String) : Session Unit := do
  let done : Bool ← perform (.shell step)
  .require done failure

/-- The key that the machine shows is checked while the connection is made. -/
def checkServerKey : Connected → Session Unit
  | .timeout => .fail "ssh_connect_timeout"
  | .failed => .fail "ssh_connect_failed"
  | .offers key =>
    .require ((server.checkKnownHosts connection.address sshPort key
      connection.knownHosts.value).getD false) "ssh_connect_failed"

/-- `open_ssh_session`. -/
def openSshSession : Session Unit := do
  let written : Bool ← perform (.writeKnownHosts connection.knownHosts.value)
  .require written "known_hosts_unavailable"
  let connected : Connected ← perform (.connect connection.address sshPort)
  checkServerKey server connection connected
  authenticate server connection
  shellStep .openSession "ssh_session_failed"
  shellStep .requestPty "ssh_pty_failed"
  shellStep .awaitPty "ssh_pty_failed"
  shellStep .requestShell "ssh_shell_failed"
  shellStep .awaitShell "ssh_shell_failed"

end Connection

/-! ### The loop -/

/-- `IDLE_TIMEOUT`. -/
def idleTimeout : Timestamp := 10 * 60 * 1000000000

/-- `MAX_SESSION_DURATION`. -/
def maxSessionDuration : Timestamp := 60 * 60 * 1000000000

/-- `MAX_INPUT_BYTES`. -/
def maxInputBytes : Nat := 16 * 1024

section Loop

variable (server : TerminalServer) (actor : AuthenticatedUser)

/-- The session is still the one of an admin at the time. -/
def isAdminSession (session : PersistedAuthSession) : Bool :=
  session.userId = actor.id && session.role = .admin && !session.disabled
    && !session.mustChangePassword

/-- `session_is_admin`. -/
def sessionIsAdmin : Session Bool := do
  if !server.repositories then return false
  else
    let session : Option (Option PersistedAuthSession) ←
      perform (.sessionByTokenHash actor.tokenHash)
    match session.join with
    | none => return false
    | some session =>
      if isAdminSession actor session then do
        let now : Timestamp ← perform .now
        return decide (now < session.expiresAt)
      else return false

/-- `send_error`. -/
def sendError (message : String) : Session Unit := do
  let _ : Bool ← perform (.send (.error message))
  return ()

/-- The session ends when it is not the one of an admin any more. -/
def recheck : Session Unit := do
  let admin ← sessionIsAdmin server actor
  if admin then return ()
  else
    sendError "Deine Administratorsitzung ist nicht mehr gültig."
    .fail "session_expired"

/-- The time until which a session may be idle, from now on. -/
def nextIdleDeadline : Session Timestamp := do
  let now : Timestamp ← perform .instant
  return now + idleTimeout

/-- Hand data on to the machine. -/
def forward (bytes : List UInt8) : Session (Option Timestamp) := do
  let idle ← nextIdleDeadline
  let sent : Bool ← perform (.data bytes)
  .require sent "ssh_stream_failed"
  return some idle

/-- A message of the client, of a session that was checked. -/
def onIncoming (idle : Timestamp) : Incoming → Session (Option Timestamp)
  | .text text => do
    match server.parseMessage text with
    | some (.input data) =>
      if data.utf8ByteSize ≤ maxInputBytes then forward (utf8Bytes data)
      else
        sendError "Ungültige oder zu große Terminalnachricht."
        .fail "invalid_client_message"
    | some (.resize columns rows) =>
      if validTerminalDimensions columns rows then
        let idle ← nextIdleDeadline
        let changed : Bool ← perform (.windowChange columns rows)
        .require changed "ssh_stream_failed"
        return some idle
      else
        sendError "Ungültige oder zu große Terminalnachricht."
        .fail "invalid_client_message"
    | some .close => return none
    | none =>
      sendError "Ungültige oder zu große Terminalnachricht."
      .fail "invalid_client_message"
  | .binary data =>
    if data.length ≤ maxInputBytes then forward data
    else do
      sendError "Die Terminalnachricht ist zu groß."
      .fail "oversized_client_message"
  | .ended => return none
  | .ping payload => do
    let sent : Bool ← perform (.send (.pong payload))
    return if sent then some idle else none
  | .pong => return some idle
  | .failed => .fail "websocket_failed"

/-- The session ends since a time is over. -/
def onDeadline (reason : String) : Session (Option Timestamp) := do
  let sent : Bool ← perform (.send (.closed reason))
  .require sent "websocket_send_failed"
  .fail reason

/-- One round of the loop: the time until which the session may be idle then, or nothing when it
ends. -/
def onEvent (idle : Timestamp) : TerminalEvent → Session (Option Timestamp)
  | .maximumDuration => onDeadline "maximum_duration"
  | .idleTimeout => onDeadline "idle_timeout"
  | .authCheck => do
    recheck server actor
    return some idle
  | .incoming message => do
    recheck server actor
    onIncoming server idle message
  | .host (.data bytes) => do
    recheck server actor
    let idle ← nextIdleDeadline
    let sent : Bool ← perform (.send (.output bytes))
    return if sent then some idle else none
  | .host .ended => return none
  | .host .other => return some idle

/-- The loop of `run_session`. -/
def runLoop (maximum : Timestamp) : Nat → Timestamp → Session Unit
  | 0, _ => do
    let longer : Empty ← perform .longer
    nomatch longer
  | rounds + 1, idle => do
    let event : TerminalEvent ← perform (.select maximum idle)
    match ← onEvent server actor idle event with
    | some idle => runLoop maximum rounds idle
    | none => return ()

/-- The channel is closed. -/
def endConnection (reason : String) : Session Unit := do
  let _ : Unit ← perform .closeChannel
  perform (.disconnect reason)

/-- `run_session`. -/
def runSession (connection : TerminalConnection) (rounds : Nat) : Session Unit := do
  match ← (openSshSession server connection).attempt with
  | .error reason => do
    sendError "SSH-Verbindung oder Host-Key-Prüfung fehlgeschlagen."
    .fail reason
  | .ok () => do
    let ready : Bool ← perform (.send .ready)
    if !ready then
      endConnection "terminal client disconnected during setup"
      .fail "websocket_send_failed"
    else
      let started : Timestamp ← perform .instant
      let result : Except String Unit ←
        (runLoop server actor (started + maxSessionDuration) rounds (started + idleTimeout)).attempt
      endConnection "terminal session ended"
      .ofExcept result

end Loop

/-! ### The whole -/

/-- The state that the end of a session is written down with. -/
def endState : Except String Unit → String
  | .ok () => "closed"
  | .error "idle_timeout" => "idle_timeout"
  | .error "maximum_duration" => "maximum_duration"
  | .error _ => "failed"

section Whole

variable (server : TerminalServer) (request : TerminalRequest)

/-- What is done for a request before a lease is taken. -/
def admitTerminal : Respond (AuthenticatedUser × TargetId × TerminalConnection) := do
  let actor ← .ofOption request.actor .unauthorized
  .ofExcept (ensureTerminalAdmin server.accountAuthEnabled actor)
  .ofExcept (validateWebsocketOrigin server request.headers)
  let targetId ← .ofOption (Uuid.parseStr request.targetId.toList)
    (.badRequest "invalid_target_id" "the selected resource is invalid")
  let target ← findTerminalTarget ⟨targetId⟩
  let connection ← loadTerminalConnection target
  return (actor, ⟨targetId⟩, connection)

/-- The task of a session, once the web socket is there. -/
def terminalTask (actor : AuthenticatedUser) (targetId : TargetId)
    (connection : TerminalConnection) (sessionId : Uuid) : Respond (Except String Unit) := do
  let outcome : Except String Unit ←
    (runSession server actor connection request.rounds).attempt
  let state := endState outcome
  let _ : Except ApiError Unit ← (recordTerminalAudit server actor targetId none "terminal.ended"
    (if state = "failed" then 502 else 200) state none).attempt
  perform (.release sessionId)
  return outcome

/-- `terminal_session`: how the session has ended, if there was one. -/
def terminalSession : Respond (Option (Except String Unit)) := do
  let (actor, targetId, connection) ← admitTerminal server request
  let sessionId : Uuid ← perform .newSessionId
  let lease : Except ApiError Unit ← perform (.reserve sessionId actor.id targetId)
  .ofExcept lease
  match ← (recordTerminalAudit server actor targetId (some request.requestId) "terminal.started" 101
    "started" (some connection.targetName)).attempt with
  | .error e => do
    perform (.release sessionId)
    .fail e
  | .ok () => do
    let upgraded : Bool ← perform .upgrade
    if upgraded then
      let outcome ← terminalTask server request actor targetId connection sessionId
      return some outcome
    else
      perform (.release sessionId)
      return none

end Whole

end Lxcup.Terminal
