import Lxcup.Core.Ids
import Lxcup.Lib.Machine
import Lxcup.Lib.Table

/-!
# User accounts

The tables of users and sessions, and everything that writes them, statement by statement.  The
administration of users (`update_user`, `delete_user`) and the bootstrap (`create_initial_admin`)
each take an advisory lock that is held to the end of the transaction; passwords are changed in a
transaction that first updates the user and then revokes sessions; a login reads the user, verifies
the password and inserts the session by separate statements.

The state holds what is committed.  What a transaction has written is in how far it has come, and
gets into the tables with its commit.  A row that a transaction has locked keeps other writers of
the row away until then; an insert of a session waits only for those that have locked the row
`FOR UPDATE`, because a new password is no key.  Any call may fail at any step, and a transaction
that fails is rolled back.

Users and sessions carry for the statements about them how often a password was changed.  No step
reads it.

## Main definitions

* `AuthUser`, `AuthSession`, `AuthState`.
* `AuthOp`, `Phase`, `Call` — the calls, and how far they have come.
* `AuthState.sessionByTokenHash` — the sessions that are accepted.
* `AuthAction`, `AuthState.step`, `authMachine`.
-/

namespace Lxcup.Auth

open Lxcup.Lib Lxcup.Core

/-- The roles of users. -/
inductive AuthUserRole
  | admin | user
  deriving DecidableEq, Repr, Inhabited

/-- A row of `auth_users`. -/
structure AuthUser where
  username : String
  passwordHash : String
  role : AuthUserRole
  mustChangePassword : Bool
  disabled : Bool
  /-- How often the password was changed. -/
  passwordVersion : Nat
  deriving DecidableEq, Repr

/-- `role = 'admin' AND disabled = FALSE`. -/
def AuthUser.isActiveAdmin (user : AuthUser) : Bool := user.role = .admin && !user.disabled

/-- The user with a new password. -/
def AuthUser.withPassword (user : AuthUser) (passwordHash : String) (mustChangePassword : Bool) :
    AuthUser :=
  { user with
    passwordHash
    mustChangePassword
    passwordVersion := user.passwordVersion + 1 }

/-- A row of `auth_sessions`. -/
structure AuthSession where
  userId : Uuid
  expiresAt : Timestamp
  revoked : Bool
  /-- The password that the login has verified, or the one that the session was kept for. -/
  passwordVersion : Nat
  deriving DecidableEq, Repr

/-- The calls.  Ids and hashes of tokens are drawn when a call begins. -/
inductive AuthOp
  | updateUser (id : Uuid) (role : AuthUserRole) (disabled : Bool)
  | deleteUser (id : Uuid)
  | createUser (id : Uuid) (username passwordHash : String) (role : AuthUserRole)
      (mustChangePassword : Bool)
  | createInitialAdmin (id : Uuid) (passwordHash : String)
  | resetUserPassword (id : Uuid) (passwordHash : String)
  | changePassword (id : Uuid) (passwordHash currentSessionHash : String)
  | login (username tokenHash : String) (expiresAt : Timestamp)
  | revokeSession (tokenHash : String)
  deriving DecidableEq, Repr

/-- How far a call has come. -/
inductive Phase
  | started
  /-- The advisory lock is taken. -/
  | locked
  /-- The row of the user is locked, and the role read. -/
  | selected (existing : AuthUserRole)
  /-- Nothing is in the way of the write. -/
  | checked
  /-- The row of the user is written. -/
  | written
  /-- The sessions with these tokens are revoked as well. -/
  | revoked (tokens : List String)
  /-- A login has read the user. -/
  | found (id : Uuid) (passwordVersion : Nat)
  | verified (id : Uuid) (passwordVersion : Nat)
  /-- The login is in the audit log. -/
  | audited (id : Uuid) (passwordVersion : Nat)
  | inserted
  /-- The audit log could not be updated, and the session is revoked next. -/
  | unaccounted
  | answered
  deriving DecidableEq, Repr

/-- A call and how far it has come. -/
structure Call where
  op : AuthOp
  phase : Phase
  deriving DecidableEq, Repr

/-- The lock of a row; a row that is only updated is still a key to refer to. -/
structure RowLock where
  owner : Nat
  forUpdate : Bool
  deriving DecidableEq, Repr

/-- The tables as they are committed, the locks and the calls. -/
structure AuthState where
  users : Table Uuid AuthUser
  sessions : Table String AuthSession
  /-- The owner of the advisory lock 718244114. -/
  administration : Option Nat
  /-- The owner of the advisory lock 718244113. -/
  bootstrap : Option Nat
  rowLocks : Table Uuid RowLock
  calls : Table Nat Call

namespace AuthState

variable (s : AuthState) (n : Nat) (op : AuthOp)

/-- `session_by_token_hash`. -/
def sessionByTokenHash (tokenHash : String) (now : Timestamp) : Option (AuthSession × AuthUser) :=
  (s.sessions.get tokenHash).bind fun session =>
    (s.users.get session.userId).bind fun user =>
      if !session.revoked && session.expiresAt > now && !user.disabled then some (session, user)
      else none

/-- `SELECT COUNT(*) FROM auth_users WHERE role = 'admin' AND disabled = FALSE`. -/
def activeAdmins : Nat := (s.users.retain fun _ user => user.isActiveAdmin).keys.length

/-- The sessions of a user that are not revoked, without the one to keep. -/
def liveTokens (id : Uuid) (keep : Option String) : List String :=
  (s.sessions.retain fun tokenHash session =>
    session.userId = id && !session.revoked && keep ≠ some tokenHash).keys

/-- The call goes on. -/
def enter (phase : Phase) : AuthState := { s with calls := s.calls.put n ⟨op, phase⟩ }

/-- The call ends, and its transaction with it: the locks are free. -/
def settle : AuthState :=
  { s with
    administration := if s.administration = some n then none else s.administration
    bootstrap := if s.bootstrap = some n then none else s.bootstrap
    rowLocks := s.rowLocks.retain fun _ lock => lock.owner ≠ n
    calls := s.calls.put n ⟨op, .answered⟩ }

/-- The row of a user is locked by nobody. -/
def unlocked (id : Uuid) : Bool := (s.rowLocks.get id).isNone

/-- `lock_user_administration`; waits while the lock is taken. -/
def lockUserAdministration : Option AuthState :=
  if s.administration = none then some { s.enter n op .locked with administration := some n }
  else none

/-- `SELECT role FROM auth_users WHERE id = $1 FOR UPDATE`; without a row the transaction is
over. -/
def selectForUpdate (id : Uuid) : Option AuthState :=
  match s.users.get id with
  | none => some (s.settle n op)
  | some user =>
    if s.unlocked id then
      some { s.enter n op (.selected user.role) with rowLocks := s.rowLocks.put id ⟨n, true⟩ }
    else none

/-- The last active admin is kept: a write that takes an admin away needs another one. -/
def guardLastAdmin (removesAdmin : Bool) : AuthState :=
  if removesAdmin && s.activeAdmins ≤ 1 then s.settle n op else s.enter n op .checked

/-- The sessions with these tokens are revoked. -/
def revokeTokens (tokens : List String) : AuthState :=
  { s with
    sessions := s.sessions.mapValues fun tokenHash session =>
      if tokenHash ∈ tokens then { session with revoked := true } else session }

/-- The row of a user is changed, and the sessions with these tokens are revoked; a session that is
kept stands for the password that the user has then. -/
def commitUser (id : Uuid) (change : AuthUser → AuthUser) (tokens : List String)
    (keep : Option String) : AuthState :=
  match s.users.get id with
  | none => s.revokeTokens tokens
  | some user =>
    { s with
      users := s.users.put id (change user)
      sessions := s.sessions.mapValues fun tokenHash session =>
        if tokenHash ∈ tokens then { session with revoked := true }
        else if keep = some tokenHash ∧ session.userId = id then
          { session with passwordVersion := (change user).passwordVersion }
        else session }

/-- The statements of `update_user`. -/
def advanceUpdateUser (id : Uuid) (role : AuthUserRole) (disabled : Bool) :
    Phase → Option AuthState
  | .started => s.lockUserAdministration n op
  | .locked => s.selectForUpdate n op id
  | .selected existing =>
    some (s.guardLastAdmin n op (existing = .admin && (role ≠ .admin || disabled)))
  | .checked => some (s.enter n op .written)
  | .written => some (s.enter n op (.revoked (s.liveTokens id none)))
  | .revoked tokens =>
    some ((s.commitUser id (fun user => { user with role, disabled }) tokens none).settle n op)
  | _ => none

/-- The statements of `delete_user`; the sessions go by their foreign key. -/
def advanceDeleteUser (id : Uuid) : Phase → Option AuthState
  | .started => s.lockUserAdministration n op
  | .locked => s.selectForUpdate n op id
  | .selected existing => some (s.guardLastAdmin n op (existing = .admin))
  | .checked => some (s.enter n op .written)
  | .written =>
    some (AuthState.settle
      { s with
        users := s.users.remove id
        sessions := s.sessions.retain fun _ session => session.userId ≠ id } n op)
  | _ => none

/-- The id or the name of a new user is taken. -/
def taken (id : Uuid) (username : String) : Bool :=
  s.users.any fun id' user => id' = id || user.username = username

/-- A user is about to be inserted with this id or name, so that another insert waits. -/
def inserting (id : Uuid) (username : String) : Bool :=
  s.calls.any fun _ call =>
    match call with
    | ⟨.createInitialAdmin id' _, .written⟩ => id' = id || username = "admin"
    | _ => false

/-- `create_user` is one statement. -/
def advanceCreateUser (id : Uuid) (user : AuthUser) : Phase → Option AuthState
  | .started =>
    if s.inserting id user.username then none
    else if s.taken id user.username then some (s.settle n op)
    else some (AuthState.settle { s with users := s.users.put id user } n op)
  | _ => none

/-- The statements of `create_initial_admin`. -/
def advanceCreateInitialAdmin (id : Uuid) (passwordHash : String) : Phase → Option AuthState
  | .started =>
    if s.bootstrap = none then some { s.enter n op .locked with bootstrap := some n } else none
  | .locked =>
    if s.users.keys ≠ [] then some (s.settle n op) else some (s.enter n op .checked)
  | .checked =>
    if s.inserting id "admin" then none
    else if s.taken id "admin" then some (s.settle n op)
    else some (s.enter n op .written)
  | .written =>
    -- whoever wants the id or the name waits for the commit
    if s.taken id "admin" then none
    else
      some (AuthState.settle
        { s with users := s.users.put id ⟨"admin", passwordHash, .admin, true, false, 0⟩ } n op)
  | _ => none

/-- The statements of `reset_user_password` and `change_password`, which keeps a session. -/
def advancePassword (id : Uuid) (passwordHash : String) (mustChangePassword : Bool)
    (keep : Option String) : Phase → Option AuthState
  | .started =>
    if s.unlocked id then
      match s.users.get id with
      | none => some (s.settle n op)
      | some user =>
        if user.disabled then some (s.settle n op)
        else some { s.enter n op .written with rowLocks := s.rowLocks.put id ⟨n, false⟩ }
    else none
  | .written => some (s.enter n op (.revoked (s.liveTokens id keep)))
  | .revoked tokens =>
    some ((s.commitUser id (·.withPassword passwordHash mustChangePassword) tokens keep).settle n
      op)
  | _ => none

/-- `user_by_username`. -/
def userByUsername (username : String) : Option (Uuid × AuthUser) :=
  (s.users.entries.find? fun entry => entry.2.username = username).map fun entry =>
    (entry.1, entry.2)

/-- `save_session`; the foreign key waits for a row that is locked `FOR UPDATE`. -/
def saveSession (id : Uuid) (passwordVersion : Nat) (tokenHash : String) (expiresAt : Timestamp) :
    Option AuthState :=
  if (s.rowLocks.get id).any (·.forUpdate) then none
  else if (s.users.get id).isNone || (s.sessions.get tokenHash).isSome then some (s.settle n op)
  else
    some { s.enter n op .inserted with
      sessions := s.sessions.put tokenHash ⟨id, expiresAt, false, passwordVersion⟩ }

/-- The statements of `auth_login` when the password is right. -/
def advanceLogin (username tokenHash : String) (expiresAt : Timestamp) :
    Phase → Option AuthState
  | .started =>
    match s.userByUsername username with
    | none => some (s.settle n op)
    | some (id, user) =>
      if user.disabled then some (s.settle n op)
      else some (s.enter n op (.found id user.passwordVersion))
  | .found id passwordVersion => some (s.enter n op (.verified id passwordVersion))
  | .verified id passwordVersion => some (s.enter n op (.audited id passwordVersion))
  | .audited id passwordVersion => s.saveSession n op id passwordVersion tokenHash expiresAt
  | .inserted => some (s.settle n op)
  | .unaccounted => some ((s.revokeTokens [tokenHash]).settle n op)
  | _ => none

/-- `revoke_session`. -/
def advanceRevokeSession (tokenHash : String) : Phase → Option AuthState
  | .started => some ((s.revokeTokens [tokenHash]).settle n op)
  | _ => none

/-- The next statement of a call. -/
def advance (phase : Phase) : Option AuthState :=
  match op with
  | .updateUser id role disabled => s.advanceUpdateUser n op id role disabled phase
  | .deleteUser id => s.advanceDeleteUser n op id phase
  | .createUser id username passwordHash role mustChangePassword =>
    s.advanceCreateUser n op id ⟨username, passwordHash, role, mustChangePassword, false, 0⟩ phase
  | .createInitialAdmin id passwordHash => s.advanceCreateInitialAdmin n op id passwordHash phase
  | .resetUserPassword id passwordHash => s.advancePassword n op id passwordHash true none phase
  | .changePassword id passwordHash currentSessionHash =>
    s.advancePassword n op id passwordHash false (some currentSessionHash) phase
  | .login username tokenHash expiresAt =>
    s.advanceLogin n op username tokenHash expiresAt phase
  | .revokeSession tokenHash => s.advanceRevokeSession n op tokenHash phase

/-- The next statement or check of a call fails: a transaction is rolled back, and a login revokes
the session that it has inserted. -/
def fail (phase : Phase) : Option AuthState :=
  match phase with
  | .answered => none
  | .inserted => some (s.enter n op .unaccounted)
  | _ => some (s.settle n op)

end AuthState

/-- The steps: a call begins, goes on or fails. -/
inductive AuthAction
  | call (n : Nat) (op : AuthOp)
  | advance (n : Nat)
  | fail (n : Nat)
  deriving DecidableEq, Repr

/-- The call that a step belongs to. -/
def AuthAction.owner : AuthAction → Nat
  | call n _ | advance n | fail n => n

/-- The state after a step. -/
def AuthState.step (s : AuthState) : AuthAction → Option AuthState
  | .call n op => if (s.calls.get n).isNone then some (s.enter n op .started) else none
  | .advance n => (s.calls.get n).bind fun call => s.advance n call.op call.phase
  | .fail n => (s.calls.get n).bind fun call => s.fail n call.op call.phase

/-- A session that is not revoked belongs to a user, and stands for the password of the user. -/
def AuthState.Current (s : AuthState) : Prop :=
  ∀ tokenHash session, s.sessions.get tokenHash = some session →
    ∃ user, s.users.get session.userId = some user ∧
      (session.revoked = false → session.passwordVersion = user.passwordVersion)

/-- The accounts, from a moment on at which there is no call. -/
def authMachine : Machine AuthState AuthAction where
  init s := s.administration = none ∧ s.bootstrap = none ∧ s.rowLocks = ∅ ∧ s.calls = ∅ ∧ s.Current
  step := AuthState.step

end Lxcup.Auth
