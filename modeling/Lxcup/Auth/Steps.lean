import Lxcup.Auth.Service

/-!
# What the calls of the accounts do

What a step leaves alone: the other calls, and the locks that they hold.  And what it commits.

## Main definitions

* `Leaves` — what a step leaves alone.
* `Written` — everything a step does to the tables.

## Main results

* `leaves_of_step`, `written_of_step`.
* `calls_of_reach` — the rule for what every call can rely on.
-/

namespace Lxcup.Auth

open Lxcup.Lib Lxcup.Core

variable {s s' t : AuthState} {n : Nat} {op : AuthOp}

namespace AuthState

@[simp] theorem enter_calls (phase : Phase) :
    (s.enter n op phase).calls = s.calls.put n ⟨op, phase⟩ := rfl

@[simp] theorem settle_users : (s.settle n op).users = s.users := rfl

@[simp] theorem settle_sessions : (s.settle n op).sessions = s.sessions := rfl

@[simp] theorem settle_calls : (s.settle n op).calls = s.calls.put n ⟨op, .answered⟩ := rfl

/-- A call that has gone on is where it has gone. -/
theorem eq_of_enter {phase : Phase} {call : Call}
    (h : (s.enter n op phase).calls.get n = some call) : call = ⟨op, phase⟩ := by
  rw [enter_calls, Table.get_put_self, Option.some.injEq] at h
  exact h.symm

/-- A call that has ended is answered. -/
theorem eq_of_settle {call : Call} (h : (s.settle n op).calls.get n = some call) :
    call = ⟨op, .answered⟩ := by
  rw [settle_calls, Table.get_put_self, Option.some.injEq] at h
  exact h.symm

end AuthState

/-! ### What a step leaves alone -/

/-- The other calls and their locks stay as they are, and the call stays the one it is. -/
structure Leaves (s s' : AuthState) (n : Nat) (op : AuthOp) : Prop where
  own : ∃ phase, s'.calls.get n = some ⟨op, phase⟩
  calls : ∀ m, m ≠ n → s'.calls.get m = s.calls.get m
  administration : ∀ m, m ≠ n → s.administration = some m → s'.administration = some m
  rowLocks : ∀ id lock, lock.owner ≠ n → s.rowLocks.get id = some lock →
    s'.rowLocks.get id = some lock

/-- Going on leaves the others alone, whatever is written. -/
theorem leaves_enter {phase : Phase} (hcalls : s'.calls = s.calls.put n ⟨op, phase⟩)
    (hadministration : s'.administration = s.administration) (hrows : s'.rowLocks = s.rowLocks) :
    Leaves s s' n op where
  own := ⟨phase, by rw [hcalls, Table.get_put_self]⟩
  calls m hm := by rw [hcalls, Table.get_put_ne _ _ hm]
  administration m _ h := by rw [hadministration, h]
  rowLocks id lock _ h := by rw [hrows, h]

/-- Ending leaves the others alone, whatever is written. -/
theorem leaves_settle (hcalls : t.calls = s.calls) (hadministration : t.administration =
    s.administration) (hrows : t.rowLocks = s.rowLocks) : Leaves s (t.settle n op) n op where
  own := ⟨.answered, by rw [AuthState.settle_calls, Table.get_put_self]⟩
  calls m hm := by rw [AuthState.settle_calls, hcalls, Table.get_put_ne _ _ hm]
  administration m hm h := by
    simp only [AuthState.settle, hadministration, h]
    exact if_neg fun heq => hm (Option.some.inj heq)
  rowLocks id lock howner h := by
    simp [AuthState.settle, hrows, Table.get_retain, h, howner]

theorem leaves_lockUserAdministration (h : s.lockUserAdministration n op = some s') :
    Leaves s s' n op := by
  obtain ⟨hfree, h⟩ := Option.ite_none_right_eq_some.mp h
  cases h
  exact {
    own := ⟨.locked, Table.get_put_self _ _ _⟩
    calls := fun m hm => Table.get_put_ne _ _ hm
    administration := fun m _ hm => by
      rw [hfree] at hm
      cases hm
    rowLocks := fun _ _ _ hlock => hlock }

/-- A row that is locked now was locked by nobody. -/
theorem leaves_lockRow {id : Uuid} {lock : RowLock} {phase : Phase} (hfree : s.unlocked id = true) :
    Leaves s { s.enter n op phase with rowLocks := s.rowLocks.put id lock } n op where
  own := ⟨phase, Table.get_put_self _ _ _⟩
  calls m hm := Table.get_put_ne _ _ hm
  administration _ _ h := h
  rowLocks id' lock' _ h := by
    refine (Table.get_put_ne _ _ ?_).trans h
    rintro rfl
    rw [AuthState.unlocked, h] at hfree
    cases hfree

theorem leaves_selectForUpdate {id : Uuid} (h : s.selectForUpdate n op id = some s') :
    Leaves s s' n op := by
  unfold AuthState.selectForUpdate at h
  split at h
  case h_1 =>
    cases h
    exact leaves_settle rfl rfl rfl
  case h_2 =>
    obtain ⟨hfree, h⟩ := Option.ite_none_right_eq_some.mp h
    cases h
    exact leaves_lockRow hfree

theorem leaves_guardLastAdmin (removesAdmin : Bool) :
    Leaves s (s.guardLastAdmin n op removesAdmin) n op := by
  unfold AuthState.guardLastAdmin
  split
  case isTrue => exact leaves_settle rfl rfl rfl
  case isFalse => exact leaves_enter rfl rfl rfl

theorem leaves_commitUser {id : Uuid} {change : AuthUser → AuthUser} {tokens : List String}
    {keep : Option String} : Leaves s ((s.commitUser id change tokens keep).settle n op) n op := by
  unfold AuthState.commitUser
  split <;> exact leaves_settle rfl rfl rfl

theorem leaves_advancePassword {id : Uuid} {passwordHash : String} {mustChangePassword : Bool}
    {keep : Option String} {phase : Phase}
    (h : s.advancePassword n op id passwordHash mustChangePassword keep phase = some s') :
    Leaves s s' n op := by
  cases phase with
  | started =>
    obtain ⟨hfree, h⟩ := Option.ite_none_right_eq_some.mp h
    split at h
    case h_1 =>
      cases h
      exact leaves_settle rfl rfl rfl
    case h_2 =>
      split at h
      case isTrue =>
        cases h
        exact leaves_settle rfl rfl rfl
      case isFalse =>
        cases h
        exact leaves_lockRow hfree
  | written =>
    cases h
    exact leaves_enter rfl rfl rfl
  | revoked tokens =>
    cases h
    exact leaves_commitUser
  | _ => cases h

theorem leaves_advanceLogin {username tokenHash : String} {expiresAt : Timestamp} {phase : Phase}
    (h : s.advanceLogin n op username tokenHash expiresAt phase = some s') : Leaves s s' n op := by
  cases phase with
  | started =>
    simp only [AuthState.advanceLogin] at h
    split at h
    case h_1 =>
      cases h
      exact leaves_settle rfl rfl rfl
    case h_2 =>
      split at h
      case isTrue =>
        cases h
        exact leaves_settle rfl rfl rfl
      case isFalse =>
        cases h
        exact leaves_enter rfl rfl rfl
  | audited id passwordVersion =>
    simp only [AuthState.advanceLogin, AuthState.saveSession] at h
    split at h
    case isTrue => cases h
    case isFalse =>
      split at h
      case isTrue =>
        cases h
        exact leaves_settle rfl rfl rfl
      case isFalse =>
        cases h
        exact leaves_enter rfl rfl rfl
  | found id passwordVersion =>
    cases h
    exact leaves_enter rfl rfl rfl
  | verified id passwordVersion =>
    cases h
    exact leaves_enter rfl rfl rfl
  | inserted =>
    cases h
    exact leaves_settle rfl rfl rfl
  | unaccounted =>
    cases h
    exact leaves_settle rfl rfl rfl
  | _ => cases h

theorem leaves_advanceCreateInitialAdmin {id : Uuid} {passwordHash : String} {phase : Phase}
    (h : s.advanceCreateInitialAdmin n op id passwordHash phase = some s') : Leaves s s' n op := by
  cases phase with
  | started =>
    obtain ⟨-, h⟩ := Option.ite_none_right_eq_some.mp h
    cases h
    exact leaves_enter rfl rfl rfl
  | locked =>
    simp only [AuthState.advanceCreateInitialAdmin] at h
    split at h
    case isTrue =>
      cases h
      exact leaves_settle rfl rfl rfl
    case isFalse =>
      cases h
      exact leaves_enter rfl rfl rfl
  | checked =>
    obtain ⟨-, h⟩ := Option.ite_none_left_eq_some.mp h
    split at h
    case isTrue =>
      cases h
      exact leaves_settle rfl rfl rfl
    case isFalse =>
      cases h
      exact leaves_enter rfl rfl rfl
  | written =>
    obtain ⟨-, h⟩ := Option.ite_none_left_eq_some.mp h
    cases h
    exact leaves_settle rfl rfl rfl
  | _ => cases h

theorem leaves_advanceCreateUser {id : Uuid} {user : AuthUser} {phase : Phase}
    (h : s.advanceCreateUser n op id user phase = some s') : Leaves s s' n op := by
  cases phase with
  | started =>
    obtain ⟨-, h⟩ := Option.ite_none_left_eq_some.mp h
    split at h
    case isTrue =>
      cases h
      exact leaves_settle rfl rfl rfl
    case isFalse =>
      cases h
      exact leaves_settle rfl rfl rfl
  | _ => cases h

theorem leaves_advanceUpdateUser {id : Uuid} {role : AuthUserRole} {disabled : Bool}
    {phase : Phase} (h : s.advanceUpdateUser n op id role disabled phase = some s') :
    Leaves s s' n op := by
  cases phase with
  | started => exact leaves_lockUserAdministration h
  | locked => exact leaves_selectForUpdate h
  | selected existing =>
    cases h
    exact leaves_guardLastAdmin _
  | checked =>
    cases h
    exact leaves_enter rfl rfl rfl
  | written =>
    cases h
    exact leaves_enter rfl rfl rfl
  | revoked tokens =>
    cases h
    exact leaves_commitUser
  | _ => cases h

theorem leaves_advanceDeleteUser {id : Uuid} {phase : Phase}
    (h : s.advanceDeleteUser n op id phase = some s') : Leaves s s' n op := by
  cases phase with
  | started => exact leaves_lockUserAdministration h
  | locked => exact leaves_selectForUpdate h
  | selected existing =>
    cases h
    exact leaves_guardLastAdmin _
  | checked =>
    cases h
    exact leaves_enter rfl rfl rfl
  | written =>
    cases h
    exact leaves_settle rfl rfl rfl
  | _ => cases h

theorem leaves_advanceRevokeSession {tokenHash : String} {phase : Phase}
    (h : s.advanceRevokeSession n op tokenHash phase = some s') : Leaves s s' n op := by
  cases phase with
  | started =>
    cases h
    exact leaves_settle rfl rfl rfl
  | _ => cases h

theorem leaves_advance {phase : Phase} (h : s.advance n op phase = some s') : Leaves s s' n op := by
  cases op with
  | updateUser id role disabled => exact leaves_advanceUpdateUser h
  | deleteUser id => exact leaves_advanceDeleteUser h
  | createUser id username passwordHash role mustChangePassword =>
    exact leaves_advanceCreateUser h
  | createInitialAdmin id passwordHash => exact leaves_advanceCreateInitialAdmin h
  | resetUserPassword id passwordHash => exact leaves_advancePassword h
  | changePassword id passwordHash currentSessionHash => exact leaves_advancePassword h
  | login username tokenHash expiresAt => exact leaves_advanceLogin h
  | revokeSession tokenHash => exact leaves_advanceRevokeSession h

theorem leaves_fail {phase : Phase} (h : s.fail n op phase = some s') : Leaves s s' n op := by
  unfold AuthState.fail at h
  split at h
  case h_1 => cases h
  case h_2 =>
    cases h
    exact leaves_enter rfl rfl rfl
  case h_3 =>
    cases h
    exact leaves_settle rfl rfl rfl

/-- **A step leaves the other calls and their locks alone.** -/
theorem leaves_of_step {a : AuthAction} (hs : s.step a = some s') :
    ∃ op, Leaves s s' a.owner op := by
  cases a with
  | call n op =>
    obtain ⟨-, hs⟩ := Option.ite_none_right_eq_some.mp hs
    cases hs
    exact ⟨op, leaves_enter rfl rfl rfl⟩
  | advance n =>
    obtain ⟨call, -, hs⟩ := Option.bind_eq_some_iff.mp hs
    exact ⟨call.op, leaves_advance hs⟩
  | fail n =>
    obtain ⟨call, -, hs⟩ := Option.bind_eq_some_iff.mp hs
    exact ⟨call.op, leaves_fail hs⟩

/-! ### What a step commits -/

/-- The transaction that changes the password of a user: the new password, and the session that is
kept. -/
structure NewPassword where
  id : Uuid
  passwordHash : String
  mustChangePassword : Bool
  keep : Option String
  deriving DecidableEq, Repr

/-- The new password that a call is about. -/
def AuthOp.newPassword? : AuthOp → Option NewPassword
  | .resetUserPassword id passwordHash => some ⟨id, passwordHash, true, none⟩
  | .changePassword id passwordHash currentSessionHash =>
    some ⟨id, passwordHash, false, some currentSessionHash⟩
  | _ => none

/-- Everything a step of a call does to the tables. -/
inductive Written (s : AuthState) (call : Call) : AuthState → Prop
  | nothing {t : AuthState} (users : t.users = s.users) (sessions : t.sessions = s.sessions) :
      Written s call t
  /-- Sessions are revoked. -/
  | revoked {t : AuthState} {tokens : List String} (users : t.users = s.users)
      (sessions : t.sessions = (s.revokeTokens tokens).sessions) : Written s call t
  /-- `update_user` is committed. -/
  | updated {t : AuthState} {id : Uuid} {role : AuthUserRole} {disabled : Bool}
      {tokens : List String} {user : AuthUser}
      (call_eq : call = ⟨.updateUser id role disabled, .revoked tokens⟩)
      (found : s.users.get id = some user)
      (users : t.users = s.users.put id { user with role, disabled })
      (sessions : t.sessions = (s.revokeTokens tokens).sessions) : Written s call t
  /-- `delete_user` is committed. -/
  | deleted {t : AuthState} {id : Uuid} (call_eq : call = ⟨.deleteUser id, .written⟩)
      (users : t.users = s.users.remove id)
      (sessions : t.sessions = s.sessions.retain fun _ session => session.userId ≠ id) :
      Written s call t
  /-- A user is created. -/
  | created {t : AuthState} {id : Uuid} {user : AuthUser} (new : s.users.get id = none)
      (users : t.users = s.users.put id user) (sessions : t.sessions = s.sessions) :
      Written s call t
  /-- A password is changed. -/
  | password {t : AuthState} {change : NewPassword} {tokens : List String} {user : AuthUser}
      (op_eq : call.op.newPassword? = some change) (phase_eq : call.phase = .revoked tokens)
      (found : s.users.get change.id = some user)
      (commit : t.users = (s.commitUser change.id
        (·.withPassword change.passwordHash change.mustChangePassword) tokens change.keep).users)
      (sessions : t.sessions = (s.commitUser change.id
        (·.withPassword change.passwordHash change.mustChangePassword) tokens
        change.keep).sessions) : Written s call t
  /-- A session is inserted. -/
  | inserted {t : AuthState} {id : Uuid} {passwordVersion : Nat} {username tokenHash : String}
      {expiresAt : Timestamp}
      (call_eq : call = ⟨.login username tokenHash expiresAt, .audited id passwordVersion⟩)
      (open_ : (s.rowLocks.get id).any (·.forUpdate) = false)
      (found : s.users.get id ≠ none) (new : s.sessions.get tokenHash = none)
      (users : t.users = s.users)
      (sessions : t.sessions =
        s.sessions.put tokenHash ⟨id, expiresAt, false, passwordVersion⟩) : Written s call t

theorem commitUser_none {id : Uuid} {change : AuthUser → AuthUser} {tokens : List String}
    {keep : Option String} (h : s.users.get id = none) :
    s.commitUser id change tokens keep = s.revokeTokens tokens := by
  rw [AuthState.commitUser, h]

theorem commitUser_some {id : Uuid} {change : AuthUser → AuthUser} {tokens : List String}
    {keep : Option String} {user : AuthUser} (h : s.users.get id = some user) :
    s.commitUser id change tokens keep =
      { s with
        users := s.users.put id (change user)
        sessions := s.sessions.mapValues fun tokenHash session =>
          if tokenHash ∈ tokens then { session with revoked := true }
          else if keep = some tokenHash ∧ session.userId = id then
            { session with passwordVersion := (change user).passwordVersion }
          else session } := by
  rw [AuthState.commitUser, h]

theorem get_of_not_taken {id : Uuid} {username : String} (h : s.taken id username = false) :
    s.users.get id = none := by
  refine Option.eq_none_iff_forall_ne_some.mpr fun user hget => ?_
  have hfree := Table.any_eq_false.mp h id user hget
  simp at hfree

theorem written_selectForUpdate {call : Call} {id : Uuid}
    (h : s.selectForUpdate n op id = some s') : Written s call s' := by
  unfold AuthState.selectForUpdate at h
  split at h
  case h_1 =>
    cases h
    exact .nothing rfl rfl
  case h_2 =>
    obtain ⟨-, h⟩ := Option.ite_none_right_eq_some.mp h
    cases h
    exact .nothing rfl rfl

theorem written_guardLastAdmin {call : Call} (removesAdmin : Bool) :
    Written s call (s.guardLastAdmin n op removesAdmin) := by
  unfold AuthState.guardLastAdmin
  split <;> exact .nothing rfl rfl

theorem written_advanceUpdateUser {id : Uuid} {role : AuthUserRole} {disabled : Bool}
    {phase : Phase} (h : s.advanceUpdateUser n op id role disabled phase = some s') :
    Written s ⟨.updateUser id role disabled, phase⟩ s' := by
  cases phase with
  | started =>
    obtain ⟨-, h⟩ := Option.ite_none_right_eq_some.mp h
    cases h
    exact .nothing rfl rfl
  | locked => exact written_selectForUpdate h
  | selected existing =>
    cases h
    exact written_guardLastAdmin _
  | checked =>
    cases h
    exact .nothing rfl rfl
  | written =>
    cases h
    exact .nothing rfl rfl
  | revoked tokens =>
    cases h
    cases hget : s.users.get id with
    | none =>
      rw [commitUser_none hget]
      exact @Written.revoked _ _ _ tokens rfl rfl
    | some user =>
      rw [commitUser_some hget]
      refine .updated rfl hget rfl ?_
      simp [AuthState.revokeTokens]
  | _ => cases h

theorem written_advanceDeleteUser {id : Uuid} {phase : Phase}
    (h : s.advanceDeleteUser n op id phase = some s') :
    Written s ⟨.deleteUser id, phase⟩ s' := by
  cases phase with
  | started =>
    obtain ⟨-, h⟩ := Option.ite_none_right_eq_some.mp h
    cases h
    exact .nothing rfl rfl
  | locked => exact written_selectForUpdate h
  | selected existing =>
    cases h
    exact written_guardLastAdmin _
  | checked =>
    cases h
    exact .nothing rfl rfl
  | written =>
    cases h
    exact .deleted rfl rfl rfl
  | _ => cases h

theorem written_advanceCreateUser {call : Call} {id : Uuid} {user : AuthUser} {phase : Phase}
    (h : s.advanceCreateUser n op id user phase = some s') : Written s call s' := by
  cases phase with
  | started =>
    obtain ⟨-, h⟩ := Option.ite_none_left_eq_some.mp h
    split at h
    case isTrue =>
      cases h
      exact .nothing rfl rfl
    case isFalse hfree =>
      cases h
      exact .created (get_of_not_taken (Bool.eq_false_iff.mpr hfree)) rfl rfl
  | _ => cases h

theorem written_advanceCreateInitialAdmin {call : Call} {id : Uuid} {passwordHash : String}
    {phase : Phase} (h : s.advanceCreateInitialAdmin n op id passwordHash phase = some s') :
    Written s call s' := by
  cases phase with
  | started =>
    obtain ⟨-, h⟩ := Option.ite_none_right_eq_some.mp h
    cases h
    exact .nothing rfl rfl
  | locked =>
    simp only [AuthState.advanceCreateInitialAdmin] at h
    split at h <;>
      · cases h
        exact .nothing rfl rfl
  | checked =>
    obtain ⟨-, h⟩ := Option.ite_none_left_eq_some.mp h
    split at h <;>
      · cases h
        exact .nothing rfl rfl
  | written =>
    obtain ⟨hfree, h⟩ := Option.ite_none_left_eq_some.mp h
    cases h
    exact .created (get_of_not_taken (Bool.eq_false_iff.mpr hfree)) rfl rfl
  | _ => cases h

theorem written_advancePassword {call : Call} {change : NewPassword}
    (hcall : call.op.newPassword? = some change)
    (h : s.advancePassword n op change.id change.passwordHash change.mustChangePassword change.keep
      call.phase = some s') : Written s call s' := by
  cases hphase : call.phase with
  | started =>
    rw [hphase] at h
    obtain ⟨-, h⟩ := Option.ite_none_right_eq_some.mp h
    split at h
    case h_1 =>
      cases h
      exact .nothing rfl rfl
    case h_2 =>
      split at h <;>
        · cases h
          exact .nothing rfl rfl
  | written =>
    rw [hphase] at h
    cases h
    exact .nothing rfl rfl
  | revoked tokens =>
    rw [hphase] at h
    cases h
    cases hget : s.users.get change.id with
    | none =>
      rw [commitUser_none hget]
      exact @Written.revoked _ _ _ tokens rfl rfl
    | some user => exact .password hcall hphase hget rfl rfl
  | _ =>
    rw [hphase] at h
    cases h

theorem written_advanceLogin {username tokenHash : String} {expiresAt : Timestamp} {phase : Phase}
    (h : s.advanceLogin n op username tokenHash expiresAt phase = some s') :
    Written s ⟨.login username tokenHash expiresAt, phase⟩ s' := by
  cases phase with
  | started =>
    simp only [AuthState.advanceLogin] at h
    split at h
    case h_1 =>
      cases h
      exact .nothing rfl rfl
    case h_2 =>
      split at h <;>
        · cases h
          exact .nothing rfl rfl
  | found id passwordVersion =>
    cases h
    exact .nothing rfl rfl
  | verified id passwordVersion =>
    cases h
    exact .nothing rfl rfl
  | audited id passwordVersion =>
    simp only [AuthState.advanceLogin, AuthState.saveSession] at h
    split at h
    case isTrue => cases h
    case isFalse hopen =>
      split at h
      case isTrue =>
        cases h
        exact .nothing rfl rfl
      case isFalse hfound =>
        cases h
        simp only [Bool.or_eq_true, Option.isNone_iff_eq_none, Option.isSome_iff_ne_none, not_or,
          not_not] at hfound
        exact .inserted rfl (Bool.eq_false_iff.mpr hopen) hfound.1 hfound.2 rfl rfl
  | inserted =>
    cases h
    exact .nothing rfl rfl
  | unaccounted =>
    cases h
    exact @Written.revoked _ _ _ [tokenHash] rfl rfl
  | _ => cases h

theorem written_advanceRevokeSession {call : Call} {tokenHash : String} {phase : Phase}
    (h : s.advanceRevokeSession n op tokenHash phase = some s') : Written s call s' := by
  cases phase with
  | started =>
    cases h
    exact @Written.revoked _ _ _ [tokenHash] rfl rfl
  | _ => cases h

theorem written_advance {call : Call} (h : s.advance n call.op call.phase = some s') :
    Written s call s' := by
  obtain ⟨op, phase⟩ := call
  cases op with
  | updateUser id role disabled => exact written_advanceUpdateUser h
  | deleteUser id => exact written_advanceDeleteUser h
  | createUser id username passwordHash role mustChangePassword =>
    exact written_advanceCreateUser h
  | createInitialAdmin id passwordHash => exact written_advanceCreateInitialAdmin h
  | resetUserPassword id passwordHash =>
    exact @written_advancePassword _ _ _ _ _ ⟨id, passwordHash, true, none⟩ rfl h
  | changePassword id passwordHash currentSessionHash =>
    exact @written_advancePassword _ _ _ _ _
      ⟨id, passwordHash, false, some currentSessionHash⟩ rfl h
  | login username tokenHash expiresAt => exact written_advanceLogin h
  | revokeSession tokenHash => exact written_advanceRevokeSession h

/-- **What a step commits**: only the next statement of a call writes anything. -/
theorem written_of_step {a : AuthAction} (hs : s.step a = some s') :
    (s'.users = s.users ∧ s'.sessions = s.sessions) ∨
      ∃ n call, a = .advance n ∧ s.calls.get n = some call ∧ Written s call s' := by
  cases a with
  | call n op =>
    obtain ⟨-, hs⟩ := Option.ite_none_right_eq_some.mp hs
    cases hs
    exact .inl ⟨rfl, rfl⟩
  | advance n =>
    obtain ⟨call, hcall, hs⟩ := Option.bind_eq_some_iff.mp hs
    exact .inr ⟨n, call, rfl, hcall, written_advance hs⟩
  | fail n =>
    obtain ⟨call, -, hs⟩ := Option.bind_eq_some_iff.mp hs
    unfold AuthState.fail at hs
    split at hs
    case h_1 => cases hs
    case h_2 =>
      cases hs
      exact .inl ⟨rfl, rfl⟩
    case h_3 =>
      cases hs
      exact .inl ⟨rfl, rfl⟩

/-! ### What every call can rely on -/

/-- **The rule for what every call can rely on.**  A call relies on nothing at its start, after a
failure and at its end; its own statements keep what it relies on, and so does whatever leaves it
alone. -/
theorem calls_of_reach {P : AuthState → Nat → Call → Prop}
    (hstarted : ∀ s n op, P s n ⟨op, .started⟩) (hfailed : ∀ s n op, P s n ⟨op, .unaccounted⟩)
    (hanswered : ∀ s n op, P s n ⟨op, .answered⟩)
    (hown : ∀ s s' n op phase call, P s n ⟨op, phase⟩ → s.advance n op phase = some s' →
      s'.calls.get n = some call → P s' n call)
    (hother : ∀ s s' m n op call other, m ≠ n → Leaves s s' n op → P s n other →
      Written s other s' → P s m call → P s' m call)
    (h : authMachine.Reach Machine.Any s) : ∀ n call, s.calls.get n = some call → P s n call := by
  refine @Machine.Reach.invariant _ _ _ _
    (fun s => ∀ n call, s.calls.get n = some call → P s n call) ?_ ?_ s h
  · rintro s ⟨-, -, -, hcalls, -⟩ n call hcall
    rw [hcalls] at hcall
    cases hcall
  · intro s a s' _ ih _ hs m call hcall
    obtain ⟨op, hleaves⟩ := leaves_of_step hs
    by_cases hm : m = a.owner
    · subst hm
      cases a with
      | call n op =>
        obtain ⟨-, hs⟩ := Option.ite_none_right_eq_some.mp hs
        cases hs
        rw [AuthState.eq_of_enter hcall]
        exact hstarted _ _ _
      | advance n =>
        obtain ⟨before, hbefore, hs⟩ := Option.bind_eq_some_iff.mp hs
        exact hown s s' n before.op before.phase call (ih n before hbefore) hs hcall
      | fail n =>
        obtain ⟨before, -, hs⟩ := Option.bind_eq_some_iff.mp hs
        unfold AuthState.fail at hs
        split at hs
        case h_1 => cases hs
        case h_2 =>
          cases hs
          rw [AuthState.eq_of_enter hcall]
          exact hfailed _ _ _
        case h_3 =>
          cases hs
          rw [AuthState.eq_of_settle hcall]
          exact hanswered _ _ _
    · rw [hleaves.calls m hm] at hcall
      rcases written_of_step hs with ⟨husers, hsessions⟩ | ⟨n, other, rfl, hget, hwritten⟩
      · exact hother s s' m a.owner op call ⟨op, .answered⟩ hm hleaves (hanswered _ _ _)
          (.nothing husers hsessions) (ih m call hcall)
      · exact hother s s' m n op call other hm hleaves (ih n other hget) hwritten (ih m call hcall)

end Lxcup.Auth
