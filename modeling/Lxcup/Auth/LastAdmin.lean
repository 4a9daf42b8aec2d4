import Lxcup.Auth.Admins

/-!
# When the last admin is in the way

`update_user` and `delete_user` answer `LastAdmin` when an admin is taken away and at most one
active admin is counted.  They look at the stored role and at the count, and not at whether the
account is active itself.  An admin account that is disabled is not among those counted: where one
active admin is left, it can neither be changed nor deleted, although that admin would stay.

## Main definitions

* `UserError` — the answer.
* `AuthState.updateUser`, `AuthState.deleteUser` — the two operations, from begin to commit.
* `AuthState.updated`, `AuthState.deleted` — what carrying them out makes of the tables.
* `AuthState.SpareAccount` — a disabled admin beside a single active one.
* `Undisturbed`, `EndsWith` — a call that nobody interferes with, and the tables it ends with.

## Main results

* `lastAdmin_iff_needed` — the answer is given only when needed, but for such an account.
* `endsWith_updateUser`, `endsWith_deleteUser` — the statements of a call that nobody interferes
  with do what the operation does.
-/

namespace Lxcup.Auth

open Lxcup.Lib Lxcup.Core

/-! ### The operations -/

/-- `RepositoryError`, as far as the guard answers with it. -/
inductive UserError
  | lastAdmin
  deriving DecidableEq, Repr, Inhabited

namespace AuthState

variable (s : AuthState) (id : Uuid) (role : AuthUserRole) (disabled : Bool)

/-- The tables after a user was changed, and its sessions were revoked. -/
def updated : AuthState :=
  s.commitUser id (fun user => { user with role, disabled }) (s.liveTokens id none) none

/-- The tables after a user was deleted, with its sessions. -/
def deleted : AuthState :=
  { s with
    users := s.users.remove id
    sessions := s.sessions.retain fun _ session => session.userId ≠ id }

/-- `update_user`. -/
def updateUser : Except UserError (Option AuthUser × AuthState) :=
  match s.users.get id with
  | none => .ok (none, s)
  | some user =>
    if (user.role = .admin && (role ≠ .admin || disabled)) && s.activeAdmins ≤ 1 then
      .error .lastAdmin
    else .ok (some { user with role, disabled }, s.updated id role disabled)

/-- `delete_user`. -/
def deleteUser : Except UserError (Bool × AuthState) :=
  match s.users.get id with
  | none => .ok (false, s)
  | some user =>
    if user.role = .admin && s.activeAdmins ≤ 1 then .error .lastAdmin
    else .ok (true, s.deleted id)

/-- The state after an operation; a transaction that fails leaves everything as it is. -/
def after {α : Type} : Except UserError (α × AuthState) → AuthState
  | .ok (_, t) => t
  | .error _ => s

/-- The account of an admin that is disabled, where one active admin is left. -/
def SpareAccount : Prop :=
  s.activeAdmins = 1 ∧
    ∃ user, s.users.get id = some user ∧ user.role = .admin ∧ user.disabled = true

/-- An active admin without this user. -/
def OtherAdmin : Prop :=
  ∃ other user, other ≠ id ∧ s.users.get other = some user ∧ user.isActiveAdmin = true

end AuthState

variable {s t : AuthState} {n : Nat} {op : AuthOp} {id : Uuid} {user : AuthUser}

/-! ### Counting -/

theorem isActiveAdmin_iff :
    user.isActiveAdmin = true ↔ user.role = .admin ∧ user.disabled = false := by
  rw [AuthUser.isActiveAdmin, Bool.and_eq_true, decide_eq_true_eq, Bool.not_eq_true']

theorem one_le_activeAdmins (h : s.HasAdmin) : 1 ≤ s.activeAdmins := by
  obtain ⟨admin, user, hget, hadmin⟩ := h
  exact List.length_pos_of_mem (mem_activeAdmins.mpr ⟨user, hget, hadmin⟩)

/-- **An active admin is the only one** if and only if the count is one. -/
theorem otherAdmin_iff_of_active (hget : s.users.get id = some user)
    (hactive : user.isActiveAdmin = true) : s.OtherAdmin id ↔ 1 < s.activeAdmins := by
  constructor
  · rintro ⟨other, user', hne, hget', hactive'⟩
    have hpair : [id, other] ⊆ (s.users.retain fun _ user => user.isActiveAdmin).keys := by
      intro admin hmem
      rcases List.mem_pair.mp hmem with rfl | rfl
      · exact mem_activeAdmins.mpr ⟨user, hget, hactive⟩
      · exact mem_activeAdmins.mpr ⟨user', hget', hactive'⟩
    have hnodup : [id, other].Nodup := by simp [hne.symm]
    exact (List.subperm_of_subset hnodup hpair).length_le
  · exact fun h => exists_other_of_activeAdmins h id

/-- Who is no active admin can be left out. -/
theorem otherAdmin_of_inactive (hadmin : s.HasAdmin) (hget : s.users.get id = some user)
    (hactive : user.isActiveAdmin = false) : s.OtherAdmin id := by
  obtain ⟨admin, user', hget', hactive'⟩ := hadmin
  refine ⟨admin, user', ?_, hget', hactive'⟩
  rintro rfl
  rw [hget] at hget'
  cases hget'
  rw [hactive] at hactive'
  cases hactive'

/-- **What the guard looks at**, against what would be left: they agree unless the account is an
admin that is disabled, beside a single active one. -/
theorem guard_iff_needed (hadmin : s.HasAdmin) (hget : s.users.get id = some user) :
    ((user.role = .admin ∧ s.activeAdmins ≤ 1) ↔ ¬s.OtherAdmin id) ↔ ¬s.SpareAccount id := by
  have hcount := one_le_activeAdmins hadmin
  have hspare : s.SpareAccount id ↔
      s.activeAdmins = 1 ∧ user.role = .admin ∧ user.disabled = true := by
    unfold AuthState.SpareAccount
    rw [hget]
    simp only [Option.some.injEq, exists_eq_left']
  rw [hspare]
  cases hactive : user.isActiveAdmin with
  | true =>
    obtain ⟨hrole, hdisabled⟩ := isActiveAdmin_iff.mp hactive
    rw [otherAdmin_iff_of_active hget hactive]
    simp [hrole, hdisabled]
  | false =>
    have hother := otherAdmin_of_inactive hadmin hget hactive
    have hnot : ¬(user.role = .admin ∧ user.disabled = false) := by
      rw [← isActiveAdmin_iff, hactive]
      exact Bool.false_ne_true
    rw [iff_false_right (not_not_intro hother)]
    rw [not_and, Bool.not_eq_false] at hnot
    constructor
    · rintro hfree ⟨hone, hrole, -⟩
      exact hfree ⟨hrole, hone.le⟩
    · rintro hfree ⟨hrole, hle⟩
      exact hfree ⟨Nat.le_antisymm hle hcount, hrole, hnot hrole⟩

/-! ### What is left -/

theorem updated_users (hget : s.users.get id = some user) (role : AuthUserRole) (disabled : Bool) :
    (s.updated id role disabled).users = s.users.put id { user with role, disabled } := by
  unfold AuthState.updated AuthState.commitUser
  rw [hget]

theorem hasAdmin_updated (hget : s.users.get id = some user) (role : AuthUserRole)
    (disabled : Bool) :
    (s.updated id role disabled).HasAdmin
      ↔ (role = .admin ∧ disabled = false) ∨ s.OtherAdmin id := by
  unfold AuthState.HasAdmin
  rw [updated_users hget]
  constructor
  · rintro ⟨admin, user', hget', hactive'⟩
    rcases Table.get_put_cases hget' with ⟨rfl, rfl⟩ | ⟨hne, hold⟩
    · exact .inl (isActiveAdmin_iff.mp hactive')
    · exact .inr ⟨admin, user', hne, hold, hactive'⟩
  · rintro (hactive | ⟨other, user', hne, hget', hactive'⟩)
    · exact ⟨id, _, Table.get_put_self .., isActiveAdmin_iff.mpr hactive⟩
    · exact ⟨other, user', by rw [Table.get_put_ne _ _ hne, hget'], hactive'⟩

theorem hasAdmin_deleted : (s.deleted id).HasAdmin ↔ s.OtherAdmin id := by
  show (∃ admin user, (s.users.remove id).get admin = some user ∧ _) ↔ _
  simp only [Table.get_remove]
  constructor
  · rintro ⟨admin, user', hget', hactive'⟩
    split at hget'
    · cases hget'
    · rename_i hne
      exact ⟨admin, user', hne, hget', hactive'⟩
  · rintro ⟨other, user', hne, hget', hactive'⟩
    exact ⟨other, user', by rw [if_neg hne, hget'], hactive'⟩

/-- Without the account there is nothing to change. -/
theorem hasAdmin_updated_of_none (hadmin : s.HasAdmin) (hget : s.users.get id = none)
    (role : AuthUserRole) (disabled : Bool) : (s.updated id role disabled).HasAdmin := by
  have hsame : (s.updated id role disabled).users = s.users := by
    unfold AuthState.updated AuthState.commitUser
    rw [hget]
    rfl
  unfold AuthState.HasAdmin
  rw [hsame]
  exact hadmin

/-- Without the account there is nothing to delete. -/
theorem hasAdmin_deleted_of_none (hadmin : s.HasAdmin) (hget : s.users.get id = none) :
    (s.deleted id).HasAdmin := by
  rw [hasAdmin_deleted]
  obtain ⟨admin, user, hget', hactive⟩ := hadmin
  refine ⟨admin, user, ?_, hget', hactive⟩
  rintro rfl
  rw [hget] at hget'
  cases hget'

/-! ### The answer -/

theorem updateUser_lastAdmin (role : AuthUserRole) (disabled : Bool) :
    s.updateUser id role disabled = .error .lastAdmin ↔ ∃ user, s.users.get id = some user ∧
      (role ≠ .admin ∨ disabled = true) ∧ user.role = .admin ∧ s.activeAdmins ≤ 1 := by
  unfold AuthState.updateUser
  cases s.users.get id with
  | none => simp
  | some user =>
    simp only [Option.some.injEq, exists_eq_left', Bool.and_eq_true, Bool.or_eq_true,
      decide_eq_true_eq]
    split
    · rename_i h
      exact iff_of_true rfl ⟨h.1.2, h.1.1, h.2⟩
    · rename_i h
      exact iff_of_false (by simp) fun hwhen => h ⟨⟨hwhen.2.1, hwhen.1⟩, hwhen.2.2⟩

theorem deleteUser_lastAdmin :
    s.deleteUser id = .error .lastAdmin ↔ ∃ user, s.users.get id = some user ∧
      user.role = .admin ∧ s.activeAdmins ≤ 1 := by
  unfold AuthState.deleteUser
  cases s.users.get id with
  | none => simp
  | some user =>
    simp only [Option.some.injEq, exists_eq_left', Bool.and_eq_true, decide_eq_true_eq]
    split
    · rename_i h
      exact iff_of_true rfl h
    · rename_i h
      exact iff_of_false (by simp) h

theorem not_spareAccount_of_none (hget : s.users.get id = none) : ¬s.SpareAccount id := by
  rintro ⟨-, user, hsome, -⟩
  rw [hget] at hsome
  cases hsome

/-- **`LastAdmin` is answered only when needed**, except for an admin that is disabled, beside a
single active one. -/
theorem lastAdmin_iff_needed (hadmin : s.HasAdmin) (id : Uuid) :
    (∀ role disabled,
      (s.updateUser id role disabled = .error .lastAdmin ↔
          ¬(s.updated id role disabled).HasAdmin) ↔
        ¬(s.SpareAccount id ∧ (role ≠ .admin ∨ disabled = true))) ∧
    ((s.deleteUser id = .error .lastAdmin ↔ ¬(s.deleted id).HasAdmin) ↔ ¬s.SpareAccount id) := by
  cases hget : s.users.get id with
  | none =>
    have hspare := not_spareAccount_of_none hget
    refine ⟨fun role disabled => ?_, ?_⟩
    · rw [updateUser_lastAdmin, hget]
      simp [hspare, hasAdmin_updated_of_none hadmin hget]
    · rw [deleteUser_lastAdmin, hget]
      simp [hspare, hasAdmin_deleted_of_none hadmin hget]
  | some user =>
    have hguard := guard_iff_needed hadmin hget
    refine ⟨fun role disabled => ?_, ?_⟩
    · rw [updateUser_lastAdmin, hasAdmin_updated hget, hget]
      simp only [Option.some.injEq, exists_eq_left']
      by_cases hremoves : role ≠ .admin ∨ disabled = true
      · have hkept : ¬(role = .admin ∧ disabled = false) := by
          rintro ⟨rfl, rfl⟩
          simp at hremoves
        simpa [hremoves, hkept] using hguard
      · have hkept : role = .admin ∧ disabled = false := by simpa using hremoves
        simp [hkept]
    · rw [deleteUser_lastAdmin, hasAdmin_deleted, hget]
      simpa only [Option.some.injEq, exists_eq_left'] using hguard

/-- An admin can delete another one. -/
theorem lastAdmin_twoAdmins :
    (∀ role disabled,
      (twoAdmins.updateUser ⟨1⟩ role disabled = .error .lastAdmin ↔
          ¬(twoAdmins.updated ⟨1⟩ role disabled).HasAdmin) ↔
        ¬(twoAdmins.SpareAccount ⟨1⟩ ∧ (role ≠ .admin ∨ disabled = true))) ∧
    ((twoAdmins.deleteUser ⟨1⟩ = .error .lastAdmin ↔ ¬(twoAdmins.deleted ⟨1⟩).HasAdmin) ↔
      ¬twoAdmins.SpareAccount ⟨1⟩) :=
  lastAdmin_iff_needed ⟨⟨1⟩, _, rfl, rfl⟩ ⟨1⟩

/-- An active admin, and one that was disabled. -/
def oneDisabled : AuthState :=
  { twoAdmins with
    users := twoAdmins.users.put ⟨2⟩ ⟨"second", "hash", .admin, false, true, 0⟩ }

/-- **The disabled account stays**: it can be neither deleted nor made a user, although the active
admin is another one. -/
theorem lastAdmin_oneDisabled :
    oneDisabled.deleteUser ⟨2⟩ = .error .lastAdmin ∧ (oneDisabled.deleted ⟨2⟩).HasAdmin ∧
    oneDisabled.updateUser ⟨2⟩ .user true = .error .lastAdmin ∧
    (oneDisabled.updated ⟨2⟩ .user true).HasAdmin :=
  ⟨by rfl, ⟨⟨1⟩, _, by rfl, by rfl⟩, by rfl, ⟨⟨1⟩, _, by rfl, by rfl⟩⟩

/-! ### The statements of a call -/

/-- A call of the user administration has begun, and nobody holds what it needs. -/
structure Undisturbed (s : AuthState) (n : Nat) (op : AuthOp) (id : Uuid) : Prop where
  administers : op.administers? = some id
  call : s.calls.get n = some ⟨op, .started⟩
  administration : s.administration = none
  row : s.unlocked id = true

/-- The statements up to the end of the call give these tables. -/
def EndsWith (s : AuthState) (n : Nat) (t : AuthState) : Prop :=
  ∃ count t', authMachine.exec Machine.Any s (List.replicate count (.advance n)) = some t' ∧
    (∃ op, t'.calls.get n = some ⟨op, .answered⟩) ∧ t'.users = t.users ∧ t'.sessions = t.sessions

namespace AuthState

variable (s : AuthState) (n : Nat) (op : AuthOp) (id : Uuid)

/-- The call has the advisory lock. -/
def locked : AuthState := { s.enter n op .locked with administration := some n }

/-- The row of the user is locked as well, and its role read. -/
def lockedRow (role : AuthUserRole) : AuthState :=
  { (s.locked n op).enter n op (.selected role) with rowLocks := s.rowLocks.put id ⟨n, true⟩ }

end AuthState

/-- A call that ends has written what it has written. -/
theorem endsWith_settle (husers : s.users = t.users) (hsessions : s.sessions = t.sessions) :
    EndsWith (s.settle n op) n t :=
  ⟨0, s.settle n op, rfl, ⟨op, Table.get_put_self ..⟩, husers, hsessions⟩

/-- One statement more at the beginning. -/
theorem EndsWith.advance {phase : Phase} {u : AuthState} (hcall : s.calls.get n = some ⟨op, phase⟩)
    (hadvance : s.advance n op phase = some u) (h : EndsWith u n t) : EndsWith s n t := by
  obtain ⟨count, t', hexec, hrest⟩ := h
  have hstep : authMachine.step s (.advance n) = some u := by
    show (s.calls.get n).bind _ = some u
    rw [hcall]
    exact hadvance
  refine ⟨count + 1, t', ?_, hrest⟩
  rw [List.replicate_succ, Machine.exec, if_pos (show Machine.Any s _ from trivial), hstep]
  exact hexec

/-- The statement that ends with the row of the user or without one. -/
theorem endsWith_of_select {u : AuthState} (h : Undisturbed s n op id)
    (hselect : (s.locked n op).selectForUpdate n op id = some u) (hends : EndsWith u n t) :
    EndsWith s n t := by
  have hlock : s.lockUserAdministration n op = some (s.locked n op) := if_pos h.administration
  have hop := h.administers
  cases op with
  | updateUser id' role disabled =>
    cases hop
    exact .advance h.call hlock (.advance (Table.get_put_self ..) hselect hends)
  | deleteUser id' =>
    cases hop
    exact .advance h.call hlock (.advance (Table.get_put_self ..) hselect hends)
  | _ => cases hop

theorem endsWith_of_lockedRow (h : Undisturbed s n op id) (hget : s.users.get id = some user)
    (hends : EndsWith (s.lockedRow n op id user.role) n t) : EndsWith s n t := by
  refine endsWith_of_select h ?_ hends
  unfold AuthState.selectForUpdate
  rw [show (s.locked n op).users.get id = some user from hget]
  exact if_pos h.row

theorem endsWith_of_none (h : Undisturbed s n op id) (hget : s.users.get id = none) :
    EndsWith s n s := by
  refine endsWith_of_select h ?_ (@endsWith_settle (s.locked n op) s n op rfl rfl)
  unfold AuthState.selectForUpdate
  rw [show (s.locked n op).users.get id = none from hget]

/-- What is committed does not depend on the locks and the calls. -/
theorem commitUser_congr (husers : s.users = t.users) (hsessions : s.sessions = t.sessions)
    (change : AuthUser → AuthUser) (tokens : List String) (keep : Option String) :
    (s.commitUser id change tokens keep).users = (t.commitUser id change tokens keep).users ∧
      (s.commitUser id change tokens keep).sessions
        = (t.commitUser id change tokens keep).sessions := by
  unfold AuthState.commitUser AuthState.revokeTokens
  rw [husers, hsessions]
  cases t.users.get id with
  | none => exact ⟨rfl, rfl⟩
  | some user => exact ⟨rfl, rfl⟩

/-- The last statement of `update_user`, with the commit. -/
theorem endsWith_of_revoked {role : AuthUserRole} {disabled : Bool}
    {tokens : List String} (hcall : s.calls.get n
      = some ⟨.updateUser id role disabled, .revoked tokens⟩)
    (husers : s.users = t.users) (hsessions : s.sessions = t.sessions) :
    EndsWith s n (t.commitUser id (fun user => { user with role, disabled }) tokens none) := by
  obtain ⟨husers, hsessions⟩ := @commitUser_congr _ _ id husers hsessions
    (fun user => { user with role, disabled }) tokens none
  exact .advance hcall rfl (endsWith_settle husers hsessions)

/-- **The statements of `update_user`** do what the operation does. -/
theorem endsWith_updateUser {role : AuthUserRole} {disabled : Bool}
    (h : Undisturbed s n (.updateUser id role disabled) id) :
    EndsWith s n (s.after (s.updateUser id role disabled)) := by
  unfold AuthState.updateUser
  cases hget : s.users.get id with
  | none => exact endsWith_of_none h hget
  | some user =>
    refine endsWith_of_lockedRow h hget ?_
    dsimp only
    split
    · rename_i hguard
      exact .advance (Table.get_put_self ..) (congrArg some (if_pos hguard))
        (endsWith_settle rfl rfl)
    · rename_i hguard
      refine .advance (Table.get_put_self ..) (congrArg some (if_neg hguard)) ?_
      -- the row is written, then its sessions are listed
      refine .advance (Table.get_put_self ..) rfl (.advance (Table.get_put_self ..) rfl ?_)
      exact endsWith_of_revoked (Table.get_put_self ..) rfl rfl

/-- **The statements of `delete_user`** do what the operation does. -/
theorem endsWith_deleteUser (h : Undisturbed s n (.deleteUser id) id) :
    EndsWith s n (s.after (s.deleteUser id)) := by
  unfold AuthState.deleteUser
  cases hget : s.users.get id with
  | none => exact endsWith_of_none h hget
  | some user =>
    refine endsWith_of_lockedRow h hget ?_
    dsimp only
    split
    · rename_i hguard
      exact .advance (Table.get_put_self ..) (congrArg some (if_pos hguard))
        (endsWith_settle rfl rfl)
    · rename_i hguard
      refine .advance (Table.get_put_self ..) (congrArg some (if_neg hguard)) ?_
      refine .advance (Table.get_put_self ..) rfl (.advance (Table.get_put_self ..) rfl ?_)
      exact endsWith_settle rfl rfl

end Lxcup.Auth
