import Lxcup.Auth.Steps

/-!
# There is always an admin

`update_user` and `delete_user` count the active admins before they take one away, and write later.
The lock of the user administration is held from before the count to the end of the transaction, so
that nobody else takes an admin away in between; all other calls leave roles as they are.

## Main definitions

* `AuthState.HasAdmin` — there is an active admin.
* `Guarded` — what a call can rely on: the lock is its own, and another admin is left.

## Main results

* `guarded_of_reach` — every call can rely on this in every state reached.
* `hasAdmin_of_steps` — once there is an active admin, there always is one.
-/

namespace Lxcup.Auth

open Lxcup.Lib Lxcup.Core

/-- There is an active admin. -/
def AuthState.HasAdmin (s : AuthState) : Prop :=
  ∃ id user, s.users.get id = some user ∧ user.isActiveAdmin = true

/-- The user that a call of the user administration is about. -/
def AuthOp.administers? : AuthOp → Option Uuid
  | .updateUser id _ _ | .deleteUser id => some id
  | _ => none

/-- The user that is no active admin after the call. -/
def AuthOp.removes? : AuthOp → Option Uuid
  | .updateUser id role disabled => if role ≠ .admin || disabled then some id else none
  | .deleteUser id => some id
  | _ => none

/-- Nothing is in the way of the write any more. -/
def Phase.isChecked : Phase → Bool
  | .checked | .written | .revoked _ => true
  | _ => false

/-- The transaction has taken its advisory lock. -/
def Phase.isLocked : Phase → Bool
  | .locked | .selected _ => true
  | phase => phase.isChecked

/-- The user is there, and if it is an active admin there is another one. -/
def Spared (users : Table Uuid AuthUser) (id : Uuid) : Prop :=
  ∃ user, users.get id = some user ∧ (user.isActiveAdmin = true →
    ∃ other user', other ≠ id ∧ users.get other = some user' ∧ user'.isActiveAdmin = true)

/-- What a call can rely on: the lock is its own, the role is the one it has read, and it leaves an
active admin. -/
structure Guarded (s : AuthState) (n : Nat) (call : Call) : Prop where
  holder : ∀ id, call.op.administers? = some id → call.phase.isLocked = true →
    s.administration = some n
  selected : ∀ id existing, call.op.administers? = some id → call.phase = .selected existing →
    ∃ user, s.users.get id = some user ∧ user.role = existing
  spared : ∀ id, call.op.removes? = some id → call.phase.isChecked = true → Spared s.users id

variable {s s' : AuthState} {n : Nat} {op : AuthOp} {call : Call}

/-! ### Counting -/

theorem mem_activeAdmins {id : Uuid} :
    id ∈ (s.users.retain fun _ user => user.isActiveAdmin).keys ↔
      ∃ user, s.users.get id = some user ∧ user.isActiveAdmin = true := by
  rw [Table.mem_keys]
  simp [Table.get_retain, Option.filter_eq_some_iff]

/-- **Two active admins are two users**: one is left without any given user. -/
theorem exists_other_of_activeAdmins (h : 1 < s.activeAdmins) (id : Uuid) :
    ∃ other user, other ≠ id ∧ s.users.get other = some user ∧ user.isActiveAdmin = true := by
  by_contra hnone
  push Not at hnone
  have hsub : (s.users.retain fun _ user => user.isActiveAdmin).keys ⊆ [id] := by
    intro other hmem
    obtain ⟨user, hget, hadmin⟩ := mem_activeAdmins.mp hmem
    by_contra hne
    exact hnone other user (fun heq => hne (List.mem_singleton.mpr heq)) hget hadmin
  have hlength := (List.subperm_of_subset
    (s.users.retain fun _ user => user.isActiveAdmin).nodupKeys hsub).length_le
  rw [List.length_singleton] at hlength
  exact absurd h (Nat.not_lt.mpr hlength)

/-- The write that the guard lets through leaves an active admin. -/
theorem spared_of_activeAdmins {id : Uuid} {user : AuthUser} (hget : s.users.get id = some user)
    (h : user.role = .admin → 1 < s.activeAdmins) : Spared s.users id := by
  refine ⟨user, hget, fun hadmin => exists_other_of_activeAdmins (h ?_) id⟩
  simp only [AuthUser.isActiveAdmin, Bool.and_eq_true, decide_eq_true_eq] at hadmin
  exact hadmin.1

/-! ### Roles -/

/-- The users are still there, and what they are is not changed. -/
def KeepsRoles (users users' : Table Uuid AuthUser) : Prop :=
  ∀ id user, users.get id = some user → ∃ user', users'.get id = some user' ∧
    user'.role = user.role ∧ user'.disabled = user.disabled

theorem keepsRoles_of_eq {users users' : Table Uuid AuthUser} (h : users' = users) :
    KeepsRoles users users' :=
  fun _ user hget => ⟨user, h ▸ hget, rfl, rfl⟩

theorem isActiveAdmin_congr {user user' : AuthUser} (hrole : user'.role = user.role)
    (hdisabled : user'.disabled = user.disabled) : user'.isActiveAdmin = user.isActiveAdmin := by
  rw [AuthUser.isActiveAdmin, AuthUser.isActiveAdmin, hrole, hdisabled]

theorem KeepsRoles.spared {users users' : Table Uuid AuthUser} (h : KeepsRoles users users')
    {id : Uuid} (hspared : Spared users id) : Spared users' id := by
  obtain ⟨user, hget, hother⟩ := hspared
  obtain ⟨user', hget', hrole, hdisabled⟩ := h id user hget
  refine ⟨user', hget', fun hadmin => ?_⟩
  rw [isActiveAdmin_congr hrole hdisabled] at hadmin
  obtain ⟨other, admin, hne, hgetOther, hadminOther⟩ := hother hadmin
  obtain ⟨admin', hgetOther', hrole', hdisabled'⟩ := h other admin hgetOther
  exact ⟨other, admin', hne, hgetOther', by rw [isActiveAdmin_congr hrole' hdisabled', hadminOther]⟩

theorem keepsRoles_put {users : Table Uuid AuthUser} {id : Uuid} {user user' : AuthUser}
    (hget : users.get id = some user) (hrole : user'.role = user.role)
    (hdisabled : user'.disabled = user.disabled) : KeepsRoles users (users.put id user') := by
  intro other old hold
  rw [Table.get_put]
  split
  case isTrue heq =>
    subst heq
    rw [hget] at hold
    cases hold
    exact ⟨user', rfl, hrole, hdisabled⟩
  case isFalse => exact ⟨old, hold, rfl, rfl⟩

/-- **Only the commits of the user administration change roles.** -/
theorem Written.keepsRoles (h : Written s call s') :
    KeepsRoles s.users s'.users ∨
      (∃ id role disabled tokens, ∃ user : AuthUser,
        call = ⟨.updateUser id role disabled, .revoked tokens⟩ ∧
          s'.users = s.users.put id { user with role, disabled }) ∨
      ∃ id, call = ⟨.deleteUser id, .written⟩ ∧ s'.users = s.users.remove id := by
  cases h with
  | nothing users => exact .inl (keepsRoles_of_eq users)
  | revoked users => exact .inl (keepsRoles_of_eq users)
  | updated call_eq found users => exact .inr (.inl ⟨_, _, _, _, _, call_eq, users⟩)
  | deleted call_eq users => exact .inr (.inr ⟨_, call_eq, users⟩)
  | @created id user new users =>
    refine .inl fun other old hold => ⟨old, ?_, rfl, rfl⟩
    rw [users, Table.get_put_ne _ _ ?_, hold]
    rintro rfl
    rw [new] at hold
    cases hold
  | password op_eq phase_eq found commit =>
    rw [commitUser_some found] at commit
    rw [commit]
    exact .inl (keepsRoles_put found rfl rfl)
  | inserted call_eq open_ found new users => exact .inl (keepsRoles_of_eq users)

/-! ### The guard -/

theorem isLocked_of_isChecked {phase : Phase} (h : phase.isChecked = true) :
    phase.isLocked = true := by
  cases phase with
  | locked | selected => rfl
  | _ => exact h

/-- Who takes an admin away administers the users. -/
theorem administers_of_removes {id : Uuid} (h : op.removes? = some id) :
    op.administers? = some id := by
  cases op with
  | updateUser id' role disabled =>
    obtain ⟨-, h⟩ := Option.ite_none_right_eq_some.mp h
    exact h
  | deleteUser id' => exact h
  | _ => cases h

/-- A call that another one leaves alone can rely on the same. -/
theorem Guarded.of_leaves {m : Nat} (h : Guarded s m call) (hm : m ≠ n) (hleaves : Leaves s s' n op)
    (hroles : KeepsRoles s.users s'.users ∨ s.administration = some n) : Guarded s' m call := by
  have hkeeps : ∀ id, call.op.administers? = some id → call.phase.isLocked = true →
      KeepsRoles s.users s'.users := by
    intro id hop hphase
    rcases hroles with hkeeps | hholder
    · exact hkeeps
    · rw [h.holder id hop hphase] at hholder
      exact absurd (Option.some.inj hholder) hm
  constructor
  · intro id hop hphase
    exact hleaves.administration m hm (h.holder id hop hphase)
  · intro id existing hop hphase
    obtain ⟨user, hget, hrole⟩ := h.selected id existing hop hphase
    obtain ⟨user', hget', hrole', -⟩ := hkeeps id hop (by rw [hphase]; rfl) id user hget
    exact ⟨user', hget', hrole'.trans hrole⟩
  · intro id hop hphase
    exact (hkeeps id (administers_of_removes hop) (isLocked_of_isChecked hphase)).spared
      (h.spared id hop hphase)

/-- A call that has not taken the lock, or has ended, relies on nothing. -/
theorem Guarded.of_unlocked (h : call.phase.isLocked = false) : Guarded s n call := by
  constructor
  · intro id hop hphase
    rw [h] at hphase
    cases hphase
  · intro id existing hop hphase
    rw [hphase] at h
    cases h
  · intro id hop hphase
    rw [isLocked_of_isChecked hphase] at h
    cases h

/-- A call that is none of the user administration relies on nothing. -/
theorem Guarded.of_administers (h : call.op.administers? = none) : Guarded s n call := by
  constructor
  · intro id hop
    rw [h] at hop
    cases hop
  · intro id existing hop
    rw [h] at hop
    cases hop
  · intro id hop
    rw [administers_of_removes hop] at h
    cases h

/-- The guard of `update_user` and `delete_user`: they go on with a write that takes an admin away
only if another one is left. -/
theorem guarded_guardLastAdmin {id : Uuid} {existing : AuthUserRole} {removesAdmin : Bool}
    (h : Guarded s n ⟨op, .selected existing⟩) (hop : op.administers? = some id)
    (hremoves : op.removes? = some id → existing = .admin → removesAdmin = true)
    (hcall : (s.guardLastAdmin n op removesAdmin).calls.get n = some call) :
    Guarded (s.guardLastAdmin n op removesAdmin) n call := by
  unfold AuthState.guardLastAdmin at hcall ⊢
  split at hcall
  case isTrue hlast =>
    rw [if_pos hlast]
    rw [AuthState.eq_of_settle hcall]
    exact .of_unlocked rfl
  case isFalse hspare =>
    rw [if_neg hspare]
    rw [AuthState.eq_of_enter hcall]
    obtain ⟨user, hget, hrole⟩ := h.selected id existing hop rfl
    constructor
    · intro id' hop' _
      exact h.holder id' hop' rfl
    · intro id' existing' _ hphase
      cases hphase
    · intro id' hop' _
      have hsame := administers_of_removes hop'
      rw [hop] at hsame
      cases hsame
      refine spared_of_activeAdmins hget fun hadmin => ?_
      have hremoved := hremoves hop' (hrole.symm.trans hadmin)
      simp only [hremoved, Bool.true_and, decide_eq_true_eq] at hspare
      exact Nat.lt_of_not_le hspare

theorem guarded_lockUserAdministration (h : s.lockUserAdministration n op = some s')
    (hcall : s'.calls.get n = some call) : Guarded s' n call := by
  obtain ⟨-, h⟩ := Option.ite_none_right_eq_some.mp h
  cases h
  rw [AuthState.eq_of_enter hcall]
  constructor
  · intro id _ _
    rfl
  · intro id existing _ hphase
    cases hphase
  · intro id _ hphase
    cases hphase

theorem guarded_selectForUpdate {id : Uuid} (h : Guarded s n ⟨op, .locked⟩)
    (hop : op.administers? = some id) (hs : s.selectForUpdate n op id = some s')
    (hcall : s'.calls.get n = some call) : Guarded s' n call := by
  unfold AuthState.selectForUpdate at hs
  split at hs
  case h_1 =>
    cases hs
    rw [AuthState.eq_of_settle hcall]
    exact .of_unlocked rfl
  case h_2 user hget =>
    obtain ⟨-, hs⟩ := Option.ite_none_right_eq_some.mp hs
    cases hs
    rw [AuthState.eq_of_enter hcall]
    constructor
    · intro id' hop' _
      exact h.holder id' hop' rfl
    · intro id' existing hop' hphase
      cases hphase
      rw [hop] at hop'
      cases hop'
      exact ⟨user, hget, rfl⟩
    · intro id' _ hphase
      cases hphase

theorem guarded_settle (hcall : (s.settle n op).calls.get n = some call) :
    Guarded (s.settle n op) n call := by
  rw [AuthState.eq_of_settle hcall]
  exact .of_unlocked rfl

/-- A call that goes on with what is checked can rely on the same as before. -/
theorem guarded_enter {phase phase' : Phase} (h : Guarded s n ⟨op, phase⟩)
    (hphase : phase.isChecked = true) (hphase' : phase'.isChecked = true)
    (hcall : (s.enter n op phase').calls.get n = some call) :
    Guarded (s.enter n op phase') n call := by
  rw [AuthState.eq_of_enter hcall]
  constructor
  · intro id hop _
    exact h.holder id hop (isLocked_of_isChecked hphase)
  · intro id existing _ heq
    simp only at heq
    rw [heq] at hphase'
    cases hphase'
  · intro id hop _
    exact h.spared id hop hphase

theorem guarded_advanceUpdateUser {id : Uuid} {role : AuthUserRole} {disabled : Bool}
    {phase : Phase} (h : Guarded s n ⟨.updateUser id role disabled, phase⟩)
    (hs : s.advance n (.updateUser id role disabled) phase = some s')
    (hcall : s'.calls.get n = some call) : Guarded s' n call := by
  cases phase with
  | started => exact guarded_lockUserAdministration hs hcall
  | locked => exact guarded_selectForUpdate h rfl hs hcall
  | selected existing =>
    cases hs
    refine guarded_guardLastAdmin h rfl (fun hremoves hadmin => ?_) hcall
    simp only [AuthOp.removes?, Option.ite_none_right_eq_some] at hremoves
    rw [hremoves.1, hadmin]
    rfl
  | checked =>
    cases hs
    exact guarded_enter h rfl rfl hcall
  | written =>
    cases hs
    exact guarded_enter h rfl rfl hcall
  | revoked tokens =>
    cases hs
    exact guarded_settle hcall
  | _ => cases hs

theorem guarded_advanceDeleteUser {id : Uuid} {phase : Phase}
    (h : Guarded s n ⟨.deleteUser id, phase⟩) (hs : s.advance n (.deleteUser id) phase = some s')
    (hcall : s'.calls.get n = some call) : Guarded s' n call := by
  cases phase with
  | started => exact guarded_lockUserAdministration hs hcall
  | locked => exact guarded_selectForUpdate h rfl hs hcall
  | selected existing =>
    cases hs
    refine guarded_guardLastAdmin h rfl (fun _ hadmin => ?_) hcall
    simp [hadmin]
  | checked =>
    cases hs
    exact guarded_enter h rfl rfl hcall
  | written =>
    cases hs
    exact guarded_settle hcall
  | _ => cases hs

/-- What a call can rely on after its own next statement. -/
theorem guarded_advance {phase : Phase} (h : Guarded s n ⟨op, phase⟩)
    (hs : s.advance n op phase = some s') (hcall : s'.calls.get n = some call) :
    Guarded s' n call := by
  by_cases hop : op.administers? = none
  · obtain ⟨phase', hown⟩ := (leaves_advance hs).own
    rw [hown] at hcall
    cases hcall
    exact .of_administers hop
  · cases op with
    | updateUser id role disabled => exact guarded_advanceUpdateUser h hs hcall
    | deleteUser id => exact guarded_advanceDeleteUser h hs hcall
    | _ => exact absurd rfl hop

/-- A statement of a guarded call changes no roles, or the call has the lock. -/
theorem Guarded.keepsRoles (h : Guarded s n call) (hwritten : Written s call s') :
    KeepsRoles s.users s'.users ∨ s.administration = some n := by
  rcases hwritten.keepsRoles with hkeeps | ⟨id, _, _, _, _, rfl, -⟩ | ⟨id, rfl, -⟩
  · exact .inl hkeeps
  · exact .inr (h.holder id rfl rfl)
  · exact .inr (h.holder id rfl rfl)

/-- **Every call can rely on its guard**, whatever the others do. -/
theorem guarded_of_reach (h : authMachine.Reach Machine.Any s) :
    ∀ n call, s.calls.get n = some call → Guarded s n call := by
  refine calls_of_reach (fun _ _ _ => .of_unlocked rfl) (fun _ _ _ => .of_unlocked rfl)
    (fun _ _ _ => .of_unlocked rfl) ?_ ?_ h
  · intro s s' n op phase call hguarded hs hcall
    exact guarded_advance hguarded hs hcall
  · intro s s' m n op call other hm hleaves hother hwritten hguarded
    exact hguarded.of_leaves hm hleaves (hother.keepsRoles hwritten)

/-! ### The last admin -/

theorem hasAdmin_of_keepsRoles (h : s.HasAdmin) (hkeeps : KeepsRoles s.users s'.users) :
    s'.HasAdmin := by
  obtain ⟨id, user, hget, hadmin⟩ := h
  obtain ⟨user', hget', hrole, hdisabled⟩ := hkeeps id user hget
  exact ⟨id, user', hget', by rw [isActiveAdmin_congr hrole hdisabled, hadmin]⟩

/-- A write to one user leaves an active admin if it spares one. -/
theorem hasAdmin_of_spared {id : Uuid} (h : s.HasAdmin) (hspared : Spared s.users id)
    (hothers : ∀ other, other ≠ id → s'.users.get other = s.users.get other) : s'.HasAdmin := by
  obtain ⟨admin, user, hget, hadmin⟩ := h
  by_cases heq : admin = id
  · subst heq
    obtain ⟨user', hget', hother⟩ := hspared
    rw [hget] at hget'
    cases hget'
    obtain ⟨other, user', hne, hgetOther, hadminOther⟩ := hother hadmin
    exact ⟨other, user', by rw [hothers other hne, hgetOther], hadminOther⟩
  · exact ⟨admin, user, by rw [hothers admin heq, hget], hadmin⟩

/-- A statement of a guarded call leaves an active admin. -/
theorem Written.hasAdmin (h : Written s call s') (hguarded : Guarded s n call)
    (hadmin : s.HasAdmin) : s'.HasAdmin := by
  rcases h.keepsRoles with hkeeps | ⟨id, role, disabled, tokens, user, rfl, husers⟩ |
    ⟨id, rfl, husers⟩
  · exact hasAdmin_of_keepsRoles hadmin hkeeps
  · by_cases hremoves : (role ≠ .admin || disabled) = true
    · refine hasAdmin_of_spared hadmin (hguarded.spared id (if_pos hremoves) rfl) ?_
      intro other hne
      rw [husers, Table.get_put_ne _ _ hne]
    · refine ⟨id, _, by rw [husers, Table.get_put_self], ?_⟩
      cases role <;> cases disabled <;> simp_all [AuthUser.isActiveAdmin]
  · refine hasAdmin_of_spared hadmin (hguarded.spared id rfl rfl) ?_
    intro other hne
    rw [husers, Table.get_remove, if_neg hne]

theorem hasAdmin_of_step {a : AuthAction} (h : authMachine.Reach Machine.Any s)
    (hadmin : s.HasAdmin) (hs : s.step a = some s') : s'.HasAdmin := by
  rcases written_of_step hs with ⟨husers, -⟩ | ⟨n, call, -, hcall, hwritten⟩
  · exact hasAdmin_of_keepsRoles hadmin (keepsRoles_of_eq husers)
  · exact hwritten.hasAdmin (guarded_of_reach h n call hcall) hadmin

/-- **There is always an admin**: whatever the calls do from a state with an active admin on, every
committed state has one. -/
theorem hasAdmin_of_steps (h : authMachine.Reach Machine.Any s) (hadmin : s.HasAdmin)
    (as : List AuthAction) (hs : authMachine.exec Machine.Any s as = some s') : s'.HasAdmin := by
  induction as generalizing s with
  | nil =>
    cases hs
    exact hadmin
  | cons a as ih =>
    simp only [Machine.exec, Machine.Any] at hs
    obtain ⟨t, ht, hrest⟩ := Option.bind_eq_some_iff.mp hs
    exact ih (.step h trivial ht) (hasAdmin_of_step h hadmin ht) hrest

/-- Two admins. -/
def twoAdmins : AuthState where
  users :=
    ((∅ : Table Uuid AuthUser).put ⟨1⟩ ⟨"admin", "hash", .admin, false, false, 0⟩).put ⟨2⟩
      ⟨"second", "hash", .admin, false, false, 0⟩
  sessions := ∅
  administration := none
  bootstrap := none
  rowLocks := ∅
  calls := ∅

/-- Each of two admins deletes the other; the second waits for the lock, and is refused. -/
def deleteEachOther : List AuthAction :=
  [.call 0 (.deleteUser ⟨1⟩), .call 1 (.deleteUser ⟨2⟩), .advance 0, .advance 0, .advance 0,
    .advance 0, .advance 0, .advance 1, .advance 1, .advance 1]

theorem hasAdmin_deleteEachOther : ∃ s, authMachine.exec Machine.Any twoAdmins deleteEachOther
    = some s ∧ s.users.keys = [⟨2⟩] ∧ s.HasAdmin := by
  have hreach : authMachine.Reach Machine.Any twoAdmins :=
    .init ⟨rfl, rfl, rfl, rfl, fun tokenHash session hget => by cases hget⟩
  have hrun : ∃ s ∈ authMachine.exec Machine.Any twoAdmins deleteEachOther,
      s.users.keys = [⟨2⟩] := by
    decide +kernel
  obtain ⟨s, hexec, hkeys⟩ := hrun
  exact ⟨s, hexec, hkeys, hasAdmin_of_steps hreach ⟨⟨1⟩, _, rfl, rfl⟩ deleteEachOther hexec⟩

end Lxcup.Auth
