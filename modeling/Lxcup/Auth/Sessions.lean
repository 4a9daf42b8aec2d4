import Lxcup.Auth.Admins

/-!
# Sessions and new passwords

A new password revokes the sessions of the user that there are at that moment.  A login that has
verified the old password before, and inserts its session after, is not among them.

## Main definitions

* `AuthState.OnlyCurrent` — every session that is accepted stands for the password of its user.
* `Holding` — what a call can rely on through the row that it has locked.
* `Verified` — a login inserts a session for a password that is still in force, and a new password
  revokes all sessions but the one to keep.

## Main results

* `onlyCurrent_of_reach` — in every run whose steps meet this condition, all sessions stand for
  current passwords; and any other step leaves one that does not.
* `login_survives_reset` — a session for a password that was reset.
-/

namespace Lxcup.Auth

open Lxcup.Lib Lxcup.Core

/-- Every session that is accepted stands for the password that its user has. -/
def AuthState.OnlyCurrent (s : AuthState) : Prop :=
  ∀ tokenHash now session user, s.sessionByTokenHash tokenHash now = some (session, user) →
    session.passwordVersion = user.passwordVersion

/-- The same, of the sessions that would be accepted if they were not expired. -/
def AuthState.Live (s : AuthState) : Prop :=
  ∀ tokenHash session user, s.sessions.get tokenHash = some session →
    s.users.get session.userId = some user → session.revoked = false → user.disabled = false →
      session.passwordVersion = user.passwordVersion

instance (s : AuthState) : Decidable s.Live :=
  decidable_of_iff (s.sessions.any (fun _ session =>
      (s.users.get session.userId).any fun user => !session.revoked && !user.disabled
        && session.passwordVersion ≠ user.passwordVersion) = false) (by
    simp only [AuthState.Live, Table.any_eq_false, Option.any_eq_false, Bool.and_eq_false_imp,
      Bool.and_eq_true, Bool.not_eq_true', decide_eq_false_iff_not, ne_eq, not_not, and_imp]
    exact forall₂_congr fun _ _ => ⟨fun h user hsession huser => h hsession user huser,
      fun h hsession user huser => h user hsession huser⟩)

/-- The row of the user is locked. -/
def Phase.ownsRow : Phase → Bool
  | .selected _ => true
  | phase => phase.isChecked

/-- The sessions of the user that are not revoked are among the given ones. -/
def Covers (sessions : Table String AuthSession) (id : Uuid) (tokens : List String) : Prop :=
  ∀ tokenHash session, sessions.get tokenHash = some session → session.userId = id →
    session.revoked = false → tokenHash ∈ tokens

/-- What a call can rely on through the row that it has locked: an account stays enabled while its
password is changed, and a user who is updated gets no new session. -/
structure Holding (s : AuthState) (n : Nat) (call : Call) : Prop where
  administers : ∀ id, call.op.administers? = some id → call.phase.ownsRow = true →
    s.rowLocks.get id = some ⟨n, true⟩
  changes : ∀ change, call.op.newPassword? = some change → call.phase.isChecked = true →
    s.rowLocks.get change.id = some ⟨n, false⟩ ∧
      ∃ user, s.users.get change.id = some user ∧ user.disabled = false
  covers : ∀ id tokens, call.op.administers? = some id → call.phase = .revoked tokens →
    Covers s.sessions id tokens

/-- The sessions belong to users. -/
def AuthState.Owned (s : AuthState) : Prop :=
  ∀ tokenHash session, s.sessions.get tokenHash = some session →
    ∃ user, s.users.get session.userId = some user

/-- **The step lets no session in for a password that is not in force**: a login inserts a session
for the password that its user has; and when a new password comes into force, the sessions of the
user are all among those that are revoked with it, or kept. -/
structure CallVerified (s : AuthState) (call : Call) : Prop where
  login : ∀ username tokenHash expiresAt id passwordVersion user,
    call = ⟨.login username tokenHash expiresAt, .audited id passwordVersion⟩ →
      s.sessions.get tokenHash = none → s.users.get id = some user → user.disabled = false →
        passwordVersion = user.passwordVersion
  password : ∀ change tokens, call.op.newPassword? = some change → call.phase = .revoked tokens →
    ∀ tokenHash session, s.sessions.get tokenHash = some session →
      session.userId = change.id → session.revoked = false →
        tokenHash ∈ tokens ∨ change.keep = some tokenHash

/-- The condition on the steps of a run. -/
def Verified (s : AuthState) : AuthAction → Prop
  | .advance n => ∀ call, s.calls.get n = some call → CallVerified s call
  | _ => True

variable {s s' : AuthState} {n : Nat} {op : AuthOp} {call : Call}

/-! ### Sessions that are accepted -/

theorem sessionByTokenHash_eq_some {tokenHash : String} {now : Timestamp} {session : AuthSession}
    {user : AuthUser} : s.sessionByTokenHash tokenHash now = some (session, user) ↔
      s.sessions.get tokenHash = some session ∧ s.users.get session.userId = some user ∧
        session.revoked = false ∧ session.expiresAt > now ∧ user.disabled = false := by
  unfold AuthState.sessionByTokenHash
  rw [Option.bind_eq_some_iff]
  constructor
  · rintro ⟨session', hsession, h⟩
    obtain ⟨user', huser, h⟩ := Option.bind_eq_some_iff.mp h
    obtain ⟨haccepted, h⟩ := Option.ite_none_right_eq_some.mp h
    cases h
    simp only [Bool.and_eq_true, Bool.not_eq_true', decide_eq_true_eq] at haccepted
    exact ⟨hsession, huser, haccepted.1.1, haccepted.1.2, haccepted.2⟩
  · rintro ⟨hsession, huser, hlive, hunexpired, henabled⟩
    refine ⟨session, hsession, Option.bind_eq_some_iff.mpr ⟨user, huser, ?_⟩⟩
    simp [hlive, hunexpired, henabled]

/-- Every session is accepted before it expires. -/
theorem onlyCurrent_iff_live : s.OnlyCurrent ↔ s.Live := by
  constructor
  · intro h tokenHash session user hsession huser hlive henabled
    have hearlier : session.expiresAt > session.expiresAt - 1 := Int.sub_lt_self _ Int.one_pos
    exact h tokenHash (session.expiresAt - 1) session user
      (sessionByTokenHash_eq_some.mpr ⟨hsession, huser, hlive, hearlier, henabled⟩)
  · intro h tokenHash now session user haccepted
    obtain ⟨hsession, huser, hlive, -, henabled⟩ := sessionByTokenHash_eq_some.mp haccepted
    exact h tokenHash session user hsession huser hlive henabled

theorem get_revokeTokens {tokens : List String} {tokenHash : String} {session' : AuthSession}
    (h : (s.revokeTokens tokens).sessions.get tokenHash = some session') :
    ∃ session, s.sessions.get tokenHash = some session ∧ session'.userId = session.userId ∧
      (session'.revoked = false → session' = session ∧ tokenHash ∉ tokens) := by
  rw [AuthState.revokeTokens, Table.get_mapValues] at h
  obtain ⟨session, hget, hsession⟩ := Option.map_eq_some_iff.mp h
  refine ⟨session, hget, ?_⟩
  split at hsession
  case isTrue =>
    cases hsession
    exact ⟨rfl, fun hlive => by cases hlive⟩
  case isFalse hmem =>
    cases hsession
    exact ⟨rfl, fun _ => ⟨rfl, hmem⟩⟩

/-- What becomes of a session when a password is changed. -/
theorem get_commitUser {id : Uuid} {change : AuthUser → AuthUser} {tokens : List String}
    {keep : Option String} {user : AuthUser} {tokenHash : String} {session' : AuthSession}
    (hfound : s.users.get id = some user)
    (h : (s.commitUser id change tokens keep).sessions.get tokenHash = some session') :
    ∃ session, s.sessions.get tokenHash = some session ∧ session'.userId = session.userId ∧
      (session'.revoked = false → session.revoked = false ∧ tokenHash ∉ tokens ∧
        session'.passwordVersion =
          if keep = some tokenHash ∧ session.userId = id then (change user).passwordVersion
          else session.passwordVersion) := by
  rw [commitUser_some hfound] at h
  simp only [Table.get_mapValues] at h
  obtain ⟨session, hget, hsession⟩ := Option.map_eq_some_iff.mp h
  refine ⟨session, hget, ?_⟩
  split at hsession
  case isTrue =>
    cases hsession
    exact ⟨rfl, fun hlive => by cases hlive⟩
  case isFalse hmem =>
    split at hsession
    case isTrue hkept =>
      cases hsession
      exact ⟨rfl, fun hlive => ⟨hlive, hmem, (if_pos hkept).symm⟩⟩
    case isFalse hkept =>
      cases hsession
      exact ⟨rfl, fun hlive => ⟨hlive, hmem, (if_neg hkept).symm⟩⟩

theorem mem_liveTokens {id : Uuid} {keep : Option String} {tokenHash : String} :
    tokenHash ∈ s.liveTokens id keep ↔ ∃ session, s.sessions.get tokenHash = some session ∧
      session.userId = id ∧ session.revoked = false ∧ keep ≠ some tokenHash := by
  rw [AuthState.liveTokens, Table.mem_keys]
  simp [Table.get_retain, Option.filter_eq_some_iff, and_assoc]

/-- What a step does to the sessions of a user: it revokes some, and a login inserts one if the row
of the user is not locked `FOR UPDATE`. -/
theorem Written.session (h : Written s call s') {tokenHash : String} {session' : AuthSession}
    (hget : s'.sessions.get tokenHash = some session') :
    (∃ session, s.sessions.get tokenHash = some session ∧ session'.userId = session.userId ∧
      (session'.revoked = false → session.revoked = false)) ∨
    (s.rowLocks.get session'.userId).any (·.forUpdate) = false := by
  cases h with
  | nothing users sessions => exact .inl ⟨session', sessions ▸ hget, rfl, fun hlive => hlive⟩
  | revoked users sessions =>
    rw [sessions] at hget
    obtain ⟨session, hold, hid, hlive⟩ := get_revokeTokens hget
    exact .inl ⟨session, hold, hid, fun hunrevoked => (hlive hunrevoked).1 ▸ hunrevoked⟩
  | updated call_eq found users sessions =>
    rw [sessions] at hget
    obtain ⟨session, hold, hid, hlive⟩ := get_revokeTokens hget
    exact .inl ⟨session, hold, hid, fun hunrevoked => (hlive hunrevoked).1 ▸ hunrevoked⟩
  | deleted call_eq users sessions =>
    rw [sessions, Table.get_retain] at hget
    obtain ⟨hold, -⟩ := Option.filter_eq_some_iff.mp hget
    exact .inl ⟨session', hold, rfl, fun hlive => hlive⟩
  | created new users sessions =>
    exact .inl ⟨session', sessions ▸ hget, rfl, fun hlive => hlive⟩
  | password op_eq phase_eq found users sessions =>
    rw [sessions] at hget
    obtain ⟨session, hold, hid, hlive⟩ := get_commitUser found hget
    exact .inl ⟨session, hold, hid, fun hunrevoked => (hlive hunrevoked).1⟩
  | @inserted id passwordVersion username token expiresAt call_eq open_ found new users sessions =>
    rw [sessions] at hget
    rcases Table.get_put_cases hget with ⟨-, rfl⟩ | ⟨-, hold⟩
    · exact .inr open_
    · exact .inl ⟨session', hold, rfl, fun hlive => hlive⟩

theorem exists_get_put {users : Table Uuid AuthUser} {id id' : Uuid} {user : AuthUser}
    (h : ∃ user, users.get id = some user) : ∃ user', (users.put id' user).get id = some user' := by
  obtain ⟨old, hget⟩ := h
  rw [Table.get_put]
  split
  case isTrue => exact ⟨user, rfl⟩
  case isFalse => exact ⟨old, hget⟩

theorem Written.owned (h : Written s call s') (howned : s.Owned) : s'.Owned := by
  intro tokenHash session' hget
  cases h with
  | nothing users sessions =>
    rw [users]
    exact howned tokenHash session' (sessions ▸ hget)
  | revoked users sessions =>
    rw [sessions] at hget
    obtain ⟨session, hold, hid, -⟩ := get_revokeTokens hget
    rw [users, hid]
    exact howned tokenHash session hold
  | updated call_eq found users sessions =>
    rw [sessions] at hget
    obtain ⟨session, hold, hid, -⟩ := get_revokeTokens hget
    rw [users, hid]
    exact exists_get_put (howned tokenHash session hold)
  | deleted call_eq users sessions =>
    rw [sessions, Table.get_retain] at hget
    obtain ⟨hold, hother⟩ := Option.filter_eq_some_iff.mp hget
    rw [users, Table.get_remove, if_neg (by simpa using hother)]
    exact howned tokenHash session' hold
  | created new users sessions =>
    rw [users]
    exact exists_get_put (howned tokenHash session' (sessions ▸ hget))
  | password op_eq phase_eq found users sessions =>
    rw [sessions] at hget
    obtain ⟨session, hold, hid, -⟩ := get_commitUser found hget
    rw [users, commitUser_some found, hid]
    exact exists_get_put (howned tokenHash session hold)
  | inserted call_eq open_ found new users sessions =>
    rw [sessions] at hget
    rw [users]
    rcases Table.get_put_cases hget with ⟨-, rfl⟩ | ⟨-, hold⟩
    · exact Option.ne_none_iff_exists'.mp found
    · exact howned tokenHash session' hold

/-- **The sessions always belong to users.** -/
theorem owned_of_reach (h : authMachine.Reach Machine.Any s) : s.Owned := by
  refine h.invariant ?_ ?_
  · rintro s ⟨-, -, -, -, hcurrent⟩ tokenHash session hget
    obtain ⟨user, huser, -⟩ := hcurrent tokenHash session hget
    exact ⟨user, huser⟩
  · intro s a s' _ ih _ hs
    rcases written_of_step hs with ⟨husers, hsessions⟩ | ⟨n, call, -, -, hwritten⟩
    · intro tokenHash session' hget
      rw [husers]
      exact ih tokenHash session' (hsessions ▸ hget)
    · exact hwritten.owned ih

/-! ### Locked rows -/

theorem ownsRow_of_isChecked {phase : Phase} (h : phase.isChecked = true) :
    phase.ownsRow = true := by
  cases phase with
  | selected => rfl
  | _ => exact h

/-- A call that has locked no row relies on nothing. -/
theorem Holding.of_unlocked (h : call.phase.ownsRow = false) : Holding s n call := by
  constructor
  · intro id _ howns
    rw [h] at howns
    cases howns
  · intro change _ hphase
    rw [ownsRow_of_isChecked hphase] at h
    cases h
  · intro id tokens _ hphase
    rw [hphase] at h
    cases h

/-- A call that is about no user in particular relies on nothing. -/
theorem Holding.of_op (hadministers : call.op.administers? = none)
    (hpassword : call.op.newPassword? = none) : Holding s n call := by
  constructor
  · intro id hop
    rw [hadministers] at hop
    cases hop
  · intro change hop
    rw [hpassword] at hop
    cases hop
  · intro id tokens hop
    rw [hadministers] at hop
    cases hop

/-- A user who is updated gets no new session by what others do. -/
theorem Covers.written {id : Uuid} {tokens : List String} {lock : RowLock}
    (h : Covers s.sessions id tokens) (hlock : s.rowLocks.get id = some lock)
    (hforUpdate : lock.forUpdate = true) (hwritten : Written s call s') :
    Covers s'.sessions id tokens := by
  intro tokenHash session' hget hid hlive
  rcases hwritten.session hget with ⟨session, hold, hsame, hunrevoked⟩ | hopen
  · exact h tokenHash session hold (hsame.symm.trans hid) (hunrevoked hlive)
  · rw [hid, hlock, Option.any_some, hforUpdate] at hopen
    cases hopen

/-- The row of a user that is locked by one call is not written by another. -/
theorem Written.keepsUser (h : Written s call s') (hholding : Holding s n call) {id : Uuid}
    {user : AuthUser} {lock : RowLock} (hlock : s.rowLocks.get id = some lock)
    (howner : lock.owner ≠ n) (hget : s.users.get id = some user) :
    ∃ user', s'.users.get id = some user' ∧ user'.disabled = user.disabled := by
  have hunowned : ∀ {id' forUpdate}, s.rowLocks.get id' = some ⟨n, forUpdate⟩ → id ≠ id' := by
    rintro id' forUpdate hmine rfl
    rw [hlock] at hmine
    cases hmine
    exact howner rfl
  rcases h.keepsRoles with hkeeps | ⟨id', role, disabled, tokens, user', rfl, husers⟩ |
    ⟨id', rfl, husers⟩
  · obtain ⟨user', hget', -, hdisabled⟩ := hkeeps id user hget
    exact ⟨user', hget', hdisabled⟩
  · have hne := hunowned (hholding.administers id' rfl rfl)
    exact ⟨user, by rw [husers, Table.get_put_ne _ _ hne, hget], rfl⟩
  · have hne := hunowned (hholding.administers id' rfl rfl)
    exact ⟨user, by rw [husers, Table.get_remove, if_neg hne, hget], rfl⟩

/-- A call that another one leaves alone can rely on the same. -/
theorem Holding.of_leaves {m : Nat} {other : Call} (h : Holding s m call) (hm : m ≠ n)
    (hleaves : Leaves s s' n op) (hother : Holding s n other) (hwritten : Written s other s') :
    Holding s' m call := by
  constructor
  · intro id hop hphase
    exact hleaves.rowLocks id _ hm (h.administers id hop hphase)
  · intro change hop hphase
    obtain ⟨hlock, user, hget, henabled⟩ := h.changes change hop hphase
    obtain ⟨user', hget', hdisabled⟩ := hwritten.keepsUser hother hlock hm hget
    exact ⟨hleaves.rowLocks change.id _ hm hlock, user', hget', hdisabled.trans henabled⟩
  · intro id tokens hop hphase
    exact (h.covers id tokens hop hphase).written
      (h.administers id hop (by rw [hphase]; rfl)) rfl hwritten

theorem holding_settle (hcall : (s.settle n op).calls.get n = some call) :
    Holding (s.settle n op) n call := by
  rw [AuthState.eq_of_settle hcall]
  exact .of_unlocked rfl

theorem holding_lockUserAdministration (hs : s.lockUserAdministration n op = some s')
    (hcall : s'.calls.get n = some call) : Holding s' n call := by
  obtain ⟨-, hs⟩ := Option.ite_none_right_eq_some.mp hs
  cases hs
  rw [AuthState.eq_of_enter hcall]
  exact .of_unlocked rfl

theorem holding_selectForUpdate {id : Uuid} (hop : op.administers? = some id)
    (hs : s.selectForUpdate n op id = some s') (hcall : s'.calls.get n = some call) :
    Holding s' n call := by
  unfold AuthState.selectForUpdate at hs
  split at hs
  case h_1 =>
    cases hs
    exact holding_settle hcall
  case h_2 user hget =>
    obtain ⟨-, hs⟩ := Option.ite_none_right_eq_some.mp hs
    cases hs
    rw [AuthState.eq_of_enter hcall]
    constructor
    · intro id' hop' _
      rw [hop] at hop'
      cases hop'
      exact Table.get_put_self _ _ _
    · intro change _ hphase
      cases hphase
    · intro id' tokens _ hphase
      cases hphase

/-- A call that goes on with its row locked, before its sessions are revoked. -/
theorem holding_enter {phase phase' : Phase} (h : Holding s n ⟨op, phase⟩)
    (howns : phase.ownsRow = true) (hop : op.newPassword? = none)
    (hphase' : ∀ tokens, phase' ≠ .revoked tokens)
    (hcall : (s.enter n op phase').calls.get n = some call) :
    Holding (s.enter n op phase') n call := by
  rw [AuthState.eq_of_enter hcall]
  constructor
  · intro id hid _
    exact h.administers id hid howns
  · intro change hchange
    rw [hop] at hchange
    cases hchange
  · intro id tokens _ heq
    exact absurd heq (hphase' tokens)

theorem holding_guardLastAdmin {existing : AuthUserRole} {removesAdmin : Bool}
    (h : Holding s n ⟨op, .selected existing⟩) (hop : op.newPassword? = none)
    (hcall : (s.guardLastAdmin n op removesAdmin).calls.get n = some call) :
    Holding (s.guardLastAdmin n op removesAdmin) n call := by
  unfold AuthState.guardLastAdmin at hcall ⊢
  split at hcall
  case isTrue hlast =>
    rw [if_pos hlast]
    exact holding_settle hcall
  case isFalse hspare =>
    rw [if_neg hspare]
    exact holding_enter h rfl hop (fun _ heq => by cases heq) hcall

theorem holding_advanceUpdateUser {id : Uuid} {role : AuthUserRole} {disabled : Bool}
    {phase : Phase} (h : Holding s n ⟨.updateUser id role disabled, phase⟩)
    (hs : s.advance n (.updateUser id role disabled) phase = some s')
    (hcall : s'.calls.get n = some call) : Holding s' n call := by
  cases phase with
  | started => exact holding_lockUserAdministration hs hcall
  | locked => exact holding_selectForUpdate rfl hs hcall
  | selected existing =>
    cases hs
    exact holding_guardLastAdmin h rfl hcall
  | checked =>
    cases hs
    exact holding_enter h rfl rfl (fun _ heq => by cases heq) hcall
  | written =>
    cases hs
    rw [AuthState.eq_of_enter hcall]
    constructor
    · intro id' hid _
      exact h.administers id' hid rfl
    · intro change hchange
      cases hchange
    · intro id' tokens hid hphase
      cases hid
      cases hphase
      intro tokenHash session hget hown hlive
      exact mem_liveTokens.mpr ⟨session, hget, hown, hlive, by simp⟩
  | revoked tokens =>
    cases hs
    exact holding_settle hcall
  | _ => cases hs

theorem holding_advanceDeleteUser {id : Uuid} {phase : Phase}
    (h : Holding s n ⟨.deleteUser id, phase⟩) (hs : s.advance n (.deleteUser id) phase = some s')
    (hcall : s'.calls.get n = some call) : Holding s' n call := by
  cases phase with
  | started => exact holding_lockUserAdministration hs hcall
  | locked => exact holding_selectForUpdate rfl hs hcall
  | selected existing =>
    cases hs
    exact holding_guardLastAdmin h rfl hcall
  | checked =>
    cases hs
    exact holding_enter h rfl rfl (fun _ heq => by cases heq) hcall
  | written =>
    cases hs
    exact holding_settle hcall
  | _ => cases hs

theorem holding_advancePassword {change : NewPassword} {phase : Phase}
    (hop : op.newPassword? = some change) (hadministers : op.administers? = none)
    (h : Holding s n ⟨op, phase⟩)
    (hs : s.advancePassword n op change.id change.passwordHash change.mustChangePassword change.keep
      phase = some s') (hcall : s'.calls.get n = some call) : Holding s' n call := by
  cases phase with
  | started =>
    obtain ⟨-, hs⟩ := Option.ite_none_right_eq_some.mp hs
    split at hs
    case h_1 =>
      cases hs
      exact holding_settle hcall
    case h_2 user hget =>
      split at hs
      case isTrue =>
        cases hs
        exact holding_settle hcall
      case isFalse henabled =>
        cases hs
        rw [AuthState.eq_of_enter hcall]
        constructor
        · intro id hid
          rw [hadministers] at hid
          cases hid
        · intro change' hchange _
          rw [hop] at hchange
          cases hchange
          exact ⟨Table.get_put_self _ _ _, user, hget, by simpa using henabled⟩
        · intro id tokens hid
          rw [hadministers] at hid
          cases hid
  | written =>
    cases hs
    rw [AuthState.eq_of_enter hcall]
    constructor
    · intro id hid
      rw [hadministers] at hid
      cases hid
    · intro change' hchange _
      exact h.changes change' hchange rfl
    · intro id tokens hid
      rw [hadministers] at hid
      cases hid
  | revoked tokens =>
    cases hs
    exact holding_settle hcall
  | _ => cases hs

/-- What a call can rely on after its own next statement. -/
theorem holding_advance {phase : Phase} (h : Holding s n ⟨op, phase⟩)
    (hs : s.advance n op phase = some s') (hcall : s'.calls.get n = some call) :
    Holding s' n call := by
  cases op with
  | updateUser id role disabled => exact holding_advanceUpdateUser h hs hcall
  | deleteUser id => exact holding_advanceDeleteUser h hs hcall
  | resetUserPassword id passwordHash =>
    exact @holding_advancePassword _ _ _ _ _ ⟨id, passwordHash, true, none⟩ _ rfl rfl h hs hcall
  | changePassword id passwordHash currentSessionHash =>
    exact @holding_advancePassword _ _ _ _ _ ⟨id, passwordHash, false, some currentSessionHash⟩ _
      rfl rfl h hs hcall
  | _ =>
    obtain ⟨phase', hown⟩ := (leaves_advance hs).own
    rw [hown] at hcall
    cases hcall
    exact .of_op rfl rfl

/-- **Every call can rely on the row that it has locked**, whatever the others do. -/
theorem holding_of_reach (h : authMachine.Reach Machine.Any s) :
    ∀ n call, s.calls.get n = some call → Holding s n call := by
  refine calls_of_reach (fun _ _ _ => .of_unlocked rfl) (fun _ _ _ => .of_unlocked rfl)
    (fun _ _ _ => .of_unlocked rfl) ?_ ?_ h
  · intro s s' n op phase call hholding hs hcall
    exact holding_advance hholding hs hcall
  · intro s s' m n op call other hm hleaves hother hwritten hholding
    exact hholding.of_leaves hm hleaves hother hwritten

/-! ### The sessions of a run -/

/-- A statement that lets no session in for another password keeps the sessions current. -/
theorem Written.live (h : Written s call s') (hholding : Holding s n call) (howned : s.Owned)
    (hverified : CallVerified s call) (hcurrent : s.Live) : s'.Live := by
  intro tokenHash session' user' hsession huser hlive henabled
  cases h with
  | nothing users sessions =>
    rw [sessions] at hsession
    rw [users] at huser
    exact hcurrent tokenHash session' user' hsession huser hlive henabled
  | revoked users sessions =>
    rw [sessions] at hsession
    rw [users] at huser
    obtain ⟨session, hold, hid, hsame⟩ := get_revokeTokens hsession
    obtain ⟨rfl, -⟩ := hsame hlive
    exact hcurrent tokenHash _ user' hold huser hlive henabled
  | @updated id role disabled tokens user call_eq found users sessions =>
    rw [sessions] at hsession
    obtain ⟨session, hold, -, hsame⟩ := get_revokeTokens hsession
    obtain ⟨rfl, hunlisted⟩ := hsame hlive
    -- the sessions of the user who is updated are all revoked
    have hother : session'.userId ≠ id := fun hid =>
      hunlisted (hholding.covers id tokens (by rw [call_eq]; rfl) (by rw [call_eq]) tokenHash
        session' hold hid hlive)
    rw [users, Table.get_put_ne _ _ hother] at huser
    exact hcurrent tokenHash session' user' hold huser hlive henabled
  | deleted call_eq users sessions =>
    rw [sessions, Table.get_retain] at hsession
    obtain ⟨hold, hother⟩ := Option.filter_eq_some_iff.mp hsession
    rw [users, Table.get_remove, if_neg (by simpa using hother)] at huser
    exact hcurrent tokenHash session' user' hold huser hlive henabled
  | @created id user new users sessions =>
    rw [sessions] at hsession
    have hother : session'.userId ≠ id := by
      rintro rfl
      obtain ⟨owner, howner⟩ := howned tokenHash session' hsession
      rw [new] at howner
      cases howner
    rw [users, Table.get_put_ne _ _ hother] at huser
    exact hcurrent tokenHash session' user' hsession huser hlive henabled
  | @password change tokens user op_eq phase_eq found users sessions =>
    rw [sessions] at hsession
    rw [users, commitUser_some found] at huser
    obtain ⟨session, hold, hid, hsame⟩ := get_commitUser found hsession
    obtain ⟨hbefore, hunlisted, hversion⟩ := hsame hlive
    rw [hid] at huser
    rcases Table.get_put_cases huser with ⟨hown, rfl⟩ | ⟨hother, hkept⟩
    · have hkeep := (hverified.password change tokens op_eq phase_eq tokenHash session hold hown
        hbefore).resolve_left hunlisted
      rw [hversion, if_pos ⟨hkeep, hown⟩]
    · rw [hversion, if_neg fun hboth => hother hboth.2]
      exact hcurrent tokenHash session user' hold hkept hbefore henabled
  | @inserted id passwordVersion username token expiresAt call_eq open_ found new users sessions =>
    rw [sessions] at hsession
    rw [users] at huser
    rcases Table.get_put_cases hsession with ⟨rfl, rfl⟩ | ⟨-, hold⟩
    · exact hverified.login username tokenHash expiresAt id passwordVersion user' call_eq new huser
        henabled
    · exact hcurrent tokenHash session' user' hold huser hlive henabled

theorem advance_newPassword {change : NewPassword} (hop : op.newPassword? = some change)
    (phase : Phase) : s.advance n op phase =
      s.advancePassword n op change.id change.passwordHash change.mustChangePassword change.keep
        phase := by
  cases op with
  | resetUserPassword id passwordHash =>
    cases hop
    rfl
  | changePassword id passwordHash currentSessionHash =>
    cases hop
    rfl
  | _ => cases hop

/-- **Only such a statement keeps the sessions current.** -/
theorem callVerified_of_live (hs : s.advance n call.op call.phase = some s')
    (hholding : Holding s n call) (hcurrent : s.Live) (hcurrent' : s'.Live) :
    CallVerified s call := by
  constructor
  · rintro username tokenHash expiresAt id passwordVersion user rfl hnew huser henabled
    obtain ⟨-, hs⟩ := Option.ite_none_left_eq_some.mp hs
    simp only [huser, hnew, Option.isNone_some, Option.isSome_none, Bool.or_self,
      Bool.false_eq_true, if_false, Option.some.injEq] at hs
    subst hs
    exact hcurrent' tokenHash ⟨id, expiresAt, false, passwordVersion⟩ user
      (Table.get_put_self _ _ _) huser rfl henabled
  · intro change tokens hop hphase tokenHash session hget hid hlive
    by_contra hneither
    obtain ⟨hunlisted, hunkept⟩ := not_or.mp hneither
    obtain ⟨-, user, huser, henabled⟩ := hholding.changes change hop (by rw [hphase]; rfl)
    rw [advance_newPassword hop, hphase] at hs
    cases hs
    have hbefore := hcurrent tokenHash session user hget (hid ▸ huser) hlive henabled
    have hafter := hcurrent' tokenHash session
      (user.withPassword change.passwordHash change.mustChangePassword)
    simp only [AuthState.settle_sessions, AuthState.settle_users, commitUser_some huser,
      Table.get_mapValues, hget, Option.map_some, if_neg hunlisted, hunkept, false_and, if_false,
      hid, Table.get_put_self, true_implies, hlive] at hafter
    have hchanged := hafter henabled
    rw [hbefore] at hchanged
    exact absurd hchanged (Nat.succ_ne_self _).symm

/-- A step keeps the sessions current exactly if it lets none in for another password. -/
theorem live_iff_verified {a : AuthAction} (hreach : authMachine.Reach Machine.Any s)
    (hcurrent : s.Live) (hs : authMachine.step s a = some s') : s'.Live ↔ Verified s a := by
  have hholding := holding_of_reach hreach
  have howned := owned_of_reach hreach
  have hquiet : s'.users = s.users → s'.sessions = s.sessions → s'.Live := by
    intro husers hsessions
    unfold AuthState.Live
    rw [husers, hsessions]
    exact hcurrent
  cases a with
  | call n op =>
    obtain ⟨-, hs⟩ := Option.ite_none_right_eq_some.mp hs
    cases hs
    exact iff_of_true (hquiet rfl rfl) trivial
  | fail n =>
    have hwritten : s.step (.fail n) = some s' := hs
    rcases written_of_step hwritten with ⟨husers, hsessions⟩ | ⟨_, _, heq, -, -⟩
    · exact iff_of_true (hquiet husers hsessions) trivial
    · cases heq
  | advance n =>
    obtain ⟨call, hcall, hs⟩ := Option.bind_eq_some_iff.mp hs
    constructor
    · intro hcurrent' call' hcall'
      rw [hcall] at hcall'
      cases hcall'
      exact callVerified_of_live hs (hholding n call hcall) hcurrent hcurrent'
    · intro hverified
      exact (written_advance hs).live (hholding n call hcall) howned (hverified call hcall) hcurrent

/-- **A new password ends the sessions for the old one**, in every run in which logins insert
sessions for passwords that are in force, and new passwords revoke all sessions that they do not
keep; and every other step leaves a session for a password that is not in force. -/
theorem onlyCurrent_of_reach (s : AuthState) :
    (authMachine.Reach Verified s → s.OnlyCurrent) ∧
      (authMachine.Reach Machine.Any s → s.OnlyCurrent → ∀ a s',
        authMachine.step s a = some s' → (s'.OnlyCurrent ↔ Verified s a)) := by
  constructor
  · intro hreach
    rw [onlyCurrent_iff_live]
    refine hreach.invariant ?_ ?_
    · rintro s ⟨-, -, -, -, hcurrent⟩ tokenHash session user hsession huser hlive -
      obtain ⟨owner, howner, hversion⟩ := hcurrent tokenHash session hsession
      rw [huser] at howner
      cases howner
      exact hversion hlive
    · intro s a s' hreach hcurrent hverified hs
      exact (live_iff_verified hreach.any hcurrent hs).mpr hverified
  · intro hreach hcurrent a s' hs
    rw [onlyCurrent_iff_live] at hcurrent ⊢
    exact live_iff_verified hreach hcurrent hs

/-- One user. -/
def oneUser : AuthState where
  users := (∅ : Table Uuid AuthUser).put ⟨1⟩ ⟨"admin", "hash", .admin, false, false, 0⟩
  sessions := ∅
  administration := none
  bootstrap := none
  rowLocks := ∅
  calls := ∅

/-- Two logins, and the reset when both are through. -/
def resetAfterLogin : List AuthAction :=
  [.call 0 (.login "admin" "token" 100), .advance 0, .advance 0, .advance 0, .advance 0,
    .advance 0, .call 1 (.resetUserPassword ⟨1⟩ "new hash"), .advance 1, .advance 1, .advance 1,
    .call 2 (.login "admin" "second" 100), .advance 2, .advance 2, .advance 2, .advance 2,
    .advance 2]

/-- The password is reset between the check of the old one and the insertion of the session. -/
def resetWithinLogin : List AuthAction :=
  [.call 0 (.login "admin" "token" 100), .advance 0, .advance 0, .advance 0,
    .call 1 (.resetUserPassword ⟨1⟩ "new hash"), .advance 1, .advance 1, .advance 1, .advance 0,
    .advance 0]

theorem init_oneUser : authMachine.init oneUser :=
  ⟨rfl, rfl, rfl, rfl, fun _ _ hget => by cases hget⟩

theorem onlyCurrent_reset_after_login :
    ∃ s ∈ authMachine.exec (authMachine.Preserves AuthState.Live) oneUser resetAfterLogin,
      s.OnlyCurrent ∧ s.sessionByTokenHash "token" 50 = none ∧
        (s.sessionByTokenHash "second" 50).isSome = true := by
  have hrun : ∃ s ∈ authMachine.exec (authMachine.Preserves AuthState.Live) oneUser
      resetAfterLogin, s.sessionByTokenHash "token" 50 = none ∧
        (s.sessionByTokenHash "second" 50).isSome = true := by
    decide +kernel
  obtain ⟨s, hexec, hended, hsecond⟩ := hrun
  refine ⟨s, hexec, (onlyCurrent_of_reach s).1 ?_, hended, hsecond⟩
  refine .exec_preserving (fun s a s' hreach h hs h' => (live_iff_verified hreach.any h hs).mp h')
    (.init init_oneUser) ?_ _ hexec
  intro tokenHash session user hsession
  cases hsession

/-- **The session for the old password is accepted** after the reset. -/
theorem login_survives_reset :
    ¬ ∀ s, authMachine.Reach Machine.Any s → s.OnlyCurrent := by
  intro hall
  have hreach : authMachine.Reach Machine.Any oneUser := .init init_oneUser
  have hrun : ∃ s ∈ authMachine.exec Machine.Any oneUser resetWithinLogin,
      ∃ accepted ∈ s.sessionByTokenHash "token" 50,
        accepted.1.passwordVersion ≠ accepted.2.passwordVersion := by
    decide +kernel
  obtain ⟨s, hexec, accepted, haccepted, hstale⟩ := hrun
  exact hstale (hall s (hreach.exec _ hexec) "token" 50 accepted.1 accepted.2 haccepted)

end Lxcup.Auth
