import Lxcup.Access.Login
import Lxcup.Lib.Pool

/-!
# The audit log

Any number of requests and logins side by side, over the table of the audit log.  Every statement of
theirs may fail, also after it was carried out; users may be deleted at any time; and a request that
is not answered any more has been stopped, by a crash say.

The log is complete for users: whatever a signed-in user was allowed to change is in it, with the id
of the request, from before it was done.  What an agent reports or a role with a token changes has
no entry.  The log does not tell anything that was not so: an entry is told to be completed only
when the function has answered with a success, or when the session of a login was saved.  No entry
is ever lost.

## Main definitions

* `Caller`, `auditSystem` — requests and logins over the table.
* `Describes` — an entry as it was written, up to its outcome.
* `Owned` — the invariant: every entry has one owner, which alone changes its outcome.
* `RequestGuarded`, `LoginGuarded` — what a request and a login have done so far.
* `LogTells` — what the log tells.

## Main results

* `owned_of_reach` — the invariant holds of every run.
* `requestGuarded_of_reach`, `loginGuarded_of_reach` — so do the rules for requests and logins.
* `logTells_of_reach` — the log tells what was done in every run.
-/

namespace Lxcup.Access

open Lxcup.Lib Lxcup.Core Lxcup.Auth

/-! ### The system -/

/-- The table `user_audit_events`. -/
abbrev AuditTable := Table Uuid AuthAuditEvent

/-- `UPDATE user_audit_events SET status_code = .., details = jsonb_set(..)`. -/
def AuthAuditEvent.withOutcome (event : AuthAuditEvent) (status : Nat) (state : String) :
    AuthAuditEvent :=
  { event with statusCode := status, details := { event.details with state := some state } }

/-- The entry was inserted. -/
def Inserts (rows : AuditTable) (event : AuthAuditEvent) (rows' : AuditTable) : Prop :=
  rows.get event.id = none ∧ rows' = rows.put event.id event

/-- The outcome of an entry was set. -/
def Sets (rows : AuditTable) (id : Uuid) (status : Nat) (state : String) (rows' : AuditTable) :
    Prop :=
  ∃ row, rows.get id = some row ∧ rows' = rows.put id (row.withOutcome status state)

/-- What the database answers; a statement that fails may have been carried out. -/
def respondsAudit (rows : AuditTable) : (call : ServerCall) → call.Answer → AuditTable → Prop
  | .appendAuditEvent event, written, rows' =>
    Inserts rows event rows' ∨ written = false ∧ rows' = rows
  | .updateAuditEventStatus id status state, updated, rows' =>
    (updated ≠ some false ∧ Sets rows id status state rows')
      ∨ updated ≠ some true ∧ rows' = rows
  | _, _, rows' => rows' = rows

/-- `ON DELETE SET NULL`, when a user is deleted. -/
def forgetUser (rows : AuditTable) (userId : Uuid) : AuditTable :=
  rows.mapValues fun _ row =>
    if row.actorUserId = some userId then { row with actorUserId := none } else row

/-- Who uses the log. -/
inductive Caller
  | request (request : Request)
  | login (request : AuthLoginRequest)

/-- A result of a caller. -/
abbrev Outcome : Type := Except Response Response × Unit

section System

variable (server : Server) (hash : String → String) (derive : KeyDerivation)

/-- Requests and logins over the table. -/
def auditSystem : System AuditTable Caller ServerCall ServerCall.Answer Outcome where
  start
    | .request request => requestMiddleware server hash request ()
    | .login request => authLogin server hash derive request ()
  responds := respondsAudit
  changes rows rows' := ∃ userId, rows' = forgetUser rows userId

/-- What has to be so before a call of a caller. -/
def callerPermits : Caller → List ServerExchange → ServerCall → Prop
  | .request request => Permits server hash request
  | .login request => LoginPermits hash derive request

/-- What holds when a caller is done. -/
def callerEnds : Caller → List ServerExchange → Outcome → Prop
  | .request request, seen, (.ok response, _) => Handled request seen response
  | .request request, seen, (.error response, _) => Refused server hash request seen response
  | .login request, seen, (.ok response, _) => LoggedIn server hash derive request seen response
  | .login request, seen, (.error response, _) => NotLoggedIn server request seen response

theorem ensures_start (caller : Caller) :
    ((auditSystem server hash derive).start caller).Ensures record
      (callerPermits server hash derive caller) (callerEnds server hash derive caller) [] := by
  cases caller with
  | request request =>
    refine Program.Ensures.mono ?_ (ensures_requestMiddleware server hash request)
    rintro seen ⟨_ | _, _⟩ h <;> exact h
  | login request =>
    refine Program.Ensures.mono ?_ (ensures_authLogin server hash derive request)
    rintro seen ⟨_ | _, _⟩ h <;> exact h

end System

/-- **What requests and logins ensure** holds of all threads. -/
theorem keeps_of_reach {server : Server} {hash : String → String} {derive : KeyDerivation}
    {init : AuditTable → Prop}
    {pool : Pool AuditTable Caller ServerCall ServerCall.Answer Outcome} {n : Nat}
    {thread : Thread Caller ServerCall ServerCall.Answer Outcome}
    (h : (auditSystem server hash derive).Reach init pool)
    (hget : pool.threads.get n = some thread) :
    thread.Keeps (callerPermits server hash derive thread.label)
      (callerEnds server hash derive thread.label) :=
  h.keeps (ensures_start server hash derive) (fun _ _ hnone => nomatch hnone) hget

/-! ### Owners of entries -/

/-- The entry is the one that was written, up to its outcome; a user may have been forgotten. -/
structure Describes (row event : AuthAuditEvent) : Prop where
  id : row.id = event.id
  actorUserId : row.actorUserId = event.actorUserId ∨ row.actorUserId = none
  actorUsername : row.actorUsername = event.actorUsername
  actorRole : row.actorRole = event.actorRole
  action : row.action = event.action
  resourceType : row.resourceType = event.resourceType
  resourceId : row.resourceId = event.resourceId
  requestId : row.requestId = event.requestId
  path : row.details.path = event.details.path
  createdAt : row.createdAt = event.createdAt

/-- The two entries have the same outcome. -/
def SameOutcome (row event : AuthAuditEvent) : Prop :=
  row.statusCode = event.statusCode ∧ row.details.state = event.details.state

/-- The outcome of the entry is one that was set. -/
def WasSet (seen : List ServerExchange) (row : AuthAuditEvent) : Prop :=
  ∃ status state updated, ⟨.updateAuditEventStatus row.id status state, updated⟩ ∈ seen
    ∧ row.statusCode = status ∧ row.details.state = some state

/-- The thread has inserted the entry. -/
def Appended (seen : List ServerExchange) (event : AuthAuditEvent) : Prop :=
  ⟨.appendAuditEvent event, true⟩ ∈ seen

/-- What the threads have exchanged. -/
abbrev Histories := Nat → List ServerExchange

/-- Every entry is one of the beginning, or it has one owner, which alone changes its outcome. -/
structure Owned (old rows : AuditTable) (histories : Histories) : Prop where
  /-- No entry of the beginning is changed. -/
  kept : ∀ id first, old.get id = some first →
    ∃ row, rows.get id = some row ∧ Describes row first ∧ SameOutcome row first
  /-- An entry that was inserted is there. -/
  appended : ∀ n event, Appended (histories n) event → old.get event.id = none
    ∧ ∃ row, rows.get event.id = some row ∧ Describes row event
      ∧ (SameOutcome row event ∨ WasSet (histories n) row)
  unique : ∀ n m event event', Appended (histories n) event → Appended (histories m) event' →
    event.id = event'.id → n = m ∧ event = event'
  owner : ∀ id row, rows.get id = some row →
    (∃ first, old.get id = some first ∧ Describes row first ∧ SameOutcome row first)
      ∨ ∃ n event written, ⟨.appendAuditEvent event, written⟩ ∈ histories n ∧ event.id = id
        ∧ Describes row event
        ∧ (SameOutcome row event ∨ Appended (histories n) event ∧ WasSet (histories n) row)

section Invariant

variable {old rows rows' : AuditTable} {histories : Histories} {n : Nat}

theorem Describes.refl (event : AuthAuditEvent) : Describes event event :=
  ⟨rfl, .inl rfl, rfl, rfl, rfl, rfl, rfl, rfl, rfl, rfl⟩

theorem Describes.withOutcome {row event : AuthAuditEvent} (h : Describes row event)
    (status : Nat) (state : String) : Describes (row.withOutcome status state) event :=
  ⟨h.id, h.actorUserId, h.actorUsername, h.actorRole, h.action, h.resourceType, h.resourceId,
    h.requestId, h.path, h.createdAt⟩

theorem WasSet.mono {seen more : List ServerExchange} {row : AuthAuditEvent}
    (h : WasSet seen row) (hle : seen ⊆ more) : WasSet more row := by
  obtain ⟨status, state, updated, hmem, hrest⟩ := h
  exact ⟨status, state, updated, hle hmem, hrest⟩

theorem Describes.trans {row row' event : AuthAuditEvent} (h : Describes row' row)
    (h' : Describes row event) : Describes row' event where
  id := h.id.trans h'.id
  actorUserId := by
    obtain heq | hnone := h.actorUserId
    · rw [heq]
      exact h'.actorUserId
    · exact .inr hnone
  actorUsername := h.actorUsername.trans h'.actorUsername
  actorRole := h.actorRole.trans h'.actorRole
  action := h.action.trans h'.action
  resourceType := h.resourceType.trans h'.resourceType
  resourceId := h.resourceId.trans h'.resourceId
  requestId := h.requestId.trans h'.requestId
  path := h.path.trans h'.path
  createdAt := h.createdAt.trans h'.createdAt

theorem SameOutcome.trans {row row' event : AuthAuditEvent} (h : SameOutcome row' row)
    (h' : SameOutcome row event) : SameOutcome row' event :=
  ⟨h.1.trans h'.1, h.2.trans h'.2⟩

theorem WasSet.of_sameOutcome {seen : List ServerExchange} {row row' : AuthAuditEvent}
    (h : WasSet seen row) (hid : row'.id = row.id) (hsame : SameOutcome row' row) :
    WasSet seen row' := by
  obtain ⟨status, state, updated, hmem, hstatus, hstate⟩ := h
  exact ⟨status, state, updated, hid ▸ hmem, hsame.1.trans hstatus, hsame.2.trans hstate⟩

/-- The same entries, up to the users who are forgotten. -/
structure Forgets (rows rows' : AuditTable) : Prop where
  forth : ∀ id row, rows.get id = some row →
    ∃ row', rows'.get id = some row' ∧ Describes row' row ∧ SameOutcome row' row
  back : ∀ id row', rows'.get id = some row' →
    ∃ row, rows.get id = some row ∧ Describes row' row ∧ SameOutcome row' row

theorem Forgets.refl (rows : AuditTable) : Forgets rows rows :=
  ⟨fun _ row h => ⟨row, h, .refl row, rfl, rfl⟩, fun _ row h => ⟨row, h, .refl row, rfl, rfl⟩⟩

theorem forgets_forgetUser (rows : AuditTable) (userId : Uuid) :
    Forgets rows (forgetUser rows userId) := by
  have hrow : ∀ row : AuthAuditEvent,
      Describes (if row.actorUserId = some userId then { row with actorUserId := none } else row)
          row
        ∧ SameOutcome
          (if row.actorUserId = some userId then { row with actorUserId := none } else row)
          row := by
    intro row
    split
    case isTrue => exact ⟨⟨rfl, .inr rfl, rfl, rfl, rfl, rfl, rfl, rfl, rfl, rfl⟩, rfl, rfl⟩
    case isFalse => exact ⟨.refl row, rfl, rfl⟩
  constructor
  · intro id row hget
    exact ⟨_, by rw [forgetUser, Table.get_mapValues, hget, Option.map_some], hrow row⟩
  · intro id row' hget
    rw [forgetUser, Table.get_mapValues] at hget
    obtain ⟨row, hfound, rfl⟩ := Option.map_eq_some_iff.mp hget
    exact ⟨row, hfound, hrow row⟩

/-- More was exchanged, and no entry inserted. -/
structure Grows (histories histories' : Histories) : Prop where
  subset : ∀ n, histories n ⊆ histories' n
  appended : ∀ n event, Appended (histories' n) event → Appended (histories n) event

theorem grows_goOn {exchange : ServerExchange}
    (h : ∀ event, (⟨.appendAuditEvent event, true⟩ : ServerExchange) ≠ exchange) :
    Grows histories (goOn histories n exchange) where
  subset m := subset_goOn histories n m exchange
  appended m event happended := by
    obtain hold | ⟨-, heq⟩ := mem_goOn.mp happended
    · exact hold
    · exact absurd heq (h event)

/-- A step that leaves the entries alone, up to the users who are forgotten. -/
theorem Owned.of_forgets {histories' : Histories} (h : Owned old rows histories)
    (hgrows : Grows histories histories') (hforgets : Forgets rows rows') :
    Owned old rows' histories' where
  kept id first hfirst := by
    obtain ⟨row, hrow, hdescribes, hsame⟩ := h.kept id first hfirst
    obtain ⟨row', hrow', hdescribes', hsame'⟩ := hforgets.forth id row hrow
    exact ⟨row', hrow', hdescribes'.trans hdescribes, hsame'.trans hsame⟩
  appended n event happended := by
    obtain ⟨hold, row, hrow, hdescribes, hstate⟩ :=
      h.appended n event (hgrows.appended n event happended)
    obtain ⟨row', hrow', hdescribes', hsame'⟩ := hforgets.forth _ row hrow
    refine ⟨hold, row', hrow', hdescribes'.trans hdescribes, ?_⟩
    exact hstate.imp hsame'.trans fun hset =>
      (hset.of_sameOutcome hdescribes'.id hsame').mono (hgrows.subset n)
  unique n m event event' happended happended' hid :=
    h.unique n m event event' (hgrows.appended n event happended)
      (hgrows.appended m event' happended') hid
  owner id row' hrow' := by
    obtain ⟨row, hrow, hdescribes', hsame'⟩ := hforgets.back id row' hrow'
    obtain ⟨first, hfirst, hdescribes, hsame⟩
      | ⟨n, event, written, hmem, hid, hdescribes, hstate⟩ := h.owner id row hrow
    · exact .inl ⟨first, hfirst, hdescribes'.trans hdescribes, hsame'.trans hsame⟩
    · refine .inr ⟨n, event, written, hgrows.subset n hmem, hid, hdescribes'.trans hdescribes, ?_⟩
      exact hstate.imp hsame'.trans fun hset => ⟨hgrows.subset n hset.1,
        (hset.2.of_sameOutcome hdescribes'.id hsame').mono (hgrows.subset n)⟩

/-- An entry is inserted, whether the thread is told so or not. -/
theorem Owned.of_inserts {event : AuthAuditEvent} {written : Bool} (h : Owned old rows histories)
    (hinserts : Inserts rows event rows') :
    Owned old rows' (goOn histories n ⟨.appendAuditEvent event, written⟩) := by
  obtain ⟨hnone, rfl⟩ := hinserts
  have hsubset := fun m => subset_goOn histories n m ⟨.appendAuditEvent event, written⟩
  have hput : ∀ {id row}, rows.get id = some row → (rows.put event.id event).get id = some row := by
    intro id row hrow
    rw [Table.get_put_ne]
    · exact hrow
    · rintro rfl
      rw [hnone] at hrow
      cases hrow
  -- the id of the entry was not there before
  have hfresh : ∀ m event', Appended (histories m) event' → event'.id ≠ event.id := by
    intro m event' happended hid
    obtain ⟨-, row, hrow, -⟩ := h.appended m event' happended
    rw [hid, hnone] at hrow
    cases hrow
  have hcases : ∀ m event',
      Appended (goOn histories n ⟨.appendAuditEvent event, written⟩ m) event' →
      Appended (histories m) event' ∨ m = n ∧ event' = event := by
    intro m event' happended
    obtain hold | ⟨hm, heq⟩ := mem_goOn.mp happended
    · exact .inl hold
    · cases heq
      exact .inr ⟨hm, rfl⟩
  refine ⟨fun id first hfirst => ?_, fun m event' happended => ?_, ?_, fun id row hrow => ?_⟩
  · obtain ⟨row, hrow, hrest⟩ := h.kept id first hfirst
    exact ⟨row, hput hrow, hrest⟩
  · obtain hold | ⟨rfl, rfl⟩ := hcases m event' happended
    · obtain ⟨hfirst, row, hrow, hdescribes, hstate⟩ := h.appended m event' hold
      exact ⟨hfirst, row, hput hrow, hdescribes, hstate.imp_right fun hset => hset.mono (hsubset m)⟩
    · refine ⟨?_, event', Table.get_put_self _ _ _, .refl event', .inl ⟨rfl, rfl⟩⟩
      by_contra hfirst
      obtain ⟨first, hfirst⟩ := Option.ne_none_iff_exists'.mp hfirst
      obtain ⟨row, hrow, -⟩ := h.kept _ first hfirst
      rw [hnone] at hrow
      cases hrow
  · intro m m' event₁ event₂ h₁ h₂ hid
    obtain hold₁ | ⟨rfl, rfl⟩ := hcases m event₁ h₁
    · obtain hold₂ | ⟨rfl, rfl⟩ := hcases m' event₂ h₂
      · exact h.unique m m' event₁ event₂ hold₁ hold₂ hid
      · exact absurd hid (hfresh m event₁ hold₁)
    · obtain hold₂ | ⟨rfl, rfl⟩ := hcases m' event₂ h₂
      · exact absurd hid.symm (hfresh m' event₂ hold₂)
      · exact ⟨rfl, rfl⟩
  · obtain ⟨rfl, rfl⟩ | ⟨hne, hrow⟩ := Table.get_put_cases hrow
    · exact .inr ⟨n, row, written, self_mem_goOn, rfl, .refl row, .inl ⟨rfl, rfl⟩⟩
    · obtain hfirst | ⟨m, event', written', hmem, hid, hdescribes, hstate⟩ := h.owner id row hrow
      · exact .inl hfirst
      · refine .inr ⟨m, event', written', hsubset m hmem, hid, hdescribes, ?_⟩
        exact hstate.imp_right fun hset => ⟨hsubset m hset.1, hset.2.mono (hsubset m)⟩

/-- An owner sets the outcome of its entry. -/
theorem Owned.of_sets {event : AuthAuditEvent} {status : Nat} {state : String}
    {updated : Option Bool} (h : Owned old rows histories)
    (happended : Appended (histories n) event) (hsets : Sets rows event.id status state rows') :
    Owned old rows'
      (goOn histories n ⟨.updateAuditEventStatus event.id status state, updated⟩) := by
  obtain ⟨row, hrow, rfl⟩ := hsets
  have hgrows : Grows histories
      (goOn histories n ⟨.updateAuditEventStatus event.id status state, updated⟩) :=
    grows_goOn (by simp)
  obtain ⟨hfirst, row', hrow', hdescribes, -⟩ := h.appended n event happended
  obtain rfl : row' = row := Option.some.inj (hrow'.symm.trans hrow)
  have hnew : Describes (row'.withOutcome status state) event := hdescribes.withOutcome status state
  have hset : WasSet (goOn histories n ⟨.updateAuditEventStatus event.id status state, updated⟩ n)
      (row'.withOutcome status state) := by
    refine ⟨status, state, updated, ?_, rfl, rfl⟩
    rw [hnew.id]
    exact self_mem_goOn
  refine ⟨fun id first hold => ?_, fun m event' happended' => ?_, ?_, fun id found hfound => ?_⟩
  · obtain ⟨kept, hkept, hrest⟩ := h.kept id first hold
    refine ⟨kept, ?_, hrest⟩
    rw [Table.get_put_ne]
    · exact hkept
    · rintro rfl
      rw [hfirst] at hold
      cases hold
  · replace happended' := hgrows.appended m event' happended'
    obtain ⟨hold, found, hfound, hdescribes', hstate⟩ := h.appended m event' happended'
    refine ⟨hold, ?_⟩
    by_cases hid : event.id = event'.id
    · obtain ⟨rfl, rfl⟩ := h.unique n m event event' happended happended' hid
      exact ⟨_, Table.get_put_self _ _ _, hnew, .inr hset⟩
    · refine ⟨found, ?_, hdescribes', hstate.imp_right fun hset => hset.mono (hgrows.subset m)⟩
      rw [Table.get_put_ne _ _ (Ne.symm hid)]
      exact hfound
  · exact fun m m' event₁ event₂ h₁ h₂ =>
      h.unique m m' event₁ event₂ (hgrows.appended m event₁ h₁) (hgrows.appended m' event₂ h₂)
  · obtain ⟨rfl, rfl⟩ | ⟨hne, hfound⟩ := Table.get_put_cases hfound
    · exact .inr ⟨n, event, true, hgrows.subset n happended, rfl, hnew,
        .inr ⟨hgrows.subset n happended, hset⟩⟩
    · obtain hold | ⟨m, event', written, hmem, hid, hdescribes', hstate⟩ := h.owner id found hfound
      · exact .inl hold
      · exact .inr ⟨m, event', written, hgrows.subset m hmem, hid, hdescribes', hstate.imp_right
          fun hset => ⟨hgrows.subset m hset.1, hset.2.mono (hgrows.subset m)⟩⟩

end Invariant

section Reach

variable {server : Server} {hash : String → String} {derive : KeyDerivation} {old : AuditTable}
  {pool : Pool AuditTable Caller ServerCall ServerCall.Answer Outcome}

/-- **Only the owner of an entry sets its outcome.** -/
theorem exists_appended_of_permits {caller : Caller} {seen : List ServerExchange} {id : Uuid}
    {status : Nat} {state : String}
    (h : callerPermits server hash derive caller seen (.updateAuditEventStatus id status state)) :
    ∃ event, Appended seen event ∧ event.id = id := by
  cases caller with
  | request request =>
    obtain ⟨account, response, before, role, rfl, ⟨requestId, now, -, hreserved⟩, -⟩ :=
      Permits.outcome h id status state rfl
    exact ⟨_, List.mem_append_left _ hreserved, rfl⟩
  | login request =>
    obtain ⟨user, draft, before, saved, hopens, rfl, rfl, -⟩ :=
      LoginPermits.outcome h id status state rfl
    obtain ⟨createdAt, hreserved⟩ := hopens.reserved
    exact ⟨_, List.mem_append_left _ hreserved, rfl⟩

/-- **Every entry has one owner**, in every run. -/
theorem owned_of_reach (h : (auditSystem server hash derive).Reach (· = old) pool) :
    Owned old pool.shared pool.history := by
  induction h with
  | init hshared =>
    subst hshared
    refine ⟨fun id first hfirst => ⟨first, hfirst, .refl first, rfl, rfl⟩, ?_, ?_,
      fun id row hrow => .inl ⟨row, hrow, .refl row, rfl, rfl⟩⟩
    · intro n event happended
      cases happended
    · intro n m event event' happended
      cases happended
  | @step pool pool' hreach hs ih =>
    obtain ⟨hhistory, hshared⟩ | ⟨n, caller, call, k, answer, hthread, hresponds, hhistory⟩ :=
      hs.history
    · have hgrows : Grows pool.history pool'.history := by
        rw [hhistory]
        exact ⟨fun n => List.Subset.refl _, fun n event happended => happended⟩
      refine ih.of_forgets hgrows ?_
      obtain hsame | ⟨userId, hforget⟩ := hshared
      · rw [hsame]
        exact .refl _
      · rw [hforget]
        exact forgets_forgetUser _ _
    · have hpermits := (keeps_of_reach hreach hthread).rest.1
      have hsame : pool'.shared = pool.shared →
          (∀ event, (⟨.appendAuditEvent event, true⟩ : ServerExchange) ≠ ⟨call, answer⟩) →
          Owned old pool'.shared pool'.history := by
        intro hrows hnot
        rw [hhistory, hrows]
        exact ih.of_forgets (grows_goOn hnot) (.refl _)
      cases call with
      | appendAuditEvent event =>
        obtain hinserts | ⟨rfl, hrows⟩ := hresponds
        · rw [hhistory]
          exact ih.of_inserts hinserts
        · exact hsame hrows (by simp)
      | updateAuditEventStatus id status state =>
        obtain ⟨event, happended, rfl⟩ := exists_appended_of_permits hpermits
        obtain ⟨-, hsets⟩ | ⟨-, hrows⟩ := hresponds
        · rw [hhistory]
          exact ih.of_sets happended hsets
        · exact hsame hrows (by simp)
      | _ => exact hsame hresponds (by simp)

end Reach

/-! ### What requests and logins do -/

/-- The thread of a caller. -/
abbrev AuditThread := Thread Caller ServerCall ServerCall.Answer Outcome

section Guards

variable (server : Server) (hash : String → String) (derive : KeyDerivation)

/-- A request so far: what it lets be called, and how it is answered. -/
structure RequestGuarded (request : Request) (thread : AuditThread) : Prop where
  /-- No function was called before one is. -/
  once : ∀ before call, thread.Calls before call → call.IsRun →
    All (fun call => ¬call.IsRun) before
  entitled : ∀ before served role actor, thread.Calls before (.run served role actor) →
    served = serve request.method request.path ∧ ∀ handler, served = .handler handler →
      handler.isPublic server.accountAuthEnabled = false →
        Entitled server hash request handler before role actor
  /-- What a user changes is in the log when the function is called. -/
  reserved : ∀ before served role account, thread.Calls before (.run served role (some account)) →
    isWriteMethod request.method = true → ∃ id, Reserved request account id before
  handled : ∀ response, thread.program = .ret (.ok response, ()) →
    Handled request thread.seen response
  refused : ∀ response, thread.program = .ret (.error response, ()) →
    Refused server hash request thread.seen response

/-- A login so far: which session it opens, and how it is answered. -/
structure LoginGuarded (request : AuthLoginRequest) (thread : AuditThread) : Prop where
  /-- No function is called, and no session was opened before one is. -/
  notRun : ∀ before call, thread.Calls before call → ¬call.IsRun
  once : ∀ before call, thread.Calls before call → call.IsSave →
    All (fun call => ¬call.IsSave) before
  opens : ∀ before userId tokenHash expiresAt,
    thread.Calls before (.saveSession userId tokenHash expiresAt) →
    ∃ user draft, userId = user.id ∧ tokenHash = hash (tokenText draft.accessToken)
      ∧ expiresAt = draft.expiresAt ∧ Opens derive request before user draft
  loggedIn : ∀ response, thread.program = .ret (.ok response, ()) →
    LoggedIn server hash derive request thread.seen response
  notLoggedIn : ∀ response, thread.program = .ret (.error response, ()) →
    NotLoggedIn server request thread.seen response

end Guards

/-- **Requests are handled only under the rules**, in every run: whatever the database answers, and
whatever else is going on. -/
theorem requestGuarded_of_reach {server : Server} {hash : String → String} {derive : KeyDerivation}
    {old : AuditTable} {pool : Pool AuditTable Caller ServerCall ServerCall.Answer Outcome}
    {n : Nat} {thread : AuditThread} {request : Request}
    (h : (auditSystem server hash derive).Reach (· = old) pool)
    (hget : pool.threads.get n = some thread) (hlabel : thread.label = .request request) :
    RequestGuarded server hash request thread := by
  have hkeeps := keeps_of_reach h hget
  rw [hlabel] at hkeeps
  have hends : ∀ result, thread.program = .ret result →
      callerEnds server hash derive (.request request) thread.seen result := by
    intro result hret
    have hrest := hkeeps.rest
    rw [hret] at hrest
    exact hrest
  refine ⟨?_, ?_, ?_, fun response hret => hends _ hret, fun response hret => hends _ hret⟩
  · intro before call hcalls
    exact Permits.once (hkeeps.of_calls hcalls)
  · intro before served role actor hcalls
    exact Permits.entitled (hkeeps.of_calls hcalls) served role actor rfl
  · intro before served role account hcalls
    exact Permits.reserved (hkeeps.of_calls hcalls) served role account rfl

/-- A server with accounts. -/
def accountServer : Server := ⟨true, ⟨none, none, none, true, none⟩, true, true⟩

/-- A derivation that gives every password the same key. -/
def zeroKey : KeyDerivation := fun _ _ _ => Vector.replicate 32 0

/-- A request to create a target. -/
def createTargetRequest : Request :=
  ⟨.post, "/api/v1/targets", [("authorization", some "Bearer a")]⟩

/-- A user creates a target. -/
theorem reach_createTarget :
    ∃ (pool : Pool AuditTable Caller ServerCall ServerCall.Answer Outcome) (thread : AuditThread)
      (response : Response) (row : AuthAuditEvent),
      (auditSystem accountServer id zeroKey).Reach (· = ∅) pool
        ∧ pool.threads.get 0 = some thread ∧ thread.label = .request createTargetRequest
        ∧ thread.program = .ret (.ok response, ()) ∧ response.status = 201
        ∧ pool.shared.get ⟨2⟩ = some row ∧ row.statusCode = 201 := by
  have hinit : (auditSystem accountServer id zeroKey).Reach (· = ∅) ⟨∅, ∅⟩ := .init rfl
  have h := hinit.step (.spawn (n := 0) (.request createTargetRequest) rfl)
  replace h := h.answered ⟨1⟩ rfl
  replace h := h.answered (some (some ⟨⟨7⟩, "user", .user, false, false, 9⟩)) rfl
  replace h := h.answered () rfl
  replace h := h.answered ⟨2⟩ rfl
  replace h := h.answered (5 : Nat) rfl
  replace h := h.answered true (.inl ⟨rfl, rfl⟩)
  replace h := h.answered ⟨201, [], none⟩ rfl
  replace h := h.answered (some true) (.inl ⟨by decide, _, Table.get_put_self _ _ _, rfl⟩)
  exact ⟨_, _, _, _, h, Table.get_put_self _ _ _, rfl, rfl, rfl, Table.get_put_self _ _ _, rfl⟩

theorem requestGuarded_createTarget :
    ∃ thread response, RequestGuarded accountServer id createTargetRequest thread
      ∧ thread.program = .ret (.ok response, ()) ∧ response.status = 201 := by
  obtain ⟨pool, thread, response, row, h, hget, hlabel, hret, hstatus, -⟩ := reach_createTarget
  exact ⟨thread, response, requestGuarded_of_reach h hget hlabel, hret, hstatus⟩

/-- **A session is opened only for a user who has given the password**, and only when the login is
in the log; and a login that fails leaves no session that was not revoked. -/
theorem loginGuarded_of_reach {server : Server} {hash : String → String} {derive : KeyDerivation}
    {old : AuditTable} {pool : Pool AuditTable Caller ServerCall ServerCall.Answer Outcome}
    {n : Nat} {thread : AuditThread} {request : AuthLoginRequest}
    (h : (auditSystem server hash derive).Reach (· = old) pool)
    (hget : pool.threads.get n = some thread) (hlabel : thread.label = .login request) :
    LoginGuarded server hash derive request thread := by
  have hkeeps := keeps_of_reach h hget
  rw [hlabel] at hkeeps
  have hends : ∀ result, thread.program = .ret result →
      callerEnds server hash derive (.login request) thread.seen result := by
    intro result hret
    have hrest := hkeeps.rest
    rw [hret] at hrest
    exact hrest
  refine ⟨?_, ?_, ?_, fun response hret => hends _ hret, fun response hret => hends _ hret⟩
  · intro before call hcalls
    exact LoginPermits.notRun (hkeeps.of_calls hcalls)
  · intro before call hcalls
    exact LoginPermits.once (hkeeps.of_calls hcalls)
  · intro before userId tokenHash expiresAt hcalls
    exact LoginPermits.opens (hkeeps.of_calls hcalls) userId tokenHash expiresAt rfl

/-- Nobody has the name. -/
theorem loginGuarded_unknownUser :
    ∃ thread, LoginGuarded accountServer id zeroKey ⟨"Admin", "secret", ⟨3⟩⟩ thread
      ∧ thread.program = .ret (.error (ofApiError .unauthorized), ()) := by
  have hinit : (auditSystem accountServer id zeroKey).Reach (· = ∅) ⟨∅, ∅⟩ := .init rfl
  have h := hinit.step (.spawn (n := 0) (.login ⟨"Admin", "secret", ⟨3⟩⟩) rfl)
  replace h := h.answered (some none) rfl
  replace h := h.answered true rfl
  replace h := h.answered ⟨8⟩ rfl
  replace h := h.answered (5 : Nat) rfl
  replace h := h.answered true (.inl ⟨rfl, rfl⟩)
  exact ⟨_, loginGuarded_of_reach h (Table.get_put_self _ _ _) rfl, rfl⟩

/-! ### What the log tells -/

/-- The outcome of an entry is pending, or the one of the answer. -/
def TellsOutcome (row : AuthAuditEvent) (answer : Nat → Prop) : Prop :=
  (row.statusCode = 102 ∧ row.details.state = some "pending")
    ∨ ∃ status, answer status ∧ row.statusCode = status
      ∧ row.details.state = some (if isSuccess status then "completed" else "failed")

/-- What the log tells, after any run that has begun with the entries `old`. -/
structure LogTells (old rows : AuditTable) (threads : Table Nat AuditThread) : Prop where
  /-- No entry is lost. -/
  kept : ∀ id first, old.get id = some first →
    ∃ row, rows.get id = some row ∧ Describes row first ∧ SameOutcome row first
  /-- What a signed-in user was allowed to change is in the log with the id of the request, from
  before the function is called. -/
  changes : ∀ n thread request served role account, threads.get n = some thread →
    thread.label = .request request → isWriteMethod request.method = true →
    thread.Makes (.run served role (some account)) →
    ∃ id requestId now row, rows.get id = some row ∧ IdOf request requestId thread.seen
      ∧ Describes row
        (requestAuditEvent account request.method request.path requestId 102 id now)
      ∧ TellsOutcome row fun status => ∃ response,
        ⟨.run served role (some account), response⟩ ∈ thread.seen ∧ response.status = status
  /-- A session that was saved is in the log, as a login of its user. -/
  sessions : ∀ n thread request userId tokenHash expiresAt, threads.get n = some thread →
    thread.label = .login request →
    ⟨.saveSession userId tokenHash expiresAt, true⟩ ∈ thread.seen →
    ∃ user id createdAt row, user.id = userId ∧ rows.get id = some row
      ∧ Describes row (loginEvent request user id createdAt)
      ∧ TellsOutcome row fun status => status = 200
  /-- An entry is completed only when the function has succeeded, or the session was saved. -/
  completed : ∀ id row, rows.get id = some row → row.details.state = some "completed" →
    (∃ first, old.get id = some first ∧ Describes row first ∧ SameOutcome row first)
      ∨ (∃ n thread request served role account response requestId now,
          threads.get n = some thread ∧ thread.label = .request request
            ∧ ⟨.run served role (some account), response⟩ ∈ thread.seen
            ∧ isSuccess response.status = true ∧ row.statusCode = response.status
            ∧ IdOf request requestId thread.seen ∧ Describes row
              (requestAuditEvent account request.method request.path requestId 102 id now))
      ∨ ∃ n thread request user tokenHash expiresAt createdAt,
          threads.get n = some thread ∧ thread.label = .login request
            ∧ ⟨.saveSession user.id tokenHash expiresAt, true⟩ ∈ thread.seen
            ∧ Describes row (loginEvent request user id createdAt)

section Tells

variable {server : Server} {hash : String → String} {derive : KeyDerivation}
  {request : Request} {login : AuthLoginRequest} {thread : AuditThread} {row : AuthAuditEvent}

/-- The outcome that was set for a request is the one of its function. -/
theorem exists_run_of_wasSet {post : List ServerExchange → Outcome → Prop}
    (h : thread.Keeps (Permits server hash request) post) (hset : WasSet thread.seen row) :
    ∃ role account response requestId now,
      ⟨.run (serve request.method request.path) role (some account), response⟩ ∈ thread.seen
        ∧ IdOf request requestId thread.seen ∧ Appended thread.seen
          (requestAuditEvent account request.method request.path requestId 102 row.id now)
        ∧ row.statusCode = response.status ∧ row.details.state
          = some (if isSuccess response.status then "completed" else "failed") := by
  obtain ⟨status, state, updated, hmem, hstatus, hstate⟩ := hset
  obtain ⟨before, hprefix, hpermits⟩ := h.of_mem hmem
  obtain ⟨account, response, front, role, rfl, ⟨requestId, now, hid, hreserved⟩, rfl, rfl⟩ :=
    hpermits.outcome row.id status state rfl
  exact ⟨role, account, response, requestId, now,
    hprefix.subset (List.mem_append_right _ List.mem_cons_self),
    hid.mono ((List.prefix_append _ _).trans hprefix),
    hprefix.subset (List.mem_append_left _ hreserved), hstatus, hstate⟩

/-- The outcome that was set for a login is whether the session was saved. -/
theorem exists_save_of_wasSet {post : List ServerExchange → Outcome → Prop}
    (h : thread.Keeps (LoginPermits hash derive login) post) (hset : WasSet thread.seen row) :
    ∃ user tokenHash expiresAt saved createdAt,
      ⟨.saveSession user.id tokenHash expiresAt, saved⟩ ∈ thread.seen
        ∧ Appended thread.seen (loginEvent login user row.id createdAt)
        ∧ row.statusCode = (if saved then 200 else 500)
        ∧ row.details.state = some (if saved then "completed" else "failed") := by
  obtain ⟨status, state, updated, hmem, hstatus, hstate⟩ := hset
  obtain ⟨before, hprefix, hpermits⟩ := h.of_mem hmem
  obtain ⟨user, draft, front, saved, hopens, hid, rfl, rfl, rfl⟩ :=
    hpermits.outcome row.id status state rfl
  obtain ⟨createdAt, hreserved⟩ := hopens.reserved
  refine ⟨user, _, _, saved, createdAt,
    hprefix.subset (List.mem_append_right _ List.mem_cons_self), ?_, hstatus, hstate⟩
  rw [hid]
  exact hprefix.subset (List.mem_append_left _ hreserved)

variable {rows old : AuditTable} {histories : Histories} {n : Nat}
  {post : List ServerExchange → Outcome → Prop}

/-- What a user may change is in the log, with the outcome of the function. -/
theorem tellsOutcome_of_makes {served : Served} {role : Option ActorRole}
    {account : AuthenticatedUser} (howned : Owned old rows histories)
    (hseen : thread.seen = histories n) (hkeeps : thread.Keeps (Permits server hash request) post)
    (hwrite : isWriteMethod request.method = true)
    (hmakes : thread.Makes (.run served role (some account))) :
    ∃ id requestId now row, rows.get id = some row ∧ IdOf request requestId thread.seen
      ∧ Describes row (requestAuditEvent account request.method request.path requestId 102 id now)
      ∧ TellsOutcome row fun status => ∃ response,
        ⟨.run served role (some account), response⟩ ∈ thread.seen ∧ response.status = status := by
  obtain ⟨before, hprefix, hpermits⟩ := hkeeps.of_makes hmakes
  obtain ⟨id, requestId, now, hid, hreserved⟩ := hpermits.reserved served role account rfl hwrite
  have happended := hprefix.subset hreserved
  rw [hseen] at happended
  obtain ⟨-, row, hrow, hdescribes, hstate⟩ := howned.appended n _ happended
  refine ⟨id, requestId, now, row, hrow, hid.mono hprefix, hdescribes, ?_⟩
  obtain hpending | hset := hstate
  · exact .inl hpending
  · rw [← hseen] at hset
    obtain ⟨role', account', response, -, -, hrun, -, -, hstatus, hstate⟩ :=
      exists_run_of_wasSet hkeeps hset
    have heq := hkeeps.eq_of_makes (fun _ _ h => h.once) hmakes hrun trivial trivial
    obtain ⟨rfl, rfl, haccount⟩ := ServerCall.run.inj heq
    obtain rfl := Option.some.inj haccount
    exact .inr ⟨response.status, ⟨response, hrun, rfl⟩, hstatus, hstate⟩

/-- A session that was saved is in the log, as that of a login which is pending or completed. -/
theorem tellsOutcome_of_saved {userId : Uuid} {tokenHash : String} {expiresAt : Timestamp}
    (howned : Owned old rows histories) (hseen : thread.seen = histories n)
    (hkeeps : thread.Keeps (LoginPermits hash derive login) post)
    (hsaved : ⟨.saveSession userId tokenHash expiresAt, true⟩ ∈ thread.seen) :
    ∃ user id createdAt row, user.id = userId ∧ rows.get id = some row
      ∧ Describes row (loginEvent login user id createdAt)
      ∧ TellsOutcome row fun status => status = 200 := by
  obtain ⟨before, hprefix, hpermits⟩ := hkeeps.of_mem hsaved
  obtain ⟨user, draft, hid, -, -, hopens⟩ := hpermits.opens userId tokenHash expiresAt rfl
  obtain ⟨createdAt, hreserved⟩ := hopens.reserved
  have happended := hprefix.subset hreserved
  rw [hseen] at happended
  obtain ⟨-, row, hrow, hdescribes, hstate⟩ := howned.appended n _ happended
  refine ⟨user, draft.auditId, createdAt, row, hid.symm, hrow, hdescribes, ?_⟩
  obtain hpending | hset := hstate
  · exact .inl hpending
  · rw [← hseen] at hset
    obtain ⟨user', tokenHash', expiresAt', saved, -, hmem, -, hstatus, hstate⟩ :=
      exists_save_of_wasSet hkeeps hset
    cases hkeeps.unique (fun _ _ h => h.once) hmem hsaved trivial trivial
    exact .inr ⟨200, rfl, hstatus, hstate⟩

/-- An entry of a request that is completed tells of a function that has succeeded. -/
theorem exists_run_of_completed {event : AuthAuditEvent} {written : Bool}
    (howned : Owned old rows histories) (hseen : thread.seen = histories n)
    (hkeeps : thread.Keeps (Permits server hash request) post)
    (hmem : ⟨.appendAuditEvent event, written⟩ ∈ thread.seen) (hdescribes : Describes row event)
    (hstate : SameOutcome row event
      ∨ Appended (histories n) event ∧ WasSet (histories n) row)
    (hcompleted : row.details.state = some "completed") :
    ∃ served role account response requestId now,
      ⟨.run served role (some account), response⟩ ∈ thread.seen
        ∧ isSuccess response.status = true ∧ row.statusCode = response.status
        ∧ IdOf request requestId thread.seen ∧ Describes row
          (requestAuditEvent account request.method request.path requestId 102 row.id now) := by
  obtain ⟨-, hsame⟩ | ⟨happended, hset⟩ := hstate
  · -- the entry is written as one that is pending, or of a request that was refused
    obtain ⟨before, -, hpermits⟩ := hkeeps.of_mem hmem
    obtain ⟨actor, requestId, status, id, now, hstatus, rfl⟩ := hpermits.entry event rfl
    rw [hcompleted] at hsame
    change some "completed" = some (auditState status) at hsame
    obtain rfl | rfl := hstatus <;> exact absurd hsame (by decide)
  · rw [← hseen] at hset
    obtain ⟨role, account, response, requestId, now, hrun, hid, hown, hstatus, hstate⟩ :=
      exists_run_of_wasSet hkeeps hset
    rw [hseen] at hown
    obtain ⟨-, rfl⟩ := howned.unique n n _ _ happended hown hdescribes.id.symm
    refine ⟨_, role, account, response, requestId, now, hrun, ?_, hstatus, hid, hdescribes⟩
    rw [hcompleted] at hstate
    by_contra hfailed
    rw [if_neg hfailed] at hstate
    exact absurd hstate (by decide)

/-- An entry of a login that is completed tells of a session that was saved. -/
theorem exists_save_of_completed {event : AuthAuditEvent} {written : Bool}
    (howned : Owned old rows histories) (hseen : thread.seen = histories n)
    (hkeeps : thread.Keeps (LoginPermits hash derive login) post)
    (hmem : ⟨.appendAuditEvent event, written⟩ ∈ thread.seen) (hdescribes : Describes row event)
    (hstate : SameOutcome row event
      ∨ Appended (histories n) event ∧ WasSet (histories n) row)
    (hcompleted : row.details.state = some "completed") :
    ∃ user tokenHash expiresAt createdAt,
      ⟨.saveSession user.id tokenHash expiresAt, true⟩ ∈ thread.seen
        ∧ Describes row (loginEvent login user row.id createdAt) := by
  obtain ⟨-, hsame⟩ | ⟨happended, hset⟩ := hstate
  · obtain ⟨before, -, hpermits⟩ := hkeeps.of_mem hmem
    rw [hcompleted] at hsame
    obtain ⟨user, id, createdAt, -, rfl⟩ | ⟨username, id, createdAt, rfl⟩ :=
      hpermits.entry event rfl
    · exact absurd hsame (by simp [loginEvent])
    · exact absurd hsame (by simp [failedLoginEvent])
  · rw [← hseen] at hset
    obtain ⟨user, tokenHash, expiresAt, saved, createdAt, hsaved, hown, -, hstate⟩ :=
      exists_save_of_wasSet hkeeps hset
    rw [hseen] at hown
    obtain ⟨-, rfl⟩ := howned.unique n n _ _ happended hown hdescribes.id.symm
    cases saved with
    | true => exact ⟨user, tokenHash, expiresAt, createdAt, hsaved, hdescribes⟩
    | false =>
      rw [hcompleted] at hstate
      exact absurd hstate (by simp)

end Tells

/-- **The log tells what was done**, in every run: any number of requests and logins side by side,
statements that fail or are not answered, and users who are deleted. -/
theorem logTells_of_reach {server : Server} {hash : String → String} {derive : KeyDerivation}
    {old : AuditTable} {pool : Pool AuditTable Caller ServerCall ServerCall.Answer Outcome}
    (h : (auditSystem server hash derive).Reach (· = old) pool) :
    LogTells old pool.shared pool.threads := by
  have howned := owned_of_reach h
  have hkeeps := fun (n : Nat) (thread : AuditThread) (hget : pool.threads.get n = some thread) =>
    keeps_of_reach h hget
  refine ⟨howned.kept, ?_, ?_, ?_⟩
  · intro n thread request served role account hget hlabel hwrite hmakes
    have hthread := hkeeps n thread hget
    rw [hlabel] at hthread
    exact tellsOutcome_of_makes howned (Pool.history_of_get hget).symm hthread hwrite hmakes
  · intro n thread login userId tokenHash expiresAt hget hlabel hsaved
    have hthread := hkeeps n thread hget
    rw [hlabel] at hthread
    exact tellsOutcome_of_saved howned (Pool.history_of_get hget).symm hthread hsaved
  · intro id row hrow hcompleted
    obtain hold | ⟨n, event, written, hmem, hid, hdescribes, hstate⟩ := howned.owner id row hrow
    · exact .inl hold
    · obtain ⟨thread, hget, hseen⟩ := Pool.exists_of_mem_history hmem
      replace hid : row.id = id := hdescribes.id.trans hid
      have hthread := hkeeps n thread hget
      rw [← hseen] at hmem
      cases hlabel : thread.label with
      | request request =>
        rw [hlabel] at hthread
        obtain ⟨served, role, account, response, requestId, now, hrest⟩ :=
          exists_run_of_completed howned hseen hthread hmem hdescribes hstate hcompleted
        rw [hid] at hrest
        exact .inr (.inl ⟨n, thread, request, served, role, account, response, requestId, now, hget,
          hlabel, hrest⟩)
      | login login =>
        rw [hlabel] at hthread
        obtain ⟨user, tokenHash, expiresAt, createdAt, hrest⟩ :=
          exists_save_of_completed howned hseen hthread hmem hdescribes hstate hcompleted
        rw [hid] at hrest
        exact .inr (.inr ⟨n, thread, login, user, tokenHash, expiresAt, createdAt, hget, hlabel,
          hrest⟩)

theorem logTells_createTarget : ∃ rows threads row, LogTells ∅ rows threads
    ∧ rows.get ⟨2⟩ = some row ∧ row.statusCode = 201 := by
  obtain ⟨pool, thread, response, row, h, -, -, -, -, hrow⟩ := reach_createTarget
  exact ⟨pool.shared, pool.threads, row, logTells_of_reach h, hrow⟩

end Lxcup.Access
