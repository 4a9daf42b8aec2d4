import Lxcup.Server.Schedules

/-!
# Deleting a target

`delete_target` removes a target from the store and the database together with
everything that belongs to it.  The rule for schedules is written twice, once as
operations on the store and once in SQL: the target leaves the target lists, and a
schedule whose list is empty goes.  The rule does not look at whether the list was
empty before, so it also drops the schedules that have no targets by construction.

## Main definitions

* `cascadeStore` — the deletion in the store.
* `deleteTarget` — the request handler.
* `KeepsOtherSchedules` — schedules that do not list the target and refer to no removed
  policy stay as they are, in the store and in the database.
* `EmptySchedulesGo` — every schedule with an empty target list refers to a policy that
  the deletion removes.

## Main results

* `keepsOtherSchedules_iff` — the deletion keeps the other schedules exactly when every
  schedule with an empty list goes with its policy.
* `backup_schedule_dropped` — a backup schedule is lost with the first deleted target.
-/

namespace Lxcup.Server

open Lxcup.Lib Lxcup.Core Lxcup.Ansible Lxcup.Persistence

variable {H P D : Type}

/-! ### The deletion -/

/-- The ids of the policies that allow this target and no other. -/
def removedPolicyIds (targetId : TargetId) (policies : List UpdatePolicy) : List String :=
  (policies.filter fun policy => policy.allowedTargets = [targetId]).map (·.id)

/-- The deletion in the store.  The package inventory of the target stays. -/
def cascadeStore (store : ApiStore H P D) (targetId : TargetId) : ApiStore H P D :=
  let schedules := store.schedules.map (·.withoutTarget targetId)
  -- also those whose list was empty before
  let schedules := schedules.filter fun schedule => schedule.targetIds ≠ []
  let removed := removedPolicyIds targetId store.updatePolicies
  let policies := store.updatePolicies.map (·.withoutTarget targetId)
  let enrollments := store.enrollments.filter fun enrollment => enrollment.targetId ≠ some targetId
  { store with
    targets := store.targets.filter fun target => target.id ≠ targetId
    agentReports := store.agentReports.remove targetId
    targetDockerInventories := store.targetDockerInventories.remove targetId
    schedules := schedules.filter fun schedule =>
      ¬ ∃ policyId ∈ schedule.policyId, policyId ∈ removed
    updatePolicies := policies.filter fun policy => policy.id ∉ removed
    enrollments := enrollments
    enrollmentKeys := store.enrollmentKeys.retain fun _ id => id ∈ enrollments.map (·.id) }

/-- The answer while the target has work under way. -/
def targetBusyError : ApiError :=
  .conflict "target_busy" "wait for active workflows to finish before removing this target"

/-- `delete_target`.  Errors leave the state as it is; `dbFails` says that the transaction
of the database fails. -/
def deleteTarget (state : ApiState H P D) (actorRole : ActorRole) (targetId : String)
    (confirmed : Bool) (now : Timestamp) (dbFails : Bool) : Except ApiError (ApiState H P D) := do
  requirePermission actorRole .destructive
  if !confirmed then
    throw (.badRequest "confirmation_required"
      "removing a target requires explicit confirmation")
  let targetId := TargetId.mk (← parseUuid targetId "target id")
  -- both locks are held from here to the end
  if state.ansible.targetHasActiveJobs targetId then
    throw targetBusyError
  if !state.store.targets.any fun target => target.id = targetId then
    throw (.notFound "target not found")
  let repositories ← match state.repositories with
    | none => pure none
    | some db =>
      match db.deleteWithRelatedData targetId (roleName actorRole) now dbFails with
      | .ok (true, db') => pure (some db')
      | .ok (false, _) => throw (.notFound "target not found")
      | .error .targetBusy => throw targetBusyError
      | .error _ => throw .storage
  match state.ansible.removeTargetJobs targetId with
  | .error _ => throw (.conflict "target_busy" "the target has active workflows")
  | .ok ansible => return ⟨cascadeStore state.store targetId, ansible, repositories⟩
where
  /-- The lower-case name of a role, as the audit event holds it. -/
  roleName : ActorRole → String
    | .viewer => "viewer"
    | .operator => "operator"
    | .admin => "admin"

/-- A deletion that goes through applies the rule in the store and, in persistent mode, in
the database. -/
theorem deleteTarget_ok {state state' : ApiState H P D} {actorRole : ActorRole}
    {target : String} {uuid : Uuid} {confirmed dbFails : Bool} {now : Timestamp}
    (huuid : Uuid.parseStr target.toList = some uuid)
    (h : deleteTarget state actorRole target confirmed now dbFails = .ok state') :
    state'.store = cascadeStore state.store ⟨uuid⟩ ∧
    ((state.repositories = none ∧ state'.repositories = none) ∨
      ∃ db db', state.repositories = some db ∧ state'.repositories = some db' ∧
        db.deleteWithRelatedData ⟨uuid⟩ (deleteTarget.roleName actorRole) now dbFails
          = .ok (true, db')) := by
  simp only [deleteTarget, parseUuid, huuid, bind, Except.bind, pure, Except.pure, throw,
    throwThe, MonadExceptOf.throw] at h
  split at h
  · cases h
  split at h
  · cases h
  split at h
  · cases h
  split at h
  · cases h
  cases hrepo : state.repositories with
  | none =>
    simp only [hrepo] at h
    split at h
    · cases h
    · obtain rfl := Except.ok.inj h
      exact ⟨rfl, .inl ⟨rfl, rfl⟩⟩
  | some db =>
    simp only [hrepo] at h
    cases hdb : db.deleteWithRelatedData ⟨uuid⟩ (deleteTarget.roleName actorRole) now dbFails with
    | error e => cases e <;> simp [hdb] at h
    | ok res =>
      obtain ⟨found, db'⟩ := res
      cases found with
      | false => simp [hdb] at h
      | true =>
        simp only [hdb] at h
        split at h
        · cases h
        · obtain rfl := Except.ok.inj h
          exact ⟨rfl, .inr ⟨db, db', rfl, rfl, hdb⟩⟩

/-- A deletion that goes through names a target. -/
theorem deleteTarget_store {state state' : ApiState H P D} {actorRole : ActorRole}
    {target : String} {confirmed dbFails : Bool} {now : Timestamp}
    (h : deleteTarget state actorRole target confirmed now dbFails = .ok state') :
    ∃ uuid, Uuid.parseStr target.toList = some uuid ∧
      state'.store = cascadeStore state.store ⟨uuid⟩ := by
  cases huuid : Uuid.parseStr target.toList with
  | some uuid => exact ⟨uuid, rfl, (deleteTarget_ok huuid h).1⟩
  | none =>
    simp only [deleteTarget, parseUuid, huuid, bind, Except.bind, throw, throwThe,
      MonadExceptOf.throw] at h
    split at h
    · cases h
    split at h
    · cases h
    · cases h

/-! ### Which schedules a deletion keeps -/

/-- The policy was there before the deletion and is not there after it. -/
def PolicyRemoved (before after : List UpdatePolicy) (policyId : String) : Prop :=
  policyId ∈ before.map (·.id) ∧ policyId ∉ after.map (·.id)

/-- Schedules that do not list the target and do not refer to a policy removed by the same
deletion are there afterwards exactly as they were, in the store and in the database. -/
def KeepsOtherSchedules (targetId : TargetId) (state state' : ApiState H P D) : Prop :=
  (∀ schedule ∈ state.store.schedules, targetId ∉ schedule.targetIds →
    (∀ policyId ∈ schedule.policyId,
      ¬ PolicyRemoved state.store.updatePolicies state'.store.updatePolicies policyId) →
    schedule ∈ state'.store.schedules) ∧
  ∀ db ∈ state.repositories, ∃ db' ∈ state'.repositories,
    ∀ row ∈ db.schedules, targetId ∉ row.schedule.targetIds →
      (∀ policyId ∈ row.schedule.policyId,
        ¬ PolicyRemoved (db.updatePolicies.map (·.policy)) (db'.updatePolicies.map (·.policy))
          policyId) →
      row ∈ db'.schedules

/-- The schedule refers to a policy that allows this target and no other. -/
def GoesWithPolicy (targetId : TargetId) (policies : List UpdatePolicy) (schedule : JobSchedule) :
    Prop :=
  ∃ policy ∈ policies, schedule.policyId = some policy.id ∧ policy.allowedTargets = [targetId]

/-- Every schedule with an empty target list, in the store or in the database, refers to a
policy that allows this target and no other. -/
def EmptySchedulesGo (targetId : TargetId) (state : ApiState H P D) : Prop :=
  (∀ schedule ∈ state.store.schedules, schedule.targetIds = [] →
    GoesWithPolicy targetId state.store.updatePolicies schedule) ∧
  ∀ db ∈ state.repositories, ∀ row ∈ db.schedules, row.schedule.targetIds = [] →
    GoesWithPolicy targetId (db.updatePolicies.map (·.policy)) row.schedule

/-- The rule for policies, for the store and the rows of the table alike: `unlink` keeps the
ids and `removed` are the ids of policies that are there. -/
private theorem policyRemoved_iff {π : Type} (policy : π → UpdatePolicy) (unlink : π → π)
    {before after : List π} {removed : List String}
    (hunlink : ∀ a, (policy (unlink a)).id = (policy a).id)
    (hremoved : ∀ policyId ∈ removed, policyId ∈ (before.map policy).map (·.id))
    (hafter : after = (before.map unlink).filter fun a => (policy a).id ∉ removed)
    (policyId : String) :
    PolicyRemoved (before.map policy) (after.map policy) policyId ↔ policyId ∈ removed := by
  constructor
  · rintro ⟨hbefore, hgone⟩
    by_contra hkept
    simp only [List.map_map, List.mem_map] at hbefore
    obtain ⟨a, ha, rfl⟩ := hbefore
    refine hgone (List.mem_map.mpr ⟨policy (unlink a), List.mem_map_of_mem ?_, hunlink a⟩)
    rw [hafter, List.mem_filter]
    exact ⟨List.mem_map_of_mem ha, by simpa [hunlink] using hkept⟩
  · intro hmem
    refine ⟨hremoved policyId hmem, fun hstays => ?_⟩
    simp only [List.map_map, List.mem_map] at hstays
    obtain ⟨a, ha, rfl⟩ := hstays
    rw [hafter, List.mem_filter] at ha
    exact of_decide_eq_true ha.2 hmem

/-- The rule for schedules, for the store and the rows of the table alike: `unlink` changes
only entries that list the target, and `after` has no entry with an empty list. -/
private theorem keeps_iff {σ : Type} (schedule : σ → JobSchedule) (unlink : σ → σ)
    {targetId : TargetId} {before after : List σ} {removed : List String}
    (hunlink : ∀ a, targetId ∉ (schedule a).targetIds → unlink a = a)
    (hafter : ∀ a, a ∈ after ↔ a ∈ before.map unlink ∧ (schedule a).targetIds ≠ [] ∧
      ∀ policyId ∈ (schedule a).policyId, policyId ∉ removed) :
    (∀ a ∈ before, targetId ∉ (schedule a).targetIds →
      (∀ policyId ∈ (schedule a).policyId, policyId ∉ removed) → a ∈ after) ↔
    ∀ a ∈ before, (schedule a).targetIds = [] →
      ∃ policyId ∈ (schedule a).policyId, policyId ∈ removed := by
  constructor
  · intro hkeeps a ha hempty
    by_contra hnone
    push Not at hnone
    have hstays := hkeeps a ha (by simp [hempty]) hnone
    exact ((hafter a).mp hstays).2.1 hempty
  · intro hgo a ha hother hpolicies
    refine (hafter a).mpr ⟨List.mem_map.mpr ⟨a, ha, hunlink a hother⟩, fun hempty => ?_, hpolicies⟩
    obtain ⟨policyId, hpolicyId, hremoved⟩ := hgo a ha hempty
    exact hpolicies policyId hpolicyId hremoved

theorem mem_removedPolicyIds {targetId : TargetId} {policies : List UpdatePolicy}
    {policyId : String} : policyId ∈ removedPolicyIds targetId policies ↔
      ∃ policy ∈ policies, policyId = policy.id ∧ policy.allowedTargets = [targetId] := by
  simp only [removedPolicyIds, List.mem_map, List.mem_filter, decide_eq_true_eq]
  constructor
  · rintro ⟨policy, ⟨hmem, hallowed⟩, rfl⟩
    exact ⟨policy, hmem, rfl, hallowed⟩
  · rintro ⟨policy, hmem, rfl, hallowed⟩
    exact ⟨policy, ⟨hmem, hallowed⟩, rfl⟩

theorem goesWithPolicy_iff {targetId : TargetId} {policies : List UpdatePolicy}
    {schedule : JobSchedule} : GoesWithPolicy targetId policies schedule ↔
      ∃ policyId ∈ schedule.policyId, policyId ∈ removedPolicyIds targetId policies := by
  simp only [mem_removedPolicyIds, Option.mem_def]
  constructor
  · rintro ⟨policy, hmem, hid, hallowed⟩
    exact ⟨policy.id, hid, policy, hmem, rfl, hallowed⟩
  · rintro ⟨_, hid, policy, hmem, rfl, hallowed⟩
    exact ⟨policy, hmem, hid, hallowed⟩

/-- The query for emptied policies finds what the store's rule finds. -/
theorem emptiedPolicyIds_eq (targetId : TargetId) (rows : List PolicyRow) :
    Database.emptiedPolicyIds targetId rows
      = removedPolicyIds targetId (rows.map (·.policy)) := by
  have hone : ∀ ids : List TargetId,
      (targetId ∈ ids ∧ ids.length = 1) = (ids = [targetId]) := by
    intro ids
    rw [List.length_eq_one_iff, eq_iff_iff]
    constructor
    · rintro ⟨hmem, other, rfl⟩
      rw [List.mem_singleton.mp hmem]
    · rintro rfl
      exact ⟨List.mem_singleton_self _, targetId, rfl⟩
  simp only [Database.emptiedPolicyIds, removedPolicyIds, hone, List.filter_map, List.map_map]
  rfl

private theorem removedPolicyIds_subset {targetId : TargetId} {policies : List UpdatePolicy} :
    ∀ policyId ∈ removedPolicyIds targetId policies, policyId ∈ policies.map (·.id) := by
  intro policyId hmem
  obtain ⟨policy, hpolicy, rfl, -⟩ := mem_removedPolicyIds.mp hmem
  exact List.mem_map_of_mem hpolicy

private theorem policyRemoved_store (store : ApiStore H P D) (targetId : TargetId)
    (policyId : String) :
    PolicyRemoved store.updatePolicies (cascadeStore store targetId).updatePolicies policyId ↔
      policyId ∈ removedPolicyIds targetId store.updatePolicies := by
  have hrule : PolicyRemoved (store.updatePolicies.map id)
      ((cascadeStore store targetId).updatePolicies.map id) policyId ↔
        policyId ∈ removedPolicyIds targetId store.updatePolicies := by
    refine policyRemoved_iff id (·.withoutTarget targetId) (fun _ => rfl) ?_ rfl policyId
    rw [List.map_id]
    exact removedPolicyIds_subset
  rwa [List.map_id, List.map_id] at hrule

private theorem policyRemoved_rows (rows : List PolicyRow) (targetId : TargetId)
    (now : Timestamp) (policyId : String) :
    PolicyRemoved (rows.map (·.policy))
        ((Database.unlinkPolicies targetId now rows).map (·.policy)) policyId ↔
      policyId ∈ removedPolicyIds targetId (rows.map (·.policy)) := by
  refine policyRemoved_iff _ (Database.unlinkPolicyRow targetId now) (fun row => ?_)
    removedPolicyIds_subset ?_ policyId
  · unfold Database.unlinkPolicyRow
    split <;> rfl
  · rw [Database.unlinkPolicies, emptiedPolicyIds_eq]

/-- The store's half: the other schedules stay exactly when those with an empty list go with
their policy. -/
private theorem keeps_store_iff (store : ApiStore H P D) (targetId : TargetId) :
    (∀ schedule ∈ store.schedules, targetId ∉ schedule.targetIds →
      (∀ policyId ∈ schedule.policyId, ¬ PolicyRemoved store.updatePolicies
        (cascadeStore store targetId).updatePolicies policyId) →
      schedule ∈ (cascadeStore store targetId).schedules) ↔
    ∀ schedule ∈ store.schedules, schedule.targetIds = [] →
      GoesWithPolicy targetId store.updatePolicies schedule := by
  simp only [policyRemoved_store, goesWithPolicy_iff]
  refine keeps_iff id (·.withoutTarget targetId)
    (fun _ hother => JobSchedule.withoutTarget_of_notMem hother) (fun schedule => ?_)
  simp only [cascadeStore, List.mem_filter, id]
  simp [and_assoc]

/-- The database's half. -/
private theorem keeps_rows_iff (db : Database) (targetId : TargetId) (now : Timestamp) :
    (∀ row ∈ db.schedules, targetId ∉ row.schedule.targetIds →
      (∀ policyId ∈ row.schedule.policyId, ¬ PolicyRemoved (db.updatePolicies.map (·.policy))
        ((Database.unlinkPolicies targetId now db.updatePolicies).map (·.policy)) policyId) →
      row ∈ (Database.unlinkSchedules targetId now db.schedules).filter fun row =>
        ¬ ∃ policyId ∈ row.schedule.policyId,
          policyId ∈ Database.emptiedPolicyIds targetId db.updatePolicies) ↔
    ∀ row ∈ db.schedules, row.schedule.targetIds = [] →
      GoesWithPolicy targetId (db.updatePolicies.map (·.policy)) row.schedule := by
  simp only [policyRemoved_rows, goesWithPolicy_iff, emptiedPolicyIds_eq]
  refine keeps_iff ScheduleRow.schedule (Database.unlinkScheduleRow targetId now)
    (fun _ hother => if_neg hother) (fun row => ?_)
  simp only [Database.unlinkSchedules, List.mem_filter]
  simp [and_assoc]

/-- **When a deletion keeps the other schedules.**  A deletion that goes through leaves every
schedule that neither lists the target nor refers to a removed policy as it was, in the store
and in the database, if and only if every schedule with an empty target list refers to a
policy that the deletion removes. -/
theorem keepsOtherSchedules_iff (state state' : ApiState H P D) (actorRole : ActorRole)
    (target : String) (uuid : Uuid) (confirmed dbFails : Bool) (now : Timestamp)
    (huuid : Uuid.parseStr target.toList = some uuid)
    (h : deleteTarget state actorRole target confirmed now dbFails = .ok state') :
    KeepsOtherSchedules ⟨uuid⟩ state state' ↔ EmptySchedulesGo ⟨uuid⟩ state := by
  obtain ⟨hstore, hrepo⟩ := deleteTarget_ok huuid h
  unfold KeepsOtherSchedules EmptySchedulesGo
  rw [hstore, keeps_store_iff]
  refine and_congr_right fun _ => ?_
  rcases hrepo with ⟨hnone, hnone'⟩ | ⟨db, db', hdb, hdb', hdelete⟩
  · simp [hnone]
  · obtain ⟨-, -, hpolicies, hschedules, -⟩ := Database.deleteWithRelatedData_ok hdelete
    have hrows := keeps_rows_iff db ⟨uuid⟩ now
    rw [← hpolicies, ← hschedules] at hrows
    simpa [hdb, hdb'] using hrows

/-! ### A server with one target -/

/-- A managed Linux server. -/
def linuxServer (id : TargetId) : Target where
  id := id
  name := "web"
  kind := .linuxServer
  address := "10.0.0.5"
  transport := .ssh
  sshUser := none
  credentialSecretRef := some ⟨⟨11⟩⟩
  sshKnownHostsSecretRef := none
  agentSecretRef := ⟨⟨12⟩⟩
  state := .managed
  createdAt := 0
  updatedAt := 0

/-- A server in persistent mode with one target and no schedules. -/
def serverWithTarget (id : TargetId) : ApiState Unit Unit Unit where
  store := ⟨[linuxServer id], ∅, ∅, ∅, [], ∅, [], []⟩
  ansible := .default
  repositories := some ⟨(∅ : Table TargetId Target).put id (linuxServer id), .empty, [], [], []⟩

/-- A daily backup. -/
def backupRequest : CreateScheduleRequest where
  id := "nightly"
  operation := "create_backup"
  timezone := "UTC"
  targetIds := []
  everyMinutes := 1440
  enabled := true
  threshold := none
  policyId := none
  backupSecretRef := some ⟨⟨13⟩⟩

/-- An hourly health check of a target. -/
def healthCheckSchedule (id : TargetId) : CreateScheduleRequest where
  id := "hourly"
  operation := "health_check"
  timezone := "UTC"
  targetIds := [id]
  everyMinutes := 60
  enabled := true
  threshold := none
  policyId := none
  backupSecretRef := none

/-- The server after one schedule was created on it. -/
def serverWithSchedule (id : TargetId) (request : CreateScheduleRequest) :
    ApiState Unit Unit Unit :=
  (createSchedule (serverWithTarget id) .admin request (fun _ => .ok ()) 0 false).2

/-- A second target beside the first, and an hourly health check of each. -/
def serverWithTwoSchedules : ApiState Unit Unit Unit :=
  let base := serverWithTarget ⟨⟨7⟩⟩
  let both : ApiState Unit Unit Unit :=
    { base with
      store := { base.store with targets := [linuxServer ⟨⟨7⟩⟩, linuxServer ⟨⟨8⟩⟩] }
      repositories := base.repositories.map fun db =>
        { db with targets := db.targets.put ⟨⟨8⟩⟩ (linuxServer ⟨⟨8⟩⟩) } }
  let first := (createSchedule both .admin (healthCheckSchedule ⟨⟨7⟩⟩) (fun _ => .ok ()) 0 false).2
  (createSchedule first .admin { healthCheckSchedule ⟨⟨8⟩⟩ with id := "other" } (fun _ => .ok ())
    0 false).2

/-- The text of the target id in the fixed runs. -/
def sampleTargetText : String := "00000000-0000-0000-0000-000000000007"

private theorem parseStr_sampleTargetText : Uuid.parseStr sampleTargetText.toList = some ⟨7⟩ := by
  decide

/-- The schedule of the other target stays. -/
theorem keeps_other_schedule : ∃ state',
    deleteTarget serverWithTwoSchedules .admin sampleTargetText true 1 false = .ok state' ∧
    state'.store.schedules.map (·.id) = ["other"] ∧
    KeepsOtherSchedules ⟨⟨7⟩⟩ serverWithTwoSchedules state' := by
  obtain ⟨state', h, hids⟩ : ∃ state',
      deleteTarget serverWithTwoSchedules .admin sampleTargetText true 1 false = .ok state' ∧
        state'.store.schedules.map (·.id) = ["other"] := ⟨_, rfl, by decide +kernel⟩
  refine ⟨state', h, hids,
    (keepsOtherSchedules_iff _ _ _ _ _ _ _ _ parseStr_sampleTargetText h).mpr ?_⟩
  have hlisted : ∀ schedule ∈ serverWithTwoSchedules.store.schedules,
      schedule.targetIds ≠ [] := by decide +kernel
  have hrows : ∀ db ∈ serverWithTwoSchedules.repositories, ∀ row ∈ db.schedules,
      row.schedule.targetIds ≠ [] := by decide +kernel
  constructor
  · exact fun schedule hmem hempty => absurd hempty (hlisted schedule hmem)
  · exact fun db hdb row hmem hempty => absurd hempty (hrows db hdb row hmem)

theorem backup_schedule_dropped :
    (createSchedule (serverWithTarget ⟨⟨7⟩⟩) .admin backupRequest (fun _ => .ok ()) 0 false).1
      = .ok (scheduleOf backupRequest 0) ∧
    ∃ state', deleteTarget (serverWithSchedule ⟨⟨7⟩⟩ backupRequest) .admin
        sampleTargetText true 1 false = .ok state' ∧
      ¬ KeepsOtherSchedules ⟨⟨7⟩⟩ (serverWithSchedule ⟨⟨7⟩⟩ backupRequest) state' := by
  obtain ⟨state', h⟩ : ∃ state', deleteTarget (serverWithSchedule ⟨⟨7⟩⟩ backupRequest) .admin
      sampleTargetText true 1 false = .ok state' := ⟨_, rfl⟩
  refine ⟨rfl, state', h, fun hkeeps => ?_⟩
  have hstays := hkeeps.1 (scheduleOf backupRequest 0) (List.mem_singleton_self _) (by decide)
    (fun policyId hpolicy => by cases hpolicy)
  rw [(deleteTarget_ok parseStr_sampleTargetText h).1] at hstays
  exact absurd hstays (by decide)

end Lxcup.Server
