import Lxcup.Ansible.Consistency
import Lxcup.Lib.Lists
import Lxcup.Server.DeleteTarget
import Lxcup.Server.PackagePolicy
import Mathlib.Data.List.Dedup

/-!
# Schedules and policies over time

The requests that create, enable and delete schedules and update policies, the standard policy for
all targets, the tick of the dispatcher, and the deletion of targets, as one machine over the state
of the server.  Every request is one step.

In persistent mode a request changes the store first and the database after it, and a failing
write leaves the store changed.  `delete_update_policy` is the exception: it asks the database
which schedules there are.

All other handlers are one kind of step, which may write anything they could write: they register
targets and change them, fill the tables that belong to targets, and use the coordinator, but none
removes a target or touches a schedule or a policy.

## Main definitions

* `setScheduleEnabled`, `createUpdatePolicy`, `deleteUpdatePolicy`, `ensureDefaultUpdatePolicies`,
  `disableSchedulesForTargets`, `dispatchDueSchedules`.
* `UpkeepAction`, `upkeepMachine`.

## Main results

* `upkeep_of_step` — everything a step does to targets, schedules and policies.
-/

namespace Lxcup.Server

open Lxcup.Lib Lxcup.Core Lxcup.Ansible Lxcup.Persistence

variable {H P D : Type}

/-! ### Schedules -/

/-- The target is registered. -/
def ApiStore.Registered (store : ApiStore H P D) (id : TargetId) : Prop :=
  ∃ target ∈ store.targets, target.id = id

/-- There is an update policy with this id. -/
def ApiStore.HasPolicy (store : ApiStore H P D) (policyId : String) : Prop :=
  ∃ policy ∈ store.updatePolicies, policy.id = policyId

instance (store : ApiStore H P D) (id : TargetId) : Decidable (store.Registered id) :=
  inferInstanceAs (Decidable (∃ target ∈ store.targets, target.id = id))

instance (store : ApiStore H P D) (policyId : String) : Decidable (store.HasPolicy policyId) :=
  inferInstanceAs (Decidable (∃ policy ∈ store.updatePolicies, policy.id = policyId))

/-- A schedule is written to the store, in the place of the one with its id, and saved; `dbFails`
says that the write to the database fails. -/
def replaceSchedule (state : ApiState H P D) (updated : JobSchedule) (now : Timestamp)
    (dbFails : Bool) : ApiState H P D where
  store := { state.store with
    schedules := replaceFirst (fun schedule => schedule.id = updated.id) updated
      state.store.schedules }
  ansible := state.ansible
  repositories := state.repositories.map fun db =>
    if dbFails then db else saveSchedule db updated now

/-- `set_schedule_enabled`.  Targets and policy of the schedule are not looked at. -/
def setScheduleEnabled (state : ApiState H P D) (actorRole : ActorRole) (scheduleId : String)
    (enabled : Bool) (now : Timestamp) (dbFails : Bool) :
    Except ApiError JobSchedule × ApiState H P D :=
  match requirePermission actorRole .configure with
  | .error error => (.error error, state)
  | .ok () =>
    match state.store.schedules.find? fun schedule => schedule.id = scheduleId with
    | none => (.error (.notFound "schedule not found"), state)
    | some schedule =>
      let updated := { schedule with enabled := enabled }
      (if state.repositories.isSome && dbFails then .error .storage else .ok updated,
        replaceSchedule state updated now dbFails)

/-- `disable_schedules_for_targets`: after a secret of a target was revoked or rotated.  Failing
writes to the database are ignored. -/
def disableSchedulesForTargets (state : ApiState H P D) (affectedTargets : List TargetId)
    (now : Timestamp) (dbFails : Bool) : ApiState H P D :=
  let affected (schedule : JobSchedule) : Bool :=
    (schedule.targetIds.any fun id => id ∈ affectedTargets) && schedule.enabled
  let disable (schedule : JobSchedule) : JobSchedule :=
    { schedule with
      enabled := false
      lastError := some "disabled because a referenced secret was revoked or rotated" }
  let changed := (state.store.schedules.filter affected).map disable
  { state with
    store := { state.store with
      schedules := state.store.schedules.map fun schedule =>
        if affected schedule then disable schedule else schedule }
    repositories := state.repositories.map fun db =>
      if dbFails then db else changed.foldl (fun db schedule => saveSchedule db schedule now) db }

/-- What comes of a due schedule: it waits for a worker, or runs, which may fail. -/
inductive ScheduledRun
  | waits
  | ran (failure : Option String) (dbFails : Bool)
  deriving DecidableEq, Repr

/-- The run of a due schedule, as far as it concerns schedules.  The schedule is advanced if it
is still there. -/
def runDueSchedule (now : Timestamp) (run : JobSchedule → ScheduledRun) (state : ApiState H P D)
    (due : JobSchedule) : ApiState H P D :=
  match run due with
  | .waits => state
  | .ran failure dbFails =>
    match state.store.schedules.find? fun schedule => schedule.id = due.id with
    | none => state
    | some current => replaceSchedule state (current.advanceAfterRun now failure) now dbFails

/-- `dispatch_due_schedules`.  The jobs, inventories and backups of the runs are steps of their
own. -/
def dispatchDueSchedules (state : ApiState H P D) (now : Timestamp)
    (run : JobSchedule → ScheduledRun) : ApiState H P D :=
  (state.store.schedules.filter (·.isDue now)).foldl (runDueSchedule now run) state

/-! ### Policies -/

/-- `UpdatePolicyRepository::save`: one row for each id. -/
def savePolicy (db : Database) (policy : UpdatePolicy) (now : Timestamp) : Database :=
  { db with
    updatePolicies := (db.updatePolicies.filter fun row => row.policy.id ≠ policy.id)
      ++ [⟨policy, now⟩] }

/-- The checks of `create_update_policy`.  That a target is listed twice is not refused. -/
def checkUpdatePolicy (store : ApiStore H P D) (actorRole : ActorRole)
    (request : CreateUpdatePolicyRequest) : Except ApiError Unit := do
  requirePermission actorRole .configure
  validateUpdatePolicyRequest request
  if store.updatePolicies.any fun policy => policy.id = request.id then
    throw (.conflict "policy_exists" "policy id already exists")
  if request.allowedTargets.any fun id => !store.targets.any fun target => target.id = id then
    throw (.notFound "policy target not found")

/-- `create_update_policy`. -/
def createUpdatePolicy (state : ApiState H P D) (actorRole : ActorRole)
    (request : CreateUpdatePolicyRequest) (now : Timestamp) (dbFails : Bool) :
    Except ApiError UpdatePolicy × ApiState H P D :=
  match checkUpdatePolicy state.store actorRole request with
  | .error error => (.error error, state)
  | .ok () =>
    let store := { state.store with
      updatePolicies := state.store.updatePolicies ++ [request.policy] }
    match state.repositories with
    | none => (.ok request.policy, { state with store := store })
    | some db =>
      if dbFails then (.error .storage, { state with store := store })
      else
        (.ok request.policy, { state with
          store := store, repositories := some (savePolicy db request.policy now) })

/-- The call of the database that fails when a policy is deleted. -/
inductive PolicyDeletionFault
  | listSchedules | delete | audit
  deriving DecidableEq, Repr

/-- The schedules that `delete_update_policy` looks at: those of the database in persistent
mode. -/
def ApiState.listSchedules (state : ApiState H P D) : List JobSchedule :=
  match state.repositories with
  | some db => db.schedules.map (·.schedule)
  | none => state.store.schedules

/-- The store without a policy. -/
def ApiStore.withoutPolicy (store : ApiStore H P D) (policyId : String) : ApiStore H P D :=
  { store with updatePolicies := store.updatePolicies.filter fun policy => policy.id ≠ policyId }

/-- An enabled schedule refers to the policy. -/
def enabledWithPolicy (policyId : String) (schedule : JobSchedule) : Bool :=
  schedule.enabled && schedule.policyId = some policyId

/-- The checks of `delete_update_policy`, up to the schedules that refer to the policy. -/
def checkPolicyDeletion (state : ApiState H P D) (actorRole : ActorRole) (policyId : String)
    (confirmed : Bool) (fault : Option PolicyDeletionFault) : Except ApiError Unit := do
  requirePermission actorRole .destructive
  if !confirmed then
    throw (.badRequest "confirmation_required"
      "deleting an update policy requires explicit confirmation")
  if policyId = standardUpdatePolicyId then
    throw (.badRequest "system_policy_protected"
      "the system-wide standard update policy cannot be deleted")
  if state.repositories.isSome && fault = some .listSchedules then
    throw .storage
  if state.listSchedules.any (enabledWithPolicy policyId) then
    throw (.conflict "policy_in_use"
      "disable recurring schedules that reference this policy before deleting it")

/-- `delete_update_policy`.  The audit event is not modelled; when it fails, the policy is gone
nevertheless. -/
def deleteUpdatePolicy (state : ApiState H P D) (actorRole : ActorRole) (policyId : String)
    (confirmed : Bool) (fault : Option PolicyDeletionFault) :
    Except ApiError Unit × ApiState H P D :=
  match checkPolicyDeletion state actorRole policyId confirmed fault with
  | .error error => (.error error, state)
  | .ok () =>
    match state.repositories with
    | none =>
      if state.store.updatePolicies.any fun policy => policy.id = policyId then
        (.ok (), { state with store := state.store.withoutPolicy policyId })
      else (.error (.notFound "update policy not found"), state)
    | some db =>
      if fault = some .delete then (.error .storage, state)
      else if db.updatePolicies.any fun row => row.policy.id = policyId then
        let db := { db with
          updatePolicies := db.updatePolicies.filter fun row => row.policy.id ≠ policyId }
        (if fault = some .audit then .error .storage else .ok (),
          { state with store := state.store.withoutPolicy policyId, repositories := some db })
      else (.error (.notFound "update policy not found"), state)

/-- `sort_by_key` and `dedup` on target ids. -/
def sortTargetIds (ids : List TargetId) : List TargetId :=
  ids.dedup.insertionSort fun a b => a.uuid.bits.toNat ≤ b.uuid.bits.toNat

/-- A policy extended by targets. -/
def extendPolicy (policy : UpdatePolicy) (ids : List TargetId) : UpdatePolicy :=
  { policy with allowedTargets := sortTargetIds (policy.allowedTargets ++ ids) }

@[simp] theorem mem_sortTargetIds {ids : List TargetId} {id : TargetId} :
    id ∈ sortTargetIds ids ↔ id ∈ ids := by
  rw [sortTargetIds, List.mem_insertionSort, List.mem_dedup]

theorem nodup_sortTargetIds (ids : List TargetId) : (sortTargetIds ids).Nodup :=
  (List.perm_insertionSort _ _).nodup_iff.mpr (List.nodup_dedup ids)

@[simp] theorem mem_extendPolicy {policy : UpdatePolicy} {ids : List TargetId} {id : TargetId} :
    id ∈ (extendPolicy policy ids).allowedTargets ↔ id ∈ policy.allowedTargets ∨ id ∈ ids := by
  rw [extendPolicy, mem_sortTargetIds, List.mem_append]

/-- A policy that lists its targets once does not get longer exactly if it lists the new ones. -/
theorem length_extendPolicy_iff {policy : UpdatePolicy} (h : policy.allowedTargets.Nodup)
    (ids : List TargetId) :
    (extendPolicy policy ids).allowedTargets.length = policy.allowedTargets.length ↔
      ∀ id ∈ ids, id ∈ policy.allowedTargets := by
  have hnodup : (extendPolicy policy ids).allowedTargets.Nodup := nodup_sortTargetIds _
  have hsub : policy.allowedTargets ⊆ (extendPolicy policy ids).allowedTargets :=
    fun id hmem => mem_extendPolicy.mpr (.inl hmem)
  have hsubperm := List.subperm_of_subset h hsub
  constructor
  · intro hlength id hmem
    have hperm := hsubperm.perm_of_length_le hlength.le
    exact hperm.mem_iff.mpr (mem_extendPolicy.mpr (.inr hmem))
  · intro hall
    refine le_antisymm (List.subperm_of_subset hnodup fun id hmem => ?_).length_le
      hsubperm.length_le
    exact (mem_extendPolicy.mp hmem).elim (fun hold => hold) (hall id)

/-- `persist_standard_update_policy`.  A policy that the store does not know may be in the database
already, and is extended then. -/
def persistStandardUpdatePolicy (db : Database) (policy : UpdatePolicy) (alreadyExists : Bool)
    (now : Timestamp) (dbFails : Bool) : Except ApiError (UpdatePolicy × Database) :=
  if dbFails then .error .storage
  else if alreadyExists then .ok (policy, savePolicy db policy now)
  else
    match db.updatePolicies.find? fun row => row.policy.id = standardUpdatePolicyId with
    | none => .ok (policy, savePolicy db policy now)
    | some row =>
      let current := extendPolicy row.policy policy.allowedTargets
      if current.allowedTargets.length = row.policy.allowedTargets.length then .ok (current, db)
      else .ok (current, savePolicy db current now)

/-- The standard policy is put in the place of the one in the store. -/
def ApiStore.putStandardPolicy (store : ApiStore H P D) (policy : UpdatePolicy) :
    ApiStore H P D :=
  { store with
    updatePolicies :=
      if store.updatePolicies.any fun existing => existing.id = standardUpdatePolicyId then
        replaceFirst (fun existing => existing.id = standardUpdatePolicyId) policy
          store.updatePolicies
      else store.updatePolicies ++ [policy] }

/-- `ensure_default_update_policies`. -/
def ensureDefaultUpdatePolicies (state : ApiState H P D) (now : Timestamp) (dbFails : Bool) :
    Except ApiError Nat × ApiState H P D :=
  let targetIds := sortTargetIds (state.store.targets.map (·.id))
  if targetIds = [] then (.ok 0, state)
  else
    let existing := state.store.updatePolicies.find? fun policy =>
      policy.id = standardUpdatePolicyId
    let before := existing.getD (defaultUpdatePolicy targetIds)
    let policy := extendPolicy before targetIds
    if existing.isSome && policy.allowedTargets.length = before.allowedTargets.length then
      (.ok 0, state)
    else
      match state.repositories with
      | none => (.ok 1, { state with store := state.store.putStandardPolicy policy })
      | some db =>
        match persistStandardUpdatePolicy db policy existing.isSome now dbFails with
        | .error error => (.error error, state)
        | .ok (policy, db) =>
          (.ok 1, { state with
            store := state.store.putStandardPolicy policy, repositories := some db })

/-! ### The machine -/

/-- What the other handlers leave in the collections that they write. -/
structure OtherWrites (H P D : Type) where
  targets : List Target
  agentReports : Table TargetId H
  packageInventories : Table TargetId P
  targetDockerInventories : Table TargetId D
  enrollments : List Enrollment
  enrollmentKeys : Table String EnrollmentId
  /-- The tables of the database. -/
  targetRows : Table TargetId Target
  ansibleJobs : JobTable

/-- The state after the writes of another handler. -/
def OtherWrites.write (writes : OtherWrites H P D) (state : ApiState H P D) : ApiState H P D where
  store := ⟨writes.targets, writes.agentReports, writes.packageInventories,
    writes.targetDockerInventories, writes.enrollments, writes.enrollmentKeys,
    state.store.schedules, state.store.updatePolicies⟩
  ansible := state.ansible
  repositories := state.repositories.map fun db =>
    { db with targets := writes.targetRows, ansibleJobs := writes.ansibleJobs }

/-- The steps of the server. -/
inductive UpkeepAction (H P D : Type)
  | createSchedule (actorRole : ActorRole) (request : CreateScheduleRequest)
      (readBackupPassphrase : SecretId → Except ApiError Unit) (now : Timestamp) (dbFails : Bool)
  | setScheduleEnabled (actorRole : ActorRole) (scheduleId : String) (enabled : Bool)
      (now : Timestamp) (dbFails : Bool)
  | createUpdatePolicy (actorRole : ActorRole) (request : CreateUpdatePolicyRequest)
      (now : Timestamp) (dbFails : Bool)
  | deleteUpdatePolicy (actorRole : ActorRole) (policyId : String) (confirmed : Bool)
      (fault : Option PolicyDeletionFault)
  | deleteTarget (actorRole : ActorRole) (targetId : String) (confirmed : Bool) (now : Timestamp)
      (dbFails : Bool)
  | dispatchDueSchedules (now : Timestamp) (run : JobSchedule → ScheduledRun)
  | ensureDefaultUpdatePolicies (now : Timestamp) (dbFails : Bool)
  | disableSchedulesForTargets (affectedTargets : List TargetId) (now : Timestamp)
      (dbFails : Bool)
  /-- A call of the coordinator by another handler. -/
  | coordinator (op : CoordinatorOp)
  | other (writes : OtherWrites H P D)

/-- The state after a step.  Other handlers keep the targets, and the ids that the coordinator
gets are new. -/
def upkeepStep (state : ApiState H P D) : UpkeepAction H P D → Option (ApiState H P D)
  | .createSchedule actorRole request readBackupPassphrase now dbFails =>
    some (createSchedule state actorRole request readBackupPassphrase now dbFails).2
  | .setScheduleEnabled actorRole scheduleId enabled now dbFails =>
    some (setScheduleEnabled state actorRole scheduleId enabled now dbFails).2
  | .createUpdatePolicy actorRole request now dbFails =>
    some (createUpdatePolicy state actorRole request now dbFails).2
  | .deleteUpdatePolicy actorRole policyId confirmed fault =>
    some (deleteUpdatePolicy state actorRole policyId confirmed fault).2
  | .deleteTarget actorRole targetId confirmed now dbFails =>
    match deleteTarget state actorRole targetId confirmed now dbFails with
    | .ok state' => some state'
    | .error _ => some state
  | .dispatchDueSchedules now run => some (dispatchDueSchedules state now run)
  | .ensureDefaultUpdatePolicies now dbFails =>
    some (ensureDefaultUpdatePolicies state now dbFails).2
  | .disableSchedulesForTargets affectedTargets now dbFails =>
    some (disableSchedulesForTargets state affectedTargets now dbFails)
  | .coordinator op =>
    if Admissible state.ansible op then some { state with ansible := op.run state.ansible }
    else none
  | .other writes =>
    if ∀ target ∈ state.store.targets, ∃ target' ∈ writes.targets, target'.id = target.id then
      some (writes.write state)
    else none

/-- The server from its start: targets may be registered, but there are no schedules and no
policies yet. -/
def upkeepMachine : Machine (ApiState H P D) (UpkeepAction H P D) where
  init state := state.store.schedules = [] ∧ state.store.updatePolicies = [] ∧
    state.ansible = .default ∧
    ∀ db ∈ state.repositories, db.schedules = [] ∧ db.updatePolicies = []
  step := upkeepStep

/-! ### What a step does -/

/-- The schedule as it goes on: with its targets and its policy, and enabled only if it was. -/
structure ContinuedAs (schedule schedule' : JobSchedule) : Prop where
  targetIds : schedule'.targetIds = schedule.targetIds
  policyId : schedule'.policyId = schedule.policyId
  enabled : schedule'.enabled = true → schedule.enabled = true

theorem ContinuedAs.refl (schedule : JobSchedule) : ContinuedAs schedule schedule :=
  ⟨rfl, rfl, fun h => h⟩

/-- Everything a step does to targets, schedules and policies. -/
inductive Upkeep (state : ApiState H P D) : UpkeepAction H P D → ApiStore H P D → Prop
  /-- Targets and policies stay, and all schedules are continued. -/
  | keep {a : UpkeepAction H P D} {store : ApiStore H P D}
      (targets : ∀ id, state.store.Registered id → store.Registered id)
      (schedules : ∀ schedule' ∈ store.schedules, ∃ schedule ∈ state.store.schedules,
        ContinuedAs schedule schedule')
      (policies : store.updatePolicies = state.store.updatePolicies) : Upkeep state a store
  /-- A schedule is created. -/
  | schedule {a : UpkeepAction H P D} {request : CreateScheduleRequest} {now : Timestamp}
      (checked : validateScheduleResources request state.store = .ok ()) :
      Upkeep state a
        { state.store with schedules := state.store.schedules ++ [scheduleOf request now] }
  /-- A schedule is enabled. -/
  | enable {actorRole : ActorRole} {schedule : JobSchedule} {now : Timestamp} {dbFails : Bool}
      {scheduleId : String}
      (found : (state.store.schedules.find? fun schedule => schedule.id = scheduleId)
        = some schedule) :
      Upkeep state (.setScheduleEnabled actorRole scheduleId true now dbFails)
        (replaceSchedule state { schedule with enabled := true } now dbFails).store
  /-- A policy is created. -/
  | createPolicy {a : UpkeepAction H P D} {policy : UpdatePolicy}
      (new : ¬ state.store.HasPolicy policy.id) :
      Upkeep state a
        { state.store with updatePolicies := state.store.updatePolicies ++ [policy] }
  /-- The standard policy is created or changed. -/
  | standardPolicy {a : UpkeepAction H P D} {policy : UpdatePolicy}
      (standard : policy.id = standardUpdatePolicyId) :
      Upkeep state a (state.store.putStandardPolicy policy)
  /-- A policy is deleted that no schedule refers to, as far as the handler can see. -/
  | deletePolicy {actorRole : ActorRole} {policyId : String} {confirmed : Bool}
      {fault : Option PolicyDeletionFault}
      (unused : ∀ schedule ∈ state.listSchedules, enabledWithPolicy policyId schedule = false) :
      Upkeep state (.deleteUpdatePolicy actorRole policyId confirmed fault)
        (state.store.withoutPolicy policyId)
  /-- A target is deleted. -/
  | deleteTarget {a : UpkeepAction H P D} {targetId : TargetId} :
      Upkeep state a (cascadeStore state.store targetId)

/-- A step that leaves the store as it is. -/
theorem Upkeep.same {state : ApiState H P D} {a : UpkeepAction H P D} :
    Upkeep state a state.store :=
  .keep (fun _ h => h) (fun schedule h => ⟨schedule, h, .refl schedule⟩) rfl

/-- A schedule that is replaced by what it goes on as. -/
theorem continued_replaceSchedule {state : ApiState H P D} {schedule updated : JobSchedule}
    {now : Timestamp} {dbFails : Bool} (hmem : schedule ∈ state.store.schedules)
    (h : ContinuedAs schedule updated) :
    ∀ schedule' ∈ (replaceSchedule state updated now dbFails).store.schedules,
      ∃ schedule ∈ state.store.schedules, ContinuedAs schedule schedule' := by
  intro schedule' hschedule'
  rcases mem_replaceFirst hschedule' with rfl | hold
  · exact ⟨schedule, hmem, h⟩
  · exact ⟨schedule', hold, .refl schedule'⟩

theorem upkeep_createSchedule (state : ApiState H P D) (actorRole : ActorRole)
    (request : CreateScheduleRequest) (readBackupPassphrase : SecretId → Except ApiError Unit)
    (now : Timestamp) (dbFails : Bool) :
    Upkeep state (.createSchedule actorRole request readBackupPassphrase now dbFails)
      (createSchedule state actorRole request readBackupPassphrase now dbFails).2.store := by
  simp only [createSchedule]
  split
  case h_1 => exact .same
  case h_2 hchecked =>
    have hresources : validateScheduleResources request state.store = .ok () := by
      simp only [bind, Except.bind] at hchecked
      grind
    cases state.repositories with
    | none => exact .schedule hresources
    | some db =>
      dsimp only
      split
      · exact .schedule hresources
      · exact .schedule hresources

theorem upkeep_setScheduleEnabled (state : ApiState H P D) (actorRole : ActorRole)
    (scheduleId : String) (enabled : Bool) (now : Timestamp) (dbFails : Bool) :
    Upkeep state (.setScheduleEnabled actorRole scheduleId enabled now dbFails)
      (setScheduleEnabled state actorRole scheduleId enabled now dbFails).2.store := by
  unfold setScheduleEnabled
  split
  case h_1 => exact .same
  case h_2 =>
    split
    case h_1 => exact .same
    case h_2 schedule hfound =>
      cases enabled with
      | true => exact .enable hfound
      | false =>
        exact .keep (fun _ h => h) (continued_replaceSchedule (List.mem_of_find?_eq_some hfound)
          ⟨rfl, rfl, fun h => by cases h⟩) rfl

theorem upkeep_createUpdatePolicy (state : ApiState H P D) (actorRole : ActorRole)
    (request : CreateUpdatePolicyRequest) (now : Timestamp) (dbFails : Bool) :
    Upkeep state (.createUpdatePolicy actorRole request now dbFails)
      (createUpdatePolicy state actorRole request now dbFails).2.store := by
  unfold createUpdatePolicy
  split
  case h_1 => exact .same
  case h_2 hchecked =>
    have hnew : ¬ state.store.HasPolicy request.policy.id := by
      simp only [checkUpdatePolicy, bind, Except.bind, throw, throwThe, MonadExceptOf.throw,
        pure, Except.pure] at hchecked
      rintro ⟨policy, hpolicy, hid⟩
      have hany : (state.store.updatePolicies.any fun policy => policy.id = request.id) = true :=
        List.any_eq_true.mpr ⟨policy, hpolicy, decide_eq_true hid⟩
      grind
    cases state.repositories with
    | none => exact .createPolicy hnew
    | some db =>
      dsimp only
      split
      · exact .createPolicy hnew
      · exact .createPolicy hnew

theorem upkeep_deleteUpdatePolicy (state : ApiState H P D) (actorRole : ActorRole)
    (policyId : String) (confirmed : Bool) (fault : Option PolicyDeletionFault) :
    Upkeep state (.deleteUpdatePolicy actorRole policyId confirmed fault)
      (deleteUpdatePolicy state actorRole policyId confirmed fault).2.store := by
  unfold deleteUpdatePolicy
  split
  case h_1 => exact .same
  case h_2 hchecked =>
    have hunused : ∀ schedule ∈ state.listSchedules,
        enabledWithPolicy policyId schedule = false := by
      simp only [checkPolicyDeletion, bind, Except.bind, throw, throwThe, MonadExceptOf.throw,
        pure, Except.pure] at hchecked
      have hany : state.listSchedules.any (enabledWithPolicy policyId) = false := by
        grind
      intro schedule hschedule
      exact Bool.eq_false_iff.mpr (List.any_eq_false.mp hany schedule hschedule)
    cases state.repositories with
    | none =>
      dsimp only
      split
      · exact .deletePolicy hunused
      · exact .same
    | some db =>
      dsimp only
      split
      · exact .same
      · split
        · exact .deletePolicy hunused
        · exact .same

/-- The policy that is persisted is the standard policy. -/
theorem persistStandardUpdatePolicy_id {db db' : Database} {policy policy' : UpdatePolicy}
    {alreadyExists dbFails : Bool} {now : Timestamp}
    (h : persistStandardUpdatePolicy db policy alreadyExists now dbFails = .ok (policy', db'))
    (hid : policy.id = standardUpdatePolicyId) : policy'.id = standardUpdatePolicyId := by
  unfold persistStandardUpdatePolicy at h
  split at h
  · cases h
  split at h
  · obtain ⟨rfl, -⟩ := Prod.mk.inj (Except.ok.inj h)
    exact hid
  split at h
  · obtain ⟨rfl, -⟩ := Prod.mk.inj (Except.ok.inj h)
    exact hid
  case h_2 row hrow =>
    have hcurrent : (extendPolicy row.policy policy.allowedTargets).id = standardUpdatePolicyId := by
      have hfound := List.find?_some hrow
      exact of_decide_eq_true hfound
    dsimp only at h
    split at h
    · obtain ⟨rfl, -⟩ := Prod.mk.inj (Except.ok.inj h)
      exact hcurrent
    · obtain ⟨rfl, -⟩ := Prod.mk.inj (Except.ok.inj h)
      exact hcurrent

theorem upkeep_ensureDefaultUpdatePolicies (state : ApiState H P D) (now : Timestamp)
    (dbFails : Bool) :
    Upkeep state (.ensureDefaultUpdatePolicies now dbFails)
      (ensureDefaultUpdatePolicies state now dbFails).2.store := by
  have hbefore : ∀ ids : List TargetId, ((state.store.updatePolicies.find? fun policy =>
      policy.id = standardUpdatePolicyId).getD (defaultUpdatePolicy ids)).id
        = standardUpdatePolicyId := by
    intro ids
    cases hfound : state.store.updatePolicies.find? fun policy =>
        policy.id = standardUpdatePolicyId with
    | none => rfl
    | some policy =>
      have hstandard := List.find?_some hfound
      exact of_decide_eq_true hstandard
  simp only [ensureDefaultUpdatePolicies]
  split
  · exact .same
  split
  · exact .same
  split
  · exact .standardPolicy (hbefore _)
  · split
    case h_1 => exact .same
    case h_2 hpersisted =>
      exact .standardPolicy (persistStandardUpdatePolicy_id hpersisted (hbefore _))

theorem ContinuedAs.trans {schedule schedule' schedule'' : JobSchedule}
    (h : ContinuedAs schedule schedule') (h' : ContinuedAs schedule' schedule'') :
    ContinuedAs schedule schedule'' :=
  ⟨h'.targetIds.trans h.targetIds, h'.policyId.trans h.policyId, fun he => h.enabled (h'.enabled he)⟩

/-- The run of a due schedule continues all schedules. -/
theorem runDueSchedule_keeps (now : Timestamp) (run : JobSchedule → ScheduledRun)
    (state : ApiState H P D) (due : JobSchedule) :
    (runDueSchedule now run state due).store.targets = state.store.targets ∧
    (runDueSchedule now run state due).store.updatePolicies = state.store.updatePolicies ∧
    ∀ schedule' ∈ (runDueSchedule now run state due).store.schedules,
      ∃ schedule ∈ state.store.schedules, ContinuedAs schedule schedule' := by
  have hsame : ∀ schedule' ∈ state.store.schedules,
      ∃ schedule ∈ state.store.schedules, ContinuedAs schedule schedule' :=
    fun schedule h => ⟨schedule, h, .refl schedule⟩
  unfold runDueSchedule
  split
  case h_1 => exact ⟨rfl, rfl, hsame⟩
  case h_2 =>
    split
    case h_1 => exact ⟨rfl, rfl, hsame⟩
    case h_2 current hfound =>
      exact ⟨rfl, rfl, continued_replaceSchedule (List.mem_of_find?_eq_some hfound)
        ⟨rfl, rfl, fun h => h⟩⟩

/-- So does a tick, by induction on the due schedules. -/
theorem dispatch_keeps (now : Timestamp) (run : JobSchedule → ScheduledRun)
    (dues : List JobSchedule) (state : ApiState H P D) :
    (dues.foldl (runDueSchedule now run) state).store.targets = state.store.targets ∧
    (dues.foldl (runDueSchedule now run) state).store.updatePolicies
      = state.store.updatePolicies ∧
    ∀ schedule' ∈ (dues.foldl (runDueSchedule now run) state).store.schedules,
      ∃ schedule ∈ state.store.schedules, ContinuedAs schedule schedule' := by
  induction dues generalizing state with
  | nil => exact ⟨rfl, rfl, fun schedule h => ⟨schedule, h, .refl schedule⟩⟩
  | cons due dues ih =>
    obtain ⟨htargets, hpolicies, hschedules⟩ := runDueSchedule_keeps now run state due
    obtain ⟨htargets', hpolicies', hschedules'⟩ := ih (runDueSchedule now run state due)
    refine ⟨htargets'.trans htargets, hpolicies'.trans hpolicies, fun schedule'' hmem'' => ?_⟩
    obtain ⟨schedule', hmem', hcontinued'⟩ := hschedules' schedule'' hmem''
    obtain ⟨schedule, hmem, hcontinued⟩ := hschedules schedule' hmem'
    exact ⟨schedule, hmem, hcontinued.trans hcontinued'⟩

theorem upkeep_dispatchDueSchedules (state : ApiState H P D) (now : Timestamp)
    (run : JobSchedule → ScheduledRun) :
    Upkeep state (.dispatchDueSchedules now run) (dispatchDueSchedules state now run).store := by
  obtain ⟨htargets, hpolicies, hschedules⟩ :=
    dispatch_keeps now run (state.store.schedules.filter (·.isDue now)) state
  refine .keep (fun id h => ?_) hschedules hpolicies
  obtain ⟨target, htarget, hid⟩ := h
  exact ⟨target, htargets.symm ▸ htarget, hid⟩

theorem upkeep_disableSchedulesForTargets (state : ApiState H P D)
    (affectedTargets : List TargetId) (now : Timestamp) (dbFails : Bool) :
    Upkeep state (.disableSchedulesForTargets affectedTargets now dbFails)
      (disableSchedulesForTargets state affectedTargets now dbFails).store := by
  refine .keep (fun _ h => h) (fun schedule' hmem => ?_) rfl
  obtain ⟨schedule, hschedule, rfl⟩ := List.mem_map.mp hmem
  refine ⟨schedule, hschedule, ?_⟩
  split
  · exact ⟨rfl, rfl, fun h => by cases h⟩
  · exact .refl schedule

/-- **Everything a step does** to targets, schedules and policies. -/
theorem upkeep_of_step {state state' : ApiState H P D} {a : UpkeepAction H P D}
    (h : upkeepMachine.step state a = some state') : Upkeep state a state'.store := by
  change upkeepStep state a = some state' at h
  cases a with
  | createSchedule actorRole request readBackupPassphrase now dbFails =>
    obtain rfl := Option.some.inj h
    exact upkeep_createSchedule ..
  | setScheduleEnabled actorRole scheduleId enabled now dbFails =>
    obtain rfl := Option.some.inj h
    exact upkeep_setScheduleEnabled ..
  | createUpdatePolicy actorRole request now dbFails =>
    obtain rfl := Option.some.inj h
    exact upkeep_createUpdatePolicy ..
  | deleteUpdatePolicy actorRole policyId confirmed fault =>
    obtain rfl := Option.some.inj h
    exact upkeep_deleteUpdatePolicy ..
  | deleteTarget actorRole targetId confirmed now dbFails =>
    simp only [upkeepStep] at h
    split at h
    case h_1 state'' hdelete =>
      obtain rfl := Option.some.inj h
      obtain ⟨uuid, -, hstore⟩ := deleteTarget_store hdelete
      rw [hstore]
      exact .deleteTarget
    case h_2 =>
      obtain rfl := Option.some.inj h
      exact .same
  | dispatchDueSchedules now run =>
    obtain rfl := Option.some.inj h
    exact upkeep_dispatchDueSchedules ..
  | ensureDefaultUpdatePolicies now dbFails =>
    obtain rfl := Option.some.inj h
    exact upkeep_ensureDefaultUpdatePolicies ..
  | disableSchedulesForTargets affectedTargets now dbFails =>
    obtain rfl := Option.some.inj h
    exact upkeep_disableSchedulesForTargets ..
  | coordinator op =>
    simp only [upkeepStep] at h
    split at h
    · obtain rfl := Option.some.inj h
      exact .same
    · cases h
  | other writes =>
    simp only [upkeepStep] at h
    split at h
    case isTrue hkept =>
      obtain rfl := Option.some.inj h
      refine .keep (fun id hregistered => ?_)
        (fun schedule hmem => ⟨schedule, hmem, .refl schedule⟩) rfl
      obtain ⟨target, htarget, rfl⟩ := hregistered
      exact hkept target htarget
    case isFalse => cases h

end Lxcup.Server
