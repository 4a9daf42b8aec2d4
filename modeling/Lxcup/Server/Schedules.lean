import Lxcup.Server.Api

/-!
# Creating schedules

The checks on a request for a new schedule, in the order in which they are made, and
the schedule it becomes.  Whether a secret can be read as a backup passphrase is
decided by the secret store, a parameter here.

## Main definitions

* `CreateScheduleRequest`, `validateScheduleFields`, `validateScheduleResources`.
* `createSchedule` — the request handler.
-/

namespace Lxcup.Server

open Lxcup.Lib Lxcup.Core Lxcup.Persistence

/-- A request for a schedule. -/
structure CreateScheduleRequest where
  id : String
  operation : String
  timezone : String
  targetIds : List TargetId
  everyMinutes : UInt32
  enabled : Bool
  threshold : Option ThresholdRule
  policyId : Option String
  backupSecretRef : Option SecretId
  deriving DecidableEq, Repr, Inhabited

def validateScheduleIdentity (request : CreateScheduleRequest) : Except ApiError Unit :=
  if trim request.id.toList = [] ∨ request.id.utf8ByteSize > 128 then
    .error (.badRequest "invalid_schedule" "schedule id is required and bounded")
  else if trim request.timezone.toList = [] ∨ request.timezone.utf8ByteSize > 64 then
    .error (.badRequest "invalid_timezone" "timezone is required and bounded")
  else if request.everyMinutes = 0 ∨ request.everyMinutes > 7 * 24 * 60 then
    .error (.badRequest "invalid_interval" "schedule interval must be between 1 minute and 7 days")
  else .ok ()

/-- The operations that can be scheduled. -/
def scheduledOperations : List String :=
  ["health_check", "collect_package_inventory", "update_packages", "docker_discovery",
    "create_backup"]

def validateScheduleOperation (request : CreateScheduleRequest) : Except ApiError Unit :=
  if request.operation ∉ scheduledOperations then
    .error (.badRequest "invalid_operation" "operation is not registered for scheduling")
  else if request.operation = "update_packages" ∧ request.policyId = none then
    .error (.badRequest "update_policy_required"
      "package updates require an explicit update policy")
  else if request.operation = "docker_discovery" ∧ request.threshold.isSome then
    .error (.badRequest "invalid_threshold"
      "Docker discovery does not support telemetry thresholds")
  else if request.operation ≠ "create_backup" ∧ request.backupSecretRef.isSome then
    .error (.badRequest "invalid_backup_secret"
      "backup secrets are only valid for backup schedules")
  else .ok ()

def validateBackupSchedule (request : CreateScheduleRequest) : Except ApiError Unit :=
  if request.operation = "create_backup" then
    if request.backupSecretRef = none then
      .error (.badRequest "backup_secret_required"
        "scheduled backups require a global backup-passphrase secret")
    else if request.targetIds ≠ [] ∨ request.threshold.isSome ∨ request.policyId.isSome then
      .error (.badRequest "invalid_backup_schedule"
        "backup schedules do not use targets, thresholds, or update policies")
    else if request.timezone ≠ "UTC" then
      .error (.badRequest "invalid_backup_schedule_timezone" "backup schedules use UTC")
    else if request.everyMinutes < 60 then
      .error (.badRequest "backup_interval_too_short"
        "scheduled backups must run at least 60 minutes apart")
    else .ok ()
  else .ok ()

def validateScheduleFields (request : CreateScheduleRequest) : Except ApiError Unit := do
  validateScheduleIdentity request
  validateScheduleOperation request
  validateBackupSchedule request

variable {H P D : Type}

def validateSchedulePolicyTargets (request : CreateScheduleRequest) (store : ApiStore H P D) :
    Except ApiError Unit :=
  match request.policyId with
  | none => .ok ()
  | some policyId =>
    match store.updatePolicies.find? fun policy => policy.id = policyId && policy.enabled with
    | none => .error (.notFound "update policy not found or disabled")
    | some policy =>
      if request.targetIds.any fun targetId => targetId ∉ policy.allowedTargets then
        .error (.badRequest "update_policy_target_denied"
          "update policy does not allow every schedule target")
      else .ok ()

def validateScheduleResources (request : CreateScheduleRequest) (store : ApiStore H P D) :
    Except ApiError Unit :=
  if store.schedules.any fun schedule => schedule.id = request.id then
    .error (.conflict "schedule_exists" "schedule id already exists")
  else if request.targetIds = [] ∧ request.operation ≠ "create_backup" then
    .error (.badRequest "target_required" "at least one target is required")
  else if request.targetIds.any fun id => !store.targets.any fun target => target.id = id then
    .error (.notFound "schedule target not found")
  else if request.operation = "docker_discovery" ∧ request.targetIds.any fun targetId =>
      !store.targets.any fun target => target.id = targetId && target.kind = .lxc then
    .error (.badRequest "docker_discovery_requires_lxc"
      "Docker discovery schedules require LXC targets")
  else validateSchedulePolicyTargets request store

/-- The schedule of an accepted request. -/
def scheduleOf (request : CreateScheduleRequest) (now : Timestamp) : JobSchedule where
  id := request.id
  operation := request.operation
  timezone := request.timezone
  targetIds := request.targetIds
  frequency := .everyMinutes request.everyMinutes
  enabled := request.enabled
  threshold := request.threshold
  policyId := request.policyId
  backupSecretRef := request.backupSecretRef
  lastRunAt := none
  nextRunAt := now + (ScheduleFrequency.everyMinutes request.everyMinutes).interval
  lastError := none

/-- `ScheduleRepository::save`: one row for each id. -/
def saveSchedule (db : Database) (schedule : JobSchedule) (now : Timestamp) : Database :=
  { db with
    schedules := (db.schedules.filter fun row => row.schedule.id ≠ schedule.id)
      ++ [⟨schedule, now⟩] }

/-- `create_schedule`: the schedule is put into the store first, then saved; a failing
write leaves it in the store.  The state comes back with either answer. -/
def createSchedule (state : ApiState H P D) (actorRole : ActorRole)
    (request : CreateScheduleRequest) (readBackupPassphrase : SecretId → Except ApiError Unit)
    (now : Timestamp) (dbFails : Bool) : Except ApiError JobSchedule × ApiState H P D :=
  let checked : Except ApiError Unit := do
    requirePermission actorRole .configure
    if request.operation = "create_backup" ∧ actorRole ≠ .admin then
      throw (.forbidden "admin_required" "administrator access is required to schedule backups")
    validateScheduleFields request
    if request.operation = "create_backup" then
      match request.backupSecretRef with
      | none => throw (.badRequest "backup_secret_required" "select a backup-passphrase secret")
      | some secretRef => readBackupPassphrase secretRef
    validateScheduleResources request state.store
  match checked with
  | .error error => (.error error, state)
  | .ok () =>
    let schedule := scheduleOf request now
    -- the store is written before the database is asked
    let store := { state.store with schedules := state.store.schedules ++ [schedule] }
    match state.repositories with
    | none => (.ok schedule, { state with store := store })
    | some db =>
      if dbFails then (.error .storage, { state with store := store })
      else
        (.ok schedule, { state with
          store := store, repositories := some (saveSchedule db schedule now) })

end Lxcup.Server
