import Lxcup.Core.Schedule
import Lxcup.Persistence.JobTable

/-!
# The database

The tables that the job queue, the schedules and the deletion of targets work on, and
`delete_with_related_data`, which is one transaction over several of them.  A row of
`schedules` or `update_policies` holds the object and the time of its last update.

## Main definitions

* `ScheduleRow`, `PolicyRow`, `Database`.
* `Database.deleteWithRelatedData` — the deletion of a target.

## Main results

* `Database.deleteWithRelatedData_ok` — what a deletion that goes through does.
-/

namespace Lxcup.Persistence

open Lxcup.Lib Lxcup.Core Lxcup.Ansible

/-- A row of `schedules`. -/
structure ScheduleRow where
  schedule : JobSchedule
  updatedAt : Timestamp
  deriving DecidableEq, Repr, Inhabited

/-- A row of `update_policies`. -/
structure PolicyRow where
  policy : UpdatePolicy
  updatedAt : Timestamp
  deriving DecidableEq, Repr, Inhabited

/-- A row of `audit_events` written by the deletion of a target. -/
structure TargetDeletedEvent where
  targetId : TargetId
  targetName : String
  role : String
  createdAt : Timestamp
  deriving DecidableEq, Repr, Inhabited

/-- The tables. -/
structure Database where
  targets : Table TargetId Target
  ansibleJobs : JobTable
  schedules : List ScheduleRow
  updatePolicies : List PolicyRow
  auditEvents : List TargetDeletedEvent

namespace Database

/-- The states of a job that keep its target from being deleted. -/
def blocksDeletion (status : AnsibleJobStatus) : Bool :=
  status.isActive || status = .reconcileRequired

/-- `UPDATE schedules SET target_ids = array_remove(..) WHERE $1 = ANY(target_ids)`, on a row. -/
def unlinkScheduleRow (id : TargetId) (now : Timestamp) (row : ScheduleRow) : ScheduleRow :=
  if id ∈ row.schedule.targetIds then ⟨row.schedule.withoutTarget id, now⟩ else row

/-- The update of every row, then `DELETE FROM schedules WHERE cardinality(target_ids) = 0`. -/
def unlinkSchedules (id : TargetId) (now : Timestamp) (rows : List ScheduleRow) :
    List ScheduleRow :=
  (rows.map (unlinkScheduleRow id now)).filter fun row => row.schedule.targetIds.length ≠ 0

/-- The ids of the policies that allow this target and no other. -/
def emptiedPolicyIds (id : TargetId) (rows : List PolicyRow) : List String :=
  (rows.filter fun row =>
    id ∈ row.policy.allowedTargets ∧ row.policy.allowedTargets.length = 1).map (·.policy.id)

/-- Take the target out of the policy of a row that lists it. -/
def unlinkPolicyRow (id : TargetId) (now : Timestamp) (row : PolicyRow) : PolicyRow :=
  if id ∈ row.policy.allowedTargets then ⟨row.policy.withoutTarget id, now⟩ else row

/-- The update of every row, then the deletion of the emptied policies. -/
def unlinkPolicies (id : TargetId) (now : Timestamp) (rows : List PolicyRow) : List PolicyRow :=
  (rows.map (unlinkPolicyRow id now)).filter fun row =>
    row.policy.id ∉ emptiedPolicyIds id rows

/-- `delete_with_related_data`: `false` when the target does not exist.  The rows of the
target in `ansible_jobs` go by its foreign key; a transaction that fails is `fails`. -/
def deleteWithRelatedData (db : Database) (id : TargetId) (actorRole : String) (now : Timestamp)
    (fails : Bool) : Except RepositoryError (Bool × Database) :=
  if fails then .error .database
  else
    match db.targets.get id with
    | none => .ok (false, db)
    | some target =>
      if db.ansibleJobs.any fun job =>
          job.target = .target id && blocksDeletion job.status then
        .error .targetBusy
      else
        -- schedules without targets go first, those of emptied policies after them
        let schedules := unlinkSchedules id now db.schedules
        let removedPolicies := emptiedPolicyIds id db.updatePolicies
        .ok (true, {
          targets := db.targets.remove id
          ansibleJobs := db.ansibleJobs.retain fun job => job.target ≠ .target id
          schedules := schedules.filter fun row =>
            ¬ ∃ policyId ∈ row.schedule.policyId, policyId ∈ removedPolicies
          updatePolicies := unlinkPolicies id now db.updatePolicies
          auditEvents := db.auditEvents ++ [⟨id, target.name, actorRole, now⟩] })

/-- **What a deletion that goes through does**: it finds no unfinished job of the target, removes
the jobs of the target, and takes the target out of the policies and the schedules. -/
theorem deleteWithRelatedData_ok {db db' : Database} {id : TargetId} {actorRole : String}
    {now : Timestamp} {fails : Bool}
    (h : db.deleteWithRelatedData id actorRole now fails = .ok (true, db')) :
    (∀ id' job, db.ansibleJobs.get id' = some job → job.target = .target id →
      blocksDeletion job.status = false) ∧
    db'.ansibleJobs = db.ansibleJobs.retain (fun job => job.target ≠ .target id) ∧
    db'.updatePolicies = unlinkPolicies id now db.updatePolicies ∧
    (db'.schedules = (unlinkSchedules id now db.schedules).filter fun row =>
      ¬ ∃ policyId ∈ row.schedule.policyId, policyId ∈ emptiedPolicyIds id db.updatePolicies) ∧
    db'.targets = db.targets.remove id := by
  unfold deleteWithRelatedData at h
  split at h
  · cases h
  · split at h
    · simp at h
    · split at h
      · cases h
      · rename_i hidle
        simp only [Except.ok.injEq, Prod.mk.injEq, true_and] at h
        subst h
        refine ⟨fun id' job hjob htarget => ?_, rfl, rfl, rfl, rfl⟩
        have hjobs := JobTable.any_eq_false.mp (by simpa using hidle) id' job hjob
        simpa [htarget] using hjobs

end Database

end Lxcup.Persistence
