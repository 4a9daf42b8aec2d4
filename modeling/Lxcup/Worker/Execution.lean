import Lxcup.Persistence.JobTable

/-!
# The decisions of the worker

The pure part of the Ansible worker: what recovery does to a job it finds unfinished,
the checks before a playbook is started, the playbook of an operation, the check of a
reconciliation against its source, and the status a job ends with.  The order in which
the worker takes these steps, and what it writes in between, is in `Lxcup.Queue.Fleet`.

## Main definitions

* `recoverJob` — recovery of one job.
* `checkTarget`, `ansibleModeArgs`, `playbook`, `sourceMatches`.
* `ReconciliationDecision`, `sourceStatus`, `finalStatus`.

## Main results

* `recoverJob_some` — which jobs recovery changes, and how.
-/

namespace Lxcup.Worker

open Lxcup.Lib Lxcup.Core Lxcup.Ansible Lxcup.Persistence

/-- The status recovery gives to a job found in `status`, `none` when it leaves it alone. -/
def recoveredStatus : AnsibleJobStatus → Option AnsibleJobStatus
  | .applying => some .reconcileRequired
  | .checking | .planned => some .failed
  | _ => none

/-- Recovery of one job of the listing. -/
def recoverJob (job : AnsibleJob) (now : Timestamp) : Option AnsibleJob :=
  (recoveredStatus job.status).map fun status => { job with status := status, updatedAt := now }

theorem recoveredStatus_edge {status next : AnsibleJobStatus}
    (h : recoveredStatus status = some next) : status.canTransitionTo next = true := by
  cases status <;> simp [recoveredStatus] at h <;> subst h <;> rfl

theorem recoveredStatus_inactive {status next : AnsibleJobStatus}
    (h : recoveredStatus status = some next) : next.isActive = false := by
  cases status <;> simp [recoveredStatus] at h <;> subst h <;> rfl

/-- Recovery changes the jobs that are active, along an edge of their lifecycle. -/
theorem recoverJob_some {job job' : AnsibleJob} {now : Timestamp}
    (h : recoverJob job now = some job') :
    ∃ next, recoveredStatus job.status = some next ∧
      job' = { job with status := next, updatedAt := now } := by
  simp only [recoverJob, Option.map_eq_some_iff] at h
  obtain ⟨next, hnext, rfl⟩ := h
  exact ⟨next, hnext, rfl⟩

theorem recoverJob_eq_none {job : AnsibleJob} {now : Timestamp} :
    recoverJob job now = none ↔ job.status.isActive = false := by
  cases hs : job.status <;>
    simp [recoverJob, recoveredStatus, AnsibleJobStatus.isActive, hs]

/-- The checks on the target of a job before it is planned. -/
def checkTarget (job : AnsibleJob) (target : Target) : Except JobFailureCode Unit :=
  if target.transport = .agent then .error .playbookFailed
  else if job.secretRefs.any fun secret =>
      some secret ≠ target.credentialSecretRef && secret ≠ target.agentSecretRef then
    .error .invalidCredentials
  else .ok ()

/-- The arguments of `ansible-playbook` for a mode. -/
def ansibleModeArgs (operation : AnsibleOperation) (mode : ExecutionMode) :
    Except JobFailureCode (List String) :=
  -- no operation has the mode `reconcile`, its jobs are only made from others
  let dedicatedReconciliation := mode = .reconcile ∧ operation.canReconcileApply = true
  if ¬ operation.supportsMode mode = true ∧ ¬ dedicatedReconciliation then .error .playbookFailed
  else
    match mode, operation with
    | .check, .healthCheck | .check, .collectPackageInventory => .ok []
    | .check, _ => .ok ["--check"]
    | .apply, _ => .ok []
    | .plan, .deployAgent | .plan, .updateAgent | .plan, .repairAgent => .ok ["--check", "--diff"]
    | .plan, .updatePackages => .ok ["--diff"]
    | .plan, _ => .error .playbookFailed
    | .reconcile, .deployAgent | .reconcile, .updateAgent | .reconcile, .repairAgent =>
      .ok ["--check", "--diff"]
    | .reconcile, .updatePackages => .ok ["--diff"]
    | .reconcile, _ => .error .playbookFailed

/-- The playbook of an operation on a kind of target.  `configure_target` has none. -/
def playbook : AnsibleOperation → TargetKind → Option String
  | .deployAgent, .windowsServer | .updateAgent, .windowsServer =>
    some "playbooks/agent-windows.yml"
  | .deployAgent, _ | .updateAgent, _ => some "playbooks/agent-linux.yml"
  | .repairAgent, _ => some "playbooks/agent-linux-repair.yml"
  | .updatePackages, .windowsServer => none
  | .updatePackages, _ => some "playbooks/packages-linux.yml"
  | .healthCheck, .windowsServer => some "playbooks/health-check-windows.yml"
  | .healthCheck, _ => some "playbooks/health-check-linux.yml"
  | .collectPackageInventory, .windowsServer => none
  | .collectPackageInventory, _ => some "playbooks/package-inventory-linux.yml"
  | .configureTarget, _ => none

/-- The checks of a reconciliation against the job it was made from. -/
def sourceMatches (job source : AnsibleJob) : Bool :=
  source.status = .reconcileRequired && source.mode = .apply
    && source.operation.canReconcileApply && source.target = job.target
    && source.operation = job.operation && source.parameters = job.parameters
    && source.secretRefs = job.secretRefs

/-- What the output of a reconciliation says about its source. -/
inductive ReconciliationDecision
  | completed | changesRemain | manualReview
  deriving DecidableEq, Repr, Inhabited

/-- The status a decided source gets. -/
def sourceStatus (decision : ReconciliationDecision) : AnsibleJobStatus :=
  if decision = .completed then .succeeded else .failed

/-- The status of a job whose `run` has returned, from its status in memory. -/
def finalStatus (job : AnsibleJob) (succeeded : Bool) : AnsibleJobStatus :=
  if succeeded then .succeeded
  else if job.mode = .apply ∧ job.status = .applying then .reconcileRequired
  else .failed

end Lxcup.Worker
