import Lxcup.Agent.Command
import Lxcup.Persistence.JobTable
import Lxcup.Server.Api

/-!
# Workflows of Windows agents

Windows targets are not reached by the Ansible worker.  Their agent claims a queued job
over its outbound connection, is handed a command for it, and reports the outcome; the
server then moves the job along its lifecycle.

## Main definitions

* `claimPath`, `resultPath` — the statuses that one statement takes a job through.
* `workflowCommand` — the command for a job.
* `reportStatus`, `reportIgnored` — the status a report gives a job, and when it is ignored.
* `reportWorkflow` — the handling of a report.

## Main results

* `claimPath_ok`, `resultPath_ok` — what a claim and a result do to a job.
* `reportWorkflow_claimed` — the report for a claimed job is applied.
-/

namespace Lxcup.Server

open Lxcup.Lib Lxcup.Core Lxcup.Ansible Lxcup.Agent Lxcup.Persistence

/-- The statuses of a claim: an application is marked as such at once. -/
def claimPath (mode : ExecutionMode) : List AnsibleJobStatus :=
  if mode = .apply then [.checking, .planned, .applying] else [.checking]

/-- The statuses of a result: a check or plan that succeeds has been planned before. -/
def resultPath (mode : ExecutionMode) (status : AnsibleJobStatus) : List AnsibleJobStatus :=
  if status = .succeeded ∧ mode ≠ .apply then [.planned, .succeeded] else [status]

/-- The command for the agent that has claimed a job. -/
def workflowCommand (job : AnsibleJob) : Except ApiError AgentWorkflowCommand := do
  let action : AgentAction ← match job.operation, job.mode with
    | .healthCheck, _ => pure .health
    | .collectPackageInventory, _ => pure .scan
    | .updateAgent, .apply => pure .updateAgent
    | .updateAgent, _ => pure .health
    | .updatePackages, .apply => pure .apply
    | .updatePackages, .plan | .updatePackages, .reconcile => pure .scan
    | _, _ => throw (.badRequest "windows_workflow_unsupported"
        "this operation is not supported by the local Windows agent")
  let agentVersion : Option String ← match job.parameters with
    | .updateAgent agentVersion =>
      if job.operation ≠ .updateAgent then pure none
      else if validAgentVersion agentVersion then pure (some agentVersion)
      else throw (.badRequest "invalid_agent_version" "agent update version is invalid")
    | _ => pure none
  let packages : List String ← match job.parameters with
    | .updatePackages packages =>
      if packages = [] ∨ packages.any fun package => !safeWingetId package then
        throw (.badRequest "invalid_winget_package_id"
          "Windows updates require exact winget package IDs")
      else pure packages
    | _ => pure []
  return ⟨job.id.uuid, action, packages, agentVersion⟩

/-- A command is for the job it was made of. -/
theorem workflowCommand_jobId {job : AnsibleJob} {command : AgentWorkflowCommand}
    (h : workflowCommand job = .ok command) : command.jobId = job.id.uuid := by
  simp only [workflowCommand, bind, Except.bind, pure, Except.pure, throw, throwThe,
    MonadExceptOf.throw] at h
  -- every branch that gives a command gives it the id of the job
  repeat' split at h
  all_goals cases h
  all_goals rfl

/-- Jobs in these states take no report any more; it is ignored. -/
def reportIgnored (status : AnsibleJobStatus) : Bool :=
  status.isFinal || status = .reconcileRequired

/-- The status a report gives to a job; `succeeded` says that the command succeeded and its
result is usable. -/
def reportStatus (mode : ExecutionMode) (succeeded : Bool) : AnsibleJobStatus :=
  if succeeded then .succeeded
  else if mode = .apply then .reconcileRequired
  else .failed

/-- `authorize_windows_agent`, apart from the token: the target is a Windows server that is
managed by its agent. -/
def isWindowsAgentTarget (targets : Table TargetId Target) (targetId : TargetId) : Bool :=
  match targets.get targetId with
  | some target => target.kind = .windowsServer && target.transport = .agent
  | none => false

/-- What the server does with a report. -/
inductive ReportOutcome
  /-- The report is answered with an error. -/
  | rejected (error : ApiError)
  /-- The job is finished already: the report is acknowledged and changes nothing. -/
  | ignored
  /-- The job was moved along its lifecycle. -/
  | applied (jobs : JobTable)

/-- `report_windows_agent_workflow` on a table nobody else writes to. -/
def reportWorkflow (targets : Table TargetId Target) (jobs : JobTable) (id : AnsibleJobId)
    (succeeded : Bool) (now : Timestamp) : ReportOutcome :=
  match jobs.get id with
  | none => .rejected (.notFound "workflow not found")
  | some job =>
    match job.target with
    | .target targetId =>
      if !isWindowsAgentTarget targets targetId then
        .rejected (.badRequest "windows_agent_required"
          "workflow must be claimed by a locally installed Windows agent")
      else if reportIgnored job.status then .ignored
      else
        match job.transitionsTo (resultPath job.mode (reportStatus job.mode succeeded)) now with
        | .error _ => .rejected (.conflict "invalid_workflow_state"
            "workflow is not awaiting an agent result")
        | .ok job' =>
          match jobs.update job' with
          | .error _ => .rejected .storage
          | .ok jobs' => .applied jobs'
    | _ => .rejected (.notFound "workflow not found")

/-- The status in which a claim of a Windows agent leaves a job. -/
def claimedStatus (mode : ExecutionMode) : AnsibleJobStatus :=
  if mode = .apply then .applying else .checking

theorem getLast?_claimPath (mode : ExecutionMode) :
    (claimPath mode).getLast? = some (claimedStatus mode) := by
  unfold claimPath claimedStatus
  split <;> rfl

theorem getLast?_resultPath (mode : ExecutionMode) (status : AnsibleJobStatus) :
    (resultPath mode status).getLast? = some status := by
  unfold resultPath
  split
  · rename_i h
    rw [h.1]
    rfl
  · rfl

/-- A claim takes the job along its lifecycle to the status of claimed jobs. -/
theorem claimPath_ok {job job' : AnsibleJob} {now : Timestamp}
    (h : job.transitionsTo (claimPath job.mode) now = .ok job') :
    AnsibleJob.LifecyclePath (job.status :: claimPath job.mode) ∧
      job' = { job with status := claimedStatus job.mode, updatedAt := now } := by
  have hlast := getLast?_claimPath job.mode
  have hne : claimPath job.mode ≠ [] := by
    intro hnil
    rw [hnil] at hlast
    cases hlast
  obtain ⟨hpath, last, hlast', rfl⟩ := AnsibleJob.transitionsTo_ok h hne
  obtain rfl := Option.some.inj (hlast.symm.trans hlast')
  exact ⟨hpath, rfl⟩

/-- A result takes the job along its lifecycle to the status it names. -/
theorem resultPath_ok {job job' : AnsibleJob} {status : AnsibleJobStatus} {now : Timestamp}
    (h : job.transitionsTo (resultPath job.mode status) now = .ok job') :
    AnsibleJob.LifecyclePath (job.status :: resultPath job.mode status) ∧
      job' = { job with status := status, updatedAt := now } := by
  have hlast := getLast?_resultPath job.mode status
  have hne : resultPath job.mode status ≠ [] := by
    intro hnil
    rw [hnil] at hlast
    cases hlast
  obtain ⟨hpath, last, hlast', rfl⟩ := AnsibleJob.transitionsTo_ok h hne
  obtain rfl := Option.some.inj (hlast.symm.trans hlast')
  exact ⟨hpath, rfl⟩

/-- From the status of a claim, the way to the status of a report is open. -/
theorem transitionsTo_result {job : AnsibleJob} (succeeded : Bool) (now : Timestamp)
    (hclaimed : job.status = claimedStatus job.mode) :
    job.transitionsTo (resultPath job.mode (reportStatus job.mode succeeded)) now
      = .ok { job with status := reportStatus job.mode succeeded, updatedAt := now } := by
  by_cases hmode : job.mode = .apply
  · have hstatus : job.status = .applying := by simpa [claimedStatus, hmode] using hclaimed
    cases succeeded <;>
      simp [AnsibleJob.transitionsTo, resultPath, reportStatus, hmode, AnsibleJob.transitionTo,
        hstatus, AnsibleJobStatus.canTransitionTo]
  · have hstatus : job.status = .checking := by simpa [claimedStatus, hmode] using hclaimed
    cases succeeded
    · simp [AnsibleJob.transitionsTo, resultPath, reportStatus, hmode, AnsibleJob.transitionTo,
        hstatus, AnsibleJobStatus.canTransitionTo]
    · simp [AnsibleJob.transitionsTo, resultPath, reportStatus, hmode, AnsibleJob.transitionTo,
        hstatus, AnsibleJobStatus.canTransitionTo]
      rfl

theorem isActive_reportStatus (mode : ExecutionMode) (succeeded : Bool) :
    (reportStatus mode succeeded).isActive = false := by
  unfold reportStatus
  split
  · rfl
  · split <;> rfl

/-- **A claimed job takes a report**: whatever the report says, the job has that status then. -/
theorem reportWorkflow_claimed {targets : Table TargetId Target} {jobs : JobTable}
    {job : AnsibleJob} {targetId : TargetId} (succeeded : Bool) (now : Timestamp)
    (hjob : jobs.get job.id = some job) (htarget : job.target = .target targetId)
    (hwindows : isWindowsAgentTarget targets targetId = true)
    (hclaimed : job.status = claimedStatus job.mode) :
    ∃ jobs' job', reportWorkflow targets jobs job.id succeeded now = .applied jobs' ∧
      jobs'.get job.id = some job' ∧ job'.status = reportStatus job.mode succeeded := by
  have hopen : reportIgnored job.status = false := by
    rw [hclaimed, claimedStatus]
    split <;> rfl
  let job' := { job with status := reportStatus job.mode succeeded, updatedAt := now }
  have hfree : jobs.activeConflict job' = false := by
    simp [JobTable.activeConflict, job', isActive_reportStatus]
  have hupdate : jobs.update job' = .ok (jobs.put job') := by
    simp [JobTable.update, job', hjob, hfree]
  refine ⟨jobs.put job', job', ?_, jobs.get_put_self job', rfl⟩
  have htransitions : job.transitionsTo (resultPath job.mode (reportStatus job.mode succeeded)) now
      = .ok job' := transitionsTo_result succeeded now hclaimed
  unfold reportWorkflow
  rw [hjob]
  dsimp only
  split
  case h_1 other heq =>
    obtain rfl : other = targetId := by simpa [htarget] using heq.symm
    simp [hwindows, hopen, htransitions, hupdate]
  case h_2 hno => exact absurd htarget (hno targetId)

end Lxcup.Server
