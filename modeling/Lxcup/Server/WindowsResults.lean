import Lxcup.Agent.PackageInventory

/-!
# Results of Windows agents

What the server makes of the result that a Windows agent reports for a job: the message for the
log, whether the result can be used, the status of the job, and the events that go with it.

## Main definitions

* `planLines` — the lines of an update plan.
* `resultSummary` — the message, and whether the result can be used.
* `Verdict`, `judge` — what a report does to the copy of the job that was loaded for it.

## Main results

* `mem_planEntries` — a plan lists the requested packages that have a candidate.
* `judge_ok` — a report that is taken has a way to its status.
-/

namespace Lxcup.Server

open Lxcup.Lib Lxcup.Core Lxcup.Ansible Lxcup.Agent Lxcup.Persistence

/-! ### Summaries -/

/-- The message for a command that failed on the host. -/
def commandFailureMessage (exitCode : Int) : String :=
  "Windows agent reported a local command failure (exit code " ++ toString exitCode ++ ")."

/-- The message for an inventory that failed. -/
def inventoryFailureMessage : PackageInventoryError → String
  | .managerUnavailable => "Windows package inventory failed: Microsoft.WinGet.Client is unavailable to the LocalSystem service. Check its all-users installation."
  | .timeout => "Windows package inventory timed out after 30 seconds."
  | .tooLarge => "Windows package inventory exceeded the supported response limit."
  | .invalidOutput => "Windows package inventory returned invalid or unsupported package data."

/-- The message for a result without content of its own. -/
def completionMessage (operation : AnsibleOperation) (mode : ExecutionMode) : String :=
  match operation, mode with
  | .healthCheck, _ => "Windows agent health check completed successfully."
  | .collectPackageInventory, _ => "Windows software inventory collected locally with winget."
  | .updateAgent, .plan => "Windows agent reported its installed version for comparison with the selected target version."
  | .updateAgent, .apply => "Windows agent binary was verified and updated from the artifact store."
  | .updateAgent, _ => "Windows agent version was checked locally."
  | .updatePackages, .apply => "Selected updates were installed locally by winget."
  | _, _ => "Windows agent workflow completed successfully."

/-- The package is among the requested ids, whatever the case of their ASCII letters. -/
def isRequested (requested : List String) (package : AgentInstalledPackage) : Bool :=
  requested.any fun id => toAsciiLowercase id.toList = toAsciiLowercase package.name.toList

/-- An entry of an update plan: the package, its version and the candidate. -/
structure PlanEntry where
  name : String
  installedVersion : String
  candidate : String
  deriving DecidableEq, Repr

/-- The line of an entry. -/
def PlanEntry.line (entry : PlanEntry) : String :=
  entry.name ++ ": " ++ entry.installedVersion ++ " -> " ++ entry.candidate

/-- The entry of a package, if there is a candidate for its update. -/
def planEntry (package : AgentInstalledPackage) : Option PlanEntry :=
  package.candidateVersion.map fun candidate => ⟨package.name, package.installedVersion, candidate⟩

/-- The requested packages that have a candidate. -/
def planEntries (requested : List String) (packages : List AgentInstalledPackage) :
    List PlanEntry :=
  (packages.filter (isRequested requested)).filterMap planEntry

/-- The message of an update plan. -/
def planMessage (entries : List PlanEntry) : String :=
  "winget update plan:\n" ++ "\n".intercalate (entries.map PlanEntry.line)

/-- `result_summary`: the message for the log, and whether the result can be used. -/
def resultSummary (read : JsonReader) (job : AnsibleJob) (response : AgentCommandResponse) :
    String × Bool :=
  if !response.success then
    match PackageInventoryError.fromCode response.stderr with
    | some error =>
      if job.operation = .collectPackageInventory then (inventoryFailureMessage error, false)
      else (commandFailureMessage response.exitCode, false)
    | none => (commandFailureMessage response.exitCode, false)
  else if job.operation = .updatePackages ∧ job.mode = .plan then
    match parseWindowsPackagesJson read response.stdout with
    | .error _ => ("winget update scan returned an invalid or unsupported listing.", false)
    | .ok packages =>
      match job.parameters with
      | .updatePackages requested =>
        match planEntries requested packages with
        | [] => ("winget found no available updates for the selected package IDs.", false)
        | entries => (planMessage entries, true)
      | _ => ("package update parameters were invalid.", false)
  else (completionMessage job.operation job.mode, true)

/-- **A plan lists the requested packages that have a candidate**, and nothing else. -/
theorem mem_planEntries {requested : List String} {packages : List AgentInstalledPackage}
    {entry : PlanEntry} : entry ∈ planEntries requested packages ↔
      ∃ package ∈ packages, isRequested requested package = true ∧
        package.candidateVersion = some entry.candidate ∧ package.name = entry.name ∧
        package.installedVersion = entry.installedVersion := by
  simp only [planEntries, List.mem_filterMap, List.mem_filter, planEntry, Option.map_eq_some_iff]
  constructor
  · rintro ⟨package, ⟨hmem, hrequested⟩, candidate, hcandidate, rfl⟩
    exact ⟨package, hmem, hrequested, hcandidate, rfl, rfl⟩
  · rintro ⟨package, hmem, hrequested, hcandidate, hname, hinstalled⟩
    refine ⟨package, ⟨hmem, hrequested⟩, entry.candidate, hcandidate, ?_⟩
    rw [hname, hinstalled]

/-! ### Verdicts -/

/-- What a report does to a job: the copy with its new status, the statuses on the way there, and
the message. -/
structure Verdict where
  job : AnsibleJob
  path : List AnsibleJobStatus
  message : String
  deriving DecidableEq, Repr

/-- The events of a verdict, in the order in which they are stored. -/
def Verdict.events (verdict : Verdict) : List JobEventKind :=
  verdict.path.map .statusChanged
    ++ (if verdict.job.status = .failed ∨ verdict.job.status = .reconcileRequired
      then [.failed .playbookFailed] else [])
    ++ (if verdict.job.status = .reconcileRequired then [.reconcileRequired] else [])
    ++ [.workerLog "windows_agent" verdict.message]

/-- The beginning of `persist_result`: the transitions of the copy. -/
def settle (job : AnsibleJob) (status : AnsibleJobStatus) (message : String) (now : Timestamp) :
    Except ApiError Verdict :=
  match job.transitionsTo (resultPath job.mode status) now with
  | .error _ => .error (.conflict "invalid_workflow_state"
      "workflow is not awaiting an agent result")
  | .ok job' => .ok ⟨job', resultPath job.mode status, message⟩

/-- The size of an answer is within its limits. -/
def resultFits (response : AgentCommandResponse) : Bool :=
  response.stdout.utf8ByteSize ≤ 128 * 1024 && response.stderr.utf8ByteSize ≤ 16 * 1024

/-- What the comparison of the token of a request with the secret of its target gives. -/
inductive TokenCheck
  | missing
  /-- The secret cannot be read. -/
  | unreadable (error : ApiError)
  | wrong
  | right
  deriving DecidableEq, Repr

/-- `authorize_windows_agent`. -/
def authorizeWindowsAgent (targets : Table TargetId Target) (targetId : TargetId)
    (token : TokenCheck) : Except ApiError Unit :=
  if token = .missing then .error .unauthorized
  else if (targets.get targetId).isNone then .error (.notFound "target not found")
  else if !isWindowsAgentTarget targets targetId then
    .error (.badRequest "windows_agent_required"
      "workflow must be claimed by a locally installed Windows agent")
  else
    match token with
    | .unreadable error => .error error
    | .right => .ok ()
    | _ => .error .unauthorized

/-- `report_windows_agent_workflow` between the loading of the job and `persist_result`: an error,
nothing to do for a finished job, or a verdict. -/
def judge (read : JsonReader) (targets : Table TargetId Target) (job : AnsibleJob)
    (token : TokenCheck) (response : AgentCommandResponse) (now : Timestamp) :
    Except ApiError (Option Verdict) :=
  match job.target with
  | .target targetId =>
    match authorizeWindowsAgent targets targetId token with
    | .error error => .error error
    | .ok () =>
      if reportIgnored job.status then .ok none
      else if !resultFits response then
        .error (.badRequest "agent_result_too_large" "workflow result exceeds the allowed size")
      else
        let summary := resultSummary read job response
        (settle job (reportStatus job.mode (response.success && summary.2)) summary.1 now).map some
  | _ => .error (.notFound "workflow not found")

/-- What a settled job is. -/
theorem settle_ok {job : AnsibleJob} {status : AnsibleJobStatus} {message : String}
    {now : Timestamp} {verdict : Verdict} (h : settle job status message now = .ok verdict) :
    AnsibleJob.LifecyclePath (job.status :: resultPath job.mode status) ∧
      verdict = ⟨{ job with status := status, updatedAt := now }, resultPath job.mode status,
        message⟩ := by
  unfold settle at h
  split at h
  · cases h
  · rename_i job' hjob'
    obtain ⟨hpath, rfl⟩ := resultPath_ok hjob'
    exact ⟨hpath, (Except.ok.inj h).symm⟩

/-- A report that is taken is for a job that is not finished, and has a way to its status. -/
theorem judge_ok {read : JsonReader} {targets : Table TargetId Target} {job : AnsibleJob}
    {token : TokenCheck} {response : AgentCommandResponse} {now : Timestamp} {verdict : Verdict}
    (h : judge read targets job token response now = .ok (some verdict)) :
    reportIgnored job.status = false ∧
      settle job (reportStatus job.mode (response.success && (resultSummary read job response).2))
        (resultSummary read job response).1 now = .ok verdict := by
  unfold judge at h
  split at h
  · split at h
    · cases h
    · split at h
      · cases h
      · rename_i hopen
        split at h
        · cases h
        · refine ⟨by simpa using hopen, ?_⟩
          dsimp only at h
          cases hsettled : settle job
              (reportStatus job.mode (response.success && (resultSummary read job response).2))
              (resultSummary read job response).1 now with
          | error e =>
            rw [hsettled] at h
            cases h
          | ok found =>
            rw [hsettled] at h
            rw [Option.some.inj (Except.ok.inj h)]
  · cases h

end Lxcup.Server
