import Lxcup.Agent.CommandCache
import Lxcup.Server.WindowsWorkflows

/-!
# Rounds of a workflow

A Windows agent claims a queued job, executes its command, and reports the result.  A job that
has failed can be queued again and is claimed a second time, under the same id.  The agent
keeps the response of every command under the id of its job and answers a second round from
there; only when the kept responses have been dropped in between is the command run anew.

The machine has the server's job table on the one side and the agent on the other, with its
poller and its own HTTP interface, which fills the same table of responses.

## Main definitions

* `workflowOutput`, `executeWorkflowCommand`, `collectInventory` — the agent's part of a round.
* `Poller`, `Workflows`, `WorkflowAction`, `Workflows.step`, `workflowMachine`.
* `RunsAnew` — the result to be reported is the outcome of its own round.
* `FreshClaims` — no response is kept under the id of a job that is claimed.

## Main results

* `roundsFresh_step` — one step keeps it so.
* `runsAnew_of_freshClaims` — every run.
* `retried_job_not_run` — without the condition a second round reports the first.
-/

namespace Lxcup.Agent

open Lxcup.Lib Lxcup.Core Lxcup.Ansible Lxcup.Persistence Lxcup.Server

/-! ### The agent's part -/

/-- Why the package inventory of a host could not be collected. -/
inductive PackageInventoryError
  | managerUnavailable | timeout | tooLarge | invalidOutput
  deriving DecidableEq, Repr, Inhabited

/-- The code of an inventory error. -/
def PackageInventoryError.code : PackageInventoryError → String
  | managerUnavailable => "package_manager_unavailable"
  | timeout => "package_inventory_timeout"
  | tooLarge => "package_inventory_too_large"
  | invalidOutput => "package_inventory_invalid"

/-- What `execute_workflow_command` does for a command, with the version of the agent and the
outcome of a process on the host. -/
def workflowOutput (platform : AgentPlatform) (version : String) (command : AgentWorkflowCommand)
    (outcome : HostOutcome) : Int × String × String :=
  match command.action, command.agentVersion with
  | .updateAgent, _ => (2, "", "agent update must run through the Windows service updater")
  | .health, some expected =>
    if !safeAgentVersion expected then (2, "", "invalid agent update version")
    else if expected = version then
      (0, "Installed agent version " ++ expected ++ " is confirmed.", "")
    else (1, "Installed agent version is " ++ version ++ "; expected " ++ expected ++ ".", "")
  | action, _ =>
    -- nothing is run: the inventory is collected after the command
    if platform = .windows ∧ action = .scan ∧ command.packages = [] then
      (0, "Package inventory refresh is handled by the agent inventory collector.", "")
    else if command.packages.any fun package => !safePackage package then
      (2, "", "invalid package selection")
    else runLocalCommand platform action command.packages outcome

/-- The key under which the response for a job is kept. -/
def jobKey (jobId : Uuid) : String := String.ofList jobId.toText

/-- `execute_workflow_command`: the response and the kept responses, with the lock on them held
all the time. -/
def executeWorkflowCommand (platform : AgentPlatform) (version : String) (results : Results)
    (command : AgentWorkflowCommand) (round : Round) : AgentCommandResponse × Results :=
  match results.get (jobKey command.jobId) with
  | some response => (response, results)
  | none =>
    let response := commandResponse round (workflowOutput platform version command round.outcome)
    (response, storeResult results (jobKey command.jobId) response)

/-- After these commands the package inventory is collected. -/
def shouldCollectPackageInventory (command : AgentWorkflowCommand) : Bool :=
  command.action = .apply || (command.action = .scan && command.packages = [])

/-- The part of `report_claimed_workflow` on the inventory: where the inventory was all there was
to do, its error is the result. -/
def collectInventory (command : AgentWorkflowCommand) (inventory : Option PackageInventoryError)
    (response : AgentCommandResponse) : AgentCommandResponse :=
  if response.success && shouldCollectPackageInventory command then
    match inventory with
    | none => response
    | some error =>
      if command.action = .scan ∧ command.packages = [] then
        { response with success := false, exitCode := 1, stdout := "", stderr := error.code }
      else response
  else response

/-! ### The machine -/

/-- The workflow poller of the agent. -/
inductive Poller
  | idle
  /-- A command was handed over and is not executed yet. -/
  | holding (command : AgentWorkflowCommand)
  /-- The result of a round is to be reported. -/
  | reporting (command : AgentWorkflowCommand) (round : Round)
      (inventory : Option PackageInventoryError) (result : AgentCommandResponse)
  deriving DecidableEq, Repr

/-- The server's targets and jobs, and the running agent of one of the targets. -/
structure Workflows where
  targets : Table TargetId Target
  jobs : JobTable
  agent : CommandAgent
  poller : Poller

/-- The steps of the server and of the agent. -/
inductive WorkflowAction
  | putTarget (target : Target)
  | submit (request : AnsibleJobRequest) (newId : AnsibleJobId) (now : Timestamp)
  /-- The poller claims the next job of its target, and the server makes a command of it. -/
  | claim (id : AnsibleJobId) (now : Timestamp)
  /-- The poller executes what it holds, unless the updater of the service takes it over. -/
  | execute (round : Round) (inventory : Option PackageInventoryError) (updaterStarts : Bool)
  /-- The result is delivered; `usable` is the server's view of its content. -/
  | report (usable : Bool) (now : Timestamp)
  /-- The updater reports the update it has taken over. -/
  | updaterReports (id : AnsibleJobId) (succeeded : Bool) (now : Timestamp)
  | retry (id : AnsibleJobId) (now : Timestamp)
  /-- Another command over the agent's own interface. -/
  | command (a : CommandAction)

namespace Workflows

/-- A claim: the job is moved on and handed over as a command; without one it is failed. -/
def claim (s : Workflows) (self : TargetId) (id : AnsibleJobId) (now : Timestamp) :
    Option Workflows :=
  match s.poller, s.jobs.get id with
  | .idle, some job =>
    if isWindowsAgentTarget s.targets self && JobTable.windowsClaimable s.targets s.jobs self job
        && !(s.jobs.any fun other => JobTable.windowsClaimable s.targets s.jobs self other
          && other.createdAt < job.createdAt) then
      match job.transitionsTo (claimPath job.mode) now with
      | .error _ => none
      | .ok claimed =>
        match workflowCommand claimed with
        | .ok command => some { s with jobs := s.jobs.put claimed, poller := .holding command }
        | .error _ =>
          match claimed.transitionsTo (resultPath claimed.mode .failed) now with
          | .error _ => some { s with jobs := s.jobs.put claimed }
          | .ok failed => some { s with jobs := s.jobs.put failed }
    else none
  | _, _ => none

/-- The server takes a report for a job; a rejected one changes nothing. -/
def takeReport (s : Workflows) (id : AnsibleJobId) (succeeded : Bool) (now : Timestamp) :
    Option Workflows :=
  match reportWorkflow s.targets s.jobs id succeeded now with
  | .rejected _ => none
  | .ignored => some s
  | .applied jobs => some { s with jobs := jobs }

/-- The state after a step; `self` is the target of the agent and `version` its version. -/
def step (self : TargetId) (version : String) (s : Workflows) : WorkflowAction → Option Workflows
  | .putTarget target => some { s with targets := s.targets.put target.id target }
  | .submit request newId now =>
    match AnsibleJob.fromRequest request newId now with
    | .error _ => none
    | .ok job =>
      match JobTable.save s.targets s.jobs job with
      | .error _ => none
      | .ok jobs => some { s with jobs := jobs }
  | .claim id now => s.claim self id now
  | .execute round inventory updaterStarts =>
    match s.poller with
    | .holding command =>
      -- a started updater reports on its own, after it has replaced this agent
      if command.action = .updateAgent ∧ updaterStarts then some { s with poller := .idle }
      else
        let (response, results) :=
          executeWorkflowCommand .windows version s.agent.results command round
        some { s with
          agent := { s.agent with results := results }
          poller := .reporting command round inventory
            (collectInventory command inventory response) }
    | _ => none
  | .report usable now =>
    match s.poller with
    | .reporting command _ _ result =>
      (s.takeReport ⟨command.jobId⟩ (result.success && usable) now).map fun s' =>
        { s' with poller := .idle }
    | _ => none
  | .updaterReports id succeeded now =>
    match s.jobs.get id with
    | some job => if job.operation = .updateAgent then s.takeReport id succeeded now else none
    | none => none
  | .retry id now =>
    match s.jobs.retry id now with
    | .error _ => none
    | .ok (_, jobs) => some { s with jobs := jobs }
  | .command a => (s.agent.step .windows a).map fun agent => { s with agent := agent }

end Workflows

/-- No target, no job, and an agent that has done nothing. -/
def Workflows.initial : Workflows := ⟨∅, .empty, .initial, .idle⟩

/-- The runs of a server with the agent of a target. -/
def workflowMachine (self : TargetId) (version : String) : Machine Workflows WorkflowAction where
  init s := s = .initial
  step := Workflows.step self version

/-! ### The property -/

/-- The outcome of a round: the command is run, and the inventory collected. -/
def roundResult (version : String) (command : AgentWorkflowCommand) (round : Round)
    (inventory : Option PackageInventoryError) : AgentCommandResponse :=
  collectInventory command inventory
    (commandResponse round (workflowOutput .windows version command round.outcome))

/-- The result that is about to be reported is the outcome of its own round. -/
def RunsAnew (version : String) (s : Workflows) : Prop :=
  ∀ command round inventory result, s.poller = .reporting command round inventory result →
    result = roundResult version command round inventory

/-- When a job is claimed, the agent keeps no response under its id, and none is kept there by
another command before the round is executed. -/
def FreshClaims (s : Workflows) : WorkflowAction → Prop
  | .claim id _ => s.agent.results.get (jobKey id.uuid) = none
  | .command (.store number) =>
    match s.poller, s.agent.handlers.get number with
    | .holding command, some (.finished request _) => request.idempotencyKey ≠ jobKey command.jobId
    | _, _ => True
  | _ => True

instance (s : Workflows) (a : WorkflowAction) : Decidable (FreshClaims s a) := by
  unfold FreshClaims
  split
  · infer_instance
  · split <;> infer_instance
  · infer_instance

/-! ### Runs -/

/-- Nothing is kept under the id of the job whose command the poller holds, and what it reports is
the outcome of its round. -/
structure RoundsFresh (version : String) (s : Workflows) : Prop where
  holding : ∀ command, s.poller = .holding command →
    s.agent.results.get (jobKey command.jobId) = none
  anew : RunsAnew version s

section

variable {self : TargetId} {version : String} {s s' : Workflows}

/-- A poller that has nothing to do. -/
private theorem roundsFresh_idle (h : s.poller = .idle) : RoundsFresh version s where
  holding command hheld := by
    rw [h] at hheld
    cases hheld
  anew command round inventory result hheld := by
    rw [h] at hheld
    cases hheld

/-- Steps of the server alone. -/
private theorem RoundsFresh.server (h : RoundsFresh version s) (hagent : s'.agent = s.agent)
    (hpoller : s'.poller = s.poller) : RoundsFresh version s' where
  holding command hheld := by
    rw [hagent]
    exact h.holding command (hpoller ▸ hheld)
  anew command round inventory result hheld :=
    h.anew command round inventory result (hpoller ▸ hheld)

/-- What a claim does: it fails a job, or hands it over. -/
private theorem claim_cases {id : AnsibleJobId} {now : Timestamp}
    (hs : s.claim self id now = some s') :
    s'.agent = s.agent ∧ (s'.poller = .idle ∨
      ∃ command, s'.poller = .holding command ∧ command.jobId = id.uuid) := by
  unfold Workflows.claim at hs
  split at hs
  · rename_i job hidle hrow
    split at hs
    · split at hs
      · cases hs
      · rename_i claimed hclaimed
        split at hs
        · rename_i command hcommand
          obtain rfl := Option.some.inj hs
          refine ⟨rfl, .inr ⟨command, rfl, ?_⟩⟩
          obtain ⟨-, rfl⟩ := claimPath_ok hclaimed
          rw [workflowCommand_jobId hcommand, ← JobTable.get_id hrow]
        · split at hs
          · obtain rfl := Option.some.inj hs
            exact ⟨rfl, .inl hidle⟩
          · obtain rfl := Option.some.inj hs
            exact ⟨rfl, .inl hidle⟩
    · cases hs
  · cases hs

/-- A report changes the jobs of the server only. -/
private theorem takeReport_some {id : AnsibleJobId} {succeeded : Bool} {now : Timestamp}
    (hs : s.takeReport id succeeded now = some s') :
    s'.agent = s.agent ∧ s'.poller = s.poller := by
  unfold Workflows.takeReport at hs
  split at hs
  · cases hs
  · exact Option.some.inj hs ▸ ⟨rfl, rfl⟩
  · exact Option.some.inj hs ▸ ⟨rfl, rfl⟩

/-- Without a kept response the command is run. -/
theorem executeWorkflowCommand_of_none {platform : AgentPlatform} {results : Results}
    {command : AgentWorkflowCommand} (hnone : results.get (jobKey command.jobId) = none)
    (round : Round) :
    (executeWorkflowCommand platform version results command round).1
      = commandResponse round (workflowOutput platform version command round.outcome) := by
  simp [executeWorkflowCommand, hnone]

/-- The commands of the agent's own interface keep responses under their own keys only. -/
private theorem results_command {agent agent' : CommandAgent} {a : CommandAction} {key : String}
    (hs : agent.step .windows a = some agent') (hnone : agent.results.get key = none)
    (hkey : ∀ number request response, a = .store number →
      agent.handlers.get number = some (.finished request response) →
      request.idempotencyKey ≠ key) : agent'.results.get key = none := by
  cases a with
  | receive number authorized request =>
    simp only [CommandAgent.step] at hs
    split at hs
    · exact Option.some.inj hs ▸ hnone
    · cases hs
  | complete number round =>
    simp only [CommandAgent.step] at hs
    split at hs
    · exact Option.some.inj hs ▸ hnone
    · cases hs
  | store number =>
    simp only [CommandAgent.step] at hs
    split at hs
    · rename_i request response hfinished
      obtain rfl := Option.some.inj hs
      exact get_storeResult_eq_none response (hkey number request response rfl hfinished).symm hnone
    · cases hs
  | drop number =>
    simp only [CommandAgent.step] at hs
    split at hs
    · exact Option.some.inj hs ▸ hnone
    · exact Option.some.inj hs ▸ hnone
    · cases hs

/-- **One step** keeps the rounds fresh. -/
theorem roundsFresh_step {a : WorkflowAction} (h : RoundsFresh version s) (hok : FreshClaims s a)
    (hs : s.step self version a = some s') : RoundsFresh version s' := by
  cases a with
  | putTarget target => exact Option.some.inj hs ▸ h.server rfl rfl
  | submit request newId now =>
    simp only [Workflows.step] at hs
    split at hs
    · cases hs
    · split at hs
      · cases hs
      · exact Option.some.inj hs ▸ h.server rfl rfl
  | claim id now =>
    obtain ⟨hagent, hidle | ⟨command, hheld, hid⟩⟩ := claim_cases hs
    · exact roundsFresh_idle hidle
    · refine ⟨fun other hother => ?_, fun other round inventory result hother => ?_⟩
      · obtain rfl := Poller.holding.inj (hheld.symm.trans hother)
        rw [hagent, hid]
        exact hok
      · cases hheld.symm.trans hother
  | execute round inventory updaterStarts =>
    simp only [Workflows.step] at hs
    split at hs
    · rename_i command hheld
      split at hs
      · exact Option.some.inj hs ▸ roundsFresh_idle rfl
      · obtain rfl := Option.some.inj hs
        refine ⟨fun other hother => ?_, fun other round' inventory' result hother => ?_⟩
        · cases hother
        · obtain ⟨rfl, rfl, rfl, rfl⟩ := Poller.reporting.inj hother
          rw [executeWorkflowCommand_of_none (h.holding _ hheld)]
          rfl
    · cases hs
  | report usable now =>
    simp only [Workflows.step] at hs
    split at hs
    · obtain ⟨t, -, rfl⟩ := Option.map_eq_some_iff.mp hs
      exact roundsFresh_idle rfl
    · cases hs
  | updaterReports id succeeded now =>
    simp only [Workflows.step] at hs
    split at hs
    · split at hs
      · obtain ⟨hagent, hpoller⟩ := takeReport_some hs
        exact h.server hagent hpoller
      · cases hs
    · cases hs
  | retry id now =>
    simp only [Workflows.step] at hs
    split at hs
    · cases hs
    · exact Option.some.inj hs ▸ h.server rfl rfl
  | command a =>
    obtain ⟨agent, hstep, rfl⟩ := Option.map_eq_some_iff.mp hs
    refine ⟨fun command hheld => ?_, h.anew⟩
    refine results_command hstep (h.holding command hheld) fun number request response ha hn => ?_
    subst ha
    simpa [FreshClaims, (show s.poller = _ from hheld), hn] using hok

end

/-- **Every run.**  Where nothing is kept under the id of a job that is claimed, every round runs
its command anew and reports its own outcome. -/
theorem runsAnew_of_freshClaims {self : TargetId} {version : String} {s : Workflows}
    (h : (workflowMachine self version).Reach FreshClaims s) : RunsAnew version s := by
  refine (h.invariant (I := RoundsFresh version) ?_ fun s a s' _ hinv hok hs => ?_).anew
  · rintro s rfl
    exact roundsFresh_idle rfl
  · exact roundsFresh_step hinv hok hs

/-! ### Fixed runs -/

/-- How a scan of packages ends. -/
def scanRound (code : Int) (number : Nat) : Round :=
  ⟨.exited (some code) "[]" "", ⟨number⟩, 10⟩

/-- A plan of package updates for a Windows target is queued and claimed by its agent. -/
def claimedPlan : List WorkflowAction :=
  [.putTarget ⟨⟨⟨7⟩⟩, "host", .windowsServer, "10.0.0.7", .agent, none, some ⟨⟨9⟩⟩, none, ⟨⟨9⟩⟩,
      .managed, 0, 0⟩,
    .submit ⟨.updatePackages, .target ⟨⟨7⟩⟩, .managed, .plan, .updatePackages ["Git.Git"],
      [⟨⟨9⟩⟩], "plan", true, .admin⟩ ⟨⟨1⟩⟩ 0,
    .claim ⟨⟨1⟩⟩ 1]

/-- The command of that plan. -/
def planCommand : AgentWorkflowCommand := ⟨⟨1⟩, .scan, ["Git.Git"], none⟩

/-- The command of a second plan. -/
def nextCommand : AgentWorkflowCommand := ⟨⟨2⟩, .scan, ["Git.Git"], none⟩

/-- The plan fails and is queued again; the round of a second plan reports its own success. -/
theorem next_round_runsAnew :
    ∃ s, (workflowMachine ⟨⟨7⟩⟩ "0.6.0").Reach FreshClaims s ∧
      (s.jobs.get ⟨⟨1⟩⟩).map (·.status) = some .queued ∧
      s.poller = .reporting nextCommand (scanRound 0 22) none
        (roundResult "0.6.0" nextCommand (scanRound 0 22) none) ∧ RunsAnew "0.6.0" s := by
  have hrun : ∃ s ∈ (workflowMachine ⟨⟨7⟩⟩ "0.6.0").exec FreshClaims .initial
      (claimedPlan ++ [.execute (scanRound 1 21) none false, .report true 2, .retry ⟨⟨1⟩⟩ 3,
        .submit ⟨.updatePackages, .target ⟨⟨7⟩⟩, .managed, .plan, .updatePackages ["Git.Git"],
          [⟨⟨9⟩⟩], "next", true, .admin⟩ ⟨⟨2⟩⟩ 0,
        .claim ⟨⟨2⟩⟩ 4, .execute (scanRound 0 22) none false]),
      (s.jobs.get ⟨⟨1⟩⟩).map (·.status) = some .queued ∧
      s.poller = .reporting nextCommand (scanRound 0 22) none
        (roundResult "0.6.0" nextCommand (scanRound 0 22) none) := by
    decide +kernel
  obtain ⟨s, hexec, hqueued, hreporting⟩ := hrun
  have hreach : (workflowMachine ⟨⟨7⟩⟩ "0.6.0").Reach FreshClaims s := .exec (.init rfl) _ hexec
  exact ⟨s, hreach, hqueued, hreporting, runsAnew_of_freshClaims hreach⟩

/-- The plan fails, is queued again and claimed again by the same agent, whose second round would
succeed: the failure of the first round is reported. -/
theorem retried_job_not_run :
    ¬ ∀ s, (workflowMachine ⟨⟨7⟩⟩ "0.6.0").Reach Machine.Any s → RunsAnew "0.6.0" s := by
  intro hall
  have hrun : ∃ s ∈ (workflowMachine ⟨⟨7⟩⟩ "0.6.0").exec Machine.Any .initial
      (claimedPlan ++ [.execute (scanRound 1 21) none false, .report true 2, .retry ⟨⟨1⟩⟩ 3,
        .claim ⟨⟨1⟩⟩ 4, .execute (scanRound 0 22) none false]),
      s.poller = .reporting planCommand (scanRound 0 22) none
        (roundResult "0.6.0" planCommand (scanRound 1 21) none) := by
    decide +kernel
  obtain ⟨s, hexec, hreporting⟩ := hrun
  have hown := hall s (.exec (.init rfl) _ hexec) _ _ _ _ hreporting
  exact absurd hown (by decide +kernel)

end Lxcup.Agent
