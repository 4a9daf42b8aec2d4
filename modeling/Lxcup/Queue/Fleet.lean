import Lxcup.Persistence.Database
import Lxcup.Server.WindowsWorkflows
import Lxcup.Submission.Service
import Lxcup.Worker.Execution

/-!
# The fleet: workers, request handlers and their database

Any number of Ansible workers and request handlers of the server work on one job table.
Each holds its own copy of the job it works on and checks transitions against that copy
only; what they share is the database.  A step of the machine is one statement of one
process, or one of its decisions between two statements, with the outcome of everything
outside (database errors, file and process steps, what the agent reports) in the action.

Claims are two statements in one transaction: the `SELECT .. FOR UPDATE SKIP LOCKED` and
the `UPDATE`.  In between the process holds the lock of the row, so writes of others to
this row wait; the rest of the table may change.

Two things are recorded that no step reads: the statuses that were written to the row of
each job, one for each statement and in order, and for a running job the status its process
last read or wrote.  The statements of the Windows agents' requests can take a copy over
several edges of its lifecycle before they write it; the row then has the last status only.

What the server remembers of its jobs in memory is left out: with a database its requests go by
the table, and `Lxcup.Ansible.Coordinator` is the model of the rest.

## Main definitions

* `Phase`, `RequestStage`, `Proc` — where a process is, with the copies it holds.
* `Fleet` — the database, the processes and the recorded statuses.
* `FleetAction`, `Fleet.step`, `fleetMachine`.
-/

namespace Lxcup.Queue

open Lxcup.Lib Lxcup.Core Lxcup.Ansible Lxcup.Persistence Lxcup.Server Lxcup.Worker
open Lxcup.Submission (findActiveTargetJob)

/-! ### Processes -/

/-- Where `run` and `process` of a worker are with the job it has claimed. -/
inductive Phase
  /-- Claimed; the target has not been looked up yet. -/
  | started
  /-- The target was found and fits the job. -/
  | located (target : Target)
  /-- `planned` was written. -/
  | planned (target : Target)
  /-- The mode is allowed and the source of a reconciliation is loaded. -/
  | prepared (target : Target) (source : Option AnsibleJob)
  /-- `applying` was written where the mode is to apply. -/
  | marked (target : Target) (source : Option AnsibleJob)
  /-- The playbook runs. -/
  | executing (source : Option AnsibleJob)
  /-- The playbook has ended. -/
  | executed (success : Bool) (source : Option AnsibleJob)
  /-- The source of a reconciliation has been dealt with. -/
  | reconciled (success : Bool)
  /-- `run` has returned. -/
  | finishing (result : Except JobFailureCode Bool)

/-- How far a request to reconcile a job has come. -/
inductive RequestStage
  /-- The source is loaded; the key of its reconciliation is looked up next. -/
  | loaded
  /-- No job of the target has the key; its other jobs are looked at next. -/
  | unused
  /-- No other job of the target was active or waited for its reconciliation. -/
  | free
  deriving DecidableEq, Repr

/-- A process and the copies it holds. -/
inductive Proc
  /-- A worker that is not running, or no request under way. -/
  | down
  /-- A worker that goes through the listing at its start. -/
  | recovering (pending : List AnsibleJob)
  /-- A worker that looks for work. -/
  | idle
  /-- A worker that has selected and locked a queued job. -/
  | claiming (job : AnsibleJob)
  /-- A worker with its copy of the claimed job; `stored` is the status it last read or wrote. -/
  | running (job : AnsibleJob) (stored : AnsibleJobStatus) (phase : Phase)
  /-- A request of a Windows agent that has selected and locked a queued job. -/
  | windowsClaiming (job : AnsibleJob)
  /-- A request of a Windows agent whose job is claimed and has to be answered. -/
  | windowsClaimed (job : AnsibleJob)
  /-- A report of a Windows agent with the job as it was loaded. -/
  | reporting (job : AnsibleJob) (succeeded : Bool)
  /-- A request to reconcile a job, with the job as it was loaded. -/
  | reconciling (source : AnsibleJob) (stage : RequestStage)

/-- The source of a reconciliation, while its copy is held. -/
def Phase.source : Phase → Option AnsibleJob
  | .prepared _ source | .marked _ source | .executing source | .executed _ source => source
  | _ => none

/-- The copies a process holds. -/
def Proc.copies : Proc → List AnsibleJob
  | .recovering pending => pending
  | .running job _ phase => job :: phase.source.toList
  | .claiming job | .windowsClaiming job | .windowsClaimed job | .reporting job _
  | .reconciling job _ => [job]
  | .down | .idle => []

/-- The process holds the lock of the row `id`. -/
def Proc.locks (id : AnsibleJobId) : Proc → Bool
  | .claiming job | .windowsClaiming job => job.id = id
  | _ => false

/-- The process has an open claim on a job of the target. -/
def Proc.claims (target : ResourceTarget) : Proc → Bool
  | .claiming job | .windowsClaiming job => job.target = target
  | _ => false

/-- Processes are numbered. -/
abbrev ProcId := Nat

/-- The database, the processes and the recorded statuses. -/
structure Fleet where
  db : Database
  /-- The statuses written to each job so far. -/
  history : Table AnsibleJobId (List AnsibleJobStatus)
  procs : Table ProcId Proc

namespace Fleet

/-- The rows of `ansible_jobs`. -/
def jobs (s : Fleet) : JobTable := s.db.ansibleJobs

/-- The state of a process. -/
def proc (s : Fleet) (p : ProcId) : Proc := (s.procs.get p).getD .down

def setProc (s : Fleet) (p : ProcId) (proc : Proc) : Fleet :=
  { s with procs := s.procs.put p proc }

def setJobs (s : Fleet) (jobs : JobTable) : Fleet :=
  { s with db := { s.db with ansibleJobs := jobs } }

/-- Append to the recorded statuses of a job. -/
def record (s : Fleet) (id : AnsibleJobId) (status : AnsibleJobStatus) : Fleet :=
  { s with history := s.history.put id ((s.history.get id).getD [] ++ [status]) }

/-- A process other than `p` holds the lock of the row. -/
def lockedByOther (s : Fleet) (p : ProcId) (id : AnsibleJobId) : Bool :=
  s.procs.any fun q proc => q ≠ p && proc.locks id

/-- Write the row of a job, if it is there, and record its status; `none` when the index
refuses. -/
def write (s : Fleet) (job : AnsibleJob) : Option Fleet :=
  match s.jobs.get job.id with
  | none => some s
  | some _ =>
    if s.jobs.activeConflict job then none
    else some ((s.setJobs (s.jobs.put job)).record job.id job.status)

/-- An `UPDATE` of process `p`, which is `done` afterwards, or `failed` when the statement
fails.  While another process holds the lock of the row the statement waits. -/
def update (s : Fleet) (p : ProcId) (job : AnsibleJob) (dbFails : Bool) (done failed : Proc) :
    Option Fleet :=
  if s.lockedByOther p job.id then none
  else if dbFails then some (s.setProc p failed)
  else
    match s.write job with
    | some s' => some (s'.setProc p done)
    -- the index refuses a second active job of the target
    | none => some (s.setProc p failed)

/-- An `INSERT` of a queued job under an id that no job has had. -/
def insert (s : Fleet) (job : AnsibleJob) : Option Fleet :=
  -- ids are drawn at random, so a new one differs from all before
  if (s.history.get job.id).isSome then none
  else
    match JobTable.save s.db.targets s.jobs job with
    | .error _ => none
    | .ok jobs => some ((s.setJobs jobs).record job.id job.status)

/-- No row that satisfies `p` and is not locked was created before `job`. -/
def oldest (s : Fleet) (job : AnsibleJob) (p : AnsibleJob → Bool) : Bool :=
  !s.jobs.any fun other => p other && other.createdAt < job.createdAt
    && !s.procs.any fun _ proc => proc.locks other.id

/-! ### Starting up -/

/-- A worker starts and reads the listing. -/
def restart (s : Fleet) (p : ProcId) : Option Fleet :=
  match s.proc p with
  | .down => some (s.setProc p (.recovering s.jobs.list))
  | _ => none

/-- Recovery of the next job of the listing; a worker whose recovery fails ends. -/
def recoverNext (s : Fleet) (p : ProcId) (now : Timestamp) (dbFails : Bool) : Option Fleet :=
  match s.proc p with
  -- the listing may be older than the rows by now, the copies of it are written all the same
  | .recovering [] => some (s.setProc p .idle)
  | .recovering (job :: rest) =>
    match recoverJob job now with
    | none => some (s.setProc p (.recovering rest))
    | some job' => s.update p job' dbFails (.recovering rest) .down
  | _ => none

/-- A process ends, its transaction is rolled back and its copies are lost. -/
def crash (s : Fleet) (p : ProcId) : Option Fleet := some (s.setProc p .down)

/-! ### Claims of workers -/

/-- The query of `claim_next_queued` finds the job and locks its row. -/
def claimSelect (s : Fleet) (p : ProcId) (id : AnsibleJobId) : Option Fleet :=
  match s.proc p, s.jobs.get id with
  | .idle, some job =>
    if JobTable.claimable s.db.targets s.jobs job && !s.lockedByOther p id
        && s.oldest job (JobTable.claimable s.db.targets s.jobs) then
      some (s.setProc p (.claiming job))
    else none
  | _, _ => none

/-- The update of the claim; a violated index means that nothing was claimed. -/
def claimCommit (s : Fleet) (p : ProcId) (now : Timestamp) (dbFails : Bool) : Option Fleet :=
  match s.proc p with
  | .claiming job =>
    match job.transitionTo .checking now with
    | .error _ => some (s.setProc p .idle)
    -- `Ok(None)` for a violated index and an error otherwise: the worker polls again
    | .ok job' => s.update p job' dbFails (.running job' .checking .started) .idle
  | _ => none

/-! ### The execution of a job -/

/-- `run` returns the failure. -/
def failRun (s : Fleet) (p : ProcId) (job : AnsibleJob) (stored : AnsibleJobStatus)
    (code : JobFailureCode) : Option Fleet :=
  some (s.setProc p (.running job stored (.finishing (.error code))))

/-- The target is looked up and checked. -/
def findTarget (s : Fleet) (p : ProcId) (dbFails : Bool) : Option Fleet :=
  match s.proc p with
  | .running job stored .started =>
    match job.target with
    | .target id =>
      if dbFails then s.failRun p job stored .workerUnavailable
      else
        match s.db.targets.get id with
        | none => s.failRun p job stored .unreachable
        | some target =>
          match checkTarget job target with
          | .error code => s.failRun p job stored code
          | .ok () => some (s.setProc p (.running job stored (.located target)))
    | _ => s.failRun p job stored .playbookFailed
  | _ => none

/-- `planned` is written. -/
def writePlanned (s : Fleet) (p : ProcId) (now : Timestamp) (dbFails : Bool) : Option Fleet :=
  match s.proc p with
  | .running job stored (.located target) =>
    match job.transitionTo .planned now with
    | .error _ => s.failRun p job stored .playbookFailed
    | .ok job' =>
      -- the copy has moved on even where the row has not
      s.update p job' dbFails (.running job' .planned (.planned target))
        (.running job' stored (.finishing (.error .workerUnavailable)))
  | _ => none

/-- The mode is checked and the source of a reconciliation is loaded and compared. -/
def loadSource (s : Fleet) (p : ProcId) (dbFails : Bool) : Option Fleet :=
  match s.proc p with
  | .running job stored (.planned target) =>
    match ansibleModeArgs job.operation job.mode with
    | .error code => s.failRun p job stored code
    | .ok _ =>
      if job.mode = .reconcile then
        match reconciliationSourceJobId job.idempotencyKey with
        | none => s.failRun p job stored .playbookFailed
        | some sourceId =>
          if dbFails then s.failRun p job stored .workerUnavailable
          else
            match s.jobs.get sourceId with
            | none => s.failRun p job stored .playbookFailed
            | some source =>
              if sourceMatches job source then
                some (s.setProc p (.running job stored (.prepared target (some source))))
              else s.failRun p job stored .playbookFailed
      else some (s.setProc p (.running job stored (.prepared target none)))
  | _ => none

/-- `mark_job_applying`: an application is marked before the playbook is looked up. -/
def markApplying (s : Fleet) (p : ProcId) (now : Timestamp) (dbFails : Bool) : Option Fleet :=
  match s.proc p with
  | .running job stored (.prepared target source) =>
    if job.mode = .apply then
      match job.transitionTo .applying now with
      | .error _ => s.failRun p job stored .playbookFailed
      | .ok job' =>
        -- a failure here leaves the copy in `applying` and the row in `planned`
        s.update p job' dbFails (.running job' .applying (.marked target source))
          (.running job' stored (.finishing (.error .workerUnavailable)))
    else some (s.setProc p (.running job stored (.marked target source)))
  | _ => none

/-- The playbook is looked up and started. -/
def startPlaybook (s : Fleet) (p : ProcId) : Option Fleet :=
  match s.proc p with
  | .running job stored (.marked target source) =>
    match playbook job.operation target.kind with
    | none => s.failRun p job stored .playbookFailed
    | some _ => some (s.setProc p (.running job stored (.executing source)))
  | _ => none

/-- The playbook has ended. -/
def playbookDone (s : Fleet) (p : ProcId) (success : Bool) : Option Fleet :=
  match s.proc p with
  | .running job stored (.executing source) =>
    some (s.setProc p (.running job stored (.executed success source)))
  | _ => none

/-- `reconcile_job`: after a successful run the source gets the status of the decision. -/
def reconcile (s : Fleet) (p : ProcId) (decision : ReconciliationDecision) (now : Timestamp)
    (dbFails : Bool) : Option Fleet :=
  match s.proc p with
  | .running job stored (.executed success source) =>
    match source with
    | none => some (s.setProc p (.running job stored (.reconciled success)))
    | some source =>
      -- a run that failed says nothing about the source
      if !success then some (s.setProc p (.running job stored (.reconciled success)))
      else
        match source.transitionTo (sourceStatus decision) now with
        | .error _ => s.failRun p job stored .playbookFailed
        | .ok source' =>
          s.update p source' dbFails (.running job stored (.reconciled success))
            (.running job stored (.finishing (.error .workerUnavailable)))
  | _ => none

/-- `run` returns: whether something changed, or the class of the failure. -/
def finishRun (s : Fleet) (p : ProcId) (changed : Bool) (code : JobFailureCode) : Option Fleet :=
  match s.proc p with
  | .running job stored (.reconciled success) =>
    if success then
      some (s.setProc p (.running job stored (.finishing (.ok (job.mode = .apply && changed)))))
    else s.failRun p job stored code
  | _ => none

/-- The phases in which steps outside the table can fail: events, files, secrets, the process,
the package inventory. -/
def Phase.canFail : Phase → Bool
  | .planned _ | .prepared _ _ | .marked _ _ | .executing _ | .executed _ _ | .reconciled _ => true
  | _ => false

/-- Such a step fails and `run` returns. -/
def stepFails (s : Fleet) (p : ProcId) (code : JobFailureCode) : Option Fleet :=
  match s.proc p with
  | .running job stored phase =>
    if Phase.canFail phase then s.failRun p job stored code else none
  | _ => none

/-- The final status is written; the copy is given up whether the statement succeeds or not. -/
def writeResult (s : Fleet) (p : ProcId) (now : Timestamp) (dbFails : Bool) : Option Fleet :=
  match s.proc p with
  | .running job _ (.finishing result) =>
    match job.transitionTo (finalStatus job result.isOk) now with
    -- `expect("claimed status")`: the worker ends here
    | .error _ => some (s.setProc p .down)
    | .ok job' => s.update p job' dbFails .idle .idle
  | _ => none

/-! ### Requests -/

/-- The query of `claim_next_windows_agent_job` finds the job and locks its row. -/
def windowsSelect (s : Fleet) (p : ProcId) (targetId : TargetId) (id : AnsibleJobId) :
    Option Fleet :=
  match s.proc p, s.jobs.get id with
  | .down, some job =>
    if isWindowsAgentTarget s.db.targets targetId
        && JobTable.windowsClaimable s.db.targets s.jobs targetId job && !s.lockedByOther p id
        && s.oldest job (JobTable.windowsClaimable s.db.targets s.jobs targetId) then
      some (s.setProc p (.windowsClaiming job))
    else none
  | _, _ => none

/-- The update of the claim. -/
def windowsCommit (s : Fleet) (p : ProcId) (now : Timestamp) (dbFails : Bool) : Option Fleet :=
  match s.proc p with
  | .windowsClaiming job =>
    match job.transitionsTo (claimPath job.mode) now with
    | .error _ => some (s.setProc p .down)
    -- the index is not asked about here: its violation is an error like any other
    | .ok job' => s.update p job' dbFails (.windowsClaimed job') .down
  | _ => none

/-- The claim is answered with a command; a job without one is failed. -/
def windowsAnswer (s : Fleet) (p : ProcId) (now : Timestamp) (dbFails : Bool) : Option Fleet :=
  match s.proc p with
  | .windowsClaimed job =>
    match workflowCommand job with
    | .ok _ => some (s.setProc p .down)
    | .error _ =>
      match job.transitionsTo (resultPath job.mode .failed) now with
      | .error _ => some (s.setProc p .down)
      | .ok job' => s.update p job' dbFails .down .down
  | _ => none

/-- A report arrives and its job is loaded; reports for finished jobs are ignored. -/
def reportLoad (s : Fleet) (p : ProcId) (id : AnsibleJobId) (succeeded : Bool) : Option Fleet :=
  match s.proc p, s.jobs.get id with
  | .down, some job =>
    match job.target with
    | .target targetId =>
      if isWindowsAgentTarget s.db.targets targetId && !reportIgnored job.status then
        some (s.setProc p (.reporting job succeeded))
      else none
    | _ => none
  | _, _ => none

/-- The result of a report is written. -/
def reportWrite (s : Fleet) (p : ProcId) (now : Timestamp) (dbFails : Bool) : Option Fleet :=
  match s.proc p with
  | .reporting job succeeded =>
    match job.transitionsTo (resultPath job.mode (reportStatus job.mode succeeded)) now with
    | .error _ => some (s.setProc p .down)
    | .ok job' => s.update p job' dbFails .down .down
  | _ => none

/-- A job is submitted and inserted. -/
def submit (s : Fleet) (request : AnsibleJobRequest) (newId : AnsibleJobId) (now : Timestamp) :
    Option Fleet :=
  match AnsibleJob.fromRequest request newId now with
  | .error _ => none
  | .ok job => s.insert job

/-- A reconciliation is asked for and its source is loaded. -/
def reconcileLoad (s : Fleet) (p : ProcId) (id : AnsibleJobId) : Option Fleet :=
  match s.proc p, s.jobs.get id with
  | .down, some source =>
    if source.canBeReconciled then some (s.setProc p (.reconciling source .loaded)) else none
  | _, _ => none

/-- Some job of the target has the key: what `find_by_idempotency_key` finds. -/
def keyTaken (s : Fleet) (target : ResourceTarget) (key : String) : Bool :=
  s.jobs.any fun other => other.target = target && other.idempotencyKey = key

/-- The key of the reconciliation is looked up.  A job that has it is the answer, whatever has
become of it. -/
def reconcileFind (s : Fleet) (p : ProcId) : Option Fleet :=
  match s.proc p with
  | .reconciling source .loaded =>
    if s.keyTaken source.target (reconcileIdempotencyKey source.id) then some (s.setProc p .down)
    else some (s.setProc p (.reconciling source .unused))
  | _ => none

/-- The request is refused while another job of the target is active or waits for its own
reconciliation. -/
def reconcileCheck (s : Fleet) (p : ProcId) : Option Fleet :=
  match s.proc p with
  | .reconciling source .unused =>
    match findActiveTargetJob s.jobs.list source.target (some source.id) with
    | some _ => some (s.setProc p .down)
    | none => some (s.setProc p (.reconciling source .free))
  | _ => none

/-- The reconciliation is inserted. -/
def reconcileSubmit (s : Fleet) (p : ProcId) (newId : AnsibleJobId) (now : Timestamp) :
    Option Fleet :=
  match s.proc p with
  | .reconciling source .free =>
    (s.insert (AnsibleJobCoordinator.reconciliationOf source newId now)).map (·.setProc p .down)
  | _ => none

/-- A failed job is queued again, under the lock of its row. -/
def retry (s : Fleet) (id : AnsibleJobId) (now : Timestamp) : Option Fleet :=
  if s.procs.any fun _ proc => proc.locks id then none
  else
    match s.jobs.retry id now with
    | .error _ => none
    | .ok (job', jobs) => some ((s.setJobs jobs).record id job'.status)

/-- A target is registered or changed. -/
def putTarget (s : Fleet) (target : Target) : Option Fleet :=
  some { s with db := { s.db with targets := s.db.targets.put target.id target } }

/-- A target is deleted with its jobs; the transaction waits for open claims on them. -/
def deleteTarget (s : Fleet) (id : TargetId) (actorRole : String) (now : Timestamp) :
    Option Fleet :=
  if s.procs.any fun _ proc => proc.claims (.target id) then none
  else
    match s.db.deleteWithRelatedData id actorRole now false with
    | .ok (true, db) => some { s with db := db }
    | _ => none

end Fleet

/-! ### The machine -/

/-- The steps of the processes. -/
inductive FleetAction
  | restart (p : ProcId)
  | recoverNext (p : ProcId) (now : Timestamp) (dbFails : Bool)
  | crash (p : ProcId)
  | claimSelect (p : ProcId) (id : AnsibleJobId)
  | claimCommit (p : ProcId) (now : Timestamp) (dbFails : Bool)
  | findTarget (p : ProcId) (dbFails : Bool)
  | writePlanned (p : ProcId) (now : Timestamp) (dbFails : Bool)
  | loadSource (p : ProcId) (dbFails : Bool)
  | markApplying (p : ProcId) (now : Timestamp) (dbFails : Bool)
  | startPlaybook (p : ProcId)
  | playbookDone (p : ProcId) (success : Bool)
  | reconcile (p : ProcId) (decision : ReconciliationDecision) (now : Timestamp) (dbFails : Bool)
  | finishRun (p : ProcId) (changed : Bool) (code : JobFailureCode)
  | stepFails (p : ProcId) (code : JobFailureCode)
  | writeResult (p : ProcId) (now : Timestamp) (dbFails : Bool)
  | windowsSelect (p : ProcId) (targetId : TargetId) (id : AnsibleJobId)
  | windowsCommit (p : ProcId) (now : Timestamp) (dbFails : Bool)
  | windowsAnswer (p : ProcId) (now : Timestamp) (dbFails : Bool)
  | reportLoad (p : ProcId) (id : AnsibleJobId) (succeeded : Bool)
  | reportWrite (p : ProcId) (now : Timestamp) (dbFails : Bool)
  | submit (request : AnsibleJobRequest) (newId : AnsibleJobId) (now : Timestamp)
  | reconcileLoad (p : ProcId) (id : AnsibleJobId)
  | reconcileFind (p : ProcId)
  | reconcileCheck (p : ProcId)
  | reconcileSubmit (p : ProcId) (newId : AnsibleJobId) (now : Timestamp)
  | retry (id : AnsibleJobId) (now : Timestamp)
  | putTarget (target : Target)
  | deleteTarget (id : TargetId) (actorRole : String) (now : Timestamp)

/-- The state after a step. -/
def Fleet.step (s : Fleet) : FleetAction → Option Fleet
  | .restart p => s.restart p
  | .recoverNext p now dbFails => s.recoverNext p now dbFails
  | .crash p => s.crash p
  | .claimSelect p id => s.claimSelect p id
  | .claimCommit p now dbFails => s.claimCommit p now dbFails
  | .findTarget p dbFails => s.findTarget p dbFails
  | .writePlanned p now dbFails => s.writePlanned p now dbFails
  | .loadSource p dbFails => s.loadSource p dbFails
  | .markApplying p now dbFails => s.markApplying p now dbFails
  | .startPlaybook p => s.startPlaybook p
  | .playbookDone p success => s.playbookDone p success
  | .reconcile p decision now dbFails => s.reconcile p decision now dbFails
  | .finishRun p changed code => s.finishRun p changed code
  | .stepFails p code => s.stepFails p code
  | .writeResult p now dbFails => s.writeResult p now dbFails
  | .windowsSelect p targetId id => s.windowsSelect p targetId id
  | .windowsCommit p now dbFails => s.windowsCommit p now dbFails
  | .windowsAnswer p now dbFails => s.windowsAnswer p now dbFails
  | .reportLoad p id succeeded => s.reportLoad p id succeeded
  | .reportWrite p now dbFails => s.reportWrite p now dbFails
  | .submit request newId now => s.submit request newId now
  | .reconcileLoad p id => s.reconcileLoad p id
  | .reconcileFind p => s.reconcileFind p
  | .reconcileCheck p => s.reconcileCheck p
  | .reconcileSubmit p newId now => s.reconcileSubmit p newId now
  | .retry id now => s.retry id now
  | .putTarget target => s.putTarget target
  | .deleteTarget id actorRole now => s.deleteTarget id actorRole now

/-- Nothing stored and nothing running. -/
def Fleet.initial : Fleet := ⟨⟨∅, .empty, [], [], []⟩, ∅, ∅⟩

/-- The runs of the fleet from an empty database. -/
def fleetMachine : Machine Fleet FleetAction where
  init s := s = .initial
  step := Fleet.step

/-! ### Pieces of fixed runs -/

/-- A target of a kind, with one secret for everything. -/
def sampleTarget (kind : TargetKind) (transport : TargetTransport) : Target where
  id := ⟨⟨7⟩⟩
  name := "host"
  kind := kind
  address := "10.0.0.7"
  transport := transport
  sshUser := none
  credentialSecretRef := some ⟨⟨9⟩⟩
  sshKnownHostsSecretRef := none
  agentSecretRef := ⟨⟨9⟩⟩
  state := .managed
  createdAt := 0
  updatedAt := 0

/-- A request for the sample target. -/
def sampleRequest (mode : ExecutionMode) (parameters : AnsibleParameters) (key : String) :
    AnsibleJobRequest where
  operation := parameters.operation
  target := .target ⟨⟨7⟩⟩
  lifecycle := .managed
  mode := mode
  parameters := parameters
  secretRefs := [⟨⟨9⟩⟩]
  idempotencyKey := key
  confirmed := true
  actorRole := .admin

/-- Worker `p` starts on a database without unfinished jobs, claims the job and prepares it up
to the point where its application is marked. -/
def prepareRun (p : ProcId) (id : AnsibleJobId) : List FleetAction :=
  [.claimSelect p id, .claimCommit p 1 false, .findTarget p false, .writePlanned p 2 false,
    .loadSource p false]

/-- A request for the reconciliation of the job `id` is carried through by process `p`. -/
def requestReconciliation (p : ProcId) (id newId : AnsibleJobId) (now : Timestamp) :
    List FleetAction :=
  [.reconcileLoad p id, .reconcileFind p, .reconcileCheck p, .reconcileSubmit p newId now]

end Lxcup.Queue
