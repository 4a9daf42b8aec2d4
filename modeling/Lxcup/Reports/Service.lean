import Lxcup.Server.WindowsResults
import Lxcup.Submission.Service
import Lxcup.Worker.Execution

/-!
# Claims and reports of Windows agents, step by step

A server that hands out jobs to Windows agents and takes their reports, with a database or
without one.  The handler of a report loads the job, decides on a copy of it, and then writes:
with a database it counts the events, overwrites the row and appends the events one by one;
without one it holds the lock of the coordinator for all that it writes.  Claims are one
transaction, or one section under the lock.  A claim for which there is no command fails the
job by the same function as a report.

The recovery of a worker that starts takes part as well: it loads active jobs from the database
and overwrites their rows.  Jobs that are submitted, queued again or deleted with their target
are single steps.  Jobs of other targets, which the workers carry out, are left out.

The log of the state is its history: every claim of a job, and every time that a handler writes
to it, with the status that it had before.  No step reads it, apart from the ids: a new id has
never been used before.

## Main definitions

* `JobStore` — the database or the coordinator.
* `Writer`, `Phase`, `Call` — who writes to jobs, and how far it has come.
* `AgentServer`, `AgentServer.advance` — the shared state, and one step of a handler.
* `ServerAction`, `AgentServer.step`, `reportMachine`.
-/

namespace Lxcup.Reports

open Lxcup.Lib Lxcup.Core Lxcup.Ansible Lxcup.Agent Lxcup.Persistence Lxcup.Server Lxcup.Worker
open Lxcup.Submission (JobDatabase)

/-! ### Where jobs are kept -/

/-- The jobs and their events: in the database, or in the coordinator without one. -/
inductive JobStore
  | database (db : JobDatabase)
  | memory (coordinator : AnsibleJobCoordinator)

/-- The number of the next event, `COALESCE(MAX(sequence), 0) + 1`. -/
def nextSequence (events : List JobEvent) : Nat := (events.map (·.sequence)).foldr max 0 + 1

/-- `append_status_event`, inside of the transaction that changes the row. -/
def appendStatusEvent (db : JobDatabase) (id : AnsibleJobId) (now : Timestamp)
    (status : AnsibleJobStatus) : JobDatabase :=
  let events := (db.events.get id).getD []
  let event : JobEvent := ⟨nextSequence events, id, .statusChanged status, now⟩
  { db with events := db.events.put id (events ++ [event]) }

/-- Calls of the coordinator under its lock, up to the first that fails; what was done until then
stays. -/
def runAll : List (CoordinatorOp × ApiError) → AnsibleJobCoordinator →
    AnsibleJobCoordinator × Except ApiError Unit
  | [], c => (c, .ok ())
  | (op, error) :: ops, c =>
    match op.call c with
    | .error _ => (c, .error error)
    | .ok c' => runAll ops c'

/-- The transitions of a job in the coordinator. -/
def transitions (id : AnsibleJobId) (path : List AnsibleJobStatus) (now : Timestamp)
    (error : ApiError) : List (CoordinatorOp × ApiError) :=
  path.map fun next => (.transition id next now, error)

/-- The events of a result that are recorded before its transitions. -/
def resultRecords (id : AnsibleJobId) (status : AnsibleJobStatus) (message : String)
    (now : Timestamp) : List (CoordinatorOp × ApiError) :=
  let refused := ApiError.conflict "invalid_workflow_state" "workflow cannot accept a result"
  let log := (.recordEvent id (.workerLog "windows_agent" message) now, refused)
  if status = .failed ∨ status = .reconcileRequired then
    [(.recordEvent id (.failed .playbookFailed) now, refused), log]
  else [log]

/-- The part of `persist_result` under the lock of the coordinator. -/
def resultOps (verdict : Verdict) (now : Timestamp) : List (CoordinatorOp × ApiError) :=
  resultRecords verdict.job.id verdict.job.status verdict.message now
    ++ transitions verdict.job.id verdict.path now
      (.conflict "invalid_workflow_state" "workflow cannot be completed")

namespace JobStore

def find (store : JobStore) (id : AnsibleJobId) : Option AnsibleJob :=
  match store with
  | .database db => db.jobs.get id
  | .memory c => c.jobs.get id

def eventsOf (store : JobStore) (id : AnsibleJobId) : List JobEvent :=
  match store with
  | .database db => (db.events.get id).getD []
  | .memory c => c.eventsOf id

/-- A job the agent of the target may claim in memory. -/
def candidate (targetId : TargetId) (job : AnsibleJob) : Bool :=
  job.target = .target targetId && job.status = .queued
    && JobTable.isWindowsAgentOperation job.operation

/-- `claim_next_windows_job`: the claimed job, and the store.  The query skips rows that another
claim has locked, so any job that meets its condition may be the first; in memory it is the one
submitted last. -/
def claim (store : JobStore) (targetId : TargetId) (id : AnsibleJobId) (now : Timestamp) :
    Option (AnsibleJob × JobStore) := do
  let job ← store.find id
  let claimed ← (job.transitionsTo (claimPath job.mode) now).toOption
  match store with
  | .database db =>
    if !JobTable.windowsClaimable db.targets db.jobs targetId job then none
    else
      let jobs ← (db.jobs.update claimed).toOption
      return (claimed, .database
        ((claimPath job.mode).foldl (appendStatusEvent · id now ·) { db with jobs := jobs }))
  | .memory c =>
    if !candidate targetId job || c.jobs.any fun _ other =>
        candidate targetId other && job.createdAt < other.createdAt then none
    else
      -- only the first transition can fail, and nothing has changed then
      match runAll (transitions id (claimPath job.mode) now
          (.conflict "ansible_target_busy" "target has an active workflow")) c with
      | (c', .ok ()) => return (claimed, .memory c')
      | (_, .error _) => none

/-- A job is submitted; with a database its row is inserted. -/
def submit (store : JobStore) (job : AnsibleJob) : Option JobStore :=
  match store with
  | .database db =>
    if job.status ≠ .queued then none
    else (JobTable.save db.targets db.jobs job).toOption.map fun jobs =>
      .database { db with jobs := jobs }
  | .memory _ => none

/-- A job is submitted to the coordinator. -/
def coordinate (store : JobStore) (op : CoordinatorOp) : Option JobStore :=
  match store with
  | .database _ => none
  | .memory c => some (.memory (op.run c))

/-- The first event of a submitted job is inserted. -/
def appendQueued (store : JobStore) (id : AnsibleJobId) (now : Timestamp) : Option JobStore :=
  match store with
  | .database db => (db.appendEvent ⟨1, id, .queued, now⟩).toOption.map .database
  | .memory _ => none

/-- A failed job is queued again. -/
def retry (store : JobStore) (id : AnsibleJobId) (now : Timestamp) : Option JobStore :=
  match store with
  | .database db => (db.jobs.retry id now).toOption.map fun (_, jobs) =>
    .database (appendStatusEvent { db with jobs := jobs } id now .queued)
  | .memory c => some (.memory ((CoordinatorOp.retry id now).run c))

/-- A target is deleted with its jobs, unless it has work under way. -/
def deleteTarget (store : JobStore) (targetId : TargetId) : Option JobStore :=
  match store with
  | .database db =>
    if db.jobs.any fun job => job.target = .target targetId && Database.blocksDeletion job.status
    then none
    else some (.database (db.withoutTarget targetId))
  | .memory c => (c.removeTargetJobs targetId).toOption.map .memory

/-- A target is registered or changed. -/
def putTarget (store : JobStore) (target : Target) : JobStore :=
  match store with
  | .database db => .database { db with targets := db.targets.put target.id target }
  | .memory c => .memory c

end JobStore

/-! ### Who writes to jobs -/

/-- The handler of a report, the handler of a claim without a command, or a worker that starts. -/
inductive Writer
  | report | claim | recovery
  deriving DecidableEq, Repr

/-- How far a writer has come. -/
inductive Phase
  /-- The copy has its new status; the events are counted next, or the lock is taken. -/
  | settled (verdict : Verdict)
  /-- The row is written next, with the events that follow and the number of the first. -/
  | counted (job : AnsibleJob) (events : List JobEventKind) (next : Option Nat)
  /-- The events are appended one by one; a worker counts them anew for each. -/
  | appending (id : AnsibleJobId) (events : List JobEventKind) (next : Option Nat)
  | answered (answer : Except ApiError Unit)
  deriving DecidableEq, Repr

/-- A call that is under way. -/
structure Call where
  writer : Writer
  phase : Phase
  deriving DecidableEq, Repr

/-- The copy that is still to be written. -/
def Phase.copy? : Phase → Option AnsibleJob
  | .settled verdict => some verdict.job
  | .counted job _ _ => some job
  | _ => none

/-- The call is between its loading of the job and its writing. -/
def Call.pending (id : AnsibleJobId) (call : Call) : Bool :=
  call.phase.copy?.any fun job => job.id = id

/-- The events of the recovery of a job. -/
def recoveryEvents (job : AnsibleJob) : List JobEventKind :=
  if job.status = .reconcileRequired then
    [.reconcileRequired, .statusChanged .reconcileRequired]
  else [.failed .workerRestarted, .statusChanged .failed]

/-- What a step gets from outside: the time, and whether a call of the database fails. -/
structure Input where
  now : Timestamp
  fails : Bool
  deriving DecidableEq, Repr, Inhabited

/-! ### The shared state -/

/-- An entry of the history of a job. -/
inductive Entry
  | claimed
  /-- A writer has changed the job, which had the given status before. -/
  | written (writer : Writer) (before : AnsibleJobStatus)
  deriving DecidableEq, Repr

/-- The targets, the jobs, the calls under way and the history. -/
structure AgentServer where
  targets : Table TargetId Target
  store : JobStore
  calls : Table Nat Call
  log : Table AnsibleJobId (List Entry)

namespace AgentServer

def note (s : AgentServer) (id : AnsibleJobId) (entry : Entry) : AgentServer :=
  { s with log := s.log.put id ((s.log.get id).getD [] ++ [entry]) }

def withCall (s : AgentServer) (n : Nat) (call : Call) : AgentServer :=
  { s with calls := s.calls.put n call }

def withStore (s : AgentServer) (store : JobStore) : AgentServer := { s with store := store }

/-- The phase of a report that has loaded its job. -/
def reportPhase (read : JsonReader) (s : AgentServer) (id : AnsibleJobId) (token : TokenCheck)
    (response : AgentCommandResponse) (input : Input) : Phase :=
  match s.store, s.store.find id with
  | .database _, none => .answered (.error
      (if input.fails then .storage else .notFound "workflow not found"))
  | .memory _, none => .answered (.error (.notFound "ansible job not found"))
  | store, some job =>
    match store, input.fails with
    | .database _, true => .answered (.error .storage)
    | _, _ =>
      match judge read s.targets job token response input.now with
      | .error error => .answered (.error error)
      | .ok none => .answered (.ok ())
      | .ok (some verdict) => .settled verdict

/-- `report_windows_agent_workflow` up to the writing. -/
def report (read : JsonReader) (s : AgentServer) (n : Nat) (id : AnsibleJobId) (token : TokenCheck)
    (response : AgentCommandResponse) (input : Input) : Option AgentServer :=
  if (s.calls.get n).isSome then none
  else some (s.withCall n ⟨.report, reportPhase read s id token response input⟩)

/-- The phase of a claim whose job has no command. -/
def refusalPhase (claimed : AnsibleJob) (error : ApiError) (now : Timestamp) : Phase :=
  match settle claimed .failed error.message now with
  | .error error => .answered (.error error)
  | .ok verdict => .settled verdict

/-- `claim_windows_agent_workflow`: the job is claimed, and failed if there is no command. -/
def claim (s : AgentServer) (n : Nat) (targetId : TargetId) (id : AnsibleJobId)
    (token : TokenCheck) (now : Timestamp) : Option AgentServer :=
  if (s.calls.get n).isSome || authorizeWindowsAgent s.targets targetId token ≠ .ok () then none
  else (s.store.claim targetId id now).map fun (claimed, store) =>
    let s := (s.withStore store).note id .claimed
    match workflowCommand claimed with
    | .ok _ => s
    | .error error => s.withCall n ⟨.claim, refusalPhase claimed error now⟩

/-- A worker that starts has loaded an active job. -/
def recover (s : AgentServer) (n : Nat) (id : AnsibleJobId) (now : Timestamp) :
    Option AgentServer :=
  match s.store with
  | .database db =>
    if (s.calls.get n).isSome then none
    else (db.jobs.get id).bind fun job => (recoverJob job now).map fun job' =>
      s.withCall n ⟨.recovery, .counted job' (recoveryEvents job') none⟩
  | .memory _ => none

/-- The writing without a database. -/
def writeMemory (s : AgentServer) (c : AnsibleJobCoordinator) (writer : Writer) (verdict : Verdict)
    (now : Timestamp) : AgentServer × Phase :=
  let outcome := runAll (resultOps verdict now) c
  let s := s.withStore (.memory outcome.1)
  -- a finished job takes no event, and then nothing is written
  match c.jobs.get verdict.job.id with
  | none => (s, .answered outcome.2)
  | some job =>
    if job.status.isFinal then (s, .answered outcome.2)
    else (s.note verdict.job.id (.written writer job.status), .answered outcome.2)

/-- The writing of a row. -/
def writeRow (s : AgentServer) (db : JobDatabase) (writer : Writer) (job : AnsibleJob) :
    Except RepositoryError AgentServer :=
  (db.jobs.update job).map fun jobs =>
    let s := s.withStore (.database { db with jobs := jobs })
    match db.jobs.get job.id with
    | none => s
    | some before => s.note job.id (.written writer before.status)

/-- The next access of a call. -/
def next (s : AgentServer) (call : Call) (input : Input) : Option (AgentServer × Phase) :=
  match s.store, call.phase with
  | .memory c, .settled verdict => some (s.writeMemory c call.writer verdict input.now)
  | .database _, .settled verdict =>
    if input.fails then some (s, .answered (.error .storage))
    else some (s, .counted verdict.job verdict.events
      (some ((s.store.eventsOf verdict.job.id).length + 1)))
  | .database db, .counted job events next =>
    if input.fails then some (s, .answered (.error .storage))
    else
      match s.writeRow db call.writer job with
      | .error _ => some (s, .answered (.error .storage))
      | .ok s' => some (s', .appending job.id events next)
  | .database _, .appending _ [] _ => some (s, .answered (.ok ()))
  | .database _, .appending id events none =>
    if input.fails then some (s, .answered (.error .storage))
    else some (s, .appending id events (some ((s.store.eventsOf id).length + 1)))
  | .database db, .appending id (event :: events) (some sequence) =>
    match db.appendEvent ⟨sequence, id, event, input.now⟩ with
    | .error _ => some (s, .answered (.error .storage))
    | .ok db' =>
      if input.fails then some (s, .answered (.error .storage))
      else some (s.withStore (.database db'), .appending id events
        (if call.writer = .recovery then none else some (sequence + 1)))
  | _, _ => none

/-- One step of a call. -/
def advance (s : AgentServer) (n : Nat) (input : Input) : Option AgentServer :=
  (s.calls.get n).bind fun call => (s.next call input).map fun (s', phase) =>
    s'.withCall n { call with phase := phase }

/-- The ids a job is submitted under have never been used. -/
def submitted (s : AgentServer) (id : AnsibleJobId) (store : Option JobStore) :
    Option AgentServer :=
  if (s.log.get id).isSome then none
  else store.map fun store => { s with store := store, log := s.log.put id [] }

end AgentServer

/-! ### Runs -/

/-- The steps of the system. -/
inductive ServerAction
  | report (n : Nat) (id : AnsibleJobId) (token : TokenCheck) (response : AgentCommandResponse)
      (input : Input)
  | claim (n : Nat) (targetId : TargetId) (id : AnsibleJobId) (token : TokenCheck)
      (now : Timestamp)
  | recover (n : Nat) (id : AnsibleJobId) (now : Timestamp)
  | advance (n : Nat) (input : Input)
  /-- The row of a submitted job is inserted, and later its first event. -/
  | submit (job : AnsibleJob)
  | appendQueued (id : AnsibleJobId) (now : Timestamp)
  /-- A request or a reconciliation is submitted to the coordinator. -/
  | submitRequest (request : AnsibleJobRequest) (newId : AnsibleJobId) (now : Timestamp)
  | submitReconciliation (source : AnsibleJob) (newId : AnsibleJobId) (now : Timestamp)
  | retry (id : AnsibleJobId) (now : Timestamp)
  | deleteTarget (id : TargetId)
  | putTarget (target : Target)

/-- One step of the system. -/
def AgentServer.step (read : JsonReader) (s : AgentServer) : ServerAction → Option AgentServer
  | .report n id token response input => s.report read n id token response input
  | .claim n targetId id token now => s.claim n targetId id token now
  | .recover n id now => s.recover n id now
  | .advance n input => s.advance n input
  | .submit job => s.submitted job.id (s.store.submit job)
  | .appendQueued id now => (s.store.appendQueued id now).map s.withStore
  | .submitRequest request newId now =>
    s.submitted newId (s.store.coordinate (.submit request newId now))
  | .submitReconciliation source newId now =>
    s.submitted newId (s.store.coordinate (.submitReconciliation source newId now))
  | .retry id now => (s.store.retry id now).map s.withStore
  | .deleteTarget id => (s.store.deleteTarget id).map fun store =>
    { s with store := store, targets := s.targets.remove id }
  | .putTarget target => some
    { s with store := s.store.putTarget target, targets := s.targets.put target.id target }

/-- The server before the first step, with an empty database or without one. -/
def AgentServer.fresh (persistent : Bool) : AgentServer where
  targets := ∅
  store := if persistent then .database ⟨∅, .empty, ∅⟩ else .memory .default
  calls := ∅
  log := ∅

/-- The runs of the server, in either mode. -/
def reportMachine (read : JsonReader) : Machine AgentServer ServerAction where
  init s := ∃ persistent, s = .fresh persistent
  step := AgentServer.step read

end Lxcup.Reports
