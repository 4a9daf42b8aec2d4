import Lxcup.Ansible.Contract
import Lxcup.Lib.Machine
import Lxcup.Lib.Table

/-!
# The coordinator of Ansible jobs

The in-process orchestration of jobs: an idempotency index, a lock on each target
and an event log for each job, next to the jobs themselves.  Operations return an
error and leave the coordinator as it is, or give an answer and the coordinator
after the call; fresh ids and the clock are arguments.

## Main definitions

* `JobEventKind`, `JobEvent`, `JobSubmission`, `CoordinatorError`.
* `AnsibleJobCoordinator` with `submit`, `submitReconciliation`,
  `submitPersistedReconciliation`, `transition`, `recordEvent`, `retry`,
  `removeTargetJobs` and `targetHasActiveJobs`.
* `CoordinatorOp`, `coordinatorMachine` — sequences of calls, failing ones included.

## Main results

* `CoordinatorOp.Change`, `CoordinatorOp.change_run` — the whole coordinator after a call, by
  what the call does.
* `CoordinatorOp.Effect`, `CoordinatorOp.effect_run` — everything one call can do to the
  jobs and the locks.
-/

namespace Lxcup.Ansible

open Lxcup.Lib Lxcup.Core

/-- Why a job failed. -/
inductive JobFailureCode
  | workerUnavailable | invalidCredentials | hostKeyChanged | unreachable | timeout
  | playbookFailed | workerRestarted
  deriving DecidableEq, Repr, Inhabited

/-- The audit-safe events of a job. -/
inductive JobEventKind
  | queued
  | statusChanged (status : AnsibleJobStatus)
  | taskStarted (task : String)
  | taskFinished (task : String) (changed : Bool)
  | failed (code : JobFailureCode)
  | reconcileRequired
  /-- Redacted output of the isolated worker. -/
  | workerLog (source message : String)
  deriving DecidableEq, Repr, Inhabited

/-- An entry of the event log of a job. -/
structure JobEvent where
  sequence : Nat
  jobId : AnsibleJobId
  event : JobEventKind
  createdAt : Timestamp
  deriving DecidableEq, Repr, Inhabited

/-- The answer to a submission. -/
inductive JobSubmission
  | created (job : AnsibleJob)
  | duplicate (job : AnsibleJob)
  deriving DecidableEq, Repr, Inhabited

/-- Why the coordinator refuses a call. -/
inductive CoordinatorError
  /-- The target already has an active job. -/
  | targetBusy
  | notFound
  | retryNotAllowed
  | reconcileNotAllowed
  | invalidTransition
  /-- The job cannot accept another event. -/
  | terminal
  | contract (error : AnsibleContractError)
  deriving DecidableEq, Repr, Inhabited

/-- The coordinator: jobs, idempotency index, target locks and event logs. -/
structure AnsibleJobCoordinator where
  jobs : Table AnsibleJobId AnsibleJob
  idempotency : Table (ResourceTarget × String) AnsibleJobId
  /-- The job that holds the lock of a target. -/
  activeTargets : Table ResourceTarget AnsibleJobId
  events : Table AnsibleJobId (List JobEvent)

namespace AnsibleJobCoordinator

/-- `AnsibleJobCoordinator::default()`. -/
def default : AnsibleJobCoordinator := ⟨∅, ∅, ∅, ∅⟩

/-- Append an event to the log of a job, numbered from one. -/
def recordInternal (c : AnsibleJobCoordinator) (id : AnsibleJobId) (event : JobEventKind)
    (now : Timestamp) : AnsibleJobCoordinator :=
  let events := (c.events.get id).getD []
  { c with events := c.events.put id (events ++ [⟨events.length + 1, id, event, now⟩]) }

@[simp] theorem recordInternal_jobs (c : AnsibleJobCoordinator) (id : AnsibleJobId)
    (event : JobEventKind) (now : Timestamp) : (c.recordInternal id event now).jobs = c.jobs := rfl

@[simp] theorem recordInternal_activeTargets (c : AnsibleJobCoordinator) (id : AnsibleJobId)
    (event : JobEventKind) (now : Timestamp) :
    (c.recordInternal id event now).activeTargets = c.activeTargets := rfl

/-- The lock of `target` is held by a job other than `id`. -/
def lockedByOther (c : AnsibleJobCoordinator) (target : ResourceTarget) (id : AnsibleJobId) :
    Bool :=
  match c.activeTargets.get target with
  | some active => active ≠ id
  | none => false

/-- The target has a lock or an unfinished job. -/
def targetHasActiveJobs (c : AnsibleJobCoordinator) (targetId : TargetId) : Bool :=
  let target := ResourceTarget.target targetId
  (c.activeTargets.get target).isSome
    || c.jobs.values.any fun job =>
      job.target = target && (job.status.isActive || job.status = .reconcileRequired)

/-- Remove the queued and finished jobs of a target.  The locks are not touched: a target
with a lock is busy and nothing is removed. -/
def removeTargetJobs (c : AnsibleJobCoordinator) (targetId : TargetId) :
    Except CoordinatorError AnsibleJobCoordinator :=
  let target := ResourceTarget.target targetId
  if c.targetHasActiveJobs targetId then .error .targetBusy
  else
    let removedIds := (c.jobs.values.filter fun job => job.target = target).map (·.id)
    .ok { c with
      jobs := c.jobs.retain fun id _ => id ∉ removedIds
      events := c.events.retain fun id _ => id ∉ removedIds
      idempotency := c.idempotency.retain fun key id => key.1 ≠ target && id ∉ removedIds }

/-- Submit a request, or find the job it was submitted as before. -/
def submit (c : AnsibleJobCoordinator) (request : AnsibleJobRequest) (newId : AnsibleJobId)
    (now : Timestamp) : Except CoordinatorError (JobSubmission × AnsibleJobCoordinator) :=
  -- a repeated request is answered before it is checked
  let key := (request.target, request.idempotencyKey)
  match c.idempotency.get key with
  | some existingId =>
    match c.jobs.get existingId with
    | some existing => .ok (.duplicate existing, c)
    | none => .error .notFound
  | none =>
    match AnsibleJob.fromRequest request newId now with
    | .error error => .error (.contract error)
    | .ok job =>
      let c := { c with idempotency := c.idempotency.put key job.id }
      let c := c.recordInternal job.id .queued now
      .ok (.created job, { c with jobs := c.jobs.put job.id job })

/-- The reconciliation of a job, as it is queued. -/
def reconciliationOf (source : AnsibleJob) (newId : AnsibleJobId) (now : Timestamp) : AnsibleJob :=
  { source with
    id := newId
    mode := .reconcile
    idempotencyKey := reconcileIdempotencyKey source.id
    status := .queued
    createdAt := now
    updatedAt := now }

/-- Submit the reconciliation of a job.  The source is the caller's copy, not looked up. -/
def submitReconciliationWithLock (c : AnsibleJobCoordinator) (source : AnsibleJob)
    (enforceMemoryLock : Bool) (newId : AnsibleJobId) (now : Timestamp) :
    Except CoordinatorError (JobSubmission × AnsibleJobCoordinator) :=
  if !source.canBeReconciled then .error .reconcileNotAllowed
  else
    let key := reconcileIdempotencyKey source.id
    match c.idempotency.get (source.target, key) with
    | some existingId =>
      match c.jobs.get existingId with
      | some existing => .ok (.duplicate existing, c)
      | none => .error .notFound
    | none =>
      if enforceMemoryLock && c.lockedByOther source.target source.id then .error .targetBusy
      else
        -- the queued reconciliation holds the lock from now on
        let job := reconciliationOf source newId now
        let c := { c with
          activeTargets := c.activeTargets.put job.target job.id
          idempotency := c.idempotency.put (job.target, key) job.id }
        let c := c.recordInternal job.id .queued now
        .ok (.created job, { c with jobs := c.jobs.put job.id job })

/-- `submit_reconciliation`: the lock of the target must be free or the source's own. -/
def submitReconciliation (c : AnsibleJobCoordinator) (source : AnsibleJob)
    (newId : AnsibleJobId) (now : Timestamp) :
    Except CoordinatorError (JobSubmission × AnsibleJobCoordinator) :=
  c.submitReconciliationWithLock source true newId now

/-- `submit_persisted_reconciliation`: the database arbitrates between the jobs of the
target, the lock in memory may be left over. -/
def submitPersistedReconciliation (c : AnsibleJobCoordinator) (source : AnsibleJob)
    (newId : AnsibleJobId) (now : Timestamp) :
    Except CoordinatorError (JobSubmission × AnsibleJobCoordinator) :=
  c.submitReconciliationWithLock source false newId now

/-- The locks after a job of `target` went to `next`. -/
def locksAfter (c : AnsibleJobCoordinator) (target : ResourceTarget) (id : AnsibleJobId)
    (next : AnsibleJobStatus) : Table ResourceTarget AnsibleJobId :=
  let locks := if next = .checking then c.activeTargets.put target id else c.activeTargets
  -- dropped whoever holds it
  if next.isFinal then locks.remove target else locks

/-- Move a job along an edge of its lifecycle. -/
def transition (c : AnsibleJobCoordinator) (id : AnsibleJobId) (next : AnsibleJobStatus)
    (now : Timestamp) : Except CoordinatorError (AnsibleJob × AnsibleJobCoordinator) :=
  match c.jobs.get id with
  | none => .error .notFound
  | some job =>
    -- the lock is looked at only on the way to `checking`
    if next = .checking ∧ c.lockedByOther job.target id then .error .targetBusy
    else
      match job.transitionTo next now with
      | .error _ => .error .invalidTransition
      | .ok job' =>
        let c := { c with
          jobs := c.jobs.put id job'
          activeTargets := c.locksAfter job.target id next }
        let c := c.recordInternal id (.statusChanged next) now
        let c := if next = .reconcileRequired then c.recordInternal id .reconcileRequired now else c
        .ok (job', c)

/-- Append an event of the worker to the log of an unfinished job. -/
def recordEvent (c : AnsibleJobCoordinator) (id : AnsibleJobId) (event : JobEventKind)
    (now : Timestamp) : Except CoordinatorError AnsibleJobCoordinator :=
  match c.jobs.get id with
  | none => .error .notFound
  | some job =>
    if job.status.isFinal then .error .terminal else .ok (c.recordInternal id event now)

/-- Queue a failed job again.  Applied package updates are not repeated. -/
def retry (c : AnsibleJobCoordinator) (id : AnsibleJobId) (now : Timestamp) :
    Except CoordinatorError (AnsibleJob × AnsibleJobCoordinator) :=
  match c.jobs.get id with
  | none => .error .notFound
  | some job =>
    if c.lockedByOther job.target id then .error .targetBusy
    else if job.status ≠ .failed ∨ (job.operation = .updatePackages ∧ job.mode = .apply) then
      .error .retryNotAllowed
    else
      match job.transitionTo .queued now with
      | .error _ => .error .invalidTransition
      | .ok job' =>
        let c := { c with jobs := c.jobs.put id job' }
        .ok (job', c.recordInternal id (.statusChanged .queued) now)

/-! ### The coordinator after a call -/

/-- A queued job is registered: in the index, with its first event and among the jobs. -/
def register (c : AnsibleJobCoordinator) (job : AnsibleJob) (now : Timestamp) :
    AnsibleJobCoordinator :=
  let c := { c with idempotency := c.idempotency.put (job.target, job.idempotencyKey) job.id }
  let c := c.recordInternal job.id .queued now
  { c with jobs := c.jobs.put job.id job }

/-- A job takes the lock of a target. -/
def lock (c : AnsibleJobCoordinator) (target : ResourceTarget) (id : AnsibleJobId) :
    AnsibleJobCoordinator :=
  { c with activeTargets := c.activeTargets.put target id }

/-- A job has gone to `next`. -/
def moved (c : AnsibleJobCoordinator) (id : AnsibleJobId) (job : AnsibleJob)
    (next : AnsibleJobStatus) (now : Timestamp) : AnsibleJobCoordinator :=
  let c := { c with
    jobs := c.jobs.put id { job with status := next, updatedAt := now }
    activeTargets := c.locksAfter job.target id next }
  let c := c.recordInternal id (.statusChanged next) now
  if next = .reconcileRequired then c.recordInternal id .reconcileRequired now else c

/-- The jobs of a target are gone, with their events and index entries. -/
def withoutJobsOf (c : AnsibleJobCoordinator) (targetId : TargetId) : AnsibleJobCoordinator :=
  let target := ResourceTarget.target targetId
  let removedIds := (c.jobs.values.filter fun job => job.target = target).map (·.id)
  { c with
    jobs := c.jobs.retain fun id _ => id ∉ removedIds
    events := c.events.retain fun id _ => id ∉ removedIds
    idempotency := c.idempotency.retain fun key id => key.1 ≠ target && id ∉ removedIds }

theorem moved_jobs (c : AnsibleJobCoordinator) (id : AnsibleJobId) (job : AnsibleJob)
    (next : AnsibleJobStatus) (now : Timestamp) :
    (c.moved id job next now).jobs
      = c.jobs.put id { job with status := next, updatedAt := now } := by
  unfold moved
  split <;> rfl

/-- What is found after a move. -/
theorem get_moved (c : AnsibleJobCoordinator) (id other : AnsibleJobId) (job : AnsibleJob)
    (next : AnsibleJobStatus) (now : Timestamp) :
    (c.moved id job next now).jobs.get other
      = if other = id then some { job with status := next, updatedAt := now }
        else c.jobs.get other := by
  rw [moved_jobs, Table.get_put]

theorem get_moved_self (c : AnsibleJobCoordinator) (id : AnsibleJobId) (job : AnsibleJob)
    (next : AnsibleJobStatus) (now : Timestamp) :
    (c.moved id job next now).jobs.get id
      = some { job with status := next, updatedAt := now } := by
  rw [get_moved, if_pos rfl]

theorem moved_activeTargets (c : AnsibleJobCoordinator) (id : AnsibleJobId) (job : AnsibleJob)
    (next : AnsibleJobStatus) (now : Timestamp) :
    (c.moved id job next now).activeTargets = c.locksAfter job.target id next := by
  unfold moved
  split <;> rfl

theorem moved_idempotency (c : AnsibleJobCoordinator) (id : AnsibleJobId) (job : AnsibleJob)
    (next : AnsibleJobStatus) (now : Timestamp) :
    (c.moved id job next now).idempotency = c.idempotency := by
  unfold moved
  split <;> rfl

end AnsibleJobCoordinator

/-! ### Sequences of calls -/

/-- A call of the coordinator, with the fresh id and the time it sees. -/
inductive CoordinatorOp
  | submit (request : AnsibleJobRequest) (newId : AnsibleJobId) (now : Timestamp)
  | submitReconciliation (source : AnsibleJob) (newId : AnsibleJobId) (now : Timestamp)
  | submitPersistedReconciliation (source : AnsibleJob) (newId : AnsibleJobId) (now : Timestamp)
  | transition (id : AnsibleJobId) (next : AnsibleJobStatus) (now : Timestamp)
  | retry (id : AnsibleJobId) (now : Timestamp)
  | recordEvent (id : AnsibleJobId) (event : JobEventKind) (now : Timestamp)
  | removeTargetJobs (targetId : TargetId)

namespace CoordinatorOp

open AnsibleJobCoordinator

/-- The coordinator after a call that succeeds, the error of one that fails. -/
def call (c : AnsibleJobCoordinator) : CoordinatorOp →
    Except CoordinatorError AnsibleJobCoordinator
  | submit request newId now => (c.submit request newId now).map (·.2)
  | submitReconciliation source newId now => (c.submitReconciliation source newId now).map (·.2)
  | submitPersistedReconciliation source newId now =>
    (c.submitPersistedReconciliation source newId now).map (·.2)
  | transition id next now => (c.transition id next now).map (·.2)
  | retry id now => (c.retry id now).map (·.2)
  | recordEvent id event now => c.recordEvent id event now
  | removeTargetJobs targetId => c.removeTargetJobs targetId

/-- The coordinator after a call, the same one after a failing call. -/
def run (op : CoordinatorOp) (c : AnsibleJobCoordinator) : AnsibleJobCoordinator :=
  match op.call c with
  | .ok c' => c'
  | .error _ => c

/-- Everything one call can do to the jobs and the locks. -/
inductive Effect (c : AnsibleJobCoordinator) : CoordinatorOp → AnsibleJobCoordinator → Prop
  /-- Failing calls, duplicates and recorded events. -/
  | keep {op : CoordinatorOp} {c' : AnsibleJobCoordinator} (jobs : c'.jobs = c.jobs)
      (locks : c'.activeTargets = c.activeTargets) : Effect c op c'
  /-- An accepted request is queued, the locks stay. -/
  | queue {request : AnsibleJobRequest} {newId : AnsibleJobId} {now : Timestamp}
      {c' : AnsibleJobCoordinator} (accepts : AnsibleJob.Accepts request)
      (jobs : c'.jobs = c.jobs.put newId (AnsibleJob.queuedFor request newId now))
      (locks : c'.activeTargets = c.activeTargets) : Effect c (.submit request newId now) c'
  /-- A reconciliation is queued and takes the lock of its target over. -/
  | reconcile {op : CoordinatorOp} {source : AnsibleJob} {newId : AnsibleJobId} {now : Timestamp}
      {c' : AnsibleJobCoordinator}
      (call : (op = .submitReconciliation source newId now ∧
          c.lockedByOther source.target source.id = false) ∨
        op = .submitPersistedReconciliation source newId now)
      (reconcilable : source.canBeReconciled = true)
      (jobs : c'.jobs = c.jobs.put newId (reconciliationOf source newId now))
      (locks : c'.activeTargets = c.activeTargets.put source.target newId) : Effect c op c'
  /-- A job goes along an edge of its lifecycle. -/
  | move {op : CoordinatorOp} {id : AnsibleJobId} {next : AnsibleJobStatus} {now : Timestamp}
      {job : AnsibleJob} {c' : AnsibleJobCoordinator}
      (call : op = .transition id next now ∨ (op = .retry id now ∧ next = .queued))
      (found : c.jobs.get id = some job)
      (edge : job.status.canTransitionTo next = true)
      (free : next = .checking → c.lockedByOther job.target id = false)
      (jobs : c'.jobs = c.jobs.put id { job with status := next, updatedAt := now })
      (locks : c'.activeTargets = c.locksAfter job.target id next) : Effect c op c'
  /-- Jobs of a target without unfinished jobs are removed. -/
  | remove {targetId : TargetId} {removedIds : List AnsibleJobId} {c' : AnsibleJobCoordinator}
      (jobs : c'.jobs = c.jobs.retain fun id _ => id ∉ removedIds)
      (locks : c'.activeTargets = c.activeTargets) : Effect c (.removeTargetJobs targetId) c'

/-- The whole coordinator after a call, by what the call does. -/
inductive Change (c : AnsibleJobCoordinator) : CoordinatorOp → AnsibleJobCoordinator → Prop
  /-- Failing calls and duplicates. -/
  | keep {op : CoordinatorOp} : Change c op c
  /-- An event of the worker is recorded. -/
  | record {id : AnsibleJobId} {event : JobEventKind} {now : Timestamp} {job : AnsibleJob}
      (found : c.jobs.get id = some job) :
      Change c (.recordEvent id event now) (c.recordInternal id event now)
  /-- An accepted request is registered under an unused key. -/
  | queue {request : AnsibleJobRequest} {newId : AnsibleJobId} {now : Timestamp}
      (unused : c.idempotency.get (request.target, request.idempotencyKey) = none)
      (accepts : AnsibleJob.Accepts request) :
      Change c (.submit request newId now)
        (c.register (AnsibleJob.queuedFor request newId now) now)
  /-- A reconciliation is registered under an unused key and takes the lock over. -/
  | reconcile {op : CoordinatorOp} {source : AnsibleJob} {newId : AnsibleJobId} {now : Timestamp}
      (call : (op = .submitReconciliation source newId now ∧
          c.lockedByOther source.target source.id = false) ∨
        op = .submitPersistedReconciliation source newId now)
      (reconcilable : source.canBeReconciled = true)
      (unused : c.idempotency.get (source.target, reconcileIdempotencyKey source.id) = none) :
      Change c op ((c.lock source.target newId).register (reconciliationOf source newId now) now)
  /-- A job goes along an edge of its lifecycle. -/
  | move {op : CoordinatorOp} {id : AnsibleJobId} {next : AnsibleJobStatus} {now : Timestamp}
      {job : AnsibleJob}
      (call : op = .transition id next now ∨ (op = .retry id now ∧ next = .queued))
      (found : c.jobs.get id = some job)
      (edge : job.status.canTransitionTo next = true)
      (free : next = .checking → c.lockedByOther job.target id = false) :
      Change c op (c.moved id job next now)
  /-- The jobs of a target without unfinished jobs are removed. -/
  | remove {targetId : TargetId} (idle : c.targetHasActiveJobs targetId = false) :
      Change c (.removeTargetJobs targetId) (c.withoutJobsOf targetId)

theorem change_submit (c : AnsibleJobCoordinator) (request : AnsibleJobRequest)
    (newId : AnsibleJobId) (now : Timestamp) :
    Change c (.submit request newId now) (run (.submit request newId now) c) := by
  simp only [run, call, AnsibleJobCoordinator.submit]
  cases hunused : c.idempotency.get (request.target, request.idempotencyKey) with
  | some existingId =>
    dsimp only
    cases c.jobs.get existingId with
    | some existing => exact .keep
    | none => exact .keep
  | none =>
    dsimp only
    cases hjob : AnsibleJob.fromRequest request newId now with
    | error e => exact .keep
    | ok job =>
      obtain ⟨haccepts, rfl⟩ := AnsibleJob.fromRequest_ok.mp hjob
      exact .queue hunused haccepts

theorem change_reconciliation (c : AnsibleJobCoordinator) (source : AnsibleJob) (enforce : Bool)
    (newId : AnsibleJobId) (now : Timestamp) {op : CoordinatorOp}
    (hop : op.call c = (c.submitReconciliationWithLock source enforce newId now).map (·.2))
    (hcall : op = .submitReconciliation source newId now ∧ enforce = true ∨
      op = .submitPersistedReconciliation source newId now) :
    Change c op (op.run c) := by
  simp only [run, hop, AnsibleJobCoordinator.submitReconciliationWithLock]
  by_cases hsource : source.canBeReconciled = true
  · simp only [hsource, Bool.not_true, Bool.false_eq_true, if_false]
    cases hunused : c.idempotency.get (source.target, reconcileIdempotencyKey source.id) with
    | some existingId =>
      dsimp only
      cases c.jobs.get existingId with
      | some existing => exact .keep
      | none => exact .keep
    | none =>
      dsimp only
      by_cases hlock : (enforce && c.lockedByOther source.target source.id) = true
      · simp only [if_pos hlock]
        exact .keep
      · simp only [if_neg hlock]
        have hcall' : (op = .submitReconciliation source newId now ∧
            c.lockedByOther source.target source.id = false) ∨
            op = .submitPersistedReconciliation source newId now := by
          rcases hcall with ⟨rfl, rfl⟩ | rfl
          · exact .inl ⟨rfl, by simpa using hlock⟩
          · exact .inr rfl
        exact .reconcile hcall' hsource hunused
  · simp only [hsource, Bool.not_false, if_true]
    exact .keep

theorem change_transition (c : AnsibleJobCoordinator) (id : AnsibleJobId)
    (next : AnsibleJobStatus) (now : Timestamp) :
    Change c (.transition id next now) (run (.transition id next now) c) := by
  simp only [run, call, AnsibleJobCoordinator.transition]
  cases hfound : c.jobs.get id with
  | none => exact .keep
  | some job =>
    dsimp only
    by_cases hbusy : next = .checking ∧ c.lockedByOther job.target id = true
    · simp only [if_pos hbusy]
      exact .keep
    · simp only [if_neg hbusy]
      cases hmove : job.transitionTo next now with
      | error e => exact .keep
      | ok job' =>
        obtain ⟨hedge, rfl⟩ := AnsibleJob.transitionTo_ok.mp hmove
        have hfree : next = .checking → c.lockedByOther job.target id = false := by
          intro hnext
          simpa [hnext] using hbusy
        exact .move (.inl rfl) hfound hedge hfree

theorem change_retry (c : AnsibleJobCoordinator) (id : AnsibleJobId) (now : Timestamp) :
    Change c (.retry id now) (run (.retry id now) c) := by
  simp only [run, call, AnsibleJobCoordinator.retry]
  cases hfound : c.jobs.get id with
  | none => exact .keep
  | some job =>
    dsimp only
    cases c.lockedByOther job.target id with
    | true => exact .keep
    | false =>
      by_cases hrefused : job.status ≠ .failed ∨
          (job.operation = .updatePackages ∧ job.mode = .apply)
      · simp only [if_pos hrefused]
        exact .keep
      · simp only [if_neg hrefused]
        cases hmove : job.transitionTo .queued now with
        | error e => exact .keep
        | ok job' =>
          obtain ⟨hedge, rfl⟩ := AnsibleJob.transitionTo_ok.mp hmove
          exact .move (.inr ⟨rfl, rfl⟩) hfound hedge (fun h => by cases h)

/-- **What a call does to the whole coordinator**, for every call. -/
theorem change_run (op : CoordinatorOp) (c : AnsibleJobCoordinator) : Change c op (op.run c) := by
  cases op with
  | submit request newId now => exact change_submit c request newId now
  | submitReconciliation source newId now =>
    exact change_reconciliation c source true newId now rfl (.inl ⟨rfl, rfl⟩)
  | submitPersistedReconciliation source newId now =>
    exact change_reconciliation c source false newId now rfl (.inr rfl)
  | transition id next now => exact change_transition c id next now
  | retry id now => exact change_retry c id now
  | recordEvent id event now =>
    simp only [run, call, AnsibleJobCoordinator.recordEvent]
    cases hfound : c.jobs.get id with
    | none => exact .keep
    | some job =>
      dsimp only
      cases job.status.isFinal with
      | true => exact .keep
      | false => exact .record hfound
  | removeTargetJobs targetId =>
    simp only [run, call, AnsibleJobCoordinator.removeTargetJobs]
    cases hidle : c.targetHasActiveJobs targetId with
    | true => exact .keep
    | false => exact .remove hidle

/-- **What a call does to the jobs and the locks**, for every call. -/
theorem effect_run (op : CoordinatorOp) (c : AnsibleJobCoordinator) : Effect c op (op.run c) := by
  have hchange := change_run op c
  generalize op.run c = c' at hchange ⊢
  cases hchange with
  | keep => exact .keep rfl rfl
  | record found => exact .keep rfl rfl
  | queue unused accepts => exact .queue accepts rfl rfl
  | reconcile call reconcilable unused => exact .reconcile call reconcilable rfl rfl
  | move call found edge free =>
    exact .move call found edge free (moved_jobs ..) (moved_activeTargets ..)
  | remove idle => exact .remove rfl rfl

end CoordinatorOp

/-- The calls of a coordinator, one after the other, from the default one. -/
def coordinatorMachine : Machine AnsibleJobCoordinator CoordinatorOp where
  init c := c = .default
  step c op := some (op.run c)

end Lxcup.Ansible
