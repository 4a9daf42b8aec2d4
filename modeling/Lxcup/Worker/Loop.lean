import Lxcup.Lib.Machine
import Lxcup.Worker.Run

/-!
# The main loop of a worker

A worker claims one job after the other and runs it.  One step of the machine is one effect of the
worker with its answer, a decision of `process` between two effects, or whatever other processes do
to the tables meanwhile.  An error that leaves `process` is logged, and the loop goes on with the
next claim.

Next to the tables, the state has the jobs the worker has claimed that are still unfinished there,
and whether their playbook was started to apply something.

## Main definitions

* `Holding`, `Activity`, `WorkerState` — where the worker is.
* `WorkerEffect.honest`, `WorkerEffect.write` — what an effect may answer, and what it writes.
* `WorkerAction`, `WorkerState.step`, `workerMachine`.
* `WorkerState.Moved` — what a step does.

## Main results

* `moved_of_step` — a step does nothing else.
-/

namespace Lxcup.Worker

open Lxcup.Lib Lxcup.Core Lxcup.Ansible Lxcup.Persistence

/-! ### States -/

/-- A job that the worker has claimed and that has been unfinished in the table since. -/
structure Holding where
  id : AnsibleJobId
  /-- Its playbook was started to apply something. -/
  started : Bool
  deriving DecidableEq, Repr

/-- Where `process` is. -/
inductive Activity
  /-- The next call is `claim_next_queued`. -/
  | polling
  /-- `claim_next_queued` has selected the job and locked its row. -/
  | claiming (job : AnsibleJob)
  /-- `run` was called with the claimed job and has come this far. -/
  | running (claimed : AnsibleJob) (progress : Progress) (rest : Execution)
  /-- `run` has returned, and the job with its final status is written next. -/
  | writing (claimed : AnsibleJob) (progress : Progress) (result : Except JobFailureCode Bool)
      (job : AnsibleJob)
  /-- The events of the end are written. -/
  | reporting (id : AnsibleJobId) (kinds : List JobEventKind)
  /-- The status that `run` has left the job with could not be followed by the final one. -/
  | panicked

/-- The tables, and the worker. -/
structure WorkerState where
  targets : Table TargetId Target
  rows : JobTable
  activity : Activity
  held : List Holding

/-- The row of the job is there and unfinished. -/
def unfinished (rows : JobTable) (id : AnsibleJobId) : Bool :=
  match rows.get id with
  | some row => row.status.isActive
  | none => false

namespace WorkerState

/-- The worker has nothing to do and asks for the next job. -/
def isPolling (s : WorkerState) : Bool :=
  match s.activity with
  | .polling => true
  | _ => false

theorem isPolling_iff {s : WorkerState} : s.isPolling = true ↔ s.activity = .polling := by
  unfold isPolling
  split <;> simp_all

/-- The job the worker is working on, up to the last write of its row. -/
def current (s : WorkerState) : Option AnsibleJobId :=
  match s.activity with
  | .running claimed .. | .writing claimed .. => some claimed.id
  | _ => none

/-- The next effect of `run`. -/
def nextCall (s : WorkerState) : Option WorkerEffect :=
  match s.activity with
  | .running _ _ (.call e _) => some e
  | _ => none

/-- The row that is locked by the worker. -/
def locked (s : WorkerState) : Option AnsibleJobId :=
  match s.activity with
  | .claiming job => some job.id
  | _ => none

/-- The table with other rows. -/
def withRows (s : WorkerState) (rows : JobTable) : WorkerState :=
  { s with rows := rows, held := s.held.filter fun h => unfinished rows h.id }

end WorkerState

/-! ### Effects on the tables -/

/-- The answers that the tables allow: what is found is what is there, and a statement is carried
out only when no key is violated.  Any effect may fail. -/
def WorkerEffect.honest (targets : Table TargetId Target) (rows : JobTable) :
    (e : WorkerEffect) → e.Answer → Bool
  | .findTarget id, some found => decide (found = targets.get id)
  | .findJob id, some found => decide (found = rows.get id)
  | .update job, true => (rows.update job).isOk
  | _, _ => true

/-- The rows after an effect. -/
def WorkerEffect.write (rows : JobTable) : (e : WorkerEffect) → e.Answer → JobTable
  | .update job, true => (rows.update job).toOption.getD rows
  | _, _ => rows

/-- The playbook is started to apply something. -/
def WorkerEffect.startsApply : WorkerEffect → Bool
  | .ansiblePlaybook .apply _ _ => true
  | _ => false

/-- The held jobs after an effect of the run of the job `id`. -/
def WorkerEffect.mark (e : WorkerEffect) (id : AnsibleJobId) (held : List Holding) :
    List Holding :=
  held.map fun h => if e.startsApply && decide (h.id = id) then { h with started := true } else h

/-! ### Steps -/

/-- The events that `process` writes at the end. -/
def finalEvents (job : AnsibleJob) (result : Except JobFailureCode Bool) : List JobEventKind :=
  let event := match result with
    | .ok changed =>
      .taskFinished (if job.mode = .apply then "Apply-Ausführung" else job.playbook) changed
    | .error code => .failed code
  event :: (if job.status = .reconcileRequired then [.reconcileRequired] else [])
    ++ [.statusChanged job.status]

/-- What happens next. -/
inductive WorkerAction
  /-- `claim_next_queued` selects a job. -/
  | select (id : AnsibleJobId)
  /-- It marks the job as claimed and commits; a violated index counts as no job. -/
  | claim (now : Timestamp)
  /-- One of its statements fails. -/
  | claimFails
  /-- The next effect of `run` happens. -/
  | answer (world : (e : WorkerEffect) → e.Answer)
  /-- `run` has returned; the final status is chosen. -/
  | finish (now : Timestamp)
  /-- The job is written with its final status, or that fails. -/
  | writeResult (ok : Bool)
  /-- The next event is written, or that fails. -/
  | report (ok : Bool)
  /-- Other processes change the tables. -/
  | others (targets : Table TargetId Target) (rows : JobTable)

/-- One step of `main`. -/
def WorkerState.step (reader : OutputReader) (s : WorkerState) : WorkerAction → Option WorkerState
  | .select id =>
    match s.activity, s.rows.get id with
    | .polling, some job =>
      if JobTable.claimable s.targets s.rows job then some { s with activity := .claiming job }
      else none
    | _, _ => none
  | .claim now =>
    match s.activity with
    | .claiming job =>
      match job.transitionTo .checking now with
      | .error _ => some { s with activity := .polling }
      | .ok job =>
        match s.rows.update job with
        | .error _ => some { s with activity := .polling }
        | .ok rows =>
          let s := s.withRows rows
          some { s with activity := .running job .initial (run reader job),
                        held := ⟨job.id, false⟩ :: s.held }
    | _ => none
  | .claimFails =>
    match s.activity with
    | .claiming _ => some { s with activity := .polling }
    | _ => none
  | .answer world =>
    match s.activity with
    | .running claimed progress (.call e rest) =>
      if e.honest s.targets s.rows (world e) then
        let s := s.withRows (e.write s.rows (world e))
        let progress := progress.observe claimed.id e (world e)
        some { s with activity := .running claimed progress (rest (world e)),
                      held := e.mark claimed.id s.held }
      else none
    | _ => none
  | .finish now =>
    match s.activity with
    | .running claimed progress (.ret (result, job)) =>
      match job.transitionTo (finalStatus job result.isOk) now with
      | .error _ => some { s with activity := .panicked }
      | .ok job => some { s with activity := .writing claimed progress result job }
    | _ => none
  | .writeResult ok =>
    match s.activity with
    | .writing _ _ result job =>
      if ok then
        match s.rows.update job with
        | .error _ => none
        | .ok rows =>
          some { s.withRows rows with activity := .reporting job.id (finalEvents job result) }
      else
        -- the error is logged, and the next call is `claim_next_queued`
        some { s with activity := .polling }
    | _ => none
  | .report ok =>
    match s.activity with
    | .reporting id (_ :: kind :: kinds) =>
      if ok then some { s with activity := .reporting id (kind :: kinds) }
      else some { s with activity := .polling }
    | .reporting _ _ => some { s with activity := .polling }
    | _ => none
  | .others targets rows =>
    if ∀ id ∈ s.locked, rows.get id = s.rows.get id then
      some { s.withRows rows with targets := targets }
    else none

/-- The loop, from any tables on, with a worker that has just started. -/
def workerMachine (reader : OutputReader) : Machine WorkerState WorkerAction where
  init s := s.isPolling = true ∧ s.held = []
  step := WorkerState.step reader

/-! ### What a step does -/

/-- What a step does, by its action. -/
inductive WorkerState.Moved (reader : OutputReader) (s : WorkerState) :
    WorkerAction → WorkerState → Prop
  | select {id : AnsibleJobId} {job : AnsibleJob} (hrow : s.rows.get id = some job)
      (hpolling : s.activity = .polling)
      (hclaimable : JobTable.claimable s.targets s.rows job = true) :
      Moved reader s (.select id) { s with activity := .claiming job }
  /-- The job was taken by somebody else. -/
  | giveUp {job : AnsibleJob} {a : WorkerAction} (hclaiming : s.activity = .claiming job)
      (ha : a = .claimFails ∨ ∃ now, a = .claim now) :
      Moved reader s a { s with activity := .polling }
  | claim {job : AnsibleJob} {now : Timestamp} {rows : JobTable}
      (hclaiming : s.activity = .claiming job)
      (hqueued : job.status.canTransitionTo .checking = true)
      (hupdate : s.rows.update { job with status := .checking, updatedAt := now } = .ok rows) :
      Moved reader s (.claim now)
        { targets := s.targets, rows := rows,
          activity := .running { job with status := .checking, updatedAt := now } .initial
            (run reader { job with status := .checking, updatedAt := now }),
          held := ⟨job.id, false⟩ :: (s.withRows rows).held }
  | answer {world : (e : WorkerEffect) → e.Answer} {claimed : AnsibleJob} {progress : Progress}
      {e : WorkerEffect} {rest : e.Answer → Execution}
      (hrunning : s.activity = .running claimed progress (.call e rest))
      (hhonest : e.honest s.targets s.rows (world e) = true) :
      Moved reader s (.answer world)
        { targets := s.targets, rows := e.write s.rows (world e),
          activity := .running claimed (progress.observe claimed.id e (world e)) (rest (world e)),
          held := e.mark claimed.id (s.withRows (e.write s.rows (world e))).held }
  | panic {now : Timestamp} {claimed job : AnsibleJob} {progress : Progress}
      {result : Except JobFailureCode Bool}
      (hrunning : s.activity = .running claimed progress (.ret (result, job)))
      (hedge : job.status.canTransitionTo (finalStatus job result.isOk) = false) :
      Moved reader s (.finish now) { s with activity := .panicked }
  | finish {now : Timestamp} {claimed job : AnsibleJob} {progress : Progress}
      {result : Except JobFailureCode Bool}
      (hrunning : s.activity = .running claimed progress (.ret (result, job)))
      (hedge : job.status.canTransitionTo (finalStatus job result.isOk) = true) :
      Moved reader s (.finish now)
        { s with
          activity := .writing claimed progress result
            { job with status := finalStatus job result.isOk, updatedAt := now } }
  | written {claimed job : AnsibleJob} {progress : Progress} {result : Except JobFailureCode Bool}
      {rows : JobTable} (hwriting : s.activity = .writing claimed progress result job)
      (hupdate : s.rows.update job = .ok rows) :
      Moved reader s (.writeResult true)
        { s.withRows rows with activity := .reporting job.id (finalEvents job result) }
  | notWritten {claimed job : AnsibleJob} {progress : Progress}
      {result : Except JobFailureCode Bool}
      (hwriting : s.activity = .writing claimed progress result job) :
      Moved reader s (.writeResult false) { s with activity := .polling }
  | report {ok : Bool} {id : AnsibleJobId} {kinds : List JobEventKind} {activity : Activity}
      (hreporting : s.activity = .reporting id kinds)
      (hnext : activity = .polling ∨ ∃ kinds', activity = .reporting id kinds') :
      Moved reader s (.report ok) { s with activity := activity }
  | others {targets : Table TargetId Target} {rows : JobTable}
      (hlocked : ∀ id ∈ s.locked, rows.get id = s.rows.get id) :
      Moved reader s (.others targets rows) { s.withRows rows with targets := targets }

theorem moved_of_step {reader : OutputReader} {s s' : WorkerState} {a : WorkerAction}
    (h : s.step reader a = some s') : s.Moved reader a s' := by
  cases a with
  | select id =>
    simp only [WorkerState.step] at h
    split at h
    · rename_i job hpolling hrow
      split at h
      · rename_i hclaimable
        cases h
        exact .select hrow hpolling hclaimable
      · cases h
    · cases h
  | claim now =>
    simp only [WorkerState.step] at h
    split at h
    · rename_i job hclaiming
      split at h
      · cases h
        exact .giveUp hclaiming (.inr ⟨now, rfl⟩)
      · rename_i job' hmoved
        obtain ⟨hqueued, rfl⟩ := AnsibleJob.transitionTo_ok.mp hmoved
        split at h
        · cases h
          exact .giveUp hclaiming (.inr ⟨now, rfl⟩)
        · rename_i rows hupdate
          cases h
          exact .claim hclaiming hqueued hupdate
    · cases h
  | claimFails =>
    simp only [WorkerState.step] at h
    split at h
    · rename_i job hclaiming
      cases h
      exact .giveUp hclaiming (.inl rfl)
    · cases h
  | answer world =>
    simp only [WorkerState.step] at h
    split at h
    · rename_i claimed progress e rest hrunning
      split at h
      · rename_i hhonest
        cases h
        exact .answer hrunning hhonest
      · cases h
    · cases h
  | finish now =>
    simp only [WorkerState.step] at h
    split at h
    · rename_i claimed progress result job hrunning
      split at h
      · rename_i error hmoved
        cases h
        refine .panic hrunning ?_
        by_contra hedge
        rw [AnsibleJob.transitionTo_ok.mpr ⟨by simpa using hedge, rfl⟩] at hmoved
        cases hmoved
      · rename_i job' hmoved
        obtain ⟨hedge, rfl⟩ := AnsibleJob.transitionTo_ok.mp hmoved
        cases h
        exact .finish hrunning hedge
    · cases h
  | writeResult ok =>
    simp only [WorkerState.step] at h
    split at h
    · rename_i claimed progress result job hwriting
      cases ok with
      | false =>
        cases h
        exact .notWritten hwriting
      | true =>
        simp only [if_true] at h
        split at h
        · cases h
        · rename_i rows hupdate
          cases h
          exact .written hwriting hupdate
    · cases h
  | report ok =>
    simp only [WorkerState.step] at h
    split at h
    · rename_i id kind kind' kinds hreporting
      split at h
      · cases h
        exact .report hreporting (.inr ⟨_, rfl⟩)
      · cases h
        exact .report hreporting (.inl rfl)
    · rename_i id kinds _ hreporting
      cases h
      exact .report hreporting (.inl rfl)
    · cases h
  | others targets rows =>
    simp only [WorkerState.step] at h
    split at h
    · rename_i hlocked
      cases h
      exact .others hlocked
    · cases h

end Lxcup.Worker
