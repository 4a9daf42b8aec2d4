import Lxcup.Queue.Fleet

/-!
# What a step of the fleet does

Every step changes one process, and at most one row of the job table; the deletion of a
target removes rows.  This module says so once, so that the invariants of the fleet never
unfold the step function: `Moves` are the changes of a process that leave the table as it
is, `Writes` those that come with the write of a row, and `Effect` puts them together
with the steps that belong to no process.

## Main definitions

* `Moves`, `Writes`, `Effect`.

## Main results

* `effect_step` — every step has one of the effects.
* `row_of_step` — where a row comes from.
-/

namespace Lxcup.Queue

open Lxcup.Lib Lxcup.Core Lxcup.Ansible Lxcup.Persistence Lxcup.Server Lxcup.Worker
open Lxcup.Submission (findActiveTargetJob)

namespace Fleet

/-! ### Reading the state after a change -/

theorem proc_setProc (s : Fleet) (p q : ProcId) (x : Proc) :
    (s.setProc p x).proc q = if q = p then x else s.proc q := by
  unfold proc setProc
  rw [Table.get_put]
  split <;> rfl

@[simp] theorem proc_setProc_self (s : Fleet) (p : ProcId) (x : Proc) :
    (s.setProc p x).proc p = x := by
  rw [proc_setProc, if_pos rfl]

@[simp] theorem jobs_setProc (s : Fleet) (p : ProcId) (x : Proc) :
    (s.setProc p x).jobs = s.jobs := rfl

@[simp] theorem history_setProc (s : Fleet) (p : ProcId) (x : Proc) :
    (s.setProc p x).history = s.history := rfl

@[simp] theorem jobs_setJobs (s : Fleet) (jobs : JobTable) : (s.setJobs jobs).jobs = jobs := rfl

@[simp] theorem history_setJobs (s : Fleet) (jobs : JobTable) :
    (s.setJobs jobs).history = s.history := rfl

@[simp] theorem proc_setJobs (s : Fleet) (jobs : JobTable) (q : ProcId) :
    (s.setJobs jobs).proc q = s.proc q := rfl

@[simp] theorem jobs_record (s : Fleet) (id : AnsibleJobId) (status : AnsibleJobStatus) :
    (s.record id status).jobs = s.jobs := rfl

@[simp] theorem proc_record (s : Fleet) (id : AnsibleJobId) (status : AnsibleJobStatus)
    (q : ProcId) : (s.record id status).proc q = s.proc q := rfl

theorem history_record (s : Fleet) (id id' : AnsibleJobId) (status : AnsibleJobStatus) :
    (s.record id status).history.get id'
      = if id' = id then some ((s.history.get id).getD [] ++ [status]) else s.history.get id' :=
  Table.get_put ..

/-- What a test on the processes that `down` fails says about each of them. -/
theorem procs_any_eq_false {s : Fleet} {f : ProcId → Proc → Bool}
    (h : s.procs.any f = false) (hdown : ∀ q, f q .down = false) (q : ProcId) :
    f q (s.proc q) = false := by
  unfold proc
  cases hq : s.procs.get q with
  | none => exact hdown q
  | some x => exact Table.any_eq_false.mp h q x hq

end Fleet

/-! ### Changes of a process -/

/-- A job with another status. -/
def moved (job : AnsibleJob) (next : AnsibleJobStatus) (now : Timestamp) : AnsibleJob :=
  { job with status := next, updatedAt := now }

@[simp] theorem moved_id (job : AnsibleJob) (next : AnsibleJobStatus) (now : Timestamp) :
    (moved job next now).id = job.id := rfl

@[simp] theorem moved_status (job : AnsibleJob) (next : AnsibleJobStatus) (now : Timestamp) :
    (moved job next now).status = next := rfl

@[simp] theorem moved_target (job : AnsibleJob) (next : AnsibleJobStatus) (now : Timestamp) :
    (moved job next now).target = job.target := rfl

@[simp] theorem moved_mode (job : AnsibleJob) (next : AnsibleJobStatus) (now : Timestamp) :
    (moved job next now).mode = job.mode := rfl

/-- The changes of process `p` that leave the job table as it is. -/
inductive Moves (s : Fleet) (p : ProcId) : FleetAction → Proc → Proc → Prop
  /-- Crashes, failing recoveries and requests that end. -/
  | ends {a : FleetAction} {x : Proc} : Moves s p a x .down
  | starts : Moves s p (.restart p) .down (.recovering s.jobs.list)
  | skips {a : FleetAction} {job : AnsibleJob} {rest : List AnsibleJob}
      (inactive : job.status.isActive = false) :
      Moves s p a (.recovering (job :: rest)) (.recovering rest)
  | recovered {a : FleetAction} : Moves s p a (.recovering []) .idle
  | selects {job : AnsibleJob} (row : s.jobs.get job.id = some job)
      (claimable : JobTable.claimable s.db.targets s.jobs job = true)
      (free : s.lockedByOther p job.id = false) :
      Moves s p (.claimSelect p job.id) .idle (.claiming job)
  /-- The claim found the target taken. -/
  | releases {a : FleetAction} {job : AnsibleJob} : Moves s p a (.claiming job) .idle
  | fails {a : FleetAction} {job : AnsibleJob} {stored : AnsibleJobStatus} {phase : Phase}
      {code : JobFailureCode} :
      Moves s p a (.running job stored phase) (.running job stored (.finishing (.error code)))
  | locates {a : FleetAction} {job : AnsibleJob} {stored : AnsibleJobStatus} {target : Target} :
      Moves s p a (.running job stored .started) (.running job stored (.located target))
  /-- The write of `planned` fails: the copy is ahead of the row. -/
  | planFails {a : FleetAction} {job : AnsibleJob} {stored : AnsibleJobStatus} {target : Target}
      {now : Timestamp} {code : JobFailureCode} :
      Moves s p a (.running job stored (.located target))
        (.running (moved job .planned now) stored (.finishing (.error code)))
  | prepares {a : FleetAction} {job : AnsibleJob} {stored : AnsibleJobStatus} {target : Target}
      (mode : job.mode ≠ .reconcile) :
      Moves s p a (.running job stored (.planned target))
        (.running job stored (.prepared target none))
  | loads {job source : AnsibleJob} {stored : AnsibleJobStatus} {target : Target} {dbFails : Bool}
      (mode : job.mode = .reconcile)
      (named : reconciliationSourceJobId job.idempotencyKey = some source.id)
      (row : s.jobs.get source.id = some source) (same : sourceMatches job source = true) :
      Moves s p (.loadSource p dbFails) (.running job stored (.planned target))
        (.running job stored (.prepared target (some source)))
  | marks {a : FleetAction} {job : AnsibleJob} {stored : AnsibleJobStatus} {target : Target}
      {source : Option AnsibleJob} (mode : job.mode ≠ .apply) :
      Moves s p a (.running job stored (.prepared target source))
        (.running job stored (.marked target source))
  /-- The write of `applying` fails: the copy is ahead of the row. -/
  | markFails {job : AnsibleJob} {stored : AnsibleJobStatus} {target : Target}
      {source : Option AnsibleJob} {now : Timestamp} {dbFails : Bool} {code : JobFailureCode}
      (mode : job.mode = .apply)
      (cause : dbFails = true ∨
        (∃ row, s.jobs.get job.id = some row) ∧
          s.jobs.activeConflict (moved job .applying now) = true) :
      Moves s p (.markApplying p now dbFails) (.running job stored (.prepared target source))
        (.running (moved job .applying now) stored (.finishing (.error code)))
  | executes {a : FleetAction} {job : AnsibleJob} {stored : AnsibleJobStatus} {target : Target}
      {source : Option AnsibleJob} :
      Moves s p a (.running job stored (.marked target source))
        (.running job stored (.executing source))
  | executed {a : FleetAction} {job : AnsibleJob} {stored : AnsibleJobStatus} {success : Bool}
      {source : Option AnsibleJob} :
      Moves s p a (.running job stored (.executing source))
        (.running job stored (.executed success source))
  /-- There is no source, or nothing can be said about it. -/
  | reconciles {a : FleetAction} {job : AnsibleJob} {stored : AnsibleJobStatus} {success : Bool}
      {source : Option AnsibleJob} (nothing : source = none ∨ success = false) :
      Moves s p a (.running job stored (.executed success source))
        (.running job stored (.reconciled success))
  | returns {a : FleetAction} {job : AnsibleJob} {stored : AnsibleJobStatus} {changed : Bool} :
      Moves s p a (.running job stored (.reconciled true))
        (.running job stored (.finishing (.ok changed)))
  /-- The write of the final status fails and the copy is lost. -/
  | drops {a : FleetAction} {job : AnsibleJob} {stored : AnsibleJobStatus} {phase : Phase} :
      Moves s p a (.running job stored phase) .idle
  | windowsSelects {job : AnsibleJob} {targetId : TargetId} (row : s.jobs.get job.id = some job)
      (claimable : JobTable.windowsClaimable s.db.targets s.jobs targetId job = true)
      (free : s.lockedByOther p job.id = false) :
      Moves s p (.windowsSelect p targetId job.id) .down (.windowsClaiming job)
  | reports {job : AnsibleJob} {succeeded : Bool} (row : s.jobs.get job.id = some job)
      (unfinished : reportIgnored job.status = false) :
      Moves s p (.reportLoad p job.id succeeded) .down (.reporting job succeeded)
  | asks {source : AnsibleJob} (row : s.jobs.get source.id = some source)
      (reconcilable : source.canBeReconciled = true) :
      Moves s p (.reconcileLoad p source.id) .down (.reconciling source .loaded)
  | finds {source : AnsibleJob}
      (unused : s.keyTaken source.target (reconcileIdempotencyKey source.id) = false) :
      Moves s p (.reconcileFind p) (.reconciling source .loaded) (.reconciling source .unused)
  | checks {source : AnsibleJob}
      (free : findActiveTargetJob s.jobs.list source.target (some source.id) = none) :
      Moves s p (.reconcileCheck p) (.reconciling source .unused) (.reconciling source .free)

/-- The changes of process `p` that come with the write of the row of `job`, when the statement
does not fail.  The list are the statuses the copy went through before it was written. -/
inductive Writes (p : ProcId) : FleetAction → Proc → AnsibleJob → List AnsibleJobStatus → Proc →
    Prop
  | recovers {job : AnsibleJob} {rest : List AnsibleJob} {next : AnsibleJobStatus}
      {now : Timestamp} (active : recoveredStatus job.status = some next) :
      Writes p (.recoverNext p now false) (.recovering (job :: rest)) (moved job next now) [next]
        (.recovering rest)
  | claims {job : AnsibleJob} {now : Timestamp}
      (edge : job.status.canTransitionTo .checking = true) :
      Writes p (.claimCommit p now false) (.claiming job) (moved job .checking now) [.checking]
        (.running (moved job .checking now) .checking .started)
  | plans {job : AnsibleJob} {stored : AnsibleJobStatus} {target : Target} {now : Timestamp} :
      Writes p (.writePlanned p now false) (.running job stored (.located target))
        (moved job .planned now) [.planned]
        (.running (moved job .planned now) .planned (.planned target))
  | marks {job : AnsibleJob} {stored : AnsibleJobStatus} {target : Target}
      {source : Option AnsibleJob} {now : Timestamp} (mode : job.mode = .apply) :
      Writes p (.markApplying p now false) (.running job stored (.prepared target source))
        (moved job .applying now) [.applying]
        (.running (moved job .applying now) .applying (.marked target source))
  | resolves {job source : AnsibleJob} {stored : AnsibleJobStatus}
      {decision : ReconciliationDecision} {now : Timestamp} :
      Writes p (.reconcile p decision now false)
        (.running job stored (.executed true (some source)))
        (moved source (sourceStatus decision) now) [sourceStatus decision]
        (.running job stored (.reconciled true))
  | finishes {job : AnsibleJob} {stored : AnsibleJobStatus}
      {result : Except JobFailureCode Bool} {now : Timestamp} :
      Writes p (.writeResult p now false) (.running job stored (.finishing result))
        (moved job (finalStatus job result.isOk) now) [finalStatus job result.isOk] .idle
  | windowsClaims {job job' : AnsibleJob} {now : Timestamp}
      (path : job.transitionsTo (claimPath job.mode) now = .ok job') :
      Writes p (.windowsCommit p now false) (.windowsClaiming job) job' (claimPath job.mode)
        (.windowsClaimed job')
  /-- A claimed job without a command is failed. -/
  | refuses {job job' : AnsibleJob} {now : Timestamp}
      (path : job.transitionsTo (resultPath job.mode .failed) now = .ok job') :
      Writes p (.windowsAnswer p now false) (.windowsClaimed job) job'
        (resultPath job.mode .failed) .down
  | reports {job job' : AnsibleJob} {succeeded : Bool} {now : Timestamp}
      (path : job.transitionsTo (resultPath job.mode (reportStatus job.mode succeeded)) now
        = .ok job') :
      Writes p (.reportWrite p now false) (.reporting job succeeded) job'
        (resultPath job.mode (reportStatus job.mode succeeded)) .down

/-- What a step does. -/
inductive Effect (s : Fleet) (a : FleetAction) : Fleet → Prop
  | move {p : ProcId} {x : Proc} (moves : Moves s p a (s.proc p) x) : Effect s a (s.setProc p x)
  /-- The row to be written has been deleted. -/
  | miss {p : ProcId} {x : Proc} {job : AnsibleJob} {path : List AnsibleJobStatus}
      (writes : Writes p a (s.proc p) job path x) (gone : s.jobs.get job.id = none) :
      Effect s a (s.setProc p x)
  | write {p : ProcId} {x : Proc} {job row : AnsibleJob} {path : List AnsibleJobStatus}
      (writes : Writes p a (s.proc p) job path x) (found : s.jobs.get job.id = some row)
      (unlocked : s.lockedByOther p job.id = false)
      (noConflict : s.jobs.activeConflict job = false) :
      Effect s a (((s.setJobs (s.jobs.put job)).record job.id job.status).setProc p x)
  | submit {request : AnsibleJobRequest} {newId : AnsibleJobId} {now : Timestamp}
      (call : a = .submit request newId now) (accepts : AnsibleJob.Accepts request)
      (fresh : s.history.get newId = none) (absent : s.jobs.get newId = none) :
      Effect s a ((s.setJobs (s.jobs.put (AnsibleJob.queuedFor request newId now))).record newId
        .queued)
  | reconciliation {p : ProcId} {source : AnsibleJob} {newId : AnsibleJobId} {now : Timestamp}
      (call : a = .reconcileSubmit p newId now) (asked : s.proc p = .reconciling source .free)
      (fresh : s.history.get newId = none) (absent : s.jobs.get newId = none)
      (unused : ∀ id row, s.jobs.get id = some row →
        ¬(row.target = source.target ∧
          row.idempotencyKey = reconcileIdempotencyKey source.id)) :
      Effect s a (((s.setJobs (s.jobs.put
        (AnsibleJobCoordinator.reconciliationOf source newId now))).record newId
          .queued).setProc p .down)
  | requeue {id : AnsibleJobId} {job : AnsibleJob} {now : Timestamp}
      (unlocked : ∀ q, (s.proc q).locks id = false) (found : s.jobs.get id = some job)
      (failed : job.status = .failed) (call : a = .retry id now) :
      Effect s a ((s.setJobs (s.jobs.put (moved job .queued now))).record id .queued)
  | target {target : Target} (call : a = .putTarget target) :
      Effect s a { s with db := { s.db with targets := s.db.targets.put target.id target } }
  | delete {id : TargetId} {db : Database}
      (unclaimed : ∀ q, (s.proc q).claims (.target id) = false)
      (idle : ∀ id' job, s.jobs.get id' = some job → job.target = .target id →
        Database.blocksDeletion job.status = false)
      (jobs : db.ansibleJobs = s.jobs.retain fun job => job.target ≠ .target id)
      (targets : db.targets = s.db.targets.remove id) :
      Effect s a { s with db := db }

/-! ### Every step has an effect -/

section

variable {s s' : Fleet} {p : ProcId}

/-- A process that only changes itself. -/
private theorem effect_move {a : FleetAction} {before after : Proc} (hp : s.proc p = before)
    (hmoves : Moves s p a before after) (h : some (s.setProc p after) = some s') :
    Effect s a s' := by
  obtain rfl := Option.some.inj h
  exact .move (hp ▸ hmoves)

/-- A process that updates a row: it is done, or the statement has failed. -/
private theorem effect_update {a : FleetAction} {before done failed : Proc} {job : AnsibleJob}
    {dbFails : Bool} (hp : s.proc p = before) (path : List AnsibleJobStatus)
    (hwrites : dbFails = false → Writes p a before job path done)
    (hfails : (dbFails = true ∨ (∃ row, s.jobs.get job.id = some row) ∧
      s.jobs.activeConflict job = true) → Moves s p a before failed)
    (h : s.update p job dbFails done failed = some s') : Effect s a s' := by
  unfold Fleet.update at h
  split at h
  · cases h
  · rename_i hunlocked
    split at h
    · rename_i hdb
      exact effect_move hp (hfails (.inl hdb)) h
    · rename_i hdb
      have hwrites := hwrites (by simpa using hdb)
      unfold Fleet.write at h
      cases hrow : s.jobs.get job.id with
      | none =>
        simp only [hrow] at h
        obtain rfl := Option.some.inj h
        exact .miss (hp ▸ hwrites) hrow
      | some row =>
        simp only [hrow] at h
        by_cases hconflict : s.jobs.activeConflict job = true
        · rw [if_pos hconflict] at h
          exact effect_move hp (hfails (.inr ⟨⟨row, hrow⟩, hconflict⟩)) h
        · rw [if_neg hconflict] at h
          obtain rfl := Option.some.inj h
          exact .write (hp ▸ hwrites) hrow (by simpa using hunlocked) (by simpa using hconflict)

private theorem effect_failRun {a : FleetAction} {job : AnsibleJob} {stored : AnsibleJobStatus}
    {phase : Phase} {code : JobFailureCode} (hp : s.proc p = .running job stored phase)
    (h : s.failRun p job stored code = some s') : Effect s a s' :=
  effect_move hp .fails h

private theorem effect_recoverNext {now : Timestamp} {dbFails : Bool}
    (h : s.recoverNext p now dbFails = some s') : Effect s (.recoverNext p now dbFails) s' := by
  unfold Fleet.recoverNext at h
  split at h
  · rename_i hp
    exact effect_move hp .recovered h
  · rename_i job rest hp
    split at h
    · rename_i hnone
      exact effect_move hp (.skips (recoverJob_eq_none.mp hnone)) h
    · rename_i job' hjob'
      obtain ⟨next, hnext, rfl⟩ := recoverJob_some hjob'
      exact effect_update hp [next] (fun hdb => hdb ▸ .recovers hnext) (fun _ => .ends) h
  · cases h

private theorem effect_claimSelect {id : AnsibleJobId} (h : s.claimSelect p id = some s') :
    Effect s (.claimSelect p id) s' := by
  unfold Fleet.claimSelect at h
  split at h
  · rename_i job hp hrow
    split at h
    · rename_i hcond
      simp only [Bool.and_eq_true, Bool.not_eq_true'] at hcond
      obtain rfl := JobTable.get_id hrow
      exact effect_move hp (.selects hrow hcond.1.1 hcond.1.2) h
    · cases h
  · cases h

private theorem effect_claimCommit {now : Timestamp} {dbFails : Bool}
    (h : s.claimCommit p now dbFails = some s') : Effect s (.claimCommit p now dbFails) s' := by
  unfold Fleet.claimCommit at h
  split at h
  · rename_i job hp
    split at h
    · exact effect_move hp .releases h
    · rename_i job' hjob'
      obtain ⟨hedge, rfl⟩ := AnsibleJob.transitionTo_ok.mp hjob'
      exact effect_update hp [.checking] (fun hdb => hdb ▸ .claims hedge) (fun _ => .releases) h
  · cases h

private theorem effect_findTarget {dbFails : Bool} (h : s.findTarget p dbFails = some s') :
    Effect s (.findTarget p dbFails) s' := by
  unfold Fleet.findTarget at h
  split at h
  · rename_i job stored hp
    split at h
    · split at h
      · exact effect_failRun hp h
      · split at h
        · exact effect_failRun hp h
        · split at h
          · exact effect_failRun hp h
          · exact effect_move hp .locates h
    · exact effect_failRun hp h
  · cases h

private theorem effect_writePlanned {now : Timestamp} {dbFails : Bool}
    (h : s.writePlanned p now dbFails = some s') : Effect s (.writePlanned p now dbFails) s' := by
  unfold Fleet.writePlanned at h
  split at h
  · rename_i job stored target hp
    split at h
    · exact effect_failRun hp h
    · rename_i job' hjob'
      obtain ⟨-, rfl⟩ := AnsibleJob.transitionTo_ok.mp hjob'
      exact effect_update hp [.planned] (fun hdb => hdb ▸ .plans) (fun _ => .planFails) h
  · cases h

private theorem effect_loadSource {dbFails : Bool} (h : s.loadSource p dbFails = some s') :
    Effect s (.loadSource p dbFails) s' := by
  unfold Fleet.loadSource at h
  split at h
  · rename_i job stored target hp
    split at h
    · exact effect_failRun hp h
    · split at h
      · rename_i hmode
        split at h
        · exact effect_failRun hp h
        · rename_i sourceId hnamed
          split at h
          · exact effect_failRun hp h
          · split at h
            · exact effect_failRun hp h
            · rename_i source hrow
              split at h
              · rename_i hsame
                obtain rfl := JobTable.get_id hrow
                exact effect_move hp (.loads hmode hnamed hrow hsame) h
              · exact effect_failRun hp h
      · rename_i hmode
        exact effect_move hp (.prepares hmode) h
  · cases h

private theorem effect_markApplying {now : Timestamp} {dbFails : Bool}
    (h : s.markApplying p now dbFails = some s') : Effect s (.markApplying p now dbFails) s' := by
  unfold Fleet.markApplying at h
  split at h
  · rename_i job stored target source hp
    split at h
    · rename_i hmode
      split at h
      · exact effect_failRun hp h
      · rename_i job' hjob'
        obtain ⟨-, rfl⟩ := AnsibleJob.transitionTo_ok.mp hjob'
        exact effect_update hp [.applying] (fun hdb => hdb ▸ .marks hmode)
          (fun hcause => .markFails hmode hcause) h
    · rename_i hmode
      exact effect_move hp (.marks hmode) h
  · cases h

private theorem effect_startPlaybook (h : s.startPlaybook p = some s') :
    Effect s (.startPlaybook p) s' := by
  unfold Fleet.startPlaybook at h
  split at h
  · rename_i job stored target source hp
    split at h
    · exact effect_failRun hp h
    · exact effect_move hp .executes h
  · cases h

private theorem effect_reconcile {decision : ReconciliationDecision} {now : Timestamp}
    {dbFails : Bool} (h : s.reconcile p decision now dbFails = some s') :
    Effect s (.reconcile p decision now dbFails) s' := by
  unfold Fleet.reconcile at h
  split at h
  · rename_i job stored success source hp
    split at h
    · exact effect_move hp (.reconciles (.inl rfl)) h
    · rename_i source'
      cases success with
      | false => exact effect_move hp (.reconciles (.inr rfl)) h
      | true =>
        simp only [Bool.not_true, Bool.false_eq_true, if_false] at h
        split at h
        · exact effect_failRun hp h
        · rename_i moved hmoved
          obtain ⟨-, rfl⟩ := AnsibleJob.transitionTo_ok.mp hmoved
          exact effect_update hp [sourceStatus decision] (fun hdb => hdb ▸ .resolves)
            (fun _ => .fails) h
  · cases h

private theorem effect_finishRun {changed : Bool} {code : JobFailureCode}
    (h : s.finishRun p changed code = some s') : Effect s (.finishRun p changed code) s' := by
  unfold Fleet.finishRun at h
  split at h
  · rename_i job stored success hp
    cases success with
    | true => exact effect_move hp .returns h
    | false => exact effect_failRun hp h
  · cases h

private theorem effect_writeResult {now : Timestamp} {dbFails : Bool}
    (h : s.writeResult p now dbFails = some s') : Effect s (.writeResult p now dbFails) s' := by
  unfold Fleet.writeResult at h
  split at h
  · rename_i job stored result hp
    split at h
    · exact effect_move hp .ends h
    · rename_i job' hjob'
      obtain ⟨-, rfl⟩ := AnsibleJob.transitionTo_ok.mp hjob'
      exact effect_update hp [finalStatus job result.isOk] (fun hdb => hdb ▸ .finishes)
        (fun _ => .drops) h
  · cases h

private theorem effect_windowsSelect {targetId : TargetId} {id : AnsibleJobId}
    (h : s.windowsSelect p targetId id = some s') : Effect s (.windowsSelect p targetId id) s' := by
  unfold Fleet.windowsSelect at h
  split at h
  · rename_i job hp hrow
    split at h
    · rename_i hcond
      simp only [Bool.and_eq_true, Bool.not_eq_true'] at hcond
      obtain rfl := JobTable.get_id hrow
      exact effect_move hp (.windowsSelects hrow hcond.1.1.2 hcond.1.2) h
    · cases h
  · cases h

private theorem effect_windowsCommit {now : Timestamp} {dbFails : Bool}
    (h : s.windowsCommit p now dbFails = some s') : Effect s (.windowsCommit p now dbFails) s' := by
  unfold Fleet.windowsCommit at h
  split at h
  · rename_i job hp
    split at h
    · exact effect_move hp .ends h
    · rename_i job' hjob'
      exact effect_update hp (claimPath job.mode) (fun hdb => hdb ▸ .windowsClaims hjob')
        (fun _ => .ends) h
  · cases h

private theorem effect_windowsAnswer {now : Timestamp} {dbFails : Bool}
    (h : s.windowsAnswer p now dbFails = some s') : Effect s (.windowsAnswer p now dbFails) s' := by
  unfold Fleet.windowsAnswer at h
  split at h
  · rename_i job hp
    split at h
    · exact effect_move hp .ends h
    · split at h
      · exact effect_move hp .ends h
      · rename_i job' hjob'
        exact effect_update hp (resultPath job.mode .failed) (fun hdb => hdb ▸ .refuses hjob')
          (fun _ => .ends) h
  · cases h

private theorem effect_reportLoad {id : AnsibleJobId} {succeeded : Bool}
    (h : s.reportLoad p id succeeded = some s') : Effect s (.reportLoad p id succeeded) s' := by
  unfold Fleet.reportLoad at h
  split at h
  · rename_i job hp hrow
    split at h
    · split at h
      · rename_i hcond
        simp only [Bool.and_eq_true, Bool.not_eq_true'] at hcond
        obtain rfl := JobTable.get_id hrow
        exact effect_move hp (.reports hrow hcond.2) h
      · cases h
    · cases h
  · cases h

private theorem effect_reportWrite {now : Timestamp} {dbFails : Bool}
    (h : s.reportWrite p now dbFails = some s') : Effect s (.reportWrite p now dbFails) s' := by
  unfold Fleet.reportWrite at h
  split at h
  · rename_i job succeeded hp
    split at h
    · exact effect_move hp .ends h
    · rename_i job' hjob'
      exact effect_update hp (resultPath job.mode (reportStatus job.mode succeeded))
        (fun hdb => hdb ▸ .reports hjob') (fun _ => .ends) h
  · cases h

/-- An insertion that goes through. -/
private theorem insert_some {job : AnsibleJob} (h : s.insert job = some s') :
    s.history.get job.id = none ∧ s.jobs.get job.id = none ∧
      (∀ id row, s.jobs.get id = some row →
        ¬(row.target = job.target ∧ row.idempotencyKey = job.idempotencyKey)) ∧
      s' = (s.setJobs (s.jobs.put job)).record job.id job.status := by
  unfold Fleet.insert at h
  split at h
  · cases h
  · rename_i hfresh
    split at h
    · cases h
    · rename_i jobs hsave
      obtain ⟨habsent, -, rfl⟩ := JobTable.save_ok hsave
      exact ⟨by simpa using hfresh, habsent, JobTable.keyFree_of_save hsave,
        (Option.some.inj h).symm⟩

private theorem effect_submit {request : AnsibleJobRequest} {newId : AnsibleJobId}
    {now : Timestamp} (h : s.submit request newId now = some s') :
    Effect s (.submit request newId now) s' := by
  unfold Fleet.submit at h
  split at h
  · cases h
  · rename_i job hjob
    obtain ⟨haccepts, rfl⟩ := AnsibleJob.fromRequest_ok.mp hjob
    obtain ⟨hfresh, habsent, -, rfl⟩ := insert_some h
    exact .submit rfl haccepts hfresh habsent

private theorem effect_reconcileLoad {id : AnsibleJobId} (h : s.reconcileLoad p id = some s') :
    Effect s (.reconcileLoad p id) s' := by
  unfold Fleet.reconcileLoad at h
  split at h
  · rename_i source hp hrow
    split at h
    · rename_i hcond
      obtain rfl := JobTable.get_id hrow
      exact effect_move hp (.asks hrow hcond) h
    · cases h
  · cases h

private theorem effect_reconcileFind (h : s.reconcileFind p = some s') :
    Effect s (.reconcileFind p) s' := by
  unfold Fleet.reconcileFind at h
  split at h
  · rename_i source hp
    split at h
    · exact effect_move hp .ends h
    · rename_i hunused
      exact effect_move hp (.finds (by simpa using hunused)) h
  · cases h

private theorem effect_reconcileCheck (h : s.reconcileCheck p = some s') :
    Effect s (.reconcileCheck p) s' := by
  unfold Fleet.reconcileCheck at h
  split at h
  · rename_i source hp
    split at h
    · exact effect_move hp .ends h
    · rename_i hfree
      exact effect_move hp (.checks hfree) h
  · cases h

private theorem effect_reconcileSubmit {newId : AnsibleJobId} {now : Timestamp}
    (h : s.reconcileSubmit p newId now = some s') : Effect s (.reconcileSubmit p newId now) s' := by
  unfold Fleet.reconcileSubmit at h
  split at h
  · rename_i source hp
    obtain ⟨t, ht, rfl⟩ := Option.map_eq_some_iff.mp h
    obtain ⟨hfresh, habsent, hunused, rfl⟩ := insert_some ht
    exact .reconciliation rfl hp hfresh habsent hunused
  · cases h

private theorem effect_retry {id : AnsibleJobId} {now : Timestamp}
    (h : s.retry id now = some s') : Effect s (.retry id now) s' := by
  unfold Fleet.retry at h
  split at h
  · cases h
  · rename_i hunlocked
    split at h
    · cases h
    · rename_i job' jobs hretry
      obtain ⟨job, hrow, hfailed, rfl, rfl⟩ := JobTable.retry_ok hretry
      obtain rfl := Option.some.inj h
      exact .requeue
        (Fleet.procs_any_eq_false (f := fun _ proc => proc.locks id) (by simpa using hunlocked)
          fun _ => rfl) hrow hfailed rfl

private theorem effect_deleteTarget {id : TargetId} {actorRole : String} {now : Timestamp}
    (h : s.deleteTarget id actorRole now = some s') :
    Effect s (.deleteTarget id actorRole now) s' := by
  unfold Fleet.deleteTarget at h
  split at h
  · cases h
  · rename_i hunclaimed
    split at h
    · rename_i db hdelete
      obtain ⟨hidle, hjobs, -, -, htargets⟩ := Database.deleteWithRelatedData_ok hdelete
      obtain rfl := Option.some.inj h
      exact .delete
        (Fleet.procs_any_eq_false (f := fun _ proc => proc.claims (.target id))
          (by simpa using hunclaimed) fun _ => rfl) hidle hjobs htargets
    · cases h

end

/-- **What a step does**, for every step. -/
theorem effect_step {s s' : Fleet} {a : FleetAction} (h : s.step a = some s') : Effect s a s' := by
  cases a with
  | restart p =>
    simp only [Fleet.step, Fleet.restart] at h
    split at h
    · rename_i hp
      exact effect_move hp .starts h
    · cases h
  | recoverNext p now dbFails => exact effect_recoverNext h
  | crash p => exact effect_move rfl .ends h
  | claimSelect p id => exact effect_claimSelect h
  | claimCommit p now dbFails => exact effect_claimCommit h
  | findTarget p dbFails => exact effect_findTarget h
  | writePlanned p now dbFails => exact effect_writePlanned h
  | loadSource p dbFails => exact effect_loadSource h
  | markApplying p now dbFails => exact effect_markApplying h
  | startPlaybook p => exact effect_startPlaybook h
  | playbookDone p success =>
    simp only [Fleet.step, Fleet.playbookDone] at h
    split at h
    · rename_i hp
      exact effect_move hp .executed h
    · cases h
  | reconcile p decision now dbFails => exact effect_reconcile h
  | finishRun p changed code => exact effect_finishRun h
  | stepFails p code =>
    simp only [Fleet.step, Fleet.stepFails] at h
    split at h
    · rename_i hp
      split at h
      · exact effect_failRun hp h
      · cases h
    · cases h
  | writeResult p now dbFails => exact effect_writeResult h
  | windowsSelect p targetId id => exact effect_windowsSelect h
  | windowsCommit p now dbFails => exact effect_windowsCommit h
  | windowsAnswer p now dbFails => exact effect_windowsAnswer h
  | reportLoad p id succeeded => exact effect_reportLoad h
  | reportWrite p now dbFails => exact effect_reportWrite h
  | submit request newId now => exact effect_submit h
  | reconcileLoad p id => exact effect_reconcileLoad h
  | reconcileFind p => exact effect_reconcileFind h
  | reconcileCheck p => exact effect_reconcileCheck h
  | reconcileSubmit p newId now => exact effect_reconcileSubmit h
  | retry id now => exact effect_retry h
  | putTarget target =>
    obtain rfl := Option.some.inj h
    exact .target rfl
  | deleteTarget id actorRole now => exact effect_deleteTarget h

/-- **Where a row comes from**: it was there before the step, a process has written it in the
step, or it has been queued. -/
theorem row_of_step {s s' : Fleet} {a : FleetAction} {id : AnsibleJobId} {job : AnsibleJob}
    (h : s.step a = some s') (hrow : s'.jobs.get id = some job) :
    s.jobs.get id = some job ∨ job.status = .queued ∨ job.id = id ∧
      s.jobs.activeConflict job = false ∧ ∃ p path x, Writes p a (s.proc p) job path x := by
  -- a row of a table with one more write
  have hput : ∀ {written : AnsibleJob}, (s.jobs.put written).get id = some job →
      s.jobs.get id = some job ∨ id = written.id ∧ job = written := by
    intro written hwritten
    rw [JobTable.get_put] at hwritten
    split at hwritten
    · rename_i hid
      exact .inr ⟨hid, (Option.some.inj hwritten).symm⟩
    · exact .inl hwritten
  cases effect_step h with
  | move | miss | target => exact .inl hrow
  | write hwrites _ _ hconflict =>
    rcases hput hrow with hsame | ⟨rfl, rfl⟩
    · exact .inl hsame
    · exact .inr (.inr ⟨rfl, hconflict, _, _, _, hwrites⟩)
  | submit | reconciliation | requeue =>
    rcases hput hrow with hsame | ⟨-, rfl⟩
    · exact .inl hsame
    · exact .inr (.inl rfl)
  | delete _ _ hjobs _ =>
    rw [Fleet.jobs, hjobs, JobTable.get_retain, Option.filter_eq_some_iff] at hrow
    exact .inl hrow.1

end Lxcup.Queue
