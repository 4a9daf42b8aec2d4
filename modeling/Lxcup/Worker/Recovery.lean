import Lxcup.Server.WindowsWorkflows
import Lxcup.Worker.Execution

/-!
# Recovery at the start of a worker

A worker that starts goes through the whole job table and takes every unfinished job for
one that a worker before it left behind.  Jobs of Windows targets are never claimed by a
worker, but recovery does not ask whose they are: a job that a Windows agent is working
on is failed, or marked for reconciliation, and the report of the agent is ignored then.

## Main definitions

* `recoverInterruptedJobs` — the pass over the listing, up to the first statement that fails.
* `NeverClaimed` — no worker could have claimed the job.
* `WindowsJobsUntouched` — recovery leaves such jobs alone, and the reports for claimed ones
  are still applied.

## Main results

* `recoverListed_row`, `recoverInterruptedJobs_applying` — what recovery makes of a row.
* `neverClaimed_iff` — these are the jobs of Windows targets.
* `windowsJobsUntouched_iff` — recovery leaves them alone exactly when none of them is
  active.
* `claimed_windows_job_failed` — a job that an agent has claimed is failed by recovery.
-/

namespace Lxcup.Worker

open Lxcup.Lib Lxcup.Core Lxcup.Ansible Lxcup.Persistence Lxcup.Server

/-- The loop of `recover_interrupted_jobs`; it ends with the first update that fails. -/
def recoverListed (now : Timestamp) (fails : AnsibleJobId → Bool) :
    List AnsibleJob → JobTable → JobTable
  | [], jobs => jobs
  | job :: rest, jobs =>
    match recoverJob job now with
    | none => recoverListed now fails rest jobs
    | some job' =>
      if fails job.id then jobs
      else
        match jobs.update job' with
        | .error _ => jobs
        | .ok jobs' => recoverListed now fails rest jobs'

/-- `recover_interrupted_jobs`; `fails` says which updates the database does not carry out. -/
def recoverInterruptedJobs (jobs : JobTable) (now : Timestamp) (fails : AnsibleJobId → Bool) :
    JobTable :=
  recoverListed now fails jobs.list jobs

/-- `claim_next_queued` could never have claimed the job: while it was queued, its query would not
have selected it, whatever else the table held. -/
def NeverClaimed (targets : Table TargetId Target) (job : AnsibleJob) : Prop :=
  ∀ jobs, JobTable.claimable targets jobs { job with status := .queued } = false

/-- The jobs that a worker never claims are those of Windows targets. -/
theorem neverClaimed_iff {targets : Table TargetId Target} {job : AnsibleJob} :
    NeverClaimed targets job ↔ JobTable.isWindows targets job.target = true := by
  constructor
  · intro hnever
    -- from a table without other jobs the query selects everything but Windows targets
    have hempty : ∀ p, JobTable.any .empty p = false := fun _ => rfl
    have hnone := hnever .empty
    simpa [JobTable.claimable, JobTable.targetIdle, JobTable.barrierOpen, hempty] using hnone
  · intro hwindows jobs
    simp [JobTable.claimable, hwindows]

/-- Recovery changes no job that `claim_next_queued` could never have claimed, and the report of
an agent for such a job that it has claimed is applied afterwards. -/
def WindowsJobsUntouched (targets : Table TargetId Target) (jobs : JobTable) : Prop :=
  ∀ (now : Timestamp) (fails : AnsibleJobId → Bool) (id : AnsibleJobId) (job : AnsibleJob),
    jobs.get id = some job → NeverClaimed targets job →
    (recoverInterruptedJobs jobs now fails).get id = some job ∧
    ∀ (targetId : TargetId) (succeeded : Bool) (later : Timestamp),
      job.target = .target targetId → isWindowsAgentTarget targets targetId = true →
      job.status = claimedStatus job.mode →
      ∃ jobs' job', reportWorkflow targets (recoverInterruptedJobs jobs now fails) id succeeded
          later = .applied jobs' ∧
        jobs'.get id = some job' ∧ job'.status = reportStatus job.mode succeeded

/-- A job that is not in the rest of the listing, or not active, keeps its row. -/
theorem recoverListed_get {now : Timestamp} {fails : AnsibleJobId → Bool}
    {listed : List AnsibleJob} {jobs : JobTable} {id : AnsibleJobId}
    (h : ∀ job ∈ listed, job.id = id → job.status.isActive = false) :
    (recoverListed now fails listed jobs).get id = jobs.get id := by
  induction listed generalizing jobs with
  | nil => rfl
  | cons job rest ih =>
    have hrest := fun jobs => @ih jobs fun other hmem => h other (List.mem_cons_of_mem _ hmem)
    rw [recoverListed]
    split
    · exact hrest jobs
    · rename_i job' hjob'
      split
      · rfl
      · split
        · rfl
        · rename_i jobs' hupdate
          rw [hrest jobs']
          -- the row that was written belongs to an active job, so not to `id`
          have hactive : job.status.isActive = true := by
            rw [← Bool.not_eq_false, ← @recoverJob_eq_none job now, hjob']
            simp
          have hne : id ≠ job.id := by
            rintro rfl
            rw [h job List.mem_cons_self rfl] at hactive
            cases hactive
          obtain ⟨next, -, rfl⟩ := recoverJob_some hjob'
          rcases JobTable.update_ok hupdate with ⟨-, rfl⟩ | ⟨-, -, rfl⟩
          · rfl
          · exact jobs.get_put_ne _ hne

/-- A row after recovery is the row before it, or what recovery makes of a job of the listing. -/
theorem recoverListed_row {now : Timestamp} {fails : AnsibleJobId → Bool}
    {listed : List AnsibleJob} {jobs : JobTable} {id : AnsibleJobId} {row : AnsibleJob}
    (h : (recoverListed now fails listed jobs).get id = some row) :
    jobs.get id = some row ∨ ∃ job ∈ listed, job.id = id ∧ recoverJob job now = some row := by
  induction listed generalizing jobs with
  | nil => exact .inl h
  | cons job rest ih =>
    -- what the rest of the listing says
    have hrest : ∀ {jobs}, (recoverListed now fails rest jobs).get id = some row →
        jobs.get id = some row ∨ ∃ other ∈ job :: rest, other.id = id ∧
          recoverJob other now = some row := fun h =>
      (ih h).imp_right fun ⟨other, hmem, hother⟩ => ⟨other, List.mem_cons_of_mem _ hmem, hother⟩
    rw [recoverListed] at h
    split at h
    · exact hrest h
    · rename_i job' hjob'
      split at h
      · exact .inl h
      · split at h
        · exact .inl h
        · rename_i jobs' hupdate
          refine (hrest h).elim (fun hrow => ?_) .inr
          rcases JobTable.update_ok hupdate with ⟨-, rfl⟩ | ⟨-, -, rfl⟩
          · exact .inl hrow
          · rw [JobTable.get_put] at hrow
            split at hrow
            · rename_i hid
              obtain rfl := Option.some.inj hrow
              obtain ⟨next, -, hnext⟩ := recoverJob_some hjob'
              exact .inr ⟨job, List.mem_cons_self, by rw [hid, hnext], hjob'⟩
            · exact .inl hrow

/-- Recovery never fails a job that is being applied. -/
theorem recoverInterruptedJobs_applying {jobs : JobTable} {now : Timestamp}
    {fails : AnsibleJobId → Bool} {id : AnsibleJobId} {job row : AnsibleJob}
    (hjob : jobs.get id = some job) (happlying : job.status = .applying)
    (hrow : (recoverInterruptedJobs jobs now fails).get id = some row) : row.status ≠ .failed := by
  rcases recoverListed_row hrow with hsame | ⟨other, hmem, hid, hrecovered⟩
  · obtain rfl := Option.some.inj (hjob.symm.trans hsame)
    simp [happlying]
  · -- the job of the listing is the row
    obtain ⟨id', hother⟩ := JobTable.mem_list.mp hmem
    obtain rfl : id' = id := (JobTable.get_id hother).symm.trans hid
    obtain rfl := Option.some.inj (hjob.symm.trans hother)
    obtain ⟨next, hnext, rfl⟩ := recoverJob_some hrecovered
    rw [happlying] at hnext
    obtain rfl : AnsibleJobStatus.reconcileRequired = next := Option.some.inj hnext
    simp

/-- An update to a status that is not active cannot violate the index. -/
private theorem update_inactive {jobs : JobTable} {job : AnsibleJob} {error : RepositoryError}
    (h : job.status.isActive = false) : jobs.update job ≠ .error error := by
  unfold JobTable.update
  split
  · simp
  · simp [JobTable.activeConflict, h]

/-- Without failing updates, an active job of the listing is not active afterwards. -/
theorem recoverListed_inactive {now : Timestamp} {listed : List AnsibleJob} {jobs : JobTable}
    {id : AnsibleJobId} {row : AnsibleJob} (hrow : jobs.get id = some row)
    (hlisted : row.status.isActive = true →
      ∃ job ∈ listed, job.id = id ∧ job.status.isActive = true) :
    ∃ row', (recoverListed now (fun _ => false) listed jobs).get id = some row' ∧
      row'.status.isActive = false := by
  induction listed generalizing jobs row with
  | nil =>
    refine ⟨row, hrow, ?_⟩
    by_contra hactive
    obtain ⟨job, hmem, -⟩ := hlisted (by simpa using hactive)
    cases hmem
  | cons job rest ih =>
    rw [recoverListed]
    split
    · rename_i hnone
      refine ih hrow fun hactive => ?_
      obtain ⟨other, hmem, hid, hother⟩ := hlisted hactive
      rcases List.mem_cons.mp hmem with rfl | hmem
      · rw [recoverJob_eq_none.mp hnone] at hother
        cases hother
      · exact ⟨other, hmem, hid, hother⟩
    · rename_i job' hjob'
      rw [if_neg Bool.false_ne_true]
      obtain ⟨next, hnext, rfl⟩ := recoverJob_some hjob'
      have hinactive := recoveredStatus_inactive hnext
      split
      · rename_i hfails
        exact absurd hfails (update_inactive hinactive)
      · rename_i jobs' hupdate
        by_cases hid : id = job.id
        · -- the row of the job has just been written
          subst hid
          rcases JobTable.update_ok hupdate with ⟨hnone, -⟩ | ⟨-, -, rfl⟩
          · simp [hrow] at hnone
          · refine ih (jobs.get_put_self _) fun hactive => ?_
            rw [hinactive] at hactive
            cases hactive
        · have hsame : jobs'.get id = some row := by
            rcases JobTable.update_ok hupdate with ⟨-, rfl⟩ | ⟨-, -, rfl⟩
            · exact hrow
            · rw [← hrow]
              exact jobs.get_put_ne _ hid
          refine ih hsame fun hactive => ?_
          obtain ⟨other, hmem, hother, hactive'⟩ := hlisted hactive
          rcases List.mem_cons.mp hmem with rfl | hmem
          · exact absurd hother.symm hid
          · exact ⟨other, hmem, hother, hactive'⟩

/-- **What recovery leaves alone.**  Recovery changes no job that a worker could never have claimed,
and the reports for claimed ones are applied afterwards, if and only if no job of a Windows
target is being checked, planned or applied when the worker starts. -/
theorem windowsJobsUntouched_iff (targets : Table TargetId Target) (jobs : JobTable) :
    WindowsJobsUntouched targets jobs ↔
      ∀ id job, jobs.get id = some job → JobTable.isWindows targets job.target = true →
        job.status.isActive = false := by
  constructor
  · intro huntouched id job hjob hwindows
    by_contra hactive
    have hlisted : job ∈ jobs.list := JobTable.mem_list.mpr ⟨id, hjob⟩
    obtain ⟨row, hrow, hinactive⟩ := @recoverListed_inactive 0 _ _ _ _ hjob
      (fun h => ⟨job, hlisted, JobTable.get_id hjob, h⟩)
    have hsame := (huntouched 0 (fun _ => false) id job hjob (neverClaimed_iff.mpr hwindows)).1
    rw [recoverInterruptedJobs, hrow] at hsame
    rw [Option.some.inj hsame] at hinactive
    exact hactive hinactive
  · intro hidle now fails id job hjob hnever
    have hwindows := neverClaimed_iff.mp hnever
    have hsame : (recoverInterruptedJobs jobs now fails).get id = some job := by
      rw [recoverInterruptedJobs, recoverListed_get, hjob]
      intro other hmem hid
      obtain ⟨id', hother⟩ := JobTable.mem_list.mp hmem
      obtain rfl : id' = id := (JobTable.get_id hother).symm.trans hid
      obtain rfl := Option.some.inj (hjob.symm.trans hother)
      exact hidle id' job hjob hwindows
    refine ⟨hsame, fun targetId succeeded later htarget hagent hclaimed => ?_⟩
    obtain rfl := JobTable.get_id hjob
    exact reportWorkflow_claimed succeeded later hsame htarget hagent hclaimed

/-! ### A claimed job on a Windows target -/

/-- A Windows server that is managed by its agent. -/
def windowsServer (id : TargetId) : Target where
  id := id
  name := "win"
  kind := .windowsServer
  address := "10.0.0.6"
  transport := .agent
  sshUser := none
  credentialSecretRef := none
  sshKnownHostsSecretRef := none
  agentSecretRef := ⟨⟨12⟩⟩
  state := .managed
  createdAt := 0
  updatedAt := 0

/-- A health check of a target, as its agent has claimed it. -/
def claimedHealthCheck (id : AnsibleJobId) (targetId : TargetId) : AnsibleJob where
  id := id
  operation := .healthCheck
  playbook := "target/health-check.yml"
  playbookVersion := "1"
  target := .target targetId
  mode := .check
  parameters := .healthCheck
  secretRefs := []
  idempotencyKey := "nightly-check"
  status := .checking
  createdAt := 0
  updatedAt := 1

/-- The tables with one Windows target and the job its agent has claimed. -/
def claimedTables : Table TargetId Target × JobTable :=
  ((∅ : Table TargetId Target).put ⟨⟨7⟩⟩ (windowsServer ⟨⟨7⟩⟩),
    JobTable.empty.put (claimedHealthCheck ⟨⟨1⟩⟩ ⟨⟨7⟩⟩))

theorem claimed_windows_job_failed :
    reportWorkflow claimedTables.1 (recoverInterruptedJobs claimedTables.2 2 fun _ => false)
        ⟨⟨1⟩⟩ true 3 = .ignored ∧
      ¬ WindowsJobsUntouched claimedTables.1 claimedTables.2 := by
  refine ⟨rfl, fun huntouched => ?_⟩
  have hsame := (huntouched 2 (fun _ => false) ⟨⟨1⟩⟩ (claimedHealthCheck ⟨⟨1⟩⟩ ⟨⟨7⟩⟩) rfl
    (neverClaimed_iff.mpr rfl)).1
  exact absurd hsame (by decide)

end Lxcup.Worker
