import Lxcup.Ansible.Coordinator
import Lxcup.Core.Target
import Mathlib.Data.List.Sort

/-!
# The job table

The table `ansible_jobs` and the statements of `AnsibleJobRepository`, each as one atomic
step.  A row holds the job as its payload, and its status, target, idempotency key and
creation time once more as columns; every statement writes both together, so a row is the
job.  The table has `id` as its primary key, allows each idempotency key once for a target,
and has a partial unique index that lets at most one job of a target be `checking`,
`planned` or `applying`.  A statement that would violate one of these fails.

`update` writes a job by its id, whatever the row holds at that time.

## Main definitions

* `RepositoryError`, `JobTable` — the table; no row is under a key that is not its id.
* `JobTable.activeConflict` — the partial unique index.
* `JobTable.save`, `JobTable.update`, `JobTable.retry`, `JobTable.list`.
* `JobTable.claimable`, `JobTable.windowsClaimable` — the conditions of the two claim queries.

## Main results

* `JobTable.update_ok`, `JobTable.save_ok`, `JobTable.retry_ok` — what a statement that
  succeeds has seen and done.
* `JobTable.mem_list` — the listing is the table.
-/

namespace Lxcup.Persistence

open Lxcup.Lib Lxcup.Core Lxcup.Ansible

/-- Why a repository call fails. -/
inductive RepositoryError
  /-- The database refused or could not be reached; nothing was changed. -/
  | database
  /-- A stored value does not fit the field. -/
  | invalidValue (field : String)
  /-- The target has an active job. -/
  | targetBusy
  deriving DecidableEq, Repr, Inhabited

/-- The rows of `ansible_jobs`, each under its primary key. -/
structure JobTable where
  rows : Table AnsibleJobId AnsibleJob
  keyed : ∀ id job, rows.get id = some job → job.id = id

namespace JobTable

/-- No rows. -/
def empty : JobTable := ⟨∅, by simp⟩

/-- The row of an id. -/
def get (jobs : JobTable) (id : AnsibleJobId) : Option AnsibleJob := jobs.rows.get id

/-- Write a row, over the one with the same id. -/
def put (jobs : JobTable) (job : AnsibleJob) : JobTable where
  rows := jobs.rows.put job.id job
  keyed := by
    intro id other h
    rw [Table.get_put] at h
    split at h
    · rename_i heq
      rw [← Option.some.inj h, heq]
    · exact jobs.keyed id other h

/-- Keep the rows that satisfy `p`. -/
def retain (jobs : JobTable) (p : AnsibleJob → Bool) : JobTable where
  rows := jobs.rows.retain fun _ job => p job
  keyed := by
    intro id job h
    rw [Table.get_retain, Option.filter_eq_some_iff] at h
    exact jobs.keyed id job h.1

/-- Some row satisfies `p`. -/
def any (jobs : JobTable) (p : AnsibleJob → Bool) : Bool := jobs.rows.any fun _ job => p job

theorem get_id {jobs : JobTable} {id : AnsibleJobId} {job : AnsibleJob}
    (h : jobs.get id = some job) : job.id = id :=
  jobs.keyed id job h

@[simp] theorem get_empty (id : AnsibleJobId) : empty.get id = none := Table.get_empty id

theorem get_put (jobs : JobTable) (job : AnsibleJob) (id : AnsibleJobId) :
    (jobs.put job).get id = if id = job.id then some job else jobs.get id :=
  Table.get_put jobs.rows job.id id job

theorem get_put_ne (jobs : JobTable) (job : AnsibleJob) {id : AnsibleJobId} (h : id ≠ job.id) :
    (jobs.put job).get id = jobs.get id := by
  rw [get_put, if_neg h]

@[simp] theorem get_put_self (jobs : JobTable) (job : AnsibleJob) :
    (jobs.put job).get job.id = some job := by
  rw [get_put, if_pos rfl]

theorem get_retain (jobs : JobTable) (p : AnsibleJob → Bool) (id : AnsibleJobId) :
    (jobs.retain p).get id = (jobs.get id).filter p :=
  Table.get_retain jobs.rows (fun _ job => p job) id

theorem any_eq_true {jobs : JobTable} {p : AnsibleJob → Bool} :
    jobs.any p = true ↔ ∃ id job, jobs.get id = some job ∧ p job = true :=
  Table.any_eq_true

theorem any_eq_false {jobs : JobTable} {p : AnsibleJob → Bool} :
    jobs.any p = false ↔ ∀ id job, jobs.get id = some job → p job = false :=
  Table.any_eq_false

/-! ### Statements -/

/-- Writing the job would give its target a second active job. -/
def activeConflict (jobs : JobTable) (job : AnsibleJob) : Bool :=
  job.status.isActive && jobs.any fun other =>
    other.id ≠ job.id && other.target = job.target && other.status.isActive

/-- The foreign key of a job: a registered target has a row. -/
def targetMissing (targets : Table TargetId Target) : ResourceTarget → Bool
  | .target id => (targets.get id).isNone
  | _ => false

/-- `INSERT INTO ansible_jobs`. -/
def save (targets : Table TargetId Target) (jobs : JobTable) (job : AnsibleJob) :
    Except RepositoryError JobTable :=
  let keyTaken := jobs.any fun other =>
    other.target = job.target && other.idempotencyKey = job.idempotencyKey
  if (jobs.get job.id).isSome || keyTaken || targetMissing targets job.target
      || activeConflict jobs job then
    .error .database
  else .ok (jobs.put job)

/-- `UPDATE ansible_jobs .. WHERE id = ..`: no condition on the row that is overwritten, and
no error when there is none. -/
def update (jobs : JobTable) (job : AnsibleJob) : Except RepositoryError JobTable :=
  match jobs.get job.id with
  | none => .ok jobs
  | some _ => if activeConflict jobs job then .error .database else .ok (jobs.put job)

/-- `AnsibleJobRepository::retry`: the row is read and written under its lock. -/
def retry (jobs : JobTable) (id : AnsibleJobId) (now : Timestamp) :
    Except RepositoryError (AnsibleJob × JobTable) :=
  match jobs.get id with
  | none => .error (.invalidValue "ansible job")
  | some job =>
    if job.status ≠ .failed ∨ (job.operation = .updatePackages ∧ job.mode = .apply) then
      .error (.invalidValue "retryable ansible job status")
    else
      match job.transitionTo .queued now with
      | .error _ => .error (.invalidValue "retryable ansible job status")
      | .ok job' => .ok (job', jobs.put job')

/-- `SELECT payload FROM ansible_jobs ORDER BY created_at DESC`. -/
def list (jobs : JobTable) : List AnsibleJob :=
  jobs.rows.values.insertionSort fun a b => b.createdAt ≤ a.createdAt

/-- The candidate is the reconciliation of the job `id`: its mode says so and its key is
`'reconcile-job:' || id::text`. -/
def isReconciliationOf (candidate : AnsibleJob) (id : AnsibleJobId) : Bool :=
  candidate.mode = .reconcile && candidate.idempotencyKey = reconcileIdempotencyKey id

/-- No job of the target waits for its reconciliation, except one whose reconciliation the
candidate is. -/
def barrierOpen (jobs : JobTable) (candidate : AnsibleJob) : Bool :=
  !jobs.any fun unresolved =>
    unresolved.target = candidate.target && unresolved.status = .reconcileRequired
      && !isReconciliationOf candidate unresolved.id

/-- No job of the target is active. -/
def targetIdle (jobs : JobTable) (target : ResourceTarget) : Bool :=
  !jobs.any fun active => active.target = target && active.status.isActive

/-- The resource is a target with a row of kind `windowsserver`. -/
def isWindows (targets : Table TargetId Target) (target : ResourceTarget) : Bool :=
  match target with
  | .target id =>
    match targets.get id with
    | some row => row.kind = .windowsServer
    | none => false
  | _ => false

/-- The condition of the query of `claim_next_queued`. -/
def claimable (targets : Table TargetId Target) (jobs : JobTable) (candidate : AnsibleJob) :
    Bool :=
  candidate.status = .queued && !isWindows targets candidate.target
    && targetIdle jobs candidate.target && barrierOpen jobs candidate

/-- The operations a Windows agent carries out. -/
def isWindowsAgentOperation : AnsibleOperation → Bool
  | .healthCheck | .collectPackageInventory | .updatePackages | .updateAgent => true
  | _ => false

/-- The condition of the query of `claim_next_windows_agent_job`.  It does not look at jobs
that wait for their reconciliation. -/
def windowsClaimable (targets : Table TargetId Target) (jobs : JobTable) (targetId : TargetId)
    (candidate : AnsibleJob) : Bool :=
  candidate.target = .target targetId && isWindows targets candidate.target
    && candidate.status = .queued && isWindowsAgentOperation candidate.operation
    && targetIdle jobs candidate.target

/-! ### What the statements do -/

theorem update_ok {jobs jobs' : JobTable} {job : AnsibleJob} (h : jobs.update job = .ok jobs') :
    (jobs.get job.id = none ∧ jobs' = jobs) ∨
    (∃ row, jobs.get job.id = some row) ∧ activeConflict jobs job = false ∧
      jobs' = jobs.put job := by
  unfold update at h
  split at h
  · rename_i hnone
    exact .inl ⟨hnone, (Except.ok.inj h).symm⟩
  · rename_i row hrow
    split at h
    · cases h
    · rename_i hfree
      exact .inr ⟨⟨row, hrow⟩, by simpa using hfree, (Except.ok.inj h).symm⟩

theorem save_ok {targets : Table TargetId Target} {jobs jobs' : JobTable} {job : AnsibleJob}
    (h : save targets jobs job = .ok jobs') :
    jobs.get job.id = none ∧ activeConflict jobs job = false ∧ jobs' = jobs.put job := by
  unfold save at h
  dsimp only at h
  split at h
  · cases h
  · rename_i hfree
    simp only [Bool.or_eq_true, not_or, Bool.not_eq_true, Option.isSome_eq_false_iff,
      Option.isNone_iff_eq_none] at hfree
    exact ⟨hfree.1.1.1, hfree.2, (Except.ok.inj h).symm⟩

/-- No job of its target has the key of an inserted job. -/
theorem keyFree_of_save {targets : Table TargetId Target} {jobs jobs' : JobTable}
    {job : AnsibleJob} (h : save targets jobs job = .ok jobs') (id : AnsibleJobId)
    (other : AnsibleJob) (hother : jobs.get id = some other) :
    ¬ (other.target = job.target ∧ other.idempotencyKey = job.idempotencyKey) := by
  unfold save at h
  dsimp only at h
  split at h
  · cases h
  · rename_i hfree
    simp only [Bool.or_eq_true, not_or, Bool.not_eq_true] at hfree
    simpa using any_eq_false.mp hfree.1.1.2 id other hother

/-- An inserted job has a target that there is. -/
theorem targetMissing_of_save {targets : Table TargetId Target} {jobs jobs' : JobTable}
    {job : AnsibleJob} (h : save targets jobs job = .ok jobs') :
    targetMissing targets job.target = false := by
  unfold save at h
  dsimp only at h
  split at h
  · cases h
  · rename_i hfree
    simp only [Bool.or_eq_true, not_or, Bool.not_eq_true] at hfree
    exact hfree.1.2

theorem retry_ok {jobs jobs' : JobTable} {id : AnsibleJobId} {now : Timestamp} {job' : AnsibleJob}
    (h : jobs.retry id now = .ok (job', jobs')) :
    ∃ job, jobs.get id = some job ∧ job.status = .failed ∧
      job' = { job with status := .queued, updatedAt := now } ∧ jobs' = jobs.put job' := by
  unfold retry at h
  split at h
  · cases h
  · rename_i job hjob
    split at h
    · cases h
    · rename_i hretry
      split at h
      · cases h
      · rename_i next hnext
        obtain ⟨-, rfl⟩ := AnsibleJob.transitionTo_ok.mp hnext
        obtain ⟨rfl, rfl⟩ := Prod.mk.inj (Except.ok.inj h)
        exact ⟨job, hjob, by tauto, rfl, rfl⟩

theorem mem_list {jobs : JobTable} {job : AnsibleJob} :
    job ∈ jobs.list ↔ ∃ id, jobs.get id = some job := by
  rw [list, List.mem_insertionSort, Table.mem_values]
  rfl

/-- The listing has every job once. -/
theorem nodup_list (jobs : JobTable) : (jobs.list.map (·.id)).Nodup := by
  have hperm := (List.perm_insertionSort (fun a b : AnsibleJob => b.createdAt ≤ a.createdAt)
    jobs.rows.values).map (·.id)
  exact hperm.nodup_iff.mpr (Table.nodup_map_values jobs.keyed)

/-- The index refuses a write only when another job of the target is active. -/
theorem activeConflict_eq_false {jobs : JobTable} {job : AnsibleJob} :
    jobs.activeConflict job = false ↔ (job.status.isActive = true → ∀ id other,
      jobs.get id = some other → other.id ≠ job.id → other.target = job.target →
        other.status.isActive = false) := by
  simp only [activeConflict, Bool.and_eq_false_imp, any_eq_false, Bool.and_eq_true,
    decide_eq_true_eq, and_imp]

end JobTable

end Lxcup.Persistence
