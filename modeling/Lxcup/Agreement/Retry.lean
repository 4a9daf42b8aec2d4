import Lxcup.Ansible.Consistency
import Lxcup.Ansible.Exclusivity
import Lxcup.Persistence.JobTable

/-!
# Queueing a failed job again, in memory and in the database

`retry` is written twice: over the jobs and locks of the coordinator, and as a transaction on the
job table.  Both ask whether the job may be repeated.  The coordinator asks for the lock of the
target as well.  The transaction leaves that to the partial unique index of the table, but the
index has no entry for a queued job, so it refuses nothing here.

## Main definitions

* `Mirrors` — the coordinator and the table hold the same jobs.
* `Retryable` — the job has failed, and is not the application of package updates.
* `RetriesAgree` — both accept or both refuse, hold the same jobs afterwards, and refuse while
  another job of the target is active.

## Main results

* `retriesAgree_iff` — they agree if and only if a job that may be repeated finds the lock of its
  target free, and no other job of the target active.
* `retry_of_waiting_job` — with another job of the target under way, only the table accepts.
-/

namespace Lxcup.Agreement

open Lxcup.Lib Lxcup.Core Lxcup.Ansible Lxcup.Persistence

/-- The coordinator and the table hold the same jobs. -/
def Mirrors (c : AnsibleJobCoordinator) (jobs : JobTable) : Prop :=
  ∀ id, c.jobs.get id = jobs.get id

/-- A job that may be queued again: it has failed, and package updates are not applied twice. -/
def Retryable (job : AnsibleJob) : Prop :=
  job.status = .failed ∧ ¬ (job.operation = .updatePackages ∧ job.mode = .apply)

/-- A job of the target other than `id` is being checked, planned or applied. -/
def OtherActive (c : AnsibleJobCoordinator) (target : ResourceTarget) (id : AnsibleJobId) : Prop :=
  ∃ other job, other ≠ id ∧ c.jobs.get other = some job ∧ job.target = target ∧
    job.status.isActive = true

/-- Both versions of `retry` do the same with the job `id`. -/
structure RetriesAgree (c : AnsibleJobCoordinator) (jobs : JobTable) (id : AnsibleJobId)
    (now : Timestamp) : Prop where
  /-- One succeeds when the other does. -/
  together : (∃ answer, c.retry id now = .ok answer) ↔ ∃ answer, jobs.retry id now = .ok answer
  /-- They leave the same jobs. -/
  same : ∀ job c' job' jobs', c.retry id now = .ok (job, c') →
    jobs.retry id now = .ok (job', jobs') → job = job' ∧ Mirrors c' jobs'
  /-- Both refuse while another job of the target is active. -/
  busy : ∀ job, c.jobs.get id = some job → OtherActive c job.target id →
    (∀ answer, c.retry id now ≠ .ok answer) ∧ ∀ answer, jobs.retry id now ≠ .ok answer

/-! ### Each version -/

theorem not_retryable {job : AnsibleJob} :
    ¬ Retryable job ↔
      (job.status ≠ .failed ∨ (job.operation = .updatePackages ∧ job.mode = .apply)) := by
  rw [Retryable, not_and_or, not_not]

/-- The job `id`, queued again. -/
def requeued (job : AnsibleJob) (now : Timestamp) : AnsibleJob :=
  { job with status := .queued, updatedAt := now }

theorem transitionTo_of_retryable {job : AnsibleJob} (h : Retryable job) (now : Timestamp) :
    job.transitionTo .queued now = .ok (requeued job now) :=
  AnsibleJob.transitionTo_ok.mpr ⟨by rw [h.1]; rfl, rfl⟩

/-- The coordinator queues a job again that may be repeated and finds its lock free. -/
theorem coordinator_retry_iff {c : AnsibleJobCoordinator} {id : AnsibleJobId} {job : AnsibleJob}
    (hjob : c.jobs.get id = some job) (now : Timestamp) :
    (∃ answer, c.retry id now = .ok answer) ↔
      Retryable job ∧ c.lockedByOther job.target id = false := by
  unfold AnsibleJobCoordinator.retry
  rw [hjob]
  dsimp only
  by_cases hlock : c.lockedByOther job.target id = true
  · -- the lock is looked at before the status
    simp [hlock]
  · by_cases hretry : Retryable job
    · rw [if_neg hlock, if_neg (by rw [← not_retryable, not_not]; exact hretry),
        transitionTo_of_retryable hretry]
      simpa [hretry] using hlock
    · rw [if_neg hlock, if_pos (not_retryable.mp hretry)]
      simp [hretry]

/-- What the coordinator holds after it has queued a job again. -/
theorem coordinator_retry_ok {c c' : AnsibleJobCoordinator} {id : AnsibleJobId} {now : Timestamp}
    {job job' : AnsibleJob} (hjob : c.jobs.get id = some job)
    (h : c.retry id now = .ok (job', c')) :
    job' = requeued job now ∧ c'.jobs = c.jobs.put id (requeued job now) := by
  have hretry := (coordinator_retry_iff hjob now).mp ⟨_, h⟩
  unfold AnsibleJobCoordinator.retry at h
  rw [hjob] at h
  dsimp only at h
  rw [if_neg (by simp [hretry.2]),
    if_neg (by rw [← not_retryable, not_not]; exact hretry.1),
    transitionTo_of_retryable hretry.1] at h
  obtain ⟨rfl, rfl⟩ := Prod.mk.inj (Except.ok.inj h)
  exact ⟨rfl, rfl⟩

/-- The table queues every job again that may be repeated. -/
theorem table_retry_iff {jobs : JobTable} {id : AnsibleJobId} {job : AnsibleJob}
    (hjob : jobs.get id = some job) (now : Timestamp) :
    (∃ answer, jobs.retry id now = .ok answer) ↔ Retryable job := by
  unfold JobTable.retry
  rw [hjob]
  dsimp only
  by_cases hretry : Retryable job
  · rw [if_neg (by rw [← not_retryable, not_not]; exact hretry), transitionTo_of_retryable hretry]
    simp [hretry]
  · rw [if_pos (not_retryable.mp hretry)]
    simp [hretry]

theorem coordinator_retry_none {c : AnsibleJobCoordinator} {id : AnsibleJobId}
    (hnone : c.jobs.get id = none) (now : Timestamp) : c.retry id now = .error .notFound := by
  rw [AnsibleJobCoordinator.retry, hnone]

theorem table_retry_none {jobs : JobTable} {id : AnsibleJobId} (hnone : jobs.get id = none)
    (now : Timestamp) : jobs.retry id now = .error (.invalidValue "ansible job") := by
  rw [JobTable.retry, hnone]

/-- When both succeed, they leave the same jobs. -/
theorem mirrors_retry {c c' : AnsibleJobCoordinator} {jobs jobs' : JobTable} {id : AnsibleJobId}
    {now : Timestamp} {job job' : AnsibleJob} (hsame : Mirrors c jobs)
    (hmemory : c.retry id now = .ok (job, c')) (htable : jobs.retry id now = .ok (job', jobs')) :
    job = job' ∧ Mirrors c' jobs' := by
  obtain ⟨row, hrow, -, hjob', hjobs'⟩ := JobTable.retry_ok htable
  obtain ⟨hjob, hc'⟩ := coordinator_retry_ok ((hsame id).trans hrow) hmemory
  have hid : (requeued row now).id = id := by
    rw [← JobTable.get_id hrow]
    rfl
  refine ⟨hjob.trans hjob'.symm, fun other => ?_⟩
  rw [hc', hjobs', hjob', JobTable.get_put, Table.get_put, hsame other, ← hid]
  rfl

/-! ### Coordinators and tables that hold the same jobs -/

/-- The calls that submit, move and repeat jobs. -/
def PlainCall (_ : AnsibleJobCoordinator) : CoordinatorOp → Prop
  | .submit .. | .transition .. | .retry .. => True
  | _ => False

instance (c : AnsibleJobCoordinator) : (op : CoordinatorOp) → Decidable (PlainCall c op)
  | .submit .. | .transition .. | .retry .. => isTrue trivial
  | .submitReconciliation .. | .submitPersistedReconciliation .. | .recordEvent ..
  | .removeTargetJobs .. => isFalse id

/-- A table with the jobs of a coordinator that gave every job an id of its own. -/
def mirrorOf (c : AnsibleJobCoordinator) (h : coordinatorMachine.Reach Admissible c) : JobTable :=
  ⟨c.jobs, (wellKept_of_admissible h).keyed⟩

theorem mirrors_mirrorOf {c : AnsibleJobCoordinator} (h : coordinatorMachine.Reach Admissible c) :
    Mirrors c (mirrorOf c h) := fun _ => rfl

/-! ### Agreement -/

/-- **When the two versions agree.**  Over the same jobs, both versions of `retry` accept the same
jobs, leave the same jobs and refuse while the target is busy, if and only if a job that may be
repeated finds the lock of its target free and no other job of its target active. -/
theorem retriesAgree_iff {c : AnsibleJobCoordinator} {jobs : JobTable} (hsame : Mirrors c jobs)
    (id : AnsibleJobId) (now : Timestamp) :
    RetriesAgree c jobs id now ↔ ∀ job, c.jobs.get id = some job → Retryable job →
      c.lockedByOther job.target id = false ∧ ¬ OtherActive c job.target id := by
  constructor
  · intro hagree job hjob hretry
    have htable := (table_retry_iff ((hsame id).symm.trans hjob) now).mpr hretry
    constructor
    · exact ((coordinator_retry_iff hjob now).mp (hagree.together.mpr htable)).2
    · intro hactive
      -- the table has no entry to refuse the retry by
      obtain ⟨answer, hanswer⟩ := htable
      exact (hagree.busy job hjob hactive).2 answer hanswer
  · intro hfree
    cases hjob : c.jobs.get id with
    | none =>
      have hmemory := coordinator_retry_none hjob now
      have htable := table_retry_none ((hsame id).symm.trans hjob) now
      exact
        { together := by simp [hmemory, htable]
          same := fun _ _ _ _ h => by simp [hmemory] at h
          busy := fun _ h => by simp [hjob] at h }
    | some job =>
      have hmemory := coordinator_retry_iff hjob now
      have htable := table_retry_iff ((hsame id).symm.trans hjob) now
      have hfree' := hfree job hjob
      exact
        { together := by
            rw [hmemory, htable]
            exact ⟨fun h => h.1, fun h => ⟨h, (hfree' h).1⟩⟩
          same := fun _ _ _ _ => mirrors_retry hsame
          busy := by
            intro other hother hactive
            obtain rfl := Option.some.inj (hjob.symm.trans hother)
            have hrefused : ¬ Retryable job := fun hretry => (hfree' hretry).2 hactive
            exact ⟨fun answer h => hrefused (hmemory.mp ⟨answer, h⟩).1,
              fun answer h => hrefused (htable.mp ⟨answer, h⟩)⟩ }

/-! ### A job that waits while another is checked -/

/-- Two health checks of one target: the second has failed before the first is checked. -/
def failedBehindChecking : List CoordinatorOp :=
  let target := ResourceTarget.target ⟨⟨7⟩⟩
  let first : AnsibleJobId := ⟨⟨1⟩⟩
  let second : AnsibleJobId := ⟨⟨2⟩⟩
  [.submit (healthCheckRequest target "first") first 0,
    .submit (healthCheckRequest target "second") second 0,
    .transition second .checking 1,
    .transition second .failed 2,
    .transition first .checking 3]

/-- The coordinator after calls. -/
def afterCalls (calls : List CoordinatorOp) : AnsibleJobCoordinator :=
  calls.foldl (fun c op => op.run c) .default

theorem reach_failedBehindChecking :
    coordinatorMachine.Reach Admissible (afterCalls failedBehindChecking) :=
  .exec (.init rfl) failedBehindChecking rfl

/-- The second has failed, and the first has not begun. -/
def failedBehindQueued : List CoordinatorOp := failedBehindChecking.take 4

theorem reach_failedBehindQueued :
    coordinatorMachine.Reach Admissible (afterCalls failedBehindQueued) :=
  .exec (.init rfl) failedBehindQueued rfl

theorem retriesAgree_failed_job :
    let c := afterCalls failedBehindQueued
    RetriesAgree c (mirrorOf c reach_failedBehindQueued) ⟨⟨2⟩⟩ 4 ∧
      ∃ answer, c.retry ⟨⟨2⟩⟩ 4 = .ok answer := by
  refine ⟨(retriesAgree_iff (mirrors_mirrorOf _) ⟨⟨2⟩⟩ 4).mpr fun job hjob hretry => ⟨rfl, ?_⟩,
    _, rfl⟩
  have hinactive : ∀ other ∈ (afterCalls failedBehindQueued).jobs.values,
      other.status.isActive = false := by
    decide +kernel
  rintro ⟨otherId, other, -, hother, -, hactive⟩
  rw [hinactive other (Table.mem_values.mpr ⟨otherId, hother⟩)] at hactive
  cases hactive

theorem retry_of_waiting_job :
    ¬ ∀ (c : AnsibleJobCoordinator) (jobs : JobTable), coordinatorMachine.Reach PlainCall c →
      (∀ id job, jobs.get id = some job → jobs.activeConflict job = false) → Mirrors c jobs →
      ∀ id now, RetriesAgree c jobs id now := by
  intro hall
  let c := afterCalls failedBehindChecking
  let jobs := mirrorOf c reach_failedBehindChecking
  have hindex : ∀ id job, jobs.get id = some job → jobs.activeConflict job = false := by
    intro id job hjob
    have hvalues : ∀ job ∈ c.jobs.values,
        (job.status.isActive && c.jobs.any fun _ other =>
          other.id ≠ job.id && other.target = job.target && other.status.isActive) = false := by
      decide +kernel
    exact hvalues job (Table.mem_values.mpr ⟨id, hjob⟩)
  have hagree := hall c jobs (.exec (.init rfl) failedBehindChecking rfl) hindex
    (mirrors_mirrorOf _) ⟨⟨2⟩⟩ 4
  have hfailed : ∃ job ∈ c.jobs.get ⟨⟨2⟩⟩, (job.status = .failed ∧ job.operation = .healthCheck) ∧
      c.lockedByOther job.target ⟨⟨2⟩⟩ = true := by
    decide +kernel
  obtain ⟨job, hjob, ⟨hstatus, hoperation⟩, hlock⟩ := hfailed
  have hretry : Retryable job := ⟨hstatus, by simp [hoperation]⟩
  -- the table queues the job again, the coordinator finds the lock of the target held
  have hrow : jobs.get ⟨⟨2⟩⟩ = some job := hjob
  have htable := (table_retry_iff hrow 4).mpr hretry
  have hfree := ((coordinator_retry_iff hjob 4).mp (hagree.together.mpr htable)).2
  rw [hlock] at hfree
  cases hfree

end Lxcup.Agreement
