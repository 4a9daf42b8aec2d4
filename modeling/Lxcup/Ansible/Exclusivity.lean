import Lxcup.Ansible.Coordinator

/-!
# One active job for each target

The coordinator keeps a lock for each target so that at most one job of the target is
being checked, planned or applied.  The lock is a map of its own: `transition` takes it
when a job goes to `checking`, and drops it whenever a job of the target finishes,
whoever holds it; a reconciliation takes it over when it is submitted.

The lock does its work as long as every job that becomes active holds it and only its
holder gives it up.  Three edges of the code do not see to that: a queued job may go to
`planned` without the lock, a queued or reconciled job that finishes drops the lock of
another job, and a reconciliation takes the lock over from a source that is active.
`KeepsLock` says that a call takes none of them.

## Main definitions

* `OneActiveJob` — at most one job of each target is active.
* `LockHeld` — every active job holds the lock of its target.
* `KeepsLock` — the call takes none of the three edges.

## Main results

* `oneActiveJob_of_keepsLock` — in every sequence of calls that keep the lock, at most
  one job of each target is active.
* `two_active_jobs` — without the condition two jobs of a target become active.
-/

namespace Lxcup.Ansible

open Lxcup.Lib Lxcup.Core AnsibleJobCoordinator

/-- At most one job of each target is being checked, planned or applied. -/
def OneActiveJob (c : AnsibleJobCoordinator) : Prop :=
  ∀ (id id' : AnsibleJobId) (job job' : AnsibleJob),
    c.jobs.get id = some job → c.jobs.get id' = some job' → job.target = job'.target →
    job.status.isActive = true → job'.status.isActive = true → id = id'

/-- Some job of the target is active. -/
def ActiveOn (c : AnsibleJobCoordinator) (target : ResourceTarget) : Prop :=
  ∃ job ∈ c.jobs.values, job.target = target ∧ job.status.isActive = true

instance (c : AnsibleJobCoordinator) (target : ResourceTarget) : Decidable (ActiveOn c target) :=
  inferInstanceAs (Decidable (∃ job ∈ c.jobs.values, _))

/-- The call takes none of the edges on which the lock of a target is not seen to:
a queued job goes to `planned` only with the lock, a job that is not active finishes only
while no job of its target is active, and a reconciliation is submitted only for a source
that is not active itself. -/
def KeepsLock (c : AnsibleJobCoordinator) : CoordinatorOp → Prop
  | .transition id next _ => ∀ job ∈ c.jobs.get id,
    (job.status = .queued → next = .planned → c.activeTargets.get job.target = some id) ∧
    (job.status.isActive = false → job.status.canTransitionTo next = true →
      next.isFinal = true → ¬ ActiveOn c job.target)
  | .submitReconciliation source _ _ => ∀ job ∈ c.jobs.get source.id,
    job.target = source.target → job.status.isActive = false
  | .submitPersistedReconciliation source _ _ => ¬ ActiveOn c source.target
  | _ => True

instance (c : AnsibleJobCoordinator) : (op : CoordinatorOp) → Decidable (KeepsLock c op)
  | .transition id _ _ => inferInstanceAs (Decidable (∀ job ∈ c.jobs.get id, _))
  | .submitReconciliation source _ _ =>
    inferInstanceAs (Decidable (∀ job ∈ c.jobs.get source.id, _))
  | .submitPersistedReconciliation source _ _ =>
    inferInstanceAs (Decidable (¬ ActiveOn c source.target))
  | .submit .. | .retry .. | .recordEvent .. | .removeTargetJobs .. => isTrue trivial

/-- Every active job holds the lock of its target. -/
def LockHeld (c : AnsibleJobCoordinator) : Prop :=
  ∀ (id : AnsibleJobId) (job : AnsibleJob), c.jobs.get id = some job →
    job.status.isActive = true → c.activeTargets.get job.target = some id

theorem LockHeld.oneActiveJob {c : AnsibleJobCoordinator} (h : LockHeld c) : OneActiveJob c := by
  intro id id' job job' hid hid' htarget hactive hactive'
  have hlock := h id job hid hactive
  rw [htarget, h id' job' hid' hactive'] at hlock
  exact (Option.some.inj hlock).symm

/-- A job that holds no lock and is put into the table leaves the locks right when the lock
of its target has not moved away from the others. -/
private theorem LockHeld.put {c c' : AnsibleJobCoordinator} (h : LockHeld c) {id : AnsibleJobId}
    {job : AnsibleJob} (hjobs : c'.jobs = c.jobs.put id job)
    (hself : job.status.isActive = true → c'.activeTargets.get job.target = some id)
    (hothers : ∀ id' job', id' ≠ id → c.jobs.get id' = some job' →
      job'.status.isActive = true →
      c'.activeTargets.get job'.target = c.activeTargets.get job'.target) :
    LockHeld c' := by
  intro id' job' hfound hactive
  rw [hjobs, Table.get_put] at hfound
  split at hfound
  case isTrue heq =>
    obtain rfl := Option.some.inj hfound
    rw [heq]
    exact hself hactive
  case isFalse hne =>
    rw [hothers id' job' hne hfound hactive]
    exact h id' job' hfound hactive

private theorem active_of_found {c : AnsibleJobCoordinator} {id : AnsibleJobId}
    {job : AnsibleJob} (hfound : c.jobs.get id = some job) (hactive : job.status.isActive = true) :
    ActiveOn c job.target :=
  ⟨job, Table.mem_values.mpr ⟨id, hfound⟩, rfl, hactive⟩

private theorem lock_eq_of_not_lockedByOther {c : AnsibleJobCoordinator}
    {target : ResourceTarget} {id id' : AnsibleJobId}
    (hfree : c.lockedByOther target id = false) (hlock : c.activeTargets.get target = some id') :
    id' = id := by
  simpa [lockedByOther, hlock] using hfree

/-- A reconciliation takes the lock over from nobody who is active. -/
private theorem lockHeld_reconcile {c c' : AnsibleJobCoordinator} (h : LockHeld c)
    {source : AnsibleJob} {newId : AnsibleJobId} {now : Timestamp} {op : CoordinatorOp}
    (hkeeps : KeepsLock c op)
    (hcall : (op = .submitReconciliation source newId now ∧
        c.lockedByOther source.target source.id = false) ∨
      op = .submitPersistedReconciliation source newId now)
    (hjobs : c'.jobs = c.jobs.put newId (reconciliationOf source newId now))
    (hlocks : c'.activeTargets = c.activeTargets.put source.target newId) : LockHeld c' := by
  refine h.put hjobs (fun hactive => ?_) fun id' job' _ hfound hactive => ?_
  · simp [reconciliationOf, AnsibleJobStatus.isActive] at hactive
  · rw [hlocks, Table.get_put, if_neg]
    intro htarget
    rcases hcall with ⟨rfl, hfree⟩ | rfl
    · -- the lock is the source's own, so the active job is the source
      have hid : id' = source.id :=
        lock_eq_of_not_lockedByOther hfree (htarget ▸ h id' job' hfound hactive)
      rw [hkeeps job' (hid ▸ hfound) htarget] at hactive
      cases hactive
    · exact hkeeps (htarget ▸ active_of_found hfound hactive)

/-- A move along the lifecycle keeps the lock with the active job of the target. -/
private theorem lockHeld_move {c c' : AnsibleJobCoordinator} (h : LockHeld c)
    {id : AnsibleJobId} {next : AnsibleJobStatus} {now : Timestamp} {job : AnsibleJob}
    (hfound : c.jobs.get id = some job)
    (hedge : job.status.canTransitionTo next = true)
    (hfree : next = .checking → c.lockedByOther job.target id = false)
    (hplan : job.status = .queued → next = .planned → c.activeTargets.get job.target = some id)
    (hfinish : job.status.isActive = false → next.isFinal = true → ¬ ActiveOn c job.target)
    (hjobs : c'.jobs = c.jobs.put id { job with status := next, updatedAt := now })
    (hlocks : c'.activeTargets = c.locksAfter job.target id next) : LockHeld c' := by
  refine h.put hjobs (fun hactive => ?_) fun id' job' hne hfound' hactive' => ?_
  · -- the job itself: it takes the lock, had it when it was active, or has it by condition
    rw [hlocks, locksAfter]
    have hown : next ≠ .checking → c.activeTargets.get job.target = some id := by
      intro hnext
      by_cases hwas : job.status.isActive = true
      · exact h id job hfound hwas
      · cases hs : job.status <;> cases next <;>
          simp_all [AnsibleJobStatus.isActive, AnsibleJobStatus.canTransitionTo]
    have hnotFinal : next.isFinal = false := by
      cases next <;> simp_all [AnsibleJobStatus.isActive, AnsibleJobStatus.isFinal]
    by_cases hnext : next = .checking
    · simp [hnext, AnsibleJobStatus.isFinal]
    · simpa [hnotFinal, hnext] using hown hnext
  · -- another active job of the table: its lock is not the one that changes
    have hlock' := h id' job' hfound' hactive'
    rw [hlocks, locksAfter]
    by_cases htarget : job'.target = job.target
    · rw [htarget] at hlock' ⊢
      have hnext : next ≠ .checking := by
        intro hnext
        exact hne (lock_eq_of_not_lockedByOther (hfree hnext) hlock')
      have hnotFinal : next.isFinal ≠ true := by
        intro hfinal
        by_cases hwas : job.status.isActive = true
        · rw [h id job hfound hwas] at hlock'
          exact hne (Option.some.inj hlock').symm
        · exact hfinish (by simpa using hwas) hfinal (htarget ▸ active_of_found hfound' hactive')
      simp [hnext, hnotFinal]
    · split <;> split <;> simp [Table.get_put, Table.get_remove, htarget]

/-- **One call.**  A call that keeps the lock leaves every active job with the lock of its
target. -/
theorem lockHeld_run {c : AnsibleJobCoordinator} (h : LockHeld c) {op : CoordinatorOp}
    (hkeeps : KeepsLock c op) : LockHeld (op.run c) := by
  cases CoordinatorOp.effect_run op c with
  | keep hjobs hlocks =>
    intro id job hfound hactive
    rw [hlocks]
    exact h id job (hjobs ▸ hfound) hactive
  | queue _ hjobs hlocks =>
    refine h.put hjobs (fun hactive => ?_) fun id' job' _ _ _ => by rw [hlocks]
    simp [AnsibleJob.queuedFor, AnsibleJobStatus.isActive] at hactive
  | reconcile hcall _ hjobs hlocks => exact lockHeld_reconcile h hkeeps hcall hjobs hlocks
  | @move _ id next now job _ hcall hfound hedge hfree hjobs hlocks =>
    rcases hcall with rfl | ⟨rfl, rfl⟩
    · obtain ⟨hplan, hfinish⟩ := hkeeps job hfound
      exact lockHeld_move h hfound hedge hfree hplan (fun hi hf => hfinish hi hedge hf)
        hjobs hlocks
    · exact lockHeld_move h hfound hedge hfree (fun _ hn => by cases hn)
        (fun _ hf => by cases hf) hjobs hlocks
  | remove hjobs hlocks =>
    intro id job hfound hactive
    rw [hjobs, Table.get_retain, Option.filter_eq_some_iff] at hfound
    rw [hlocks]
    exact h id job hfound.1 hactive

theorem lockHeld_default : LockHeld .default := by
  intro id job hfound
  simp [AnsibleJobCoordinator.default] at hfound

/-- **Every run.**  After every sequence of calls that keep the lock, at most one job of
each target is active. -/
theorem oneActiveJob_of_keepsLock (c : AnsibleJobCoordinator)
    (h : coordinatorMachine.Reach KeepsLock c) : OneActiveJob c := by
  refine LockHeld.oneActiveJob (h.invariant ?_ ?_)
  · rintro c rfl
    exact lockHeld_default
  · intro c op c' _ hinv hkeeps hstep
    obtain rfl := Option.some.inj hstep
    exact lockHeld_run hinv hkeeps

/-! ### Fixed sequences of calls -/

/-- A request for a health check of a managed target. -/
def healthCheckRequest (target : ResourceTarget) (key : String) : AnsibleJobRequest where
  operation := .healthCheck
  target := target
  lifecycle := .managed
  mode := .check
  parameters := .healthCheck
  secretRefs := []
  idempotencyKey := key
  confirmed := false
  actorRole := .operator

/-- Two health checks of one target are queued, `first` is moved to `checking` and `second`
to `next`. -/
def twoHealthChecks (next : AnsibleJobStatus) : List CoordinatorOp :=
  let target := ResourceTarget.target ⟨⟨7⟩⟩
  let first : AnsibleJobId := ⟨⟨1⟩⟩
  let second : AnsibleJobId := ⟨⟨2⟩⟩
  [.submit (healthCheckRequest target "first") first 0,
    .submit (healthCheckRequest target "second") second 0,
    .transition first .checking 1,
    .transition second next 2]

/-- The calls of `twoHealthChecks`, one after the other. -/
def afterHealthChecks (next : AnsibleJobStatus) : AnsibleJobCoordinator :=
  (twoHealthChecks next).foldl (fun c op => op.run c) .default

theorem oneActiveJob_health_checks : OneActiveJob (afterHealthChecks .checking) :=
  oneActiveJob_of_keepsLock _
    (.exec (.init rfl) (twoHealthChecks .checking) rfl)

theorem two_active_jobs :
    ¬ ∀ c, coordinatorMachine.Reach Machine.Any c → OneActiveJob c := by
  intro hall
  have hone := hall (afterHealthChecks .planned)
    (.exec (.init rfl) (twoHealthChecks .planned) rfl)
  have hboth : ∃ job ∈ (afterHealthChecks .planned).jobs.get ⟨⟨1⟩⟩,
      ∃ job' ∈ (afterHealthChecks .planned).jobs.get ⟨⟨2⟩⟩, job.target = job'.target ∧
        job.status = .checking ∧ job'.status = .planned := by
    decide +kernel
  obtain ⟨job, hjob, job', hjob', htarget, hs, hs'⟩ := hboth
  have hid := hone _ _ job job' hjob hjob' htarget (by rw [hs]; rfl) (by rw [hs']; rfl)
  exact absurd hid (by decide)

end Lxcup.Ansible
