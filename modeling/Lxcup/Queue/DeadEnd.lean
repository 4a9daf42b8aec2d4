import Lxcup.Queue.Steps

/-!
# Jobs that wait for their reconciliation

A job in `reconcile_required` blocks its target: nothing else is claimed there, nothing new is
submitted and the target cannot be deleted, until the job is reconciled.  Which jobs get
there is decided by the worker, its recovery and the reports of Windows agents, which of
them may be reconciled by a list of operations.  The two agree on every operation but
`configure_target`: it can be applied, has no playbook, so that every application fails,
and is not on the list.  Whether a reconciliation that may be asked for can also be carried out
is the matter of `WayOut`.

## Main definitions

* `Reconcilable` — what the program relies on in every job it stores or holds.
* `NeverConfigures` — no `configure_target` job is marked as applying.

## Main results

* `reconcilable_step` — one step keeps every job reconcilable.
* `allReconcilable_of_neverConfigures` — every run.
* `Reconcilable.canBeReconciled` — then a job that waits for its reconciliation may have one.
-/

namespace Lxcup.Queue

open Lxcup.Lib Lxcup.Core Lxcup.Ansible Lxcup.Persistence Lxcup.Server Lxcup.Worker

/-! ### What holds of every job -/

/-- A job that changes its target, or has tried to, can be reconciled; a job that may come to
do so is of such an operation or of `configure_target`. -/
structure Reconcilable (job : AnsibleJob) : Prop where
  applied : job.status = .applying ∨ job.status = .reconcileRequired →
    job.mode = .apply ∧ job.operation.canReconcileApply = true
  applies : job.mode = .apply →
    job.operation.canReconcileApply = true ∨ job.operation = .configureTarget

/-- A job of the operations that a Windows agent carries out. -/
def Proc.agentOperation : Proc → Prop
  | .windowsClaiming job => JobTable.isWindowsAgentOperation job.operation = true
  | _ => True

/-- Every job stored or held is reconcilable. -/
structure AllReconcilable (s : Fleet) : Prop where
  rows : ∀ id job, s.jobs.get id = some job → Reconcilable job
  copies : ∀ p, ∀ job ∈ (s.proc p).copies, Reconcilable job
  agents : ∀ p, (s.proc p).agentOperation

/-- The step marks no `configure_target` job as applying. -/
def NeverConfigures (s : Fleet) : FleetAction → Prop
  | .markApplying p _ _ =>
    match s.proc p with
    | .running job _ _ => job.operation = .configureTarget → job.mode ≠ .apply
    | _ => True
  | _ => True

instance (s : Fleet) (a : FleetAction) : Decidable (NeverConfigures s a) := by
  unfold NeverConfigures
  split
  · split <;> infer_instance
  · infer_instance

/-! ### Steps of a job -/

namespace Reconcilable

variable {job : AnsibleJob} {now : Timestamp}

/-- A status that says nothing about an application. -/
theorem moved_of_ne {next : AnsibleJobStatus} (h : Reconcilable job) (happ : next ≠ .applying)
    (hrec : next ≠ .reconcileRequired) : Reconcilable (moved job next now) where
  applied hstatus := by
    rcases hstatus with hstatus | hstatus
    · exact absurd hstatus happ
    · exact absurd hstatus hrec
  applies := h.applies

/-- An application of an operation on the list. -/
theorem moved_of_apply {next : AnsibleJobStatus} (h : Reconcilable job) (hmode : job.mode = .apply)
    (hop : job.operation.canReconcileApply = true) : Reconcilable (moved job next now) where
  applied _ := ⟨hmode, hop⟩
  applies := h.applies

/-- Nothing is lost where the job was applying already. -/
theorem moved_of_applying {next : AnsibleJobStatus} (h : Reconcilable job)
    (hstatus : job.status = .applying) : Reconcilable (moved job next now) :=
  h.moved_of_apply (h.applied (.inl hstatus)).1 (h.applied (.inl hstatus)).2

/-- Recovery takes only applying jobs to `reconcile_required`. -/
theorem moved_recovered {next : AnsibleJobStatus} (h : Reconcilable job)
    (hnext : recoveredStatus job.status = some next) : Reconcilable (moved job next now) := by
  cases hstatus : job.status <;> simp only [recoveredStatus, hstatus, Option.some.injEq,
    reduceCtorEq] at hnext
  case checking | planned => exact h.moved_of_ne (by simp [← hnext]) (by simp [← hnext])
  case applying => exact h.moved_of_applying hstatus

/-- The final status of a run is `reconcile_required` only for an applying job. -/
theorem moved_final (h : Reconcilable job) (succeeded : Bool) :
    Reconcilable (moved job (finalStatus job succeeded) now) := by
  by_cases hstatus : job.status = .applying
  · exact h.moved_of_applying hstatus
  · cases succeeded <;> exact h.moved_of_ne (by simp [finalStatus, hstatus])
      (by simp [finalStatus, hstatus])

/-- A claim of a Windows agent marks applications of its own operations only. -/
theorem claimed {job' : AnsibleJob} (h : Reconcilable job)
    (hop : JobTable.isWindowsAgentOperation job.operation = true)
    (hpath : job.transitionsTo (claimPath job.mode) now = .ok job') : Reconcilable job' := by
  obtain ⟨-, rfl⟩ := claimPath_ok hpath
  by_cases hmode : job.mode = .apply
  · rcases h.applies hmode with hlisted | hconfigure
    · exact h.moved_of_apply hmode hlisted
    · rw [hconfigure] at hop
      exact absurd hop (by decide)
  · have hchecking : claimedStatus job.mode = .checking := if_neg hmode
    rw [hchecking]
    exact h.moved_of_ne (by decide) (by decide)

/-- A result gives the status it names; where that is `reconcile_required` the job was
applying. -/
theorem result {job' : AnsibleJob} {status : AnsibleJobStatus} (h : Reconcilable job)
    (hstatus : status ≠ .applying)
    (hpath : job.transitionsTo (resultPath job.mode status) now = .ok job') :
    Reconcilable job' := by
  obtain ⟨hchain, rfl⟩ := resultPath_ok hpath
  by_cases hrec : status = .reconcileRequired
  · subst hrec
    have hedge : job.status.canTransitionTo .reconcileRequired = true := by
      simpa [AnsibleJob.LifecyclePath, resultPath] using hchain
    refine h.moved_of_applying ?_
    cases hjob : job.status <;> simp [hjob, AnsibleJobStatus.canTransitionTo] at hedge ⊢
  · exact h.moved_of_ne hstatus hrec

end Reconcilable

/-- No report says that a job is applying. -/
private theorem reportStatus_ne_applying (mode : ExecutionMode) (succeeded : Bool) :
    reportStatus mode succeeded ≠ .applying := by
  unfold reportStatus
  split
  · decide
  · split <;> decide

/-- An accepted application is of an operation on the list, or of `configure_target`. -/
theorem reconcilable_queuedFor {request : AnsibleJobRequest} (haccepts : AnsibleJob.Accepts request)
    (id : AnsibleJobId) (now : Timestamp) : Reconcilable (.queuedFor request id now) where
  applied hstatus := by simp [AnsibleJob.queuedFor] at hstatus
  applies hmode := by
    have happly : request.mode = .apply := hmode
    have hsupports := haccepts.mode
    rw [happly] at hsupports
    change request.operation.canReconcileApply = true ∨ request.operation = .configureTarget
    revert hsupports
    cases request.operation <;> decide

theorem reconcilable_reconciliationOf (source : AnsibleJob) (id : AnsibleJobId) (now : Timestamp) :
    Reconcilable (AnsibleJobCoordinator.reconciliationOf source id now) where
  applied hstatus := by simp [AnsibleJobCoordinator.reconciliationOf] at hstatus
  applies hmode := by simp [AnsibleJobCoordinator.reconciliationOf] at hmode

/-! ### Steps of the fleet -/

section

variable {s s' : Fleet} {p : ProcId} {a : FleetAction}

/-- What a process holds after a change that leaves the table as it is. -/
private theorem moves_reconcilable {before after : Proc} (h : AllReconcilable s)
    (hok : NeverConfigures s a) (hp : s.proc p = before) (hmoves : Moves s p a before after) :
    (∀ job ∈ after.copies, Reconcilable job) ∧ after.agentOperation := by
  have hcopies := h.copies p
  rw [hp] at hcopies
  cases hmoves
  case starts =>
    refine ⟨fun job hjob => ?_, trivial⟩
    obtain ⟨id, hrow⟩ := JobTable.mem_list.mp hjob
    exact h.rows id job hrow
  case windowsSelects job targetId hrow hclaimable _ =>
    refine ⟨by simpa [Proc.copies] using h.rows _ _ hrow, ?_⟩
    simp only [JobTable.windowsClaimable, Bool.and_eq_true] at hclaimable
    exact hclaimable.1.2
  case selects hrow _ _ => exact ⟨by simpa [Proc.copies] using h.rows _ _ hrow, trivial⟩
  case reports hrow _ => exact ⟨by simpa [Proc.copies] using h.rows _ _ hrow, trivial⟩
  case asks hrow _ => exact ⟨by simpa [Proc.copies] using h.rows _ _ hrow, trivial⟩
  case loads job source stored target dbFails _ _ hrow _ =>
    have hjob := hcopies job (by simp [Proc.copies])
    exact ⟨by simpa [Proc.copies, Phase.source] using ⟨hjob, h.rows _ _ hrow⟩, trivial⟩
  case planFails job stored target now code =>
    have hjob := hcopies job (by simp [Proc.copies])
    refine ⟨?_, trivial⟩
    simpa [Proc.copies, Phase.source] using hjob.moved_of_ne (by decide) (by decide)
  case markFails job stored target source now dbFails code hmode _ =>
    have hjob := hcopies job (by simp [Proc.copies])
    refine ⟨?_, trivial⟩
    simp only [NeverConfigures, hp] at hok
    have hlisted := (hjob.applies hmode).resolve_right fun hconfigure => hok hconfigure hmode
    simpa [Proc.copies, Phase.source] using hjob.moved_of_apply hmode hlisted
  -- the other changes give copies up, or leave them as they are
  case ends | recovered | releases | drops => exact ⟨by simp [Proc.copies], trivial⟩
  case skips => exact ⟨fun job hjob => hcopies job (List.mem_cons_of_mem _ hjob), trivial⟩
  case fails | reconciles =>
    exact ⟨by simpa [Proc.copies, Phase.source] using hcopies _ (.head _), trivial⟩
  all_goals exact ⟨hcopies, trivial⟩

/-- What is written, and what the process holds then. -/
private theorem writes_reconcilable {before after : Proc} {job : AnsibleJob}
    {path : List AnsibleJobStatus} (h : AllReconcilable s) (hok : NeverConfigures s a)
    (hp : s.proc p = before) (hwrites : Writes p a before job path after) :
    Reconcilable job ∧ (∀ copy ∈ after.copies, Reconcilable copy) ∧ after.agentOperation := by
  have hcopies := h.copies p
  have hagent := h.agents p
  rw [hp] at hcopies hagent
  cases hwrites
  case recovers job rest next now hnext =>
    have hjob := hcopies job (by simp [Proc.copies])
    refine ⟨hjob.moved_recovered hnext, fun copy hcopy => hcopies copy ?_, trivial⟩
    exact List.mem_cons_of_mem _ hcopy
  case claims job now hedge =>
    have hjob : Reconcilable (moved job .checking now) :=
      (hcopies job (by simp [Proc.copies])).moved_of_ne (by decide) (by decide)
    exact ⟨hjob, by simpa [Proc.copies, Phase.source] using hjob, trivial⟩
  case plans job stored target now =>
    have hjob : Reconcilable (moved job .planned now) :=
      (hcopies job (by simp [Proc.copies])).moved_of_ne (by decide) (by decide)
    exact ⟨hjob, by simpa [Proc.copies, Phase.source] using hjob, trivial⟩
  case marks job stored target source now hmode =>
    have hjob := hcopies job (by simp [Proc.copies])
    simp only [NeverConfigures, hp] at hok
    have hlisted := (hjob.applies hmode).resolve_right fun hconfigure => hok hconfigure hmode
    refine ⟨hjob.moved_of_apply hmode hlisted, fun copy hcopy => ?_, trivial⟩
    rcases List.mem_cons.mp hcopy with rfl | hsource
    · exact hjob.moved_of_apply hmode hlisted
    · exact hcopies copy (List.mem_cons_of_mem _ hsource)
  case resolves job source stored decision now =>
    have hsource := hcopies source (by simp [Proc.copies, Phase.source])
    refine ⟨hsource.moved_of_ne ?_ ?_, ?_, trivial⟩
    · cases decision <;> decide
    · cases decision <;> decide
    · simpa [Proc.copies, Phase.source] using hcopies job (by simp [Proc.copies])
  case finishes job stored result now =>
    have hjob := hcopies job (by simp [Proc.copies])
    exact ⟨hjob.moved_final _, by simp [Proc.copies], trivial⟩
  case windowsClaims job now hpath =>
    have hjob := (hcopies job (by simp [Proc.copies])).claimed hagent hpath
    exact ⟨hjob, by simpa [Proc.copies] using hjob, trivial⟩
  case refuses job now hpath =>
    have hjob := hcopies job (by simp [Proc.copies])
    exact ⟨hjob.result (by decide) hpath, by simp [Proc.copies], trivial⟩
  case reports job succeeded now hpath =>
    have hjob := hcopies job (by simp [Proc.copies])
    exact ⟨hjob.result (reportStatus_ne_applying _ _) hpath, by simp [Proc.copies], trivial⟩

/-- Writing a reconcilable job keeps the rows reconcilable. -/
private theorem rows_put {jobs : JobTable} {job : AnsibleJob}
    (h : ∀ id row, jobs.get id = some row → Reconcilable row) (hjob : Reconcilable job) :
    ∀ id row, (jobs.put job).get id = some row → Reconcilable row := by
  intro id row hrow
  rw [JobTable.get_put] at hrow
  split at hrow
  · exact Option.some.inj hrow ▸ hjob
  · exact h id row hrow

/-- A process that now holds `x`. -/
private theorem setProc_reconcilable {x : Proc} (h : AllReconcilable s)
    (hx : (∀ job ∈ x.copies, Reconcilable job) ∧ x.agentOperation) :
    AllReconcilable (s.setProc p x) where
  rows := h.rows
  copies q := by
    rw [Fleet.proc_setProc]
    split
    · exact hx.1
    · exact h.copies q
  agents q := by
    rw [Fleet.proc_setProc]
    split
    · exact hx.2
    · exact h.agents q

/-- **One step** keeps every job stored or held reconcilable. -/
theorem reconcilable_step (h : AllReconcilable s) (hok : NeverConfigures s a)
    (hs : s.step a = some s') : AllReconcilable s' := by
  cases effect_step hs with
  | move hmoves => exact setProc_reconcilable h (moves_reconcilable h hok rfl hmoves)
  | miss hwrites _ => exact setProc_reconcilable h (writes_reconcilable h hok rfl hwrites).2
  | write hwrites _ _ _ =>
    obtain ⟨hjob, hx⟩ := writes_reconcilable h hok rfl hwrites
    exact setProc_reconcilable ⟨rows_put h.rows hjob, h.copies, h.agents⟩ hx
  | submit _ haccepts _ _ =>
    exact ⟨rows_put h.rows (reconcilable_queuedFor haccepts _ _), h.copies, h.agents⟩
  | reconciliation _ _ _ _ _ =>
    refine setProc_reconcilable ⟨rows_put h.rows ?_, h.copies, h.agents⟩ ⟨by simp [Proc.copies],
      trivial⟩
    exact reconcilable_reconciliationOf ..
  | @requeue id job now _ hfound _ _ =>
    have hjob : Reconcilable (moved job .queued now) :=
      (h.rows id job hfound).moved_of_ne (by decide) (by decide)
    exact ⟨rows_put h.rows hjob, h.copies, h.agents⟩
  | target => exact ⟨h.rows, h.copies, h.agents⟩
  | delete _ _ hjobs _ =>
    refine ⟨fun id job hrow => ?_, h.copies, h.agents⟩
    change JobTable.get _ _ = _ at hrow
    rw [Fleet.jobs, hjobs, JobTable.get_retain, Option.filter_eq_some_iff] at hrow
    exact h.rows id job hrow.1

end

/-- **Every run.**  Where no `configure_target` job is marked as applying, every job is
reconcilable in every state of every run. -/
theorem allReconcilable_of_neverConfigures {s : Fleet} (h : fleetMachine.Reach NeverConfigures s) :
    AllReconcilable s := by
  refine h.invariant ?_ fun s a s' _ hinv hok hs => reconcilable_step hinv hok hs
  rintro s rfl
  exact ⟨by simp [Fleet.initial, Fleet.jobs], by simp [Fleet.initial, Fleet.proc, Proc.copies],
    fun p => trivial⟩

/-- A reconciliation of a job that waits for one can be asked for. -/
theorem Reconcilable.canBeReconciled {job : AnsibleJob} (h : Reconcilable job)
    (hstatus : job.status = .reconcileRequired) : job.canBeReconciled = true := by
  obtain ⟨hmode, hop⟩ := h.applied (.inr hstatus)
  simp [AnsibleJob.canBeReconciled, hstatus, hmode, hop]

end Lxcup.Queue
