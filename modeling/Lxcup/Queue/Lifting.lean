import Lxcup.Queue.WayOut
import Mathlib.Data.Finset.Dedup
import Mathlib.Data.Finset.Max

/-!
# Lifting the barrier

A job that waits for its reconciliation is got rid of by a run that takes the reconciliation to
its end: everything that is under way stops, a worker starts and recovers what was active, the
reconciliation is asked for unless it is queued already, the jobs before it in the queue are
claimed and fail, and the worker claims it, runs its playbook and writes that the job has
succeeded.  `WayOut` is what this run needs; no other job of the queue can get in between for
good, since a job that is claimed leaves the queue.

## Main definitions

* `Fleet.CanBeLifted` — some run takes the reconciliation of a job to its end.
* `Blocked` — a job that waits while nothing on its target is in the way of its reconciliation.

## Main results

* `leads_blocked` — a restart leads there.
* `leads_queued` — then the reconciliation gets into the queue,
* `leads_oldest` — and to its front,
* `canBeLifted_of_oldest` — and is carried out.
* `canBeLifted_of_leavesWayOut` — every job that waits, in every state of every run.
* `configure_target_dead_end` — without the condition not even the request is accepted.
-/

namespace Lxcup.Queue

open Lxcup.Lib Lxcup.Core Lxcup.Ansible Lxcup.Persistence Lxcup.Server Lxcup.Worker
open Lxcup.Submission (findActiveTargetJob isActiveJobStatus)

/-- The run can go on until a worker that carries the reconciliation of the job out writes that
the job, which has waited until then, has succeeded. -/
def Fleet.CanBeLifted (s : Fleet) (id : AnsibleJobId) : Prop :=
  ∃ before after p now, fleetMachine.Leads s before ∧
    before.step (.reconcile p .completed now false) = some after ∧
    (before.jobs.get id).map (·.status) = some .reconcileRequired ∧
    (after.jobs.get id).map (·.status) = some .succeeded

section

variable {s t : Fleet} {x : Proc}

/-- One step of the fleet, and what follows it. -/
private theorem leads_step {u : Fleet} {a : FleetAction} (hs : s.step a = some t)
    (h : fleetMachine.Leads t u) : fleetMachine.Leads s u :=
  @Machine.Leads.head _ _ fleetMachine s t u a hs h

/-! ### One process -/

/-- All processes but process `0` are down. -/
def OnlyProc (s : Fleet) (x : Proc) : Prop := ∀ q, s.proc q = if q = 0 then x else .down

namespace OnlyProc

theorem self (h : OnlyProc s x) : s.proc 0 = x := by
  rw [h 0, if_pos rfl]

theorem setProc (h : OnlyProc s x) (y : Proc) (ht : ∀ q, t.proc q = s.proc q) :
    OnlyProc (t.setProc 0 y) y := by
  intro q
  rw [Fleet.proc_setProc]
  split
  · rfl
  · rename_i hq
    rw [ht, h q, if_neg hq]

/-- No other process has locked a row. -/
theorem lockedByOther (h : OnlyProc s x) (id : AnsibleJobId) : s.lockedByOther 0 id = false := by
  refine Table.any_eq_false.mpr fun q proc hq => ?_
  have hproc : s.proc q = proc := by simp [Fleet.proc, hq]
  by_cases h0 : q = 0
  · simp [h0]
  · rw [h q, if_neg h0] at hproc
    simp [← hproc, Proc.locks]

/-- A worker that looks for work has locked no row either. -/
theorem unlocked (h : OnlyProc s .idle) (id : AnsibleJobId) :
    (s.procs.any fun _ proc => proc.locks id) = false := by
  refine Table.any_eq_false.mpr fun q proc hq => ?_
  have hproc : s.proc q = proc := by simp [Fleet.proc, hq]
  rw [h q] at hproc
  split at hproc <;> simp [← hproc, Proc.locks]

/-- The process gets on without a write. -/
theorem move (h : OnlyProc s x) {a : FleetAction} {y : Proc}
    (hs : s.step a = some (s.setProc 0 y)) :
    ∃ t, fleetMachine.Leads s t ∧ OnlyProc t y ∧ t.db = s.db :=
  ⟨_, leads_step hs .refl, h.setProc y fun _ => rfl, rfl⟩

/-- An update of a row that is there goes through. -/
theorem update (h : OnlyProc s x) {y failed : Proc} {written row : AnsibleJob}
    (hrow : s.jobs.get written.id = some row) (hfree : s.jobs.activeConflict written = false) :
    s.update 0 written false y failed
      = some (((s.setJobs (s.jobs.put written)).record written.id written.status).setProc 0 y) := by
  simp [Fleet.update, h.lockedByOther, Fleet.write, hrow, hfree]

/-- The process gets on with the write of a row that is there. -/
theorem write (h : OnlyProc s x) {a : FleetAction} {y failed : Proc} {written row : AnsibleJob}
    (hs : s.step a = s.update 0 written false y failed)
    (hrow : s.jobs.get written.id = some row) (hfree : s.jobs.activeConflict written = false) :
    ∃ t, fleetMachine.Leads s t ∧ OnlyProc t y ∧ t.db.targets = s.db.targets ∧
      (∀ id, t.jobs.get id = if id = written.id then some written else s.jobs.get id) ∧
      ∀ id, id ≠ written.id → t.history.get id = s.history.get id := by
  refine ⟨_, leads_step (hs.trans (h.update hrow hfree)) .refl, h.setProc y fun _ => rfl, rfl,
    fun _ => JobTable.get_put _ _ _, fun id hid => ?_⟩
  rw [Fleet.history_setProc, Fleet.history_record, if_neg hid, Fleet.history_setJobs]

end OnlyProc

/-! ### Restarting everything -/

/-- Every process can stop. -/
private theorem leads_down (s : Fleet) : ∃ t, fleetMachine.Leads s t ∧ t.db = s.db ∧
    t.history = s.history ∧ ∀ q, t.proc q = .down := by
  have hstop : ∀ ps : List ProcId, ∃ t, fleetMachine.Leads s t ∧ t.db = s.db ∧
      t.history = s.history ∧ ∀ q, t.proc q = if q ∈ ps then .down else s.proc q := by
    intro ps
    induction ps with
    | nil => exact ⟨s, .refl, rfl, rfl, by simp⟩
    | cons p ps ih =>
      obtain ⟨t, hleads, hdb, hhistory, hprocs⟩ := ih
      refine ⟨t.setProc p .down, hleads.tail ⟨.crash p, rfl⟩, hdb, hhistory, fun q => ?_⟩
      rw [Fleet.proc_setProc, hprocs]
      by_cases hq : q = p <;> simp [hq]
  obtain ⟨t, hleads, hdb, hhistory, hprocs⟩ := hstop s.procs.keys
  refine ⟨t, hleads, hdb, hhistory, fun q => ?_⟩
  rw [hprocs]
  split
  · rfl
  · rename_i hq
    have hnone : s.procs.get q = none := by
      by_contra hsome
      obtain ⟨proc, hproc⟩ := Option.ne_none_iff_exists'.mp hsome
      exact hq (Table.mem_keys.mpr ⟨proc, hproc⟩)
    simp [Fleet.proc, hnone]

/-- What recovery leaves of a row of its listing. -/
def recovered (row : AnsibleJob) : AnsibleJob := (recoverJob row 0).getD row

/-- No job is active after its recovery. -/
theorem recovered_inactive (row : AnsibleJob) : (recovered row).status.isActive = false := by
  unfold recovered
  cases hjob : recoverJob row 0 with
  | none => exact recoverJob_eq_none.mp hjob
  | some job' =>
    obtain ⟨next, hnext, rfl⟩ := recoverJob_some hjob
    exact recoveredStatus_inactive hnext

/-- Recovery moves a job, and only an active one. -/
theorem recovered_eq (row : AnsibleJob) : recovered row = row ∧ row.status.isActive = false ∨
    ∃ next, recoveredStatus row.status = some next ∧ recovered row = moved row next 0 := by
  unfold recovered
  cases hjob : recoverJob row 0 with
  | none => exact .inl ⟨rfl, recoverJob_eq_none.mp hjob⟩
  | some job' =>
    obtain ⟨next, hnext, rfl⟩ := recoverJob_some hjob
    exact .inr ⟨next, hnext, rfl⟩

@[simp] theorem recovered_id (row : AnsibleJob) : (recovered row).id = row.id := by
  rcases recovered_eq row with ⟨hsame, -⟩ | ⟨next, -, hmoved⟩
  · rw [hsame]
  · rw [hmoved, moved_id]

@[simp] theorem recovered_target (row : AnsibleJob) : (recovered row).target = row.target := by
  rcases recovered_eq row with ⟨hsame, -⟩ | ⟨next, -, hmoved⟩
  · rw [hsame]
  · rw [hmoved, moved_target]

@[simp] theorem recovered_idempotencyKey (row : AnsibleJob) :
    (recovered row).idempotencyKey = row.idempotencyKey := by
  rcases recovered_eq row with ⟨hsame, -⟩ | ⟨next, -, hmoved⟩
  · rw [hsame]
  · rw [hmoved]
    rfl

/-- Recovery of the next job of the listing. -/
private theorem leads_recoveredNext {job : AnsibleJob} {rest : List AnsibleJob}
    (honly : OnlyProc s (.recovering (job :: rest))) (hrow : s.jobs.get job.id = some job) :
    ∃ t, fleetMachine.Leads s t ∧ OnlyProc t (.recovering rest) ∧ t.db.targets = s.db.targets ∧
      (∀ id, t.jobs.get id = if id = job.id then some (recovered job) else s.jobs.get id) ∧
      ∀ id, id ≠ job.id → t.history.get id = s.history.get id := by
  cases hrecover : recoverJob job 0 with
  | none =>
    have hsame : recovered job = job := by simp [recovered, hrecover]
    have hstep : s.step (.recoverNext 0 0 false) = some (s.setProc 0 (.recovering rest)) := by
      simp [Fleet.step, Fleet.recoverNext, honly.self, hrecover]
    refine ⟨_, leads_step hstep .refl, honly.setProc _ fun _ => rfl, rfl, fun id => ?_,
      fun _ _ => rfl⟩
    rw [hsame, Fleet.jobs_setProc]
    split
    · rename_i hid
      rw [hid, hrow]
    · rfl
  | some job' =>
    have hsame : recovered job = job' := by simp [recovered, hrecover]
    have hid : job'.id = job.id := by rw [← hsame, recovered_id]
    have hstep : s.step (.recoverNext 0 0 false)
        = s.update 0 job' false (.recovering rest) .down := by
      simp only [Fleet.step, Fleet.recoverNext, honly.self, hrecover]
    have hfree : s.jobs.activeConflict job' = false := by
      rw [JobTable.activeConflict_eq_false, ← hsame, recovered_inactive]
      intro hactive
      cases hactive
    obtain ⟨t, hleads, ht, htargets, hget, hhistory⟩ := honly.write hstep (hid ▸ hrow) hfree
    rw [hid] at hget hhistory
    exact ⟨t, hleads, ht, htargets, hsame ▸ hget, hhistory⟩

/-- A worker that starts goes through its listing. -/
private theorem leads_recovered (pending : List AnsibleJob) :
    ∀ s : Fleet, OnlyProc s (.recovering pending) →
      (∀ job ∈ pending, s.jobs.get job.id = some job) → (pending.map (·.id)).Nodup →
      ∃ t, fleetMachine.Leads s t ∧ OnlyProc t .idle ∧ t.db.targets = s.db.targets ∧
        (∀ id, t.jobs.get id
          = (s.jobs.get id).map fun row => if row ∈ pending then recovered row else row) ∧
        ∀ id, s.jobs.get id = none → t.history.get id = s.history.get id := by
  induction pending with
  | nil =>
    intro s honly _ _
    have hstep : s.step (.recoverNext 0 0 false) = some (s.setProc 0 .idle) := by
      simp [Fleet.step, Fleet.recoverNext, honly.self]
    exact ⟨_, leads_step hstep .refl, honly.setProc _ fun _ => rfl, rfl, fun id => by simp,
      fun _ _ => rfl⟩
  | cons job rest ih =>
    intro s honly hrows hnodup
    rw [List.map_cons, List.nodup_cons] at hnodup
    have hrest : ∀ other ∈ rest, other.id ≠ job.id := fun other hother hid =>
      hnodup.1 (hid ▸ List.mem_map_of_mem hother)
    have hjob : s.jobs.get job.id = some job := hrows job (.head _)
    obtain ⟨t, hnext, ht, htargets, hget, hhistory⟩ := leads_recoveredNext honly hjob
    obtain ⟨u, hleads, hu, htargets', hget', hhistory'⟩ := ih t ht (fun other hother => by
      rw [hget, if_neg (hrest other hother)]
      exact hrows other (.tail _ hother)) hnodup.2
    refine ⟨u, hnext.trans hleads, hu, htargets'.trans htargets, fun id => ?_, fun id hnone => ?_⟩
    · rw [hget', hget]
      by_cases hid : id = job.id
      · have hnot : recovered job ∉ rest := fun hmem => hrest _ hmem (recovered_id job)
        simp [hid, hjob, hnot]
      · rw [if_neg hid]
        refine Option.map_congr fun row hrow => ?_
        have hne : row ≠ job := by
          rintro rfl
          exact hid (JobTable.get_id hrow).symm
        simp [hne]
    · have hid : id ≠ job.id := by
        rintro rfl
        rw [hjob] at hnone
        cases hnone
      rw [hhistory' id (by rw [hget, if_neg hid, hnone]), hhistory id hid]

/-! ### A blocked target -/

/-- The job waits, and nothing on its target is in the way of its reconciliation. -/
structure Blocked (s : Fleet) (job : AnsibleJob) : Prop where
  found : s.jobs.get job.id = some job
  can : job.canBeReconciled = true
  served : serves s.db.targets job = true
  calm : ∀ id row, s.jobs.get id = some row → row.status.isActive = false
  alone : ∀ id other, s.jobs.get id = some other → id ≠ job.id → other.target = job.target →
    other.status ≠ .reconcileRequired
  keyed : ∀ id other, s.jobs.get id = some other → other.target = job.target →
    other.idempotencyKey = reconcileIdempotencyKey job.id →
      (∃ created status time, other
        = moved (AnsibleJobCoordinator.reconciliationOf job id created) status time) ∧
      (other.status = .queued ∨ other.status = .failed)

/-- A job that waits after the recovery was applying, or has waited before. -/
private theorem recovered_waits {row : AnsibleJob}
    (h : (recovered row).status = .reconcileRequired) :
    row.status = .applying ∨ row.status = .reconcileRequired := by
  rcases recovered_eq row with ⟨hsame, -⟩ | ⟨next, hnext, hmoved⟩
  · exact .inr (hsame ▸ h)
  · rw [hmoved, moved_status] at h
    subst h
    cases hstatus : row.status <;> simp [recoveredStatus, hstatus] at hnext ⊢

/-- What waits after the recovery has changed its target, or tried to, and is no
reconciliation. -/
private theorem mode_of_recovered (ho : Orderly s) {id : AnsibleJobId} {row : AnsibleJob}
    (hrow : s.jobs.get id = some row) (hwaits : (recovered row).status = .reconcileRequired) :
    row.mode = .apply :=
  ((ho.reconcilable.rows id row hrow).applied (recovered_waits hwaits)).1

/-- After the recovery the reconciliation of a job that waits is queued or has failed. -/
private theorem keyed_of_recovered (ho : Orderly s) (hw : WayOut s) {job other : AnsibleJob}
    {id : AnsibleJobId} (hrow : s.jobs.get job.id = some job)
    (hwaits : job.status = .reconcileRequired) (hother : s.jobs.get id = some other)
    (htarget : other.target = job.target)
    (hkey : other.idempotencyKey = reconcileIdempotencyKey job.id) :
    (∃ created status time, recovered other
      = moved (AnsibleJobCoordinator.reconciliationOf job id created) status time) ∧
    ((recovered other).status = .queued ∨ (recovered other).status = .failed) := by
  obtain ⟨⟨created, status, time, hform⟩, hstatus⟩ :=
    hw.keyed job.id id job other hrow hother htarget hkey
  have hsucceeded : other.status ≠ .succeeded := by
    rcases hstatus with hstatus | hstatus | hstatus
    · exact hstatus.2
    · rw [hwaits] at hstatus
      cases hstatus
    · rw [hwaits] at hstatus
      cases hstatus
  have hunaborted := hw.unaborted id other hother
  have hnot : (recovered other).status ≠ .reconcileRequired := by
    intro hrequired
    have hmode := mode_of_recovered ho hother hrequired
    rw [hform] at hmode
    cases hmode
  rcases recovered_eq other with ⟨hsame, hinactive⟩ | ⟨next, hnext, hmoved⟩
  · rw [hsame] at hnot ⊢
    refine ⟨⟨created, status, time, hform⟩, ?_⟩
    cases hother : other.status <;> simp_all [AnsibleJobStatus.isActive]
  · rw [hmoved] at hnot ⊢
    refine ⟨⟨created, next, 0, by rw [hform]; rfl⟩, .inr ?_⟩
    cases hother : other.status <;> simp_all [recoveredStatus]

/-- A job that waits is blocked by nothing but itself, once everything active is recovered. -/
private theorem blocked_of_recovered (ho : Orderly s) (hw : WayOut s) {job : AnsibleJob}
    (hrow : s.jobs.get job.id = some job) (hwaits : job.status = .reconcileRequired)
    (hrows : ∀ id, t.jobs.get id = (s.jobs.get id).map recovered)
    (htargets : t.db.targets = s.db.targets) : Blocked t job := by
  have hback : ∀ {id other'}, t.jobs.get id = some other' →
      ∃ other, s.jobs.get id = some other ∧ recovered other = other' := by
    intro id other' hother'
    rw [hrows] at hother'
    exact Option.map_eq_some_iff.mp hother'
  refine ⟨?_, (ho.reconcilable.rows _ _ hrow).canBeReconciled hwaits, ?_, ?_, ?_, ?_⟩
  · rw [hrows, hrow, Option.map_some]
    rcases recovered_eq job with ⟨hsame, -⟩ | ⟨next, hnext, -⟩
    · rw [hsame]
    · rw [hwaits] at hnext
      cases hnext
  · rw [htargets]
    exact hw.served _ _ hrow hwaits
  · intro id other' hother'
    obtain ⟨other, -, rfl⟩ := hback hother'
    exact recovered_inactive other
  · intro id other' hother' hne htarget hstatus
    obtain ⟨other, hother, rfl⟩ := hback hother'
    rw [recovered_target] at htarget
    have hblocks : other.status.isActive = true ∨ other.status = .reconcileRequired :=
      (recovered_waits hstatus).imp_left fun happlying => by rw [happlying]; rfl
    have hof := hw.alone job.id id job other hrow hother hne.symm hwaits htarget hblocks
    simp [JobTable.isReconciliationOf, mode_of_recovered ho hother hstatus] at hof
  · intro id other' hother' htarget hkey
    obtain ⟨other, hother, rfl⟩ := hback hother'
    rw [recovered_target] at htarget
    rw [recovered_idempotencyKey] at hkey
    exact keyed_of_recovered ho hw hrow hwaits hother htarget hkey

/-- **A restart** leads to a state in which nothing is in the way. -/
theorem leads_blocked (ho : Orderly s) (hw : WayOut s) {job : AnsibleJob}
    (hrow : s.jobs.get job.id = some job) (hwaits : job.status = .reconcileRequired) :
    ∃ t, fleetMachine.Leads s t ∧ OnlyProc t .idle ∧ Blocked t job ∧
      ∀ id, s.history.get id = none → t.history.get id = none ∧ t.jobs.get id = none := by
  obtain ⟨t, hleads, hdb, hhistory, hdown⟩ := leads_down s
  have hjobs : t.jobs = s.jobs := by
    unfold Fleet.jobs
    rw [hdb]
  have hstart : t.step (.restart 0) = some (t.setProc 0 (.recovering t.jobs.list)) := by
    simp [Fleet.step, Fleet.restart, hdown]
  have honly : OnlyProc (t.setProc 0 (.recovering t.jobs.list)) (.recovering t.jobs.list) := by
    intro q
    rw [Fleet.proc_setProc, hdown]
  obtain ⟨u, hrest, hu, htargets, hget, hnew⟩ := leads_recovered _ _ honly (fun job hjob => by
    obtain ⟨id, hid⟩ := JobTable.mem_list.mp hjob
    rwa [JobTable.get_id hid]) t.jobs.nodup_list
  have hrows : ∀ id, u.jobs.get id = (s.jobs.get id).map recovered := by
    intro id
    rw [hget, Fleet.jobs_setProc, hjobs]
    refine Option.map_congr fun row hmem => ?_
    rw [if_pos (JobTable.mem_list.mpr ⟨id, hmem⟩)]
  have hsame : u.db.targets = s.db.targets := htargets.trans (congrArg Database.targets hdb)
  refine ⟨u, hleads.trans (leads_step hstart hrest), hu,
    blocked_of_recovered ho hw hrow hwaits hrows hsame, fun id hnone => ?_⟩
  have habsent : s.jobs.get id = none := by
    by_contra hsome
    obtain ⟨row, hrow⟩ := Option.ne_none_iff_exists'.mp hsome
    obtain ⟨past, hpast⟩ := ho.recorded.recorded id row hrow
    rw [hnone] at hpast
    cases hpast
  refine ⟨?_, by rw [hrows, habsent]; rfl⟩
  rw [hnew id (by rw [Fleet.jobs_setProc, hjobs, habsent]), Fleet.history_setProc, hhistory, hnone]

/-- Another row that is queued or has failed is not in the way. -/
private theorem Blocked.put {job : AnsibleJob} (h : Blocked s job) (written : AnsibleJob)
    (hne : written.id ≠ job.id) (hstatus : written.status = .queued ∨ written.status = .failed)
    (hform : written.target = job.target →
      written.idempotencyKey = reconcileIdempotencyKey job.id →
        ∃ created status time, written
          = moved (AnsibleJobCoordinator.reconciliationOf job written.id created) status time)
    (hget : ∀ id, t.jobs.get id = if id = written.id then some written else s.jobs.get id)
    (htargets : t.db.targets = s.db.targets) : Blocked t job where
  found := by rw [hget, if_neg hne.symm, h.found]
  can := h.can
  served := by
    rw [htargets]
    exact h.served
  calm id row hrow := by
    rw [hget] at hrow
    split at hrow
    · obtain rfl := Option.some.inj hrow
      rcases hstatus with hstatus | hstatus <;> rw [hstatus] <;> rfl
    · exact h.calm id row hrow
  alone id row hrow := by
    rw [hget] at hrow
    split at hrow
    · obtain rfl := Option.some.inj hrow
      intro _ _ hwaits
      rcases hstatus with hstatus | hstatus <;> rw [hstatus] at hwaits <;> cases hwaits
    · exact h.alone id row hrow
  keyed id row hrow htarget hkey := by
    rw [hget] at hrow
    split at hrow
    · rename_i hid
      obtain rfl := Option.some.inj hrow
      subst hid
      exact ⟨hform htarget hkey, hstatus⟩
    · exact h.keyed id row hrow htarget hkey

/-! ### Into the queue -/

/-- The reconciliation of a job as it waits in the queue. -/
def queuedReconciliation (job : AnsibleJob) (id : AnsibleJobId) (created time : Timestamp) :
    AnsibleJob :=
  moved (AnsibleJobCoordinator.reconciliationOf job id created) .queued time

variable {job : AnsibleJob}

theorem Blocked.waits (h : Blocked s job) :
    job.status = .reconcileRequired ∧ job.mode = .apply ∧
      job.operation.canReconcileApply = true := by
  have hcan := h.can
  simp only [AnsibleJob.canBeReconciled, Bool.and_eq_true, decide_eq_true_eq] at hcan
  exact ⟨hcan.1.1, hcan.1.2, hcan.2⟩

/-- The request finds no other job that is active or waits. -/
private theorem Blocked.findActiveTargetJob (h : Blocked s job) :
    findActiveTargetJob s.jobs.list job.target (some job.id) = none := by
  have hnone : (s.jobs.list.filter fun other => other.target = job.target
      && some other.id ≠ some job.id && isActiveJobStatus other.status) = [] := by
    refine List.filter_eq_nil_iff.mpr fun other hother => ?_
    obtain ⟨id, hrow⟩ := JobTable.mem_list.mp hother
    obtain rfl := JobTable.get_id hrow
    simp only [Bool.and_eq_true, decide_eq_true_eq, ne_eq, Option.some.injEq, not_and,
      Bool.not_eq_true]
    rintro ⟨htarget, hne⟩
    simp [isActiveJobStatus, h.calm _ _ hrow, h.alone _ _ hrow hne htarget]
  unfold Submission.findActiveTargetJob
  rw [hnone]

/-- A target that serves a job is there. -/
theorem serves_eq_true {targets : Table TargetId Target} : serves targets job = true ↔
    ∃ id target, job.target = .target id ∧ targets.get id = some target ∧
      target.kind ≠ .windowsServer ∧ checkTarget job target = .ok () := by
  unfold serves
  constructor
  · intro h
    split at h
    · rename_i id htarget
      split at h
      · rename_i target hget
        simp only [Bool.and_eq_true, decide_eq_true_eq] at h
        refine ⟨id, target, htarget, hget, h.1, ?_⟩
        cases hcheck : checkTarget job target with
        | ok => rfl
        | error =>
          rw [hcheck] at h
          cases h.2
      · cases h
    · cases h
  · rintro ⟨id, target, htarget, hget, hkind, hcheck⟩
    simp [htarget, hget, hkind, hcheck, Except.isOk, Except.toBool]

/-- The reconciliation of a blocked job can be inserted. -/
private theorem save_queuedReconciliation (h : Blocked s job) {newId : AnsibleJobId}
    (hfree : s.keyTaken job.target (reconcileIdempotencyKey job.id) = false)
    (habsent : s.jobs.get newId = none) :
    JobTable.save s.db.targets s.jobs (queuedReconciliation job newId 0 0)
      = .ok (s.jobs.put (queuedReconciliation job newId 0 0)) := by
  obtain ⟨id, target, htarget, hget, -, -⟩ := serves_eq_true.mp h.served
  have hthere : JobTable.targetMissing s.db.targets job.target = false := by
    simp [htarget, JobTable.targetMissing, hget]
  have hinactive : s.jobs.activeConflict (queuedReconciliation job newId 0 0) = false := by
    rw [JobTable.activeConflict_eq_false]
    intro hactive
    cases hactive
  have hnone : s.jobs.get (queuedReconciliation job newId 0 0).id = none := habsent
  have htargets : JobTable.targetMissing s.db.targets (queuedReconciliation job newId 0 0).target
      = false := hthere
  have hkeys : (s.jobs.any fun other =>
      other.target = (queuedReconciliation job newId 0 0).target
        && other.idempotencyKey = (queuedReconciliation job newId 0 0).idempotencyKey) = false :=
    hfree
  simp only [JobTable.save, hnone, hkeys, htargets, hinactive]
  rfl

/-- A reconciliation that has failed is tried again. -/
private theorem leads_retried (h : Blocked s job) (honly : OnlyProc s .idle) {id : AnsibleJobId}
    {created time : Timestamp} (hne : id ≠ job.id)
    (hrow : s.jobs.get id
      = some (moved (AnsibleJobCoordinator.reconciliationOf job id created) .failed time)) :
    ∃ t, fleetMachine.Leads s t ∧ OnlyProc t .idle ∧ Blocked t job ∧
      t.jobs.get id = some (queuedReconciliation job id created 0) := by
  have hretry : s.jobs.retry id 0 = .ok (queuedReconciliation job id created 0,
      s.jobs.put (queuedReconciliation job id created 0)) := by
    simp [JobTable.retry, hrow, moved, AnsibleJobCoordinator.reconciliationOf,
      AnsibleJob.transitionTo, AnsibleJobStatus.canTransitionTo, queuedReconciliation]
  have hstep : s.step (.retry id 0) = some
      ((s.setJobs (s.jobs.put (queuedReconciliation job id created 0))).record id .queued) := by
    simp only [Fleet.step, Fleet.retry, honly.unlocked, hretry]
    rfl
  refine ⟨_, leads_step hstep .refl, honly, ?_, JobTable.get_put_self _ _⟩
  exact h.put (queuedReconciliation job id created 0) hne (.inl rfl)
    (fun _ _ => ⟨created, .queued, 0, rfl⟩) (fun _ => JobTable.get_put _ _ _) rfl

/-- A reconciliation that nobody has asked for is asked for by process `1`. -/
private theorem leads_requested (h : Blocked s job) (honly : OnlyProc s .idle)
    {newId : AnsibleJobId} (hfresh : s.history.get newId = none)
    (habsent : s.jobs.get newId = none)
    (hunused : s.keyTaken job.target (reconcileIdempotencyKey job.id) = false) :
    ∃ t, fleetMachine.Leads s t ∧ OnlyProc t .idle ∧ Blocked t job ∧
      t.jobs.get newId = some (queuedReconciliation job newId 0 0) := by
  have hdown : s.proc 1 = .down := honly 1
  have hload : s.step (.reconcileLoad 1 job.id) = some (s.setProc 1 (.reconciling job .loaded)) :=
    by simp [Fleet.step, Fleet.reconcileLoad, hdown, h.found, h.can]
  have hfind : ∀ u : Fleet, u.jobs = s.jobs → u.proc 1 = .reconciling job .loaded →
      u.step (.reconcileFind 1) = some (u.setProc 1 (.reconciling job .unused)) := by
    intro u hjobs hproc
    have hfree : u.keyTaken job.target (reconcileIdempotencyKey job.id) = false := by
      rw [Fleet.keyTaken, hjobs]
      exact hunused
    simp [Fleet.step, Fleet.reconcileFind, hproc, hfree]
  have hcheck : ∀ u : Fleet, u.jobs = s.jobs → u.proc 1 = .reconciling job .unused →
      u.step (.reconcileCheck 1) = some (u.setProc 1 (.reconciling job .free)) := by
    intro u hjobs hproc
    simp [Fleet.step, Fleet.reconcileCheck, hproc, hjobs, h.findActiveTargetJob]
  have hsubmit : ∀ u : Fleet, u.db = s.db → u.history = s.history →
      u.proc 1 = .reconciling job .free → u.step (.reconcileSubmit 1 newId 0)
        = some (((u.setJobs (u.jobs.put (queuedReconciliation job newId 0 0))).record newId
            .queued).setProc 1 .down) := by
    intro u hdb hhistory hproc
    have hjobs : u.jobs = s.jobs := by
      unfold Fleet.jobs
      rw [hdb]
    have hsave : JobTable.save u.db.targets u.jobs (queuedReconciliation job newId 0 0)
        = .ok (u.jobs.put (queuedReconciliation job newId 0 0)) := by
      rw [hdb, hjobs]
      exact save_queuedReconciliation h hunused habsent
    simp only [Fleet.step, Fleet.reconcileSubmit, hproc]
    change (u.insert (queuedReconciliation job newId 0 0)).map _ = _
    have hnew : (queuedReconciliation job newId 0 0).id = newId := rfl
    simp [Fleet.insert, hnew, hhistory, hfresh, hsave]
    rfl
  refine ⟨_, leads_step hload (leads_step
    (hfind _ rfl (Fleet.proc_setProc_self ..)) (leads_step
    (hcheck _ rfl (Fleet.proc_setProc_self ..)) (leads_step
    (hsubmit _ rfl rfl (Fleet.proc_setProc_self ..)) .refl))), fun q => ?_, ?_,
    JobTable.get_put_self _ _⟩
  · simp only [Fleet.proc_setProc, Fleet.proc_record, Fleet.proc_setJobs, honly q]
    split
    · rename_i hq
      rw [hq]
      rfl
    · rfl
  · refine h.put (queuedReconciliation job newId 0 0) ?_ (.inl rfl)
      (fun _ _ => ⟨0, .queued, 0, rfl⟩) (fun _ => JobTable.get_put _ _ _) rfl
    rintro rfl
    rw [h.found] at habsent
    cases habsent

/-- **The reconciliation gets into the queue**: it is asked for, unless it is there already or
has failed, and is tried again then. -/
theorem leads_queued (h : Blocked s job) (honly : OnlyProc s .idle) {newId : AnsibleJobId}
    (hfresh : s.history.get newId = none) (habsent : s.jobs.get newId = none) :
    ∃ t id created time, fleetMachine.Leads s t ∧ OnlyProc t .idle ∧ Blocked t job ∧
      t.jobs.get id = some (queuedReconciliation job id created time) := by
  by_cases htaken : s.keyTaken job.target (reconcileIdempotencyKey job.id) = true
  · obtain ⟨id, other, hrow, htarget, hkey⟩ := keyTaken_eq_true.mp htaken
    obtain ⟨⟨created, status, time, rfl⟩, hstatus⟩ := h.keyed id other hrow htarget hkey
    rcases hstatus with hstatus | hstatus
    · rw [moved_status] at hstatus
      subst hstatus
      exact ⟨s, id, created, time, .refl, honly, h, hrow⟩
    · rw [moved_status] at hstatus
      subst hstatus
      have hne : id ≠ job.id := by
        rintro rfl
        have hwaits := h.waits.1
        rw [Option.some.inj (h.found.symm.trans hrow)] at hwaits
        cases hwaits
      obtain ⟨t, hleads, ht, hblocked, hqueued⟩ := leads_retried h honly hne hrow
      exact ⟨t, id, created, 0, hleads, ht, hblocked, hqueued⟩
  · obtain ⟨t, hleads, ht, hblocked, hqueued⟩ :=
      leads_requested h honly hfresh habsent (by simpa using htaken)
    exact ⟨t, newId, 0, 0, hleads, ht, hblocked, hqueued⟩

/-! ### To the front of the queue -/

/-- Among the rows with a property there is an oldest one. -/
private theorem exists_oldest {f : AnsibleJob → Bool} {id : AnsibleJobId} {row : AnsibleJob}
    (hrow : s.jobs.get id = some row) (hf : f row = true) :
    ∃ first, s.jobs.get first.id = some first ∧ f first = true ∧ first.createdAt ≤ row.createdAt ∧
      s.oldest first f = true := by
  have hmem : ∀ {other}, other ∈ (s.jobs.list.filter f).toFinset ↔
      (∃ id, s.jobs.get id = some other) ∧ f other = true := by
    simp [JobTable.mem_list]
  obtain ⟨first, hfirst, hleast⟩ :=
    (s.jobs.list.filter f).toFinset.exists_min_image (·.createdAt) ⟨row, hmem.mpr ⟨⟨id, hrow⟩, hf⟩⟩
  obtain ⟨⟨firstId, hfirstRow⟩, hfirstF⟩ := hmem.mp hfirst
  obtain rfl := JobTable.get_id hfirstRow
  refine ⟨first, hfirstRow, hfirstF, hleast row (hmem.mpr ⟨⟨id, hrow⟩, hf⟩), ?_⟩
  simp only [Fleet.oldest, Bool.not_eq_true', JobTable.any_eq_false, Bool.and_eq_false_imp,
    Bool.and_eq_true, decide_eq_true_eq, and_imp]
  intro otherId other hother hotherF holder
  exact absurd (hleast other (hmem.mpr ⟨⟨otherId, hother⟩, hotherF⟩)) (not_le.mpr holder)

/-- The oldest job that may be claimed is claimed. -/
private theorem leads_claimed (honly : OnlyProc s .idle)
    (hcalm : ∀ id row, s.jobs.get id = some row → row.status.isActive = false)
    {next : AnsibleJob} (hrow : s.jobs.get next.id = some next)
    (hclaimable : JobTable.claimable s.db.targets s.jobs next = true)
    (holdest : s.oldest next (JobTable.claimable s.db.targets s.jobs) = true) :
    ∃ t, fleetMachine.Leads s t ∧
      OnlyProc t (.running (moved next .checking 0) .checking .started) ∧
      t.db.targets = s.db.targets ∧
      ∀ id, t.jobs.get id = if id = next.id then some (moved next .checking 0)
        else s.jobs.get id := by
  have hqueued : next.status = .queued := by
    simp only [JobTable.claimable, Bool.and_eq_true, decide_eq_true_eq] at hclaimable
    exact hclaimable.1.1.1
  have hselect : s.step (.claimSelect 0 next.id) = some (s.setProc 0 (.claiming next)) := by
    simp [Fleet.step, Fleet.claimSelect, honly.self, hrow, hclaimable, holdest,
      honly.lockedByOther]
  obtain ⟨t, hleads, ht, hdb⟩ := honly.move hselect
  have hjobs : t.jobs = s.jobs := congrArg Database.ansibleJobs hdb
  have hmoves : next.transitionTo .checking 0 = .ok (moved next .checking 0) :=
    AnsibleJob.transitionTo_ok.mpr ⟨by rw [hqueued]; rfl, rfl⟩
  have hcommit : t.step (.claimCommit 0 0 false) = t.update 0 (moved next .checking 0) false
      (.running (moved next .checking 0) .checking .started) .idle := by
    simp only [Fleet.step, Fleet.claimCommit, ht.self, hmoves]
  obtain ⟨u, hleads', hu, htargets, hget, -⟩ := ht.write hcommit (hjobs ▸ hrow)
    (JobTable.activeConflict_eq_false.mpr fun _ id other hother _ _ =>
      hcalm id other (hjobs ▸ hother))
  exact ⟨u, hleads.trans hleads', hu, htargets.trans (by rw [hdb]), hjobs ▸ hget⟩

/-- A job that is claimed can fail at once, and has left the queue. -/
private theorem leads_failed (honly : OnlyProc s .idle)
    (hcalm : ∀ id row, s.jobs.get id = some row → row.status.isActive = false)
    {next : AnsibleJob} (hrow : s.jobs.get next.id = some next)
    (hclaimable : JobTable.claimable s.db.targets s.jobs next = true)
    (holdest : s.oldest next (JobTable.claimable s.db.targets s.jobs) = true) :
    ∃ t, fleetMachine.Leads s t ∧ OnlyProc t .idle ∧ t.db.targets = s.db.targets ∧
      ∀ id, t.jobs.get id = if id = next.id then some (moved next .failed 0)
        else s.jobs.get id := by
  obtain ⟨t, hleads, ht, htargets, hget⟩ := leads_claimed honly hcalm hrow hclaimable holdest
  obtain ⟨code, hfind⟩ : ∃ code, t.step (.findTarget 0 true) = some (t.setProc 0
      (.running (moved next .checking 0) .checking (.finishing (.error code)))) := by
    simp only [Fleet.step, Fleet.findTarget, ht.self, Fleet.failRun]
    split
    · exact ⟨_, rfl⟩
    · exact ⟨_, rfl⟩
  obtain ⟨u, hfinds, hu, hdb⟩ := ht.move hfind
  have hjobs : u.jobs = t.jobs := congrArg Database.ansibleJobs hdb
  have hmoves : (moved next .checking 0).transitionTo
      (finalStatus (moved next .checking 0) (Except.error code : Except _ Bool).isOk) 0
        = .ok (moved next .failed 0) := by
    simp [finalStatus, AnsibleJob.transitionTo, AnsibleJobStatus.canTransitionTo, moved,
      Except.isOk, Except.toBool]
  have hresult : u.step (.writeResult 0 0 false)
      = u.update 0 (moved next .failed 0) false .idle .idle := by
    simp only [Fleet.step, Fleet.writeResult, hu.self, hmoves]
  have hfound : u.jobs.get (moved next .failed 0).id = some (moved next .checking 0) := by
    rw [hjobs, moved_id, hget, if_pos rfl]
  obtain ⟨v, hwrites, hv, htargets', hget', -⟩ := hu.write hresult hfound
    (JobTable.activeConflict_eq_false.mpr fun hactive => by cases hactive)
  refine ⟨v, (hleads.trans hfinds).trans hwrites, hv,
    htargets'.trans ((congrArg Database.targets hdb).trans htargets), fun id => ?_⟩
  rw [hget', moved_id, hjobs, hget]
  split <;> rfl

variable {id : AnsibleJobId} {created time : Timestamp}

/-- A worker may claim the reconciliation of a blocked job. -/
private theorem Blocked.claimable (h : Blocked s job) :
    JobTable.claimable s.db.targets s.jobs (queuedReconciliation job id created time) = true := by
  obtain ⟨targetId, target, htarget, hget, hkind, -⟩ := serves_eq_true.mp h.served
  have hwindows : JobTable.isWindows s.db.targets job.target = false := by
    simp [JobTable.isWindows, htarget, hget, hkind]
  have hidle : JobTable.targetIdle s.jobs job.target = true := by
    simp only [JobTable.targetIdle, Bool.not_eq_true', JobTable.any_eq_false]
    intro otherId other hother
    simp [h.calm otherId other hother]
  have hbarrier : s.jobs.barrierOpen (queuedReconciliation job id created time) = true := by
    refine barrierOpen_iff.mpr fun otherId other hother hsame hstatus => ?_
    obtain rfl := JobTable.get_id hother
    by_cases hid : other.id = job.id
    · rw [hid]
      simp [JobTable.isReconciliationOf, queuedReconciliation, moved,
        AnsibleJobCoordinator.reconciliationOf]
    · exact absurd hstatus (h.alone _ other hother hid hsame)
  change (_ && _ && _ && _) = true
  rw [hbarrier]
  simpa [queuedReconciliation, moved, AnsibleJobCoordinator.reconciliationOf] using
    ⟨hwindows, hidle⟩

/-- **The reconciliation gets to the front of the queue**, once the jobs before it have failed. -/
theorem leads_oldest (h : Blocked s job) (honly : OnlyProc s .idle)
    (hrow : s.jobs.get id = some (queuedReconciliation job id created time)) :
    ∃ t, fleetMachine.Leads s t ∧ OnlyProc t .idle ∧ Blocked t job ∧
      t.jobs.get id = some (queuedReconciliation job id created time) ∧
      t.oldest (queuedReconciliation job id created time)
        (JobTable.claimable t.db.targets t.jobs) = true := by
  -- by induction on the jobs that are queued
  have hwait : ∀ (waiting : Finset AnsibleJobId) (s : Fleet), Blocked s job → OnlyProc s .idle →
      s.jobs.get id = some (queuedReconciliation job id created time) →
      (∀ otherId other, s.jobs.get otherId = some other → other.status = .queued →
        otherId ∈ waiting) →
      ∃ t, fleetMachine.Leads s t ∧ OnlyProc t .idle ∧ Blocked t job ∧
        t.jobs.get id = some (queuedReconciliation job id created time) ∧
        t.oldest (queuedReconciliation job id created time)
          (JobTable.claimable t.db.targets t.jobs) = true := by
    intro waiting
    induction waiting using Finset.strongInduction with
    | H waiting ih =>
      intro s h honly hrow hall
      obtain ⟨first, hfirst, hclaimable, -, holdest⟩ := exists_oldest hrow h.claimable
      by_cases hid : first.id = id
      · rw [hid] at hfirst
        have hsame := Option.some.inj (hfirst.symm.trans hrow)
        exact ⟨s, .refl, honly, h, hrow, hsame ▸ holdest⟩
      · have hqueued : first.status = .queued := by
          simp only [JobTable.claimable, Bool.and_eq_true, decide_eq_true_eq] at hclaimable
          exact hclaimable.1.1.1
        have hne : first.id ≠ job.id := by
          intro hsame
          rw [hsame, h.found] at hfirst
          have hstatus := h.waits.1
          rw [Option.some.inj hfirst, hqueued] at hstatus
          cases hstatus
        obtain ⟨t, hleads, ht, htargets, hget⟩ :=
          leads_failed honly h.calm hfirst hclaimable holdest
        have hblocked : Blocked t job := by
          refine h.put (moved first .failed 0) hne (.inr rfl) (fun htarget hkey => ?_)
            hget htargets
          obtain ⟨⟨created, status, time, hform⟩, -⟩ := h.keyed _ _ hfirst htarget hkey
          exact ⟨created, .failed, 0, by rw [hform]; rfl⟩
        obtain ⟨u, hrest, hu⟩ := ih (waiting.erase first.id)
          (Finset.erase_ssubset (hall _ _ hfirst hqueued)) t hblocked ht
          (by rw [hget, if_neg (Ne.symm hid), hrow]) fun otherId other hother hstatus => by
            rw [hget] at hother
            split at hother
            · rw [← Option.some.inj hother] at hstatus
              cases hstatus
            · rename_i hother'
              exact Finset.mem_erase.mpr ⟨hother', hall _ _ hother hstatus⟩
        exact ⟨u, hleads.trans hrest, hu⟩
  refine hwait (s.jobs.list.map (·.id)).toFinset s h honly hrow fun otherId other hother _ => ?_
  rw [List.mem_toFinset, List.mem_map]
  exact ⟨other, JobTable.mem_list.mpr ⟨otherId, hother⟩, JobTable.get_id hother⟩

/-! ### The run of the reconciliation -/

/-- The operations on the list of reconciliations have arguments and a playbook for one. -/
private theorem reconciliation_runs {operation : AnsibleOperation} {kind : TargetKind}
    (hlisted : operation.canReconcileApply = true) (hkind : kind ≠ .windowsServer) :
    (∃ args, ansibleModeArgs operation .reconcile = .ok args) ∧
      ∃ file, playbook operation kind = some file := by
  cases operation <;> cases kind <;> first
    | exact absurd hlisted Bool.false_ne_true
    | exact absurd rfl hkind
    | exact ⟨⟨_, rfl⟩, ⟨_, rfl⟩⟩

/-- The reconciliation of a job as its worker goes on with it. -/
def plannedReconciliation (job : AnsibleJob) (id : AnsibleJobId) (created : Timestamp) :
    AnsibleJob :=
  moved (AnsibleJobCoordinator.reconciliationOf job id created) .planned 0

/-- The reconciliation is claimed, and its target found. -/
private theorem leads_planned (h : Blocked s job) (honly : OnlyProc s .idle)
    (hrow : s.jobs.get id = some (queuedReconciliation job id created time))
    (holdest : s.oldest (queuedReconciliation job id created time)
      (JobTable.claimable s.db.targets s.jobs) = true) :
    ∃ t target, fleetMachine.Leads s t ∧
      OnlyProc t (.running (plannedReconciliation job id created) .planned (.planned target)) ∧
      target.kind ≠ .windowsServer ∧ t.jobs.get job.id = some job := by
  obtain ⟨targetId, target, htarget, hget, hkind, hcheck⟩ := serves_eq_true.mp h.served
  obtain ⟨t, hclaims, ht, htargets, hget'⟩ := leads_claimed honly h.calm hrow h.claimable holdest
  have hrows : ∀ otherId, t.jobs.get otherId = if otherId = id
      then some (moved (queuedReconciliation job id created time) .checking 0)
      else s.jobs.get otherId := hget'
  have hfind : t.step (.findTarget 0 false) = some (t.setProc 0 (.running
      (moved (queuedReconciliation job id created time) .checking 0) .checking
        (.located target))) := by
    have hfits : checkTarget (moved (queuedReconciliation job id created time) .checking 0) target
        = .ok () := hcheck
    have hhere : (moved (queuedReconciliation job id created time) .checking 0).target
        = .target targetId := htarget
    simp only [Fleet.step, Fleet.findTarget, ht.self, hhere, htargets, hget, hfits]
    rfl
  obtain ⟨u, hfinds, hu, hdb⟩ := ht.move hfind
  have hjobs : u.jobs = t.jobs := congrArg Database.ansibleJobs hdb
  have hplan : u.step (.writePlanned 0 0 false) = u.update 0 (plannedReconciliation job id created)
      false (.running (plannedReconciliation job id created) .planned (.planned target))
      (.running (plannedReconciliation job id created) .checking
        (.finishing (.error .workerUnavailable))) := by
    simp only [Fleet.step, Fleet.writePlanned, hu.self]
    rfl
  have hfound : u.jobs.get id
      = some (moved (queuedReconciliation job id created time) .checking 0) := by
    rw [hjobs, hrows, if_pos rfl]
  have hfree : u.jobs.activeConflict (plannedReconciliation job id created) = false := by
    refine JobTable.activeConflict_eq_false.mpr fun _ otherId other hother hne _ => ?_
    obtain rfl := JobTable.get_id hother
    rw [hjobs, hrows, if_neg (show other.id ≠ id from hne)] at hother
    exact h.calm _ other hother
  obtain ⟨v, hplans, hv, -, hrows', -⟩ := hu.write hplan hfound hfree
  have hne : job.id ≠ id := by
    rintro rfl
    have hstatus := h.waits.1
    rw [Option.some.inj (h.found.symm.trans hrow)] at hstatus
    cases hstatus
  refine ⟨v, target, (hclaims.trans hfinds).trans hplans, hv, hkind, ?_⟩
  rw [hrows', if_neg (show job.id ≠ (plannedReconciliation job id created).id from hne), hjobs,
    hrows, if_neg hne, h.found]

/-- The source is loaded, and the playbook runs to its end. -/
private theorem leads_executed {target : Target}
    (honly : OnlyProc s
      (.running (plannedReconciliation job id created) .planned (.planned target)))
    (hkind : target.kind ≠ .windowsServer) (hcan : job.canBeReconciled = true)
    (hfound : s.jobs.get job.id = some job) :
    ∃ t, fleetMachine.Leads s t ∧ OnlyProc t (.running (plannedReconciliation job id created)
      .planned (.executed true (some job))) ∧ t.db = s.db := by
  simp only [AnsibleJob.canBeReconciled, Bool.and_eq_true, decide_eq_true_eq] at hcan
  obtain ⟨⟨args, hargs⟩, file, hfile⟩ := reconciliation_runs hcan.2 hkind
  have hload : s.step (.loadSource 0 false) = some (s.setProc 0 (.running
      (plannedReconciliation job id created) .planned (.prepared target (some job)))) := by
    have hnamed : reconciliationSourceJobId (plannedReconciliation job id created).idempotencyKey
        = some job.id := reconciliationSourceJobId_key job.id
    have hmatches : sourceMatches (plannedReconciliation job id created) job = true := by
      simp [sourceMatches, hcan, plannedReconciliation, moved,
        AnsibleJobCoordinator.reconciliationOf]
    have hmode : (plannedReconciliation job id created).mode = .reconcile := rfl
    have hargs' : ansibleModeArgs (plannedReconciliation job id created).operation .reconcile
        = .ok args := hargs
    simp only [Fleet.step, Fleet.loadSource, honly.self, hmode, hargs', hnamed, hfound, hmatches]
    rfl
  obtain ⟨t₁, hloads, h₁, hdb₁⟩ := honly.move hload
  have hmark : t₁.step (.markApplying 0 0 false) = some (t₁.setProc 0 (.running
      (plannedReconciliation job id created) .planned (.marked target (some job)))) := by
    simp only [Fleet.step, Fleet.markApplying, h₁.self]
    rfl
  obtain ⟨t₂, hmarks, h₂, hdb₂⟩ := h₁.move hmark
  have hstart : t₂.step (.startPlaybook 0) = some (t₂.setProc 0 (.running
      (plannedReconciliation job id created) .planned (.executing (some job)))) := by
    have hfile' : playbook (plannedReconciliation job id created).operation target.kind
        = some file := hfile
    simp only [Fleet.step, Fleet.startPlaybook, h₂.self, hfile']
  obtain ⟨t₃, hstarts, h₃, hdb₃⟩ := h₂.move hstart
  have hdone : t₃.step (.playbookDone 0 true) = some (t₃.setProc 0 (.running
      (plannedReconciliation job id created) .planned (.executed true (some job)))) := by
    simp only [Fleet.step, Fleet.playbookDone, h₃.self]
  obtain ⟨t₄, hruns, h₄, hdb₄⟩ := h₃.move hdone
  exact ⟨t₄, ((hloads.trans hmarks).trans hstarts).trans hruns, h₄,
    hdb₄.trans (hdb₃.trans (hdb₂.trans hdb₁))⟩

/-- **The reconciliation is carried out** once it is at the front of the queue. -/
theorem canBeLifted_of_oldest (h : Blocked s job) (honly : OnlyProc s .idle)
    (hrow : s.jobs.get id = some (queuedReconciliation job id created time))
    (holdest : s.oldest (queuedReconciliation job id created time)
      (JobTable.claimable s.db.targets s.jobs) = true) : s.CanBeLifted job.id := by
  obtain ⟨t, target, hplans, ht, hkind, hfound⟩ := leads_planned h honly hrow holdest
  obtain ⟨u, hruns, hu, hdb⟩ := leads_executed ht hkind h.can hfound
  have hsource : u.jobs.get job.id = some job := by
    rw [show u.jobs = t.jobs from congrArg Database.ansibleJobs hdb, hfound]
  have hmoves : job.transitionTo (sourceStatus .completed) 0 = .ok (moved job .succeeded 0) :=
    AnsibleJob.transitionTo_ok.mpr ⟨by rw [h.waits.1]; rfl, rfl⟩
  have hreconcile : u.step (.reconcile 0 .completed 0 false) = u.update 0 (moved job .succeeded 0)
      false (.running (plannedReconciliation job id created) .planned (.reconciled true))
      (.running (plannedReconciliation job id created) .planned
        (.finishing (.error .workerUnavailable))) := by
    simp only [Fleet.step, Fleet.reconcile, hu.self, hmoves]
    rfl
  have hfree : u.jobs.activeConflict (moved job .succeeded 0) = false :=
    JobTable.activeConflict_eq_false.mpr fun hactive => by cases hactive
  refine ⟨u, _, 0, 0, hplans.trans hruns, hreconcile.trans (hu.update hsource hfree), ?_, ?_⟩
  · rw [hsource, Option.map_some, h.waits.1]
  · exact congrArg (Option.map (·.status)) (JobTable.get_put_self _ _)

end

/-! ### Runs -/

/-- **Every run.**  Where no step takes a job's reconciliation away, every job that waits for its
reconciliation can be reconciled, and the block it puts on its target can be lifted, in every
state of every run that has an id for the reconciliation left. -/
theorem canBeLifted_of_leavesWayOut {s : Fleet} (h : fleetMachine.Reach LeavesWayOut s)
    (hunused : ∃ newId, s.history.get newId = none) :
    ∀ id job, s.jobs.get id = some job → job.status = .reconcileRequired →
      job.canBeReconciled = true ∧ s.CanBeLifted id := by
  intro id job hrow hwaits
  obtain ⟨newId, hnew⟩ := hunused
  obtain rfl := JobTable.get_id hrow
  obtain ⟨t, hrestart, ht, hblocked, hfree⟩ :=
    leads_blocked (orderly_of_leavesWayOut h) (wayOut_of_leavesWayOut h) hrow hwaits
  obtain ⟨hfresh, habsent⟩ := hfree newId hnew
  obtain ⟨u, id, created, time, hqueues, hu, hblocked', hqueued⟩ :=
    leads_queued hblocked ht hfresh habsent
  obtain ⟨v, hdrains, hv, hblocked'', hqueued', holdest⟩ := leads_oldest hblocked' hu hqueued
  obtain ⟨before, after, p, now, hruns, hlifts⟩ :=
    canBeLifted_of_oldest hblocked'' hv hqueued' holdest
  exact ⟨hblocked.can, before, after, p, now,
    hrestart.trans (hqueues.trans (hdrains.trans hruns)), hlifts⟩

/-- A repair whose first reconciliation has failed. -/
theorem repair_lifted_after_failure :
    ∃ s job, fleetMachine.Reach LeavesWayOut s ∧ s.jobs.get ⟨⟨1⟩⟩ = some job ∧
      job.status = .reconcileRequired ∧ (s.jobs.get ⟨⟨3⟩⟩).map (·.status) = some .failed ∧
      job.canBeReconciled = true ∧ s.CanBeLifted ⟨⟨1⟩⟩ := by
  have hrun : ∃ s ∈ fleetMachine.exec LeavesWayOut .initial (failedRepair ++ prepareRun 1 ⟨⟨3⟩⟩
      ++ [.stepFails 1 .unreachable, .writeResult 1 8 false]),
      s.history.get ⟨⟨4⟩⟩ = none ∧ (s.jobs.get ⟨⟨3⟩⟩).map (·.status) = some .failed ∧
        ∃ job ∈ s.jobs.get ⟨⟨1⟩⟩, job.status = .reconcileRequired := by
    decide +kernel
  obtain ⟨s, hexec, hunused, hfailed, job, hrow, hwaits⟩ := hrun
  have hreach : fleetMachine.Reach LeavesWayOut s := .exec (.init rfl) _ hexec
  exact ⟨s, job, hreach, hrow, hwaits, hfailed,
    canBeLifted_of_leavesWayOut hreach ⟨_, hunused⟩ _ job hrow hwaits⟩

/-- A job of the sample target is applied by worker `1`, and its playbook cannot be started. -/
def failedApplication (parameters : AnsibleParameters) (start : List FleetAction) :
    List FleetAction :=
  [.putTarget (sampleTarget .linuxServer .ssh),
    .submit (sampleRequest .apply parameters "apply") ⟨⟨1⟩⟩ 0, .restart 1, .recoverNext 1 0 false,
    .recoverNext 1 0 false] ++ prepareRun 1 ⟨⟨1⟩⟩ ++ [.markApplying 1 3 false] ++ start
    ++ [.writeResult 1 4 false]

/-- A `configure_target` job that was applied waits for a reconciliation that cannot be asked
for. -/
theorem configure_target_dead_end :
    ¬ ∀ s, fleetMachine.Reach Machine.Any s → ∀ id job, s.jobs.get id = some job →
      job.status = .reconcileRequired → job.canBeReconciled = true := by
  intro hall
  have hrun : ∃ s ∈ fleetMachine.exec Machine.Any .initial
      (failedApplication (.configureTarget none) [.startPlaybook 1]),
      ∃ job ∈ s.jobs.get ⟨⟨1⟩⟩, job.status = .reconcileRequired ∧ job.canBeReconciled = false := by
    decide +kernel
  obtain ⟨s, hexec, job, hrow, hstatus, hcannot⟩ := hrun
  have hcan := hall s (.exec (.init rfl) _ hexec) _ job hrow hstatus
  rw [hcannot] at hcan
  cases hcan

end Lxcup.Queue
