import Lxcup.Queue.Steps
import Mathlib.Data.List.Chain

/-!
# Copies and rows

A process checks a transition against its own copy of a job and then writes the row, whatever
the row holds.  The row therefore goes along its lifecycle only as long as no two processes
hold the same job.  The claims see to that among themselves; recovery at the start of a
worker and the reports of Windows agents take up jobs without looking who else has them, and
a write of `applying` that fails leaves the copy ahead of the row.

`Exclusive` says of a step that it does none of this.  In runs of such steps every copy
agrees with its row.  Two statements of the Windows agents' requests remain that take a row over
several edges at once: the claim of an application goes from `queued` to `applying`, and the
success of any other job from `checking` to `succeeded`.  `Stepwise` leaves them out, and the
statuses written to a row are a path of the lifecycle then.

## Main definitions

* `Held`, `Proc.holds` — the copies from which a process may still write.
* `Exclusive`, `OneEdge`, `Stepwise` — the conditions on steps.
* `Recorded`, `Owned` — the invariants of the rows and of the processes.

## Main results

* `Owned.moves`, `Owned.writes` — what one process keeps.
* `owned_step` — one step keeps the invariants.
* `writtenInOrder_of_stepwise` — every run.
* `recovered_job_overwritten` — without the condition a failed job becomes planned.
-/

namespace Lxcup.Queue

open Lxcup.Lib Lxcup.Core Lxcup.Ansible Lxcup.Persistence Lxcup.Server Lxcup.Worker
open Lxcup.Ansible.AnsibleJob (LifecyclePath)

/-! ### The copies a process writes from -/

/-- A copy and the status its process last read or wrote. -/
structure Held where
  job : AnsibleJob
  stored : AnsibleJobStatus

/-- A copy as it was read. -/
def Held.read (job : AnsibleJob) : Held := ⟨job, job.status⟩

/-- The copies from which a process may still write.  Recovery passes over the jobs of its
listing that are not active, and the source of a reconciliation request is only read. -/
def Proc.holds : Proc → List Held
  | .recovering pending => (pending.filter (·.status.isActive)).map .read
  | .running job stored phase => ⟨job, stored⟩ :: phase.source.toList.map .read
  | .claiming job | .windowsClaiming job | .windowsClaimed job | .reporting job _ => [.read job]
  | .down | .idle | .reconciling _ _ => []

/-- The jobs of these copies. -/
def Proc.heldIds (x : Proc) : List AnsibleJobId := x.holds.map (·.job.id)

/-- A process other than `p` holds the job. -/
def Fleet.heldByOther (s : Fleet) (p : ProcId) (id : AnsibleJobId) : Bool :=
  s.procs.any fun q x => q ≠ p && id ∈ x.heldIds

theorem Fleet.heldByOther_eq_false {s : Fleet} {p : ProcId} {id : AnsibleJobId}
    (h : s.heldByOther p id = false) {q : ProcId} (hq : q ≠ p) : id ∉ (s.proc q).heldIds := by
  have hnot := procs_any_eq_false h (by simp [Proc.heldIds, Proc.holds]) q
  simpa [hq] using hnot

/-- A Windows agent's claim of an application is open. -/
def Proc.claimsApplication : Proc → Bool
  | .windowsClaiming job => job.mode = .apply
  | _ => false

/-- A Windows agent reports the success of a job that is no application. -/
def Proc.reportsCheck : Proc → Bool
  | .reporting job succeeded => succeeded && job.mode ≠ .apply
  | _ => false

/-- The step takes up no job that another process holds, and a write of `applying` does not
fail. -/
def Exclusive (s : Fleet) : FleetAction → Prop
  | .restart p => ∀ job ∈ s.jobs.list, job.status.isActive = true → s.heldByOther p job.id = false
  | .claimSelect p id | .windowsSelect p _ id | .reportLoad p id _ => s.heldByOther p id = false
  | .markApplying _ _ dbFails => dbFails = false
  | _ => True

instance (s : Fleet) : (a : FleetAction) → Decidable (Exclusive s a)
  | .restart _ => inferInstanceAs (Decidable (∀ job ∈ s.jobs.list, _ → _))
  | .claimSelect .. | .windowsSelect .. | .reportLoad .. | .markApplying .. =>
    inferInstanceAs (Decidable (_ = false))
  | .recoverNext .. | .crash .. | .claimCommit .. | .findTarget .. | .writePlanned ..
  | .loadSource .. | .startPlaybook .. | .playbookDone .. | .reconcile .. | .finishRun ..
  | .stepFails .. | .writeResult .. | .windowsCommit .. | .windowsAnswer .. | .reportWrite ..
  | .submit .. | .reconcileLoad .. | .reconcileFind .. | .reconcileCheck .. | .reconcileSubmit ..
  | .retry .. | .putTarget .. | .deleteTarget .. => isTrue trivial

/-- The statement takes its row over one edge: no Windows agent claims an application, and none
reports the success of another job. -/
def OneEdge (s : Fleet) : FleetAction → Prop
  | .windowsCommit p _ _ => (s.proc p).claimsApplication = false
  | .reportWrite p _ _ => (s.proc p).reportsCheck = false
  | _ => True

instance (s : Fleet) : (a : FleetAction) → Decidable (OneEdge s a)
  | .windowsCommit .. | .reportWrite .. => inferInstanceAs (Decidable (_ = false))
  | .restart .. | .claimSelect .. | .windowsSelect .. | .reportLoad .. | .markApplying ..
  | .recoverNext .. | .crash .. | .claimCommit .. | .findTarget .. | .writePlanned ..
  | .loadSource .. | .startPlaybook .. | .playbookDone .. | .reconcile .. | .finishRun ..
  | .stepFails .. | .writeResult .. | .windowsAnswer .. | .submit .. | .reconcileLoad ..
  | .reconcileFind .. | .reconcileCheck .. | .reconcileSubmit .. | .retry .. | .putTarget ..
  | .deleteTarget .. => isTrue trivial

/-- The step takes up no job that another process holds, and its statement takes the row over
one edge. -/
def Stepwise (s : Fleet) (a : FleetAction) : Prop := Exclusive s a ∧ OneEdge s a

instance (s : Fleet) (a : FleetAction) : Decidable (Stepwise s a) :=
  inferInstanceAs (Decidable (_ ∧ _))

/-! ### The rows -/

/-- The last recorded status of a job is that of its row, and a target has at most one active
job. -/
structure Recorded (s : Fleet) : Prop where
  recorded : ∀ id row, s.jobs.get id = some row →
    ∃ past, s.history.get id = some (past ++ [row.status])
  oneActive : ∀ id id' row row', s.jobs.get id = some row → s.jobs.get id' = some row' →
    row.target = row'.target → row.status.isActive = true → row'.status.isActive = true → id = id'

/-! ### The processes -/

/-- The row of a copy is the copy in the status its process last read or wrote. -/
def Held.Current (s : Fleet) (e : Held) : Prop :=
  ∃ time, s.jobs.get e.job.id = some (moved e.job e.stored time)

/-- The row of a queued job has been deleted. -/
def Held.Gone (s : Fleet) (e : Held) : Prop :=
  e.stored = .queued ∧ s.jobs.get e.job.id = none ∧ (s.history.get e.job.id).isSome

/-- The source that belongs to a job that has been prepared. -/
def SourceOf (job : AnsibleJob) : Option AnsibleJob → Prop
  | none => job.mode ≠ .reconcile
  | some source => job.mode = .reconcile ∧
      reconciliationSourceJobId job.idempotencyKey = some source.id ∧
      sourceMatches job source = true

/-- `planned` was written, and `applying` where the mode is to apply. -/
def Working (job : AnsibleJob) (stored : AnsibleJobStatus) : Prop :=
  job.status = stored ∧ (stored = .planned ∨ stored = .applying)

/-- The status of a copy and the one last written, phase by phase. -/
def Phase.Consistent (job : AnsibleJob) (stored : AnsibleJobStatus) : Phase → Prop
  | .started | .located _ => job.status = .checking ∧ stored = .checking
  | .planned _ => job.status = .planned ∧ stored = .planned
  | .prepared _ source => (job.status = .planned ∧ stored = .planned) ∧ SourceOf job source
  | .marked _ source | .executing source | .executed _ source =>
    Working job stored ∧ SourceOf job source
  | .reconciled _ | .finishing (.ok _) => Working job stored
  -- a write of `planned` that failed has left the copy ahead of the row
  | .finishing (.error _) => Working job stored ∨
    (job.status = .checking ∨ job.status = .planned) ∧ stored = .checking

/-- The statuses of the jobs a process can hold. -/
def Proc.Consistent : Proc → Prop
  | .running job stored phase => phase.Consistent job stored
  | .claiming job | .windowsClaiming job => job.status = .queued
  | .windowsClaimed job => job.status.isActive = true
  | .reporting job _ => reportIgnored job.status = false
  | _ => True

/-- A process that reports; the row of its job is not locked. -/
def Proc.isReporting : Proc → Bool
  | .reporting _ _ => true
  | _ => false

/-- Every copy agrees with its row, and no job is held twice. -/
structure Owned (s : Fleet) : Prop where
  current : ∀ p, ∀ e ∈ (s.proc p).holds,
    e.Current s ∨ (s.proc p).isReporting = true ∧ e.Gone s
  alone : ∀ p q, p ≠ q → ∀ id ∈ (s.proc p).heldIds, id ∉ (s.proc q).heldIds
  distinct : ∀ p, (s.proc p).heldIds.Nodup
  consistent : ∀ p, (s.proc p).Consistent

/-! ### What the statuses of copies say -/

theorem Held.Current.row {s : Fleet} {e : Held} {row : AnsibleJob} (h : e.Current s)
    (hrow : s.jobs.get e.job.id = some row) : ∃ time, row = moved e.job e.stored time := by
  obtain ⟨time, htime⟩ := h
  exact ⟨time, Option.some.inj (hrow.symm.trans htime)⟩

theorem Phase.Consistent.isActive {job : AnsibleJob} {stored : AnsibleJobStatus} {phase : Phase}
    (h : phase.Consistent job stored) : stored.isActive = true := by
  have hworking : Working job stored → stored.isActive = true := by
    rintro ⟨-, rfl | rfl⟩ <;> rfl
  cases phase with
  | started | located => exact h.2 ▸ rfl
  | planned => exact h.2 ▸ rfl
  | prepared => exact h.1.2 ▸ rfl
  | marked | executing | executed => exact hworking h.1
  | reconciled => exact hworking h
  | finishing result =>
    cases result with
    | ok => exact hworking h
    | error =>
      rcases h with h | h
      · exact hworking h
      · exact h.2 ▸ rfl

/-- The source of a reconciliation is held from its preparation on. -/
theorem Phase.Consistent.sourceOf {job source : AnsibleJob} {stored : AnsibleJobStatus}
    {phase : Phase} (h : phase.Consistent job stored) (hsource : phase.source = some source) :
    SourceOf job (some source) := by
  cases phase <;> simp only [Phase.source, reduceCtorEq] at hsource <;> subst hsource <;> exact h.2

theorem SourceOf.reconcileRequired {job source : AnsibleJob} (h : SourceOf job (some source)) :
    source.status = .reconcileRequired ∧ source.mode = .apply ∧ source.target = job.target := by
  have hsame := h.2.2
  simp only [sourceMatches, Bool.and_eq_true, decide_eq_true_eq] at hsame
  exact ⟨hsame.1.1.1.1.1.1, hsame.1.1.1.1.1.2, hsame.1.1.1.2⟩

/-- The copies a process holds are of active jobs, of sources, of jobs it is claiming or of
queued jobs that are reported. -/
theorem Proc.Consistent.stored {x : Proc} (h : x.Consistent) {e : Held} (he : e ∈ x.holds) :
    e.stored.isActive = true ∨
    (∃ job stored phase, x = .running job stored phase ∧ phase.source = some e.job ∧
      e.stored = .reconcileRequired ∧ SourceOf job (some e.job)) ∨
    e.stored = .queued ∧ (x.claims e.job.target = true ∨ x.isReporting = true) := by
  cases x with
  | recovering pending =>
    simp only [holds, List.mem_map, List.mem_filter] at he
    obtain ⟨job, ⟨-, hactive⟩, rfl⟩ := he
    exact .inl hactive
  | running job stored phase =>
    simp only [holds, List.mem_cons, List.mem_map, Option.mem_toList] at he
    rcases he with rfl | ⟨source, hsource, rfl⟩
    · exact .inl (Phase.Consistent.isActive h)
    · have hof := Phase.Consistent.sourceOf h hsource
      exact .inr (.inl ⟨job, stored, phase, rfl, hsource, hof.reconcileRequired.1, hof⟩)
  | claiming job | windowsClaiming job =>
    obtain rfl := List.mem_singleton.mp he
    exact .inr (.inr ⟨h, .inl (by simp [Held.read, claims])⟩)
  | windowsClaimed job =>
    obtain rfl := List.mem_singleton.mp he
    exact .inl h
  | reporting job succeeded =>
    obtain rfl := List.mem_singleton.mp he
    have hopen : reportIgnored job.status = false := h
    cases hstatus : job.status <;> simp [reportIgnored, hstatus, AnsibleJobStatus.isFinal] at hopen
    case queued => exact .inr (.inr ⟨hstatus, .inr rfl⟩)
    all_goals exact .inl (by simp [Held.read, hstatus, AnsibleJobStatus.isActive])
  | down | idle | reconciling => cases he

/-! ### Changes of a process -/

/-- What process `p` may hold after a change of the fleet from `s` to `s'`: copies that agree
with their rows, each once, of jobs that it held before or that nobody else holds. -/
structure Takes (s : Fleet) (p : ProcId) (x : Proc) (s' : Fleet) : Prop where
  current : ∀ e ∈ x.holds, e.Current s' ∨ x.isReporting = true ∧ e.Gone s'
  free : ∀ id ∈ x.heldIds,
    id ∈ (s.proc p).heldIds ∨ ∀ q, q ≠ p → id ∉ (s.proc q).heldIds
  distinct : x.heldIds.Nodup
  consistent : x.Consistent

section

variable {s s' : Fleet} {p : ProcId} {a : FleetAction} {x : Proc}

/-- A process that gives everything up. -/
theorem Takes.nothing (hx : x.holds = []) (hconsistent : x.Consistent) : Takes s p x s' where
  current e he := by simp [hx] at he
  free id hid := by simp [Proc.heldIds, hx] at hid
  distinct := by simp [Proc.heldIds, hx]
  consistent := hconsistent

/-- A process that waits for nobody else's lock has current copies. -/
theorem Owned.current_of_not_reporting (h : Owned s) (hlocked : (s.proc p).isReporting = false)
    {e : Held} (he : e ∈ (s.proc p).holds) : e.Current s := by
  rcases h.current p e he with hcurrent | ⟨hreporting, -⟩
  · exact hcurrent
  · rw [hlocked] at hreporting
    cases hreporting

/-- A process that goes on with some of its copies. -/
theorem Takes.sublist (h : Owned s) (hlocked : (s.proc p).isReporting = false)
    (hsub : x.holds.Sublist (s.proc p).holds) (hconsistent : x.Consistent) : Takes s p x s where
  current _ he := .inl (h.current_of_not_reporting hlocked (hsub.subset he))
  free _ hid := .inl ((hsub.map _).subset hid)
  distinct := (hsub.map _).nodup (h.distinct p)
  consistent := hconsistent

/-- A job that was just read agrees with its row. -/
theorem Held.current_read {job : AnsibleJob} (hrow : s.jobs.get job.id = some job) :
    (Held.read job).Current s :=
  ⟨job.updatedAt, hrow⟩

/-- A process that takes up one job. -/
theorem Takes.one {job : AnsibleJob} (hrow : s.jobs.get job.id = some job)
    (hfree : s.heldByOther p job.id = false) (hx : x.holds = [.read job])
    (hconsistent : x.Consistent) : Takes s p x s where
  current e he := by
    rw [hx, List.mem_singleton] at he
    exact .inl (he ▸ Held.current_read hrow)
  free id hid := by
    have hjob : id = job.id := by simpa [Proc.heldIds, hx, Held.read] using hid
    exact .inr fun q hq => hjob ▸ Fleet.heldByOther_eq_false hfree hq
  distinct := by simp [Proc.heldIds, hx]
  consistent := hconsistent

/-- A worker that starts takes up the active jobs of its listing. -/
private theorem takes_list (hok : Exclusive s (.restart p)) :
    Takes s p (.recovering s.jobs.list) s where
  current e he := by
    simp only [Proc.holds, List.mem_map, List.mem_filter] at he
    obtain ⟨job, ⟨hmem, -⟩, rfl⟩ := he
    obtain ⟨id, hrow⟩ := JobTable.mem_list.mp hmem
    obtain rfl := JobTable.get_id hrow
    exact .inl (Held.current_read hrow)
  free id hid := by
    simp only [Proc.heldIds, Proc.holds, List.map_map, List.mem_map, List.mem_filter] at hid
    obtain ⟨job, ⟨hmem, hactive⟩, rfl⟩ := hid
    exact .inr fun q hq => Fleet.heldByOther_eq_false (hok job hmem hactive) hq
  distinct := by
    have hsub : (Proc.heldIds (.recovering s.jobs.list)).Sublist (s.jobs.list.map (·.id)) := by
      simp only [Proc.heldIds, Proc.holds, List.map_map]
      exact List.filter_sublist.map _
    exact hsub.nodup s.jobs.nodup_list
  consistent := trivial

/-- From every phase `run` may return a failure. -/
theorem Phase.Consistent.fails {job : AnsibleJob} {stored : AnsibleJobStatus} {phase : Phase}
    (h : phase.Consistent job stored) (code : JobFailureCode) :
    (Phase.finishing (.error code)).Consistent job stored := by
  cases phase with
  | started | located => exact .inr ⟨.inl h.1, h.2⟩
  | planned => exact .inl ⟨h.1.trans h.2.symm, .inl h.2⟩
  | prepared => exact .inl ⟨h.1.1.trans h.1.2.symm, .inl h.1.2⟩
  | marked | executing | executed => exact .inl h.1
  | reconciled => exact .inl h
  | finishing result =>
    cases result with
    | ok => exact .inl h
    | error => exact h

/-- The row of a running job is there and active. -/
theorem Owned.running_row (h : Owned s) {job : AnsibleJob} {stored : AnsibleJobStatus}
    {phase : Phase} (hp : s.proc p = .running job stored phase) :
    ∃ time, s.jobs.get job.id = some (moved job stored time) ∧ stored.isActive = true := by
  have hconsistent := h.consistent p
  have hcurrent := h.current_of_not_reporting (p := p) (e := ⟨job, stored⟩) (by rw [hp]; rfl)
    (by rw [hp]; exact .head _)
  rw [hp] at hconsistent
  obtain ⟨time, hrow⟩ := hcurrent
  exact ⟨time, hrow, Phase.Consistent.isActive hconsistent⟩

/-- The source of a running reconciliation is held by nobody else: only another active job of
the same target could. -/
private theorem source_free (h : Owned s) (hrec : Recorded s) {job source : AnsibleJob}
    {stored : AnsibleJobStatus} {phase : Phase} (hp : s.proc p = .running job stored phase)
    (hrow : s.jobs.get source.id = some source) (hsame : sourceMatches job source = true)
    {q : ProcId} (hq : q ≠ p) : source.id ∉ (s.proc q).heldIds := by
  intro hheld
  have hsource : source.status = .reconcileRequired ∧ source.target = job.target := by
    simp only [sourceMatches, Bool.and_eq_true, decide_eq_true_eq] at hsame
    exact ⟨hsame.1.1.1.1.1.1, hsame.1.1.1.2⟩
  obtain ⟨e, he, hid⟩ := List.mem_map.mp hheld
  rcases h.current q e he with hcurrent | ⟨-, hgone⟩
  · obtain ⟨time, rfl⟩ := hcurrent.row (hid ▸ hrow)
    have hstored : e.stored = .reconcileRequired := hsource.1
    rcases (h.consistent q).stored he with hactive | ⟨other, stored', phase', hother, -, -, hof⟩ |
        ⟨hqueued, -⟩
    · rw [hstored] at hactive
      cases hactive
    · -- both reconciliations are active on the target of the source
      obtain ⟨time, hjobRow, hjobActive⟩ := h.running_row hp
      obtain ⟨time', hotherRow, hotherActive⟩ := h.running_row hother
      have htarget : job.target = other.target :=
        hsource.2.symm.trans hof.reconcileRequired.2.2
      have hids := hrec.oneActive _ _ _ _ hjobRow hotherRow htarget hjobActive hotherActive
      refine h.alone p q hq.symm job.id ?_ ?_
      · rw [hp]
        exact .head _
      · rw [hids, hother]
        exact .head _
    · rw [hstored] at hqueued
      cases hqueued
  · have hnone := hgone.2.1
    rw [hid, hrow] at hnone
    cases hnone

/-- The index does not refuse the write of a running job. -/
private theorem running_noConflict (h : Owned s) (hrec : Recorded s) {job : AnsibleJob}
    {stored next : AnsibleJobStatus} {phase : Phase} {now : Timestamp}
    (hp : s.proc p = .running job stored phase) :
    s.jobs.activeConflict (moved job next now) = false := by
  rw [JobTable.activeConflict_eq_false]
  intro _ id other hother hne htarget
  obtain ⟨time, hrow, hactive⟩ := h.running_row hp
  by_contra hnot
  have hids := hrec.oneActive _ _ _ _ hother hrow htarget (by simpa using hnot) hactive
  exact hne ((JobTable.get_id hother).trans hids)

/-- The source is another job than its reconciliation: their modes differ. -/
private theorem source_ne (h : Owned s) {job source : AnsibleJob} {stored : AnsibleJobStatus}
    {phase : Phase} (hp : s.proc p = .running job stored phase) (hmode : job.mode = .reconcile)
    (hrow : s.jobs.get source.id = some source) (hsource : source.mode = .apply) :
    job.id ≠ source.id := by
  intro hids
  obtain ⟨time, hjob, -⟩ := h.running_row hp
  rw [hids, hrow] at hjob
  have hmodes : source.mode = job.mode := by rw [Option.some.inj hjob, moved_mode]
  rw [hsource, hmode] at hmodes
  cases hmodes

/-- A reconciliation takes up its source. -/
private theorem takes_source (h : Owned s) (hrec : Recorded s) {job source : AnsibleJob}
    {stored : AnsibleJobStatus} {target : Target}
    (hp : s.proc p = .running job stored (.planned target)) (hmode : job.mode = .reconcile)
    (hnamed : reconciliationSourceJobId job.idempotencyKey = some source.id)
    (hrow : s.jobs.get source.id = some source) (hsame : sourceMatches job source = true) :
    Takes s p (.running job stored (.prepared target (some source))) s := by
  have hof : SourceOf job (some source) := ⟨hmode, hnamed, hsame⟩
  have hconsistent := h.consistent p
  obtain ⟨time, hjob, -⟩ := h.running_row hp
  have hne := source_ne h hp hmode hrow hof.reconcileRequired.2.1
  rw [hp] at hconsistent
  refine ⟨fun e he => ?_, fun id hid => ?_, ?_, hconsistent, hof⟩
  · rcases List.mem_cons.mp he with rfl | he
    · exact .inl ⟨time, hjob⟩
    · obtain rfl := List.mem_singleton.mp he
      exact .inl (Held.current_read hrow)
  · rcases List.mem_cons.mp hid with rfl | hid
    · rw [hp]
      exact .inl (.head _)
    · obtain rfl := List.mem_singleton.mp hid
      exact .inr fun q hq => source_free h hrec hp hrow hsame hq
  · simpa [Proc.heldIds, Proc.holds, Phase.source, Held.read] using hne

/-- **A change without a write** keeps the copies in step with their rows. -/
theorem Owned.moves (h : Owned s) (hrec : Recorded s) (hok : Exclusive s a)
    (hmoves : Moves s p a (s.proc p) x) : Takes s p x s := by
  have hconsistent := h.consistent p
  generalize hp : s.proc p = before at hmoves hconsistent
  -- a process that is not reporting goes on with some of its copies
  have hgoes : before.isReporting = false → x.holds.Sublist before.holds → x.Consistent →
      Takes s p x s := by
    intro hlocked hsub hx
    exact .sublist h (hp ▸ hlocked) (hp ▸ hsub) hx
  cases hmoves with
  | ends | recovered | releases | drops | asks | finds | checks => exact .nothing rfl trivial
  | starts => exact takes_list hok
  | skips hinactive =>
    refine hgoes rfl ?_ trivial
    simp [Proc.holds, hinactive]
  | selects hrow hclaimable _ =>
    simp only [JobTable.claimable, Bool.and_eq_true, decide_eq_true_eq] at hclaimable
    exact .one hrow hok rfl hclaimable.1.1.1
  | windowsSelects hrow hclaimable _ =>
    simp only [JobTable.windowsClaimable, Bool.and_eq_true, decide_eq_true_eq] at hclaimable
    exact .one hrow hok rfl hclaimable.1.1.2
  | reports hrow hopen => exact .one hrow hok rfl hopen
  | @fails _ job stored phase code =>
    have hx := Phase.Consistent.fails hconsistent code
    exact hgoes rfl (List.cons_sublist_cons.mpr (List.nil_sublist _)) hx
  | locates => exact hgoes rfl (.refl _) hconsistent
  | @planFails _ job stored target now code =>
    obtain ⟨time, hrow, -⟩ := h.running_row hp
    refine ⟨fun e he => ?_, fun id hid => ?_, by simp [Proc.heldIds, Proc.holds, Phase.source], ?_⟩
    · obtain rfl := List.mem_singleton.mp he
      exact .inl ⟨time, hrow⟩
    · rw [hp]
      exact .inl hid
    · exact .inr ⟨.inr rfl, hconsistent.2⟩
  | prepares hmode => exact hgoes rfl (.refl _) ⟨hconsistent, hmode⟩
  | loads hmode hnamed hrow hsame => exact takes_source h hrec hp hmode hnamed hrow hsame
  | marks _ =>
    obtain ⟨⟨hstatus, hstored⟩, hof⟩ := hconsistent
    exact hgoes rfl (.refl _) ⟨⟨hstatus.trans hstored.symm, .inl hstored⟩, hof⟩
  | @markFails job stored target source now dbFails code _ hcause =>
    rcases hcause with hdb | ⟨-, hconflict⟩
    · have hsucceeds : dbFails = false := hok
      rw [hdb] at hsucceeds
      cases hsucceeds
    · rw [running_noConflict h hrec hp] at hconflict
      cases hconflict
  | executes | executed => exact hgoes rfl (.refl _) hconsistent
  | reconciles _ =>
    exact hgoes rfl (List.cons_sublist_cons.mpr (List.nil_sublist _)) hconsistent.1
  | returns => exact hgoes rfl (.refl _) hconsistent

/-! ### Writes of a process -/

/-- What a write of process `p` comes from and leaves it with. -/
structure Written (s : Fleet) (p : ProcId) (job : AnsibleJob) (path : List AnsibleJobStatus)
    (x : Proc) : Prop where
  /-- The job is a copy the process holds, moved along the lifecycle. -/
  origin : ∃ e ∈ (s.proc p).holds, (∃ time, job = moved e.job job.status time) ∧
    LifecyclePath (e.stored :: path)
  /-- The copies it goes on with are of other jobs, or of what was written. -/
  holds : ∀ f ∈ x.holds, f.Current s ∧ f.job.id ≠ job.id ∨ ∃ time, job = moved f.job f.stored time
  ids : x.heldIds.Sublist (s.proc p).heldIds
  consistent : x.Consistent
  /-- Only rows of reported jobs can have been deleted. -/
  lost : s.jobs.get job.id = none → x = .down

/-- A process with one copy that writes it: nothing else is held afterwards. -/
private theorem written_one {before : Proc} {copy : AnsibleJob} {stored : AnsibleJobStatus}
    {job : AnsibleJob} {path : List AnsibleJobStatus} (h : Owned s) (hp : s.proc p = before)
    (hlocked : before.isReporting = false) (hcopy : ⟨copy, stored⟩ ∈ before.holds)
    (hjob : ∃ time, job = moved copy job.status time)
    (hpath : LifecyclePath (stored :: path))
    (hx : x.holds = [] ∨ x.holds = [⟨job, job.status⟩]) (hconsistent : x.Consistent) :
    Written s p job path x := by
  subst hp
  obtain ⟨time, htime⟩ := hjob
  have hid : job.id = copy.id := by rw [htime, moved_id]
  refine ⟨⟨_, hcopy, ⟨time, htime⟩, hpath⟩, fun f hf => ?_, ?_, hconsistent, fun hgone => ?_⟩
  · rcases hx with hx | hx
    · simp [hx] at hf
    · rw [hx, List.mem_singleton] at hf
      subst hf
      exact .inr ⟨job.updatedAt, rfl⟩
  · rcases hx with hx | hx
    · simp [Proc.heldIds, hx]
    · simp only [Proc.heldIds, hx, List.map_cons, List.map_nil, List.singleton_sublist]
      exact hid ▸ List.mem_map_of_mem hcopy
  · obtain ⟨time, hrow⟩ := h.current_of_not_reporting hlocked hcopy
    rw [hid] at hgone
    rw [hgone] at hrow
    cases hrow

/-- A recovered job is given up with its write. -/
private theorem written_recovered (h : Owned s) {job : AnsibleJob} {rest : List AnsibleJob}
    {next : AnsibleJobStatus} {now : Timestamp} (hp : s.proc p = .recovering (job :: rest))
    (hnext : recoveredStatus job.status = some next) :
    Written s p (moved job next now) [next] (.recovering rest) := by
  have hactive : job.status.isActive = true := by
    cases hstatus : job.status <;> simp [recoveredStatus, hstatus] at hnext <;> rfl
  have hholds : (s.proc p).holds = .read job :: (Proc.recovering rest).holds := by
    simp [hp, Proc.holds, hactive]
  have hdistinct := h.distinct p
  rw [Proc.heldIds, hholds, List.map_cons, List.nodup_cons] at hdistinct
  have hcurrent : ∀ e ∈ (s.proc p).holds, e.Current s := fun e he =>
    h.current_of_not_reporting (by rw [hp]; rfl) he
  have hmem : Held.read job ∈ (s.proc p).holds := hholds ▸ .head _
  refine ⟨⟨.read job, hmem, ⟨now, rfl⟩, ?_⟩, fun f hf => .inl ⟨hcurrent f ?_, ?_⟩, ?_, trivial,
    fun hgone => ?_⟩
  · simpa [LifecyclePath, Held.read] using recoveredStatus_edge hnext
  · exact hholds ▸ .tail _ hf
  · intro hid
    exact hdistinct.1 (List.mem_map.mpr ⟨f, hf, hid⟩)
  · rw [Proc.heldIds, Proc.heldIds, hholds, List.map_cons]
    exact List.sublist_cons_self _ _
  · obtain ⟨time, hrow⟩ := hcurrent _ hmem
    rw [moved_id] at hgone
    rw [Held.read, hgone] at hrow
    cases hrow

/-- A source is given up with its write, and its reconciliation goes on. -/
private theorem written_source (h : Owned s) {job source : AnsibleJob} {stored : AnsibleJobStatus}
    {decision : ReconciliationDecision} {now : Timestamp}
    (hp : s.proc p = .running job stored (.executed true (some source))) :
    Written s p (moved source (sourceStatus decision) now) [sourceStatus decision]
      (.running job stored (.reconciled true)) := by
  have hconsistent := h.consistent p
  have hdistinct := h.distinct p
  rw [hp] at hconsistent hdistinct
  have hholds : (s.proc p).holds = [⟨job, stored⟩, .read source] := by
    rw [hp]
    rfl
  have hcurrent : ∀ e ∈ (s.proc p).holds, e.Current s := fun e he =>
    h.current_of_not_reporting (by rw [hp]; rfl) he
  have hmem : Held.read source ∈ (s.proc p).holds := by simp [hholds]
  have hstatus : source.status = .reconcileRequired := hconsistent.2.reconcileRequired.1
  refine ⟨⟨.read source, hmem, ⟨now, rfl⟩, ?_⟩, fun f hf => .inl ⟨hcurrent f ?_, ?_⟩, ?_,
    hconsistent.1, fun hgone => ?_⟩
  · cases decision <;>
      simp [LifecyclePath, Held.read, hstatus, sourceStatus, AnsibleJobStatus.canTransitionTo]
  · obtain rfl := List.mem_singleton.mp hf
    simp [hholds]
  · obtain rfl := List.mem_singleton.mp hf
    simpa [Proc.heldIds, Proc.holds, Phase.source, Held.read] using hdistinct
  · rw [hp]
    exact List.cons_sublist_cons.mpr (List.nil_sublist _)
  · obtain ⟨time, hrow⟩ := hcurrent _ hmem
    rw [moved_id] at hgone
    rw [Held.read, hgone] at hrow
    cases hrow

/-- The final status of a run is an edge from the status last written. -/
private theorem finalStatus_edge {job : AnsibleJob} {stored : AnsibleJobStatus}
    {result : Except JobFailureCode Bool}
    (h : (Phase.finishing result).Consistent job stored) :
    stored.canTransitionTo (finalStatus job result.isOk) = true := by
  cases result with
  | ok changed =>
    rcases h with ⟨-, rfl | rfl⟩ <;> rfl
  | error code =>
    rcases h with ⟨rfl, hstatus | hstatus⟩ | ⟨hstatus | hstatus, rfl⟩ <;>
      by_cases hmode : job.mode = .apply <;>
      simp [finalStatus, hstatus, hmode, Except.isOk, Except.toBool,
        AnsibleJobStatus.canTransitionTo]

/-- **A change with a write** takes the row along its lifecycle and keeps the other copies. -/
theorem Owned.writes (h : Owned s) {job : AnsibleJob} {path : List AnsibleJobStatus}
    (hwrites : Writes p a (s.proc p) job path x) : Written s p job path x := by
  have hconsistent := h.consistent p
  generalize hp : s.proc p = before at hwrites hconsistent
  cases hwrites with
  | recovers hnext => exact written_recovered h hp hnext
  | claims hedge =>
    refine written_one h hp rfl (List.mem_singleton_self _) ⟨_, rfl⟩ ?_ (.inr rfl) ⟨rfl, rfl⟩
    simpa [LifecyclePath] using hedge
  | plans =>
    refine written_one h hp rfl (.head _) ⟨_, rfl⟩ ?_ (.inr rfl) ⟨rfl, rfl⟩
    rw [hconsistent.2]
    simp [LifecyclePath, AnsibleJobStatus.canTransitionTo]
  | @marks job stored target source now hmode =>
    obtain ⟨⟨-, hstored⟩, hof⟩ := hconsistent
    -- an application has no source
    cases source with
    | some source =>
      have hreconcile := hof.1
      rw [hmode] at hreconcile
      cases hreconcile
    | none =>
      refine written_one h hp rfl (.head _) ⟨_, rfl⟩ ?_ (.inr rfl) ⟨⟨rfl, .inr rfl⟩, hof⟩
      rw [hstored]
      simp [LifecyclePath, AnsibleJobStatus.canTransitionTo]
  | resolves => exact written_source h hp
  | finishes =>
    refine written_one h hp rfl (.head _) ⟨_, rfl⟩ ?_ (.inl rfl) trivial
    simpa [LifecyclePath] using finalStatus_edge hconsistent
  | @windowsClaims copy _ now hpath =>
    obtain ⟨hchain, rfl⟩ := claimPath_ok hpath
    refine written_one h hp rfl (List.mem_singleton_self _) ⟨now, rfl⟩ hchain
      (.inr rfl) ?_
    change (claimedStatus copy.mode).isActive = true
    unfold claimedStatus
    split <;> rfl
  | @refuses copy _ now hpath =>
    obtain ⟨hchain, rfl⟩ := resultPath_ok hpath
    exact written_one h hp rfl (List.mem_singleton_self _) ⟨now, rfl⟩ hchain
      (.inl rfl) trivial
  | @reports copy _ succeeded now hpath =>
    obtain ⟨hchain, rfl⟩ := resultPath_ok hpath
    refine ⟨⟨.read copy, ?_, ⟨now, rfl⟩, hchain⟩, by simp [Proc.holds],
      by simp [Proc.heldIds, Proc.holds], trivial, fun _ => rfl⟩
    rw [hp]
    exact .head _

/-! ### Steps of the fleet -/

/-- A row that is written, where the index allows it. -/
theorem Recorded.put (h : Recorded s) {job : AnsibleJob}
    (hconflict : s.jobs.activeConflict job = false) :
    Recorded ((s.setJobs (s.jobs.put job)).record job.id job.status) where
  recorded id row hrow := by
    simp only [Fleet.jobs_record, Fleet.jobs_setJobs, JobTable.get_put] at hrow
    rw [Fleet.history_record]
    split at hrow
    · rename_i hid
      refine ⟨(s.history.get job.id).getD [], ?_⟩
      rw [if_pos hid, Fleet.history_setJobs, ← Option.some.inj hrow]
    · rename_i hid
      rw [if_neg hid]
      exact h.recorded id row hrow
  oneActive id id' row row' hrow hrow' htarget hactive hactive' := by
    simp only [Fleet.jobs_record, Fleet.jobs_setJobs, JobTable.get_put] at hrow hrow'
    rw [JobTable.activeConflict_eq_false] at hconflict
    split at hrow <;> split at hrow'
    · rename_i hid hid'
      exact hid.trans hid'.symm
    · rename_i hid hid'
      obtain rfl := Option.some.inj hrow
      have hother := hconflict hactive id' row' hrow'
        (JobTable.get_id hrow' ▸ hid') htarget.symm
      rw [hother] at hactive'
      cases hactive'
    · rename_i hid hid'
      obtain rfl := Option.some.inj hrow'
      have hother := hconflict hactive' id row hrow (JobTable.get_id hrow ▸ hid) htarget
      rw [hother] at hactive
      cases hactive
    · exact h.oneActive id id' row row' hrow hrow' htarget hactive hactive'

/-- Only process `p` changes, and the copies of the others stay as good as they are. -/
theorem Owned.update (h : Owned s) (hp : Takes s p (s'.proc p) s')
    (hothers : ∀ q, q ≠ p → s'.proc q = s.proc q)
    (hkeeps : ∀ q, q ≠ p → ∀ e ∈ (s.proc q).holds,
      e.Current s ∨ (s.proc q).isReporting = true ∧ e.Gone s →
      e.Current s' ∨ (s.proc q).isReporting = true ∧ e.Gone s') : Owned s' where
  current q e he := by
    by_cases hq : q = p
    · subst hq
      exact hp.current e he
    · rw [hothers q hq] at he ⊢
      exact hkeeps q hq e he (h.current q e he)
  alone q r hqr id hid := by
    by_cases hq : q = p
    · subst hq
      rw [hothers r hqr.symm]
      rcases hp.free id hid with hheld | hfree
      · exact h.alone q r hqr id hheld
      · exact hfree r hqr.symm
    · rw [hothers q hq] at hid
      by_cases hr : r = p
      · subst hr
        intro hid'
        rcases hp.free id hid' with hheld | hfree
        · exact h.alone q r hqr id hid hheld
        · exact hfree q hq hid
      · rw [hothers r hr]
        exact h.alone q r hqr id hid
  distinct q := by
    by_cases hq : q = p
    · subst hq
      exact hp.distinct
    · rw [hothers q hq]
      exact h.distinct q
  consistent q := by
    by_cases hq : q = p
    · subst hq
      exact hp.consistent
    · rw [hothers q hq]
      exact h.consistent q

/-- A change of one process alone. -/
theorem Owned.setProc (h : Owned s) (hx : Takes s p x s) : Owned (s.setProc p x) := by
  refine h.update (p := p) ?_ (fun q hq => ?_) fun q hq e he hcurrent => hcurrent
  · rw [Fleet.proc_setProc_self]
    exact ⟨hx.current, hx.free, hx.distinct, hx.consistent⟩
  · rw [Fleet.proc_setProc, if_neg hq]

/-- Copies of other jobs stay as good as they are when a row is written. -/
private theorem current_put {job : AnsibleJob} {e : Held} {b : Bool}
    (hjobs : s'.jobs = s.jobs.put job)
    (hhistory : ∀ id, (s.history.get id).isSome → (s'.history.get id).isSome)
    (hne : e.job.id ≠ job.id) (h : e.Current s ∨ b = true ∧ e.Gone s) :
    e.Current s' ∨ b = true ∧ e.Gone s' := by
  have hsame : s'.jobs.get e.job.id = s.jobs.get e.job.id := by
    rw [hjobs, JobTable.get_put_ne _ _ hne]
  rcases h with ⟨time, hrow⟩ | ⟨hb, hstored, hnone, hseen⟩
  · exact .inl ⟨time, hsame.trans hrow⟩
  · exact .inr ⟨hb, hstored, hsame.trans hnone, hhistory _ hseen⟩

/-- Recorded statuses are never lost. -/
private theorem history_record_isSome (s : Fleet) (id : AnsibleJobId) (status : AnsibleJobStatus)
    (id' : AnsibleJobId) (h : (s.history.get id').isSome) :
    ((s.record id status).history.get id').isSome := by
  rw [Fleet.history_record]
  split
  · rfl
  · exact h

/-- A row that nobody holds is written. -/
private theorem owned_put (h : Owned s) {job : AnsibleJob}
    (hfree : ∀ q, job.id ∉ (s.proc q).heldIds) :
    Owned ((s.setJobs (s.jobs.put job)).record job.id job.status) where
  current q e he := by
    refine current_put rfl (history_record_isSome _ _ _) (fun hid => ?_) (h.current q e he)
    exact hfree q (List.mem_map.mpr ⟨e, he, hid⟩)
  alone := h.alone
  distinct := h.distinct
  consistent := h.consistent

/-- A process writes the row of a job it holds. -/
private theorem owned_write (h : Owned s) {job : AnsibleJob} {path : List AnsibleJobStatus}
    (hw : Written s p job path x) :
    Owned (((s.setJobs (s.jobs.put job)).record job.id job.status).setProc p x) := by
  obtain ⟨e, he, ⟨time, hjob⟩, -⟩ := hw.origin
  have hid : e.job.id = job.id := by rw [hjob, moved_id]
  have hheld : job.id ∈ (s.proc p).heldIds := List.mem_map.mpr ⟨e, he, hid⟩
  refine h.update (p := p) ?_ (fun q hq => ?_) fun q hq f hf hcurrent => ?_
  · rw [Fleet.proc_setProc_self]
    refine ⟨fun f hf => ?_, fun id hid => .inl (hw.ids.subset hid),
      hw.ids.nodup (h.distinct p), hw.consistent⟩
    rcases hw.holds f hf with ⟨hcurrent, hne⟩ | ⟨time, hwritten⟩
    · exact current_put rfl (history_record_isSome _ _ _) hne (.inl hcurrent)
    · refine .inl ⟨time, ?_⟩
      have hsame : f.job.id = job.id := by rw [hwritten, moved_id]
      rw [← hwritten, hsame]
      exact JobTable.get_put_self _ _
  · rw [Fleet.proc_setProc, if_neg hq, Fleet.proc_record, Fleet.proc_setJobs]
  · refine current_put rfl (history_record_isSome _ _ _) (fun hsame => ?_) hcurrent
    exact h.alone p q hq.symm job.id hheld (hsame ▸ List.mem_map_of_mem hf)

/-- Only jobs that were stored at some time are held. -/
private theorem history_of_held (hrec : Recorded s) (h : Owned s) {q : ProcId} {id : AnsibleJobId}
    (hheld : id ∈ (s.proc q).heldIds) : (s.history.get id).isSome := by
  obtain ⟨e, he, rfl⟩ := List.mem_map.mp hheld
  rcases h.current q e he with ⟨time, hrow⟩ | ⟨-, -, -, hseen⟩
  · obtain ⟨past, hpast⟩ := hrec.recorded _ _ hrow
    rw [hpast]
    rfl
  · exact hseen

/-- Nobody holds a failed job. -/
private theorem failed_not_held (h : Owned s) {id : AnsibleJobId} {job : AnsibleJob}
    (hrow : s.jobs.get id = some job) (hfailed : job.status = .failed) (q : ProcId) :
    id ∉ (s.proc q).heldIds := by
  intro hheld
  obtain ⟨e, he, rfl⟩ := List.mem_map.mp hheld
  rcases h.current q e he with hcurrent | ⟨-, -, hnone, -⟩
  · obtain ⟨time, rfl⟩ := hcurrent.row hrow
    have hstored : e.stored = .failed := hfailed
    rcases (h.consistent q).stored he with hactive | ⟨_, _, _, _, _, hsource, _⟩ | ⟨hqueued, _⟩
    · simp [hstored, AnsibleJobStatus.isActive] at hactive
    · simp [hstored] at hsource
    · simp [hstored] at hqueued
  · rw [hrow] at hnone
    cases hnone

/-- A deleted row is held by reports only. -/
private theorem current_delete (h : Owned s) (hrec : Recorded s) {id : TargetId} {db : Database}
    (hunclaimed : ∀ q, (s.proc q).claims (.target id) = false)
    (hidle : ∀ id' job, s.jobs.get id' = some job → job.target = .target id →
      Database.blocksDeletion job.status = false)
    (hjobs : db.ansibleJobs = s.jobs.retain fun job => job.target ≠ .target id)
    (q : ProcId) {e : Held} (he : e ∈ (s.proc q).holds) :
    e.Current { s with db := db } ∨ (s.proc q).isReporting = true ∧ e.Gone { s with db := db } := by
  have hget : ∀ id', (Fleet.jobs { s with db := db }).get id'
      = (s.jobs.get id').filter fun job => job.target ≠ .target id := by
    intro id'
    rw [Fleet.jobs, hjobs, JobTable.get_retain]
  rcases h.current q e he with ⟨time, hrow⟩ | ⟨hreporting, hstored, hnone, hseen⟩
  · by_cases htarget : e.job.target = .target id
    · have hopen : Database.blocksDeletion e.stored = false := hidle _ _ hrow htarget
      simp only [Database.blocksDeletion, Bool.or_eq_false_iff, decide_eq_false_iff_not] at hopen
      rcases (h.consistent q).stored he with hactive | ⟨_, _, _, _, _, hsource, _⟩ |
          ⟨hqueued, hclaims | hreporting⟩
      · rw [hopen.1] at hactive
        cases hactive
      · exact absurd hsource hopen.2
      · rw [htarget, hunclaimed q] at hclaims
        cases hclaims
      · obtain ⟨past, hpast⟩ := hrec.recorded _ _ hrow
        refine .inr ⟨hreporting, hqueued, ?_, by rw [hpast]; rfl⟩
        rw [hget, hrow]
        simp [htarget]
    · refine .inl ⟨time, ?_⟩
      rw [hget, hrow]
      simp [htarget]
  · exact .inr ⟨hreporting, hstored, by rw [hget, hnone]; rfl, hseen⟩

/-- Rows that are deleted are forgotten, their statuses are not. -/
private theorem recorded_delete (hrec : Recorded s) {f : AnsibleJob → Bool} {db : Database}
    (hjobs : db.ansibleJobs = s.jobs.retain f) : Recorded { s with db := db } := by
  have hkept : ∀ id row, (Fleet.jobs { s with db := db }).get id = some row →
      s.jobs.get id = some row := by
    intro id row hrow
    rw [Fleet.jobs, hjobs, JobTable.get_retain, Option.filter_eq_some_iff] at hrow
    exact hrow.1
  exact ⟨fun id row hrow => hrec.recorded id row (hkept id row hrow),
    fun id id' row row' hrow hrow' =>
      hrec.oneActive id id' row row' (hkept id row hrow) (hkept id' row' hrow')⟩

/-- **One step** keeps the copies in step with their rows, and the rows on their lifecycle. -/
theorem owned_step (hrec : Recorded s) (h : Owned s) (hok : Exclusive s a)
    (hs : s.step a = some s') : Recorded s' ∧ Owned s' := by
  have hinactive : ∀ {job : AnsibleJob}, job.status = .queued →
      s.jobs.activeConflict job = false := by
    intro job hjob
    rw [JobTable.activeConflict_eq_false, hjob]
    intro hactive
    cases hactive
  -- a job under a new id is not held
  have hnew : ∀ {id : AnsibleJobId}, s.history.get id = none → ∀ q, id ∉ (s.proc q).heldIds := by
    intro id hfresh q hheld
    have hseen := history_of_held hrec h hheld
    rw [hfresh] at hseen
    cases hseen
  cases effect_step hs with
  | move hmoves =>
    exact ⟨⟨hrec.recorded, hrec.oneActive⟩, h.setProc (h.moves hrec hok hmoves)⟩
  | miss hwrites hgone =>
    obtain rfl := (h.writes hwrites).lost hgone
    exact ⟨⟨hrec.recorded, hrec.oneActive⟩, h.setProc (.nothing rfl trivial)⟩
  | write hwrites _ _ hconflict =>
    have hrows := hrec.put hconflict
    exact ⟨⟨hrows.recorded, hrows.oneActive⟩, owned_write h (h.writes hwrites)⟩
  | @submit request newId now _ _ hfresh _ =>
    exact ⟨@Recorded.put s hrec (.queuedFor request newId now) (hinactive rfl),
      owned_put h (hnew hfresh)⟩
  | @reconciliation _ source newId now _ _ hfresh _ _ =>
    have hrows := @Recorded.put s hrec (AnsibleJobCoordinator.reconciliationOf source newId now)
      (hinactive rfl)
    exact ⟨⟨hrows.recorded, hrows.oneActive⟩,
      (owned_put h (hnew hfresh)).setProc (.nothing rfl trivial)⟩
  | @requeue id job now _ hfound hfailed _ =>
    obtain rfl := JobTable.get_id hfound
    exact ⟨@Recorded.put s hrec (moved job .queued now) (hinactive rfl),
      owned_put h (failed_not_held h hfound hfailed)⟩
  | target =>
    exact ⟨⟨hrec.recorded, hrec.oneActive⟩, ⟨h.current, h.alone, h.distinct, h.consistent⟩⟩
  | delete hunclaimed hidle hjobs _ =>
    exact ⟨recorded_delete hrec hjobs, ⟨fun q e he => current_delete h hrec hunclaimed hidle hjobs q
      he, h.alone, h.distinct, h.consistent⟩⟩

/-! ### The statuses written -/

/-- The statuses written to every job are a path of the lifecycle. -/
def Fleet.OnLifecycle (s : Fleet) : Prop :=
  ∀ id past, s.history.get id = some past → LifecyclePath past

/-- A statement that takes its row over one edge writes a copy that went over one edge. -/
private theorem path_of_oneEdge {job : AnsibleJob} {path : List AnsibleJobStatus}
    (hok : OneEdge s a) (hwrites : Writes p a (s.proc p) job path x) : path = [job.status] := by
  generalize hp : s.proc p = before at hwrites
  cases hwrites with
  | recovers | claims | plans | marks | resolves | finishes => rfl
  | @windowsClaims copy _ now hpath =>
    obtain ⟨-, rfl⟩ := claimPath_ok hpath
    have hmode : copy.mode ≠ .apply := by simpa [OneEdge, hp, Proc.claimsApplication] using hok
    simp [claimPath, claimedStatus, hmode]
  | refuses hpath =>
    obtain ⟨-, rfl⟩ := resultPath_ok hpath
    rfl
  | @reports copy _ succeeded now hpath =>
    obtain ⟨-, rfl⟩ := resultPath_ok hpath
    cases succeeded with
    | true =>
      have hmode : copy.mode = .apply := by simpa [OneEdge, hp, Proc.reportsCheck] using hok
      simp [resultPath, hmode]
    | false =>
      have hstatus : reportStatus copy.mode false ≠ .succeeded := by
        unfold reportStatus
        cases copy.mode <;> decide
      simp [resultPath, hstatus]

/-- One more status is recorded, over an edge from the last one. -/
private theorem onLifecycle_record (h : s.OnLifecycle) {id : AnsibleJobId}
    {status : AnsibleJobStatus} (hpath : LifecyclePath ((s.history.get id).getD [] ++ [status])) :
    (s.record id status).OnLifecycle := by
  intro id' past hpast
  rw [Fleet.history_record] at hpast
  split at hpast
  · exact Option.some.inj hpast ▸ hpath
  · exact h id' past hpast

/-- The last recorded status of a row, with one more behind it. -/
private theorem lifecyclePath_next (hrec : Recorded s) (h : s.OnLifecycle) {id : AnsibleJobId}
    {row : AnsibleJob} {status : AnsibleJobStatus} (hrow : s.jobs.get id = some row)
    (hedge : row.status.canTransitionTo status = true) :
    LifecyclePath ((s.history.get id).getD [] ++ [status]) := by
  obtain ⟨past, hpast⟩ := hrec.recorded id row hrow
  rw [hpast]
  exact (h id _ hpast).append_overlap (by simpa using hedge) (by simp)

/-- A process that writes takes the row over the edges of its copy. -/
private theorem row_edge (h : Owned s) {job row : AnsibleJob} {path : List AnsibleJobStatus}
    (hok : OneEdge s a) (hwrites : Writes p a (s.proc p) job path x)
    (hfound : s.jobs.get job.id = some row) : row.status.canTransitionTo job.status = true := by
  obtain ⟨e, he, ⟨time, hjob⟩, hpath⟩ := (h.writes hwrites).origin
  have hid : e.job.id = job.id := by rw [hjob, moved_id]
  rw [path_of_oneEdge hok hwrites] at hpath
  rcases h.current p e he with hcurrent | ⟨-, -, hnone, -⟩
  · obtain ⟨time, rfl⟩ := hcurrent.row (hid ▸ hfound)
    simpa [LifecyclePath] using hpath
  · rw [hid, hfound] at hnone
    cases hnone

/-- **One step** over one edge keeps the rows on their lifecycle. -/
theorem onLifecycle_step (hrec : Recorded s) (h : Owned s) (hpaths : s.OnLifecycle)
    (hok : OneEdge s a) (hs : s.step a = some s') : s'.OnLifecycle := by
  -- a job under a new id has no statuses yet
  have hnew : ∀ {id : AnsibleJobId}, s.history.get id = none →
      LifecyclePath ((s.history.get id).getD [] ++ [.queued]) := by
    intro id hfresh
    simp [hfresh, LifecyclePath]
  cases effect_step hs with
  | move | miss | target | delete => exact hpaths
  | write hwrites hfound _ _ =>
    exact @onLifecycle_record (s.setJobs _) hpaths _ _
      (lifecyclePath_next hrec hpaths hfound (row_edge h hok hwrites hfound))
  | submit _ _ hfresh _ => exact @onLifecycle_record (s.setJobs _) hpaths _ _ (hnew hfresh)
  | reconciliation _ _ hfresh _ _ =>
    exact @onLifecycle_record (s.setJobs _) hpaths _ _ (hnew hfresh)
  | @requeue id job now _ hfound hfailed _ =>
    refine @onLifecycle_record (s.setJobs _) hpaths _ _ (lifecyclePath_next hrec hpaths hfound ?_)
    simp [hfailed, AnsibleJobStatus.canTransitionTo]

end

/-! ### Runs -/

/-- The statuses written to the row of every job are a path of the lifecycle that ends in the
status of the row, and no process works from a copy older than the row. -/
structure WrittenInOrder (s : Fleet) : Prop where
  paths : s.OnLifecycle
  last : ∀ id row, s.jobs.get id = some row →
    ∃ past, s.history.get id = some (past ++ [row.status])
  fresh : ∀ p, ∀ e ∈ (s.proc p).holds, ∀ row, s.jobs.get e.job.id = some row →
    row.status = e.stored

/-- The invariants hold in every state of the runs whose steps are exclusive. -/
theorem owned_of_exclusive {ok : Fleet → FleetAction → Prop} (hok : ∀ s a, ok s a → Exclusive s a)
    {s : Fleet} (h : fleetMachine.Reach ok s) : Recorded s ∧ Owned s := by
  refine h.invariant ?_ fun s a s' _ hinv hstep hs => owned_step hinv.1 hinv.2 (hok s a hstep) hs
  rintro s rfl
  refine ⟨⟨?_, ?_⟩, ⟨?_, ?_, ?_, ?_⟩⟩ <;>
    simp [Fleet.initial, Fleet.jobs, Fleet.proc, Proc.heldIds, Proc.holds, Proc.Consistent]

/-- **Every run.**  Where no process takes up a job that another one holds, no write of
`applying` fails and no statement takes a row over several edges, the statuses of every job are
written in the order of its lifecycle. -/
theorem writtenInOrder_of_stepwise {s : Fleet} (h : fleetMachine.Reach Stepwise s) :
    WrittenInOrder s := by
  have hinv : ∀ {s}, fleetMachine.Reach Stepwise s → Recorded s ∧ Owned s := fun hreach =>
    owned_of_exclusive (fun _ _ hok => hok.1) hreach
  obtain ⟨hrec, howned⟩ := hinv h
  have hpaths : s.OnLifecycle := by
    refine h.invariant ?_ fun s a s' hreach hpaths hok hs =>
      onLifecycle_step (hinv hreach).1 (hinv hreach).2 hpaths hok.2 hs
    rintro s rfl
    simp [Fleet.OnLifecycle, Fleet.initial]
  refine ⟨hpaths, hrec.recorded, fun p e he row hrow => ?_⟩
  rcases howned.current p e he with hcurrent | ⟨-, -, hnone, -⟩
  · obtain ⟨time, rfl⟩ := hcurrent.row hrow
    rfl
  · rw [hrow] at hnone
    cases hnone

/-! ### Fixed runs -/

/-- Worker `1` claims a repair of the sample target's agent; `more` follows. -/
def claimedRepair (more : List FleetAction) : List FleetAction :=
  [.putTarget (sampleTarget .linuxServer .ssh),
    .submit (sampleRequest .apply .repairAgent "repair") ⟨⟨1⟩⟩ 0, .restart 1,
    .recoverNext 1 0 false, .recoverNext 1 0 false, .claimSelect 1 ⟨⟨1⟩⟩,
    .claimCommit 1 1 false] ++ more

/-- The worker carries the job through to its end. -/
theorem finished_repair_in_order :
    ∃ s, fleetMachine.Reach Stepwise s ∧
      s.history.get ⟨⟨1⟩⟩ = some [.queued, .checking, .planned, .applying, .succeeded] ∧
      WrittenInOrder s := by
  have hrun : ∃ s ∈ fleetMachine.exec Stepwise .initial (claimedRepair
      [.findTarget 1 false, .writePlanned 1 2 false, .loadSource 1 false, .markApplying 1 3 false,
        .startPlaybook 1, .playbookDone 1 true, .reconcile 1 .completed 4 false,
        .finishRun 1 true .playbookFailed, .writeResult 1 5 false]),
      s.history.get ⟨⟨1⟩⟩ = some [.queued, .checking, .planned, .applying, .succeeded] := by
    decide +kernel
  obtain ⟨s, hexec, hhistory⟩ := hrun
  have hreach : fleetMachine.Reach Stepwise s := .exec (.init rfl) _ hexec
  exact ⟨s, hreach, hhistory, writtenInOrder_of_stepwise hreach⟩

/-- A second worker starts, recovers the job as failed, and the first goes on with its copy. -/
theorem recovered_job_overwritten :
    ¬ ∀ s, fleetMachine.Reach Machine.Any s → WrittenInOrder s := by
  intro hall
  have hrun : ∃ s ∈ fleetMachine.exec Machine.Any .initial (claimedRepair
      [.restart 2, .recoverNext 2 2 false, .findTarget 1 false, .writePlanned 1 3 false]),
      s.history.get ⟨⟨1⟩⟩ = some [.queued, .checking, .failed, .planned] := by
    decide +kernel
  obtain ⟨s, hexec, hhistory⟩ := hrun
  have hpath := (hall s (.exec (.init rfl) _ hexec)).paths _ _ hhistory
  simp [LifecyclePath, AnsibleJobStatus.canTransitionTo] at hpath

end Lxcup.Queue
