import Lxcup.Queue.Barrier
import Lxcup.Queue.DeadEnd
import Lxcup.Queue.Reconciliation

/-!
# What the reconciliation of a job needs

A job in `reconcile_required` blocks its target until it has been reconciled, and that takes more
than a request that is not refused.  A worker has to be able to claim the reconciliation and to
carry it out, so the target is no Windows server and passes the checks of a run; no other job of
the target may be active or wait as well, for then each refuses the request for the other; and
the key of the reconciliation, which is given once, must not have been used up.

`LeavesWayOut` says of a step that it takes none of this away, and `WayOut` is the invariant of
such runs.

## Main definitions

* `serves` — a worker could carry out a job on its target.
* `KeepsServed`, `KeepsKeys`, `LeavesWayOut` — the conditions on steps.
* `Turn` — what a write does to the status of a row.
* `WayOut` — what every job that waits for its reconciliation has.

## Main results

* `turn_of_writes` — every write is such a turn.
* `wayOut_step` — one step keeps the way out.
* `wayOut_of_leavesWayOut` — every run.
-/

namespace Lxcup.Queue

open Lxcup.Lib Lxcup.Core Lxcup.Ansible Lxcup.Persistence Lxcup.Server Lxcup.Worker
open Lxcup.Ansible.AnsibleJob (LifecyclePath)

/-! ### Conditions on steps -/

/-- The job is for a target that there is, that workers see to, and whose checks it passes. -/
def serves (targets : Table TargetId Target) (job : AnsibleJob) : Bool :=
  match job.target with
  | .target id =>
    match targets.get id with
    | some target => target.kind ≠ .windowsServer && (checkTarget job target).isOk
    | none => false
  | _ => false

/-- Jobs get to wait for a reconciliation, and go on waiting, only on targets that serve them. -/
def KeepsServed (s : Fleet) : FleetAction → Prop
  | .recoverNext p _ false | .writeResult p _ false | .reportWrite p _ false =>
    ∀ job ∈ (s.proc p).unresolved, serves s.db.targets job = true
  | .putTarget target => ∀ job ∈ s.jobs.list, job.status = .reconcileRequired →
      serves (s.db.targets.put target.id target) job = true
  | _ => True

/-- No request takes the key of a reconciliation, and a job is not tried again once its
reconciliation has been queued. -/
def KeepsKeys (s : Fleet) : FleetAction → Prop
  | .submit request _ _ => reconciliationSourceJobId request.idempotencyKey = none
  | .retry id _ => ∀ job ∈ s.jobs.get id,
      s.keyTaken job.target (reconcileIdempotencyKey id) = false
  | _ => True

instance (s : Fleet) : (a : FleetAction) → Decidable (KeepsServed s a)
  | .recoverNext p _ false | .writeResult p _ false | .reportWrite p _ false =>
    inferInstanceAs (Decidable (∀ job ∈ (s.proc p).unresolved, _ = true))
  | .putTarget _ => inferInstanceAs (Decidable (∀ job ∈ s.jobs.list, _ → _))
  | .recoverNext _ _ true | .writeResult _ _ true | .reportWrite _ _ true | .restart ..
  | .claimSelect .. | .windowsSelect .. | .reportLoad .. | .markApplying .. | .crash ..
  | .claimCommit .. | .findTarget .. | .writePlanned .. | .loadSource .. | .startPlaybook ..
  | .playbookDone .. | .reconcile .. | .finishRun .. | .stepFails .. | .windowsCommit ..
  | .windowsAnswer .. | .submit .. | .reconcileLoad .. | .reconcileFind .. | .reconcileCheck ..
  | .reconcileSubmit .. | .retry .. | .deleteTarget .. => isTrue trivial

instance (s : Fleet) (a : FleetAction) : Decidable (KeepsKeys s a) := by
  unfold KeepsKeys
  split <;> infer_instance

/-- The step takes no job's reconciliation away. -/
def LeavesWayOut (s : Fleet) (a : FleetAction) : Prop :=
  ByWorker s a ∧ KeepsBarrier s a ∧ NeverConfigures s a ∧ KeepsServed s a ∧ KeepsKeys s a

instance (s : Fleet) (a : FleetAction) : Decidable (LeavesWayOut s a) :=
  inferInstanceAs (Decidable (_ ∧ _))

/-! ### What a write does to its row -/

section

variable {s s' : Fleet} {p : ProcId} {a : FleetAction} {x : Proc}

/-- The status a write gives to the row it finds. -/
inductive Turn (s : Fleet) (a : FleetAction) (row : AnsibleJob) : AnsibleJobStatus → Prop
  | claimed {next : AnsibleJobStatus} (claim : a.isClaim = true) (queued : row.status = .queued)
      (barrier : s.jobs.barrierOpen row = true) (active : next.isActive = true) : Turn s a row next
  | continued {next : AnsibleJobStatus} (before : row.status.isActive = true)
      (after : next.isActive = true) : Turn s a row next
  | unresolved {p : ProcId} {copy : AnsibleJob} {status : AnsibleJobStatus} {time : Timestamp}
      (before : row.status.isActive = true) (leaves : a.mayLeave p)
      (holds : copy ∈ (s.proc p).unresolved) (same : copy = moved row status time) :
      Turn s a row .reconcileRequired
  | ended {next : AnsibleJobStatus} (before : row.status ≠ .reconcileRequired)
      (final : next = .succeeded ∨ next = .failed) : Turn s a row next
  /-- The worker of its reconciliation has decided about the job. -/
  | resolved {next : AnsibleJobStatus} {id : AnsibleJobId} {reconciliation : AnsibleJob}
      (found : s.jobs.get id = some reconciliation) (mode : reconciliation.mode = .reconcile)
      (target : reconciliation.target = row.target)
      (named : reconciliationSourceJobId reconciliation.idempotencyKey = some row.id)
      (final : next = .succeeded ∨ next = .failed) : Turn s a row next

/-- No write puts a job back into the queue, and none aborts it. -/
private theorem written_status {before : Proc} {job : AnsibleJob} {path : List AnsibleJobStatus}
    (hwrites : Writes p a before job path x) : job.status ≠ .queued ∧ job.status ≠ .aborted := by
  cases hwrites with
  | @recovers copy rest next now hnext =>
    cases hstatus : copy.status <;> simp only [recoveredStatus, hstatus, Option.some.injEq,
      reduceCtorEq] at hnext <;> subst hnext <;> simp
  | claims | plans | marks => simp
  | @resolves job source stored decision now => cases decision <;> simp [sourceStatus]
  | @finishes copy stored result now =>
    simp only [moved_status, finalStatus]
    split
    · simp
    · split <;> simp
  | @windowsClaims copy _ now hpath =>
    obtain ⟨-, rfl⟩ := claimPath_ok hpath
    simp only [claimedStatus]
    split <;> simp
  | refuses hpath =>
    obtain ⟨-, rfl⟩ := resultPath_ok hpath
    simp
  | @reports copy _ succeeded now hpath =>
    obtain ⟨-, rfl⟩ := resultPath_ok hpath
    simp only [reportStatus]
    split
    · simp
    · split <;> simp

/-- A write from a copy that its process works on. -/
private theorem turn_of_active {job row : AnsibleJob} {path : List AnsibleJobStatus}
    (hwrites : Writes p a (s.proc p) job path x) (hactive : row.status.isActive = true)
    (hjob : ∃ time, job = moved row job.status time) : Turn s a row job.status := by
  have hnever := written_status hwrites
  have hwaits : row.status ≠ .reconcileRequired := by
    intro hwaits
    rw [hwaits] at hactive
    cases hactive
  obtain ⟨time, hmoved⟩ := hjob
  cases hstatus : job.status with
  | queued => exact absurd hstatus hnever.1
  | aborted => exact absurd hstatus hnever.2
  | checking | planned | applying => exact .continued hactive rfl
  | succeeded => exact .ended hwaits (.inl rfl)
  | failed => exact .ended hwaits (.inr rfl)
  | reconcileRequired =>
    obtain ⟨hleaves, copy, hholds, time', hcopy⟩ := unresolved_of_writes hwrites hstatus
    refine @Turn.unresolved s a row p copy copy.status copy.updatedAt hactive hleaves hholds ?_
    calc copy = moved (moved copy .reconcileRequired time') copy.status copy.updatedAt := rfl
      _ = moved (moved row job.status time) copy.status copy.updatedAt := by rw [← hcopy, ← hmoved]
      _ = moved row copy.status copy.updatedAt := rfl

/-- A write from the source of a reconciliation, which waits for it. -/
private theorem turn_of_source (howned : Owned s) {job row source : AnsibleJob}
    {path : List AnsibleJobStatus} (hwrites : Writes p a (s.proc p) job path x)
    {running : AnsibleJob} {stored : AnsibleJobStatus} {phase : Phase}
    (hp : s.proc p = .running running stored phase) (hof : SourceOf running (some source))
    (hsource : row.id = source.id ∧ row.target = source.target)
    (hpath : LifecyclePath (.reconcileRequired :: path)) : Turn s a row job.status := by
  obtain ⟨time, hrow, -⟩ := howned.running_row hp
  refine .resolved hrow hof.1 ?_ ?_ ?_
  · rw [moved_target, hsource.2]
    exact hof.reconcileRequired.2.2.symm
  · rw [hsource.1]
    exact hof.2.1
  · -- from there the lifecycle leads to an end only
    rw [hp] at hwrites
    cases hwrites with
    | plans | marks => simp [LifecyclePath, AnsibleJobStatus.canTransitionTo] at hpath
    | @resolves _ _ _ decision _ => cases decision <;> simp [sourceStatus]
    | @finishes _ _ result _ =>
      simp only [moved_status, finalStatus] at hpath ⊢
      split at hpath
      · simp [*]
      · split at hpath
        · simp [LifecyclePath, AnsibleJobStatus.canTransitionTo] at hpath
        · simp [*]

/-- A write from a queued copy: a claim, or the report of a check. -/
private theorem turn_of_queued (hbarrier : BarrierHeld s) {job row : AnsibleJob}
    {path : List AnsibleJobStatus} (hwrites : Writes p a (s.proc p) job path x)
    (hrow : s.jobs.get job.id = some row) (hqueued : row.status = .queued)
    (htaken : (∃ target, (s.proc p).claims target = true) ∨ (s.proc p).isReporting = true)
    (hpath : LifecyclePath (row.status :: path)) : Turn s a row job.status := by
  have hheld := hbarrier.barrier p
  have hrows := hbarrier.row p
  generalize s.proc p = before at hwrites htaken hheld hrows
  cases hwrites with
  | @claims copy now hedge =>
    obtain rfl := Option.some.inj ((hrows copy rfl).symm.trans hrow)
    exact .claimed rfl hqueued (hheld copy rfl) rfl
  | @windowsClaims copy _ now hclaim =>
    obtain ⟨-, rfl⟩ := claimPath_ok hclaim
    obtain rfl := Option.some.inj ((hrows copy rfl).symm.trans hrow)
    refine .claimed rfl hqueued (hheld copy rfl) ?_
    simp only [claimedStatus]
    split <;> rfl
  | @reports copy _ succeeded now hreport =>
    obtain ⟨-, rfl⟩ := resultPath_ok hreport
    refine .ended (by simp [hqueued]) ?_
    rw [hqueued] at hpath
    cases succeeded with
    | true => exact .inl rfl
    | false =>
      by_cases hmode : copy.mode = .apply
      · -- there is no edge from the queue to the outcome of an application
        simp [LifecyclePath, resultPath, reportStatus, hmode,
          AnsibleJobStatus.canTransitionTo] at hpath
      · exact .inr (by simp [reportStatus, hmode])
  | _ => simp [Proc.claims, Proc.isReporting] at htaken

/-- **What a write does** to the row it finds. -/
theorem turn_of_writes (howned : Owned s) (hbarrier : BarrierHeld s) {job row : AnsibleJob}
    {path : List AnsibleJobStatus} (hwrites : Writes p a (s.proc p) job path x)
    (hrow : s.jobs.get job.id = some row) :
    (∃ time, job = moved row job.status time) ∧ Turn s a row job.status := by
  obtain ⟨e, he, ⟨time, hjob⟩, hpath⟩ := (howned.writes hwrites).origin
  have hid : e.job.id = job.id := by rw [hjob, moved_id]
  obtain ⟨time', rfl⟩ : ∃ time, row = moved e.job e.stored time := by
    rcases howned.current p e he with hcurrent | ⟨-, -, hnone, -⟩
    · exact hcurrent.row (hid ▸ hrow)
    · rw [hid, hrow] at hnone
      cases hnone
  refine ⟨⟨time, hjob⟩, ?_⟩
  rcases (howned.consistent p).stored he with hactive |
      ⟨running, stored, phase, hp, -, hsource, hof⟩ | ⟨hqueued, htaken⟩
  · exact turn_of_active hwrites hactive ⟨time, hjob⟩
  · exact turn_of_source howned hwrites hp hof ⟨rfl, rfl⟩ (hsource ▸ hpath)
  · exact turn_of_queued hbarrier hwrites hrow hqueued (htaken.imp_left fun h => ⟨_, h⟩) hpath

/-- Where a row of the state after a step comes from. -/
inductive Origin (s : Fleet) (a : FleetAction) (id : AnsibleJobId) (row' : AnsibleJob) : Prop
  | kept (found : s.jobs.get id = some row')
  | turned {row : AnsibleJob} {next : AnsibleJobStatus} {time : Timestamp}
      (found : s.jobs.get id = some row) (turn : Turn s a row next)
      (same : row' = moved row next time)
  | requeued {row : AnsibleJob} {time : Timestamp} (found : s.jobs.get id = some row)
      (failed : row.status = .failed) (call : a = .retry id time)
      (same : row' = moved row .queued time)
  | submitted {request : AnsibleJobRequest} {time : Timestamp} (call : a = .submit request id time)
      (accepts : AnsibleJob.Accepts request) (fresh : s.history.get id = none)
      (same : row' = .queuedFor request id time)
  | reconciles {p : ProcId} {source : AnsibleJob} {time : Timestamp}
      (asked : s.proc p = .reconciling source .free) (fresh : s.history.get id = none)
      (unused : s.keyTaken source.target (reconcileIdempotencyKey source.id) = false)
      (same : row' = AnsibleJobCoordinator.reconciliationOf source id time)

/-- **Where a row comes from**, with what its write has done. -/
theorem origin_of_step (howned : Owned s) (hbarrier : BarrierHeld s) (hs : s.step a = some s')
    {id : AnsibleJobId} {row' : AnsibleJob} (hrow' : s'.jobs.get id = some row') :
    Origin s a id row' := by
  -- a row of a table with one more write
  have hput : ∀ {written : AnsibleJob}, (s.jobs.put written).get id = some row' →
      s.jobs.get id = some row' ∨ id = written.id ∧ row' = written := by
    intro written hwritten
    rw [JobTable.get_put] at hwritten
    split at hwritten
    · rename_i hid
      exact .inr ⟨hid, (Option.some.inj hwritten).symm⟩
    · exact .inl hwritten
  cases effect_step hs with
  | move | miss | target => exact .kept hrow'
  | write hwrites hfound _ _ =>
    rcases hput hrow' with hkept | ⟨rfl, rfl⟩
    · exact .kept hkept
    · obtain ⟨⟨time, hsame⟩, hturn⟩ := turn_of_writes howned hbarrier hwrites hfound
      exact .turned hfound hturn hsame
  | @submit request newId now hcall haccepts hfresh _ =>
    rcases @hput (.queuedFor request newId now) hrow' with hkept | ⟨rfl, rfl⟩
    · exact .kept hkept
    · exact .submitted hcall haccepts hfresh rfl
  | @reconciliation p source newId now _ hasked hfresh _ hunused =>
    rcases @hput (AnsibleJobCoordinator.reconciliationOf source newId now) hrow' with
      hkept | ⟨rfl, rfl⟩
    · exact .kept hkept
    · refine .reconciles hasked hfresh ?_ rfl
      simpa only [Fleet.keyTaken, JobTable.any_eq_false, Bool.and_eq_false_imp, decide_eq_true_eq,
        decide_eq_false_iff_not, not_and] using hunused
  | @requeue failedId job now _ hfound hfailed hcall =>
    obtain rfl := JobTable.get_id hfound
    rcases @hput (moved job .queued now) hrow' with hkept | ⟨rfl, rfl⟩
    · exact .kept hkept
    · exact .requeued hfound hfailed hcall rfl
  | delete _ _ hjobs _ =>
    rw [Fleet.jobs, hjobs, JobTable.get_retain, Option.filter_eq_some_iff] at hrow'
    exact .kept hrow'.1

/-- A job that is active or waits after a step is not one that was queued in it. -/
private theorem Origin.blocking {id : AnsibleJobId} {row' : AnsibleJob} (h : Origin s a id row')
    (hblocks : row'.status.isActive = true ∨ row'.status = .reconcileRequired) :
    s.jobs.get id = some row' ∨ ∃ row next time, s.jobs.get id = some row ∧ Turn s a row next ∧
      row' = moved row next time := by
  have hqueued : row'.status ≠ .queued := by
    intro hqueued
    rw [hqueued] at hblocks
    rcases hblocks with hblocks | hblocks <;> cases hblocks
  cases h with
  | kept hfound => exact .inl hfound
  | turned hfound hturn hsame => exact .inr ⟨_, _, _, hfound, hturn, hsame⟩
  | requeued _ _ _ hsame | submitted _ _ _ hsame | reconciles _ _ _ hsame =>
    subst hsame
    exact absurd rfl hqueued

/-- A job that was stored once stays known. -/
private theorem history_of_step (hs : s.step a = some s') {id : AnsibleJobId}
    (h : (s.history.get id).isSome) : (s'.history.get id).isSome := by
  have hrecord : ∀ {t : Fleet} {written : AnsibleJobId} {status : AnsibleJobStatus},
      t.history = s.history → ((t.record written status).history.get id).isSome := by
    intro t written status ht
    rw [Fleet.history_record, ht]
    split
    · rfl
    · exact h
  cases effect_step hs with
  | move | miss | target | delete => exact h
  | write | submit | reconciliation | requeue => exact hrecord rfl

/-- A request that is under way was there before, or its source has just been read. -/
private theorem asked_of_step (hs : s.step a = some s') {q : ProcId} {source : AnsibleJob}
    {stage : RequestStage} (hq : s'.proc q = .reconciling source stage) :
    (∃ stage', s.proc q = .reconciling source stage') ∨
      source.canBeReconciled = true ∧ s.jobs.get source.id = some source ∧ s'.jobs = s.jobs := by
  have hset : ∀ {t : Fleet} {p : ProcId} {x : Proc},
      (t.setProc p x).proc q = .reconciling source stage → (∀ r, t.proc r = s.proc r) →
        p = q ∧ x = .reconciling source stage ∨ s.proc q = .reconciling source stage := by
    intro t p x hproc ht
    rw [Fleet.proc_setProc] at hproc
    split at hproc
    · rename_i hqp
      exact .inl ⟨hqp.symm, hproc⟩
    · exact .inr (ht q ▸ hproc)
  cases effect_step hs with
  | @move p x hmoves =>
    rcases hset hq fun _ => rfl with ⟨rfl, rfl⟩ | hsame
    · generalize hp : s.proc p = before at hmoves
      cases hmoves with
      | asks hrow hcan => exact .inr ⟨hcan, hrow, rfl⟩
      | finds | checks => exact .inl ⟨_, rfl⟩
    · exact .inl ⟨_, hsame⟩
  | @miss p x job path hwrites _ =>
    rcases hset hq fun _ => rfl with ⟨rfl, rfl⟩ | hsame
    · generalize s.proc p = before at hwrites
      cases hwrites
    · exact .inl ⟨_, hsame⟩
  | @write p x job row path hwrites _ _ _ =>
    rcases hset hq fun _ => rfl with ⟨rfl, rfl⟩ | hsame
    · generalize s.proc p = before at hwrites
      cases hwrites
    · exact .inl ⟨_, hsame⟩
  | reconciliation =>
    rcases hset hq fun _ => rfl with ⟨-, hx⟩ | hsame
    · cases hx
    · exact .inl ⟨_, hsame⟩
  | submit | requeue | target | delete => exact .inl ⟨_, hq⟩

theorem keyTaken_eq_true {target : ResourceTarget} {key : String} :
    s.keyTaken target key = true ↔ ∃ id row, s.jobs.get id = some row ∧ row.target = target ∧
      row.idempotencyKey = key := by
  simp only [Fleet.keyTaken, JobTable.any_eq_true, Bool.and_eq_true, decide_eq_true_eq]

/-- A key stays taken as long as the target has any rows. -/
private theorem keyTaken_of_step (howned : Owned s) (hbarrier : BarrierHeld s)
    (hs : s.step a = some s') {target : ResourceTarget} {key : String}
    (htaken : s.keyTaken target key = true) {id : AnsibleJobId} {row' : AnsibleJob}
    (hrow' : s'.jobs.get id = some row') (htarget : row'.target = target) :
    s'.keyTaken target key = true := by
  rw [keyTaken_eq_true] at htaken ⊢
  obtain ⟨keyId, row, hrow, hsame, hkey⟩ := htaken
  -- a write leaves the target and the key of a row as they are
  have hput : ∀ {written : AnsibleJob}, (∀ old, s.jobs.get written.id = some old →
      written.target = old.target ∧ written.idempotencyKey = old.idempotencyKey) →
      ∃ id row, (s.jobs.put written).get id = some row ∧ row.target = target ∧
        row.idempotencyKey = key := by
    intro written hwritten
    by_cases hid : keyId = written.id
    · subst hid
      obtain ⟨htargets, hkeys⟩ := hwritten row hrow
      exact ⟨_, written, JobTable.get_put_self _ _, htargets.trans hsame, hkeys.trans hkey⟩
    · exact ⟨keyId, row, (JobTable.get_put_ne _ _ hid).trans hrow, hsame, hkey⟩
  cases effect_step hs with
  | move | miss | target => exact ⟨keyId, row, hrow, hsame, hkey⟩
  | @write p x job found path hwrites hfound _ _ =>
    refine @hput job fun old hold => ?_
    obtain ⟨⟨time, hjob⟩, -⟩ := turn_of_writes howned hbarrier hwrites hold
    rw [hjob]
    exact ⟨rfl, rfl⟩
  | @submit request newId now _ _ _ habsent =>
    refine @hput (.queuedFor request newId now) fun old hold => ?_
    exact absurd (hold.symm.trans habsent) (by simp)
  | @reconciliation p source newId now _ _ _ habsent _ =>
    refine @hput (AnsibleJobCoordinator.reconciliationOf source newId now) fun old hold => ?_
    exact absurd (hold.symm.trans habsent) (by simp)
  | @requeue failedId job now _ hfound _ _ =>
    obtain rfl := JobTable.get_id hfound
    refine @hput (moved job .queued now) fun old hold => ?_
    obtain rfl := Option.some.inj (hfound.symm.trans hold)
    exact ⟨rfl, rfl⟩
  | @delete targetId db _ _ hjobs _ =>
    refine ⟨keyId, row, ?_, hsame, hkey⟩
    rw [Fleet.jobs, hjobs, JobTable.get_retain, Option.filter_eq_some_iff] at hrow' ⊢
    refine ⟨hrow, ?_⟩
    rw [hsame, ← htarget]
    exact hrow'.2

/-! ### The way out -/

/-- The invariants that such runs have already. -/
structure Orderly (s : Fleet) : Prop where
  recorded : Recorded s
  owned : Owned s
  barrier : BarrierHeld s
  reconcilable : AllReconcilable s
  settled : SourceSettled s

/-- What every job that waits for its reconciliation has. -/
structure WayOut (s : Fleet) : Prop where
  /-- A worker could carry the reconciliation out. -/
  served : ∀ id row, s.jobs.get id = some row → row.status = .reconcileRequired →
    serves s.db.targets row = true
  /-- Nothing but the reconciliation is under way on the target, and nothing else waits there. -/
  alone : ∀ id id' row other, s.jobs.get id = some row → s.jobs.get id' = some other → id ≠ id' →
    row.status = .reconcileRequired → other.target = row.target →
      other.status.isActive = true ∨ other.status = .reconcileRequired →
        JobTable.isReconciliationOf other id = true
  /-- The job with the key is the reconciliation, and has not succeeded in vain. -/
  keyed : ∀ id id' row other, s.jobs.get id = some row → s.jobs.get id' = some other →
    other.target = row.target → other.idempotencyKey = reconcileIdempotencyKey id →
      (∃ created status time, other
        = moved (AnsibleJobCoordinator.reconciliationOf row id' created) status time) ∧
      (row.status = .reconcileRequired ∧ other.status ≠ .succeeded ∨
        row.status = .succeeded ∨ row.status = .failed)
  /-- Keys of reconciliations name jobs that have been stored. -/
  named : ∀ id row sourceId, s.jobs.get id = some row →
    row.idempotencyKey = reconcileIdempotencyKey sourceId → (s.history.get sourceId).isSome
  modes : ∀ id row, s.jobs.get id = some row → row.mode = .reconcile →
    ∃ sourceId, row.idempotencyKey = reconcileIdempotencyKey sourceId
  /-- A job whose reconciliation is being asked for still waits, or another request was first. -/
  asked : ∀ p source stage, s.proc p = .reconciling source stage →
    (s.history.get source.id).isSome ∧ ∀ row, s.jobs.get source.id = some row →
      (∃ status time, row = moved source status time) ∧
      (row.status = .reconcileRequired ∨
        s.keyTaken source.target (reconcileIdempotencyKey source.id) = true)
  unaborted : ∀ id row, s.jobs.get id = some row → row.status ≠ .aborted

/-- Different jobs have different keys. -/
theorem reconcileIdempotencyKey_injective : Function.Injective reconcileIdempotencyKey := by
  intro id id' hkey
  have hnamed := reconciliationSourceJobId_key id
  rw [hkey, reconciliationSourceJobId_key] at hnamed
  exact (Option.some.inj hnamed).symm

/-- A submitted job does not have the key of a reconciliation. -/
private theorem KeepsKeys.submitted {request : AnsibleJobRequest} {newId : AnsibleJobId}
    {now : Timestamp} (hok : KeepsKeys s (.submit request newId now)) (sourceId : AnsibleJobId) :
    request.idempotencyKey ≠ reconcileIdempotencyKey sourceId := by
  intro hkey
  have hnone : reconciliationSourceJobId request.idempotencyKey = none := hok
  rw [hkey, reconciliationSourceJobId_key] at hnone
  cases hnone

private theorem named_step (ho : Orderly s) (hw : WayOut s) (hok : KeepsKeys s a)
    (hs : s.step a = some s') {id sourceId : AnsibleJobId} {row' : AnsibleJob}
    (hrow' : s'.jobs.get id = some row')
    (hkey : row'.idempotencyKey = reconcileIdempotencyKey sourceId) :
    (s'.history.get sourceId).isSome := by
  refine history_of_step hs ?_
  cases origin_of_step ho.owned ho.barrier hs hrow' with
  | kept hfound => exact hw.named id row' sourceId hfound hkey
  | turned hfound _ hsame =>
    subst hsame
    exact hw.named id _ sourceId hfound hkey
  | requeued hfound _ _ hsame =>
    subst hsame
    exact hw.named id _ sourceId hfound hkey
  | submitted hcall _ _ hsame =>
    subst hcall hsame
    exact absurd hkey (hok.submitted sourceId)
  | reconciles hasked _ _ hsame =>
    subst hsame
    obtain rfl := reconcileIdempotencyKey_injective hkey
    exact (hw.asked _ _ _ hasked).1

private theorem modes_step (ho : Orderly s) (hw : WayOut s) (hs : s.step a = some s')
    {id : AnsibleJobId} {row' : AnsibleJob} (hrow' : s'.jobs.get id = some row')
    (hmode : row'.mode = .reconcile) :
    ∃ sourceId, row'.idempotencyKey = reconcileIdempotencyKey sourceId := by
  cases origin_of_step ho.owned ho.barrier hs hrow' with
  | kept hfound => exact hw.modes id row' hfound hmode
  | @turned row _ _ hfound _ hsame =>
    subst hsame
    exact hw.modes id row hfound hmode
  | @requeued row _ hfound _ _ hsame =>
    subst hsame
    exact hw.modes id row hfound hmode
  | @submitted request time _ haccepts _ hsame =>
    subst hsame
    have hsupports := haccepts.mode
    rw [show request.mode = .reconcile from hmode, AnsibleOperation.not_supportsMode_reconcile]
      at hsupports
    cases hsupports
  | reconciles _ _ _ hsame =>
    subst hsame
    exact ⟨_, rfl⟩

private theorem unaborted_step (ho : Orderly s) (hw : WayOut s) (hs : s.step a = some s')
    {id : AnsibleJobId} {row' : AnsibleJob} (hrow' : s'.jobs.get id = some row') :
    row'.status ≠ .aborted := by
  cases origin_of_step ho.owned ho.barrier hs hrow' with
  | kept hfound => exact hw.unaborted id row' hfound
  | turned _ hturn hsame =>
    subst hsame
    rw [moved_status]
    rintro rfl
    cases hturn with
    | claimed _ _ _ hactive | continued _ hactive => cases hactive
    | ended _ hfinal | resolved _ _ _ _ hfinal =>
      rcases hfinal with hfinal | hfinal <;> cases hfinal
  | requeued _ _ _ hsame | submitted _ _ _ hsame | reconciles _ _ _ hsame =>
    subst hsame
    exact AnsibleJobStatus.noConfusion

/-- A job that now waits was active, and its copy was held. -/
private theorem Turn.waits {row : AnsibleJob} (h : Turn s a row .reconcileRequired) :
    row.status.isActive = true ∧ ∃ p copy status time, a.mayLeave p ∧
      copy ∈ (s.proc p).unresolved ∧ copy = moved row status time := by
  cases h with
  | claimed _ _ _ hactive | continued _ hactive => cases hactive
  | ended _ hfinal | resolved _ _ _ _ hfinal =>
    rcases hfinal with hfinal | hfinal <;> cases hfinal
  | unresolved hbefore hleaves hholds hsame =>
    exact ⟨hbefore, _, _, _, _, hleaves, hholds, hsame⟩

/-- A write that leaves a job waiting is on a target that serves it. -/
private theorem served_of_mayLeave (hok : KeepsServed s a) (ha : a.mayLeave p) {copy : AnsibleJob}
    (hcopy : copy ∈ (s.proc p).unresolved) : serves s.db.targets copy = true := by
  obtain ⟨now, rfl | rfl | rfl⟩ := ha
  · exact hok copy hcopy
  · exact hok copy hcopy
  · exact hok copy hcopy

/-- Only a change of its target ends the service of a job that is still there. -/
private theorem serves_of_step (hs : s.step a = some s') {id : AnsibleJobId} {row' : AnsibleJob}
    (hrow' : s'.jobs.get id = some row')
    (hput : ∀ target, a = .putTarget target →
      serves (s.db.targets.put target.id target) row' = true)
    (hserved : serves s.db.targets row' = true) : serves s'.db.targets row' = true := by
  cases effect_step hs with
  | move | miss | write | submit | reconciliation | requeue => exact hserved
  | target hcall => exact hput _ hcall
  | @delete targetId db _ _ hjobs htargets =>
    rw [Fleet.jobs, hjobs, JobTable.get_retain, Option.filter_eq_some_iff] at hrow'
    have hne : row'.target ≠ .target targetId := of_decide_eq_true hrow'.2
    change serves db.targets row' = true
    rw [htargets]
    unfold serves at hserved ⊢
    split at hserved
    · rename_i rowTarget htarget
      rw [Table.get_remove, if_neg]
      · exact hserved
      · rintro rfl
        exact hne htarget
    · cases hserved

private theorem served_step (ho : Orderly s) (hw : WayOut s) (hok : KeepsServed s a)
    (hs : s.step a = some s') {id : AnsibleJobId} {row' : AnsibleJob}
    (hrow' : s'.jobs.get id = some row') (hwaits : row'.status = .reconcileRequired) :
    serves s'.db.targets row' = true := by
  rcases (origin_of_step ho.owned ho.barrier hs hrow').blocking (.inr hwaits) with hfound |
      ⟨row, next, now, hfound, hturn, rfl⟩
  · refine serves_of_step hs hrow' ?_ (hw.served id row' hfound hwaits)
    rintro target rfl
    exact hok row' (JobTable.mem_list.mpr ⟨id, hfound⟩) hwaits
  · rw [moved_status] at hwaits
    subst hwaits
    obtain ⟨-, p, copy, status, time, hleaves, hholds, hcopy⟩ := hturn.waits
    have hserved := served_of_mayLeave hok hleaves hholds
    rw [hcopy] at hserved
    refine serves_of_step hs hrow' ?_ hserved
    rintro target rfl
    obtain ⟨now, hcall | hcall | hcall⟩ := hleaves <;> cases hcall

/-- A turn into a status in which a job is active or waits: a claim in front of the barrier, or
the next status of an active job. -/
private theorem Turn.blocking {row : AnsibleJob} {next : AnsibleJobStatus} (h : Turn s a row next)
    (hnext : next.isActive = true ∨ next = .reconcileRequired) :
    (a.isClaim = true ∧ s.jobs.barrierOpen row = true ∧ next.isActive = true) ∨
      row.status.isActive = true := by
  cases h with
  | claimed hclaim _ hbarrier hactive => exact .inl ⟨hclaim, hbarrier, hactive⟩
  | continued hbefore _ => exact .inr hbefore
  | unresolved hbefore _ _ _ => exact .inr hbefore
  | ended _ hfinal | resolved _ _ _ _ hfinal =>
    rcases hfinal with rfl | rfl <;> rcases hnext with hnext | hnext <;> cases hnext

/-- A job that waits for its reconciliation is none. -/
private theorem not_isReconciliationOf (ho : AllReconcilable s) {id sourceId : AnsibleJobId}
    {row : AnsibleJob} (hrow : s.jobs.get id = some row)
    (hwaits : row.status = .reconcileRequired) :
    JobTable.isReconciliationOf row sourceId = false := by
  have happly := ((ho.rows id row hrow).applied (.inr hwaits)).1
  simp [JobTable.isReconciliationOf, happly]

private theorem alone_step (ho : Orderly s) (hw : WayOut s) (hall : AllReconcilable s')
    (hs : s.step a = some s') {id id' : AnsibleJobId} {row' other' : AnsibleJob}
    (hrow' : s'.jobs.get id = some row') (hother' : s'.jobs.get id' = some other') (hne : id ≠ id')
    (hwaits : row'.status = .reconcileRequired) (htarget : other'.target = row'.target)
    (hblocks : other'.status.isActive = true ∨ other'.status = .reconcileRequired) :
    JobTable.isReconciliationOf other' id = true := by
  rcases (origin_of_step ho.owned ho.barrier hs hrow').blocking (.inr hwaits) with hfound |
      ⟨row, next, time, hfound, hturn, rfl⟩
  · rcases (origin_of_step ho.owned ho.barrier hs hother').blocking hblocks with hfound' |
        ⟨other, next, time, hfound', hturn, rfl⟩
    · exact hw.alone id id' row' other' hfound hfound' hne hwaits htarget hblocks
    · rcases hturn.blocking hblocks with ⟨-, hbarrier, -⟩ | hactive
      · -- a claim in front of the barrier is of the reconciliation
        have hof := barrierOpen_iff.mp hbarrier id row' hfound htarget.symm hwaits
        rwa [JobTable.get_id hfound] at hof
      · exact hw.alone id id' row' other hfound hfound' hne hwaits htarget (.inl hactive)
  · -- the job is active before it waits, and nothing else is on its target
    rw [moved_status] at hwaits
    subst hwaits
    have hnot : ∀ sourceId, JobTable.isReconciliationOf row sourceId = false := fun sourceId =>
      @not_isReconciliationOf s' hall id sourceId (moved row .reconcileRequired time) hrow' rfl
    obtain ⟨hactive, p, copy, -, -, hleaves, -⟩ := hturn.waits
    rcases (origin_of_step ho.owned ho.barrier hs hother').blocking hblocks with hfound' |
        ⟨other, next, time, hfound', hturn', rfl⟩
    · rcases hblocks with hother | hother
      · exact absurd (ho.recorded.oneActive id id' row other' hfound hfound' htarget.symm hactive
          hother) hne
      · have hof := hw.alone id' id other' row hfound' hfound hne.symm hother htarget.symm
          (.inl hactive)
        rw [hnot id'] at hof
        cases hof
    · rcases hturn'.blocking hblocks with ⟨hclaim, -, -⟩ | hother
      · obtain ⟨now, rfl | rfl | rfl⟩ := hleaves <;> cases hclaim
      · exact absurd (ho.recorded.oneActive id id' row other hfound hfound' htarget.symm hactive
          hother) hne

/-- The rest of the life of a job whose reconciliation has been queued: it is decided about once. -/
private theorem Turn.settled {row : AnsibleJob} {next : AnsibleJobStatus} (h : Turn s a row next)
    (hrow : row.status = .reconcileRequired ∨ row.status = .succeeded ∨ row.status = .failed) :
    next = .succeeded ∨ next = .failed := by
  have hinactive : row.status.isActive ≠ true ∧ row.status ≠ .queued := by
    rcases hrow with hrow | hrow | hrow <;> simp [hrow, AnsibleJobStatus.isActive]
  cases h with
  | claimed _ hqueued _ _ => exact absurd hqueued hinactive.2
  | continued hbefore _ => exact absurd hbefore hinactive.1
  | unresolved hbefore _ _ _ => exact absurd hbefore hinactive.1
  | ended _ hfinal | resolved _ _ _ _ hfinal => exact hfinal

/-- A job whose reconciliation has been queued goes on waiting or is decided about. -/
private theorem settled_step (ho : Orderly s) (hok : KeepsKeys s a) (hs : s.step a = some s')
    {id : AnsibleJobId} {row row' : AnsibleJob} (hrow : s.jobs.get id = some row)
    (hrow' : s'.jobs.get id = some row')
    (htaken : row.status = .failed →
      s.keyTaken row.target (reconcileIdempotencyKey id) = true)
    (hstatus : row.status = .reconcileRequired ∨ row.status = .succeeded ∨ row.status = .failed) :
    row' = row ∨ (row'.status = .succeeded ∨ row'.status = .failed) := by
  cases origin_of_step ho.owned ho.barrier hs hrow' with
  | kept hfound => exact .inl (Option.some.inj (hfound.symm.trans hrow))
  | turned hfound hturn hsame =>
    subst hsame
    obtain rfl := Option.some.inj (hfound.symm.trans hrow)
    exact .inr (hturn.settled hstatus)
  | requeued hfound hfailed hcall hsame =>
    obtain rfl := Option.some.inj (hfound.symm.trans hrow)
    subst hcall
    have hfree := hok _ hfound
    rw [htaken hfailed] at hfree
    cases hfree
  | submitted _ _ hfresh _ | reconciles _ hfresh _ _ =>
    obtain ⟨past, hpast⟩ := ho.recorded.recorded id row hrow
    rw [hfresh] at hpast
    cases hpast

/-- Only the worker of its reconciliation decides about a job that waits. -/
private theorem Turn.keyTaken (hw : WayOut s) {row : AnsibleJob} {next : AnsibleJobStatus}
    (h : Turn s a row next) (hwaits : row.status = .reconcileRequired) :
    s.keyTaken row.target (reconcileIdempotencyKey row.id) = true := by
  cases h with
  | claimed _ hqueued _ _ =>
    rw [hwaits] at hqueued
    cases hqueued
  | continued hbefore _ | unresolved hbefore _ _ _ =>
    rw [hwaits] at hbefore
    cases hbefore
  | ended hbefore _ => exact absurd hwaits hbefore
  | resolved hfound hmode htarget hnamed _ =>
    obtain ⟨sourceId, hkey⟩ := hw.modes _ _ hfound hmode
    rw [hkey, reconciliationSourceJobId_key] at hnamed
    obtain rfl := Option.some.inj hnamed
    exact keyTaken_eq_true.mpr ⟨_, _, hfound, htarget, hkey⟩

/-- The copies of the source that a request holds, against its row after the step. -/
private theorem asked_step (ho : Orderly s) (hw : WayOut s)
    (hs : s.step a = some s') {q : ProcId} {source : AnsibleJob} {stage : RequestStage}
    (hq : s'.proc q = .reconciling source stage) :
    (s'.history.get source.id).isSome ∧ ∀ row', s'.jobs.get source.id = some row' →
      (∃ status time, row' = moved source status time) ∧
      (row'.status = .reconcileRequired ∨
        s'.keyTaken source.target (reconcileIdempotencyKey source.id) = true) := by
  rcases asked_of_step hs hq with ⟨stage', hasked⟩ | ⟨hcan, hrow, hjobs⟩
  · obtain ⟨hseen, hrows⟩ := hw.asked q source stage' hasked
    refine ⟨history_of_step hs hseen, fun row' hrow' => ?_⟩
    have hstays : row'.target = source.target →
        s.keyTaken source.target (reconcileIdempotencyKey source.id) = true →
        s'.keyTaken source.target (reconcileIdempotencyKey source.id) = true :=
      fun htarget htaken => keyTaken_of_step ho.owned ho.barrier hs htaken hrow' htarget
    cases origin_of_step ho.owned ho.barrier hs hrow' with
    | kept hfound =>
      obtain ⟨⟨status, time, rfl⟩, hwaits⟩ := hrows row' hfound
      exact ⟨⟨status, time, rfl⟩, hwaits.imp_right (hstays rfl)⟩
    | @turned row next now hfound hturn hsame =>
      subst hsame
      obtain ⟨⟨status, time, rfl⟩, hwaits⟩ := hrows row hfound
      refine ⟨⟨next, now, rfl⟩, .inr (hstays rfl ?_)⟩
      rcases hwaits with hwaits | htaken
      · exact hturn.keyTaken hw hwaits
      · exact htaken
    | @requeued row now hfound hfailed hcall hsame =>
      subst hsame
      obtain ⟨⟨status, time, rfl⟩, hwaits⟩ := hrows row hfound
      refine ⟨⟨.queued, now, rfl⟩, .inr (hstays rfl ?_)⟩
      refine hwaits.resolve_left fun hrequired => ?_
      rw [hrequired] at hfailed
      cases hfailed
    | submitted _ _ hfresh _ | reconciles _ hfresh _ _ =>
      rw [hfresh] at hseen
      cases hseen
  · obtain ⟨past, hpast⟩ := ho.recorded.recorded _ _ hrow
    refine ⟨history_of_step hs (by rw [hpast]; rfl), fun row' hrow' => ?_⟩
    rw [hjobs, hrow] at hrow'
    obtain rfl := Option.some.inj hrow'
    simp only [AnsibleJob.canBeReconciled, Bool.and_eq_true, decide_eq_true_eq] at hcan
    exact ⟨⟨source.status, source.updatedAt, rfl⟩, .inl hcan.1.1⟩

/-- A job that has the key of a row after a step had it before, or is the reconciliation that the
step has queued. -/
private theorem key_of_step (ho : Orderly s) (hok : KeepsKeys s a)
    (hs : s.step a = some s') {id id' : AnsibleJobId} {other' : AnsibleJob}
    (hother' : s'.jobs.get id' = some other')
    (hkey : other'.idempotencyKey = reconcileIdempotencyKey id) :
    (∃ other status time, s.jobs.get id' = some other ∧ other' = moved other status time) ∨
      ∃ p source time, s.proc p = .reconciling source .free ∧ source.id = id ∧
        s.keyTaken source.target (reconcileIdempotencyKey source.id) = false ∧
        other' = AnsibleJobCoordinator.reconciliationOf source id' time := by
  cases origin_of_step ho.owned ho.barrier hs hother' with
  | kept hfound => exact .inl ⟨other', other'.status, other'.updatedAt, hfound, rfl⟩
  | turned hfound _ hsame => exact .inl ⟨_, _, _, hfound, hsame⟩
  | requeued hfound _ _ hsame => exact .inl ⟨_, _, _, hfound, hsame⟩
  | submitted hcall _ _ hsame =>
    subst hcall hsame
    exact absurd hkey (hok.submitted id)
  | reconciles hasked _ hunused hsame =>
    subst hsame
    exact .inr ⟨_, _, _, hasked, reconcileIdempotencyKey_injective hkey, hunused, rfl⟩

private theorem keyed_step (ho : Orderly s) (hw : WayOut s) (hok : KeepsKeys s a)
    (hresolves : ResolvesSource s s') (hs : s.step a = some s') {id id' : AnsibleJobId}
    {row' other' : AnsibleJob} (hrow' : s'.jobs.get id = some row')
    (hother' : s'.jobs.get id' = some other') (htarget : other'.target = row'.target)
    (hkey : other'.idempotencyKey = reconcileIdempotencyKey id) :
    (∃ created status time, other'
      = moved (AnsibleJobCoordinator.reconciliationOf row' id' created) status time) ∧
    (row'.status = .reconcileRequired ∧ other'.status ≠ .succeeded ∨
      row'.status = .succeeded ∨ row'.status = .failed) := by
  -- the job itself is older than its reconciliation
  obtain ⟨row, status, time, hrow, rfl⟩ : ∃ row status time,
      s.jobs.get id = some row ∧ row' = moved row status time := by
    have hseen : (s.history.get id).isSome := by
      rcases key_of_step ho hok hs hother' hkey with ⟨other, status, time, hother, rfl⟩ |
          ⟨p, source, time, hasked, rfl, -⟩
      · exact hw.named id' other id hother hkey
      · exact (hw.asked p source _ hasked).1
    cases origin_of_step ho.owned ho.barrier hs hrow' with
    | kept hfound => exact ⟨row', row'.status, row'.updatedAt, hfound, rfl⟩
    | turned hfound _ hsame => exact ⟨_, _, _, hfound, hsame⟩
    | requeued hfound _ _ hsame => exact ⟨_, _, _, hfound, hsame⟩
    | submitted _ _ hfresh _ | reconciles _ hfresh _ _ =>
      rw [hfresh] at hseen
      cases hseen
  rcases key_of_step ho hok hs hother' hkey with ⟨other, status', time', hother, rfl⟩ |
      ⟨p, source, created, hasked, rfl, hunused, rfl⟩
  · obtain ⟨⟨created, status'', time'', hother''⟩, hstatus⟩ :=
      hw.keyed id id' row other hrow hother htarget hkey
    have htaken : s.keyTaken row.target (reconcileIdempotencyKey id) = true :=
      keyTaken_eq_true.mpr ⟨id', other, hother, htarget, hkey⟩
    refine ⟨⟨created, status', time', ?_⟩, ?_⟩
    · rw [hother'']
      rfl
    · rcases settled_step ho hok hs hrow hrow' (fun _ => htaken)
          (hstatus.imp_left And.left) with hsame | hsettled
      · rw [hsame]
        refine hstatus.imp_left fun hwaits => ⟨hwaits.1, fun hsucceeded => ?_⟩
        -- a reconciliation that succeeds in this step has dealt with its source
        have hmode : other.mode = .reconcile := by
          rw [hother'']
          rfl
        refine hresolves id' _ hother' hmode hsucceeded (fun before hbefore => ?_) id _ ?_ hrow' ?_
        · obtain rfl := Option.some.inj (hbefore.symm.trans hother)
          exact hwaits.2
        · exact (congrArg reconciliationSourceJobId hkey).trans (reconciliationSourceJobId_key id)
        · rw [hsame]
          exact hwaits.1
      · exact .inr hsettled
  · obtain ⟨⟨status', time', hsource⟩, hwaits⟩ := (hw.asked p source _ hasked).2 row hrow
    have hrowWaits := hwaits.resolve_right (by rw [hunused]; exact Bool.false_ne_true)
    refine ⟨⟨created, .queued, created, ?_⟩, ?_⟩
    · rw [hsource]
      rfl
    · have hnot : row.status ≠ .failed := by
        rw [hrowWaits]
        exact AnsibleJobStatus.noConfusion
      rcases settled_step ho hok hs hrow hrow' (fun hfailed => absurd hfailed hnot)
          (.inl hrowWaits) with hsame | hsettled
      · rw [hsame]
        exact .inl ⟨hrowWaits, AnsibleJobStatus.noConfusion⟩
      · exact .inr hsettled

/-- **One step** keeps the way out of every job that waits for its reconciliation. -/
theorem wayOut_step (ho : Orderly s) (hw : WayOut s) (hok : LeavesWayOut s a)
    (hs : s.step a = some s') : WayOut s' := by
  obtain ⟨hworker, -, hconfigures, hserved, hkeys⟩ := hok
  have hall := reconcilable_step ho.reconcilable hconfigures hs
  have hresolves := ho.settled.resolvesSource ho.owned hworker hs
  exact {
    served := fun _ _ hrow => served_step ho hw hserved hs hrow
    alone := fun _ _ _ _ hrow hother => alone_step ho hw hall hs hrow hother
    keyed := fun _ _ _ _ hrow hother => keyed_step ho hw hkeys hresolves hs hrow hother
    named := fun _ _ _ hrow => named_step ho hw hkeys hs hrow
    modes := fun _ _ hrow => modes_step ho hw hs hrow
    asked := fun _ _ _ hasked => asked_step ho hw hs hasked
    unaborted := fun _ _ hrow => unaborted_step ho hw hs hrow }

end

/-! ### Runs -/

/-- The invariants of the conditions that `LeavesWayOut` is made of. -/
theorem orderly_of_leavesWayOut {s : Fleet} (h : fleetMachine.Reach LeavesWayOut s) :
    Orderly s where
  recorded := (owned_of_exclusive (fun _ _ hok => hok.1.1) h).1
  owned := (owned_of_exclusive (fun _ _ hok => hok.1.1) h).2
  barrier := barrierHeld_of_keepsBarrier (h.imp fun _ _ hok => hok.2.1)
  reconcilable := allReconcilable_of_neverConfigures (h.imp fun _ _ hok => hok.2.2.1)
  settled := sourceSettled_of_byWorker (h.imp fun _ _ hok => hok.1)

/-- **Every run.**  Where no step takes a job's reconciliation away, every job that waits has
what its reconciliation needs. -/
theorem wayOut_of_leavesWayOut {s : Fleet} (h : fleetMachine.Reach LeavesWayOut s) : WayOut s := by
  refine h.invariant ?_ fun s a s' hreach hinv hok hs =>
    wayOut_step (orderly_of_leavesWayOut hreach) hinv hok hs
  rintro s rfl
  constructor <;> simp [Fleet.initial, Fleet.jobs, Fleet.proc]

end Lxcup.Queue
