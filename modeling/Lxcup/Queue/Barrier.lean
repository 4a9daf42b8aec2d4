import Lxcup.Queue.Steps

/-!
# The reconciliation barrier

While a job of a target waits for its reconciliation, nothing else is to be claimed there.  The
query of the workers looks for such jobs, the query of the Windows agents does not.  And
between the query of a claim and its update the table can change: a job of the target that
was claimed and failed meanwhile is not looked for again.

## Main definitions

* `RespectsBarrier` — what a claim must not do.
* `KeepsBarrier` — agents ask for work of a target only while all they could find there are the
  reconciliations of the jobs that wait, and no job of a target gets to wait for its
  reconciliation while a claim on the target is open.
* `BarrierHeld` — every open claim is in front of the barrier.

## Main results

* `barrierHeld_step` — one step keeps the open claims in front of the barrier.
* `respectsBarrier_of_keepsBarrier` — every claim of every run respects it.
* `windows_claim_passes_barrier` — without the condition one does not.
-/

namespace Lxcup.Queue

open Lxcup.Lib Lxcup.Core Lxcup.Ansible Lxcup.Persistence Lxcup.Server Lxcup.Worker

/-! ### Claims and the jobs they wait for -/

/-- The updates of the two claims. -/
def FleetAction.isClaim : FleetAction → Bool
  | .claimCommit _ _ _ | .windowsCommit _ _ _ => true
  | _ => false

/-- A claim takes no job out of the queue while another job of the target waits for its
reconciliation, unless the claimed job is just that. -/
def RespectsBarrier (s : Fleet) (a : FleetAction) (s' : Fleet) : Prop :=
  a.isClaim = true → ∀ id job job', s.jobs.get id = some job → job.status = .queued →
    s'.jobs.get id = some job' → job'.status ≠ .queued →
    ∀ id' other, s.jobs.get id' = some other → id' ≠ id → other.target = job.target →
      other.status = .reconcileRequired → JobTable.isReconciliationOf job other.id = true

/-- The job of an open claim. -/
def Proc.claimed : Proc → Option AnsibleJob
  | .claiming job | .windowsClaiming job => some job
  | _ => none

theorem Proc.locks_eq_true {x : Proc} {id : AnsibleJobId} :
    x.locks id = true ↔ ∃ job, x.claimed = some job ∧ job.id = id := by
  cases x <;> simp [locks, claimed]

theorem Proc.claims_of_claimed {x : Proc} {job : AnsibleJob} (h : x.claimed = some job) :
    x.claims job.target = true := by
  cases x <;> simp only [claimed, Option.some.injEq, reduceCtorEq] at h <;> simp [claims, h]

/-- The job that the next write of the process would make wait for its reconciliation. -/
def Proc.unresolved : Proc → Option AnsibleJob
  | .recovering (job :: _) =>
    if recoveredStatus job.status = some .reconcileRequired then some job else none
  | .running job _ (.finishing result) =>
    if finalStatus job result.isOk = .reconcileRequired then some job else none
  | .reporting job succeeded =>
    if reportStatus job.mode succeeded = .reconcileRequired then some job else none
  | _ => none

/-- A claim on the target of the job is open, and not that of its reconciliation. -/
def Fleet.claimOpen (s : Fleet) (job : AnsibleJob) : Bool :=
  s.procs.any fun _ x => x.claimed.any fun candidate =>
    candidate.target = job.target && !JobTable.isReconciliationOf candidate job.id

/-- Some job of the target waits for its reconciliation while a queued one that a Windows agent
could carry out is not this reconciliation. -/
def Fleet.queuedBehindBarrier (s : Fleet) (target : ResourceTarget) : Bool :=
  s.jobs.any fun unresolved =>
    unresolved.target = target && unresolved.status = .reconcileRequired
      && s.jobs.any fun queued =>
        queued.target = target && queued.status = .queued
          && JobTable.isWindowsAgentOperation queued.operation
          && !JobTable.isReconciliationOf queued unresolved.id

/-- Agents ask for work of a target only where nothing but reconciliations is queued behind its
barrier, and no job is written as `reconcile_required` while a claim on its target is open. -/
def KeepsBarrier (s : Fleet) : FleetAction → Prop
  | .windowsSelect _ targetId _ => s.queuedBehindBarrier (.target targetId) = false
  | .recoverNext p _ false | .writeResult p _ false | .reportWrite p _ false =>
    ∀ job ∈ (s.proc p).unresolved, s.claimOpen job = false
  | _ => True

instance (s : Fleet) (a : FleetAction) : Decidable (KeepsBarrier s a) := by
  unfold KeepsBarrier
  split <;> infer_instance

/-- Every open claim is on the row as it was selected, in front of the barrier. -/
structure BarrierHeld (s : Fleet) : Prop where
  row : ∀ p job, (s.proc p).claimed = some job → s.jobs.get job.id = some job
  barrier : ∀ p job, (s.proc p).claimed = some job → s.jobs.barrierOpen job = true

/-! ### The barrier of a table -/

theorem barrierOpen_iff {jobs : JobTable} {candidate : AnsibleJob} :
    jobs.barrierOpen candidate = true ↔ ∀ id other, jobs.get id = some other →
      other.target = candidate.target → other.status = .reconcileRequired →
        JobTable.isReconciliationOf candidate other.id = true := by
  simp only [JobTable.barrierOpen, Bool.not_eq_true', JobTable.any_eq_false, Bool.and_eq_false_imp,
    Bool.and_eq_true, decide_eq_true_eq, Bool.not_eq_false', and_imp]

/-- A write keeps the barrier open, except for a job that now waits for its reconciliation. -/
theorem barrierOpen_put {jobs : JobTable} {candidate job : AnsibleJob}
    (h : jobs.barrierOpen candidate = true)
    (hjob : job.target = candidate.target → job.status = .reconcileRequired →
      JobTable.isReconciliationOf candidate job.id = true) :
    (jobs.put job).barrierOpen candidate = true := by
  rw [barrierOpen_iff] at h ⊢
  intro id other hother htarget hstatus
  rw [JobTable.get_put] at hother
  split at hother
  · obtain rfl := Option.some.inj hother
    exact hjob htarget hstatus
  · exact h id other hother htarget hstatus

/-- A job that an agent finds where only reconciliations are queued is in front of the barrier. -/
theorem barrierOpen_of_queuedBehindBarrier {s : Fleet} {targetId : TargetId} {id : AnsibleJobId}
    {job : AnsibleJob} (h : s.queuedBehindBarrier (.target targetId) = false)
    (hrow : s.jobs.get id = some job)
    (hclaimable : JobTable.windowsClaimable s.db.targets s.jobs targetId job = true) :
    s.jobs.barrierOpen job = true := by
  simp only [JobTable.windowsClaimable, Bool.and_eq_true, decide_eq_true_eq] at hclaimable
  obtain ⟨⟨⟨⟨htarget, -⟩, hqueued⟩, hoperation⟩, -⟩ := hclaimable
  rw [barrierOpen_iff]
  intro id' other hother hsame hstatus
  have hnone := JobTable.any_eq_false.mp h id' other hother
  simp only [hsame, htarget, hstatus, decide_true, Bool.true_and, JobTable.any_eq_false] at hnone
  simpa [htarget, hqueued, hoperation] using hnone id job hrow

/-! ### Steps -/

section

variable {s s' : Fleet} {p : ProcId} {a : FleetAction} {x : Proc}

/-- The action writes the next row of process `p` that may come to wait for its reconciliation. -/
def FleetAction.mayLeave (p : ProcId) (a : FleetAction) : Prop :=
  ∃ now, a = .recoverNext p now false ∨ a = .writeResult p now false ∨ a = .reportWrite p now false

/-- The writes of `reconcile_required` are those of recovery, of final results and of reports. -/
theorem unresolved_of_writes {before : Proc} {job : AnsibleJob} {path : List AnsibleJobStatus}
    (hwrites : Writes p a before job path x) (hstatus : job.status = .reconcileRequired) :
    a.mayLeave p ∧ ∃ copy ∈ before.unresolved, ∃ now, job = moved copy .reconcileRequired now := by
  cases hwrites with
  | @recovers copy rest next now hnext =>
    rw [moved_status] at hstatus
    subst hstatus
    exact ⟨⟨now, .inl rfl⟩, copy, by simp [Proc.unresolved, hnext], now, rfl⟩
  | claims | plans | marks => cases hstatus
  | @resolves job source stored decision now =>
    cases decision <;> cases hstatus
  | @finishes copy stored result now =>
    rw [moved_status] at hstatus
    rw [hstatus]
    exact ⟨⟨now, .inr (.inl rfl)⟩, copy, by simp [Proc.unresolved, hstatus], now, rfl⟩
  | @windowsClaims copy _ now hpath =>
    obtain ⟨-, rfl⟩ := claimPath_ok hpath
    have hclaimed : claimedStatus copy.mode = .reconcileRequired := hstatus
    unfold claimedStatus at hclaimed
    split at hclaimed <;> cases hclaimed
  | refuses hpath =>
    obtain ⟨-, rfl⟩ := resultPath_ok hpath
    cases hstatus
  | @reports copy _ succeeded now hpath =>
    obtain ⟨-, rfl⟩ := resultPath_ok hpath
    have hreported : reportStatus copy.mode succeeded = .reconcileRequired := hstatus
    rw [hreported]
    exact ⟨⟨now, .inr (.inr rfl)⟩, copy, by simp [Proc.unresolved, hreported], now, rfl⟩

/-- Such a write is made where no claim on the target is open. -/
private theorem claimOpen_of_mayLeave (hok : KeepsBarrier s a) (ha : a.mayLeave p)
    {copy : AnsibleJob} (hcopy : copy ∈ (s.proc p).unresolved) : s.claimOpen copy = false := by
  obtain ⟨now, rfl | rfl | rfl⟩ := ha
  · exact hok copy hcopy
  · exact hok copy hcopy
  · exact hok copy hcopy

/-- A job that is claimed after a change of a process was claimed before, or has been selected
in front of the barrier. -/
private theorem claimed_of_moves {before : Proc} {job : AnsibleJob} (hok : KeepsBarrier s a)
    (hmoves : Moves s p a before x) (hx : x.claimed = some job) :
    s.jobs.get job.id = some job ∧ s.jobs.barrierOpen job = true := by
  cases hmoves <;> simp only [Proc.claimed, Option.some.injEq, reduceCtorEq] at hx
  case selects hrow hclaimable _ =>
    subst hx
    simp only [JobTable.claimable, Bool.and_eq_true] at hclaimable
    exact ⟨hrow, hclaimable.2⟩
  case windowsSelects hrow hclaimable _ =>
    subst hx
    exact ⟨hrow, barrierOpen_of_queuedBehindBarrier hok hrow hclaimable⟩

/-- No process has an open claim right after a write. -/
private theorem claimed_of_writes {before : Proc} {job : AnsibleJob}
    {path : List AnsibleJobStatus} (hwrites : Writes p a before job path x) :
    x.claimed = none := by
  cases hwrites <;> rfl

/-- A process that has no claim, or has one in front of the barrier. -/
private theorem barrierHeld_setProc (h : BarrierHeld s)
    (hx : ∀ job, x.claimed = some job →
      s.jobs.get job.id = some job ∧ s.jobs.barrierOpen job = true) :
    BarrierHeld (s.setProc p x) where
  row q job hclaimed := by
    rw [Fleet.proc_setProc] at hclaimed
    split at hclaimed
    · exact (hx job hclaimed).1
    · exact h.row q job hclaimed
  barrier q job hclaimed := by
    rw [Fleet.proc_setProc] at hclaimed
    split at hclaimed
    · exact (hx job hclaimed).2
    · exact h.barrier q job hclaimed

/-- A row is written that no open claim has locked. -/
private theorem barrierHeld_put {job : AnsibleJob} (h : BarrierHeld s)
    (hjobs : s'.jobs = s.jobs.put job)
    (hclaims : ∀ q candidate, (s'.proc q).claimed = some candidate →
      (s.proc q).claimed = some candidate ∧ (s.proc q).locks job.id = false)
    (hjob : job.status = .reconcileRequired → ∀ q candidate,
      (s.proc q).claimed = some candidate → candidate.target = job.target →
        JobTable.isReconciliationOf candidate job.id = true) : BarrierHeld s' where
  row q candidate hclaimed := by
    obtain ⟨hbefore, hunlocked⟩ := hclaims q candidate hclaimed
    have hne : candidate.id ≠ job.id := by
      intro hid
      rw [Proc.locks_eq_true.mpr ⟨candidate, hbefore, hid⟩] at hunlocked
      cases hunlocked
    rw [hjobs, JobTable.get_put_ne _ _ hne]
    exact h.row q candidate hbefore
  barrier q candidate hclaimed := by
    obtain ⟨hbefore, -⟩ := hclaims q candidate hclaimed
    rw [hjobs]
    refine barrierOpen_put (h.barrier q candidate hbefore) fun htarget hstatus => ?_
    exact hjob hstatus q candidate hbefore htarget.symm

/-- A row that is not there is not locked. -/
private theorem unlocked_of_absent (h : BarrierHeld s) {id : AnsibleJobId}
    (habsent : s.jobs.get id = none) (q : ProcId) : (s.proc q).locks id = false := by
  by_contra hlocked
  obtain ⟨job, hclaimed, rfl⟩ := Proc.locks_eq_true.mp (by simpa using hlocked)
  rw [h.row q job hclaimed] at habsent
  cases habsent

/-- Where the guard finds no open claim, every claim on the target is that of the
reconciliation. -/
private theorem isReconciliationOf_of_claimOpen {copy candidate : AnsibleJob}
    (hopen : s.claimOpen copy = false) {q : ProcId} (hclaimed : (s.proc q).claimed = some candidate)
    (htarget : candidate.target = copy.target) :
    JobTable.isReconciliationOf candidate copy.id = true := by
  have hnone := Fleet.procs_any_eq_false hopen (fun _ => rfl) q
  simpa [hclaimed, htarget] using hnone

/-- **One step** keeps the open claims in front of the barrier. -/
theorem barrierHeld_step (h : BarrierHeld s) (hok : KeepsBarrier s a)
    (hs : s.step a = some s') : BarrierHeld s' := by
  have hqueued : ∀ {job : AnsibleJob} {P : Prop}, job.status = .queued →
      job.status = .reconcileRequired → P := by
    intro job P hqueued hstatus
    rw [hqueued] at hstatus
    cases hstatus
  cases effect_step hs with
  | move hmoves => exact barrierHeld_setProc h fun job => claimed_of_moves hok hmoves
  | miss hwrites _ =>
    refine barrierHeld_setProc h fun job hclaimed => ?_
    rw [claimed_of_writes hwrites] at hclaimed
    cases hclaimed
  | @write p x job row path hwrites _ hunlocked _ =>
    refine barrierHeld_put h rfl (fun q candidate hclaimed => ?_)
      fun hstatus q candidate hc ht => ?_
    · rw [Fleet.proc_setProc] at hclaimed
      split at hclaimed
      · rw [claimed_of_writes hwrites] at hclaimed
        cases hclaimed
      · rename_i hq
        have hfree := Fleet.procs_any_eq_false hunlocked (by simp [Proc.locks]) q
        exact ⟨hclaimed, by simpa [hq] using hfree⟩
    · obtain ⟨ha, copy, hcopy, time, rfl⟩ := unresolved_of_writes hwrites hstatus
      have hopen : s.claimOpen copy = false := claimOpen_of_mayLeave hok ha hcopy
      have hreconciles := isReconciliationOf_of_claimOpen hopen hc (ht.trans (moved_target ..))
      rwa [moved_id]
  | submit _ _ _ habsent =>
    exact barrierHeld_put h rfl (fun q _ hclaimed => ⟨hclaimed, unlocked_of_absent h habsent q⟩)
      (hqueued rfl)
  | @reconciliation p source newId now _ _ _ habsent _ =>
    refine barrierHeld_put h rfl (fun q candidate hclaimed => ?_)
      (@hqueued (AnsibleJobCoordinator.reconciliationOf source newId now) _ rfl)
    rw [Fleet.proc_setProc] at hclaimed
    split at hclaimed
    · cases hclaimed
    · exact ⟨hclaimed, unlocked_of_absent h habsent q⟩
  | @requeue id job now hunlocked hfound _ _ =>
    obtain rfl := JobTable.get_id hfound
    exact barrierHeld_put h rfl (fun q _ hclaimed => ⟨hclaimed, hunlocked q⟩) (hqueued rfl)
  | target => exact ⟨h.row, h.barrier⟩
  | @delete id db hunclaimed _ hjobs _ =>
    have hget : ∀ id', (Fleet.jobs { s with db := db }).get id'
        = (s.jobs.get id').filter fun job => job.target ≠ .target id := by
      intro id'
      rw [Fleet.jobs, hjobs, JobTable.get_retain]
    refine ⟨fun q candidate hclaimed => ?_, fun q candidate hclaimed => ?_⟩
    · -- the deletion waits for claims on the target
      have hne : candidate.target ≠ .target id := by
        intro htarget
        have hclaims : (s.proc q).claims candidate.target = true :=
          Proc.claims_of_claimed hclaimed
        rw [htarget, hunclaimed q] at hclaims
        cases hclaims
      rw [hget, h.row q candidate hclaimed]
      simp [hne]
    · rw [barrierOpen_iff]
      intro id' other hother
      rw [hget, Option.filter_eq_some_iff] at hother
      exact barrierOpen_iff.mp (h.barrier q candidate hclaimed) id' other hother.1

/-! ### Claims -/

/-- A claim in front of the barrier respects it. -/
theorem BarrierHeld.respectsBarrier (h : BarrierHeld s) (hs : s.step a = some s') :
    RespectsBarrier s a s' := by
  intro hclaim id job job' hrow hqueued hrow' hmoved id' other hother _ htarget hstatus
  rcases row_of_step hs hrow' with hsame | hagain | ⟨hid, -, p, path, x, hwrites⟩
  · rw [hrow] at hsame
    exact absurd (Option.some.inj hsame ▸ hqueued) hmoved
  · exact absurd hagain hmoved
  · -- the claimed copy is the row
    have hclaimed : ∃ copy, (s.proc p).claimed = some copy ∧ copy.id = job'.id := by
      generalize s.proc p = before at hwrites
      cases hwrites with
      | claims => exact ⟨_, rfl, rfl⟩
      | windowsClaims hpath =>
        obtain ⟨-, rfl⟩ := claimPath_ok hpath
        exact ⟨_, rfl, rfl⟩
      | _ => cases hclaim
    obtain ⟨copy, hcopy, hcopyId⟩ := hclaimed
    have hcopyRow := h.row p copy hcopy
    rw [hcopyId, hid, hrow] at hcopyRow
    obtain rfl := Option.some.inj hcopyRow
    exact barrierOpen_iff.mp (h.barrier p job hcopy) id' other hother htarget hstatus

end

/-- The open claims of such runs are in front of the barrier. -/
theorem barrierHeld_of_keepsBarrier {s : Fleet} (h : fleetMachine.Reach KeepsBarrier s) :
    BarrierHeld s := by
  refine h.invariant ?_ fun s a s' _ hinv hok hs => barrierHeld_step hinv hok hs
  rintro s rfl
  constructor
  all_goals
    intro p job hclaimed
    cases hclaimed

/-- **Every run.**  Where agents ask for work only while nothing but reconciliations is queued
behind the barrier, and no job gets to wait for its reconciliation during an open claim on its
target, every claim respects the barrier. -/
theorem respectsBarrier_of_keepsBarrier {s s' : Fleet} {a : FleetAction}
    (h : fleetMachine.Reach KeepsBarrier s) (hs : s.step a = some s') : RespectsBarrier s a s' :=
  (barrierHeld_of_keepsBarrier h).respectsBarrier hs

/-! ### Fixed runs -/

/-- An update of packages on a Windows target, queued before `others`, is claimed by the agent
and reported as failed; `more` follows. -/
def failedUpdate (others more : List FleetAction) : List FleetAction :=
  [.putTarget (sampleTarget .windowsServer .agent),
    .submit (sampleRequest .apply (.updatePackages ["Git.Git"]) "update") ⟨⟨1⟩⟩ 0] ++ others
    ++ [.windowsSelect 1 ⟨⟨7⟩⟩ ⟨⟨1⟩⟩, .windowsCommit 1 2 false, .windowsAnswer 1 2 false,
      .reportLoad 1 ⟨⟨1⟩⟩ false, .reportWrite 1 3 false] ++ more

/-- The agent claims the reconciliation of the job that waits for it. -/
theorem reconciliation_claim_respectsBarrier :
    ∃ s s', fleetMachine.Reach KeepsBarrier s ∧ s.step (.windowsCommit 1 5 false) = some s' ∧
      (s.jobs.get ⟨⟨1⟩⟩).map (·.status) = some .reconcileRequired ∧
      (s'.jobs.get ⟨⟨3⟩⟩).map (·.status) = some .checking ∧
      RespectsBarrier s (.windowsCommit 1 5 false) s' := by
  have hrun : ∃ s ∈ fleetMachine.exec KeepsBarrier .initial (failedUpdate []
      (requestReconciliation 1 ⟨⟨1⟩⟩ ⟨⟨3⟩⟩ 4 ++ [.windowsSelect 1 ⟨⟨7⟩⟩ ⟨⟨3⟩⟩])),
      ∃ s' ∈ s.step (.windowsCommit 1 5 false),
        (s.jobs.get ⟨⟨1⟩⟩).map (·.status) = some .reconcileRequired ∧
        (s'.jobs.get ⟨⟨3⟩⟩).map (·.status) = some .checking := by
    decide +kernel
  obtain ⟨s, hexec, s', hs, hsource, hclaimed⟩ := hrun
  have hreach : fleetMachine.Reach KeepsBarrier s := .exec (.init rfl) _ hexec
  exact ⟨s, s', hreach, hs, hsource, hclaimed, respectsBarrier_of_keepsBarrier hreach hs⟩

/-- The agent claims a health check while the update waits for its reconciliation. -/
theorem windows_claim_passes_barrier :
    ¬ ∀ s a s', fleetMachine.Reach Machine.Any s → s.step a = some s' →
      RespectsBarrier s a s' := by
  intro hall
  have hrun : ∃ s ∈ fleetMachine.exec Machine.Any .initial (failedUpdate
      [.submit (sampleRequest .check .healthCheck "check") ⟨⟨2⟩⟩ 1]
      [.windowsSelect 1 ⟨⟨7⟩⟩ ⟨⟨2⟩⟩]),
      ∃ s' ∈ s.step (.windowsCommit 1 4 false),
      ∃ other ∈ s.jobs.get ⟨⟨1⟩⟩, ∃ job ∈ s.jobs.get ⟨⟨2⟩⟩, ∃ job' ∈ s'.jobs.get ⟨⟨2⟩⟩,
        job.status = .queued ∧ job'.status = .checking ∧ other.target = job.target ∧
          other.status = .reconcileRequired ∧
          JobTable.isReconciliationOf job other.id = false := by
    decide +kernel
  obtain ⟨s, hexec, s', hs, other, hother, job, hjob, job', hjob', hqueued, hchecking, htarget,
    hstatus, hnot⟩ := hrun
  have hpasses := hall s _ s' (.exec (.init rfl) _ hexec) hs rfl _ job job' hjob hqueued hjob'
    (by simp [hchecking]) _ other hother (by decide) htarget hstatus
  rw [hnot] at hpasses
  cases hpasses

end Lxcup.Queue
