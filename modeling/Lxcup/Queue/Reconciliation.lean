import Lxcup.Queue.Ownership

/-!
# Reconciliations and their sources

A reconciliation that succeeds is to settle the job it was made from.  The worker writes the
source before it finishes the reconciliation.  A report of a Windows agent finishes the
reconciliation alone; its source goes on waiting, and with it the target.

For the worker one has to see that the source stays settled until the reconciliation is
finished: nobody holds it, and it cannot be claimed again, since the reconciliation itself
is active on the target.

## Main definitions

* `ResolvesSource` — a step that finishes a reconciliation leaves no source waiting.
* `ByWorker` — exclusive steps, and no agent reports the success of a reconciliation.
* `SourceSettled` — from the write of the source to the end of the reconciliation.

## Main results

* `sourceSettled_step` — one step keeps the sources settled.
* `SourceSettled.resolvesSource` — a reconciliation that succeeds then has settled its source.
* `resolvesSource_of_byWorker` — every step of every run.
* `reported_reconciliation_leaves_source` — without the condition.
-/

namespace Lxcup.Queue

open Lxcup.Lib Lxcup.Core Lxcup.Ansible Lxcup.Persistence Lxcup.Server Lxcup.Worker

/-- When a job in mode `reconcile` gets to `succeeded`, the job its key names does not wait for
its reconciliation any more. -/
def ResolvesSource (s s' : Fleet) : Prop :=
  ∀ id job, s'.jobs.get id = some job → job.mode = .reconcile → job.status = .succeeded →
    (∀ before, s.jobs.get id = some before → before.status ≠ .succeeded) →
    ∀ sourceId source, reconciliationSourceJobId job.idempotencyKey = some sourceId →
      s'.jobs.get sourceId = some source → source.status ≠ .reconcileRequired

/-- The step takes up no job that another process holds, and reports no success of a
reconciliation. -/
def ByWorker (s : Fleet) (a : FleetAction) : Prop :=
  Exclusive s a ∧
    match a with
    | .reportWrite p _ _ =>
      match s.proc p with
      | .reporting job succeeded => succeeded = true → job.mode ≠ .reconcile
      | _ => True
    | _ => True

/-- The part of `ByWorker` on reports, decided by the process that reports. -/
private def decidableReport (x : Proc) : Decidable (match x with
    | .reporting job succeeded => succeeded = true → job.mode ≠ .reconcile
    | _ => True) :=
  match x with
  | .reporting job succeeded =>
    inferInstanceAs (Decidable (succeeded = true → job.mode ≠ .reconcile))
  | .down | .recovering _ | .idle | .claiming _ | .running .. | .windowsClaiming _
  | .windowsClaimed _ | .reconciling _ _ => isTrue trivial

instance (s : Fleet) (a : FleetAction) : Decidable (ByWorker s a) :=
  @instDecidableAnd _ _ inferInstance <|
    match a with
    | .reportWrite p _ _ => decidableReport (s.proc p)
    | .restart .. | .claimSelect .. | .windowsSelect .. | .reportLoad .. | .markApplying ..
    | .recoverNext .. | .crash .. | .claimCommit .. | .findTarget .. | .writePlanned ..
    | .loadSource .. | .startPlaybook .. | .playbookDone .. | .reconcile .. | .finishRun ..
    | .stepFails .. | .writeResult .. | .windowsCommit .. | .windowsAnswer .. | .submit ..
    | .reconcileLoad .. | .reconcileFind .. | .reconcileCheck .. | .reconcileSubmit ..
    | .retry .. | .putTarget .. | .deleteTarget .. => isTrue trivial

/-! ### Settled sources -/

/-- The source has been dealt with and the run goes on to succeed. -/
def Phase.resolved : Phase → Bool
  | .reconciled true | .finishing (.ok _) => true
  | _ => false

/-- A source that has been dealt with, and may have been queued again. -/
structure Settled (target : ResourceTarget) (row : AnsibleJob) : Prop where
  mode : row.mode = .apply
  target : row.target = target
  status : row.status = .succeeded ∨ row.status = .failed ∨ row.status = .queued

/-- The source of every reconciliation that is about to succeed is settled. -/
def SourceSettled (s : Fleet) : Prop :=
  ∀ p job stored phase, s.proc p = .running job stored phase → phase.resolved = true →
    job.mode = .reconcile → ∃ sourceId row,
      reconciliationSourceJobId job.idempotencyKey = some sourceId ∧
        s.jobs.get sourceId = some row ∧ Settled job.target row

section

variable {s s' : Fleet} {p : ProcId} {a : FleetAction} {x : Proc}

/-- A change of a process without a write settles nothing: a reconciliation that gets there has
been there before. -/
private theorem settled_of_moves (howned : Owned s) (hsettled : SourceSettled s)
    (hmoves : Moves s p a (s.proc p) x) {job : AnsibleJob} {stored : AnsibleJobStatus}
    {phase : Phase} (hx : x = .running job stored phase) (hresolved : phase.resolved = true)
    (hmode : job.mode = .reconcile) : ∃ sourceId row,
      reconciliationSourceJobId job.idempotencyKey = some sourceId ∧
        s.jobs.get sourceId = some row ∧ Settled job.target row := by
  have hconsistent := howned.consistent p
  generalize hp : s.proc p = before at hmoves hconsistent
  cases hmoves <;> simp only [reduceCtorEq, Proc.running.injEq] at hx <;>
    obtain ⟨rfl, rfl, rfl⟩ := hx <;> try cases hresolved
  case reconciles success source hnothing =>
    -- without a source the job is no reconciliation
    cases success with
    | false => cases hresolved
    | true =>
      obtain rfl : source = none := by simpa using hnothing
      exact absurd hmode hconsistent.2
  case returns => exact hsettled p _ _ _ hp rfl hmode

/-- The worker settles the source when it has been written. -/
private theorem settled_of_writes (howned : Owned s) {written : AnsibleJob}
    {path : List AnsibleJobStatus} (hwrites : Writes p a (s.proc p) written path x)
    {job : AnsibleJob} {stored : AnsibleJobStatus} {phase : Phase}
    (hx : x = .running job stored phase) (hresolved : phase.resolved = true)
    (hmode : job.mode = .reconcile) :
    reconciliationSourceJobId job.idempotencyKey = some written.id ∧
      Settled job.target written := by
  have hconsistent := howned.consistent p
  generalize hp : s.proc p = before at hwrites hconsistent
  cases hwrites <;> simp only [reduceCtorEq, Proc.running.injEq] at hx <;>
    obtain ⟨rfl, rfl, rfl⟩ := hx <;> try cases hresolved
  case resolves source decision now =>
    obtain ⟨-, hof⟩ := hconsistent
    obtain ⟨-, happly, htarget⟩ := hof.reconcileRequired
    refine ⟨hof.2.1, happly, htarget, ?_⟩
    cases decision
    · exact .inl rfl
    · exact .inr (.inl rfl)
    · exact .inr (.inl rfl)

/-- A reconciliation is another job than its settled source. -/
private theorem settled_ne (howned : Owned s) {job row : AnsibleJob} {stored : AnsibleJobStatus}
    {phase : Phase} {id : AnsibleJobId} (hp : s.proc p = .running job stored phase)
    (hmode : job.mode = .reconcile) (hrow : s.jobs.get id = some row)
    (hsettled : Settled job.target row) : job.id ≠ id := by
  intro hid
  obtain ⟨time, hjob, -⟩ := howned.running_row hp
  rw [hid, hrow] at hjob
  have hmodes : row.mode = job.mode := by rw [Option.some.inj hjob, moved_mode]
  rw [hsettled.mode, hmode] at hmodes
  cases hmodes

/-- Nobody writes a settled source while its reconciliation runs: only a claim could, and the
reconciliation is active on the target. -/
private theorem settled_not_written (howned : Owned s) {job row written : AnsibleJob}
    {stored : AnsibleJobStatus} {phase : Phase} (hp : s.proc p = .running job stored phase)
    (hmode : job.mode = .reconcile) {q : ProcId} {path : List AnsibleJobStatus}
    (hwrites : Writes q a (s.proc q) written path x) (hrow : s.jobs.get written.id = some row)
    (hsettled : Settled job.target row) (hconflict : s.jobs.activeConflict written = false) :
    False := by
  obtain ⟨e, he, ⟨time, hwritten⟩, hpath⟩ := (howned.writes hwrites).origin
  have hid : e.job.id = written.id := by rw [hwritten, moved_id]
  obtain ⟨time', rfl⟩ : ∃ time, row = moved e.job e.stored time := by
    rcases howned.current q e he with hcurrent | ⟨-, -, hnone, -⟩
    · exact hcurrent.row (hid ▸ hrow)
    · rw [hid, hrow] at hnone
      cases hnone
  have hinactive : written.status.isActive = false := by
    by_contra hactive
    obtain ⟨time, hjob, hjobActive⟩ := howned.running_row hp
    have hne := settled_ne howned hp hmode hrow hsettled
    have htarget : job.target = written.target := by
      rw [hwritten]
      exact hsettled.target.symm
    have hidle := JobTable.activeConflict_eq_false.mp hconflict (by simpa using hactive) _ _ hjob
      hne htarget
    rw [moved_status, hjobActive] at hidle
    cases hidle
  -- what is held of the source is a queued copy, in a claim or a report
  have hstatus := hsettled.status
  rw [moved_status] at hstatus
  rcases (howned.consistent q).stored he with hactive | ⟨_, _, _, _, _, hsource, _⟩ |
      ⟨hqueued, htaken⟩
  · rcases hstatus with hstatus | hstatus | hstatus <;> rw [hstatus] at hactive <;> cases hactive
  · rcases hstatus with hstatus | hstatus | hstatus <;> rw [hstatus] at hsource <;> cases hsource
  · generalize s.proc q = before at hwrites he htaken
    cases hwrites with
    | claims => cases hinactive
    | @windowsClaims copy _ now hclaim =>
      obtain ⟨-, rfl⟩ := claimPath_ok hclaim
      have hclaimed : (claimedStatus copy.mode).isActive = false := hinactive
      unfold claimedStatus at hclaimed
      split at hclaimed <;> cases hclaimed
    | @reports copy _ succeeded now hreport =>
      -- there is no edge from `queued` to the outcome of an application
      obtain rfl := List.mem_singleton.mp he
      have happly : copy.mode = .apply := hsettled.mode
      have hcopy : copy.status = .queued := hqueued
      have hedges := (resultPath_ok hreport).1
      rw [happly, hcopy] at hedges
      cases succeeded <;>
        simp [AnsibleJob.LifecyclePath, resultPath, reportStatus,
          AnsibleJobStatus.canTransitionTo] at hedges
    | _ => simp [Proc.claims, Proc.isReporting] at htaken

/-- A new row leaves the others as they are. -/
private theorem get_put_new {jobs : JobTable} {written row : AnsibleJob} {id : AnsibleJobId}
    (habsent : jobs.get written.id = none) (hrow : jobs.get id = some row) :
    (jobs.put written).get id = some row := by
  refine (JobTable.get_put_ne _ _ ?_).trans hrow
  rintro rfl
  rw [habsent] at hrow
  cases hrow

/-- **One step** keeps the source of every reconciliation that is about to succeed settled. -/
theorem sourceSettled_step (howned : Owned s) (h : SourceSettled s) (hs : s.step a = some s') :
    SourceSettled s' := by
  intro p job stored phase hp hresolved hmode
  -- a process that has not changed, in a step that keeps its source
  have hkeeps : s.proc p = .running job stored phase → (∀ sourceId row,
      s.jobs.get sourceId = some row → Settled job.target row →
        ∃ row', s'.jobs.get sourceId = some row' ∧ Settled job.target row') →
      ∃ sourceId row, reconciliationSourceJobId job.idempotencyKey = some sourceId ∧
        s'.jobs.get sourceId = some row ∧ Settled job.target row := by
    intro hbefore hkept
    obtain ⟨sourceId, row, hnamed, hrow, hsettled⟩ := h p job stored phase hbefore hresolved hmode
    obtain ⟨row', hrow', hsettled'⟩ := hkept sourceId row hrow hsettled
    exact ⟨sourceId, row', hnamed, hrow', hsettled'⟩
  cases effect_step hs with
  | move hmoves =>
    rw [Fleet.proc_setProc] at hp
    split at hp
    · exact settled_of_moves howned h hmoves hp hresolved hmode
    · exact hkeeps hp fun _ row hrow hsettled => ⟨row, hrow, hsettled⟩
  | miss hwrites hgone =>
    obtain rfl := (howned.writes hwrites).lost hgone
    rw [Fleet.proc_setProc] at hp
    split at hp
    · cases hp
    · exact hkeeps hp fun _ row hrow hsettled => ⟨row, hrow, hsettled⟩
  | @write q x written row path hwrites hfound _ hconflict =>
    rw [Fleet.proc_setProc] at hp
    split at hp
    · obtain ⟨hnamed, hsettled⟩ := settled_of_writes howned hwrites hp hresolved hmode
      exact ⟨written.id, written, hnamed, JobTable.get_put_self _ _, hsettled⟩
    · refine hkeeps hp fun sourceId row hrow hsettled => ?_
      have hne : sourceId ≠ written.id := by
        rintro rfl
        exact settled_not_written howned hp hmode hwrites hrow hsettled hconflict
      exact ⟨row, (JobTable.get_put_ne _ _ hne).trans hrow, hsettled⟩
  | submit _ _ _ habsent =>
    exact hkeeps hp fun _ row hrow hsettled => ⟨row, get_put_new habsent hrow, hsettled⟩
  | @reconciliation q asked newId now _ _ _ habsent _ =>
    rw [Fleet.proc_setProc] at hp
    split at hp
    · cases hp
    · have hkept := @get_put_new s.jobs (AnsibleJobCoordinator.reconciliationOf asked newId now)
      exact hkeeps hp fun _ row hrow hsettled => ⟨row, hkept habsent hrow, hsettled⟩
  | @requeue id failed now _ hfound _ _ =>
    refine hkeeps hp fun sourceId row hrow hsettled => ?_
    obtain rfl := JobTable.get_id hfound
    by_cases hid : sourceId = failed.id
    · subst hid
      obtain rfl := Option.some.inj (hfound.symm.trans hrow)
      exact ⟨_, JobTable.get_put_self _ (moved failed .queued now), hsettled.mode,
        hsettled.target, .inr (.inr rfl)⟩
    · exact ⟨row, (JobTable.get_put_ne _ (moved failed .queued now) hid).trans hrow, hsettled⟩
  | target => exact hkeeps hp fun _ row hrow hsettled => ⟨row, hrow, hsettled⟩
  | @delete id db _ hidle hjobs _ =>
    refine hkeeps hp fun sourceId row hrow hsettled => ⟨row, ?_, hsettled⟩
    have htarget : row.target ≠ .target id := by
      intro htarget
      obtain ⟨time, hjob, hactive⟩ := howned.running_row hp
      have hopen := hidle _ _ hjob (hsettled.target.symm.trans htarget)
      simp [Database.blocksDeletion, hactive] at hopen
    rw [Fleet.jobs, hjobs, JobTable.get_retain]
    change (s.jobs.get sourceId).filter _ = _
    rw [hrow]
    simp [htarget]

/-- A step in which a reconciliation gets to `succeeded` is the end of its run, or a report. -/
private theorem resolved_of_succeeds (howned : Owned s) (hok : ByWorker s a) {job : AnsibleJob}
    {path : List AnsibleJobStatus} (hwrites : Writes p a (s.proc p) job path x)
    (hmode : job.mode = .reconcile) (hsucceeded : job.status = .succeeded) :
    ∃ copy stored phase, s.proc p = .running copy stored phase ∧ phase.resolved = true ∧
      copy.id = job.id ∧ copy.mode = .reconcile ∧ copy.idempotencyKey = job.idempotencyKey := by
  have hconsistent := howned.consistent p
  obtain ⟨-, hreports⟩ := hok
  generalize hp : s.proc p = before at hwrites hconsistent
  cases hwrites with
  | @recovers copy rest next now hnext =>
    have hedge : next = .succeeded := hsucceeded
    cases hstatus : copy.status <;> simp [recoveredStatus, hstatus, hedge] at hnext
  | claims | plans | marks => cases hsucceeded
  | @resolves job source stored decision now =>
    have happly := hconsistent.2.reconcileRequired.2.1
    rw [moved_mode, happly] at hmode
    cases hmode
  | @finishes copy stored result now =>
    refine ⟨copy, stored, _, rfl, ?_, rfl, hmode, rfl⟩
    cases result with
    | ok changed => rfl
    | error code =>
      have hfinal : finalStatus copy false = .succeeded := hsucceeded
      unfold finalStatus at hfinal
      split at hfinal
      · contradiction
      · split at hfinal <;> cases hfinal
  | @windowsClaims copy _ now hpath =>
    obtain ⟨-, rfl⟩ := claimPath_ok hpath
    have hclaimed : claimedStatus copy.mode = .succeeded := hsucceeded
    unfold claimedStatus at hclaimed
    split at hclaimed <;> cases hclaimed
  | refuses hpath =>
    obtain ⟨-, rfl⟩ := resultPath_ok hpath
    cases hsucceeded
  | @reports copy _ succeeded now hpath =>
    obtain ⟨-, rfl⟩ := resultPath_ok hpath
    simp only [hp] at hreports
    have hreported : reportStatus copy.mode succeeded = .succeeded := hsucceeded
    cases succeeded with
    | true => exact absurd hmode (hreports rfl)
    | false =>
      unfold reportStatus at hreported
      split at hreported
      · contradiction
      · split at hreported <;> cases hreported

end

/-- **One step**: a reconciliation that succeeds has settled its source. -/
theorem SourceSettled.resolvesSource {s s' : Fleet} {a : FleetAction} (howned : Owned s)
    (hsettled : SourceSettled s) (hok : ByWorker s a) (hs : s.step a = some s') :
    ResolvesSource s s' := by
  intro id job hrow hmode hsucceeded hbefore sourceId source hnamed hsource
  rcases row_of_step hs hrow with hsame | hqueued | ⟨rfl, -, p, path, x, hwrites⟩
  · exact absurd hsucceeded (hbefore job hsame)
  · rw [hqueued] at hsucceeded
    cases hsucceeded
  · obtain ⟨copy, stored, phase, hp, hresolved, hid, hcopy, hkey⟩ :=
      resolved_of_succeeds howned hok hwrites hmode hsucceeded
    obtain ⟨namedId, row, hnamed', hrow', hrowSettled⟩ :=
      hsettled p copy stored phase hp hresolved hcopy
    obtain rfl : namedId = sourceId := by
      rw [hkey, hnamed] at hnamed'
      exact (Option.some.inj hnamed').symm
    -- the source is not written in the step that finishes the reconciliation
    rcases row_of_step hs hsource with hsame | hqueued | ⟨rfl, hconflict, q, path', x', hwrites'⟩
    · obtain rfl := Option.some.inj (hrow'.symm.trans hsame)
      rcases hrowSettled.status with hstatus | hstatus | hstatus <;> simp [hstatus]
    · simp [hqueued]
    · exact (settled_not_written howned hp hcopy hwrites' hrow' hrowSettled hconflict).elim

/-- Where no process takes up a job that another one holds, the sources are settled. -/
theorem sourceSettled_of_byWorker {s : Fleet} (h : fleetMachine.Reach ByWorker s) :
    SourceSettled s := by
  refine h.invariant ?_ fun s a s' hreach hinv _ hs =>
    sourceSettled_step (owned_of_exclusive (fun _ _ hok => hok.1) hreach).2 hinv hs
  rintro s rfl p job stored phase hp
  cases hp

/-- **Every run.**  Where no process takes up a job that another one holds, and reconciliations
are not reported by agents, a reconciliation that succeeds settles its source. -/
theorem resolvesSource_of_byWorker {s s' : Fleet} {a : FleetAction}
    (h : fleetMachine.Reach ByWorker s) (hok : ByWorker s a) (hs : s.step a = some s') :
    ResolvesSource s s' :=
  (sourceSettled_of_byWorker h).resolvesSource (owned_of_exclusive (fun _ _ hok => hok.1) h).2 hok
    hs

/-! ### Fixed runs -/

/-- The source of a reconciliation by worker `1`: a repair that could not be finished. -/
def failedRepair : List FleetAction :=
  [.putTarget (sampleTarget .linuxServer .ssh),
    .submit (sampleRequest .apply .repairAgent "repair") ⟨⟨1⟩⟩ 0, .restart 1,
    .recoverNext 1 0 false, .recoverNext 1 0 false] ++ prepareRun 1 ⟨⟨1⟩⟩
    ++ [.markApplying 1 3 false, .stepFails 1 .unreachable, .writeResult 1 4 false]
    ++ requestReconciliation 2 ⟨⟨1⟩⟩ ⟨⟨3⟩⟩ 5

/-- The worker reconciles the repair. -/
theorem worker_reconciliation_resolvesSource :
    ∃ s s', fleetMachine.Reach ByWorker s ∧ s.step (.writeResult 1 7 false) = some s' ∧
      (s'.jobs.get ⟨⟨3⟩⟩).map (·.status) = some .succeeded ∧
      (s'.jobs.get ⟨⟨1⟩⟩).map (·.status) = some .failed ∧ ResolvesSource s s' := by
  have hrun : ∃ s ∈ fleetMachine.exec ByWorker .initial (failedRepair ++ prepareRun 1 ⟨⟨3⟩⟩
      ++ [.markApplying 1 6 false, .startPlaybook 1, .playbookDone 1 true,
        .reconcile 1 .changesRemain 6 false, .finishRun 1 false .playbookFailed]),
      ByWorker s (.writeResult 1 7 false) ∧ ∃ s' ∈ s.step (.writeResult 1 7 false),
        (s'.jobs.get ⟨⟨3⟩⟩).map (·.status) = some .succeeded ∧
        (s'.jobs.get ⟨⟨1⟩⟩).map (·.status) = some .failed := by
    decide +kernel
  obtain ⟨s, hexec, hok, s', hs, hsucceeded, hsource⟩ := hrun
  have hreach : fleetMachine.Reach ByWorker s := .exec (.init rfl) _ hexec
  exact ⟨s, s', hreach, hs, hsucceeded, hsource, resolvesSource_of_byWorker hreach hok hs⟩

/-- A Windows agent claims and reports the reconciliation of a failed update. -/
def reportedReconciliation : List FleetAction :=
  [.putTarget (sampleTarget .windowsServer .agent),
    .submit (sampleRequest .apply (.updatePackages ["Git.Git"]) "update") ⟨⟨1⟩⟩ 0,
    .windowsSelect 1 ⟨⟨7⟩⟩ ⟨⟨1⟩⟩, .windowsCommit 1 1 false, .windowsAnswer 1 1 false,
    .reportLoad 1 ⟨⟨1⟩⟩ false, .reportWrite 1 2 false] ++ requestReconciliation 1 ⟨⟨1⟩⟩ ⟨⟨3⟩⟩ 3
    ++ [.windowsSelect 1 ⟨⟨7⟩⟩ ⟨⟨3⟩⟩, .windowsCommit 1 4 false, .windowsAnswer 1 4 false,
      .reportLoad 1 ⟨⟨3⟩⟩ true]

/-- The reconciliation succeeds and its source goes on waiting. -/
theorem reported_reconciliation_leaves_source :
    ¬ ∀ s a s', fleetMachine.Reach Machine.Any s → s.step a = some s' → ResolvesSource s s' := by
  intro hall
  have hrun : ∃ s ∈ fleetMachine.exec Machine.Any .initial reportedReconciliation,
      ∃ s' ∈ s.step (.reportWrite 1 5 false), ∃ before ∈ s.jobs.get ⟨⟨3⟩⟩,
      ∃ job ∈ s'.jobs.get ⟨⟨3⟩⟩, ∃ source ∈ s'.jobs.get ⟨⟨1⟩⟩,
        before.status = .checking ∧ (job.mode = .reconcile ∧ job.status = .succeeded ∧
          job.idempotencyKey = reconcileIdempotencyKey ⟨⟨1⟩⟩) ∧
          source.status = .reconcileRequired := by
    decide +kernel
  obtain ⟨s, hexec, s', hs, before, hbefore, job, hjob, source, hsource, hchecking,
    ⟨hmode, hsucceeded, hkey⟩, hwaits⟩ := hrun
  have hnamed := reconciliationSourceJobId_key ⟨⟨1⟩⟩
  rw [← hkey] at hnamed
  refine hall s _ s' (.exec (.init rfl) _ hexec) hs _ job hjob hmode hsucceeded ?_ _ source hnamed
    hsource hwaits
  intro other hother
  rw [Option.mem_def.mp hbefore] at hother
  rw [← Option.some.inj hother, hchecking]
  decide

end Lxcup.Queue
