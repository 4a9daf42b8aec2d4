import Lxcup.Worker.Loop
import Lxcup.Worker.Recovery

/-!
# How a claimed job ends

Whatever fails while a worker runs a job, the status that `run` leaves in memory can be followed by
the final one, and the final one says how far the run had come.  A playbook that applies something
is started only when the table says `applying`, and the row is not written again before the end; so
a recovery at any later time takes the job for one that has to be reconciled.

Other processes may change the tables between any two effects.  What the rows say of a job is known
as long as they leave the rows alone of the jobs that the worker holds.

## Main definitions

* `RightStatus` — the final status fits the result of the run and its progress.
* `Settled` — the worker has not panicked, and writes the right status.
* `Alone` — the others leave the held jobs alone.
* `Kept`, `OwnRow` — what the rows say of the held jobs, and of the one that is running.

## Main results

* `settled_of_reach` — whatever the others do, the final status is the right one.
* `kept_of_reach` — the rows of held jobs are as the worker has left them.
* `worker_outcome` — both, and what a recovery does to a job whose playbook was started.
-/

namespace Lxcup.Worker

open Lxcup.Lib Lxcup.Core Lxcup.Ansible Lxcup.Persistence

/-! ### The final status -/

/-- What `run` leaves when it returns. -/
def Returned (claimed : AnsibleJob) (s : Progress) :
    Except JobFailureCode Bool × AnsibleJob → Prop
  | (.ok changed, job) => Planned claimed s job changed
  | (.error code, job) => Failed claimed s job code

/-- The rest of a run goes on as `ensures_run` says. -/
def GoesOn (claimed : AnsibleJob) (s : Progress) (rest : Execution) : Prop :=
  rest.Ensures (Progress.observe claimed.id) (Progress.Allows claimed.id) (Returned claimed) s

/-- The final status is `succeeded` when the run has succeeded, `reconcile_required` when it has
failed with a job that was applying something, and `failed` otherwise. -/
structure RightStatus (claimed : AnsibleJob) (s : Progress) (result : Except JobFailureCode Bool)
    (job : AnsibleJob) : Prop where
  id : job.id = claimed.id
  succeeded : job.status = .succeeded ↔ result.isOk = true
  reconcileRequired : job.status = .reconcileRequired ↔
    claimed.mode = .apply ∧ result.isOk = false ∧ s.attempted = .applying
  failed : job.status = .failed ↔
    result.isOk = false ∧ ¬ (claimed.mode = .apply ∧ s.attempted = .applying)

/-- The worker has not panicked, and writes the right status. -/
def Settled (s : WorkerState) : Prop :=
  match s.activity with
  | .running claimed progress rest => GoesOn claimed progress rest
  | .writing claimed progress result job => RightStatus claimed progress result job
  | .panicked => False
  | .polling | .claiming _ | .reporting _ _ => True

theorem goesOn_run (reader : OutputReader) {claimed : AnsibleJob}
    (hchecking : claimed.status = .checking) :
    GoesOn claimed .initial (run reader claimed) :=
  Program.Ensures.mono (fun s result h => by obtain ⟨_ | _, _⟩ := result <;> exact h)
    (ensures_run reader hchecking)

theorem Returned.fits {claimed job : AnsibleJob} {s : Progress}
    {result : Except JobFailureCode Bool} (h : Returned claimed s (result, job)) :
    s.Fits claimed job := by
  cases result with
  | ok => exact h.1
  | error => exact h

/-- The final status of a run that has failed. -/
theorem Progress.Fits.finalStatus_false {claimed job : AnsibleJob} {s : Progress}
    (h : s.Fits claimed job) :
    finalStatus job false =
      if claimed.mode = .apply ∧ s.attempted = .applying then .reconcileRequired else .failed := by
  simp only [finalStatus, h.mode, h.status, Bool.false_eq_true, if_false]

/-- **The final status can be taken**, from whatever `run` leaves. -/
theorem Returned.edge {claimed job : AnsibleJob} {s : Progress}
    {result : Except JobFailureCode Bool} (h : Returned claimed s (result, job)) :
    job.status.canTransitionTo (finalStatus job result.isOk) = true := by
  have hfits := h.fits
  have hactive := hfits.active
  rw [hfits.status]
  cases result with
  | ok changed =>
    -- from `checking` there is no way to `succeeded`
    have hplanned : s.attempted ≠ .checking := h.2
    cases hattempted : s.attempted <;> simp_all [AnsibleJobStatus.isActive] <;> rfl
  | error code =>
    change s.attempted.canTransitionTo (finalStatus job false) = true
    rw [hfits.finalStatus_false]
    split
    · rename_i happlying
      rw [happlying.2]
      rfl
    · -- a job that does not apply anything is not applying
      rename_i hother
      have happlying : s.attempted ≠ .applying := fun h => hother ⟨hfits.applying h, h⟩
      cases hattempted : s.attempted <;> simp_all [AnsibleJobStatus.isActive] <;> rfl

theorem Returned.rightStatus {claimed job : AnsibleJob} {s : Progress} {now : Timestamp}
    {result : Except JobFailureCode Bool} (h : Returned claimed s (result, job)) :
    RightStatus claimed s result
      { job with status := finalStatus job result.isOk, updatedAt := now } := by
  have hfits := h.fits
  cases result with
  | ok changed =>
    refine ⟨hfits.id, ?_, ?_, ?_⟩ <;> simp [finalStatus, Except.isOk, Except.toBool]
  | error code =>
    have herror : finalStatus job (Except.error code : Except JobFailureCode Bool).isOk =
        if claimed.mode = .apply ∧ s.attempted = .applying then .reconcileRequired else .failed :=
      hfits.finalStatus_false
    refine ⟨hfits.id, ?_, ?_, ?_⟩ <;> simp only [herror] <;>
      split <;> simp_all [Except.isOk, Except.toBool]

theorem RightStatus.inactive {claimed job : AnsibleJob} {progress : Progress}
    {result : Except JobFailureCode Bool} (h : RightStatus claimed progress result job) :
    job.status.isActive = false := by
  by_cases hok : result.isOk = true
  · rw [h.succeeded.mpr hok]
    rfl
  have herror : result.isOk = false := by simpa using hok
  by_cases happlying : claimed.mode = .apply ∧ progress.attempted = .applying
  · rw [h.reconcileRequired.mpr ⟨happlying.1, herror, happlying.2⟩]
    rfl
  · rw [h.failed.mpr ⟨herror, happlying⟩]
    rfl

theorem settled_of_moved {reader : OutputReader} {s s' : WorkerState} {a : WorkerAction}
    (h : Settled s) (hmoved : s.Moved reader a s') : Settled s' := by
  unfold Settled at h
  cases hmoved with
  | select => trivial
  | giveUp => trivial
  | claim => exact goesOn_run reader rfl
  | answer hrunning =>
    rw [hrunning] at h
    exact h.2 _
  | panic hrunning hedge =>
    rw [hrunning] at h
    rw [Returned.edge h] at hedge
    cases hedge
  | finish hrunning =>
    rw [hrunning] at h
    exact Returned.rightStatus h
  | written => trivial
  | notWritten => trivial
  | report hreporting hnext => rcases hnext with rfl | ⟨kinds', rfl⟩ <;> trivial
  | others => exact h

/-- **Whatever the others do, the worker does not panic and writes the right status.** -/
theorem settled_of_reach {reader : OutputReader} {ok : WorkerState → WorkerAction → Prop}
    {s : WorkerState} (h : (workerMachine reader).Reach ok s) : Settled s := by
  induction h with
  | init hinit =>
    rw [Settled, WorkerState.isPolling_iff.mp hinit.1]
    trivial
  | step _ _ hstep ih => exact settled_of_moved ih (moved_of_step hstep)

/-! ### What the rows say -/

/-- The others leave the rows of the held jobs as they are. -/
def Alone (s : WorkerState) : WorkerAction → Prop
  | .others _ rows => ∀ h ∈ s.held, rows.get h.id = s.rows.get h.id
  | _ => True

instance (s : WorkerState) (a : WorkerAction) : Decidable (Alone s a) := by
  cases a
  case others => exact inferInstanceAs (Decidable (∀ h ∈ s.held, _))
  all_goals exact instDecidableTrue

/-- The held jobs are unfinished, and applying if their playbook was started to apply something. -/
def Kept (rows : JobTable) (held : List Holding) : Prop :=
  ∀ h ∈ held, ∃ row, rows.get h.id = some row ∧ row.status.isActive = true ∧
    (h.started = true → row.status = .applying)

/-- The row of the running job says what was written last, and the source of a reconciliation is
not held. -/
structure OwnRow (rows : JobTable) (held : List Holding) (claimed : AnsibleJob) (s : Progress) :
    Prop where
  isHeld : ∃ h ∈ held, h.id = claimed.id
  started : ∀ h ∈ held, h.id = claimed.id → h.started = s.started
  row : ∃ row, rows.get claimed.id = some row ∧ row.status = s.stored
  source : ∀ id, s.loaded = some id → ∀ h ∈ held, h.id ≠ id

/-- What the rows say of the jobs of a worker.  The row that is locked for a claim is the one that
was selected. -/
def RowsKept (s : WorkerState) : Prop :=
  Kept s.rows s.held ∧
    match s.activity with
    | .running claimed progress _ => OwnRow s.rows s.held claimed progress
    | .claiming job => s.rows.get job.id = some job ∧ job.status = .queued
    | .polling | .writing .. | .reporting .. | .panicked => True

section Rows

variable {rows rows' : JobTable} {held : List Holding} {claimed : AnsibleJob} {progress : Progress}

theorem unfinished_eq_true {id : AnsibleJobId} :
    unfinished rows id = true ↔ ∃ row, rows.get id = some row ∧ row.status.isActive = true := by
  unfold unfinished
  split <;> simp_all

/-- Jobs whose rows are left alone stay held. -/
theorem Kept.filter_eq (h : Kept rows held) (hsame : ∀ h ∈ held, rows'.get h.id = rows.get h.id) :
    (held.filter fun h => unfinished rows' h.id) = held := by
  rw [List.filter_eq_self]
  intro holding hmem
  obtain ⟨row, hrow, hactive, -⟩ := h holding hmem
  exact unfinished_eq_true.mpr ⟨row, (hsame holding hmem).trans hrow, hactive⟩

theorem Kept.congr (h : Kept rows held) (hsame : ∀ h ∈ held, rows'.get h.id = rows.get h.id) :
    Kept rows' held := by
  intro holding hmem
  obtain ⟨row, hrow, hrest⟩ := h holding hmem
  exact ⟨row, (hsame holding hmem).trans hrow, hrest⟩

theorem OwnRow.congr (h : OwnRow rows held claimed progress)
    (hsame : ∀ h ∈ held, rows'.get h.id = rows.get h.id) :
    OwnRow rows' held claimed progress := by
  obtain ⟨holding, hmem, hid⟩ := h.isHeld
  refine ⟨h.isHeld, h.started, ?_, h.source⟩
  obtain ⟨row, hrow, hstored⟩ := h.row
  exact ⟨row, by rw [← hrow, ← hid]; exact hsame holding hmem, hstored⟩

/-- After a write of one row, the jobs that are still held are as before. -/
theorem Kept.filter (h : Kept rows held)
    (hsame : ∀ h ∈ held, unfinished rows' h.id = true → rows'.get h.id = rows.get h.id) :
    Kept rows' (held.filter fun h => unfinished rows' h.id) := by
  intro holding hmem
  obtain ⟨hheld, hunfinished⟩ := List.mem_filter.mp hmem
  obtain ⟨row, hrow, hrest⟩ := h holding hheld
  exact ⟨row, (hsame holding hheld hunfinished).trans hrow, hrest⟩

/-- A job that is not unfinished is not held. -/
theorem Kept.ne (h : Kept rows held) {job : AnsibleJob} (hrow : rows.get job.id = some job)
    (hinactive : job.status.isActive = false) : ∀ h ∈ held, h.id ≠ job.id := by
  intro holding hmem hid
  obtain ⟨row, hheld, hactive, -⟩ := h holding hmem
  rw [hid, hrow] at hheld
  rw [← Option.some.inj hheld, hinactive] at hactive
  cases hactive

/-- Claiming a queued job. -/
theorem Kept.claim (h : Kept rows held) {job : AnsibleJob} {now : Timestamp}
    (hrow : rows.get job.id = some job) (hqueued : job.status = .queued)
    (hupdate : rows.update { job with status := .checking, updatedAt := now } = .ok rows') :
    Kept rows' (⟨job.id, false⟩ :: held.filter fun h => unfinished rows' h.id) ∧
      OwnRow rows' (⟨job.id, false⟩ :: held.filter fun h => unfinished rows' h.id)
        { job with status := .checking, updatedAt := now } .initial := by
  have hne := h.ne hrow (by rw [hqueued]; rfl)
  obtain rfl : rows' = rows.put { job with status := .checking, updatedAt := now } := by
    rcases JobTable.update_ok hupdate with ⟨hnone, -⟩ | ⟨-, -, hput⟩
    · rw [hrow] at hnone
      cases hnone
    · exact hput
  have hself : (rows.put { job with status := .checking, updatedAt := now }).get job.id = some _ :=
    JobTable.get_put_self _ _
  have hsame : ∀ h ∈ held, (rows.put { job with status := .checking, updatedAt := now }).get h.id =
      rows.get h.id := fun h hmem => JobTable.get_put_ne _ _ (hne h hmem)
  rw [h.filter_eq hsame]
  constructor
  · intro holding hmem
    rcases List.mem_cons.mp hmem with rfl | hmem
    · exact ⟨_, hself, rfl, nofun⟩
    · exact h.congr hsame holding hmem
  · refine ⟨⟨_, List.mem_cons_self, rfl⟩, fun holding hmem hid => ?_, ⟨_, hself, rfl⟩, nofun⟩
    rcases List.mem_cons.mp hmem with rfl | hmem
    · rfl
    · exact absurd hid (hne holding hmem)

/-- An effect that does not start to apply something marks nothing. -/
theorem WorkerEffect.mark_eq {e : WorkerEffect} (he : e.startsApply = false) (id : AnsibleJobId) :
    e.mark id held = held := by
  simp [WorkerEffect.mark, he]

/-- The run of a job goes on with a table that says the same of the held jobs. -/
theorem OwnRow.answer_same {e : WorkerEffect} {r : e.Answer} (hkept : Kept rows held)
    (hown : OwnRow rows held claimed progress) (he : e.startsApply = false)
    (hsame : ∀ h ∈ held, (e.write rows r).get h.id = rows.get h.id)
    (hstored : (progress.observe claimed.id e r).stored = progress.stored)
    (hstarted : (progress.observe claimed.id e r).started = progress.started)
    (hsource : ∀ id, (progress.observe claimed.id e r).loaded = some id →
      ∀ h ∈ held, h.id ≠ id) :
    Kept (e.write rows r)
        (e.mark claimed.id (held.filter fun h => unfinished (e.write rows r) h.id)) ∧
      OwnRow (e.write rows r)
        (e.mark claimed.id (held.filter fun h => unfinished (e.write rows r) h.id)) claimed
        (progress.observe claimed.id e r) := by
  rw [hkept.filter_eq hsame, WorkerEffect.mark_eq he]
  refine ⟨hkept.congr hsame, ?_⟩
  have hown' := hown.congr hsame
  exact ⟨hown'.isHeld, hstarted ▸ hown'.started, hstored ▸ hown'.row, hsource⟩

/-- Writing an unfinished status of the running job. -/
theorem OwnRow.update {job : AnsibleJob} (hkept : Kept rows held)
    (hown : OwnRow rows held claimed progress) (hid : job.id = claimed.id)
    (hactive : job.status.isActive = true) (hstarted : progress.started = false)
    (hupdate : rows.update job = .ok rows') :
    (held.filter fun h => unfinished rows' h.id) = held ∧ Kept rows' held ∧
      OwnRow rows' held claimed { progress with attempted := job.status, stored := job.status } := by
  obtain ⟨own, hownRow, -⟩ := hown.row
  obtain rfl : rows' = rows.put job := by
    rcases JobTable.update_ok hupdate with ⟨hnone, -⟩ | ⟨-, -, hput⟩
    · rw [hid, hownRow] at hnone
      cases hnone
    · exact hput
  have hself : (rows.put job).get claimed.id = some job := by rw [← hid, JobTable.get_put_self]
  have hkept' : Kept (rows.put job) held := by
    intro holding hmem
    by_cases hsame : holding.id = claimed.id
    · refine ⟨job, hsame ▸ hself, hactive, fun h => ?_⟩
      rw [hown.started holding hmem hsame, hstarted] at h
      cases h
    · obtain ⟨row, hrow, hrest⟩ := hkept holding hmem
      exact ⟨row, by rw [JobTable.get_put_ne _ _ (by rwa [hid]), hrow], hrest⟩
  exact ⟨hkept'.filter_eq fun _ _ => rfl, hkept',
    hown.isHeld, hown.started, ⟨job, hself, rfl⟩, hown.source⟩

/-- Starting a playbook that applies something. -/
theorem OwnRow.startApply (hkept : Kept rows held) (hown : OwnRow rows held claimed progress)
    (hstored : progress.stored = .applying) :
    Kept rows (held.map fun h => if h.id = claimed.id then { h with started := true } else h) ∧
      OwnRow rows (held.map fun h => if h.id = claimed.id then { h with started := true } else h)
        claimed { progress with started := true } := by
  -- a marked job was held before, under the same id
  have hbefore : ∀ h' ∈ held.map (fun h => if h.id = claimed.id then { h with started := true }
      else h), ∃ h ∈ held, h'.id = h.id ∧ (h.id = claimed.id → h'.started = true) ∧
        (h.id ≠ claimed.id → h'.started = h.started) := by
    intro h' hmem
    obtain ⟨h, hheld, rfl⟩ := List.mem_map.mp hmem
    refine ⟨h, hheld, ?_⟩
    split <;> simp_all
  constructor
  · intro h' hmem
    obtain ⟨h, hheld, hid, -, hother⟩ := hbefore h' hmem
    obtain ⟨row, hrow, hactive, hstarted⟩ := hkept h hheld
    refine ⟨row, hid ▸ hrow, hactive, fun hs => ?_⟩
    by_cases hsame : h.id = claimed.id
    · obtain ⟨own, hownRow, hstatus⟩ := hown.row
      rw [hsame, hownRow] at hrow
      rw [← Option.some.inj hrow, hstatus, hstored]
    · exact hstarted ((hother hsame).symm.trans hs)
  · refine ⟨?_, fun h' hmem hid' => ?_, hown.row, fun id hid h' hmem => ?_⟩
    · obtain ⟨h, hheld, hid⟩ := hown.isHeld
      exact ⟨_, List.mem_map_of_mem hheld, by simp [hid]⟩
    · obtain ⟨h, -, hid, hmarked, -⟩ := hbefore h' hmem
      exact hmarked (hid ▸ hid')
    · obtain ⟨h, hheld, hsame, -⟩ := hbefore h' hmem
      exact hsame ▸ hown.source id hid h hheld

/-- **One effect of a run.** -/
theorem OwnRow.answer {targets : Table TargetId Target} {e : WorkerEffect} {r : e.Answer}
    (hkept : Kept rows held) (hown : OwnRow rows held claimed progress)
    (hallows : progress.Allows claimed.id e) (hhonest : e.honest targets rows r = true) :
    Kept (e.write rows r)
        (e.mark claimed.id (held.filter fun h => unfinished (e.write rows r) h.id)) ∧
      OwnRow (e.write rows r)
        (e.mark claimed.id (held.filter fun h => unfinished (e.write rows r) h.id)) claimed
        (progress.observe claimed.id e r) := by
  cases e with
  | update job =>
    cases r with
    | false =>
      refine hown.answer_same hkept rfl (fun _ _ => rfl) ?_ ?_ ?_ <;> simp only [Progress.observe]
      · split <;> rfl
      · split <;> rfl
      · split <;> exact hown.source
    | true =>
      obtain ⟨rows', hupdate⟩ : ∃ rows', rows.update job = .ok rows' := by
        revert hhonest
        simp only [WorkerEffect.honest]
        cases rows.update job <;> simp [Except.isOk, Except.toBool]
      have hwrite : WorkerEffect.write rows (.update job) true = rows' := by
        simp [WorkerEffect.write, hupdate, Except.toOption]
      rcases hallows with ⟨hid, hactive, hstarted⟩ | ⟨hloaded, hinactive⟩
      · obtain ⟨hfilter, hkept', hown'⟩ := hown.update hkept hid hactive hstarted hupdate
        rw [hwrite, hfilter, WorkerEffect.mark_eq rfl]
        exact ⟨hkept', by simpa [Progress.observe, hid, hactive] using hown'⟩
      · -- the source of a reconciliation is not held
        refine hown.answer_same hkept rfl (fun h hmem => ?_) ?_ ?_ ?_
        · rw [hwrite]
          rcases JobTable.update_ok hupdate with ⟨-, rfl⟩ | ⟨-, -, rfl⟩
          · rfl
          · exact JobTable.get_put_ne _ _ (hown.source _ hloaded h hmem)
        all_goals simp only [Progress.observe, hinactive, Bool.false_eq_true, and_false, if_false]
        exact hown.source
  | findJob id =>
    rcases r with _ | _ | source
    · exact hown.answer_same hkept rfl (fun _ _ => rfl) rfl rfl hown.source
    · exact hown.answer_same hkept rfl (fun _ _ => rfl) rfl rfl hown.source
    · refine hown.answer_same hkept rfl (fun _ _ => rfl) ?_ ?_ ?_ <;> simp only [Progress.observe]
      · split <;> rfl
      · split <;> rfl
      · split
        · -- the source waits for its reconciliation, and the held jobs are unfinished
          rename_i hwaiting
          have hfound : some source = rows.get id := of_decide_eq_true hhonest
          have hrow : rows.get source.id = some source := by
            rw [JobTable.get_id hfound.symm, hfound]
          rintro id' ⟨⟩
          exact hkept.ne hrow (by rw [hwaiting]; rfl)
        · exact hown.source
  | ansiblePlaybook mode playbook args =>
    by_cases hmode : mode = .apply
    · subst hmode
      have hsame : (held.filter fun h => unfinished rows h.id) = held :=
        hkept.filter_eq fun _ _ => rfl
      have happlied := hown.startApply hkept (hallows rfl).2
      simpa [WorkerEffect.write, WorkerEffect.mark, WorkerEffect.startsApply, Progress.observe,
        hsame] using happlied
    · have hnot : (WorkerEffect.ansiblePlaybook mode playbook args).startsApply = false := by
        cases mode <;> first | rfl | exact absurd rfl hmode
      have hobserve : progress.observe claimed.id (.ansiblePlaybook mode playbook args) r =
          progress := by simp [Progress.observe, hmode]
      refine hown.answer_same hkept hnot (fun _ _ => rfl) ?_ ?_ ?_ <;> rw [hobserve]
      exact hown.source
  | _ => exact hown.answer_same hkept rfl (fun _ _ => rfl) rfl rfl hown.source

end Rows

/-- **One step.** -/
theorem rowsKept_of_moved {reader : OutputReader} {s s' : WorkerState} {a : WorkerAction}
    (h : RowsKept s) (hsettled : Settled s) (halone : Alone s a) (hmoved : s.Moved reader a s') :
    RowsKept s' := by
  obtain ⟨hkept, hactivity⟩ := h
  unfold Settled at hsettled
  cases hmoved with
  | select hrow hpolling hclaimable =>
    simp only [JobTable.claimable, Bool.and_eq_true, decide_eq_true_eq] at hclaimable
    exact ⟨hkept, by rw [JobTable.get_id hrow, hrow], hclaimable.1.1.1⟩
  | giveUp => exact ⟨hkept, trivial⟩
  | @claim job now rows hclaiming hqueued hupdate =>
    rw [hclaiming] at hactivity
    exact hkept.claim hactivity.1 hactivity.2 hupdate
  | answer hrunning hhonest =>
    rw [hrunning] at hsettled hactivity
    exact hactivity.answer hkept hsettled.1 hhonest
  | panic => exact ⟨hkept, trivial⟩
  | finish => exact ⟨hkept, trivial⟩
  | @written claimed job progress result rows hwriting hupdate =>
    rw [hwriting] at hsettled
    refine ⟨hkept.filter fun h hmem hunfinished => ?_, trivial⟩
    rcases JobTable.update_ok hupdate with ⟨-, rfl⟩ | ⟨-, -, rfl⟩
    · rfl
    · -- the row that was written is final
      refine JobTable.get_put_ne _ _ fun hid => ?_
      obtain ⟨row, hrow, hactive⟩ := unfinished_eq_true.mp hunfinished
      have hjob := (JobTable.get_put_self s.rows job).symm.trans (hid ▸ hrow)
      rw [← Option.some.inj hjob, hsettled.inactive] at hactive
      cases hactive
  | notWritten => exact ⟨hkept, trivial⟩
  | report hreporting hnext =>
    rcases hnext with rfl | ⟨kinds', rfl⟩ <;> exact ⟨hkept, trivial⟩
  | @others targets rows hlocked =>
    refine ⟨?_, ?_⟩
    · change Kept rows (s.held.filter fun h => unfinished rows h.id)
      rw [hkept.filter_eq halone]
      exact hkept.congr halone
    · change match s.activity with
        | .running claimed progress _ =>
          OwnRow rows (s.held.filter fun h => unfinished rows h.id) claimed progress
        | .claiming job => rows.get job.id = some job ∧ job.status = .queued
        | .polling | .writing .. | .reporting .. | .panicked => True
      rw [hkept.filter_eq halone]
      -- a claim keeps its row locked, and the running job is held
      unfold WorkerState.locked at hlocked
      cases hs : s.activity <;> rw [hs] at hactivity hlocked <;> try trivial
      · exact ⟨(hlocked _ rfl).trans hactivity.1, hactivity.2⟩
      · exact hactivity.congr halone

/-- **As long as the others leave the held jobs alone**, the rows are as the worker has left
them. -/
theorem rowsKept_of_reach {reader : OutputReader} {s : WorkerState}
    (h : (workerMachine reader).Reach Alone s) : RowsKept s := by
  induction h with
  | init hinit =>
    rw [RowsKept, WorkerState.isPolling_iff.mp hinit.1, hinit.2]
    exact ⟨nofun, trivial⟩
  | step hreach hok hstep ih =>
    exact rowsKept_of_moved ih (settled_of_reach hreach) hok (moved_of_step hstep)

/-! ### The outcome of a job -/

/-- In every run, with any outcome of every effect, the worker does not panic and writes the final
status that the result and the progress of the run call for.  If the others leave the jobs alone
that the worker holds, then a playbook that applies something is started only when the row of its
job says `applying`, and a recovery of the table, at any time, fails no job whose playbook was
started so. -/
theorem worker_outcome (reader : OutputReader) :
    (∀ s, (workerMachine reader).Reach Machine.Any s →
      s.activity ≠ .panicked ∧
      ∀ claimed progress result job, s.activity = .writing claimed progress result job →
        RightStatus claimed progress result job) ∧
    ∀ s, (workerMachine reader).Reach Alone s →
      (∀ playbook args, s.nextCall = some (.ansiblePlaybook .apply playbook args) →
        ∃ id row, s.current = some id ∧ s.rows.get id = some row ∧ row.status = .applying) ∧
      ∀ h ∈ s.held, h.started = true → ∀ now fails row,
        (recoverInterruptedJobs s.rows now fails).get h.id = some row → row.status ≠ .failed := by
  constructor
  · intro s hreach
    have hsettled := settled_of_reach hreach
    unfold Settled at hsettled
    constructor
    · intro hpanicked
      rw [hpanicked] at hsettled
      exact hsettled
    · intro claimed progress result job hwriting
      rw [hwriting] at hsettled
      exact hsettled
  · intro s hreach
    have hsettled := settled_of_reach hreach
    obtain ⟨hkept, hactivity⟩ := rowsKept_of_reach hreach
    constructor
    · intro playbook args hcall
      unfold WorkerState.nextCall at hcall
      split at hcall
      · rename_i claimed progress e rest hrunning
        unfold Settled at hsettled
        rw [hrunning] at hsettled hactivity
        obtain rfl := Option.some.inj hcall
        obtain ⟨row, hrow, hstored⟩ := hactivity.row
        refine ⟨claimed.id, row, by simp [WorkerState.current, hrunning], hrow, ?_⟩
        rw [hstored]
        exact (hsettled.1 rfl).2
      · cases hcall
    · intro h hheld hstarted now fails row hrow
      obtain ⟨job, hjob, -, happlying⟩ := hkept h hheld
      exact recoverInterruptedJobs_applying hjob (happlying hstarted) hrow

/-- A reader that finds nothing in an output. -/
def plainReader : OutputReader where
  redact := id
  finishedTaskResults _ := []
  applySummary _ _ := ""
  checkModeSummary _ := ""
  planSummary _ := ""
  reconciliationDecision _ := .manualReview
  reconciliationSummary _ := ""
  classifyPlaybookFailure _ := .playbookFailed
  playbookChanged _ := false

/-- The answers when nothing fails. -/
def smooth (target : Target) : (e : WorkerEffect) → e.Answer
  | .clock => 2
  | .findTarget _ => some (some target)
  | .findJob _ => some none
  | .countEvents _ => some 0
  | .update _ | .appendEvent .. | .createDir | .writeInventory | .writeVars | .inventoryPath
  | .replacePackages => true
  | .removeDir => ()
  | .prepareTargetHost | .prepareWorkflowVars => .ok ()
  | .ansiblePlaybook .. => .output ⟨true, "", ""⟩
  | .readPackageInventory => .ok 0

/-- A server of which the agent is to be repaired. -/
def brokenServer : Target :=
  { windowsServer ⟨⟨7⟩⟩ with name := "web", kind := .linuxServer, transport := .ssh }

/-- The repair in the queue. -/
def queuedRepair : WorkerState where
  targets := (∅ : Table TargetId Target).put ⟨⟨7⟩⟩ brokenServer
  rows := JobTable.empty.put { claimedHealthCheck ⟨⟨1⟩⟩ ⟨⟨7⟩⟩ with
    operation := .repairAgent
    mode := .apply
    parameters := .repairAgent
    status := .queued }
  activity := .polling
  held := []

/-- The repair is claimed, and gets on with its run. -/
def repairUpTo (count : Nat) : List WorkerAction :=
  [.select ⟨⟨1⟩⟩, .claim 1] ++ List.replicate count (.answer (smooth brokenServer))

/-- The start of the playbook, and a recovery right after it. -/
theorem worker_outcome_repair :
    (∃ s ∈ (workerMachine plainReader).exec Alone queuedRepair (repairUpTo 15),
      s.nextCall.any WorkerEffect.startsApply = true ∧
        ∃ id row, s.current = some id ∧ s.rows.get id = some row ∧ row.status = .applying) ∧
    ∃ s ∈ (workerMachine plainReader).exec Alone queuedRepair (repairUpTo 16), ∃ h ∈ s.held,
      h.started = true ∧ ∀ now fails row,
        (recoverInterruptedJobs s.rows now fails).get h.id = some row → row.status ≠ .failed := by
  obtain ⟨-, houtcome⟩ := worker_outcome plainReader
  constructor
  · have hrun : ∃ s ∈ (workerMachine plainReader).exec Alone queuedRepair (repairUpTo 15),
        s.nextCall.any WorkerEffect.startsApply = true := by
      decide +kernel
    obtain ⟨s, hexec, hstarts⟩ := hrun
    obtain ⟨e, hcall, hstartsApply⟩ := (Option.any_eq_true ..).mp hstarts
    refine ⟨s, hexec, hstarts, ?_⟩
    cases e with
    | ansiblePlaybook mode playbook args =>
      cases mode with
      | apply => exact (houtcome s (.exec (.init ⟨rfl, rfl⟩) _ hexec)).1 playbook args hcall
      | _ => cases hstartsApply
    | _ => cases hstartsApply
  · have hrun : ∃ s ∈ (workerMachine plainReader).exec Alone queuedRepair (repairUpTo 16),
        ∃ h ∈ s.held, h.started = true := by
      decide +kernel
    obtain ⟨s, hexec, h, hheld, hstarted⟩ := hrun
    exact ⟨s, hexec, h, hheld, hstarted,
      (houtcome s (.exec (.init ⟨rfl, rfl⟩) _ hexec)).2 h hheld hstarted⟩

end Lxcup.Worker
