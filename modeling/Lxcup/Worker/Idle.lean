import Lxcup.Worker.Outcome

/-!
# Jobs that nobody works on

When the last write of a job fails, `process` returns with the error, the loop logs it and asks for
the next job.  The row still says what was written before, and only the recovery of a worker that
starts goes through the unfinished jobs again.

## Main definitions

* `Attended` — the jobs the worker has claimed and not finished are the one it works on.
* `Carried` — the step is no write of a final status that fails while the job is held.

## Main results

* `attended_iff_of_moved` — which steps leave a job alone.
* `idle_holds_nothing_iff` — a worker that asks for a job holds none, in every run in which the
  writes of final status are carried out, and in no others.
* `lost_write_leaves_job` — a health check that stays `checking` while its worker goes on.
-/

namespace Lxcup.Worker

open Lxcup.Lib Lxcup.Core Lxcup.Ansible Lxcup.Persistence

/-- The jobs that the worker has claimed and that are still unfinished are the one it works on. -/
def Attended (s : WorkerState) : Prop := ∀ h ∈ s.held, s.current = some h.id

/-- A final status is written, unless the job is not held any more. -/
def Carried (s : WorkerState) : WorkerAction → Prop
  | .writeResult false => ∀ h ∈ s.held, s.current ≠ some h.id
  | _ => True

/-- A worker that works on no job holds none. -/
theorem Attended.held_eq_nil {s : WorkerState} (h : Attended s) (hcurrent : s.current = none) :
    s.held = [] := by
  rw [List.eq_nil_iff_forall_not_mem]
  intro holding hmem
  have hworks := h holding hmem
  rw [hcurrent] at hworks
  cases hworks

theorem attended_of_nil {s : WorkerState} (h : s.held = []) : Attended s := by
  simp [Attended, h]

/-- Fewer jobs are held, and the worker works on the same. -/
theorem Attended.mono {s s' : WorkerState} (h : Attended s) (hcurrent : s'.current = s.current)
    (hheld : ∀ h' ∈ s'.held, ∃ h ∈ s.held, h'.id = h.id) : Attended s' := by
  intro holding' hmem'
  obtain ⟨holding, hmem, hid⟩ := hheld holding' hmem'
  rw [hcurrent, hid]
  exact h holding hmem

/-- **What a step does to the jobs of the worker.** -/
theorem attended_iff_of_moved {reader : OutputReader} {s s' : WorkerState} {a : WorkerAction}
    (hsettled : Settled s) (h : Attended s) (hmoved : s.Moved reader a s') :
    Attended s' ↔ Carried s a := by
  have hsame : ∀ h' ∈ s.held, ∃ h ∈ s.held, h'.id = h.id := fun h' hmem => ⟨h', hmem, rfl⟩
  have hfilter : ∀ {rows}, ∀ h' ∈ (s.withRows rows).held, ∃ h ∈ s.held, h'.id = h.id :=
    fun h' hmem => ⟨h', List.mem_of_mem_filter hmem, rfl⟩
  unfold Settled at hsettled
  cases hmoved with
  | select hrow hpolling =>
    refine iff_of_true (attended_of_nil (h.held_eq_nil ?_)) trivial
    rw [WorkerState.current, hpolling]
  | giveUp hclaiming ha =>
    refine iff_of_true (attended_of_nil (h.held_eq_nil ?_)) ?_
    · rw [WorkerState.current, hclaiming]
    · rcases ha with rfl | ⟨now, rfl⟩ <;> trivial
  | @claim job now rows hclaiming hqueued hupdate =>
    -- before a claim no job is held
    have hnil : s.held = [] := h.held_eq_nil (by rw [WorkerState.current, hclaiming])
    refine iff_of_true (fun holding hmem => ?_) trivial
    obtain rfl : holding = ⟨job.id, false⟩ := by simpa [WorkerState.withRows, hnil] using hmem
    rfl
  | @answer world claimed progress e rest hrunning hhonest =>
    refine iff_of_true (h.mono (by rw [WorkerState.current, WorkerState.current, hrunning]) ?_)
      trivial
    intro h' hmem
    obtain ⟨before, hbefore, rfl⟩ := List.mem_map.mp hmem
    obtain ⟨held, hheld, hid⟩ := hfilter before hbefore
    refine ⟨held, hheld, ?_⟩
    split <;> exact hid
  | panic hrunning hedge =>
    rw [hrunning] at hsettled
    rw [Returned.edge hsettled] at hedge
    cases hedge
  | finish hrunning =>
    refine iff_of_true (h.mono ?_ hsame) trivial
    rw [WorkerState.current, WorkerState.current, hrunning]
  | @written claimed job progress result rows hwriting hupdate =>
    rw [hwriting] at hsettled
    -- the only job that may be held has a final status, or no row
    refine iff_of_true (attended_of_nil (List.filter_eq_nil_iff.mpr fun h' hmem => ?_)) trivial
    have hid : h'.id = job.id := by
      have hworks := h h' hmem
      rw [WorkerState.current, hwriting] at hworks
      rw [hsettled.id, ← Option.some.inj hworks]
    rw [hid, unfinished_eq_true]
    rintro ⟨row, hrow, hactive⟩
    rcases JobTable.update_ok hupdate with ⟨hnone, rfl⟩ | ⟨-, -, rfl⟩
    · rw [hnone] at hrow
      cases hrow
    · rw [JobTable.get_put_self] at hrow
      rw [← Option.some.inj hrow, hsettled.inactive] at hactive
      cases hactive
  | @notWritten claimed job progress result hwriting =>
    -- the worker works on no job from now on, so that none may be held
    constructor
    · intro hattended h' hmem
      cases hattended h' hmem
    · intro hcarried h' hmem
      exact absurd (h h' hmem) (hcarried h' hmem)
  | @report ok id kinds activity hreporting hnext =>
    refine iff_of_true (attended_of_nil (h.held_eq_nil ?_)) trivial
    rw [WorkerState.current, hreporting]
  | others => exact iff_of_true (h.mono rfl hfilter) trivial

theorem attended_of_reach {reader : OutputReader} {s : WorkerState}
    (h : (workerMachine reader).Reach Carried s) : Attended s := by
  induction h with
  | init hinit => exact attended_of_nil hinit.2
  | step hreach hok hstep ih =>
    exact (attended_iff_of_moved (settled_of_reach hreach) ih (moved_of_step hstep)).mpr hok

/-- **When a worker that asks for a job holds none.**  This is so in every run in which each final
status is written, unless the job is not held any more.  In any run, as long as the jobs that the
worker holds are the one it works on, a step leaves a job alone exactly if it is such a write that
fails. -/
theorem idle_holds_nothing_iff (reader : OutputReader) :
    (∀ s, (workerMachine reader).Reach Carried s → s.isPolling = true → s.held = []) ∧
    ∀ s a s', (workerMachine reader).Reach Machine.Any s → Attended s →
      (workerMachine reader).step s a = some s' → (Attended s' ↔ Carried s a) := by
  constructor
  · intro s hreach hpolling
    refine (attended_of_reach hreach).held_eq_nil ?_
    rw [WorkerState.current, WorkerState.isPolling_iff.mp hpolling]
  · intro s a s' hreach hattended hstep
    exact attended_iff_of_moved (settled_of_reach hreach) hattended (moved_of_step hstep)

/-! ### A health check that stays behind -/

/-- The answers while the database cannot be reached. -/
def outage : (e : WorkerEffect) → e.Answer
  | .clock => 2
  | .findTarget _ | .findJob _ | .countEvents _ => none
  | .update _ | .appendEvent .. | .replacePackages => false
  | .createDir | .writeInventory | .writeVars | .inventoryPath => true
  | .removeDir => ()
  | .prepareTargetHost | .prepareWorkflowVars => .ok ()
  | .ansiblePlaybook .. => .notStarted
  | .readPackageInventory => .ok 0

/-- A server with a health check in the queue. -/
def queuedCheck : WorkerState where
  targets := (∅ : Table TargetId Target).put ⟨⟨7⟩⟩
    { windowsServer ⟨⟨7⟩⟩ with name := "web", kind := .linuxServer, transport := .ssh }
  rows := JobTable.empty.put { claimedHealthCheck ⟨⟨1⟩⟩ ⟨⟨7⟩⟩ with status := .queued }
  activity := .polling
  held := []

/-- The check is claimed; then the database cannot be reached for the rest of the cycle. -/
def lostWrite : List WorkerAction :=
  [.select ⟨⟨1⟩⟩, .claim 1, .answer outage, .finish 3, .writeResult false]

theorem lost_write_leaves_job :
    ¬ ∀ (reader : OutputReader) (s : WorkerState), (workerMachine reader).Reach Machine.Any s →
      s.isPolling = true → s.held = [] := by
  intro hall
  have hrun : ∃ s ∈ (workerMachine plainReader).exec Machine.Any queuedCheck lostWrite,
      s.isPolling = true ∧ s.held = [⟨⟨⟨1⟩⟩, false⟩] := by
    decide +kernel
  obtain ⟨s, hexec, hpolling, hheld⟩ := hrun
  have hnil := hall plainReader s (.exec (.init ⟨rfl, rfl⟩) _ hexec) hpolling
  rw [hheld] at hnil
  cases hnil

end Lxcup.Worker
