import Lxcup.Enrollments.Service

/-!
# Enrollments that follow their job

An enrollment is brought up to date by polls only, and a poll sees no more than the status that
the job has when the jobs are listed.  Once the job has succeeded and the target is managed, two
polls are to suffice.  They do when the enrollment is on its way.  But a poll that has seen a
failed job leaves an enrollment that no later poll moves, although the job may be tried again, and
the same goes for an enrollment that has not been moved to `discovering`.

## Main definitions

* `History`, `HistoryAction`, `historyMachine` — an enrollment, its job, its target and the polls.
* `Converges` — two polls after success connect the enrollment.
* `OnItsWay` — the states from which they do.
* `Steady` — the steps that keep success and a lost enrollment apart.

## Main results

* `converges_iff` — two polls connect an enrollment exactly when it is on its way.
* `enrollment_converges_iff` — which runs converge.
* `retried_deployment_stays_failed` — a job that fails, is seen, and is tried again.
-/

namespace Lxcup.Enrollments

open Lxcup.Lib Lxcup.Core Lxcup.Ansible

/-! ### Histories -/

/-- What a poll has read so far. -/
inductive Sample
  | listed (status : AnsibleJobStatus)
  | checked (status : AnsibleJobStatus) (connected : Bool)
  deriving DecidableEq, Repr

/-- An enrollment, with all that its state depends on. -/
structure History where
  enrollment : Enrollment
  /-- The status of the job with the key of the enrollment, once it is submitted. -/
  job : Option AnsibleJobStatus
  /-- The target of the job is managed. -/
  managed : Bool
  /-- The request has not come to its last section yet. -/
  underWay : Bool
  /-- The polls that have read the job. -/
  polls : Table Nat Sample

inductive HistoryAction
  /-- The job is submitted. -/
  | submit
  /-- The job takes an edge of its lifecycle; a retry is one of them. -/
  | work (next : AnsibleJobStatus)
  /-- The target becomes managed, or is not managed any more. -/
  | target (managed : Bool)
  /-- The last section of the request. -/
  | discover (now : Timestamp)
  /-- A poll lists the jobs. -/
  | list (n : Nat)
  /-- The poll reads the target. -/
  | check (n : Nat)
  /-- The poll writes the enrollment. -/
  | write (n : Nat) (now : Timestamp)
  deriving DecidableEq, Repr

namespace History

def withState (h : History) (enrollment : Enrollment) : History :=
  { h with enrollment := enrollment }

/-- A whole poll, with nothing in between. -/
def poll (h : History) (now : Timestamp) : History :=
  match h.job with
  | none => h
  | some status => h.withState (reconcileEnrollment h.enrollment status h.managed now)

def step (h : History) : HistoryAction → Option History
  | .submit =>
    match h.job with
    | none => some { h with job := some .queued }
    | some _ => none
  | .work next =>
    match h.job with
    | none => none
    | some status =>
      if status.canTransitionTo next then some { h with job := some next } else none
  | .target managed => some { h with managed := managed }
  | .discover now =>
    if h.underWay ∧ h.job.isSome then
      some { h with
        underWay := false
        enrollment := tryTransition h.enrollment .discovering now }
    else none
  | .list n =>
    match h.job, h.polls.get n with
    | some status, none => some { h with polls := h.polls.put n (.listed status) }
    | _, _ => none
  | .check n =>
    match h.polls.get n with
    | some (.listed status) => some { h with polls := h.polls.put n (.checked status h.managed) }
    | _ => none
  | .write n now =>
    match h.polls.get n with
    | some (.checked status connected) => some { h with
        polls := h.polls.remove n
        enrollment := reconcileEnrollment h.enrollment status connected now }
    | _ => none

end History

/-- A history begins with the insertion of the enrollment. -/
def historyMachine : Machine History HistoryAction where
  init h := h.enrollment.state = .requested ∧ h.job = none ∧ h.polls = ∅
  step := History.step

/-! ### Convergence -/

/-- Once the job has succeeded and its target is managed, two polls connect the enrollment. -/
def Converges (h : History) : Prop :=
  h.job = some .succeeded → h.managed = true → ∀ now now',
    ((h.poll now).poll now').enrollment.state = .connected

/-- The states from which polls lead on. -/
def OnItsWay : EnrollmentState → Prop
  | .discovering | .installingAgent | .registeringAgent | .connected => True
  | .requested | .failed | .disabled => False

instance : DecidablePred OnItsWay
  | .discovering | .installingAgent | .registeringAgent | .connected => isTrue trivial
  | .requested | .failed | .disabled => isFalse id

/-- The job has succeeded for a managed target. -/
def History.Done (h : History) : Prop := h.job = some .succeeded ∧ h.managed = true

/-- The job and its target get there only while the enrollment is on its way, and no poll that has
seen the job failed writes after that. -/
def Steady (h : History) : HistoryAction → Prop
  | .work next => next = .succeeded → h.managed = true → OnItsWay h.enrollment.state
  | .target managed => managed = true → h.job = some .succeeded → OnItsWay h.enrollment.state
  | .write n _ => ∀ connected, h.polls.get n = some (.checked .failed connected) → ¬ h.Done
  | _ => True

/-- The state that a poll leaves when the job has succeeded and the target is connected. -/
def polledState : EnrollmentState → EnrollmentState
  | .discovering => .installingAgent
  | .installingAgent | .registeringAgent | .connected => .connected
  | state => state

theorem reconcile_succeeded (enrollment : Enrollment) (now : Timestamp) :
    (reconcileEnrollment enrollment .succeeded true now).state
      = polledState enrollment.state := by
  simp only [reconcileEnrollment, reduceCtorEq, if_false, or_true, true_and]
  cases hstate : enrollment.state <;>
    simp [tryTransition_state, hstate, polledState, EnrollmentState.canTransitionTo]

/-- **Two polls connect an enrollment** exactly when it is on its way. -/
theorem converges_iff {h : History} :
    Converges h ↔ (h.Done → OnItsWay h.enrollment.state) := by
  have htwo : h.Done → ∀ now now',
      ((h.poll now).poll now').enrollment.state = polledState (polledState h.enrollment.state) := by
    rintro ⟨hjob, hmanaged⟩ now now'
    simp only [History.poll, hjob, hmanaged, History.withState, reconcile_succeeded]
  have hstate : ∀ state : EnrollmentState,
      polledState (polledState state) = .connected ↔ OnItsWay state := by
    intro state
    -- `requested` and `failed` are the states that polls do not leave
    cases state <;> simp [polledState, OnItsWay]
  constructor
  · intro hconverges hdone
    rw [← hstate, ← htwo hdone 0 0]
    exact hconverges hdone.1 hdone.2 0 0
  · intro hway hjob hmanaged now now'
    rw [htwo ⟨hjob, hmanaged⟩, hstate]
    exact hway ⟨hjob, hmanaged⟩

/-! ### Steps -/

/-- A poll that has not seen a failed job keeps an enrollment on its way. -/
theorem OnItsWay.reconcile {enrollment : Enrollment} (h : OnItsWay enrollment.state)
    {status : AnsibleJobStatus} (hstatus : status ≠ .failed) (connected : Bool) (now : Timestamp) :
    OnItsWay (reconcileEnrollment enrollment status connected now).state := by
  simp only [reconcileEnrollment, if_neg hstatus]
  split
  · rename_i hdiscovering
    simp [tryTransition_state, hdiscovering.2, EnrollmentState.canTransitionTo, OnItsWay]
  split
  · cases hstate : enrollment.state <;>
      simp_all [tryTransition_state, EnrollmentState.canTransitionTo, OnItsWay]
  · exact h

/-- The last section of the request keeps an enrollment on its way. -/
theorem OnItsWay.discover {enrollment : Enrollment} (h : OnItsWay enrollment.state)
    (now : Timestamp) : OnItsWay (tryTransition enrollment .discovering now).state := by
  rw [tryTransition_state]
  split
  · trivial
  · exact h

/-- **Which steps keep convergence.** -/
theorem converges_step_iff {h h' : History} {a : HistoryAction} (hconverges : Converges h)
    (hs : h.step a = some h') : Converges h' ↔ Steady h a := by
  rw [converges_iff] at hconverges ⊢
  cases a with
  | submit =>
    -- a new job has not succeeded
    simp only [History.step] at hs
    split at hs
    · obtain rfl := Option.some.inj hs
      exact iff_of_true (fun hdone => absurd hdone.1 (by simp)) trivial
    · cases hs
  | work next =>
    simp only [History.step] at hs
    split at hs
    · cases hs
    split at hs
    · obtain rfl := Option.some.inj hs
      constructor
      · rintro hway rfl hmanaged
        exact hway ⟨rfl, hmanaged⟩
      · rintro hsteady ⟨hjob, hmanaged⟩
        exact hsteady (Option.some.inj hjob) hmanaged
    · cases hs
  | target managed =>
    obtain rfl := Option.some.inj hs
    constructor
    · rintro hway rfl hjob
      exact hway ⟨hjob, rfl⟩
    · rintro hsteady ⟨hjob, hmanaged⟩
      exact hsteady hmanaged hjob
  | discover now =>
    simp only [History.step] at hs
    split at hs
    · obtain rfl := Option.some.inj hs
      exact iff_of_true (fun hdone => (hconverges hdone).discover now) trivial
    · cases hs
  | list n =>
    simp only [History.step] at hs
    split at hs
    · obtain rfl := Option.some.inj hs
      exact iff_of_true hconverges trivial
    · cases hs
  | check n =>
    simp only [History.step] at hs
    split at hs
    · obtain rfl := Option.some.inj hs
      exact iff_of_true hconverges trivial
    · cases hs
  | write n now =>
    simp only [History.step] at hs
    split at hs
    · rename_i status connected hsample
      obtain rfl := Option.some.inj hs
      by_cases hfailed : status = .failed
      · -- the enrollment is failed now, whatever it was
        subst hfailed
        constructor
        · intro hway connected' _ hdone
          exact hway hdone
        · intro hsteady hdone
          exact absurd hdone (hsteady connected hsample)
      · refine iff_of_true (fun hdone => (hconverges hdone).reconcile hfailed connected now) ?_
        intro connected' hother
        rw [hsample] at hother
        cases hother
        exact absurd rfl hfailed
    · cases hs

theorem converges_of_steady {h : History} (hreach : historyMachine.Reach Steady h) :
    Converges h := by
  induction hreach with
  | init hinit =>
    intro hjob
    rw [hinit.2.1] at hjob
    cases hjob
  | step _ hok hs ih => exact (converges_step_iff ih hs).mpr hok

/-- **Which histories converge.**  When the job has succeeded and its target is managed, two polls
connect the enrollment if and only if it is on its way.  This is so in every run in which job and
target get there only while the enrollment is on its way and no poll that has seen the job failed
writes after that, and a step of any run keeps it if and only if it is such a step. -/
theorem enrollment_converges_iff (h : History) :
    (Converges h ↔ (h.Done → OnItsWay h.enrollment.state)) ∧
    (historyMachine.Reach Steady h → Converges h) ∧
    (historyMachine.Reach Machine.Any h → Converges h → ∀ a h',
      historyMachine.step h a = some h' → (Converges h' ↔ Steady h a)) :=
  ⟨converges_iff, converges_of_steady, fun _ hconverges _ _ hs =>
    converges_step_iff hconverges hs⟩

/-! ### A deployment that is tried again -/

/-- An enrollment that was just inserted. -/
def insertedHistory : History where
  enrollment := newEnrollment ⟨101, some ⟨⟨7⟩⟩, "first", true⟩ ⟨⟨1⟩⟩ 0
  job := none
  managed := false
  underWay := true
  polls := ∅

/-- The job fails, a poll sees it, and the job is tried again. -/
def triedAgain : List HistoryAction :=
  [.submit, .discover 1, .work .checking, .work .failed, .list 0, .check 0, .write 0 2,
    .work .queued, .work .checking, .work .planned, .work .applying, .work .succeeded,
    .target true]

theorem retried_deployment_stays_failed :
    ¬ ∀ h : History, historyMachine.Reach Machine.Any h → Converges h := by
  intro hall
  have hrun : ∃ h ∈ historyMachine.exec Machine.Any insertedHistory triedAgain,
      h.job = some .succeeded ∧ h.managed = true ∧
        ((h.poll 3).poll 4).enrollment.state = .failed := by
    decide +kernel
  obtain ⟨h, hexec, hjob, hmanaged, hstate⟩ := hrun
  have hinit : historyMachine.init insertedHistory := ⟨rfl, rfl, rfl⟩
  have hconverges := hall h (.exec (.init hinit) _ hexec) hjob hmanaged 3 4
  rw [hstate] at hconverges
  cases hconverges

end Lxcup.Enrollments
