import Lxcup.Enrollments.Service

/-!
# Enrollments that fail

A request is to leave no trace when it is answered with an error, so that the container can be
enrolled again.  Nothing has been written when the checks refuse a request.  But the enrollment is
stored before its job is queued, and nothing takes it back when that fails: the container has an
enrollment under way from then on, and the same request is answered as if onboarding had started.

## Main definitions

* `NoTrace` — an error means that the enrollments and their keys are as before.
* `SubmissionFails`, `SaveFails`, `DiscoveryFails`, `QueueFails` — the job cannot be queued.

## Main results

* `createEnrollment_queueFails` — what is left then.
* `repeated_after_failure`, `blocked_after_failure` — how the next requests are answered.
* `enrollment_noTrace_iff` — a request leaves no trace if and only if it is not accepted with a
  job that cannot be queued.
* `rejected_deployment_stays` — an enrollment with a disabled target.
-/

namespace Lxcup.Enrollments

open Lxcup.Lib Lxcup.Core Lxcup.Ansible Lxcup.Persistence Lxcup.Server

variable {H P D : Type}

/-- An error means that the enrollments and their keys are as they were before. -/
def NoTrace (server : EnrollmentServer H P D) (request : CreateEnrollmentRequest) (input : Input) :
    Prop :=
  ∀ error, (createEnrollment server request input).1 = .error error →
    (createEnrollment server request input).2.state.store.enrollments
        = server.state.store.enrollments ∧
      (createEnrollment server request input).2.state.store.enrollmentKeys
        = server.state.store.enrollmentKeys

/-- The coordinator takes a new job for a key. -/
def KeyUnused (ansible : AnsibleJobCoordinator) (job : AnsibleJobRequest) : Prop :=
  ansible.idempotency.get (job.target, job.idempotencyKey) = none

/-- The coordinator refuses the job: the contract does not allow it, or its key is that of a job
that is gone. -/
def SubmissionFails (ansible : AnsibleJobCoordinator) (job : AnsibleJobRequest) : Prop :=
  (KeyUnused ansible job ∧ ¬ AnsibleJob.Accepts job) ∨
    ∃ id, ansible.idempotency.get (job.target, job.idempotencyKey) = some id ∧
      ansible.jobs.get id = none

/-- The job is new, and its row cannot be inserted. -/
def SaveFails (state : ApiState H P D) (job : AnsibleJobRequest) (input : Input) : Prop :=
  KeyUnused state.ansible job ∧ AnsibleJob.Accepts job ∧
    ∃ db ∈ state.repositories, input.dbFails = true ∨
      ∃ error, JobTable.save db.targets db.ansibleJobs
        (AnsibleJob.queuedFor job input.newJobId input.now) = .error error

/-- The job is new, and the id of the enrollment is already that of one that cannot start. -/
def DiscoveryFails (state : ApiState H P D) (job : AnsibleJobRequest) (input : Input) : Prop :=
  KeyUnused state.ansible job ∧ AnsibleJob.Accepts job ∧
    ∃ other, (state.store.enrollments.find? fun item => item.id = input.newId) = some other ∧
      other.state.canTransitionTo .discovering = false

/-- The job that goes with the enrollment cannot be queued. -/
def QueueFails (state : ApiState H P D) (request : CreateEnrollmentRequest) (input : Input) :
    Prop :=
  request.startOnboarding = true ∧ ∃ targetId target, request.targetId = some targetId ∧
    (state.store.targets.find? fun target => target.id = targetId) = some target ∧
    (SubmissionFails state.ansible (deploymentRequest target input.newId) ∨
      SaveFails state (deploymentRequest target input.newId) input ∨
      DiscoveryFails state (deploymentRequest target input.newId) input)

/-! ### The submission -/

/-- **How a submission ends.** -/
theorem submitDeployment_cases (ansible : AnsibleJobCoordinator) (target : Target)
    (id : EnrollmentId) (newJobId : AnsibleJobId) (now : Timestamp) :
    (SubmissionFails ansible (deploymentRequest target id) ∧
      ∃ error, submitDeployment ansible target id newJobId now = .error error) ∨
    (¬ KeyUnused ansible (deploymentRequest target id) ∧
      ¬ SubmissionFails ansible (deploymentRequest target id) ∧
      ∃ job, submitDeployment ansible target id newJobId now = .ok (.duplicate job, ansible)) ∨
    (KeyUnused ansible (deploymentRequest target id) ∧
      AnsibleJob.Accepts (deploymentRequest target id) ∧
      ∃ ansible', submitDeployment ansible target id newJobId now =
        .ok (.created (AnsibleJob.queuedFor (deploymentRequest target id) newJobId now),
          ansible')) := by
  unfold submitDeployment AnsibleJobCoordinator.submit
  dsimp only
  generalize deploymentRequest target id = job
  cases hkey : ansible.idempotency.get (job.target, job.idempotencyKey) with
  | some existingId =>
    dsimp only
    cases hexisting : ansible.jobs.get existingId with
    | none =>
      -- the index leads to no job
      exact .inl ⟨.inr ⟨existingId, hkey, hexisting⟩, _, rfl⟩
    | some existing =>
      refine .inr (.inl ⟨by simp [KeyUnused, hkey], ?_, existing, rfl⟩)
      rintro (⟨hunused, -⟩ | ⟨other, hother, hgone⟩)
      · simp [KeyUnused, hkey] at hunused
      · rw [hkey] at hother
        cases hother
        rw [hexisting] at hgone
        cases hgone
  | none =>
    dsimp only
    cases hjob : AnsibleJob.fromRequest job newJobId now with
    | error error =>
      refine .inl ⟨.inl ⟨hkey, fun haccepts => ?_⟩, _, rfl⟩
      rw [AnsibleJob.fromRequest_ok.mpr ⟨haccepts, rfl⟩] at hjob
      cases hjob
    | ok queued =>
      obtain ⟨haccepts, rfl⟩ := AnsibleJob.fromRequest_ok.mp hjob
      exact .inr (.inr ⟨hkey, haccepts, _, rfl⟩)

/-! ### After the insertion -/

variable {server : EnrollmentServer H P D} {state : ApiState H P D}
  {request : CreateEnrollmentRequest} {input : Input}

/-- The state after the insertion. -/
def inserted (state : ApiState H P D) (request : CreateEnrollmentRequest) (input : Input) :
    ApiState H P D :=
  { state with
    store := insertEnrollment state.store (newEnrollment request input.newId input.now) }

theorem createEnrollment_admits (h : Admits server request) :
    createEnrollment server request input =
      if request.startOnboarding then
        match queueEnrollmentJob (inserted server.state request input) request input.newId input with
        | (.error error, state) => (.error error, { server with state := state })
        | (.ok (), state) =>
          (.answered 202 (newEnrollment request input.newId input.now),
            { server with state := state })
      else (.answered 202 (newEnrollment request input.newId input.now),
        { server with state := inserted server.state request input }) := by
  rw [createEnrollment, admitEnrollment_accepted.mpr ⟨h, rfl⟩]
  rfl

/-- A request that is not accepted changes nothing. -/
theorem createEnrollment_not_admits (h : ¬ Admits server request) :
    (createEnrollment server request input).2 = server := by
  unfold createEnrollment
  cases hadmission : admitEnrollment server request input.newId input.now with
  | refused error => rfl
  | panicked => rfl
  | existing enrollment => rfl
  | accepted enrollment => exact absurd (admitEnrollment_accepted.mp hadmission).1 h

/-- The enrollment that `startDiscovery` finds. -/
theorem find_inserted :
    ((inserted state request input).store.enrollments.find? fun item => item.id = input.newId) =
      some (((state.store.enrollments.find? fun item => item.id = input.newId)).getD
        (newEnrollment request input.newId input.now)) := by
  have happend : (inserted state request input).store.enrollments
      = state.store.enrollments ++ [newEnrollment request input.newId input.now] := rfl
  rw [happend, List.find?_append]
  cases state.store.enrollments.find? fun item => item.id = input.newId with
  | some other => rfl
  | none => simp [newEnrollment]

theorem readTarget_inserted {targetId : TargetId} {target : Target}
    (h : (state.store.targets.find? fun target => target.id = targetId) = some target) :
    readTarget (inserted state request input).store targetId = .ok target := by
  have hsame : (inserted state request input).store.targets = state.store.targets := rfl
  rw [readTarget, hsame, h]

/-- The row of a job is not inserted: the statement fails, or the table refuses the row. -/
theorem saveDeployment_error {repositories : Option Database} {job : AnsibleJob} {dbFails : Bool} :
    (∃ error, saveDeployment repositories job dbFails = .error error) ↔
      ∃ db ∈ repositories, dbFails = true ∨
        ∃ error, JobTable.save db.targets db.ansibleJobs job = .error error := by
  cases repositories with
  | none => simp [saveDeployment]
  | some db =>
    cases hrow : JobTable.save db.targets db.ansibleJobs job with
    | error error => simp [saveDeployment, hrow]
    | ok jobs => cases dbFails <;> simp [saveDeployment, hrow]

/-- Discovery does not start: the enrollment that is found is another one, and cannot. -/
theorem startDiscovery_inserted_error {now : Timestamp} :
    (∃ error, startDiscovery (inserted state request input).store input.newId now
        = .error error) ↔
      ∃ other, (state.store.enrollments.find? fun item => item.id = input.newId) = some other ∧
        other.state.canTransitionTo .discovering = false := by
  rw [startDiscovery, find_inserted]
  cases state.store.enrollments.find? fun item => item.id = input.newId with
  | none =>
    simp [Enrollment.transitionTo, newEnrollment, EnrollmentState.canTransitionTo]
  | some other =>
    cases hedge : other.state.canTransitionTo .discovering <;>
      simp [Enrollment.transitionTo, hedge]

/-- **When the job cannot be queued**: an error, with the enrollment in the store. -/
theorem queueEnrollmentJob_failed (h : QueueFails state request input) :
    ∃ error state', queueEnrollmentJob (inserted state request input) request input.newId input
        = (.error error, state') ∧
      state'.store = (inserted state request input).store := by
  obtain ⟨-, targetId, target, htargetId, htarget, hfails⟩ := h
  rw [queueEnrollmentJob, htargetId]
  dsimp only
  rw [readTarget_inserted htarget]
  dsimp only
  rcases submitDeployment_cases (inserted state request input).ansible target input.newId
    input.newJobId input.now with ⟨-, error, herror⟩ | ⟨hused, hnot, -⟩ | ⟨hunused, haccepts, hok⟩
  · rw [herror]
    exact ⟨error, _, rfl, rfl⟩
  · rcases hfails with hfails | ⟨hunused, -⟩ | ⟨hunused, -⟩
    · exact absurd hfails hnot
    · exact absurd hunused hused
    · exact absurd hunused hused
  · obtain ⟨ansible, hsubmit⟩ := hok
    rw [hsubmit]
    dsimp only
    cases hsave : saveDeployment (inserted state request input).repositories
        (AnsibleJob.queuedFor (deploymentRequest target input.newId) input.newJobId input.now)
        input.dbFails with
    | error error => exact ⟨error, _, rfl, rfl⟩
    | ok repositories =>
      -- the job was created and its row inserted, so that discovery is what fails
      rcases hfails with (⟨-, hrefused⟩ | ⟨id, hid, -⟩) | ⟨-, -, hfails⟩ | ⟨-, -, hfails⟩
      · exact absurd haccepts hrefused
      · have hnone : state.ansible.idempotency.get _ = none := hunused
        rw [hnone] at hid
        cases hid
      · obtain ⟨error, herror⟩ := saveDeployment_error.mpr hfails
        cases hsave.symm.trans herror
      · obtain ⟨error, herror⟩ := startDiscovery_inserted_error.mpr hfails
        dsimp only
        rw [herror]
        exact ⟨error, _, rfl, rfl⟩

/-- When the job can be queued, there is no error. -/
theorem queueEnrollmentJob_queued (hadmits : Admits server request)
    (hstart : request.startOnboarding = true)
    (h : ¬ QueueFails server.state request input) :
    (queueEnrollmentJob (inserted server.state request input) request input.newId input).1
      = .ok () := by
  rw [queueEnrollmentJob]
  cases htargetId : request.targetId with
  | none => rfl
  | some targetId =>
    have hlink := hadmits.link
    rw [htargetId, checkLink] at hlink
    cases htarget : server.state.store.targets.find? fun target => target.id = targetId with
    | none =>
      rw [htarget] at hlink
      cases hlink
    | some target =>
      have hno : ¬ (SubmissionFails server.state.ansible (deploymentRequest target input.newId) ∨
          SaveFails server.state (deploymentRequest target input.newId) input ∨
          DiscoveryFails server.state (deploymentRequest target input.newId) input) :=
        fun hfails => h ⟨hstart, targetId, target, htargetId, htarget, hfails⟩
      push Not at hno
      obtain ⟨hsubmission, hsaveOk, hdiscovery⟩ := hno
      dsimp only
      rw [readTarget_inserted htarget]
      dsimp only
      rcases submitDeployment_cases (inserted server.state request input).ansible target
        input.newId input.newJobId input.now with
        ⟨hfails, -⟩ | ⟨-, -, job, hduplicate⟩ | ⟨hunused, haccepts, ansible, hcreated⟩
      · exact absurd hfails hsubmission
      · -- a job of an earlier request: nothing is left to do
        rw [hduplicate]
      · rw [hcreated]
        dsimp only
        cases hsave : saveDeployment (inserted server.state request input).repositories
            (AnsibleJob.queuedFor (deploymentRequest target input.newId) input.newJobId input.now)
            input.dbFails with
        | error error =>
          exact absurd ⟨hunused, haccepts, saveDeployment_error.mp ⟨error, hsave⟩⟩ hsaveOk
        | ok repositories =>
          dsimp only
          cases hstarted : startDiscovery (inserted server.state request input).store input.newId
              input.now with
          | error error =>
            exact absurd ⟨hunused, haccepts, startDiscovery_inserted_error.mp ⟨error, hstarted⟩⟩
              hdiscovery
          | ok store => rfl

/-- **What is left when the job cannot be queued.** -/
theorem createEnrollment_queueFails (hadmits : Admits server request)
    (h : QueueFails server.state request input) :
    ∃ error, (createEnrollment server request input).1 = .error error ∧
      (createEnrollment server request input).2.state.store
        = insertEnrollment server.state.store (newEnrollment request input.newId input.now) ∧
      (createEnrollment server request input).2.containers = server.containers := by
  obtain ⟨error, state', hqueue, hstore⟩ := queueEnrollmentJob_failed h
  rw [createEnrollment_admits hadmits, if_pos h.1, hqueue]
  exact ⟨error, rfl, hstore, rfl⟩

/-- From then on the container cannot be enrolled. -/
theorem blocked_after_failure (hadmits : Admits server request)
    (h : QueueFails server.state request input) {next : CreateEnrollmentRequest}
    (hnext : next.containerId = request.containerId) :
    ¬ Admits (createEnrollment server request input).2 next := by
  obtain ⟨error, -, hstore, -⟩ := createEnrollment_queueFails hadmits h
  intro hagain
  have hidle := hagain.idle
  rw [hstore, hnext] at hidle
  simp [inProgress, insertEnrollment, newEnrollment, EnrollmentState.isActive] at hidle

/-- The same request is answered as if onboarding had started. -/
theorem repeated_after_failure (hadmits : Admits server request)
    (h : QueueFails server.state request input)
    (hfresh : ∀ enrollment ∈ server.state.store.enrollments, enrollment.id ≠ input.newId)
    (input' : Input) :
    (createEnrollment (createEnrollment server request input).2 request input').1
      = .answered 200 (newEnrollment request input.newId input.now) := by
  obtain ⟨error, -, hstore, hcontainers⟩ := createEnrollment_queueFails hadmits h
  have hknown : (⟨request.containerId⟩ : ContainerId) ∈
      (createEnrollment server request input).2.containers := hcontainers ▸ hadmits.container.2
  have hlink : checkLink (createEnrollment server request input).2.state.store
      ⟨request.containerId⟩ request.targetId = .ok () := by
    have hbefore := hadmits.link
    rw [hstore]
    unfold checkLink at hbefore ⊢
    split at hbefore
    · rfl
    · simpa [insertEnrollment, linkedElsewhere, newEnrollment] using hbefore
  have hkey : (createEnrollment server request input).2.state.store.enrollmentKeys.get
      request.idempotencyKey = some input.newId := by
    rw [hstore]
    exact Table.get_put_self ..
  have hfound : ((createEnrollment server request input).2.state.store.enrollments.find?
      fun item => item.id = input.newId) = some (newEnrollment request input.newId input.now) := by
    have hnone : (server.state.store.enrollments.find? fun item => item.id = input.newId)
        = none := List.find?_eq_none.mpr fun item hitem => by simpa using hfresh item hitem
    rw [hstore]
    exact (@find_inserted _ _ _ server.state _ _).trans (by rw [hnone]; rfl)
  rw [createEnrollment, admitEnrollment]
  dsimp only
  rw [if_neg hadmits.container.1, if_neg (not_not.mpr hknown), hlink]
  dsimp only
  rw [hkey]
  dsimp only
  rw [hfound]
  simp [newEnrollment]

/-- **When a failed request leaves no trace.**  For every server, coordinator, request and outcome
of the database: an error leaves the enrollments and their keys as they were, if and only if the
request is not accepted with a job that cannot be queued. -/
theorem enrollment_noTrace_iff (server : EnrollmentServer H P D)
    (request : CreateEnrollmentRequest) (input : Input) :
    NoTrace server request input ↔
      ¬ (Admits server request ∧ QueueFails server.state request input) := by
  constructor
  · rintro htrace ⟨hadmits, hfails⟩
    obtain ⟨error, herror, hstore, -⟩ := createEnrollment_queueFails hadmits hfails
    have hsame := (htrace error herror).1
    rw [hstore] at hsame
    have hlength := congrArg List.length hsame
    simp [insertEnrollment] at hlength
  · intro hnot error herror
    by_cases hadmits : Admits server request
    · -- an accepted request is answered with an error only when its job cannot be queued
      have hqueues : ¬ QueueFails server.state request input := fun h => hnot ⟨hadmits, h⟩
      rw [createEnrollment_admits hadmits] at herror
      by_cases hstart : request.startOnboarding = true
      · have hok := queueEnrollmentJob_queued hadmits hstart hqueues
        rw [if_pos hstart] at herror
        split at herror
        · rename_i hqueue
          rw [hqueue] at hok
          cases hok
        · cases herror
      · rw [if_neg hstart] at herror
        cases herror
    · rw [createEnrollment_not_admits hadmits]
      exact ⟨rfl, rfl⟩

/-! ### A container whose target is disabled -/

/-- An LXC target that is disabled. -/
def disabledTarget : Target :=
  { linuxServer ⟨⟨7⟩⟩ with kind := .lxc, state := .disabled }

/-- A server in memory with one container and the target. -/
def serverWithDisabledTarget : EnrollmentServer Unit Unit Unit where
  containers := [⟨101⟩]
  state :=
    { store := ⟨[disabledTarget], ∅, ∅, ∅, [], ∅, [], []⟩
      ansible := .default
      repositories := none }

/-- The container is to be enrolled as the target. -/
def enrollmentRequest : CreateEnrollmentRequest := ⟨101, some ⟨⟨7⟩⟩, "first", true⟩

/-- What the requests of the example get from outside. -/
def enrollmentInput : Input := ⟨⟨⟨1⟩⟩, ⟨⟨2⟩⟩, 0, false⟩

theorem rejected_deployment_stays :
    ¬ ∀ (server : EnrollmentServer Unit Unit Unit) (request : CreateEnrollmentRequest)
      (input : Input), NoTrace server request input := by
  intro hall
  have htrace := hall serverWithDisabledTarget enrollmentRequest enrollmentInput
  let call := createEnrollment serverWithDisabledTarget enrollmentRequest enrollmentInput
  have hanswer : call.1 = .error
      (.conflict "enrollment_job_rejected" "agent deployment could not be queued") := by
    decide +kernel
  have hstored : call.2.state.store.enrollments.length = 1 := by decide +kernel
  have hsame : call.2.state.store.enrollments
      = serverWithDisabledTarget.state.store.enrollments := (htrace _ hanswer).1
  rw [hsame] at hstored
  exact absurd hstored (by decide)

end Lxcup.Enrollments
