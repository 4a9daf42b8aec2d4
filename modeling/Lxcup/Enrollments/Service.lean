import Lxcup.Core.Enrollment
import Lxcup.Lib.Lists
import Lxcup.Server.DeleteTarget
import Lxcup.Server.Producers

/-!
# Enrolling containers

`create_enrollment` checks a request and stores the enrollment with its idempotency key in one
section under the lock of the store.  The job that deploys the agent is queued after that, in
four sections more: the target is read, the job is submitted to the coordinator, its row is
inserted, and the enrollment moves on to `discovering`.

`get_enrollment` brings an enrollment up to date with what has become of the job: it lists the
jobs, reads the target of the one with the key of the enrollment, and then writes.

## Main definitions

* `admitEnrollment`, `insertEnrollment` — the first section of `create_enrollment`.
* `readTarget`, `submitDeployment`, `saveDeployment`, `startDiscovery` — the sections of
  `queue_enrollment_job`.
* `queueEnrollmentJob`, `createEnrollment` — the sections one after the other.
* `deploymentOf`, `targetConnected`, `reconcileEnrollment` — the sections of `get_enrollment`.

## Main results

* `admitEnrollment_accepted` — which requests are accepted.
-/

namespace Lxcup.Enrollments

open Lxcup.Lib Lxcup.Core Lxcup.Ansible Lxcup.Persistence Lxcup.Server

variable {H P D : Type}

/-- The body of a request. -/
structure CreateEnrollmentRequest where
  containerId : UInt64
  targetId : Option TargetId
  idempotencyKey : String
  startOnboarding : Bool
  deriving DecidableEq, Repr, Inhabited

/-- The server, with the containers that it knows. -/
structure EnrollmentServer (H P D : Type) where
  containers : List ContainerId
  state : ApiState H P D

/-- What the sections of a request get from outside: fresh ids, the time, and whether the
statement of the database fails. -/
structure Input where
  newId : EnrollmentId
  newJobId : AnsibleJobId
  now : Timestamp
  dbFails : Bool
  deriving DecidableEq, Repr, Inhabited

/-! ### Admission -/

/-- The target is linked to the enrollment of another container. -/
def linkedElsewhere (enrollments : List Enrollment) (containerId : ContainerId)
    (targetId : TargetId) : Bool :=
  enrollments.any fun enrollment =>
    enrollment.containerId ≠ containerId && enrollment.targetId = some targetId

/-- The container has an enrollment under way. -/
def inProgress (enrollments : List Enrollment) (containerId : ContainerId) : Bool :=
  enrollments.any fun enrollment =>
    enrollment.containerId = containerId && enrollment.state.isActive

/-- The checks of the target that the container is to be linked to. -/
def checkLink (store : ApiStore H P D) (containerId : ContainerId) :
    Option TargetId → Except ApiError Unit
  | none => .ok ()
  | some targetId =>
    match store.targets.find? fun target => target.id = targetId with
    | none => .error (.notFound "target not found")
    | some target =>
      if target.kind ≠ .lxc then
        .error (.badRequest "invalid_enrollment_target"
          "an LXC enrollment can only be linked to an LXC target")
      else if linkedElsewhere store.enrollments containerId targetId then
        .error (.conflict "target_already_enrolled"
          "this target is already linked to another LXC container")
      else .ok ()

/-- How the first section ends. -/
inductive Admission
  | refused (error : ApiError)
  /-- The `expect` on the enrollment of a known key fails. -/
  | panicked
  | existing (enrollment : Enrollment)
  | accepted (enrollment : Enrollment)
  deriving DecidableEq, Repr

/-- The first section of `create_enrollment`, up to the insertion. -/
def admitEnrollment (server : EnrollmentServer H P D) (request : CreateEnrollmentRequest)
    (newId : EnrollmentId) (now : Timestamp) : Admission :=
  let store := server.state.store
  let containerId : ContainerId := ⟨request.containerId⟩
  if request.containerId = 0 then
    .refused (.badRequest "invalid_container_id" "container id must be greater than zero")
  else if containerId ∉ server.containers then .refused (.notFound "container not found")
  else
    match checkLink store containerId request.targetId with
    | .error error => .refused error
    | .ok () =>
      match store.enrollmentKeys.get request.idempotencyKey with
      | some existingId =>
        match store.enrollments.find? fun enrollment => enrollment.id = existingId with
        | none => .panicked
        | some existing =>
          if existing.containerId ≠ containerId ∨ existing.targetId ≠ request.targetId then
            .refused (.conflict "idempotency_key_reused"
              "idempotency key is already used for another container")
          else .existing existing
      | none =>
        -- a new key: only now the other enrollments of the container count
        if inProgress store.enrollments containerId then
          .refused (.conflict "enrollment_in_progress"
            "an enrollment is already in progress for this container")
        else
          match Enrollment.new containerId request.idempotencyKey newId now with
          | .error _ =>
            .refused (.badRequest "invalid_idempotency_key" "idempotency key is invalid")
          | .ok enrollment => .accepted { enrollment with targetId := request.targetId }

/-- The insertion at the end of the section. -/
def insertEnrollment (store : ApiStore H P D) (enrollment : Enrollment) : ApiStore H P D :=
  { store with
    enrollmentKeys := store.enrollmentKeys.put enrollment.idempotencyKey enrollment.id
    enrollments := store.enrollments ++ [enrollment] }

/-- The enrollment of a request. -/
def newEnrollment (request : CreateEnrollmentRequest) (newId : EnrollmentId) (now : Timestamp) :
    Enrollment where
  id := newId
  containerId := ⟨request.containerId⟩
  targetId := request.targetId
  state := .requested
  idempotencyKey := request.idempotencyKey
  failureReason := none
  createdAt := now
  updatedAt := now

/-- The requests that are accepted. -/
structure Admits (server : EnrollmentServer H P D) (request : CreateEnrollmentRequest) : Prop where
  container : request.containerId ≠ 0 ∧ ⟨request.containerId⟩ ∈ server.containers
  link : checkLink server.state.store ⟨request.containerId⟩ request.targetId = .ok ()
  unused : server.state.store.enrollmentKeys.get request.idempotencyKey = none
  idle : inProgress server.state.store.enrollments ⟨request.containerId⟩ = false
  key : trim request.idempotencyKey.toList ≠ [] ∧ request.idempotencyKey.toList.length ≤ 200

/-- **Which requests are accepted**, and as what. -/
theorem admitEnrollment_accepted {server : EnrollmentServer H P D}
    {request : CreateEnrollmentRequest} {newId : EnrollmentId} {now : Timestamp}
    {enrollment : Enrollment} :
    admitEnrollment server request newId now = .accepted enrollment ↔
      Admits server request ∧ enrollment = newEnrollment request newId now := by
  unfold admitEnrollment
  dsimp only
  constructor
  · intro h
    split at h
    · cases h
    rename_i hzero
    split at h
    · cases h
    rename_i hknown
    split at h
    · cases h
    rename_i hlink
    split at h
    · split at h
      · cases h
      · split at h <;> cases h
    rename_i hunused
    split at h
    · cases h
    rename_i hidle
    unfold Enrollment.new at h
    split at h
    · cases h
    rename_i created hcreated
    split at hcreated
    · cases hcreated
    rename_i hblank
    split at hcreated
    · cases hcreated
    rename_i hlong
    obtain rfl := Except.ok.inj hcreated
    obtain rfl := Admission.accepted.inj h
    refine ⟨⟨⟨hzero, not_not.mp hknown⟩, hlink, hunused, by simpa using hidle, hblank, ?_⟩, rfl⟩
    exact Nat.le_of_not_gt hlong
  · rintro ⟨hadmits, rfl⟩
    rw [if_neg hadmits.container.1, if_neg (not_not.mpr hadmits.container.2), hadmits.link]
    dsimp only
    rw [hadmits.unused]
    dsimp only
    rw [if_neg (by simp [hadmits.idle]), Enrollment.new, if_neg hadmits.key.1,
      if_neg (Nat.not_lt.mpr hadmits.key.2)]
    rfl

/-! ### The deployment -/

/-- The key of the job that deploys the agent. -/
def enrollmentJobKey (id : EnrollmentId) : String := "enrollment-" ++ idText id.uuid

/-- The request of `queue_enrollment_job`. -/
def deploymentRequest (target : Target) (id : EnrollmentId) : AnsibleJobRequest :=
  deployAgentRequest target (targetLifecycle target.state) "0.3.1" (enrollmentJobKey id) .operator

def readTarget (store : ApiStore H P D) (targetId : TargetId) : Except ApiError Target :=
  match store.targets.find? fun target => target.id = targetId with
  | none => .error (.notFound "target not found")
  | some target => .ok target

def submitDeployment (ansible : AnsibleJobCoordinator) (target : Target) (id : EnrollmentId)
    (newJobId : AnsibleJobId) (now : Timestamp) :
    Except ApiError (JobSubmission × AnsibleJobCoordinator) :=
  match ansible.submit (deploymentRequest target id) newJobId now with
  | .error _ =>
    .error (.conflict "enrollment_job_rejected" "agent deployment could not be queued")
  | .ok submission => .ok submission

def saveDeployment (repositories : Option Database) (job : AnsibleJob) (dbFails : Bool) :
    Except ApiError (Option Database) :=
  match repositories with
  | none => .ok none
  | some db =>
    match JobTable.save db.targets db.ansibleJobs job with
    | .error _ => .error .storage
    | .ok jobs => if dbFails then .error .storage else .ok (some { db with ansibleJobs := jobs })

/-- Write an enrollment over the one with its id. -/
def writeEnrollment (store : ApiStore H P D) (enrollment : Enrollment) : ApiStore H P D :=
  { store with
    enrollments := replaceFirst (fun item => item.id = enrollment.id) enrollment
      store.enrollments }

def startDiscovery (store : ApiStore H P D) (id : EnrollmentId) (now : Timestamp) :
    Except ApiError (ApiStore H P D) :=
  match store.enrollments.find? fun item => item.id = id with
  | none => .ok store
  | some enrollment =>
    match enrollment.transitionTo .discovering now with
    | .error _ =>
      .error (.conflict "enrollment_invalid_state" "enrollment cannot start discovery")
    | .ok enrollment => .ok (writeEnrollment store enrollment)

/-- `queue_enrollment_job`, for the enrollment with an id. -/
def queueEnrollmentJob (state : ApiState H P D) (request : CreateEnrollmentRequest)
    (id : EnrollmentId) (input : Input) : Except ApiError Unit × ApiState H P D :=
  match request.targetId with
  | none => (.ok (), state)
  | some targetId =>
    match readTarget state.store targetId with
    | .error error => (.error error, state)
    | .ok target =>
      -- no error from here on takes the enrollment back
      match submitDeployment state.ansible target id input.newJobId input.now with
      | .error error => (.error error, state)
      | .ok (.duplicate _, ansible) => (.ok (), { state with ansible := ansible })
      | .ok (.created job, ansible) =>
        let state := { state with ansible := ansible }
        match saveDeployment state.repositories job input.dbFails with
        | .error error => (.error error, state)
        | .ok repositories =>
          let state := { state with repositories := repositories }
          match startDiscovery state.store id input.now with
          | .error error => (.error error, state)
          | .ok store => (.ok (), { state with store := store })

/-- The answer to a request. -/
inductive CreateAnswer
  | error (error : ApiError)
  | panicked
  | answered (status : Nat) (enrollment : Enrollment)
  deriving DecidableEq, Repr

/-- `create_enrollment`. -/
def createEnrollment (server : EnrollmentServer H P D) (request : CreateEnrollmentRequest)
    (input : Input) : CreateAnswer × EnrollmentServer H P D :=
  match admitEnrollment server request input.newId input.now with
  | .refused error => (.error error, server)
  | .panicked => (.panicked, server)
  | .existing enrollment => (.answered 200 enrollment, server)
  | .accepted enrollment =>
    let state := { server.state with store := insertEnrollment server.state.store enrollment }
    if request.startOnboarding then
      match queueEnrollmentJob state request enrollment.id input with
      | (.error error, state) => (.error error, { server with state := state })
      | (.ok (), state) => (.answered 202 enrollment, { server with state := state })
    else (.answered 202 enrollment, { server with state := state })

/-! ### Polls -/

/-- The jobs as they are listed. -/
def listJobs (state : ApiState H P D) : List AnsibleJob :=
  match state.repositories with
  | some db => db.ansibleJobs.list
  | none => state.ansible.jobs.values.insertionSort fun a b => b.createdAt ≤ a.createdAt

/-- The job that deploys the agent of an enrollment, as it is listed. -/
def deploymentOf (state : ApiState H P D) (id : EnrollmentId) : Option AnsibleJob :=
  (listJobs state).find? fun job => job.idempotencyKey = enrollmentJobKey id

/-- The target is registered and managed. -/
def targetConnected (store : ApiStore H P D) : ResourceTarget → Bool
  | .target targetId =>
    store.targets.any fun target => target.id = targetId && target.state = .managed
  | _ => false

/-- What a failed enrollment says. -/
def deploymentFailed : String :=
  "Agent-Deployment fehlgeschlagen. Details stehen im Workflow-Protokoll."

/-- `let _ = enrollment.transition_to(..)`: a transition that is refused is ignored. -/
def tryTransition (enrollment : Enrollment) (next : EnrollmentState) (now : Timestamp) :
    Enrollment :=
  match enrollment.transitionTo next now with
  | .error _ => enrollment
  | .ok enrollment => enrollment

/-- What a poll makes of an enrollment when it has seen the status of the job and whether the
target is connected. -/
def reconcileEnrollment (enrollment : Enrollment) (status : AnsibleJobStatus) (connected : Bool)
    (now : Timestamp) : Enrollment :=
  -- `fail` does not ask the lifecycle, the transitions do
  if status = .failed then enrollment.fail deploymentFailed now
  else if (status = .applying ∨ status = .succeeded) ∧ enrollment.state = .discovering then
    tryTransition enrollment .installingAgent now
  else if status = .succeeded ∧ connected = true then
    tryTransition (tryTransition enrollment .registeringAgent now) .connected now
  else enrollment

/-- The section in which a poll writes. -/
def writePoll (store : ApiStore H P D) (id : EnrollmentId) (status : AnsibleJobStatus)
    (connected : Bool) (now : Timestamp) : ApiStore H P D :=
  match store.enrollments.find? fun item => item.id = id with
  | none => store
  | some enrollment =>
    writeEnrollment store (reconcileEnrollment enrollment status connected now)

/-- A transition that is tried ends where it leads, or nowhere. -/
theorem tryTransition_state (enrollment : Enrollment) (next : EnrollmentState) (now : Timestamp) :
    (tryTransition enrollment next now).state =
      if enrollment.state.canTransitionTo next then next else enrollment.state := by
  unfold tryTransition Enrollment.transitionTo
  cases enrollment.state.canTransitionTo next <;> rfl

theorem sameLink_tryTransition (enrollment : Enrollment) (next : EnrollmentState)
    (now : Timestamp) : enrollment.SameLink (tryTransition enrollment next now) := by
  unfold tryTransition
  split
  · exact .refl _
  · rename_i h
    exact (Enrollment.transitionTo_ok h).2.2

/-- A poll leaves the link of an enrollment as it is. -/
theorem sameLink_reconcileEnrollment (enrollment : Enrollment) (status : AnsibleJobStatus)
    (connected : Bool) (now : Timestamp) :
    enrollment.SameLink (reconcileEnrollment enrollment status connected now) := by
  unfold reconcileEnrollment
  split
  · exact ⟨rfl, rfl, rfl⟩
  split
  · exact sameLink_tryTransition ..
  split
  · exact (sameLink_tryTransition ..).trans (sameLink_tryTransition ..)
  · exact .refl _

end Lxcup.Enrollments
