import Lxcup.Core.Resource

/-!
# The contract of an Ansible job

Requests carry operations of a registry, typed parameters and secret references.
There is no free playbook path, shell command or secret value in the model, as in
the source.

`AnsibleJobId::new()` and `Utc::now()` are arguments of the functions that call
them.  The parameter hash of a job is not modelled: it is stored and shown, and no
decision of the program reads it.

## Main definitions

* `AnsibleOperation`, `ExecutionMode`, `AnsibleJobStatus` with `canTransitionTo`.
* `AnsibleParameters.validate`, `PlaybookRegistry.resolve`.
* `AnsibleJob`, `AnsibleJob.fromRequest`, `AnsibleJob.transitionTo`, `AnsibleJob.transitionsTo`.
* `reconcileIdempotencyKey`, `reconciliationSourceJobId` — the key of a reconciliation
  job and the source job it names.

## Main results

* `AnsibleJob.fromRequest_ok` — what an accepted request gives.
* `AnsibleJob.transitionsTo_ok` — several transitions are a path of the lifecycle.
* `reconciliationSourceJobId_key` — the key of a reconciliation names its source.
-/

namespace Lxcup.Ansible

open Lxcup.Lib Lxcup.Core

/-! ### Keys of reconciliation jobs -/

/-- The beginning of every reconciliation key. -/
def reconcileKeyPrefix : String := "reconcile-job:"

/-- The idempotency key of the reconciliation of a job. -/
def reconcileIdempotencyKey (sourceJobId : AnsibleJobId) : String :=
  reconcileKeyPrefix ++ String.ofList sourceJobId.uuid.toText

/-- The job a reconciliation key names. -/
def reconciliationSourceJobId (idempotencyKey : String) : Option AnsibleJobId :=
  ((stripPrefix reconcileKeyPrefix.toList idempotencyKey.toList).bind Uuid.parseStr).map
    AnsibleJobId.mk

/-- **The key of a reconciliation names its source.** -/
theorem reconciliationSourceJobId_key (id : AnsibleJobId) :
    reconciliationSourceJobId (reconcileIdempotencyKey id) = some id := by
  have htext : (reconcileIdempotencyKey id).toList
      = reconcileKeyPrefix.toList ++ id.uuid.toText := by
    simp [reconcileIdempotencyKey]
  rw [reconciliationSourceJobId, htext, stripPrefix_append, Option.bind_some,
    Uuid.parseStr_toText, Option.map_some]

/-! ### Operations, modes and states -/

/-- The operations open to the API and the worker. -/
inductive AnsibleOperation
  | deployAgent | updateAgent | updatePackages | repairAgent | configureTarget | healthCheck
  | collectPackageInventory
  deriving DecidableEq, Repr, Inhabited

/-- The execution phase the caller asks for. -/
inductive ExecutionMode
  | check | plan | apply | reconcile
  deriving DecidableEq, Repr, Inhabited

namespace AnsibleOperation

/-- The operations whose interrupted application can be reconciled. -/
def canReconcileApply : AnsibleOperation → Bool
  | deployAgent | updateAgent | repairAgent | updatePackages => true
  | _ => false

/-- The modes of an operation, from the contract file shared with the frontend. -/
def supportedModes : AnsibleOperation → List ExecutionMode
  | deployAgent | updateAgent | repairAgent => [.check, .plan, .apply]
  | updatePackages => [.plan, .apply]
  | configureTarget => [.check, .apply]
  | healthCheck | collectPackageInventory => [.check]

/-- Whether an operation has a mode. -/
def supportsMode (op : AnsibleOperation) (mode : ExecutionMode) : Bool :=
  op.supportedModes.contains mode

end AnsibleOperation

/-- No request can ask for a reconciliation: those jobs are only made from another job. -/
theorem AnsibleOperation.not_supportsMode_reconcile (op : AnsibleOperation) :
    op.supportsMode .reconcile = false := by
  cases op <;> decide

/-- The lifecycle of a job. -/
inductive AnsibleJobStatus
  | queued | checking | planned | applying | reconcileRequired | succeeded | failed | aborted
  deriving DecidableEq, Repr, Inhabited

namespace AnsibleJobStatus

/-- The edges of the lifecycle. -/
def canTransitionTo : AnsibleJobStatus → AnsibleJobStatus → Bool
  | queued, checking | queued, planned | queued, aborted => true
  | checking, planned | checking, failed | checking, aborted => true
  | planned, applying | planned, succeeded | planned, failed | planned, aborted => true
  | applying, succeeded | applying, failed | applying, reconcileRequired => true
  | reconcileRequired, succeeded | reconcileRequired, failed => true
  | failed, queued => true
  | _, _ => false

/-- Work on the target is under way. -/
def isActive : AnsibleJobStatus → Bool
  | checking | planned | applying => true
  | _ => false

/-- The states in which the coordinator takes no further event and drops the target lock. -/
def isFinal : AnsibleJobStatus → Bool
  | succeeded | failed | aborted => true
  | _ => false

end AnsibleJobStatus

/-! ### Parameters and playbooks -/

/-- The typed variables of each operation. -/
inductive AnsibleParameters
  | deployAgent (agentVersion : String)
  | updateAgent (agentVersion : String)
  | updatePackages (packages : List String)
  | repairAgent
  | configureTarget (desiredHostname : Option String)
  | healthCheck
  | collectPackageInventory
  deriving DecidableEq, Repr, Inhabited

/-- Why a request is not accepted. -/
inductive AnsibleContractError
  | invalid | permissionDenied | confirmationRequired | unsupportedTarget | unsupportedMode
  | missingSecretReference | invalidTransition
  deriving DecidableEq, Repr, Inhabited

namespace AnsibleParameters

/-- The operation the parameters belong to. -/
def operation : AnsibleParameters → AnsibleOperation
  | deployAgent _ => .deployAgent
  | updateAgent _ => .updateAgent
  | updatePackages _ => .updatePackages
  | repairAgent => .repairAgent
  | configureTarget _ => .configureTarget
  | healthCheck => .healthCheck
  | collectPackageInventory => .collectPackageInventory

/-- The rule on agent versions: not blank and at most fifty bytes. -/
def versionValid (version : String) : Bool :=
  trim version.toList ≠ [] && version.utf8ByteSize ≤ 50

/-- The rules on the parameters. -/
def validate : AnsibleParameters → Except AnsibleContractError Unit
  | deployAgent version | updateAgent version =>
    if versionValid version then .ok () else .error .invalid
  | updatePackages packages =>
    -- the wildcard stands alone
    if packages = [] ∨ packages.length > 100 ∨ ("*" ∈ packages ∧ packages ≠ ["*"]) then
      .error .invalid
    else if packages.any fun p => trim p.toList = [] || p.toList.length > 100 then
      .error .invalid
    else .ok ()
  | configureTarget (some hostname) =>
    if trim hostname.toList = [] ∨ hostname.toList.length > 253 then .error .invalid else .ok ()
  | _ => .ok ()

end AnsibleParameters

/-- What the worker gets for an operation. -/
structure PlaybookSpec where
  operation : AnsibleOperation
  playbook : String
  version : String
  action : ResourceAction
  requiresSecret : Bool
  deriving DecidableEq, Repr, Inhabited

/-- `PlaybookRegistry::resolve`, the versioned allowlist. -/
def PlaybookRegistry.resolve (operation : AnsibleOperation) : PlaybookSpec :=
  match operation with
  | .deployAgent => ⟨operation, "agent/deploy.yml", "1", .deployAgent, true⟩
  | .updateAgent => ⟨operation, "agent/update.yml", "1", .updateAgent, true⟩
  | .updatePackages => ⟨operation, "packages/update.yml", "1", .updatePackages, true⟩
  | .repairAgent => ⟨operation, "agent/repair.yml", "1", .repairAgent, true⟩
  | .configureTarget => ⟨operation, "target/configure.yml", "1", .configureTarget, true⟩
  | .healthCheck => ⟨operation, "target/health-check.yml", "1", .healthCheck, false⟩
  | .collectPackageInventory =>
    ⟨operation, "inventory/packages.yml", "1", .collectPackageInventory, true⟩

/-! ### Requests and jobs -/

/-- What the backend accepts.  It has no free-form command or path. -/
structure AnsibleJobRequest where
  operation : AnsibleOperation
  target : ResourceTarget
  lifecycle : ResourceLifecycle
  mode : ExecutionMode
  parameters : AnsibleParameters
  secretRefs : List SecretId
  idempotencyKey : String
  confirmed : Bool
  actorRole : ActorRole
  deriving DecidableEq, Repr, Inhabited

/-- The persistable, audit-safe form of a job. -/
structure AnsibleJob where
  id : AnsibleJobId
  operation : AnsibleOperation
  playbook : String
  playbookVersion : String
  target : ResourceTarget
  mode : ExecutionMode
  parameters : AnsibleParameters
  secretRefs : List SecretId
  idempotencyKey : String
  status : AnsibleJobStatus
  createdAt : Timestamp
  updatedAt : Timestamp
  deriving DecidableEq, Repr, Inhabited

namespace AnsibleJob

/-- Whether a reconciliation of the job may be submitted. -/
def canBeReconciled (job : AnsibleJob) : Bool :=
  job.status = .reconcileRequired && job.mode = .apply && job.operation.canReconcileApply

/-- How the errors of the domain rules show up in the contract. -/
def contractError : DomainError → AnsibleContractError
  | .permissionDenied => .permissionDenied
  | .confirmationRequired => .confirmationRequired
  | .invalidStateTransition _ => .unsupportedTarget
  | _ => .invalid

/-- The job of a request, as it is queued. -/
def queuedFor (request : AnsibleJobRequest) (id : AnsibleJobId) (now : Timestamp) : AnsibleJob :=
  let spec := PlaybookRegistry.resolve request.operation
  { id := id
    operation := request.operation
    playbook := spec.playbook
    playbookVersion := spec.version
    target := request.target
    mode := request.mode
    parameters := request.parameters
    secretRefs := request.secretRefs
    idempotencyKey := request.idempotencyKey
    status := .queued
    createdAt := now
    updatedAt := now }

/-- `AnsibleJob::from_request`, with the fresh id and the time of the call. -/
def fromRequest (request : AnsibleJobRequest) (id : AnsibleJobId) (now : Timestamp) :
    Except AnsibleContractError AnsibleJob := do
  if request.parameters.operation ≠ request.operation then
    throw .invalid
  request.parameters.validate
  if trim request.idempotencyKey.toList = [] ∨ request.idempotencyKey.utf8ByteSize > 200 then
    throw .invalid
  let spec := PlaybookRegistry.resolve request.operation
  if !request.operation.supportsMode request.mode then
    throw .unsupportedMode
  if !spec.action.supports request.target then
    throw .unsupportedTarget
  (validateAction request.actorRole request.target request.lifecycle spec.action
    request.confirmed request.idempotencyKey).mapError contractError
  -- destructive actions are confirmed in `validateAction`, the others here
  if request.mode = .apply ∧ spec.action.permission ≠ .read ∧ !request.confirmed then
    throw .confirmationRequired
  if spec.requiresSecret ∧ request.secretRefs = [] then
    throw .missingSecretReference
  if ¬ request.secretRefs.Nodup then
    throw .invalid
  return queuedFor request id now

/-- The conditions on a request under which it becomes a job. -/
@[mk_iff]
structure Accepts (request : AnsibleJobRequest) : Prop where
  /-- The parameters are those of the operation and within their bounds. -/
  parameters : request.parameters.operation = request.operation ∧
    request.parameters.validate = .ok ()
  /-- The idempotency key is not blank and has at most 200 bytes. -/
  key : trim request.idempotencyKey.toList ≠ [] ∧ request.idempotencyKey.utf8ByteSize ≤ 200
  /-- The operation has the mode. -/
  mode : request.operation.supportsMode request.mode = true
  /-- The rules of the domain allow the action. -/
  action : validateAction request.actorRole request.target request.lifecycle
    (PlaybookRegistry.resolve request.operation).action request.confirmed
    request.idempotencyKey = .ok ()
  /-- Changing a resource is confirmed. -/
  confirmed : request.mode = .apply →
    (PlaybookRegistry.resolve request.operation).action.permission ≠ .read →
    request.confirmed = true
  /-- Secrets are named where needed, and none twice. -/
  secrets : ((PlaybookRegistry.resolve request.operation).requiresSecret = true →
    request.secretRefs ≠ []) ∧ request.secretRefs.Nodup

/-- **What an accepted request is and gives.** -/
theorem fromRequest_ok {request : AnsibleJobRequest} {id : AnsibleJobId} {now : Timestamp}
    {job : AnsibleJob} :
    fromRequest request id now = .ok job ↔ Accepts request ∧ job = queuedFor request id now := by
  unfold fromRequest
  simp only [bind, Except.bind, throw, throwThe, MonadExceptOf.throw, pure, Except.pure,
    Except.mapError]
  constructor
  · intro h
    repeat' split at h
    all_goals grind [accepts_iff]
  · rintro ⟨⟨hp, hk, hm, ha, hc, hs⟩, rfl⟩
    have hsup := (validateAction_ok.mp ha).1
    simp only [hp.1, hp.2, hm, hsup, ha]
    grind

/-- Take an edge of the lifecycle. -/
def transitionTo (job : AnsibleJob) (next : AnsibleJobStatus) (now : Timestamp) :
    Except AnsibleContractError AnsibleJob :=
  if job.status.canTransitionTo next then
    .ok { job with status := next, updatedAt := now }
  else .error .invalidTransition

theorem transitionTo_ok {job job' : AnsibleJob} {next : AnsibleJobStatus} {now : Timestamp} :
    job.transitionTo next now = .ok job' ↔
      job.status.canTransitionTo next = true ∧
        job' = { job with status := next, updatedAt := now } := by
  unfold transitionTo
  split
  case isTrue h => simp only [Except.ok.injEq, h, true_and, eq_comm]
  case isFalse h => simp [h]

/-- Take several edges of the lifecycle, one after the other. -/
def transitionsTo (job : AnsibleJob) (path : List AnsibleJobStatus) (now : Timestamp) :
    Except AnsibleContractError AnsibleJob :=
  path.foldlM (fun job next => job.transitionTo next now) job

/-- Consecutive statuses are edges of the lifecycle. -/
def LifecyclePath (path : List AnsibleJobStatus) : Prop :=
  path.IsChain fun status next => status.canTransitionTo next = true

/-- **Several edges in one write** are a path from the status the job had, and change its
status and time only. -/
theorem transitionsTo_ok {job job' : AnsibleJob} {path : List AnsibleJobStatus} {now : Timestamp}
    (h : transitionsTo job path now = .ok job') (hpath : path ≠ []) :
    LifecyclePath (job.status :: path) ∧
      ∃ last, path.getLast? = some last ∧ job' = { job with status := last, updatedAt := now } := by
  induction path generalizing job with
  | nil => exact absurd rfl hpath
  | cons next rest ih =>
    simp only [transitionsTo, List.foldlM_cons, bind, Except.bind] at h
    split at h
    · cases h
    · rename_i moved hmoved
      obtain ⟨hedge, rfl⟩ := AnsibleJob.transitionTo_ok.mp hmoved
      cases rest with
      | nil =>
        obtain rfl := Except.ok.inj h
        exact ⟨by simp [LifecyclePath, hedge], next, rfl, rfl⟩
      | cons next' rest =>
        obtain ⟨hchain, last, hlast, rfl⟩ := ih h (by simp)
        refine ⟨?_, last, by simpa using hlast, rfl⟩
        exact List.isChain_cons_cons.mpr ⟨hedge, hchain⟩

end AnsibleJob

end Lxcup.Ansible
