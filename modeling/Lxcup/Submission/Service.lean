import Lxcup.Ansible.Consistency
import Lxcup.Server.DeleteTarget
import Lxcup.Server.Producers

/-!
# Submitting jobs, step by step

`create_ansible_job`, `reconcile_ansible_job` and the server's own producers as processes
over a shared state: the store, the coordinator, and the database when the server runs in
persistent mode.  Every access to one of the three is one atomic step of a process, and
between two accesses anything else may happen.  A database call may fail; it is answered
with an error then and changes nothing.

Besides the processes there are the steps of the rest of the system: jobs make progress,
targets, containers and policies come, change and go.

The last fields of the state are its history.  They are never read by a step, apart from the
ids: a new id has never been used before.

## Main definitions

* `JobDatabase` — the tables of the job repository.
* `Call`, `Phase`, `Process` — the requests that are under way, and how far they have come.
* `Service`, `Service.advance` — the shared state, and one step of a process.
* `ServiceAction`, `Service.step`, `serviceMachine`.
-/

namespace Lxcup.Submission

open Lxcup.Lib Lxcup.Core Lxcup.Ansible Lxcup.Persistence Lxcup.Server

/-! ### The database -/

/-- The tables of the job repository, with those it refers to. -/
structure JobDatabase where
  targets : Table TargetId Target
  jobs : JobTable
  events : Table AnsibleJobId (List JobEvent)

namespace JobDatabase

/-- `append_event`: the job must be there and the sequence number new. -/
def appendEvent (db : JobDatabase) (event : JobEvent) : Except RepositoryError JobDatabase :=
  let events := (db.events.get event.jobId).getD []
  if (db.jobs.get event.jobId).isNone || events.any fun other => other.sequence = event.sequence
  then .error .database
  else .ok { db with events := db.events.put event.jobId (events ++ [event]) }

/-- `find_by_idempotency_key`. -/
def findByIdempotencyKey (db : JobDatabase) (target : ResourceTarget) (key : String) :
    Option AnsibleJob :=
  db.jobs.list.find? fun job => job.target = target && job.idempotencyKey = key

/-- `has_reconciliation_required_target`. -/
def hasReconciliationRequiredTarget (db : JobDatabase) (target : ResourceTarget) : Bool :=
  db.jobs.any fun job => job.target = target && job.status = .reconcileRequired

end JobDatabase

/-- The states that keep another job of the target from being submitted. -/
def isActiveJobStatus (status : AnsibleJobStatus) : Bool :=
  status.isActive || status = .reconcileRequired

/-- The tables without a target; its jobs and their events go with it. -/
def JobDatabase.withoutTarget (db : JobDatabase) (id : TargetId) : JobDatabase where
  targets := db.targets.remove id
  jobs := db.jobs.retain fun job => job.target ≠ .target id
  events := db.events.retain fun jobId _ =>
    !(db.jobs.any fun job => job.id = jobId && job.target = .target id)

/-- `has_active_target`. -/
def JobDatabase.hasActiveTarget (db : JobDatabase) (target : ResourceTarget) : Bool :=
  db.jobs.any fun job => job.target = target && isActiveJobStatus job.status

/-- The later of two jobs by their last change, the second when they are equal. -/
def laterChanged (best job : AnsibleJob) : AnsibleJob :=
  if best.updatedAt ≤ job.updatedAt then job else best

/-- `find_active_target_job`, on the listed jobs. -/
def findActiveTargetJob (jobs : List AnsibleJob) (target : ResourceTarget)
    (excluded : Option AnsibleJobId) : Option AnsibleJob :=
  match jobs.filter fun job =>
      job.target = target && some job.id ≠ excluded && isActiveJobStatus job.status with
  | [] => none
  | job :: rest => some (rest.foldl laterChanged job)

/-- `job_status_name`. -/
def jobStatusName : AnsibleJobStatus → String
  | .queued => "queued"
  | .checking => "checking"
  | .planned => "planned"
  | .applying => "applying"
  | .reconcileRequired => "reconcile_required"
  | .succeeded => "succeeded"
  | .failed => "failed"
  | .aborted => "aborted"

/-- The refusal that names the job in the way. -/
def blockedBy (message : String) (blocking : AnsibleJob) : ApiError :=
  .conflictWithBlockingJob "ansible_target_busy" message blocking.id.uuid
    (jobStatusName blocking.status)

/-- `map_ansible_error`. -/
def mapAnsibleError : CoordinatorError → ApiError
  | .targetBusy => .conflict "ansible_target_busy" "another job is active for this target"
  | .notFound => .notFound "ansible job not found"
  | .reconcileNotAllowed => .badRequest "ansible_reconcile_not_allowed"
      "only an unresolved Apply job can be reconciled"
  | .retryNotAllowed | .invalidTransition | .terminal =>
    .badRequest "ansible_job_invalid" "the Ansible job state is invalid"
  | .contract .permissionDenied => .forbidden "ansible_permission_denied"
      "the role cannot run this operation"
  | .contract .confirmationRequired => .badRequest "ansible_confirmation_required"
      "the operation requires explicit confirmation"
  | .contract .missingSecretReference => .dependency "secret_reference_missing"
      "the operation has no configured credential reference"
  | .contract .unsupportedTarget => .badRequest "ansible_target_invalid"
      "the operation is not supported for this target"
  | .contract .unsupportedMode => .badRequest "ansible_mode_invalid"
      "the execution mode is not supported for this operation"
  | .contract .invalid | .contract .invalidTransition => .badRequest "ansible_request_invalid"
      "the Ansible request is invalid"

/-! ### Processes -/

/-- What a process does. -/
inductive Call
  | create (actorRole : ActorRole) (request : CreateAnsibleJobRequest)
  | reconcile (actorRole : ActorRole) (sourceId : AnsibleJobId)
  /-- A job of the server itself, from its submission on. -/
  | produce (producer : Producer)
  deriving DecidableEq, Repr

/-- The answer: a status code with a job, or an error. -/
abbrev Answer := Except ApiError (Nat × AnsibleJob)

/-- How far a process has come, by the access that is next. -/
inductive Phase
  /-- The target is read, or the source of a reconciliation. -/
  | arrived
  /-- The target is read again for `validate_windows_agent_operation`. -/
  | resolved (resolved : ResolvedTarget)
  /-- The policy is read. -/
  | windowsChecked (resolved : ResolvedTarget)
  /-- The target is read once more for `validate_platform_package_ids`. -/
  | policyLoaded (resolved : ResolvedTarget) (policy : UpdatePolicy)
  /-- The plan of an application is loaded. -/
  | planNamed (resolved : ResolvedTarget) (policy : UpdatePolicy) (planId : AnsibleJobId)
  /-- The jobs are listed for `reject_reused_plan`. -/
  | planMatched (resolved : ResolvedTarget) (policy : UpdatePolicy) (planId : AnsibleJobId)
  /-- The key is looked up in the database. -/
  | validated (request : AnsibleJobRequest)
  /-- `has_active_target`. -/
  | keyUnused (request : AnsibleJobRequest)
  /-- `has_reconciliation_required_target`. -/
  | notActive (request : AnsibleJobRequest)
  /-- The job that waits for its reconciliation is looked up for the refusal. -/
  | unresolved (request : AnsibleJobRequest)
  /-- `find_active_target_job`. -/
  | unblocked (request : AnsibleJobRequest)
  /-- The request is submitted to the coordinator. -/
  | free (request : AnsibleJobRequest)
  /-- The key of the reconciliation is looked up in the database. -/
  | sourceLoaded (source : AnsibleJob)
  /-- `find_active_target_job`, except for the source. -/
  | sourceUnused (source : AnsibleJob)
  /-- The reconciliation is submitted to the coordinator. -/
  | sourceFree (source : AnsibleJob)
  /-- The job is inserted into the database. -/
  | created (job : AnsibleJob)
  /-- The events of the job are read from the coordinator. -/
  | saved (job : AnsibleJob)
  /-- The events are inserted one by one. -/
  | appending (job : AnsibleJob) (events : List JobEvent)
  | answered (answer : Answer)
  deriving DecidableEq, Repr

/-- The phases of a request whose next access is to the store. -/
def Phase.readsStore : Phase → Bool
  | .arrived | .resolved _ | .windowsChecked _ | .policyLoaded .. => true
  | _ => false

/-- A process, with what it has seen of the store so far. -/
structure Process where
  call : Call
  phase : Phase
  reads : List StoreView
  deriving DecidableEq, Repr

/-- What a process has seen of the store after its next access. -/
def Process.readsAfter (p : Process) (store : WorkflowStore) : List StoreView :=
  match p.call with
  | .create _ request => if p.phase.readsStore then p.reads ++ [store.view request] else p.reads
  | _ => p.reads

/-- What a step gets from outside: the time, an id that is new, and whether a call of the
database fails. -/
structure Input where
  now : Timestamp
  newId : AnsibleJobId
  fails : Bool
  deriving DecidableEq, Repr, Inhabited

/-! ### The shared state -/

/-- The state that the processes share, the processes, and the history. -/
structure Service where
  store : WorkflowStore
  /-- The secrets named in the environment of the server. -/
  configured : Except ApiError (List SecretId)
  coordinator : AnsibleJobCoordinator
  /-- The database, in persistent mode. -/
  database : Option JobDatabase
  processes : Table Nat Process
  /-- Every job ever made by the coordinator, as it was made, and for what. -/
  made : Table AnsibleJobId (Call × AnsibleJob)
  /-- The jobs that requests were accepted with: stored for the request or named in an answer
  of success. -/
  accepted : List (CreateAnsibleJobRequest × AnsibleJob)
  /-- The ids of all policies there have been. -/
  policyIds : List String
  deletedTargets : List TargetId

namespace Service

/-- The jobs as they are listed: those of the database, or of the coordinator without one. -/
def jobList (s : Service) : List AnsibleJob :=
  match s.database with
  | some db => db.jobs.list
  | none => s.coordinator.jobs.values.insertionSort fun a b => b.createdAt ≤ a.createdAt

/-- The job of an id, from the database or the coordinator. -/
def findJob (s : Service) (id : AnsibleJobId) : Option AnsibleJob :=
  match s.database with
  | some db => db.jobs.get id
  | none => s.coordinator.jobs.get id

/-- Note that a request was accepted with a job. -/
def accept (s : Service) (call : Call) (job : AnsibleJob) : Service :=
  match call with
  | .create _ request => { s with accepted := s.accepted ++ [(request, job)] }
  | _ => s

/-! ### The steps of a process -/

/-- The end of the checks of a request. -/
def validatedPhase (s : Service) (actorRole : ActorRole) (request : CreateAnsibleJobRequest)
    (resolved : ResolvedTarget) : Phase :=
  match resolveJobSecretRefs s.configured request.operation resolved.secretRef with
  | .error error => .answered (.error error)
  | .ok secretRefs => .validated (request.jobRequest resolved secretRefs actorRole)

/-- The steps of a request that read the store. -/
def readStore (s : Service) (actorRole : ActorRole) (request : CreateAnsibleJobRequest)
    (now : Timestamp) : Phase → Option Phase
  | .arrived =>
    match resolveAnsibleTarget (s.store.view request) request with
    | .error error => some (.answered (.error error))
    | .ok resolved => some (.resolved resolved)
  | .resolved resolved =>
    match validateWindowsAgentOperation (s.store.view request) resolved.target request.operation
        request.parameters with
    | .error error => some (.answered (.error error))
    | .ok () => some (.windowsChecked resolved)
  | .windowsChecked resolved =>
    match checkPolicy (s.store.view request) request resolved.target with
    | .error error => some (.answered (.error error))
    | .ok none => some (s.validatedPhase actorRole request resolved)
    | .ok (some policy) => some (.policyLoaded resolved policy)
  | .policyLoaded resolved policy =>
    match resolved.target with
    | .target targetId =>
      match checkPackages (s.store.view request) request targetId policy now with
      | .error error => some (.answered (.error error))
      | .ok none => some (s.validatedPhase actorRole request resolved)
      | .ok (some planId) => some (.planNamed resolved policy planId)
    | _ => none
  | _ => none

/-- The steps of a request that read jobs. -/
def readJobs (s : Service) (actorRole : ActorRole) (request : CreateAnsibleJobRequest) :
    Phase → Option Phase
  | .planNamed resolved policy planId =>
    match s.findJob planId with
    | none => some (.answered (.error (.notFound
        (if s.database.isSome then "package plan not found" else "ansible job not found"))))
    | some plan =>
      if planMatchesRequest plan request resolved.target policy.id then
        some (.planMatched resolved policy planId)
      else some (.answered (.error (.conflict "package_plan_mismatch"
        "the approved plan must be successful and match the exact target and package list")))
  | .planMatched resolved _ planId =>
    if s.jobList.any (usesPlan planId) then
      some (.answered (.error (.conflict "package_plan_already_used"
        "this plan already has an apply attempt; create a fresh plan before resuming")))
    else some (s.validatedPhase actorRole request resolved)
  | .validated job =>
    match s.database with
    -- without a database there is nothing to look up before the active jobs
    | none => some (.unblocked job)
    | some db =>
      match db.findByIdempotencyKey job.target job.idempotencyKey with
      | some existing => some (.answered (.ok (200, existing)))
      | none => some (.keyUnused job)
  | .keyUnused job => s.database.bind fun db =>
    if db.hasActiveTarget job.target then
      some (.answered (.error (.conflict "ansible_target_busy"
        "another job is active for this target")))
    else some (.notActive job)
  | .notActive job => s.database.bind fun db =>
    if db.hasReconciliationRequiredTarget job.target then some (.unresolved job)
    else some (.unblocked job)
  | .unresolved job =>
    let message := "target requires reconciliation before another workflow can start"
    match findActiveTargetJob s.jobList job.target none with
    | some blocking => some (.answered (.error (blockedBy message blocking)))
    | none => some (.answered (.error (.conflict "ansible_target_busy" message)))
  | .unblocked job =>
    match findActiveTargetJob s.jobList job.target none with
    | some blocking => some (.answered (.error
        (blockedBy "another job is active for this target" blocking)))
    | none => some (.free job)
  | _ => none

/-- The steps of a reconciliation up to its submission. -/
def readSource (s : Service) (actorRole : ActorRole) (sourceId : AnsibleJobId) :
    Phase → Option Phase
  | .arrived =>
    match s.findJob sourceId with
    | none => some (.answered (.error (.notFound "ansible job not found")))
    | some source =>
      match requirePermission actorRole
          (PlaybookRegistry.resolve source.operation).action.permission with
      | .error error => some (.answered (.error error))
      | .ok () =>
        if !source.canBeReconciled then
          some (.answered (.error (mapAnsibleError .reconcileNotAllowed)))
        else some (.sourceLoaded source)
  | .sourceLoaded source =>
    match s.database with
    | none => some (.sourceUnused source)
    | some db =>
      match db.findByIdempotencyKey source.target (reconcileIdempotencyKey sourceId) with
      | some existing => some (.answered (.ok (200, existing)))
      | none => some (.sourceUnused source)
  | .sourceUnused source =>
    match findActiveTargetJob s.jobList source.target (some source.id) with
    | some blocking => some (.answered (.error
        (blockedBy "another job is executing for this target" blocking)))
    | none => some (.sourceFree source)
  | _ => none

/-- The coordinator has made a job: it is saved next, or accepted without a database. -/
def afterCreated (s : Service) (call : Call) (job : AnsibleJob) : Service × Phase :=
  let s := { s with made := s.made.put job.id (call, job) }
  if s.database.isSome then (s, .created job) else (s.accept call job, .answered (.ok (202, job)))

/-- `AnsibleJobCoordinator::submit`. -/
def submit (s : Service) (call : Call) (request : AnsibleJobRequest) (input : Input) :
    Service × Phase :=
  match s.coordinator.submit request input.newId input.now with
  | .error error => (s, .answered (.error (mapAnsibleError error)))
  | .ok (.created job, coordinator) => afterCreated { s with coordinator := coordinator } call job
  | .ok (.duplicate job, coordinator) =>
    ({ s with coordinator := coordinator }.accept call job, .answered (.ok (200, job)))

/-- `submit_persisted_reconciliation`, or `submit_reconciliation` without a database.  In
persistent mode a duplicate is saved once more. -/
def submitSource (s : Service) (call : Call) (source : AnsibleJob) (input : Input) :
    Service × Phase :=
  match s.coordinator.submitReconciliationWithLock source s.database.isNone input.newId
      input.now with
  | .error error => (s, .answered (.error (mapAnsibleError error)))
  | .ok (.created job, coordinator) => afterCreated { s with coordinator := coordinator } call job
  | .ok (.duplicate job, coordinator) =>
    ({ s with coordinator := coordinator },
      if s.database.isSome then .created job else .answered (.ok (200, job)))

/-- The events that are left to insert. -/
def appendPhase (job : AnsibleJob) : List JobEvent → Phase
  | [] => .answered (.ok (202, job))
  | events => .appending job events

/-- `persist_created_job`, one access after the other; an enrollment inserts the job only. -/
def persist (s : Service) (call : Call) (fails : Bool) : Phase → Option (Service × Phase)
  | .created job => s.database.map fun db =>
    match JobTable.save db.targets db.jobs job with
    | .error _ => (s, .answered (.error .storage))
    | .ok jobs =>
      if fails then (s, .answered (.error .storage))
      else
        let s := { s with database := some { db with jobs := jobs } }.accept call job
        match call with
        | .produce (.enrollment ..) => (s, .answered (.ok (202, job)))
        | _ => (s, .saved job)
  | .saved job =>
    match s.coordinator.jobs.get job.id with
    | none => some (s, .answered (.error (mapAnsibleError .notFound)))
    | some _ => some (s, appendPhase job (s.coordinator.eventsOf job.id))
  | .appending job (event :: events) => s.database.map fun db =>
    match db.appendEvent event with
    | .error _ => (s, .answered (.error .storage))
    | .ok db =>
      if fails then (s, .answered (.error .storage))
      else ({ s with database := some db }, appendPhase job events)
  | _ => none

/-- A request that is answered with a job is accepted with it. -/
def answer (s : Service) (call : Call) : Phase → Service × Phase
  | .answered (.ok (status, job)) => (s.accept call job, .answered (.ok (status, job)))
  | phase => (s, phase)

/-- The next access of a call that is not yet at its submission. -/
def read (s : Service) (call : Call) (now : Timestamp) (phase : Phase) : Option Phase :=
  match call with
  | .create actorRole request =>
    if phase.readsStore then s.readStore actorRole request now phase
    else s.readJobs actorRole request phase
  | .reconcile actorRole sourceId => s.readSource actorRole sourceId phase
  | .produce producer =>
    match phase with
    | .arrived => (producer.request s.store).map .free
    | _ => none

/-- The access fails: it goes to the database and the database does not answer. -/
def readFails (s : Service) (call : Call) (phase : Phase) (fails : Bool) : Bool :=
  match call with
  | .create .. => s.database.isSome && fails && !phase.readsStore
  | .reconcile .. => s.database.isSome && fails
  | .produce _ => false

/-- The next access of a call. -/
def next (s : Service) (call : Call) (input : Input) (phase : Phase) : Option (Service × Phase) :=
  match phase with
  | .free request => some (s.submit call request input)
  | .sourceFree source => some (s.submitSource call source input)
  | .created _ | .saved _ | .appending _ _ => s.persist call input.fails phase
  | .answered _ => none
  | phase =>
    if s.readFails call phase input.fails then some (s, .answered (.error .storage))
    else (s.read call input.now phase).map (s.answer call)

/-- One step of a process.  The id it gets has never been used. -/
def advance (s : Service) (n : Nat) (input : Input) : Option Service :=
  match s.processes.get n with
  | none => none
  | some p =>
    if (s.made.get input.newId).isSome then none
    else (s.next p.call input p.phase).map fun (s', phase) =>
      { s' with processes :=
          s'.processes.put n { p with phase := phase, reads := p.readsAfter s.store } }

/-! ### The rest of the system -/

/-- A call arrives. -/
def arrive (s : Service) (n : Nat) (call : Call) : Option Service :=
  if (s.processes.get n).isSome then none
  else some { s with processes := s.processes.put n ⟨call, .arrived, []⟩ }

/-- The calls by which jobs make progress in a server without a database. -/
def isProgress : CoordinatorOp → Bool
  | .transition .. | .retry .. => true
  | .recordEvent _ event _ => event.status?.isNone
  | _ => false

/-- A job makes progress in the coordinator. -/
def coordinate (s : Service) (op : CoordinatorOp) : Option Service :=
  if s.database.isNone && isProgress op then some { s with coordinator := op.run s.coordinator }
  else none

/-- A job makes progress in the database. -/
def progress (s : Service) (id : AnsibleJobId) (path : List AnsibleJobStatus)
    (now : Timestamp) : Option Service := do
  let db ← s.database
  let job ← db.jobs.get id
  let job' ← (job.transitionsTo path now).toOption
  let jobs ← (db.jobs.update job').toOption
  return { s with database := some { db with jobs := jobs } }

/-- A target is registered or changed.  The id of a deleted target does not come back. -/
def putTarget (s : Service) (target : Target) : Option Service :=
  if target.id ∈ s.deletedTargets then none
  else some { s with
    store := { s.store with
      targets := s.store.targets.filter (fun other => other.id ≠ target.id) ++ [target] }
    database := s.database.map fun db =>
      { db with targets := db.targets.put target.id target } }

/-- A container is discovered or managed. -/
def putContainer (s : Service) (id : ContainerId) (state : ContainerManagementState) : Service :=
  { s with store := { s.store with
      containers := s.store.containers.filter (fun other => other.1 ≠ id) ++ [(id, state)] } }

/-- `create_update_policy`. -/
def createUpdatePolicy (s : Service) (request : CreateUpdatePolicyRequest) : Option Service :=
  match validateUpdatePolicyRequest request with
  | .error _ => none
  | .ok () =>
    if s.store.updatePolicies.any (fun policy => policy.id = request.id)
        || request.allowedTargets.any fun id => !s.store.targets.any fun target => target.id = id
    then none
    else some { s with
      store := { s.store with updatePolicies := s.store.updatePolicies ++ [request.policy] }
      policyIds := s.policyIds ++ [request.id] }

/-- `ensure_default_update_policies`: the standard policy for the targets there are. -/
def ensureDefaultUpdatePolicy (s : Service) : Service :=
  { s with
    store := { s.store with
      updatePolicies := s.store.updatePolicies.filter
          (fun policy => policy.id ≠ standardUpdatePolicyId)
        ++ [defaultUpdatePolicy (s.store.targets.map (·.id))] }
    policyIds := s.policyIds ++ [standardUpdatePolicyId] }

/-- `delete_update_policy`. -/
def deleteUpdatePolicy (s : Service) (id : String) : Service :=
  { s with store := { s.store with
      updatePolicies := s.store.updatePolicies.filter fun policy => policy.id ≠ id } }

/-- The store without a target. -/
def storeWithout (store : WorkflowStore) (id : TargetId) : WorkflowStore :=
  let removed := removedPolicyIds id store.updatePolicies
  { store with
    targets := store.targets.filter fun target => target.id ≠ id
    updatePolicies := (store.updatePolicies.map (·.withoutTarget id)).filter fun policy =>
      policy.id ∉ removed }

/-- The target is gone, with its jobs. -/
def withoutTarget (s : Service) (id : TargetId) : Service :=
  { s with
    store := storeWithout s.store id
    coordinator := s.coordinator.withoutJobsOf id
    database := s.database.map fun db => db.withoutTarget id
    deletedTargets := s.deletedTargets ++ [id] }

/-- The target is not there or has work under way. -/
def deletionBlocked (s : Service) (id : TargetId) : Bool :=
  s.coordinator.targetHasActiveJobs id
    || !(s.store.targets.any fun target => target.id = id)
    || match s.database with
      | none => false
      | some db => (db.targets.get id).isNone || db.jobs.any fun job =>
          job.target = .target id && Database.blocksDeletion job.status

/-- `delete_target`.  The locks of the coordinator and of the store are held throughout, so that
it is one step; jobs and their events go with their target. -/
def deleteTarget (s : Service) (id : TargetId) : Option Service :=
  if s.deletionBlocked id then none else some (s.withoutTarget id)

end Service

/-! ### Runs -/

/-- The steps of the system. -/
inductive ServiceAction
  | arrive (n : Nat) (call : Call)
  | advance (n : Nat) (input : Input)
  | coordinate (op : CoordinatorOp)
  | progress (id : AnsibleJobId) (path : List AnsibleJobStatus) (now : Timestamp)
  | putTarget (target : Target)
  | putContainer (id : ContainerId) (state : ContainerManagementState)
  | createUpdatePolicy (request : CreateUpdatePolicyRequest)
  | ensureDefaultUpdatePolicy
  | deleteUpdatePolicy (id : String)
  | deleteTarget (id : TargetId)

/-- One step of the system. -/
def Service.step (s : Service) : ServiceAction → Option Service
  | .arrive n call => s.arrive n call
  | .advance n input => s.advance n input
  | .coordinate op => s.coordinate op
  | .progress id path now => s.progress id path now
  | .putTarget target => s.putTarget target
  | .putContainer id state => some (s.putContainer id state)
  | .createUpdatePolicy request => s.createUpdatePolicy request
  | .ensureDefaultUpdatePolicy => some s.ensureDefaultUpdatePolicy
  | .deleteUpdatePolicy id => some (s.deleteUpdatePolicy id)
  | .deleteTarget id => s.deleteTarget id

/-- The service before the first step, with an empty database or without one. -/
def Service.fresh (configured : Except ApiError (List SecretId)) (persistent : Bool) : Service where
  store := ⟨[], [], []⟩
  configured := configured
  coordinator := .default
  database := if persistent then some ⟨∅, .empty, ∅⟩ else none
  processes := ∅
  made := ∅
  accepted := []
  policyIds := []
  deletedTargets := []

/-- The runs of the service, in either mode. -/
def serviceMachine : Machine Service ServiceAction where
  init s := ∃ configured persistent, s = .fresh configured persistent
  step := Service.step

/-! ### Requests for the runs of examples -/

/-- A policy without limits for the sample target. -/
def openPolicy (id : String) : CreateUpdatePolicyRequest where
  id := id
  allowedTargets := [⟨⟨7⟩⟩]
  allowedPackages := []
  maintenanceStartMinute := 0
  maintenanceEndMinute := 1439
  timezone := "UTC"
  maximumRisk := .high
  enabled := true

/-- A health check of the sample target. -/
def healthCheckUnder (key : String) : CreateAnsibleJobRequest where
  operation := .healthCheck
  targetId := some ⟨⟨7⟩⟩
  containerId := 0
  mode := .check
  parameters := .healthCheck
  idempotencyKey := key
  confirmed := false
  policyId := none
  approvedPlanJobId := none

/-- A plan for the update of one package on the sample target. -/
def planUnder (policyId key : String) : CreateAnsibleJobRequest :=
  { healthCheckUnder key with
    operation := .updatePackages
    mode := .plan
    parameters := .updatePackages ["curl"]
    policyId := some policyId }

/-- The application of a plan to the sample target. -/
def applyUnder (policyId key : String) (planId : AnsibleJobId) : CreateAnsibleJobRequest :=
  { planUnder policyId key with
    mode := .apply
    confirmed := true
    approvedPlanJobId := some planId }

/-- A repair of the agent of the sample target. -/
def repairUnder (key : String) : CreateAnsibleJobRequest :=
  { healthCheckUnder key with
    operation := .repairAgent
    mode := .apply
    parameters := .repairAgent
    confirmed := true }

/-- The key of an application of the first job. -/
def applyKey (suffix : String) : String := applyKeyPrefix ⟨⟨1⟩⟩ ++ suffix

/-- A process takes a number of steps, with the given new id. -/
def advances (n count : Nat) (newId : AnsibleJobId) : List ServiceAction :=
  List.replicate count (.advance n ⟨0, newId, false⟩)

/-- A request arrives and takes a number of steps. -/
def sends (n count : Nat) (newId : AnsibleJobId) (request : CreateAnsibleJobRequest) :
    List ServiceAction :=
  .arrive n (.create .admin request) :: advances n count newId

/-- The sample target is registered, with policies of the given ids. -/
def setUp (policyIds : List String) : List ServiceAction :=
  .putTarget (sampleTarget .linuxServer .ssh) ::
    policyIds.map fun id => .createUpdatePolicy (openPolicy id)

/-- The service of the runs of examples, with one secret in its environment. -/
def sampleService (persistent : Bool) : Service := .fresh (.ok [⟨⟨5⟩⟩]) persistent

/-- A job goes through the given states without a database. -/
def goesThrough (id : AnsibleJobId) (path : List AnsibleJobStatus) : List ServiceAction :=
  path.map fun status => .coordinate (.transition id status 0)

end Lxcup.Submission
