import Lxcup.Lib.Outcome
import Lxcup.Server.PackagePolicy
import Lxcup.Server.WindowsWorkflows

/-!
# Who queues jobs, and who can claim them

Jobs are queued by requests (`create_ansible_job`), by the reconciliation of another job, and
by the server itself: enrollments, the follow-ups of a deployment and of a package update, the
reconfiguration of agents after a token rotation, and the schedules.  Two queries claim
them: that of the worker, which leaves out Windows targets, and that of a Windows agent, which
takes four operations only and needs the agent transport.

A request is checked against these limits; of the other paths only enrollments are, since
they need an LXC target.

## Main definitions

* `Producer`, `Producer.request` — the jobs that the server queues itself.
* `JobPath`, `JobPath.job` — every path on which a job is queued.
* `workerClaims`, `windowsAgentClaims`, `ClaimedByOne`.
* `JobPath.Claimable` — the condition on the path and the target of a job.

## Main results

* `claimedByOne_iff` — a queued job of an idle target can be claimed by exactly one executor
  if and only if its path and target meet the condition.
* `rotated_windows_agent_orphaned` — the reconfiguration of a Windows agent is for nobody.
-/

namespace Lxcup.Server

open Lxcup.Lib Lxcup.Core Lxcup.Ansible Lxcup.Agent Lxcup.Persistence

/-! ### The server's own jobs -/

/-- The text of an id in a key. -/
def idText (uuid : Uuid) : String := String.ofList uuid.toText

/-- What the server queues on its own, with the data it does it from. -/
inductive Producer
  /-- `queue_enrollment_job`. -/
  | enrollment (targetId : TargetId) (enrollmentId : EnrollmentId)
  /-- `ensure_deployment_followups`, the health check. -/
  | deploymentHealth (deployment : AnsibleJob)
  /-- `ensure_deployment_followups`, the inventory. -/
  | deploymentInventory (deployment : AnsibleJob)
  /-- `queue_package_inventory_followup`. -/
  | packageInventory (update : AnsibleJob)
  /-- `queue_agent_reconfiguration`, for a target that was read before. -/
  | reconfiguration (target : Target) (rotation : Uuid)
  /-- `dispatch_scheduled_target`. -/
  | scheduled (schedule : JobSchedule) (targetId : TargetId) (now : Timestamp)
  deriving DecidableEq, Repr

/-- The rest of a key after a prefix. -/
def stripKeyPrefix (pre key : String) : Option String :=
  (stripPrefix pre.toList key.toList).map String.ofList

/-- The keys of the health check and of the inventory after a deployment. -/
def followupKeys (deploymentKey : String) : Option (String × String) :=
  match stripKeyPrefix "enrollment-" deploymentKey with
  | some id => some ("enrollment-health-" ++ id, "enrollment-packages-" ++ id)
  | none =>
    match stripKeyPrefix "onboarding-deploy-" deploymentKey with
    | some id => some ("onboarding-health-" ++ id, "onboarding-inventory-" ++ id)
    | none =>
      (stripKeyPrefix "agent-token-reconfiguration-" deploymentKey).map fun id =>
        ("agent-token-health-" ++ id, "agent-token-inventory-" ++ id)

/-- A registered target that is managed. -/
def WorkflowStore.managedTarget (store : WorkflowStore) (target : ResourceTarget) :
    Option Target :=
  match target with
  | .target id => store.targets.find? fun target => target.id = id && target.state = .managed
  | _ => none

/-- The request for the deployment of an agent. -/
def deployAgentRequest (target : Target) (lifecycle : ResourceLifecycle) (version key : String)
    (actorRole : ActorRole) : AnsibleJobRequest where
  operation := .deployAgent
  target := .target target.id
  lifecycle := lifecycle
  mode := .apply
  parameters := .deployAgent version
  secretRefs := target.deploymentSecretRefs
  idempotencyKey := key
  confirmed := true
  actorRole := actorRole

/-- The request for a check of a managed target. -/
def checkRequest (target : Target) (operation : AnsibleOperation) (parameters : AnsibleParameters)
    (secretRefs : List SecretId) (key : String) : AnsibleJobRequest where
  operation := operation
  target := .target target.id
  lifecycle := .managed
  mode := .check
  parameters := parameters
  secretRefs := secretRefs
  idempotencyKey := key
  confirmed := true
  actorRole := .operator

/-- The request for a health check by the server. -/
def healthRequest (target : Target) (key : String) : AnsibleJobRequest :=
  checkRequest target .healthCheck .healthCheck [] key

/-- The request for an inventory by the server. -/
def inventoryRequest (target : Target) (key : String) : AnsibleJobRequest :=
  checkRequest target .collectPackageInventory .collectPackageInventory
    target.workflowAuthSecretRef.toList key

/-- `scheduled_update_parameters`: the packages of a scheduled update. -/
def scheduledUpdatePackages (store : WorkflowStore) (schedule : JobSchedule) (target : Target)
    (now : Timestamp) : Option (List String) := do
  let policyId ← schedule.policyId
  let policy ← store.updatePolicies.find? fun policy => policy.id = policyId
  let packages := policy.allowedPackages
  guard (packages ≠ [])
  guard !(target.kind = .windowsServer && packages.any fun package => !safeWingetId package)
  guard (policy.enabled && policy.allowedTargets.contains target.id
    && packages.all fun package => policy.allows target.id package .high now)
  return packages

/-- `scheduled_job_request`, for a managed target.  The threshold of a schedule and a job that
is active only put a run off. -/
def scheduledJobRequest (store : WorkflowStore) (schedule : JobSchedule) (target : Target)
    (now : Timestamp) : Option AnsibleJobRequest :=
  let key := "schedule-" ++ schedule.id ++ "-" ++ idText target.id.uuid ++ "-"
    ++ toString (schedule.nextRunAt / 1000000000)
  match schedule.operation with
  | "health_check" => some (healthRequest target key)
  | "collect_package_inventory" =>
    target.workflowAuthSecretRef.map fun secret =>
      checkRequest target .collectPackageInventory .collectPackageInventory [secret] key
  | "update_packages" => do
    let packages ← scheduledUpdatePackages store schedule target now
    let secret ← target.workflowAuthSecretRef
    return { checkRequest target .updatePackages (.updatePackages packages) [secret] key with
      mode := .plan }
  -- backups and Docker discoveries are no jobs
  | _ => none

/-- The request that a producer submits, if there is something to submit. -/
def Producer.request (store : WorkflowStore) : Producer → Option AnsibleJobRequest
  | .enrollment targetId enrollmentId => do
    -- the target was found to be an LXC when the enrollment was created
    let target ← store.targets.find? fun target => target.id = targetId && target.kind = .lxc
    return deployAgentRequest target (targetLifecycle target.state) "0.3.1"
      ("enrollment-" ++ idText enrollmentId.uuid) .operator
  | .deploymentHealth deployment => do
    guard (deployment.status = .succeeded)
    let target ← store.managedTarget deployment.target
    let keys ← followupKeys deployment.idempotencyKey
    return healthRequest target keys.1
  | .deploymentInventory deployment => do
    guard (deployment.status = .succeeded)
    let target ← store.managedTarget deployment.target
    let keys ← followupKeys deployment.idempotencyKey
    return inventoryRequest target keys.2
  | .packageInventory update => do
    let target ← store.managedTarget update.target
    return inventoryRequest target ("package-update-inventory-" ++ idText update.id.uuid)
  | .reconfiguration target rotation => do
    guard (target.state ≠ .disabled)
    return deployAgentRequest target .pending cargoPkgVersion
      ("agent-token-reconfiguration-" ++ idText rotation) .admin
  | .scheduled schedule targetId now => do
    let target ← store.managedTarget (.target targetId)
    scheduledJobRequest store schedule target now

/-- A scheduled job is a check or a plan that a Windows agent can carry out, too. -/
theorem scheduledJobRequest_some {store : WorkflowStore} {schedule : JobSchedule}
    {target : Target} {now : Timestamp} {request : AnsibleJobRequest}
    (h : scheduledJobRequest store schedule target now = some request) :
    JobTable.isWindowsAgentOperation request.operation = true ∧
      (request.mode ≠ .reconcile ∧ request.mode ≠ .apply) ∧
      (∃ rest, request.idempotencyKey = "schedule-" ++ rest) ∧
      request.target = .target target.id := by
  have hkey : ∀ a b c d : String, "schedule-" ++ a ++ b ++ c ++ b ++ d
      = "schedule-" ++ (a ++ b ++ c ++ b ++ d) := by
    intro a b c d
    simp only [String.append_assoc]
  unfold scheduledJobRequest at h
  dsimp only at h
  split at h
  · obtain rfl := Option.some.inj h
    exact ⟨rfl, by simp [healthRequest, checkRequest], ⟨_, hkey ..⟩, rfl⟩
  · obtain ⟨secret, -, rfl⟩ := Option.map_eq_some_iff.mp h
    exact ⟨rfl, by simp [checkRequest], ⟨_, hkey ..⟩, rfl⟩
  · simp only [Option.bind_eq_bind, Option.bind_eq_some_iff, pure, Option.some.injEq] at h
    obtain ⟨packages, -, secret, -, rfl⟩ := h
    exact ⟨rfl, by simp, ⟨_, hkey ..⟩, rfl⟩
  · cases h

/-! ### The keys of the server's own jobs -/

/-- The beginnings of the keys that the server makes itself. -/
def producerKeyPrefixes : List String :=
  ["enrollment-", "onboarding-", "agent-token-", "package-update-inventory-", "schedule-"]

/-- The key is one that the server makes itself. -/
def isProducerKey (key : String) : Prop :=
  ∃ pre ∈ producerKeyPrefixes, startsWith key pre = true

theorem startsWith_append (pre rest : String) : startsWith (pre ++ rest) pre = true := by
  rw [startsWith_iff, String.toList_append]
  exact List.prefix_append _ _

/-- A key of the server begins differently from the keys of package updates and
reconciliations. -/
theorem not_startsWith_of_isProducerKey {key pre : String} (h : isProducerKey key)
    (hpre : pre ∈ ["package-plan:", "package-apply:", reconcileKeyPrefix]) :
    startsWith key pre = false := by
  obtain ⟨own, hown, hkey⟩ := h
  by_contra hboth
  rw [Bool.not_eq_false] at hboth
  rw [startsWith_iff] at hkey hboth
  -- neither beginning is a beginning of the other
  have hapart : ∀ own ∈ producerKeyPrefixes,
      ∀ pre ∈ ["package-plan:", "package-apply:", reconcileKeyPrefix],
        ¬ own.toList <+: pre.toList ∧ ¬ pre.toList <+: own.toList := by
    decide
  obtain ⟨hne, hne'⟩ := hapart own hown pre hpre
  rcases List.prefix_or_prefix_of_prefix hkey hboth with h | h
  · exact hne h
  · exact hne' h

theorem isProducerKey_of_append {pre key : String} (rest : String) (h : key = pre ++ rest)
    (hpre : pre ∈ producerKeyPrefixes) : isProducerKey key := by
  rw [h]
  exact ⟨pre, hpre, startsWith_append pre rest⟩

theorem isProducerKey_followupKeys {key : String} {keys : String × String}
    (h : followupKeys key = some keys) : isProducerKey keys.1 ∧ isProducerKey keys.2 := by
  have hsplit : ∀ a b c : String, a ++ b ++ c = a ++ (b ++ c) := fun a b c => String.append_assoc
  unfold followupKeys at h
  split at h
  · rename_i id _
    obtain rfl := Option.some.inj h
    exact ⟨isProducerKey_of_append ("health-" ++ id) (hsplit "enrollment-" "health-" id)
        (by decide),
      isProducerKey_of_append ("packages-" ++ id) (hsplit "enrollment-" "packages-" id)
        (by decide)⟩
  · split at h
    · rename_i id _
      obtain rfl := Option.some.inj h
      exact ⟨isProducerKey_of_append ("health-" ++ id) (hsplit "onboarding-" "health-" id)
          (by decide),
        isProducerKey_of_append ("inventory-" ++ id) (hsplit "onboarding-" "inventory-" id)
          (by decide)⟩
    · obtain ⟨id, -, rfl⟩ := Option.map_eq_some_iff.mp h
      exact ⟨isProducerKey_of_append ("health-" ++ id) (hsplit "agent-token-" "health-" id)
          (by decide),
        isProducerKey_of_append ("inventory-" ++ id) (hsplit "agent-token-" "inventory-" id)
          (by decide)⟩

/-- What is known of the target and the operation of a producer's job. -/
def Producer.Suits (store : WorkflowStore) (target : Target) (operation : AnsibleOperation) :
    Producer → Prop
  | .enrollment .. => target ∈ store.targets ∧ target.kind = .lxc
  | .reconfiguration .. => operation = .deployAgent
  | _ => JobTable.isWindowsAgentOperation operation = true

/-- **What a producer submits**: a job of a registered target, under a key of the server, and no
application of a package plan. -/
theorem Producer.request_some {store : WorkflowStore} {producer : Producer}
    {submitted : AnsibleJobRequest} (h : producer.request store = some submitted) :
    ∃ target : Target, submitted.target = .target target.id ∧
      producer.Suits store target submitted.operation ∧ isProducerKey submitted.idempotencyKey ∧
      submitted.mode ≠ .reconcile ∧
      ¬ (submitted.operation = .updatePackages ∧ submitted.mode = .apply) := by
  cases producer with
  | enrollment targetId enrollmentId =>
    simp only [request, Option.bind_eq_bind, Option.bind_eq_some_iff, pure, Option.some.injEq] at h
    obtain ⟨target, hfound, rfl⟩ := h
    have hkind := List.find?_some hfound
    simp only [Bool.and_eq_true, decide_eq_true_eq] at hkind
    exact ⟨target, rfl, ⟨List.mem_of_find?_eq_some hfound, hkind.2⟩,
      isProducerKey_of_append _ rfl (by decide), by simp [deployAgentRequest],
      by simp [deployAgentRequest]⟩
  | deploymentHealth deployment =>
    simp only [request, Option.bind_eq_bind, Option.bind_eq_some_iff, pure, Option.some.injEq] at h
    obtain ⟨-, -, target, -, keys, hkeys, rfl⟩ := h
    exact ⟨target, rfl, rfl, (isProducerKey_followupKeys hkeys).1,
      by simp [healthRequest, checkRequest], by simp [healthRequest, checkRequest]⟩
  | deploymentInventory deployment =>
    simp only [request, Option.bind_eq_bind, Option.bind_eq_some_iff, pure, Option.some.injEq] at h
    obtain ⟨-, -, target, -, keys, hkeys, rfl⟩ := h
    exact ⟨target, rfl, rfl, (isProducerKey_followupKeys hkeys).2,
      by simp [inventoryRequest, checkRequest], by simp [inventoryRequest, checkRequest]⟩
  | packageInventory update =>
    simp only [request, Option.bind_eq_bind, Option.bind_eq_some_iff, pure, Option.some.injEq] at h
    obtain ⟨target, -, rfl⟩ := h
    exact ⟨target, rfl, rfl, isProducerKey_of_append _ rfl (by decide),
      by simp [inventoryRequest, checkRequest], by simp [inventoryRequest, checkRequest]⟩
  | reconfiguration target rotation =>
    simp only [request, Option.bind_eq_bind, Option.bind_eq_some_iff, pure, Option.some.injEq] at h
    obtain ⟨-, -, rfl⟩ := h
    have hkey : "agent-token-reconfiguration-" ++ idText rotation
        = "agent-token-" ++ ("reconfiguration-" ++ idText rotation) := by
      rw [← String.append_assoc]
      rfl
    exact ⟨target, rfl, rfl, isProducerKey_of_append _ hkey (by decide),
      by simp [deployAgentRequest], by simp [deployAgentRequest]⟩
  | scheduled schedule targetId now =>
    simp only [request, Option.bind_eq_bind, Option.bind_eq_some_iff] at h
    obtain ⟨target, -, h⟩ := h
    obtain ⟨hoperation, hmode, ⟨rest, hkey⟩, htarget⟩ := scheduledJobRequest_some h
    refine ⟨target, htarget, hoperation, isProducerKey_of_append rest hkey (by decide), ?_, ?_⟩
    · exact hmode.1
    · exact fun happly => hmode.2 happly.2

/-! ### Every path, and both claims -/

/-- The paths on which jobs are queued. -/
inductive JobPath
  /-- `create_ansible_job`; the secrets of the server's environment and the role of the actor. -/
  | create (configured : Except ApiError (List SecretId)) (actorRole : ActorRole)
      (request : CreateAnsibleJobRequest)
  /-- The server itself. -/
  | server (producer : Producer)
  /-- `reconcile_ansible_job`. -/
  | reconciliation (source : AnsibleJob)

/-- The job that a path queues.  For a request, the checks on package updates are left out:
they only refuse more. -/
def JobPath.job (store : WorkflowStore) (newId : AnsibleJobId) (now : Timestamp) :
    JobPath → Option AnsibleJob
  | .create configured actorRole request => do
    let view := store.view request
    let resolved ← (resolveAnsibleTarget view request).toOption
    (validateWindowsAgentOperation view resolved.target request.operation
      request.parameters).toOption
    let secretRefs ← (resolveJobSecretRefs configured request.operation resolved.secretRef).toOption
    (AnsibleJob.fromRequest (request.jobRequest resolved secretRefs actorRole) newId now).toOption
  | .server producer => do
    let request ← producer.request store
    (AnsibleJob.fromRequest request newId now).toOption
  | .reconciliation source =>
    if source.canBeReconciled then
      some (AnsibleJobCoordinator.reconciliationOf source newId now)
    else none

/-- The worker's query takes the job. -/
def workerClaims (targets : Table TargetId Target) (jobs : JobTable) (job : AnsibleJob) : Bool :=
  JobTable.claimable targets jobs job

/-- The agent of the job's target may claim, and its query takes the job. -/
def windowsAgentClaims (targets : Table TargetId Target) (jobs : JobTable) (job : AnsibleJob) :
    Bool :=
  match job.target with
  | .target targetId =>
    isWindowsAgentTarget targets targetId && JobTable.windowsClaimable targets jobs targetId job
  | _ => false

/-- Exactly one executor can claim the job. -/
def ClaimedByOne (targets : Table TargetId Target) (jobs : JobTable) (job : AnsibleJob) : Prop :=
  (workerClaims targets jobs job = true ∧ windowsAgentClaims targets jobs job = false) ∨
    (workerClaims targets jobs job = false ∧ windowsAgentClaims targets jobs job = true)

/-- The target can have the job of the path done: it is not a Windows server, or it is one with
the agent transport and the operation is open to its agent.  Requests and enrollments have
been checked for that. -/
def JobPath.Claimable (target : Target) : JobPath → Prop
  | .create .. | .server (.enrollment ..) => True
  | .server (.reconfiguration ..) => target.kind ≠ .windowsServer
  | .server _ => target.kind = .windowsServer → target.transport = .agent
  | .reconciliation source => target.kind = .windowsServer →
    target.transport = .agent ∧ JobTable.isWindowsAgentOperation source.operation = true

/-- Once the target is idle, the kind and the transport of the target and the operation
decide. -/
theorem claimedByOne_of_idle {targets : Table TargetId Target} {jobs : JobTable}
    {job : AnsibleJob} {target : Target} (hrow : targets.get target.id = some target)
    (htarget : job.target = .target target.id) (hqueued : job.status = .queued)
    (hidle : JobTable.targetIdle jobs job.target = true)
    (hbarrier : JobTable.barrierOpen jobs job = true) :
    ClaimedByOne targets jobs job ↔ (target.kind = .windowsServer →
      target.transport = .agent ∧ JobTable.isWindowsAgentOperation job.operation = true) := by
  have hkind : JobTable.isWindows targets job.target = decide (target.kind = .windowsServer) := by
    rw [htarget]
    simp only [JobTable.isWindows, hrow]
  have hworker : workerClaims targets jobs job = !decide (target.kind = .windowsServer) := by
    simp [workerClaims, JobTable.claimable, hqueued, hidle, hbarrier, hkind]
  have hagent : windowsAgentClaims targets jobs job
      = (decide (target.kind = .windowsServer) && decide (target.transport = .agent)
        && JobTable.isWindowsAgentOperation job.operation) := by
    simp only [windowsAgentClaims, htarget, isWindowsAgentTarget, hrow,
      JobTable.windowsClaimable, hqueued, htarget ▸ hkind, htarget ▸ hidle]
    cases decide (target.kind = .windowsServer) <;>
      cases decide (target.transport = .agent) <;>
      cases JobTable.isWindowsAgentOperation job.operation <;> rfl
  rw [ClaimedByOne, hworker, hagent]
  by_cases hwindows : target.kind = .windowsServer
  · simp [hwindows]
  · simp [hwindows]

/-- The targets of the store have rows with the same kind and transport. -/
def Mirrored (store : WorkflowStore) (targets : Table TargetId Target) : Prop :=
  ∀ target ∈ store.targets, ∀ row, targets.get target.id = some row →
    row.kind = target.kind ∧ row.transport = target.transport

/-- A request that passed the check on Windows agents is for a target that can do it. -/
private theorem windows_of_validate {view : StoreView} {targetId : TargetId}
    {operation : AnsibleOperation} {parameters : AnsibleParameters}
    (h : validateWindowsAgentOperation view (.target targetId) operation parameters = .ok ()) :
    ∃ target, view.target = some target ∧ (target.kind = .windowsServer →
      target.transport = .agent ∧ JobTable.isWindowsAgentOperation operation = true) := by
  simp only [validateWindowsAgentOperation] at h
  split at h
  · cases h
  · rename_i target htarget
    refine ⟨target, htarget, fun hwindows => ?_⟩
    simp only [hwindows, ne_eq, not_true_eq_false, if_false] at h
    split at h
    · cases h
    · rename_i hopen
      simpa using hopen

/-- A request for a registered target sees the target of the store. -/
private theorem view_target {store : WorkflowStore} {request : CreateAnsibleJobRequest}
    {resolved : ResolvedTarget} {targetId : TargetId} {target : Target}
    (hresolved : resolveAnsibleTarget (store.view request) request = .ok resolved)
    (htarget : resolved.target = .target targetId)
    (hview : (store.view request).target = some target) :
    target ∈ store.targets ∧ target.id = targetId := by
  simp only [WorkflowStore.view, Option.bind_eq_some_iff] at hview
  obtain ⟨id, hid, hfound⟩ := hview
  have hsame := List.find?_some hfound
  have hresolves : resolved.target = .target id := by
    simp only [resolveAnsibleTarget, hid] at hresolved
    split at hresolved
    · cases hresolved
    · rw [← Except.ok.inj hresolved]
  rw [htarget] at hresolves
  have hids := ResourceTarget.target.inj hresolves
  exact ⟨List.mem_of_find?_eq_some hfound, (of_decide_eq_true hsame).trans hids.symm⟩

/-- What is known of a job by its path: it is queued, and by its operation and target it meets
the condition of the claims exactly when the path does. -/
theorem JobPath.job_some {store : WorkflowStore} {targets : Table TargetId Target}
    {path : JobPath} {newId : AnsibleJobId} {now : Timestamp} {job : AnsibleJob} {target : Target}
    (h : path.job store newId now = some job) (hmirror : Mirrored store targets)
    (hrow : targets.get target.id = some target) (htarget : job.target = .target target.id) :
    job.status = .queued ∧ ((target.kind = .windowsServer → target.transport = .agent ∧
      JobTable.isWindowsAgentOperation job.operation = true) ↔ path.Claimable target) := by
  cases path with
  | create configured actorRole request =>
    simp only [JobPath.job, Option.bind_eq_bind, Option.bind_eq_some_iff] at h
    obtain ⟨resolved, hresolved, _, hwindows, secretRefs, -, hjob⟩ := h
    obtain ⟨-, rfl⟩ := AnsibleJob.fromRequest_ok.mp (toOption_eq_some.mp hjob)
    have hresolvedTarget : resolved.target = .target target.id := htarget
    have hvalid := toOption_eq_some.mp hwindows
    rw [hresolvedTarget] at hvalid
    obtain ⟨seen, hseen, hsuits⟩ := windows_of_validate hvalid
    obtain ⟨hmem, hid⟩ := view_target (toOption_eq_some.mp hresolved) hresolvedTarget hseen
    obtain ⟨hkind, htransport⟩ := hmirror seen hmem target (hid ▸ hrow)
    rw [← hkind, ← htransport] at hsuits
    exact ⟨rfl, fun _ => trivial, fun _ => hsuits⟩
  | server producer =>
    simp only [JobPath.job, Option.bind_eq_bind, Option.bind_eq_some_iff] at h
    obtain ⟨submitted, hsubmitted, hjob⟩ := h
    obtain ⟨-, rfl⟩ := AnsibleJob.fromRequest_ok.mp (toOption_eq_some.mp hjob)
    obtain ⟨produced, hproduced, hsuits, -, -⟩ := Producer.request_some hsubmitted
    refine ⟨rfl, ?_⟩
    have hoperation : (AnsibleJob.queuedFor submitted newId now).operation
        = submitted.operation := rfl
    rw [hoperation]
    cases producer with
    | enrollment targetId enrollmentId =>
      have hid : produced.id = target.id :=
        ResourceTarget.target.inj (hproduced.symm.trans htarget)
      obtain ⟨hkind, -⟩ := hmirror produced hsuits.1 target (hid ▸ hrow)
      have hlinux : target.kind ≠ .windowsServer := by
        rw [hkind, hsuits.2]
        decide
      exact ⟨fun _ => trivial, fun _ hwindows => absurd hwindows hlinux⟩
    | reconfiguration read rotation =>
      have hdeploy : submitted.operation = .deployAgent := hsuits
      rw [hdeploy]
      simp [JobPath.Claimable, JobTable.isWindowsAgentOperation]
    | deploymentHealth deployment =>
      simp only [JobPath.Claimable, show JobTable.isWindowsAgentOperation _ = true from hsuits,
        and_true]
    | deploymentInventory deployment =>
      simp only [JobPath.Claimable, show JobTable.isWindowsAgentOperation _ = true from hsuits,
        and_true]
    | packageInventory update =>
      simp only [JobPath.Claimable, show JobTable.isWindowsAgentOperation _ = true from hsuits,
        and_true]
    | scheduled schedule targetId due =>
      simp only [JobPath.Claimable, show JobTable.isWindowsAgentOperation _ = true from hsuits,
        and_true]
  | reconciliation source =>
    simp only [JobPath.job] at h
    split at h
    · obtain rfl := Option.some.inj h
      exact ⟨rfl, Iff.rfl⟩
    · cases h

/-- **A queued job of an idle registered target can be claimed by exactly one executor if and
only if the target can have the job of that path done.** -/
theorem claimedByOne_iff {store : WorkflowStore} {targets : Table TargetId Target}
    {jobs : JobTable} {path : JobPath} {newId : AnsibleJobId} {now : Timestamp}
    {job : AnsibleJob} {target : Target}
    (h : path.job store newId now = some job) (hmirror : Mirrored store targets)
    (hrow : targets.get target.id = some target) (htarget : job.target = .target target.id)
    (hidle : JobTable.targetIdle jobs job.target = true)
    (hbarrier : JobTable.barrierOpen jobs job = true) :
    ClaimedByOne targets jobs job ↔ path.Claimable target := by
  obtain ⟨hqueued, hsuits⟩ := path.job_some h hmirror hrow htarget
  rw [claimedByOne_of_idle hrow htarget hqueued hidle hbarrier]
  exact hsuits

/-- A managed machine of the given kind and transport. -/
def sampleTarget (kind : TargetKind) (transport : TargetTransport) : Target where
  id := ⟨⟨7⟩⟩
  name := "host"
  kind := kind
  address := "192.0.2.1"
  transport := transport
  sshUser := none
  credentialSecretRef := none
  sshKnownHostsSecretRef := none
  agentSecretRef := ⟨⟨9⟩⟩
  state := .managed
  createdAt := 0
  updatedAt := 0

/-- A store with one target. -/
def storeWith (target : Target) : WorkflowStore := ⟨[target], [], []⟩

/-- The table of targets with one row. -/
def rowOf (target : Target) : Table TargetId Target := Table.put ∅ target.id target

theorem mirrored_rowOf (target : Target) : Mirrored (storeWith target) (rowOf target) := by
  intro other hother row hrow
  obtain rfl := List.mem_singleton.mp hother
  rw [rowOf, Table.get_put_self] at hrow
  obtain rfl := Option.some.inj hrow
  exact ⟨rfl, rfl⟩

/-- The agent of the target is to be set up again after its token was rotated. -/
def afterRotation (target : Target) : JobPath := .server (.reconfiguration target ⟨3⟩)

/-- The job that is queued then. -/
def rotationJob (target : Target) : AnsibleJob :=
  .queuedFor (deployAgentRequest target .pending cargoPkgVersion
    ("agent-token-reconfiguration-" ++ idText ⟨3⟩) .admin) ⟨⟨1⟩⟩ 0

theorem rotated_linux_agent_claimed :
    let target := sampleTarget .linuxServer .ssh
    ClaimedByOne (rowOf target) (JobTable.empty.put (rotationJob target)) (rotationJob target) := by
  intro target
  have hjob : (afterRotation target).job (storeWith target) ⟨⟨1⟩⟩ 0
      = some (rotationJob target) := by decide +kernel
  refine (claimedByOne_iff hjob (mirrored_rowOf target) (Table.get_put_self ..) rfl
    (by decide +kernel) (by decide +kernel)).mpr ?_
  change target.kind ≠ .windowsServer
  decide

theorem rotated_windows_agent_orphaned :
    let target := sampleTarget .windowsServer .agent
    let job := rotationJob target
    let jobs := JobTable.empty.put job
    (afterRotation target).job (storeWith target) ⟨⟨1⟩⟩ 0 = some job ∧
      JobTable.targetIdle jobs job.target = true ∧ JobTable.barrierOpen jobs job = true ∧
      ¬ ClaimedByOne (rowOf target) jobs job := by
  refine ⟨by decide +kernel, by decide +kernel, by decide +kernel, ?_⟩
  rintro (⟨hworker, -⟩ | ⟨-, hagent⟩)
  · exact absurd hworker (by decide +kernel)
  · exact absurd hagent (by decide +kernel)

end Lxcup.Server
