import Lxcup.Agent.Command
import Lxcup.Core.Schedule
import Lxcup.Server.Api

/-!
# Requests for jobs and the policies on package updates

What `create_ansible_job` checks before a job is submitted: the target of the request, the
operations open to Windows agents, and for package updates the policy, the packages and the
plan that an application refers to.  The binding of a plan to its policy, and of an
application to its plan, is not stored; it is a prefix of the idempotency key.

The checks read the store several times.  What one reading sees of the store is a
`StoreView`; the checks are functions of it.

## Main definitions

* `CreateAnsibleJobRequest`, `WorkflowStore`, `StoreView`.
* `resolveAnsibleTarget`, `validateWindowsAgentOperation`, `resolveJobSecretRefs`.
* `checkPolicy`, `checkPackages` — the two readings of `validate_package_update`.
* `planMatchesRequest`, `usesPlan` — which plan a request may apply, and which job applies it.
* `CreateUpdatePolicyRequest`, `validateUpdatePolicyRequest`.
* `policyIdsClash` — the one policy id begins with the other and a colon.

## Main results

* `checkPolicy_ok`, `checkPackages_ok` — what a request that passes the checks is.
* `applyKeyPrefix_inj` — a key applies one plan.
* `planKeyPrefix_inj` — a key is that of a plan under one policy, unless the ids clash.
-/

namespace Lxcup.Server

open Lxcup.Lib Lxcup.Core Lxcup.Ansible Lxcup.Agent Lxcup.Persistence

/-! ### Requests -/

/-- The body of a request for a job. -/
structure CreateAnsibleJobRequest where
  operation : AnsibleOperation
  targetId : Option TargetId
  /-- Zero when it is missing. -/
  containerId : UInt64
  mode : ExecutionMode
  parameters : AnsibleParameters
  idempotencyKey : String
  confirmed : Bool
  policyId : Option String
  approvedPlanJobId : Option AnsibleJobId
  deriving DecidableEq, Repr, Inhabited

/-- Whether a discovered container is under management. -/
inductive ContainerManagementState
  | discovered | managed | ignored | disabled
  deriving DecidableEq, Repr, Inhabited

/-- The part of the store that requests for jobs read. -/
structure WorkflowStore where
  targets : List Target
  containers : List (ContainerId × ContainerManagementState)
  updatePolicies : List UpdatePolicy
  deriving DecidableEq, Repr, Inhabited

/-- What a request sees of the store in one reading. -/
structure StoreView where
  target : Option Target
  container : Option ContainerManagementState
  /-- The policy of the request, if it is enabled. -/
  policy : Option UpdatePolicy
  deriving DecidableEq, Repr, Inhabited

/-- One reading of the store. -/
def WorkflowStore.view (store : WorkflowStore) (request : CreateAnsibleJobRequest) : StoreView where
  target := request.targetId.bind fun id => store.targets.find? fun target => target.id = id
  container := (store.containers.find? fun container => container.1 = ⟨request.containerId⟩).map
    (·.2)
  policy := request.policyId.bind fun id =>
    store.updatePolicies.find? fun policy => policy.id = id && policy.enabled

/-- What the target of a request is resolved to. -/
structure ResolvedTarget where
  target : ResourceTarget
  lifecycle : ResourceLifecycle
  secretRef : Option SecretId
  deriving DecidableEq, Repr, Inhabited

/-- The lifecycle of a target as a resource. -/
def targetLifecycle : TargetState → ResourceLifecycle
  | .pending => .pending
  | .managed => .managed
  | .disabled => .disabled

/-- The lifecycle of a container as a resource. -/
def containerLifecycle : ContainerManagementState → ResourceLifecycle
  | .discovered => .discovered
  | .managed => .managed
  | .ignored | .disabled => .disabled

/-- `resolve_ansible_target`. -/
def resolveAnsibleTarget (view : StoreView) (request : CreateAnsibleJobRequest) :
    Except ApiError ResolvedTarget :=
  match request.targetId with
  | some targetId =>
    match view.target with
    | none => .error (.notFound "target not found")
    | some target =>
      .ok ⟨.target targetId, targetLifecycle target.state, target.workflowAuthSecretRef⟩
  | none =>
    if request.containerId = 0 then
      .error (.badRequest "target_required" "target id must be provided")
    else
      match view.container with
      | none => .error (.notFound "container not found")
      | some state => .ok ⟨.container ⟨request.containerId⟩, containerLifecycle state, none⟩

/-- The version of the controller, `CARGO_PKG_VERSION`. -/
def cargoPkgVersion : String := "0.6.0"

/-- `validate_windows_agent_operation`; the check on versions is that of the agent. -/
def validateWindowsAgentOperation (view : StoreView) (target : ResourceTarget)
    (operation : AnsibleOperation) (parameters : AnsibleParameters) : Except ApiError Unit :=
  match target with
  | .target _ =>
    match view.target with
    | none => .error (.notFound "target not found")
    | some target =>
      if target.kind ≠ .windowsServer then .ok ()
      else if target.transport ≠ .agent || !JobTable.isWindowsAgentOperation operation then
        .error (.badRequest "windows_local_setup_required"
          "Windows agent installation and maintenance must use the local setup script or authenticated local-agent workflow; remote WinRM workflows are not supported")
      else if operation = .updateAgent && !(parameters = .updateAgent cargoPkgVersion
          && safeAgentVersion cargoPkgVersion) then
        .error (.badRequest "windows_agent_version_unsupported"
          "Windows agent workflows may update only to the controller's current version")
      else .ok ()
  | _ => .ok ()

/-- `resolve_job_secret_refs`; `configured` are the secrets of the server's environment. -/
def resolveJobSecretRefs (configured : Except ApiError (List SecretId))
    (operation : AnsibleOperation) (secretRef : Option SecretId) :
    Except ApiError (List SecretId) :=
  if operation = .healthCheck then .ok []
  else
    match secretRef with
    | some secret => .ok [secret]
    | none => configured

/-- The request to the coordinator that a request with a resolved target becomes. -/
def CreateAnsibleJobRequest.jobRequest (request : CreateAnsibleJobRequest)
    (resolved : ResolvedTarget) (secretRefs : List SecretId) (actorRole : ActorRole) :
    AnsibleJobRequest where
  operation := request.operation
  target := resolved.target
  lifecycle := resolved.lifecycle
  mode := request.mode
  parameters := request.parameters
  secretRefs := secretRefs
  idempotencyKey := request.idempotencyKey
  confirmed := request.confirmed
  actorRole := actorRole

/-! ### Keys of package updates -/

/-- The text begins with another. -/
def startsWith (text pre : String) : Bool := pre.toList.isPrefixOf text.toList

/-- The beginning of the keys of plans under a policy. -/
def planKeyPrefix (policyId : String) : String := "package-plan:" ++ policyId ++ ":"

/-- The beginning of the keys of applications of a plan. -/
def applyKeyPrefix (planId : AnsibleJobId) : String :=
  "package-apply:" ++ String.ofList planId.uuid.toText ++ ":"

/-- The plan is one that the request may apply under the policy. -/
def planMatchesRequest (plan : AnsibleJob) (request : CreateAnsibleJobRequest)
    (target : ResourceTarget) (policyId : String) : Bool :=
  plan.operation = .updatePackages && plan.mode = .plan && plan.status = .succeeded
    && plan.target = target && plan.parameters = request.parameters
    && startsWith plan.idempotencyKey (planKeyPrefix policyId)

/-- The job is an application of the plan, as `reject_reused_plan` looks for it. -/
def usesPlan (planId : AnsibleJobId) (job : AnsibleJob) : Bool :=
  job.operation = .updatePackages && job.mode = .apply
    && startsWith job.idempotencyKey (applyKeyPrefix planId)

/-! ### The checks on package updates -/

/-- The error for modes and keys other than those of a plan. -/
def planModeError : ApiError :=
  .badRequest "package_plan_mode_required"
    "package updates must first be planned; only a matching successful plan may be applied"

/-- The first reading of `validate_package_update`, up to `update_packages`: the policy of a
package update, `none` for every other operation. -/
def checkPolicy (view : StoreView) (request : CreateAnsibleJobRequest) (target : ResourceTarget) :
    Except ApiError (Option UpdatePolicy) :=
  if request.operation ≠ .updatePackages then .ok none
  else
    match target, request.policyId with
    | .target _, some _ =>
      match view.target, view.policy with
      | none, _ => .error (.notFound "target not found")
      | some _, none => .error (.badRequest "update_policy_unavailable"
          "the selected update policy is missing or disabled")
      | some _, some policy =>
        match request.parameters with
        | .updatePackages _ => .ok (some policy)
        | _ => .error (.badRequest "invalid_package_plan" "package update parameters are invalid")
    | .target _, none => .error (.badRequest "update_policy_required"
        "package updates require an explicit update policy")
    | _, _ => .error (.badRequest "target_policy_required"
        "package updates require a registered target and update policy")

/-- The packages of a package update. -/
def requestedPackages (request : CreateAnsibleJobRequest) : List String :=
  match request.parameters with
  | .updatePackages packages => packages
  | _ => []

/-- `validate_platform_package_ids`. -/
def validatePlatformPackageIds (view : StoreView) (packages : List String) :
    Except ApiError Unit :=
  match view.target with
  | none => .error (.notFound "target not found")
  | some target =>
    if target.kind = .windowsServer
        && (packages.contains "*" || packages.any fun package => !safeWingetId package) then
      .error (.badRequest "invalid_winget_package_id"
        "Windows updates require explicit exact winget package IDs")
    else .ok ()

/-- `validate_policy_allows_packages`. -/
def validatePolicyAllowsPackages (policy : UpdatePolicy) (targetId : TargetId)
    (packages : List String) : Except ApiError Unit :=
  let deniedTargetOrRisk :=
    !policy.allowedTargets.contains targetId || policy.maximumRisk.rank < UpdateRisk.high.rank
  let deniedPackage :=
    (packages = ["*"] && policy.allowedPackages ≠ [])
      || (policy.allowedPackages ≠ []
        && packages.any fun package => !policy.allowedPackages.contains package)
  if deniedTargetOrRisk || deniedPackage then
    .error (.forbidden "update_policy_denied"
      "target, package, risk, or maintenance window is not allowed by the selected policy")
  else .ok ()

/-- `validate_plan_key`. -/
def validatePlanKey (request : CreateAnsibleJobRequest) (policyId : String) :
    Except ApiError Unit :=
  if request.approvedPlanJobId = none ∧ startsWith request.idempotencyKey (planKeyPrefix policyId)
  then .ok ()
  else .error planModeError

/-- The part of `validate_package_apply` before the plan is loaded: the id of the plan. -/
def checkApply (request : CreateAnsibleJobRequest) (policy : UpdatePolicy) (targetId : TargetId)
    (now : Timestamp) : Except ApiError AnsibleJobId :=
  match request.approvedPlanJobId with
  | none => .error (.badRequest "package_plan_required"
      "apply requires a completed package plan")
  | some planId =>
    if !startsWith request.idempotencyKey (applyKeyPrefix planId) then
      .error (.badRequest "invalid_package_apply_key"
        "the apply request must be tied to its approved plan")
    else if (requestedPackages request).any fun package =>
        !policy.allows targetId package .high now then
      .error (.forbidden "update_policy_window_closed"
        "package apply is only allowed inside the policy maintenance window")
    else if !request.confirmed then
      .error (.badRequest "ansible_confirmation_required"
        "applying a package plan requires explicit confirmation")
    else .ok planId

/-- The second reading of `validate_package_update` and what follows it up to the plan: the
plan of an application, which is loaded next. -/
def checkPackages (view : StoreView) (request : CreateAnsibleJobRequest) (targetId : TargetId)
    (policy : UpdatePolicy) (now : Timestamp) : Except ApiError (Option AnsibleJobId) := do
  validatePlatformPackageIds view (requestedPackages request)
  validatePolicyAllowsPackages policy targetId (requestedPackages request)
  match request.mode with
  | .plan => (validatePlanKey request policy.id).map fun _ => none
  | .apply => (checkApply request policy targetId now).map some
  | _ => throw planModeError

/-! ### Policies -/

/-- The body of a request for an update policy. -/
structure CreateUpdatePolicyRequest where
  id : String
  allowedTargets : List TargetId
  allowedPackages : List String
  maintenanceStartMinute : UInt16
  maintenanceEndMinute : UInt16
  timezone : String
  maximumRisk : UpdateRisk
  enabled : Bool
  deriving DecidableEq, Repr, Inhabited

/-- The id of the policy that the server keeps for all targets. -/
def standardUpdatePolicyId : String := "lxcup-standard-all-packages"

/-- What may be in the package list of a policy. -/
def allowedPackageValid (package : String) : Bool :=
  trim package.toList ≠ [] && package.utf8ByteSize ≤ 100
    && package.toList.all fun c => isAsciiAlphanumeric c || c ∈ "+._:-".toList

/-- `validate_update_policy_request`.  A colon in the id is not refused. -/
def validateUpdatePolicyRequest (request : CreateUpdatePolicyRequest) : Except ApiError Unit :=
  if request.id = standardUpdatePolicyId then
    .error (.badRequest "reserved_policy_id" "this policy id is reserved for the system default")
  else if trim request.id.toList = [] ∨ request.id.utf8ByteSize > 128 then
    .error (.badRequest "invalid_policy" "policy id is required and bounded")
  else if trim request.timezone.toList = [] ∨ request.timezone.utf8ByteSize > 64 then
    .error (.badRequest "invalid_timezone" "timezone is required and bounded")
  else if request.timezone ≠ "UTC" then
    .error (.badRequest "unsupported_timezone" "update policy windows currently use UTC")
  else if request.maintenanceStartMinute ≥ 1440 ∨ request.maintenanceEndMinute ≥ 1440 then
    .error (.badRequest "invalid_window" "maintenance minutes must be within a day")
  else if request.allowedTargets = [] then
    .error (.badRequest "target_required" "at least one target is required")
  else if request.allowedPackages.length > 500 ∨ !request.allowedPackages.all allowedPackageValid
  then .error (.badRequest "invalid_package_group"
      "allowed package names must be bounded safe package identifiers")
  else .ok ()

/-- The policy of a request. -/
def CreateUpdatePolicyRequest.policy (request : CreateUpdatePolicyRequest) : UpdatePolicy where
  id := request.id
  allowedTargets := request.allowedTargets
  allowedPackages := request.allowedPackages
  maintenanceStartMinute := request.maintenanceStartMinute
  maintenanceEndMinute := request.maintenanceEndMinute
  timezone := request.timezone
  maximumRisk := request.maximumRisk
  enabled := request.enabled

/-- `default_update_policy`, the policy for all targets. -/
def defaultUpdatePolicy (targetIds : List TargetId) : UpdatePolicy where
  id := standardUpdatePolicyId
  allowedTargets := (targetIds.dedup).insertionSort fun a b =>
    a.uuid.bits.toNat ≤ b.uuid.bits.toNat
  allowedPackages := []
  maintenanceStartMinute := 0
  maintenanceEndMinute := 1439
  timezone := "UTC"
  maximumRisk := .high
  enabled := true

/-! ### What the checks leave -/

/-- A request that passes the first reading is no package update, or has a policy in the store
and a registered target. -/
theorem checkPolicy_ok {view : StoreView} {request : CreateAnsibleJobRequest}
    {target : ResourceTarget} {policy : Option UpdatePolicy}
    (h : checkPolicy view request target = .ok policy) :
    (request.operation ≠ .updatePackages ∧ policy = none) ∨
    ∃ targetId found, request.operation = .updatePackages ∧ target = .target targetId ∧
      view.policy = some found ∧ policy = some found := by
  unfold checkPolicy at h
  split at h
  case isTrue hother => exact .inl ⟨hother, (Except.ok.inj h).symm⟩
  case isFalse hupdate =>
    right
    split at h
    · rename_i targetId policyId hpolicyId
      split at h
      · cases h
      · cases h
      · rename_i registered found hregistered hfound
        split at h
        · exact ⟨targetId, found, not_not.mp hupdate, rfl, hfound, (Except.ok.inj h).symm⟩
        · cases h
    · cases h
    · cases h

/-- A package update that passes the second reading is a plan under the policy, or the
application of the plan that its key names. -/
theorem checkPackages_ok {view : StoreView} {request : CreateAnsibleJobRequest}
    {targetId : TargetId} {policy : UpdatePolicy} {now : Timestamp} {plan : Option AnsibleJobId}
    (h : checkPackages view request targetId policy now = .ok plan) :
    (request.mode = .plan ∧ plan = none ∧
      startsWith request.idempotencyKey (planKeyPrefix policy.id) = true) ∨
    ∃ planId, request.mode = .apply ∧ plan = some planId ∧
      request.approvedPlanJobId = some planId ∧
      startsWith request.idempotencyKey (applyKeyPrefix planId) = true := by
  simp only [checkPackages, bind, Except.bind, throw, throwThe, MonadExceptOf.throw] at h
  split at h
  · cases h
  split at h
  · cases h
  split at h
  · rename_i hmode
    left
    simp only [validatePlanKey] at h
    split at h
    · rename_i hkey
      exact ⟨hmode, (Except.ok.inj h).symm, hkey.2⟩
    · cases h
  · rename_i hmode
    right
    simp only [checkApply] at h
    split at h
    · cases h
    · rename_i planId hplan
      split at h
      · cases h
      · rename_i hkey
        split at h
        · cases h
        split at h
        · cases h
        · exact ⟨planId, hmode, (Except.ok.inj h).symm, hplan, by simpa using hkey⟩
  · cases h

/-- The policy a request sees is the one it names. -/
theorem view_policy {store : WorkflowStore} {request : CreateAnsibleJobRequest}
    {policy : UpdatePolicy} (h : (store.view request).policy = some policy) :
    request.policyId = some policy.id ∧ policy ∈ store.updatePolicies := by
  simp only [WorkflowStore.view, Option.bind_eq_some_iff] at h
  obtain ⟨id, hid, hfound⟩ := h
  have hsame := List.find?_some hfound
  simp only [Bool.and_eq_true, decide_eq_true_eq] at hsame
  exact ⟨hsame.1 ▸ hid, List.mem_of_find?_eq_some hfound⟩

/-! ### What the keys tell -/

theorem startsWith_iff {text pre : String} :
    startsWith text pre = true ↔ pre.toList <+: text.toList :=
  List.isPrefixOf_iff_prefix

/-- **A key is that of the application of one plan.** -/
theorem applyKeyPrefix_inj {key : String} {planId planId' : AnsibleJobId}
    (h : startsWith key (applyKeyPrefix planId) = true)
    (h' : startsWith key (applyKeyPrefix planId') = true) : planId = planId' := by
  rw [startsWith_iff] at h h'
  -- all ids have texts of one length, so the two beginnings are the same
  have hlength : ∀ id : AnsibleJobId, (applyKeyPrefix id).toList.length = 51 := by
    intro id
    simp [applyKeyPrefix, Uuid.length_toText]
  have hpre := List.prefix_of_prefix_length_le h h' (by rw [hlength, hlength])
  have heq := hpre.eq_of_length (by rw [hlength, hlength])
  simp only [applyKeyPrefix, String.toList_append, String.toList_ofList, List.append_cancel_left_eq,
    List.append_cancel_right_eq] at heq
  have huuid := Uuid.toText_injective heq
  cases planId
  cases planId'
  exact congrArg AnsibleJobId.mk huuid

/-- The one id begins with the other and a colon. -/
def policyIdsClash (policyId policyId' : String) : Bool :=
  startsWith policyId' (policyId ++ ":") || startsWith policyId (policyId' ++ ":")

/-- Of two texts with a colon at the end, one begins with the other only if they are the same
or the one begins with the other and its colon. -/
private theorem clash_of_prefix {a b : String} (h : (a ++ ":").toList <+: (b ++ ":").toList) :
    a = b ∨ startsWith b (a ++ ":") = true := by
  have hcolon : ∀ t : String, (t ++ ":").toList = t.toList ++ [':'] := by
    intro t
    rw [String.toList_append]
    rfl
  rw [startsWith_iff]
  rw [hcolon, hcolon] at h
  rw [hcolon]
  rcases List.prefix_concat_iff.mp h with heq | hshort
  · left
    rw [← String.toList_inj]
    exact List.append_cancel_right heq
  · exact .inr hshort

/-- **A key is that of a plan under one policy**, unless the ids of the policies clash. -/
theorem planKeyPrefix_inj {key policyId policyId' : String}
    (h : startsWith key (planKeyPrefix policyId) = true)
    (h' : startsWith key (planKeyPrefix policyId') = true)
    (hclash : policyIdsClash policyId policyId' = false) : policyId = policyId' := by
  simp only [policyIdsClash, Bool.or_eq_false_iff] at hclash
  rw [startsWith_iff] at h h'
  have hstrip : ∀ {a b : String}, (planKeyPrefix a).toList <+: (planKeyPrefix b).toList →
      (a ++ ":").toList <+: (b ++ ":").toList := by
    intro a b hab
    simp only [planKeyPrefix, String.toList_append, List.append_assoc] at hab ⊢
    exact (List.prefix_append_right_inj _).mp hab
  rcases List.prefix_or_prefix_of_prefix h h' with hpre | hpre
  · rcases clash_of_prefix (hstrip hpre) with heq | hbad
    · exact heq
    · rw [hclash.1] at hbad
      cases hbad
  · rcases clash_of_prefix (hstrip hpre) with heq | hbad
    · exact heq.symm
    · rw [hclash.2] at hbad
      cases hbad

end Lxcup.Server
