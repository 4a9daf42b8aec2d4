import Lxcup.Schedules.Keys

/-!
# Scheduled package updates

A scheduled package update plans all packages of its policy.  Three validators look at the list:
`validate_update_policy_request` when the policy is created, `scheduled_update_parameters` when the
schedule is due, and `AnsibleParameters::validate` when the job is made.  A policy may have 500
packages and a job 100.  The run of a schedule with a larger policy fails at its last step, every
time.

## Main definitions

* `Schedulable` — a policy that a schedule can use now, as far as policies are checked.
* `RunsUpdates` — a schedule and a target that a job can be made for.

## Main results

* `scheduledUpdatePackages_of_schedulable` — the packages of the run are those of the policy.
* `validate_updatePackages_iff` — they are accepted if and only if there are at most 100.
* `scheduled_iff` — so the job is made if and only if there are at most 100.
-/

namespace Lxcup.Schedules

open Lxcup.Lib Lxcup.Core Lxcup.Ansible Lxcup.Agent Lxcup.Server

/-- A policy as it was requested, which the schedule names and whose target and time it is. -/
structure Schedulable (store : WorkflowStore) (schedule : JobSchedule)
    (request : CreateUpdatePolicyRequest) (target : Target) (now : Timestamp) : Prop where
  valid : validateUpdatePolicyRequest request = .ok ()
  stored : store.updatePolicies.find? (fun policy => policy.id = request.id) = some request.policy
  named : schedule.policyId = some request.id
  nonempty : request.allowedPackages ≠ []
  enabled : request.enabled = true
  allowed : target.id ∈ request.allowedTargets
  /-- Windows servers have exact winget ids. -/
  platform : target.kind = .windowsServer → ∀ package ∈ request.allowedPackages,
    safeWingetId package = true
  risk : request.maximumRisk = .high
  window : request.policy.windowOpen now = true

/-- A schedule of package updates as it was requested, and a target with a secret. -/
structure RunsUpdates (schedule : JobSchedule) (target : Target) : Prop where
  operation : schedule.operation = "update_packages"
  identity : ∃ request : CreateScheduleRequest,
    validateScheduleIdentity request = .ok () ∧ schedule.id = request.id
  slot : InCalendar schedule.nextRunAt
  secret : target.workflowAuthSecretRef.isSome = true

variable {store : WorkflowStore} {schedule : JobSchedule} {request : CreateUpdatePolicyRequest}
  {target : Target} {now : Timestamp}

/-! ### The packages of a run -/

theorem allowedPackages_valid (h : validateUpdatePolicyRequest request = .ok ()) :
    request.allowedPackages.all allowedPackageValid = true := by
  unfold validateUpdatePolicyRequest at h
  repeat' split at h
  all_goals try cases h
  rename_i hpackages
  simpa using (not_or.mp hpackages).2

theorem allows_of_schedulable (h : Schedulable store schedule request target now) {package : String}
    (hmem : package ∈ request.allowedPackages) :
    request.policy.allows target.id package .high now = true := by
  have hrisk : UpdateRisk.rank .high ≤ request.policy.maximumRisk.rank := by
    show UpdateRisk.rank .high ≤ request.maximumRisk.rank
    rw [h.risk]
  have hpackage : package ∈ request.policy.allowedPackages := hmem
  have htarget : target.id ∈ request.policy.allowedTargets := h.allowed
  have henabled : request.policy.enabled = true := h.enabled
  simp [UpdatePolicy.allows, hrisk, hpackage, htarget, henabled, h.window]

/-- **The packages of a run are those of the policy.** -/
theorem scheduledUpdatePackages_of_schedulable (h : Schedulable store schedule request target now) :
    scheduledUpdatePackages store schedule target now = some request.allowedPackages := by
  have hplatform : (target.kind = .windowsServer
      && request.allowedPackages.any fun package => !safeWingetId package) = false := by
    by_cases hkind : target.kind = .windowsServer
    · simpa [hkind] using h.platform hkind
    · simp [hkind]
  have hallows : (request.allowedPackages.all fun package =>
      request.policy.allows target.id package .high now) = true :=
    List.all_eq_true.mpr fun package hmem => allows_of_schedulable h hmem
  have henabled : request.policy.enabled = true := h.enabled
  have htarget : target.id ∈ request.policy.allowedTargets := h.allowed
  have hpackages : request.policy.allowedPackages = request.allowedPackages := rfl
  unfold scheduledUpdatePackages
  simp only [h.named, h.stored, Option.bind_eq_bind, Option.bind_some, hpackages]
  simp [guard, h.nonempty, hplatform, henabled, hallows, htarget]

/-- **Packages of a policy are accepted** if and only if there are at most 100. -/
theorem validate_updatePackages_iff {packages : List String}
    (hvalid : packages.all allowedPackageValid = true) (hne : packages ≠ []) :
    (AnsibleParameters.updatePackages packages).validate = .ok () ↔ packages.length ≤ 100 := by
  have hpackage := List.all_eq_true.mp hvalid
  have hwildcard : "*" ∉ packages := by
    intro hmem
    exact absurd (hpackage "*" hmem) (by decide)
  have hbounds : (packages.any fun p => trim p.toList = [] || p.toList.length > 100) = false := by
    rw [List.any_eq_false]
    intro package hmem
    have hchecked := hpackage package hmem
    simp only [allowedPackageValid, Bool.and_eq_true, decide_eq_true_eq] at hchecked
    obtain ⟨⟨hblank, hsize⟩, -⟩ := hchecked
    have hlength := (length_le_utf8ByteSize package).trans hsize
    simp [hblank, Nat.not_lt.mpr hlength]
  unfold AnsibleParameters.validate
  simp only [hne, hwildcard, hbounds, false_or, or_false, false_and, Bool.false_eq_true, if_false]
  split
  · rename_i hmany
    exact iff_of_false (by simp) (Nat.not_le.mpr hmany)
  · rename_i hfew
    exact iff_of_true rfl (Nat.not_lt.mp hfew)

/-! ### The job of a run -/

/-- The request for the job of a run. -/
theorem scheduledJobRequest_of_packages (hrun : RunsUpdates schedule target)
    {packages : List String}
    (hpackages : scheduledUpdatePackages store schedule target now = some packages) :
    ∃ secret, scheduledJobRequest store schedule target now
      = some { checkRequest target .updatePackages (.updatePackages packages) [secret]
          (scheduleKey schedule.id target.id schedule.nextRunAt) with mode := .plan } := by
  obtain ⟨secret, hsecret⟩ := Option.isSome_iff_exists.mp hrun.secret
  refine ⟨secret, ?_⟩
  unfold scheduledJobRequest
  simp only [hrun.operation, hpackages, hsecret, Option.bind_eq_bind, Option.bind_some]
  rfl

/-- A plan of packages by the server is refused because of the packages only. -/
theorem accepts_plan_iff {packages : List String} {secret : SecretId} {key : String}
    (hkey : KeyAccepted key) :
    AnsibleJob.Accepts { checkRequest target .updatePackages (.updatePackages packages) [secret]
        key with mode := .plan } ↔
      (AnsibleParameters.updatePackages packages).validate = .ok () := by
  constructor
  · exact fun h => h.parameters.2
  · intro hvalid
    have hlength : key.toList.length ≤ 200 := (length_le_utf8ByteSize key).trans hkey.bounded
    exact
      { parameters := ⟨rfl, hvalid⟩
        key := ⟨hkey.notBlank, hkey.bounded⟩
        mode := rfl
        action := validateAction_ok.mpr ⟨rfl, rfl, nofun, nofun, hkey.notBlank, hlength⟩
        confirmed := nofun
        secrets := ⟨by simp [checkRequest], by simp [checkRequest]⟩ }

/-- **A usable policy can be scheduled if and only if it has at most 100 packages**: for the
parameters, and for the job. -/
theorem scheduled_iff (h : Schedulable store schedule request target now) :
    ((∃ packages, scheduledUpdatePackages store schedule target now = some packages ∧
        (AnsibleParameters.updatePackages packages).validate = .ok ()) ↔
      request.allowedPackages.length ≤ 100) ∧
    (RunsUpdates schedule target → ∀ newId,
      ((∃ submitted job, scheduledJobRequest store schedule target now = some submitted ∧
          AnsibleJob.fromRequest submitted newId now = .ok job) ↔
        request.allowedPackages.length ≤ 100)) := by
  have hpackages := scheduledUpdatePackages_of_schedulable h
  have hvalidate := validate_updatePackages_iff (allowedPackages_valid h.valid) h.nonempty
  refine ⟨?_, fun hrun newId => ?_⟩
  · rw [hpackages, ← hvalidate]
    simp only [Option.some.injEq, exists_eq_left']
  · obtain ⟨secret, hsubmitted⟩ := scheduledJobRequest_of_packages hrun hpackages
    obtain ⟨identified, hidentity, hid⟩ := hrun.identity
    have hkey : KeyAccepted (scheduleKey schedule.id target.id schedule.nextRunAt) := by
      rw [hid]
      exact scheduleKey_accepted hidentity target.id hrun.slot
    rw [← hvalidate, ← @accepts_plan_iff target _ secret _ hkey]
    constructor
    · rintro ⟨submitted, job, hsome, hjob⟩
      rw [hsubmitted] at hsome
      cases hsome
      exact (AnsibleJob.fromRequest_ok.mp hjob).1
    · intro haccepts
      exact ⟨_, _, hsubmitted, AnsibleJob.fromRequest_ok.mpr ⟨haccepts, rfl⟩⟩

/-! ### A policy of more packages -/

/-- A policy for one server, without a window of its own. -/
def serverPolicy (packages : List String) : CreateUpdatePolicyRequest where
  id := "web"
  allowedTargets := [default]
  allowedPackages := packages
  maintenanceStartMinute := 0
  maintenanceEndMinute := 1439
  timezone := "UTC"
  maximumRisk := .high
  enabled := true

/-- A server that is managed. -/
def server : Target where
  id := default
  name := "web-1"
  kind := .linuxServer
  address := "10.0.0.5"
  transport := .ssh
  sshUser := some "root"
  credentialSecretRef := some default
  sshKnownHostsSecretRef := none
  agentSecretRef := default
  state := .managed
  createdAt := 0
  updatedAt := 0

/-- The daily updates of the server. -/
def dailyUpdates : JobSchedule where
  id := "daily"
  operation := "update_packages"
  timezone := "UTC"
  targetIds := [default]
  frequency := .everyMinutes 1440
  enabled := true
  threshold := none
  policyId := some "web"
  backupSecretRef := none
  lastRunAt := none
  nextRunAt := 1767225600000000000
  lastError := none

/-- The store with the server and the policy. -/
def serverStore (packages : List String) : WorkflowStore where
  targets := [server]
  containers := []
  updatePolicies := [(serverPolicy packages).policy]

/-- As many packages as asked for. -/
def numberedPackages (count : Nat) : List String :=
  (List.range count).map fun n => "lib" ++ toString n

theorem schedulable_serverPolicy {packages : List String}
    (hvalid : validateUpdatePolicyRequest (serverPolicy packages) = .ok ()) (hne : packages ≠ []) :
    Schedulable (serverStore packages) dailyUpdates (serverPolicy packages) server
      1767225605000000000 where
  valid := hvalid
  stored := rfl
  named := rfl
  nonempty := hne
  enabled := rfl
  allowed := List.mem_singleton_self _
  platform := nofun
  risk := rfl
  window := by rfl

/-- The request for the daily updates. -/
def dailyRequest : CreateScheduleRequest where
  id := "daily"
  operation := "update_packages"
  timezone := "UTC"
  targetIds := [default]
  everyMinutes := 1440
  enabled := true
  threshold := none
  policyId := some "web"
  backupSecretRef := none

theorem runsUpdates_dailyUpdates : RunsUpdates dailyUpdates server where
  operation := rfl
  identity := ⟨dailyRequest, by decide, rfl⟩
  slot := ⟨by decide, by decide⟩
  secret := rfl

/-- Two packages are planned. -/
theorem scheduled_two :
    ((∃ packages, scheduledUpdatePackages (serverStore (numberedPackages 2)) dailyUpdates server
          1767225605000000000 = some packages ∧
        (AnsibleParameters.updatePackages packages).validate = .ok ()) ↔
      (numberedPackages 2).length ≤ 100) ∧
    ∀ newId, ((∃ submitted job,
          scheduledJobRequest (serverStore (numberedPackages 2)) dailyUpdates server
            1767225605000000000 = some submitted ∧
          AnsibleJob.fromRequest submitted newId 1767225605000000000 = .ok job) ↔
      (numberedPackages 2).length ≤ 100) := by
  obtain ⟨hparameters, hjobs⟩ :=
    scheduled_iff (@schedulable_serverPolicy (numberedPackages 2) (by decide) (by decide))
  exact ⟨hparameters, hjobs runsUpdates_dailyUpdates⟩

/-- **A policy of 101 packages cannot be scheduled**, although it was accepted and is in use. -/
theorem not_scheduled_101 :
    Schedulable (serverStore (numberedPackages 101)) dailyUpdates
      (serverPolicy (numberedPackages 101)) server 1767225605000000000 ∧
    scheduledUpdatePackages (serverStore (numberedPackages 101)) dailyUpdates server
      1767225605000000000 = some (numberedPackages 101) ∧
    (AnsibleParameters.updatePackages (numberedPackages 101)).validate = .error .invalid := by
  have hvalid : validateUpdatePolicyRequest (serverPolicy (numberedPackages 101)) = .ok () := by
    decide +kernel
  have hschedulable := schedulable_serverPolicy hvalid (by decide)
  exact ⟨hschedulable, scheduledUpdatePackages_of_schedulable hschedulable, by decide +kernel⟩

end Lxcup.Schedules
