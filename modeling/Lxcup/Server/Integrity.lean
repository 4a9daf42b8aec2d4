import Lxcup.Server.Upkeep

/-!
# What an enabled schedule refers to

An enabled schedule should refer only to registered targets and, if it has a policy, to a policy
that exists.  The targets take care of themselves: a schedule is created on registered targets, and
the deletion of a target takes it out of every list.  The policies do not.  A policy can be deleted
while the schedules that refer to it are disabled, and `set_schedule_enabled` does not look whether
the policy of the schedule is still there.

In persistent mode there is a second way.  `delete_update_policy` looks at the schedules of the
database, which misses those that are enabled in the store alone because the write to the database
failed.

## Main definitions

* `Integrity` — what the enabled schedules refer to is there.
* `Linked` — the invariant, which includes the targets of disabled schedules.
* `KeepsReferences` — a schedule is enabled only while its policy exists, and at a deletion the
  database knows the schedules that refer to the policy.

## Main results

* `integrity_of_keepsReferences` — the references are intact in every run of such steps.
* `enabled_without_policy` — a schedule that is enabled after its policy was deleted.
-/

namespace Lxcup.Server

open Lxcup.Lib Lxcup.Core Lxcup.Ansible Lxcup.Persistence

variable {H P D : Type}

/-! ### References -/

/-- Every enabled schedule refers only to registered targets and, if it has a policy, to an update
policy that exists. -/
def Integrity (store : ApiStore H P D) : Prop :=
  ∀ schedule ∈ store.schedules, schedule.enabled = true →
    (∀ id ∈ schedule.targetIds, store.Registered id) ∧
    ∀ policyId ∈ schedule.policyId, store.HasPolicy policyId

/-- Every schedule refers only to registered targets, and enabled ones to policies that exist. -/
structure Linked (store : ApiStore H P D) : Prop where
  targets : ∀ schedule ∈ store.schedules, ∀ id ∈ schedule.targetIds, store.Registered id
  policies : ∀ schedule ∈ store.schedules, schedule.enabled = true →
    ∀ policyId ∈ schedule.policyId, store.HasPolicy policyId

/-- A schedule that is enabled refers to a policy that exists, and when a policy is deleted, the
schedules that `delete_update_policy` looks at show whether an enabled schedule of the store refers
to it. -/
def KeepsReferences (state : ApiState H P D) : UpkeepAction H P D → Prop
  | .setScheduleEnabled _ scheduleId true _ _ =>
    ∀ schedule ∈ state.store.schedules.find? fun schedule => schedule.id = scheduleId,
      ∀ policyId ∈ schedule.policyId, state.store.HasPolicy policyId
  | .deleteUpdatePolicy _ policyId _ _ =>
    state.store.schedules.any (enabledWithPolicy policyId) = true →
      state.listSchedules.any (enabledWithPolicy policyId) = true
  | _ => True

instance (state : ApiState H P D) :
    (a : UpkeepAction H P D) → Decidable (KeepsReferences state a)
  | .setScheduleEnabled _ scheduleId true _ _ =>
    inferInstanceAs (Decidable (∀ schedule ∈ state.store.schedules.find? fun schedule =>
      schedule.id = scheduleId, ∀ policyId ∈ schedule.policyId, state.store.HasPolicy policyId))
  | .deleteUpdatePolicy _ policyId _ _ =>
    inferInstanceAs (Decidable (state.store.schedules.any (enabledWithPolicy policyId) = true →
      state.listSchedules.any (enabledWithPolicy policyId) = true))
  | .setScheduleEnabled _ _ false _ _ | .createSchedule .. | .createUpdatePolicy ..
  | .deleteTarget .. | .dispatchDueSchedules .. | .ensureDefaultUpdatePolicies ..
  | .disableSchedulesForTargets .. | .coordinator _ | .other _ => isTrue trivial

theorem Linked.integrity {store : ApiStore H P D} (h : Linked store) : Integrity store :=
  fun schedule hschedule henabled =>
    ⟨h.targets schedule hschedule, h.policies schedule hschedule henabled⟩

/-! ### Each kind of step -/

/-- The targets and the policy of a request for a schedule are there. -/
theorem validateScheduleResources_ok {request : CreateScheduleRequest} {store : ApiStore H P D}
    (h : validateScheduleResources request store = .ok ()) :
    (∀ id ∈ request.targetIds, store.Registered id) ∧
    ∀ policyId ∈ request.policyId, store.HasPolicy policyId := by
  unfold validateScheduleResources at h
  split at h
  · cases h
  split at h
  · cases h
  split at h
  · cases h
  case isFalse hregistered =>
    split at h
    · cases h
    constructor
    · intro id hid
      by_contra hnone
      refine hregistered (List.any_eq_true.mpr ⟨id, hid, ?_⟩)
      rw [Bool.not_eq_true', List.any_eq_false]
      intro target htarget hsame
      exact hnone ⟨target, htarget, of_decide_eq_true hsame⟩
    · intro policyId hpolicyId
      simp only [validateSchedulePolicyTargets, Option.mem_def.mp hpolicyId] at h
      split at h
      · cases h
      case h_2 policy hfound =>
        have hpolicy := List.find?_some hfound
        rw [Bool.and_eq_true, decide_eq_true_eq] at hpolicy
        exact ⟨policy, List.mem_of_find?_eq_some hfound, hpolicy.1⟩

/-- Targets and policies that stay keep the references of schedules that go on. -/
theorem Linked.continued {store store' : ApiStore H P D} (h : Linked store)
    (htargets : ∀ id, store.Registered id → store'.Registered id)
    (hpolicies : ∀ policyId, store.HasPolicy policyId → store'.HasPolicy policyId)
    (hschedules : ∀ schedule' ∈ store'.schedules, ∃ schedule ∈ store.schedules,
      ContinuedAs schedule schedule') : Linked store' := by
  constructor
  · intro schedule' hmem' id hid
    obtain ⟨schedule, hmem, hcontinued⟩ := hschedules schedule' hmem'
    rw [hcontinued.targetIds] at hid
    exact htargets id (h.targets schedule hmem id hid)
  · intro schedule' hmem' henabled policyId hpolicyId
    obtain ⟨schedule, hmem, hcontinued⟩ := hschedules schedule' hmem'
    rw [hcontinued.policyId] at hpolicyId
    exact hpolicies policyId
      (h.policies schedule hmem (hcontinued.enabled henabled) policyId hpolicyId)

/-- A schedule is created with references that are there. -/
theorem Linked.scheduled {store : ApiStore H P D} (h : Linked store)
    {request : CreateScheduleRequest} (now : Timestamp)
    (hchecked : validateScheduleResources request store = .ok ()) :
    Linked { store with schedules := store.schedules ++ [scheduleOf request now] } := by
  obtain ⟨htargets, hpolicies⟩ := validateScheduleResources_ok hchecked
  constructor
  · intro schedule hmem
    rcases List.mem_append.mp hmem with hold | hnew
    · exact h.targets schedule hold
    · obtain rfl := List.mem_singleton.mp hnew
      exact htargets
  · intro schedule hmem henabled
    rcases List.mem_append.mp hmem with hold | hnew
    · exact h.policies schedule hold henabled
    · obtain rfl := List.mem_singleton.mp hnew
      exact hpolicies

/-- A schedule is enabled whose policy exists. -/
theorem Linked.enabled {state : ApiState H P D} (h : Linked state.store) {schedule : JobSchedule}
    {now : Timestamp} {dbFails : Bool} (hmem : schedule ∈ state.store.schedules)
    (hpolicy : ∀ policyId ∈ schedule.policyId, state.store.HasPolicy policyId) :
    Linked (replaceSchedule state { schedule with enabled := true } now dbFails).store := by
  constructor
  · intro schedule' hmem'
    rcases mem_replaceFirst hmem' with rfl | hold
    · exact h.targets schedule hmem
    · exact h.targets schedule' hold
  · intro schedule' hmem' henabled
    rcases mem_replaceFirst hmem' with rfl | hold
    · exact hpolicy
    · exact h.policies schedule' hold henabled

/-- A policy is deleted that no enabled schedule of the store refers to. -/
theorem Linked.withoutPolicy {store : ApiStore H P D} (h : Linked store) {policyId : String}
    (hunused : store.schedules.any (enabledWithPolicy policyId) = false) :
    Linked (store.withoutPolicy policyId) := by
  refine ⟨h.targets, fun schedule hmem henabled other hother => ?_⟩
  obtain ⟨policy, hpolicy, rfl⟩ := h.policies schedule hmem henabled other hother
  have hne : policy.id ≠ policyId := by
    rintro rfl
    have huses : enabledWithPolicy policy.id schedule = true := by
      rw [enabledWithPolicy, henabled, Option.mem_def.mp hother]
      simp
    exact List.any_eq_false.mp hunused schedule hmem huses
  exact ⟨policy, List.mem_filter.mpr ⟨hpolicy, decide_eq_true hne⟩, rfl⟩

/-- What is left after the deletion of a target refers to what is left: the target is in no list,
and the schedules of removed policies are gone. -/
theorem Linked.cascade {store : ApiStore H P D} (h : Linked store) (targetId : TargetId) :
    Linked (cascadeStore store targetId) := by
  have hleft : ∀ schedule' ∈ (cascadeStore store targetId).schedules,
      ∃ schedule ∈ store.schedules, schedule' = schedule.withoutTarget targetId ∧
        ∀ policyId ∈ schedule.policyId,
          policyId ∉ removedPolicyIds targetId store.updatePolicies := by
    intro schedule' hmem'
    simp only [cascadeStore, List.mem_filter, List.mem_map] at hmem'
    obtain ⟨⟨⟨schedule, hmem, rfl⟩, -⟩, hremoved⟩ := hmem'
    refine ⟨schedule, hmem, rfl, fun policyId hpolicyId hgone => ?_⟩
    exact of_decide_eq_true hremoved ⟨policyId, hpolicyId, hgone⟩
  constructor
  · intro schedule' hmem' id hid
    obtain ⟨schedule, hmem, rfl, -⟩ := hleft schedule' hmem'
    obtain ⟨hlisted, hother⟩ := List.mem_filter.mp hid
    obtain ⟨target, htarget, rfl⟩ := h.targets schedule hmem id hlisted
    exact ⟨target, List.mem_filter.mpr ⟨htarget, hother⟩, rfl⟩
  · intro schedule' hmem' henabled policyId hpolicyId
    obtain ⟨schedule, hmem, rfl, hkept⟩ := hleft schedule' hmem'
    obtain ⟨policy, hpolicy, rfl⟩ := h.policies schedule hmem henabled policyId hpolicyId
    refine ⟨policy.withoutTarget targetId, ?_, rfl⟩
    exact List.mem_filter.mpr
      ⟨List.mem_map_of_mem hpolicy, decide_eq_true (hkept policy.id hpolicyId)⟩

/-- The standard policy is put in the place of a policy with its id, or added. -/
theorem hasPolicy_putStandardPolicy {store : ApiStore H P D} {policy : UpdatePolicy}
    (hstandard : policy.id = standardUpdatePolicyId) {policyId : String}
    (h : store.HasPolicy policyId) : (store.putStandardPolicy policy).HasPolicy policyId := by
  obtain ⟨other, hother, rfl⟩ := h
  unfold ApiStore.putStandardPolicy ApiStore.HasPolicy
  dsimp only
  split
  · by_cases hid : other.id = standardUpdatePolicyId
    · exact ⟨policy, mem_replaceFirst_self hother (decide_eq_true hid), hstandard.trans hid.symm⟩
    · exact ⟨other, mem_replaceFirst_of_not hother (decide_eq_false hid), rfl⟩
  · exact ⟨other, List.mem_append_left _ hother, rfl⟩

/-- **Every step keeps the references.** -/
theorem Linked.step {state : ApiState H P D} {a : UpkeepAction H P D} {store' : ApiStore H P D}
    (h : Linked state.store) (hok : KeepsReferences state a) (hs : Upkeep state a store') :
    Linked store' := by
  have hsame : ∀ schedule ∈ state.store.schedules,
      ∃ schedule' ∈ state.store.schedules, ContinuedAs schedule' schedule :=
    fun schedule hmem => ⟨schedule, hmem, .refl schedule⟩
  cases hs with
  | keep targets schedules policies =>
    refine h.continued targets (fun policyId hpolicy => ?_) schedules
    obtain ⟨policy, hmem, hid⟩ := hpolicy
    exact ⟨policy, policies.symm ▸ hmem, hid⟩
  | schedule checked => exact h.scheduled _ checked
  | enable found =>
    exact h.enabled (List.mem_of_find?_eq_some found) (hok _ (Option.mem_def.mpr found))
  | createPolicy =>
    refine h.continued (fun _ htarget => htarget) (fun policyId hpolicy => ?_) hsame
    obtain ⟨policy, hmem, hid⟩ := hpolicy
    exact ⟨policy, List.mem_append_left _ hmem, hid⟩
  | standardPolicy standard =>
    exact h.continued (fun _ htarget => htarget)
      (fun _ hpolicy => hasPolicy_putStandardPolicy standard hpolicy) hsame
  | deletePolicy unused =>
    -- what the handler does not see, the store does not have
    refine h.withoutPolicy (Bool.eq_false_iff.mpr fun hused => ?_)
    obtain ⟨schedule, hmem, huses⟩ := List.any_eq_true.mp (hok hused)
    rw [unused schedule hmem] at huses
    cases huses
  | deleteTarget => exact h.cascade _

/-- **The references are intact** in every run in which a schedule is enabled only while its policy
exists, and the database knows the schedules of a policy that is deleted. -/
theorem integrity_of_keepsReferences {state : ApiState H P D}
    (h : upkeepMachine.Reach KeepsReferences state) : Integrity state.store := by
  refine Linked.integrity (h.invariant (I := fun state => Linked state.store) ?_ ?_)
  · rintro state ⟨hschedules, -⟩
    constructor
    · intro schedule hmem
      rw [hschedules] at hmem
      cases hmem
    · intro schedule hmem
      rw [hschedules] at hmem
      cases hmem
  · intro state a state' _ hlinked hok hs
    exact hlinked.step hok (upkeep_of_step hs)

/-! ### A weekly update -/

/-- A policy for the updates of some targets. -/
def patchPolicyRequest (targetIds : List TargetId) : CreateUpdatePolicyRequest where
  id := "patches"
  allowedTargets := targetIds
  allowedPackages := []
  maintenanceStartMinute := 60
  maintenanceEndMinute := 120
  timezone := "UTC"
  maximumRisk := .high
  enabled := true

/-- A weekly update of a target under that policy. -/
def patchScheduleRequest (id : TargetId) : CreateScheduleRequest where
  id := "weekly"
  operation := "update_packages"
  timezone := "UTC"
  targetIds := [id]
  everyMinutes := 10080
  enabled := true
  threshold := none
  policyId := some "patches"
  backupSecretRef := none

/-- The policy and the schedule are created, and the schedule is disabled. -/
def patchSteps : List (UpkeepAction Unit Unit Unit) :=
  [.createUpdatePolicy .admin (patchPolicyRequest [⟨⟨7⟩⟩]) 0 false,
    .createSchedule .admin (patchScheduleRequest ⟨⟨7⟩⟩) (fun _ => .ok ()) 0 false,
    .setScheduleEnabled .admin "weekly" false 1 false]

theorem integrity_weekly_update :
    ∃ state : ApiState Unit Unit Unit, upkeepMachine.Reach KeepsReferences state ∧
      state.store.schedules.any (enabledWithPolicy "patches") = true ∧ Integrity state.store := by
  have hrun : ∃ state ∈ upkeepMachine.exec KeepsReferences (serverWithTarget ⟨⟨7⟩⟩)
      (patchSteps ++ [.setScheduleEnabled .admin "weekly" true 2 false]),
      state.store.schedules.any (enabledWithPolicy "patches") = true := by
    decide +kernel
  obtain ⟨state, hexec, henabled⟩ := hrun
  have hreach : upkeepMachine.Reach KeepsReferences state :=
    .exec (.init ⟨rfl, rfl, rfl, by simp [serverWithTarget]⟩) _ hexec
  exact ⟨state, hreach, henabled, integrity_of_keepsReferences hreach⟩

theorem enabled_without_policy :
    ¬ ∀ state : ApiState Unit Unit Unit, upkeepMachine.Reach Machine.Any state →
      Integrity state.store := by
  intro hall
  have hrun : ∃ state ∈ upkeepMachine.exec Machine.Any (serverWithTarget ⟨⟨7⟩⟩)
      (patchSteps ++ [.deleteUpdatePolicy .admin "patches" true none,
        .setScheduleEnabled .admin "weekly" true 2 false]),
      state.store.schedules.any (enabledWithPolicy "patches") = true ∧
      ¬ state.store.HasPolicy "patches" := by
    decide +kernel
  obtain ⟨state, hexec, henabled, hgone⟩ := hrun
  have hreach : upkeepMachine.Reach Machine.Any state :=
    .exec (.init ⟨rfl, rfl, rfl, by simp [serverWithTarget]⟩) _ hexec
  obtain ⟨schedule, hmem, huses⟩ := List.any_eq_true.mp henabled
  rw [enabledWithPolicy, Bool.and_eq_true, decide_eq_true_eq] at huses
  exact hgone ((hall state hreach schedule hmem huses.1).2 "patches" huses.2)

end Lxcup.Server
