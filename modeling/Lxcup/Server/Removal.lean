import Lxcup.Persistence.Cascade
import Lxcup.Server.Integrity

/-!
# What a deletion leaves

The deletion of a target goes through eleven collections in memory and two tables of the database.
The rule for schedules and policies is written twice, as passes over the store and as statements
over arrays and jsonb; both leave the same schedules and policies, whatever the lists look like.

In memory two things of the target are left.  Its package inventory is not among the collections
that `delete_target` goes through.  And the policies that go are those whose list has the length
one, so that a policy that lists the target twice and no other stays, with an empty list.

## Main definitions

* `NothingLeft` — no collection refers to the target any more, and no policy that did is empty.
* `SameCollections` — store and tables hold the same schedules and policies.

## Main results

* `nothingLeft_iff` — when a deletion leaves nothing.
* `cascades_agree` — the store and the tables hold the same afterwards if they did before.
* `policy_left_empty` — a policy that lists the target twice.
-/

namespace Lxcup.Server

open Lxcup.Lib Lxcup.Core Lxcup.Ansible Lxcup.Persistence

variable {H P D : Type}

/-! ### In memory -/

/-- The target is gone from the memory of the server, and the policies that listed it list
others. -/
structure NothingLeft (targetId : TargetId) (state state' : ApiState H P D) : Prop where
  targets : ¬ state'.store.Registered targetId
  agentReports : state'.store.agentReports.get targetId = none
  packageInventories : state'.store.packageInventories.get targetId = none
  targetDockerInventories : state'.store.targetDockerInventories.get targetId = none
  schedules : ∀ schedule ∈ state'.store.schedules, targetId ∉ schedule.targetIds
  allowedTargets : ∀ policy ∈ state'.store.updatePolicies, targetId ∉ policy.allowedTargets
  enrollments : ∀ enrollment ∈ state'.store.enrollments, enrollment.targetId ≠ some targetId
  /-- A key that is left is that of an enrollment that is left. -/
  enrollmentKeys : ∀ key id, state'.store.enrollmentKeys.get key = some id →
    ∃ enrollment ∈ state'.store.enrollments, enrollment.id = id
  jobs : ∀ id job, state'.ansible.jobs.get id = some job → job.target ≠ .target targetId
  events : ∀ id job, state.ansible.jobs.get id = some job → job.target = .target targetId →
    state'.ansible.events.get id = none
  idempotency : ∀ target key id, state'.ansible.idempotency.get (target, key) = some id →
    target ≠ .target targetId ∧
    ∀ job, state.ansible.jobs.get id = some job → job.target ≠ .target targetId
  activeTargets : state'.ansible.activeTargets.get (.target targetId) = none
  policies : ∀ policy ∈ state.store.updatePolicies, targetId ∈ policy.allowedTargets →
    ∀ policy' ∈ state'.store.updatePolicies, policy'.id = policy.id → policy'.allowedTargets ≠ []

/-- The policy lists the target more than once and no other target. -/
def RepeatsOnly (targetId : TargetId) (policy : UpdatePolicy) : Prop :=
  2 ≤ policy.allowedTargets.length ∧ ∀ id ∈ policy.allowedTargets, id = targetId

instance (targetId : TargetId) (policy : UpdatePolicy) :
    Decidable (RepeatsOnly targetId policy) :=
  inferInstanceAs (Decidable (_ ∧ _))

/-- No two policies have the same id. -/
def UniquePolicies (store : ApiStore H P D) : Prop :=
  (store.updatePolicies.map (·.id)).Nodup

theorem UniquePolicies.step {state : ApiState H P D} {a : UpkeepAction H P D}
    {store' : ApiStore H P D} (h : UniquePolicies state.store) (hs : Upkeep state a store') :
    UniquePolicies store' := by
  cases hs with
  | keep targets schedules policies =>
    unfold UniquePolicies
    rw [policies]
    exact h
  | schedule => exact h
  | enable => exact h
  | createPolicy new =>
    unfold UniquePolicies
    rw [List.map_append, List.map_singleton, List.nodup_append]
    refine ⟨h, List.nodup_singleton _, fun policyId hold other hother => ?_⟩
    obtain rfl := List.mem_singleton.mp hother
    obtain ⟨policy, hpolicy, rfl⟩ := List.mem_map.mp hold
    exact fun heq => new ⟨policy, hpolicy, heq⟩
  | @standardPolicy _ policy standard =>
    unfold UniquePolicies ApiStore.putStandardPolicy
    dsimp only
    split
    case isTrue =>
      rw [map_replaceFirst fun other hother => (of_decide_eq_true hother).trans standard.symm]
      exact h
    case isFalse hnone =>
      rw [List.map_append, List.map_singleton, List.nodup_append]
      refine ⟨h, List.nodup_singleton _, fun policyId hold other hother heq => ?_⟩
      obtain rfl := List.mem_singleton.mp hother
      obtain ⟨existing, hexisting, rfl⟩ := List.mem_map.mp hold
      exact hnone (List.any_eq_true.mpr
        ⟨existing, hexisting, decide_eq_true (heq.trans standard)⟩)
  | deletePolicy => exact h.sublist (List.filter_sublist.map _)
  | deleteTarget =>
    have hunlinked : ∀ targetId, ((state.store.updatePolicies.map (·.withoutTarget targetId)).map
        (·.id)) = state.store.updatePolicies.map (·.id) := by
      intro targetId
      rw [List.map_map]
      rfl
    refine List.Nodup.sublist (List.filter_sublist.map _) ?_
    rw [hunlinked]
    exact h

theorem runDueSchedule_ansible (now : Timestamp) (run : JobSchedule → ScheduledRun)
    (state : ApiState H P D) (due : JobSchedule) :
    (runDueSchedule now run state due).ansible = state.ansible := by
  unfold runDueSchedule
  split
  · rfl
  · split <;> rfl

theorem dispatch_ansible (now : Timestamp) (run : JobSchedule → ScheduledRun)
    (dues : List JobSchedule) (state : ApiState H P D) :
    (dues.foldl (runDueSchedule now run) state).ansible = state.ansible := by
  induction dues generalizing state with
  | nil => rfl
  | cons due dues ih =>
    rw [List.foldl_cons, ih]
    exact runDueSchedule_ansible now run state due

/-- A deletion that goes through removes the jobs of the target from the coordinator. -/
theorem deleteTarget_ansible {state state' : ApiState H P D} {actorRole : ActorRole}
    {target : String} {uuid : Uuid} {confirmed dbFails : Bool} {now : Timestamp}
    (huuid : Uuid.parseStr target.toList = some uuid)
    (h : deleteTarget state actorRole target confirmed now dbFails = .ok state') :
    state.ansible.removeTargetJobs ⟨uuid⟩ = .ok state'.ansible := by
  simp only [deleteTarget, parseUuid, huuid, bind, Except.bind, pure, Except.pure, throw,
    throwThe, MonadExceptOf.throw] at h
  cases hremove : state.ansible.removeTargetJobs ⟨uuid⟩ with
  | error e => grind
  | ok ansible => grind

/-- A step leaves the coordinator as it is, or calls it. -/
theorem ansible_of_step {state state' : ApiState H P D} {a : UpkeepAction H P D}
    (h : upkeepMachine.step state a = some state') :
    state'.ansible = state.ansible ∨
      ∃ op, Admissible state.ansible op ∧ state'.ansible = op.run state.ansible := by
  change upkeepStep state a = some state' at h
  cases a with
  | createSchedule actorRole request readBackupPassphrase now dbFails =>
    obtain rfl := Option.some.inj h
    left
    simp only [createSchedule]
    split
    · rfl
    · split
      · rfl
      · split <;> rfl
  | setScheduleEnabled actorRole scheduleId enabled now dbFails =>
    obtain rfl := Option.some.inj h
    left
    unfold setScheduleEnabled
    split
    · rfl
    · split <;> rfl
  | createUpdatePolicy actorRole request now dbFails =>
    obtain rfl := Option.some.inj h
    left
    unfold createUpdatePolicy
    split
    · rfl
    · dsimp only
      split
      · rfl
      · split <;> rfl
  | deleteUpdatePolicy actorRole policyId confirmed fault =>
    obtain rfl := Option.some.inj h
    left
    unfold deleteUpdatePolicy
    split
    · rfl
    · split
      · split <;> rfl
      · split
        · rfl
        · split <;> rfl
  | deleteTarget actorRole targetId confirmed now dbFails =>
    simp only [upkeepStep] at h
    split at h
    case h_1 state'' hdelete =>
      obtain rfl := Option.some.inj h
      obtain ⟨uuid, huuid, -⟩ := deleteTarget_store hdelete
      refine .inr ⟨.removeTargetJobs ⟨uuid⟩, trivial, ?_⟩
      simp only [CoordinatorOp.run, CoordinatorOp.call, deleteTarget_ansible huuid hdelete]
    case h_2 =>
      obtain rfl := Option.some.inj h
      exact .inl rfl
  | dispatchDueSchedules now run =>
    obtain rfl := Option.some.inj h
    exact .inl (dispatch_ansible now run _ state)
  | ensureDefaultUpdatePolicies now dbFails =>
    obtain rfl := Option.some.inj h
    left
    simp only [ensureDefaultUpdatePolicies]
    split
    · rfl
    · split
      · rfl
      · split
        · rfl
        · split <;> rfl
  | disableSchedulesForTargets affectedTargets now dbFails =>
    obtain rfl := Option.some.inj h
    exact .inl rfl
  | coordinator op =>
    simp only [upkeepStep] at h
    split at h
    case isTrue hop =>
      obtain rfl := Option.some.inj h
      exact .inr ⟨op, hop, rfl⟩
    case isFalse => cases h
  | other writes =>
    simp only [upkeepStep] at h
    split at h
    · obtain rfl := Option.some.inj h
      exact .inl rfl
    · cases h

theorem invariants_of_reach {state : ApiState H P D}
    (h : upkeepMachine.Reach Machine.Any state) :
    UniquePolicies state.store ∧ WellKept state.ansible := by
  refine h.invariant (I := fun state => UniquePolicies state.store ∧ WellKept state.ansible) ?_ ?_
  · rintro state ⟨-, hpolicies, hansible, -⟩
    refine ⟨?_, hansible ▸ wellKept_default⟩
    unfold UniquePolicies
    rw [hpolicies]
    exact List.nodup_nil
  · rintro state a state' _ ⟨hunique, hkept⟩ _ hs
    refine ⟨hunique.step (upkeep_of_step hs), ?_⟩
    rcases ansible_of_step hs with hsame | ⟨op, hop, hrun⟩
    · rw [hsame]
      exact hkept
    · rw [hrun]
      exact hkept.run op hop

theorem removeTargetJobs_ok {c c' : AnsibleJobCoordinator} {targetId : TargetId}
    (h : c.removeTargetJobs targetId = .ok c') :
    c.targetHasActiveJobs targetId = false ∧ c' = c.withoutJobsOf targetId := by
  simp only [AnsibleJobCoordinator.removeTargetJobs] at h
  split at h
  case isTrue => cases h
  case isFalse hidle => exact ⟨Bool.eq_false_iff.mpr hidle, (Except.ok.inj h).symm⟩

/-- Nothing of the target is left but its package inventory and policies that are empty. -/
theorem nothingLeft_of_cascade {state state' : ApiState H P D} {targetId : TargetId}
    (hkept : WellKept state.ansible) (hstore : state'.store = cascadeStore state.store targetId)
    (hansible : state.ansible.removeTargetJobs targetId = .ok state'.ansible)
    (hinventory : state.store.packageInventories.get targetId = none)
    (hpolicies : ∀ policy ∈ state.store.updatePolicies, targetId ∈ policy.allowedTargets →
      ∀ policy' ∈ (cascadeStore state.store targetId).updatePolicies, policy'.id = policy.id →
        policy'.allowedTargets ≠ []) :
    NothingLeft targetId state state' := by
  obtain ⟨hidle, hremoved⟩ := removeTargetJobs_ok hansible
  have hgone : ∀ id job, state'.ansible.jobs.get id = some job →
      job.target ≠ .target targetId := by
    intro id job hjob
    rw [hremoved] at hjob
    exact ((get_withoutJobsOf hkept).mp hjob).2
  have hnone : ∀ id job, state.ansible.jobs.get id = some job →
      job.target = .target targetId → state'.ansible.jobs.get id = none := by
    intro id job hjob htarget
    cases hleft : state'.ansible.jobs.get id with
    | none => rfl
    | some job' =>
      rw [hremoved] at hleft
      obtain ⟨hjob', hother⟩ := (get_withoutJobsOf hkept).mp hleft
      obtain rfl := Option.some.inj (hjob.symm.trans hjob')
      exact absurd htarget hother
  have hkept' : WellKept state'.ansible := hremoved ▸ hkept.remove hidle
  have hunlocked : state.ansible.activeTargets.get (.target targetId) = none := by
    simp only [AnsibleJobCoordinator.targetHasActiveJobs, Bool.or_eq_false_iff] at hidle
    simpa using hidle.1
  refine ⟨?_, ?_, ?_, ?_, ?_, ?_, ?_, ?_, hgone, ?_, ?_, ?_, hstore ▸ hpolicies⟩
  · rw [hstore]
    rintro ⟨target, htarget, hid⟩
    exact of_decide_eq_true (List.mem_filter.mp htarget).2 hid
  · rw [hstore]
    exact (Table.get_remove ..).trans (if_pos rfl)
  · rw [hstore]
    exact hinventory
  · rw [hstore]
    exact (Table.get_remove ..).trans (if_pos rfl)
  · rw [hstore]
    intro schedule hmem hlisted
    simp only [cascadeStore, List.mem_filter, List.mem_map] at hmem
    obtain ⟨⟨⟨schedule, -, rfl⟩, -⟩, -⟩ := hmem
    exact of_decide_eq_true (List.mem_filter.mp hlisted).2 rfl
  · rw [hstore]
    intro policy hmem hlisted
    simp only [cascadeStore, List.mem_filter, List.mem_map] at hmem
    obtain ⟨⟨policy, -, rfl⟩, -⟩ := hmem
    exact of_decide_eq_true (List.mem_filter.mp hlisted).2 rfl
  · rw [hstore]
    intro enrollment hmem
    exact of_decide_eq_true (List.mem_filter.mp hmem).2
  · rw [hstore]
    intro key id hkey
    simp only [cascadeStore, Table.get_retain, Option.filter_eq_some_iff, decide_eq_true_eq,
      List.mem_map] at hkey
    exact hkey.2
  · intro id job hjob htarget
    exact hkept'.noStrayLog id (hnone id job hjob htarget)
  · intro target key id hentry
    obtain ⟨job', hjob', htarget', -⟩ := hkept'.indexed target key id hentry
    refine ⟨htarget' ▸ hgone id job' hjob', fun job hjob htarget => ?_⟩
    rw [hnone id job hjob htarget] at hjob'
    cases hjob'
  · rw [hremoved]
    exact hunlocked

/-- A policy that is left was not one of those that list the target alone. -/
theorem left_of_cascade {store : ApiStore H P D} {targetId : TargetId} {policy' : UpdatePolicy}
    (h : policy' ∈ (cascadeStore store targetId).updatePolicies) :
    ∃ policy ∈ store.updatePolicies, policy' = policy.withoutTarget targetId ∧
      policy.allowedTargets ≠ [targetId] := by
  simp only [cascadeStore, List.mem_filter, List.mem_map, decide_eq_true_eq] at h
  obtain ⟨⟨policy, hmem, rfl⟩, hkept⟩ := h
  refine ⟨policy, hmem, rfl, fun hallowed => hkept ?_⟩
  exact mem_removedPolicyIds.mpr ⟨policy, hmem, rfl, hallowed⟩

/-- A policy of which only the target is taken away lists nothing else. -/
theorem withoutTarget_eq_nil {policy : UpdatePolicy} {targetId : TargetId} :
    (policy.withoutTarget targetId).allowedTargets = [] ↔
      ∀ id ∈ policy.allowedTargets, id = targetId := by
  show policy.allowedTargets.filter (· ≠ targetId) = [] ↔ _
  rw [List.filter_eq_nil_iff]
  simp

/-- **When a deletion leaves nothing** of the target in memory: if the server has no package
inventory of it, and no policy lists it more than once and nothing else. -/
theorem nothingLeft_iff {state state' : ApiState H P D} {actorRole : ActorRole} {target : String}
    {uuid : Uuid} {confirmed dbFails : Bool} {now : Timestamp}
    (hreach : upkeepMachine.Reach Machine.Any state)
    (huuid : Uuid.parseStr target.toList = some uuid)
    (h : deleteTarget state actorRole target confirmed now dbFails = .ok state') :
    NothingLeft ⟨uuid⟩ state state' ↔
      state.store.packageInventories.get ⟨uuid⟩ = none ∧
      ∀ policy ∈ state.store.updatePolicies, ¬ RepeatsOnly ⟨uuid⟩ policy := by
  obtain ⟨hunique, hkept⟩ := invariants_of_reach hreach
  obtain ⟨hstore, -⟩ := deleteTarget_ok huuid h
  have hsame := List.inj_on_of_nodup_map hunique
  constructor
  · intro hnothing
    have hinventory := hnothing.packageInventories
    rw [hstore] at hinventory
    refine ⟨hinventory, ?_⟩
    rintro policy hmem ⟨hlength, honly⟩
    -- no other policy has its id, so the policy stays
    have hstays : policy.id ∉ removedPolicyIds ⟨uuid⟩ state.store.updatePolicies := by
      rw [mem_removedPolicyIds]
      rintro ⟨other, hother, hid, hallowed⟩
      obtain rfl := hsame hmem hother hid
      rw [hallowed] at hlength
      simp at hlength
    have hleft : policy.withoutTarget ⟨uuid⟩ ∈ state'.store.updatePolicies := by
      rw [hstore]
      exact List.mem_filter.mpr ⟨List.mem_map_of_mem hmem, decide_eq_true hstays⟩
    have hlisted : ⟨uuid⟩ ∈ policy.allowedTargets := by
      obtain ⟨id, hid⟩ :=
        List.exists_mem_of_length_pos (by omega : 0 < policy.allowedTargets.length)
      exact honly id hid ▸ hid
    exact hnothing.policies policy hmem hlisted _ hleft rfl (withoutTarget_eq_nil.mpr honly)
  · rintro ⟨hinventory, hrepeats⟩
    refine nothingLeft_of_cascade hkept hstore (deleteTarget_ansible huuid h) hinventory ?_
    intro policy hmem hlisted policy' hleft hid hempty
    obtain ⟨other, hother, rfl, halone⟩ := left_of_cascade hleft
    obtain rfl := hsame hother hmem hid
    have honly := withoutTarget_eq_nil.mp hempty
    refine hrepeats other hother ⟨?_, honly⟩
    match hallowed : other.allowedTargets with
    | [] =>
      rw [hallowed] at hlisted
      cases hlisted
    | [id] =>
      rw [hallowed] at honly halone
      rw [honly id (List.mem_singleton_self id)] at halone
      exact absurd rfl halone
    | _ :: _ :: _ => simp

/-- The server with a target and a policy that lists it as often as the request says. -/
def serverWithPolicy (targetIds : List TargetId) : ApiState Unit Unit Unit :=
  (createUpdatePolicy (serverWithTarget ⟨⟨7⟩⟩) .admin (patchPolicyRequest targetIds) 0 false).2

theorem reach_serverWithPolicy (targetIds : List TargetId) :
    upkeepMachine.Reach Machine.Any (serverWithPolicy targetIds) := by
  refine .step (.init (s := serverWithTarget ⟨⟨7⟩⟩) ⟨rfl, rfl, rfl, ?_⟩)
    (a := .createUpdatePolicy .admin (patchPolicyRequest targetIds) 0 false) trivial rfl
  simp [serverWithTarget]

theorem nothingLeft_with_policy : ∃ state',
    deleteTarget (serverWithPolicy [⟨⟨7⟩⟩]) .admin sampleTargetText true 1 false = .ok state' ∧
    NothingLeft ⟨⟨7⟩⟩ (serverWithPolicy [⟨⟨7⟩⟩]) state' := by
  obtain ⟨state', h⟩ : ∃ state', deleteTarget (serverWithPolicy [⟨⟨7⟩⟩]) .admin
      sampleTargetText true 1 false = .ok state' := ⟨_, rfl⟩
  have hparsed : Uuid.parseStr sampleTargetText.toList = some ⟨7⟩ := by
    decide
  refine ⟨state', h, (nothingLeft_iff (reach_serverWithPolicy _) hparsed h).mpr ⟨rfl, ?_⟩⟩
  decide +kernel

theorem policy_left_empty :
    ¬ ∀ (state state' : ApiState Unit Unit Unit) (uuid : Uuid) (target : String) (now : Timestamp),
      upkeepMachine.Reach Machine.Any state → Uuid.parseStr target.toList = some uuid →
      deleteTarget state .admin target true now false = .ok state' →
      NothingLeft ⟨uuid⟩ state state' := by
  intro hall
  have hparsed : Uuid.parseStr sampleTargetText.toList = some ⟨7⟩ := by
    decide
  obtain ⟨state', h⟩ : ∃ state', deleteTarget (serverWithPolicy [⟨⟨7⟩⟩, ⟨⟨7⟩⟩]) .admin
      sampleTargetText true 1 false = .ok state' := ⟨_, rfl⟩
  have hleft : ∃ policy ∈ (serverWithPolicy [⟨⟨7⟩⟩, ⟨⟨7⟩⟩]).store.updatePolicies,
      ⟨⟨7⟩⟩ ∈ policy.allowedTargets ∧
      ∃ policy' ∈ (cascadeStore (serverWithPolicy [⟨⟨7⟩⟩, ⟨⟨7⟩⟩]).store ⟨⟨7⟩⟩).updatePolicies,
        policy'.id = policy.id ∧ policy'.allowedTargets = [] := by
    decide +kernel
  obtain ⟨policy, hpolicy, hlisted, policy', hpolicy', hid, hempty⟩ := hleft
  have hnothing := hall _ state' ⟨7⟩ sampleTargetText 1 (reach_serverWithPolicy _) hparsed h
  rw [← (deleteTarget_ok hparsed h).1] at hpolicy'
  exact hnothing.policies policy hpolicy hlisted policy' hpolicy' hid hempty

/-! ### Memory and database -/

/-- The store and the tables hold the same schedules and the same policies, in any order. -/
def SameCollections (store : ApiStore H P D) (tables : CascadeTables) : Prop :=
  SameSchedules store.schedules tables.schedules ∧
    SamePolicies store.updatePolicies tables.updatePolicies

/-- Both halves of the rule find the same policies emptied. -/
theorem mem_selectEmptied_iff {store : ApiStore H P D} {tables : CascadeTables}
    (h : SamePolicies store.updatePolicies tables.updatePolicies) {targetId : TargetId}
    {policyId : String} :
    policyId ∈ selectEmptied targetId tables.updatePolicies ↔
      policyId ∈ removedPolicyIds targetId store.updatePolicies :=
  h.mem_selectEmptied.trans mem_removedPolicyIds.symm

/-- The passes over the schedules and the statements on them. -/
theorem same_schedules_cascade {store : ApiStore H P D} {tables : CascadeTables}
    (h : SameCollections store tables) (targetId : TargetId) (now : Timestamp) :
    SameSchedules (cascadeStore store targetId).schedules
      (tables.deleteRelated targetId now).schedules := by
  have hlength : ∀ row : ScheduleRow,
      (row.schedule.targetIds.length ≠ 0) = (row.schedule.targetIds ≠ []) := by
    intro row
    rw [ne_eq, List.length_eq_zero_iff]
  rw [CascadeTables.deleteRelated_eq]
  simp only [mem_selectEmptied_iff h.2, hlength]
  have hunlinked := (h.1.unlinked targetId now).kept fun schedule => schedule.targetIds ≠ []
  exact hunlinked.kept fun schedule => ¬ ∃ policyId ∈ schedule.policyId,
    policyId ∈ removedPolicyIds targetId store.updatePolicies

/-- The passes over the policies and the statements on them. -/
theorem same_policies_cascade {store : ApiStore H P D} {tables : CascadeTables}
    (h : SameCollections store tables) (targetId : TargetId) (now : Timestamp) :
    SamePolicies (cascadeStore store targetId).updatePolicies
      (tables.deleteRelated targetId now).updatePolicies := by
  rw [CascadeTables.deleteRelated_eq]
  simp only [mem_selectEmptied_iff h.2]
  exact (h.2.unlinked targetId now).kept fun policyId =>
    policyId ∉ removedPolicyIds targetId store.updatePolicies

/-- **Memory and database delete alike**: a store and tables that hold the same schedules and
policies hold the same ones after the deletion of a target, with the same lists. -/
theorem cascades_agree {store : ApiStore H P D} {tables : CascadeTables}
    (h : SameCollections store tables) (targetId : TargetId) (now : Timestamp) :
    SameCollections (cascadeStore store targetId) (tables.deleteRelated targetId now) :=
  ⟨same_schedules_cascade h targetId now, same_policies_cascade h targetId now⟩

/-- A schedule and three policies, with targets listed once and more often. -/
def repeatingStore : ApiStore Unit Unit Unit where
  targets := []
  agentReports := ∅
  packageInventories := ∅
  targetDockerInventories := ∅
  enrollments := []
  enrollmentKeys := ∅
  schedules := [{ scheduleOf (patchScheduleRequest ⟨⟨7⟩⟩) 0 with
    targetIds := [⟨⟨7⟩⟩, ⟨⟨8⟩⟩, ⟨⟨7⟩⟩] }]
  updatePolicies := [{ (patchPolicyRequest [⟨⟨7⟩⟩]).policy with id := "single" },
    { (patchPolicyRequest [⟨⟨7⟩⟩, ⟨⟨7⟩⟩]).policy with id := "double" },
    (patchPolicyRequest [⟨⟨8⟩⟩, ⟨⟨7⟩⟩, ⟨⟨8⟩⟩]).policy]

/-- The same in tables, the other way round. -/
def repeatingTables : CascadeTables where
  schedules := (repeatingStore.schedules.map fun schedule => ⟨schedule, 0⟩).reverse
  updatePolicies := (repeatingStore.updatePolicies.map fun policy =>
    ⟨policy.id, .ofPolicy policy, 0⟩).reverse

theorem cascades_agree_repeating :
    SameCollections (cascadeStore repeatingStore ⟨⟨7⟩⟩)
      (repeatingTables.deleteRelated ⟨⟨7⟩⟩ 1) ∧
    (cascadeStore repeatingStore ⟨⟨7⟩⟩).updatePolicies.map (·.allowedTargets)
      = [[], [⟨⟨8⟩⟩, ⟨⟨8⟩⟩]] := by
  have hschedules : SameSchedules repeatingStore.schedules repeatingTables.schedules :=
    List.reverse_perm repeatingStore.schedules
  have hpolicies : SamePolicies repeatingStore.updatePolicies repeatingTables.updatePolicies :=
    List.reverse_perm (repeatingStore.updatePolicies.map fun policy : UpdatePolicy =>
      (policy.id, PolicyPayload.ofPolicy policy))
  exact ⟨cascades_agree ⟨hschedules, hpolicies⟩ _ _, by decide +kernel⟩

end Lxcup.Server
