import Lxcup.Persistence.Database

/-!
# The statements of a deletion, on arrays and jsonb

What `delete_with_related_data` does to schedules and policies, statement by statement, on the
columns as they are: an array of ids in a schedule, and the payload of a policy with its allowed
targets as an array of texts.  The functions of Postgres do what its documentation says.

## Main definitions

* `arrayRemove`, `equalsAny`, `jsonbContains`, `jsonbAgg` — the functions the statements use.
* `PolicyPayload`, `StoredPolicy`, `CascadeTables`.
* `CascadeTables.deleteRelated` — the statements, in their order.

## Main results

* `CascadeTables.deleteRelated_eq` — the statements as one deletion.
* `SameSchedules.unlinked`, `SamePolicies.unlinked`, `SamePolicies.mem_selectEmptied` — what they do
  to the objects that the rows hold.
-/

namespace Lxcup.Persistence

open Lxcup.Lib Lxcup.Core

/-! ### Functions of Postgres -/

/-- `array_remove(xs, x)`: every element equal to the value goes. -/
def arrayRemove {α : Type} [DecidableEq α] (xs : List α) (x : α) : List α :=
  xs.filter fun y => y ≠ x

/-- `x = ANY(xs)`. -/
def equalsAny {α : Type} [DecidableEq α] (x : α) (xs : List α) : Bool := xs.any fun y => x = y

/-- `left @> right` for arrays of texts: every element of the right one is an element of the left
one, wherever and however often. -/
def jsonbContains (left right : List String) : Bool := right.all fun text => equalsAny text left

/-- `jsonb_agg(value)`: the array of the values in their order, and null when there is none. -/
def jsonbAgg (values : List String) : Option (List String) :=
  if values = [] then none else some values

/-! ### Rows -/

/-- The text of a target id, as it is written into a payload. -/
def targetText (id : TargetId) : String := String.ofList id.uuid.toText

theorem targetText_injective {id id' : TargetId} (h : targetText id = targetText id') :
    id = id' := by
  have htext : id.uuid.toText = id'.uuid.toText := by
    simpa [targetText] using congrArg String.toList h
  cases id
  cases id'
  exact congrArg TargetId.mk (Uuid.toText_injective htext)

/-- The payload of a policy. -/
structure PolicyPayload where
  id : String
  allowedTargets : List String
  allowedPackages : List String
  maintenanceStartMinute : UInt16
  maintenanceEndMinute : UInt16
  timezone : String
  maximumRisk : UpdateRisk
  enabled : Bool
  deriving DecidableEq, Repr

/-- The payload that a policy is stored as. -/
def PolicyPayload.ofPolicy (policy : UpdatePolicy) : PolicyPayload where
  id := policy.id
  allowedTargets := policy.allowedTargets.map targetText
  allowedPackages := policy.allowedPackages
  maintenanceStartMinute := policy.maintenanceStartMinute
  maintenanceEndMinute := policy.maintenanceEndMinute
  timezone := policy.timezone
  maximumRisk := policy.maximumRisk
  enabled := policy.enabled

/-- A row of `update_policies`, as it is stored. -/
structure StoredPolicy where
  id : String
  payload : PolicyPayload
  updatedAt : Timestamp
  deriving DecidableEq, Repr

/-- The two tables of the cascade. -/
structure CascadeTables where
  schedules : List ScheduleRow
  updatePolicies : List StoredPolicy

/-! ### The statements -/

/-- `UPDATE schedules SET target_ids = array_remove(..), updated_at = NOW() WHERE $1 = ANY(..)`. -/
def removeFromSchedule (id : TargetId) (now : Timestamp) (row : ScheduleRow) : ScheduleRow :=
  if equalsAny id row.schedule.targetIds then
    ⟨{ row.schedule with targetIds := arrayRemove row.schedule.targetIds id }, now⟩
  else row

/-- `SELECT id .. WHERE payload->'allowed_targets' @> $1 AND jsonb_array_length(..) = 1`. -/
def selectEmptied (id : TargetId) (rows : List StoredPolicy) : List String :=
  (rows.filter fun row => jsonbContains row.payload.allowedTargets [targetText id]
    && row.payload.allowedTargets.length = 1).map (·.id)

/-- The payload after `jsonb_set(payload, '\x7ballowed_targets\x7d', COALESCE((SELECT
jsonb_agg(value) .. WHERE value #>> .. <> $1), '[]'))`. -/
def removeFromPayload (id : TargetId) (payload : PolicyPayload) : PolicyPayload :=
  { payload with
    allowedTargets :=
      (jsonbAgg (payload.allowedTargets.filter fun value => value ≠ targetText id)).getD [] }

/-- `UPDATE update_policies SET payload = .. WHERE payload->'allowed_targets' @> ..`. -/
def removeFromPolicy (id : TargetId) (now : Timestamp) (row : StoredPolicy) : StoredPolicy :=
  if jsonbContains row.payload.allowedTargets [targetText id] then
    ⟨row.id, removeFromPayload id row.payload, now⟩
  else row

/-- The statements on schedules and policies, one after the other. -/
def CascadeTables.deleteRelated (tables : CascadeTables) (id : TargetId) (now : Timestamp) :
    CascadeTables :=
  let schedules := tables.schedules.map (removeFromSchedule id now)
  let schedules := schedules.filter fun row => row.schedule.targetIds.length ≠ 0
  let emptied := selectEmptied id tables.updatePolicies
  let policies := tables.updatePolicies.map (removeFromPolicy id now)
  if emptied.isEmpty then ⟨schedules, policies⟩
  else
    -- the ids that the deletion returns
    let removed := (policies.filter fun row => equalsAny row.id emptied).map (·.id)
    ⟨schedules.filter fun row =>
        match row.schedule.policyId with
        | none => true
        | some policyId => !equalsAny policyId removed,
      policies.filter fun row => !equalsAny row.id emptied⟩

/-! ### What the rows hold -/

/-- The rows hold these schedules, in any order. -/
def SameSchedules (schedules : List JobSchedule) (rows : List ScheduleRow) : Prop :=
  (rows.map (·.schedule)).Perm schedules

/-- The rows hold these policies, in any order. -/
def SamePolicies (policies : List UpdatePolicy) (rows : List StoredPolicy) : Prop :=
  (rows.map fun row => (row.id, row.payload)).Perm
    (policies.map fun policy => (policy.id, PolicyPayload.ofPolicy policy))

@[simp] theorem equalsAny_iff {α : Type} [DecidableEq α] {x : α} {xs : List α} :
    equalsAny x xs = true ↔ x ∈ xs := by
  simp [equalsAny]

@[simp] theorem jsonbContains_singleton {texts : List String} {text : String} :
    jsonbContains texts [text] = true ↔ text ∈ texts := by
  simp [jsonbContains]

@[simp] theorem jsonbAgg_getD (values : List String) : (jsonbAgg values).getD [] = values := by
  unfold jsonbAgg
  split
  case isTrue h => exact h.symm
  case isFalse => rfl

/-- The update of a schedule takes the target out of its list. -/
theorem schedule_removeFromSchedule (id : TargetId) (now : Timestamp) (row : ScheduleRow) :
    (removeFromSchedule id now row).schedule = row.schedule.withoutTarget id := by
  unfold removeFromSchedule
  by_cases hlisted : id ∈ row.schedule.targetIds
  · rw [if_pos (equalsAny_iff.mpr hlisted)]
    rfl
  · rw [if_neg (by rwa [equalsAny_iff]), JobSchedule.withoutTarget_of_notMem hlisted]

/-- The update of a payload takes the target out of the policy that it holds. -/
theorem removeFromPayload_ofPolicy (id : TargetId) (policy : UpdatePolicy) :
    removeFromPayload id (.ofPolicy policy) = .ofPolicy (policy.withoutTarget id) := by
  have htexts : (policy.allowedTargets.map targetText).filter (fun value => value ≠ targetText id)
      = (policy.allowedTargets.filter (· ≠ id)).map targetText := by
    rw [List.filter_map]
    refine congrArg (List.map targetText) (List.filter_congr fun other _ => ?_)
    by_cases hother : other = id
    · simp [hother]
    · have htext : targetText other ≠ targetText id := fun h => hother (targetText_injective h)
      simp [hother, htext]
  simp only [removeFromPayload, PolicyPayload.ofPolicy, UpdatePolicy.withoutTarget, jsonbAgg_getD,
    htexts]

theorem removeFromPolicy_id (id : TargetId) (now : Timestamp) (row : StoredPolicy) :
    (removeFromPolicy id now row).id = row.id := by
  unfold removeFromPolicy
  split <;> rfl

/-- The update of a row takes the target out of its payload: a payload that does not list the target
stays as it is. -/
theorem removeFromPolicy_payload (id : TargetId) (now : Timestamp) (row : StoredPolicy) :
    (removeFromPolicy id now row).payload = removeFromPayload id row.payload := by
  unfold removeFromPolicy
  split
  case isTrue => rfl
  case isFalse hlisted =>
    rw [jsonbContains_singleton] at hlisted
    rw [removeFromPayload, jsonbAgg_getD, filter_ne_of_notMem hlisted]

/-- The selection finds the policies that allow the target and no other. -/
theorem mem_selectEmptied {id : TargetId} {rows : List StoredPolicy} {policyId : String} :
    policyId ∈ selectEmptied id rows ↔
      ∃ row ∈ rows, policyId = row.id ∧ row.payload.allowedTargets = [targetText id] := by
  have hone : ∀ texts : List String,
      (targetText id ∈ texts ∧ texts.length = 1) ↔ texts = [targetText id] := by
    intro texts
    rw [List.length_eq_one_iff]
    constructor
    · rintro ⟨hmem, other, rfl⟩
      rw [List.mem_singleton.mp hmem]
    · rintro rfl
      exact ⟨List.mem_singleton_self _, targetText id, rfl⟩
  simp only [selectEmptied, List.mem_map, List.mem_filter, Bool.and_eq_true,
    jsonbContains_singleton, decide_eq_true_eq, hone]
  constructor
  · rintro ⟨row, ⟨hrow, hallowed⟩, rfl⟩
    exact ⟨row, hrow, rfl, hallowed⟩
  · rintro ⟨row, hrow, rfl, hallowed⟩
    exact ⟨row, ⟨hrow, hallowed⟩, rfl⟩

/-- The ids that the deletion of the emptied policies returns are those that were selected. -/
theorem mem_removed {id : TargetId} {now : Timestamp} {rows : List StoredPolicy}
    {policyId : String} :
    policyId ∈ (((rows.map (removeFromPolicy id now)).filter fun row =>
        equalsAny row.id (selectEmptied id rows)).map (·.id)) ↔
      policyId ∈ selectEmptied id rows := by
  simp only [List.mem_map, List.mem_filter, equalsAny_iff]
  constructor
  · rintro ⟨_, ⟨-, hemptied⟩, rfl⟩
    exact hemptied
  · intro hemptied
    obtain ⟨row, hrow, rfl, -⟩ := mem_selectEmptied.mp hemptied
    refine ⟨removeFromPolicy id now row, ⟨⟨row, hrow, rfl⟩, ?_⟩, removeFromPolicy_id ..⟩
    rwa [removeFromPolicy_id]

/-- **The statements as one deletion**: what goes with the emptied policies goes also where no
policy was emptied, since nothing does then. -/
theorem CascadeTables.deleteRelated_eq (tables : CascadeTables) (id : TargetId)
    (now : Timestamp) :
    tables.deleteRelated id now =
      ⟨((tables.schedules.map (removeFromSchedule id now)).filter fun row =>
          row.schedule.targetIds.length ≠ 0).filter fun row =>
          ¬ ∃ policyId ∈ row.schedule.policyId,
            policyId ∈ selectEmptied id tables.updatePolicies,
        (tables.updatePolicies.map (removeFromPolicy id now)).filter fun row =>
          row.id ∉ selectEmptied id tables.updatePolicies⟩ := by
  unfold deleteRelated
  simp only
  split
  case isTrue hnone =>
    rw [List.isEmpty_iff.mp hnone]
    congr 1
    · rw [eq_comm, List.filter_eq_self]
      simp
    · rw [eq_comm, List.filter_eq_self]
      simp
  case isFalse =>
    congr 1
    · refine List.filter_congr fun row _ => ?_
      cases hpolicy : row.schedule.policyId with
      | none => simp
      | some policyId =>
        rw [Bool.eq_iff_iff]
        simp only [Bool.not_eq_true', Bool.eq_false_iff, ne_eq, equalsAny_iff, mem_removed,
          Option.mem_def, Option.some.injEq, exists_eq_left', decide_eq_true_eq]
    · refine List.filter_congr fun row _ => ?_
      rw [Bool.eq_iff_iff]
      simp only [Bool.not_eq_true', Bool.eq_false_iff, ne_eq, equalsAny_iff, decide_eq_true_eq]

/-! ### Rows and objects -/

section Same

variable {schedules : List JobSchedule} {scheduleRows : List ScheduleRow}
  {policies : List UpdatePolicy} {policyRows : List StoredPolicy}

/-- The update of the rows is the removal from the schedules. -/
theorem SameSchedules.unlinked (h : SameSchedules schedules scheduleRows) (id : TargetId)
    (now : Timestamp) :
    SameSchedules (schedules.map (·.withoutTarget id))
      (scheduleRows.map (removeFromSchedule id now)) := by
  have hrows : (scheduleRows.map (removeFromSchedule id now)).map (·.schedule)
      = (scheduleRows.map (·.schedule)).map (·.withoutTarget id) := by
    simp only [List.map_map, Function.comp_def, schedule_removeFromSchedule]
  show ((scheduleRows.map (removeFromSchedule id now)).map (·.schedule)).Perm _
  rw [hrows]
  exact h.map _

/-- A deletion that looks at the schedule of a row. -/
theorem SameSchedules.kept (h : SameSchedules schedules scheduleRows)
    (keeps : JobSchedule → Bool) :
    SameSchedules (schedules.filter keeps) (scheduleRows.filter fun row => keeps row.schedule) := by
  have hkept := List.Perm.filter keeps h
  rwa [List.filter_map] at hkept

/-- A row for each policy. -/
theorem SamePolicies.exists_row (h : SamePolicies policies policyRows) {policy : UpdatePolicy}
    (hpolicy : policy ∈ policies) :
    ∃ row ∈ policyRows, row.id = policy.id ∧ row.payload = .ofPolicy policy := by
  have hmem : (policy.id, PolicyPayload.ofPolicy policy) ∈
      policyRows.map fun row => (row.id, row.payload) :=
    (List.Perm.mem_iff h).mpr (List.mem_map.mpr ⟨policy, hpolicy, rfl⟩)
  obtain ⟨row, hrow, heq⟩ := List.mem_map.mp hmem
  rw [Prod.mk.injEq] at heq
  exact ⟨row, hrow, heq⟩

/-- A policy for each row. -/
theorem SamePolicies.exists_policy (h : SamePolicies policies policyRows) {row : StoredPolicy}
    (hrow : row ∈ policyRows) :
    ∃ policy ∈ policies, row.id = policy.id ∧ row.payload = .ofPolicy policy := by
  have hmem : (row.id, row.payload) ∈
      policies.map fun policy => (policy.id, PolicyPayload.ofPolicy policy) :=
    (List.Perm.mem_iff h).mp (List.mem_map.mpr ⟨row, hrow, rfl⟩)
  obtain ⟨policy, hpolicy, heq⟩ := List.mem_map.mp hmem
  rw [Prod.mk.injEq] at heq
  exact ⟨policy, hpolicy, heq.1.symm, heq.2.symm⟩

/-- The selection finds the policies that allow the target and no other. -/
theorem SamePolicies.mem_selectEmptied (h : SamePolicies policies policyRows) {id : TargetId}
    {policyId : String} :
    policyId ∈ selectEmptied id policyRows ↔
      ∃ policy ∈ policies, policyId = policy.id ∧ policy.allowedTargets = [id] := by
  have hone : ∀ policy : UpdatePolicy,
      (PolicyPayload.ofPolicy policy).allowedTargets = [targetText id] ↔
        policy.allowedTargets = [id] := by
    intro policy
    show policy.allowedTargets.map targetText = [id].map targetText ↔ _
    exact (List.map_injective_iff.mpr fun _ _ => targetText_injective).eq_iff
  rw [Persistence.mem_selectEmptied]
  constructor
  · rintro ⟨row, hrow, rfl, hallowed⟩
    obtain ⟨policy, hpolicy, hid, hpayload⟩ := h.exists_policy hrow
    rw [hpayload, hone] at hallowed
    exact ⟨policy, hpolicy, hid, hallowed⟩
  · rintro ⟨policy, hpolicy, rfl, hallowed⟩
    obtain ⟨row, hrow, hid, hpayload⟩ := h.exists_row hpolicy
    rw [← hone, ← hpayload] at hallowed
    exact ⟨row, hrow, hid.symm, hallowed⟩

/-- The update of the rows is the removal from the policies. -/
theorem SamePolicies.unlinked (h : SamePolicies policies policyRows) (id : TargetId)
    (now : Timestamp) :
    SamePolicies (policies.map (·.withoutTarget id))
      (policyRows.map (removeFromPolicy id now)) := by
  have hrows : (policyRows.map (removeFromPolicy id now)).map (fun row => (row.id, row.payload))
      = (policyRows.map fun row => (row.id, row.payload)).map
          (Prod.map (fun policyId => policyId) (removeFromPayload id)) := by
    simp only [List.map_map, Function.comp_def, Prod.map_apply, removeFromPolicy_id,
      removeFromPolicy_payload]
  have hpolicies : (policies.map (·.withoutTarget id)).map
        (fun policy => (policy.id, PolicyPayload.ofPolicy policy))
      = (policies.map fun policy => (policy.id, PolicyPayload.ofPolicy policy)).map
          (Prod.map (fun policyId => policyId) (removeFromPayload id)) := by
    simp only [List.map_map, Function.comp_def, Prod.map_apply, removeFromPayload_ofPolicy]
    rfl
  show (List.map _ _).Perm (List.map _ _)
  rw [hrows, hpolicies]
  exact List.Perm.map _ h

/-- A deletion that looks at the id of a row. -/
theorem SamePolicies.kept (h : SamePolicies policies policyRows) (keeps : String → Bool) :
    SamePolicies (policies.filter fun policy => keeps policy.id)
      (policyRows.filter fun row => keeps row.id) := by
  have hkept := List.Perm.filter (fun columns => keeps columns.1) h
  rwa [List.filter_map, List.filter_map] at hkept

end Same

end Lxcup.Persistence
