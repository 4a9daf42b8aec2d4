import Lxcup.Lib.Machine
import Lxcup.Lib.WriteBehind
import Lxcup.Server.Upkeep

/-!
# The standard policy in memory and in the database

The standard policy lists all registered targets.  Every request that creates a target extends it
after the target is in the store: it reads the registered ids, reads the policy, writes the extended
policy to the database, and puts it in the place of the one in memory.  Nothing is locked over these
steps.  A deletion takes its target out of the policy in the database, in a transaction, and out of
the one in memory with the target itself.

The database answers every call here, and one deletion is under way at a time, because a deletion
holds the locks of the scheduler and of the coordinator.  Requests that are refused change nothing
and are left out, and so are the other policies.

## Main definitions

* `PolicyCall`, `Deletion`, `PolicyState`, `PolicyAction`, `policyMachine`.
* `PolicyState.Covered` — the policy lists the registered targets and no other ones, in memory and
  in the database, once every request is answered.
* `KeepsCovered` — a policy that is written is right about every target, or another request will
  write one that is.

## Main results

* `covered_of_reach` — the policy covers the targets in every run of which all steps meet the
  condition, and every other step gets it out of step.
* `extension_lost` — two targets that are created at once, and one of them not in the policy of the
  database.
-/

namespace Lxcup.WriteBack

open Lxcup.Lib Lxcup.Core Lxcup.Server

/-- How far a request has come that extends the standard policy. -/
inductive PolicyCall
  /-- The target has its row, and is to be put into the store. -/
  | registering (target : Target)
  /-- The registered ids are read next. -/
  | collecting
  /-- The policy is read next. -/
  | reading (targetIds : List TargetId)
  /-- The extended policy is written to the database; it may be new. -/
  | persisting (policy : UpdatePolicy) (alreadyExists : Bool)
  /-- A new policy was in the database already, and its row is read next. -/
  | merging (policy : UpdatePolicy)
  /-- The extended row is written. -/
  | saving (policy : UpdatePolicy)
  /-- The policy is put into the store. -/
  | installing (policy : UpdatePolicy)
  | answered
  deriving DecidableEq, Repr

/-- How far the deletion of a target has come. -/
inductive Deletion
  | checked (targetId : TargetId)
  /-- Within the transaction it is known whether the policy allows no other target. -/
  | selected (targetId : TargetId) (emptied : Bool)
  /-- The transaction is committed. -/
  | removed (targetId : TargetId)
  deriving DecidableEq, Repr

/-- The targets and the standard policy in memory, their rows, and what is under way. -/
structure PolicyState where
  targets : Table TargetId Target
  targetRows : Table TargetId Target
  policy : Option UpdatePolicy
  policyRow : Option UpdatePolicy
  calls : Table Nat PolicyCall
  deletion : Option Deletion

namespace PolicyState

variable (s : PolicyState) (n : Nat)

/-- A request goes on. -/
def enter (call : PolicyCall) : PolicyState := { s with calls := s.calls.put n call }

/-- `registered_target_ids`. -/
def registeredTargetIds : List TargetId := sortTargetIds s.targets.keys

/-- The policy is saved, and is to be put into the store. -/
def persisted (policy : UpdatePolicy) : PolicyState :=
  { s.enter n (.installing policy) with policyRow := some policy }

/-- The next step of `create_target`, with `ensure_default_update_policies`,
`persist_new_standard_policy` and `merge_concurrent_standard_policy`. -/
def goOn : PolicyCall → Option PolicyState
  | .registering target =>
    some { s.enter n .collecting with targets := s.targets.put target.id target }
  | .collecting =>
    some (s.enter n (if s.registeredTargetIds = [] then .answered
      else .reading s.registeredTargetIds))
  | .reading targetIds =>
    let before := s.policy.getD (defaultUpdatePolicy targetIds)
    let policy := extendPolicy before targetIds
    -- the policy in memory has them all: nothing is written, to the database neither
    if s.policy.isSome && policy.allowedTargets.length = before.allowedTargets.length then
      some (s.enter n .answered)
    else some (s.enter n (.persisting policy s.policy.isSome))
  | .persisting policy alreadyExists =>
    if alreadyExists then some (s.persisted n policy)
    else
      -- `save_if_absent`
      match s.policyRow with
      | none => some (s.persisted n policy)
      | some _ => some (s.enter n (.merging policy))
  | .merging policy =>
    match s.policyRow with
    -- a deletion has taken the row away in between
    | none => some (s.enter n .answered)
    | some row =>
      let current := extendPolicy row policy.allowedTargets
      if current.allowedTargets.length = row.allowedTargets.length then
        some (s.enter n (.installing current))
      else some (s.enter n (.saving current))
  | .saving policy => some (s.persisted n policy)
  | .installing policy => some { s.enter n .answered with policy := some policy }
  | .answered => none

end PolicyState

/-- A policy without a target; a policy that allows no other one is dropped. -/
def dropTarget (targetId : TargetId) (policy : UpdatePolicy) : Option UpdatePolicy :=
  if policy.allowedTargets = [targetId] then none else some (policy.withoutTarget targetId)

/-- The steps. -/
inductive PolicyAction
  /-- The row of a new target is inserted. -/
  | createTarget (n : Nat) (target : Target)
  /-- The policies are listed, for which the standard policy is extended as well. -/
  | listUpdatePolicies (n : Nat)
  | goOn (n : Nat)
  | deleteTarget (targetId : TargetId)
  /-- The transaction reads which policies it empties, unless the target has no row. -/
  | select
  /-- The target is busy in the database. -/
  | refuse
  | commit
  /-- The deletion in the store. -/
  | remove
  deriving DecidableEq, Repr

/-- The state after a step. -/
def PolicyState.step (s : PolicyState) : PolicyAction → Option PolicyState
  | .createTarget n target =>
    -- the id is a new one
    if (s.calls.get n).isNone && (s.targetRows.get target.id).isNone
        && (s.targets.get target.id).isNone then
      some { s.enter n (.registering target) with
        targetRows := s.targetRows.put target.id target }
    else none
  | .listUpdatePolicies n =>
    if (s.calls.get n).isNone then some (s.enter n .collecting) else none
  | .goOn n => (s.calls.get n).bind (s.goOn n)
  | .deleteTarget targetId =>
    if s.deletion.isNone && (s.targets.get targetId).isSome then
      some { s with deletion := some (.checked targetId) }
    else none
  | .select =>
    match s.deletion with
    | some (.checked targetId) =>
      if (s.targetRows.get targetId).isSome then
        some { s with
          deletion := some (.selected targetId
            (s.policyRow.any fun row => row.allowedTargets = [targetId])) }
      else some { s with deletion := none }
    | _ => none
  | .refuse =>
    match s.deletion with
    | some (.checked _) => some { s with deletion := none }
    | _ => none
  | .commit =>
    match s.deletion with
    | some (.selected targetId emptied) =>
      -- a policy that was found emptied goes, whatever has been saved since
      some { s with
        targetRows := s.targetRows.remove targetId
        policyRow := if emptied then none else s.policyRow.map (·.withoutTarget targetId)
        deletion := some (.removed targetId) }
    | _ => none
  | .remove =>
    match s.deletion with
    | some (.removed targetId) =>
      some { s with
        targets := s.targets.remove targetId
        policy := s.policy.bind (dropTarget targetId)
        deletion := none }
    | _ => none

/-- The policy allows the target. -/
def Allows (policy : Option UpdatePolicy) (targetId : TargetId) : Prop :=
  ∃ found, policy = some found ∧ targetId ∈ found.allowedTargets

namespace PolicyState

/-- The standard policy lists the registered targets and no other ones, in memory and in the
database. -/
def ListsTargets (s : PolicyState) : Prop :=
  ∀ id, ((s.targets.get id).isSome = true ↔ Allows s.policy id) ∧
    ((s.targets.get id).isSome = true ↔ Allows s.policyRow id)

/-- The standard policy lists the registered targets when every request is answered. -/
def Covered (s : PolicyState) : Prop :=
  (∀ n call, s.calls.get n = some call → call = .answered) → s.deletion = none → s.ListsTargets

end PolicyState

/-- The standard policy, from a moment on at which no request is under way and it lists the
targets, each once. -/
def policyMachine : Machine PolicyState PolicyAction where
  init s :=
    s.ListsTargets ∧ (∀ policy, s.policy = some policy → policy.allowedTargets.Nodup) ∧
      (∀ row, s.policyRow = some row → row.allowedTargets.Nodup) ∧ s.calls = ∅ ∧ s.deletion = none
  step := PolicyState.step

/-! ### What requests promise -/

/-- Whether a policy lists a target. -/
def listed (policy : Option UpdatePolicy) (targetId : TargetId) : Option Bool :=
  some (policy.any fun found => found.allowedTargets.contains targetId)

/-- How the policy will be that a request is going to write.  Before the request has made it, and
as long as it may be merged with a row, it promises only what it will list. -/
def PolicyCall.promises : PolicyCall → TargetId → Bool → Prop
  | .registering _, _, _ => False
  | .collecting, _, value => value = true
  | .reading targetIds, id, value => value = true ∧ id ∈ targetIds
  | .persisting policy true, id, value => listed (some policy) id = some value
  | .persisting policy false, id, value => value = true ∧ id ∈ policy.allowedTargets
  | .merging policy, id, value => value = true ∧ id ∈ policy.allowedTargets
  | .saving policy, id, value => listed (some policy) id = some value
  | .installing policy, id, value => listed (some policy) id = some value
  | .answered, _, _ => False

/-- What a request promises of the policy in the database. -/
def PolicyCall.promisesRow : PolicyCall → TargetId → Bool → Prop
  | .installing _, _, _ => False
  | call, id, value => call.promises id value

instance : ∀ (call : PolicyCall) (id : TargetId) (value : Bool),
    Decidable (call.promises id value)
  | .registering _, _, _ | .answered, _, _ => instDecidableFalse
  | .collecting, _, value => inferInstanceAs (Decidable (value = true))
  | .reading targetIds, id, value =>
    inferInstanceAs (Decidable (value = true ∧ id ∈ targetIds))
  | .persisting policy true, id, value | .saving policy, id, value
  | .installing policy, id, value =>
    inferInstanceAs (Decidable (listed (some policy) id = some value))
  | .persisting policy false, id, value | .merging policy, id, value =>
    inferInstanceAs (Decidable (value = true ∧ id ∈ policy.allowedTargets))

instance (call : PolicyCall) (id : TargetId) (value : Bool) :
    Decidable (call.promisesRow id value) := by
  cases call
  case installing => exact instDecidableFalse
  all_goals
    unfold PolicyCall.promisesRow
    infer_instance

namespace PolicyState

variable (s : PolicyState)

/-- Whether a target is registered. -/
def registered (id : TargetId) : Option Bool := some (s.targets.get id).isSome

/-- Whether a target is registered and not deleted in the database. -/
def remaining (id : TargetId) : Option Bool :=
  some ((s.targets.get id).isSome && s.deletion ≠ some (.removed id))

/-- The policies are right about every target, or some request will write one that is. -/
structure Covering : Prop where
  memory : InStep s.registered (listed s.policy) (Promised PolicyCall.promises s.calls)
  row : InStep s.remaining (listed s.policyRow) (Promised PolicyCall.promisesRow s.calls)

/-- A policy in memory is right about every target, or a request other than this one will write one
that is. -/
def MemoryRight (n : Nat) (policy : Option UpdatePolicy) : Prop :=
  InStep s.registered (listed policy) (PromisedElsewhere PolicyCall.promises s.calls n)

/-- A policy in the database is right about every target, or a request other than this one will
write one that is. -/
def RowRight (n : Nat) (policy : Option UpdatePolicy) : Prop :=
  InStep s.remaining (listed policy) (PromisedElsewhere PolicyCall.promisesRow s.calls n)

/-- **What the next step of a request leaves is right**: the policy that it writes, or the policies
that are there when it ends without a write. -/
def LeavesRight (n : Nat) : PolicyCall → Prop
  | .reading targetIds =>
    (∃ policy, s.policy = some policy ∧ ∀ id ∈ targetIds, id ∈ policy.allowedTargets) →
      s.RowRight n s.policyRow
  | .persisting policy alreadyExists =>
    alreadyExists = true ∨ s.policyRow = none → s.RowRight n (some policy)
  | .merging _ => s.policyRow = none → s.MemoryRight n s.policy ∧ s.RowRight n none
  | .saving policy => s.RowRight n (some policy)
  | .installing policy => s.MemoryRight n (some policy)
  | .registering _ | .collecting | .answered => True

/-- **The row of a policy that was found emptied can go**: every other registered target is one that
some request will add to the policy. -/
def EmptiedRight (targetId : TargetId) : Prop :=
  ∀ id, id ≠ targetId → (s.targets.get id).isSome = true →
    Promised PolicyCall.promisesRow s.calls id true

end PolicyState

/-- The condition on a step. -/
def KeepsCovered (s : PolicyState) : PolicyAction → Prop
  | .goOn n => ∀ call, s.calls.get n = some call → s.LeavesRight n call
  | .commit => ∀ targetId, s.deletion = some (.selected targetId true) → s.EmptiedRight targetId
  | _ => True

variable {s s' : PolicyState} {n : Nat} {call : PolicyCall}

/-! ### Lists of targets -/

theorem listed_eq_true_iff {policy : Option UpdatePolicy} {id : TargetId} :
    listed policy id = some true ↔ Allows policy id := by
  simp [listed, Allows, Option.any_eq_true]

@[simp] theorem listed_some_iff {policy : UpdatePolicy} {id : TargetId} :
    listed (some policy) id = some true ↔ id ∈ policy.allowedTargets := by
  simp [listed]

theorem listed_withoutTarget (policy : Option UpdatePolicy) (targetId id : TargetId) :
    listed (policy.map (·.withoutTarget targetId)) id =
      if id = targetId then some false else listed policy id := by
  cases policy with
  | none => simp [listed]
  | some found =>
    by_cases heq : id = targetId
    · simp [listed, UpdatePolicy.withoutTarget, heq]
    · simp [listed, UpdatePolicy.withoutTarget, heq]

/-- A policy that is dropped with its last target listed no other one. -/
theorem listed_dropTarget (policy : Option UpdatePolicy) (targetId id : TargetId) :
    listed (policy.bind (dropTarget targetId)) id =
      if id = targetId then some false else listed policy id := by
  cases policy with
  | none => simp [listed]
  | some found =>
    rw [Option.bind_some, dropTarget]
    split
    case isTrue honly =>
      by_cases heq : id = targetId
      · simp [listed, heq]
      · simp [listed, honly, heq]
    case isFalse => exact listed_withoutTarget (some found) targetId id

/-- The policy of a request. -/
def PolicyCall.policy : PolicyCall → Option UpdatePolicy
  | persisting policy _ => some policy
  | merging policy => some policy
  | saving policy => some policy
  | installing policy => some policy
  | registering _ | collecting | reading _ | answered => none

/-- Every policy lists its targets once. -/
structure Distinct (s : PolicyState) : Prop where
  memory : ∀ policy, s.policy = some policy → policy.allowedTargets.Nodup
  row : ∀ row, s.policyRow = some row → row.allowedTargets.Nodup
  calls : ∀ n call policy, s.calls.get n = some call → call.policy = some policy →
    policy.allowedTargets.Nodup

theorem Distinct.enter (h : Distinct s) (n : Nat)
    (hcall : ∀ policy, call.policy = some policy → policy.allowedTargets.Nodup) :
    Distinct (s.enter n call) := by
  refine ⟨h.memory, h.row, fun m call' policy hget hpolicy => ?_⟩
  rcases Table.get_put_cases hget with ⟨-, rfl⟩ | ⟨-, hold⟩
  · exact hcall policy hpolicy
  · exact h.calls m call' policy hold hpolicy

/-- A request goes on without a policy of its own. -/
theorem Distinct.enterNone (h : Distinct s) (n : Nat) (hcall : call.policy = none) :
    Distinct (s.enter n call) := by
  refine h.enter n fun policy hpolicy => ?_
  rw [hcall] at hpolicy
  cases hpolicy

/-- A request goes on with a policy that lists its targets once. -/
theorem Distinct.enterSome {policy : UpdatePolicy} (h : Distinct s) (n : Nat)
    (hcall : call.policy = some policy) (hnodup : policy.allowedTargets.Nodup) :
    Distinct (s.enter n call) := by
  refine h.enter n fun policy' hpolicy => ?_
  rw [hcall] at hpolicy
  cases hpolicy
  exact hnodup

theorem Distinct.persisted {policy : UpdatePolicy} (h : Distinct s) (n : Nat)
    (hnodup : policy.allowedTargets.Nodup) : Distinct (s.persisted n policy) := by
  have hentered : Distinct (s.enter n (.installing policy)) := h.enterSome n rfl hnodup
  refine ⟨hentered.memory, fun row hrow => ?_, hentered.calls⟩
  cases hrow
  exact hnodup

theorem Distinct.goOn (h : Distinct s) (hcall : s.calls.get n = some call)
    (hs : s.goOn n call = some s') : Distinct s' := by
  cases call with
  | registering target =>
    cases hs
    have hentered : Distinct (s.enter n .collecting) := h.enterNone n rfl
    exact ⟨hentered.memory, hentered.row, hentered.calls⟩
  | collecting =>
    cases hs
    refine h.enterNone n ?_
    split <;> rfl
  | reading targetIds =>
    simp only [PolicyState.goOn] at hs
    split at hs
    case isTrue =>
      cases hs
      exact h.enterNone n rfl
    case isFalse =>
      cases hs
      exact h.enterSome n rfl (nodup_sortTargetIds _)
  | persisting policy alreadyExists =>
    have hnodup := h.calls n _ policy hcall rfl
    simp only [PolicyState.goOn] at hs
    split at hs
    case isTrue =>
      cases hs
      exact h.persisted n hnodup
    case isFalse =>
      split at hs
      case h_1 =>
        cases hs
        exact h.persisted n hnodup
      case h_2 =>
        cases hs
        exact h.enterSome n rfl hnodup
  | merging policy =>
    simp only [PolicyState.goOn] at hs
    split at hs
    case h_1 =>
      cases hs
      exact h.enterNone n rfl
    case h_2 row hrow =>
      have hnodup : (extendPolicy row policy.allowedTargets).allowedTargets.Nodup :=
        nodup_sortTargetIds _
      split at hs
      case isTrue =>
        cases hs
        exact h.enterSome n rfl hnodup
      case isFalse =>
        cases hs
        exact h.enterSome n rfl hnodup
  | saving policy =>
    cases hs
    exact h.persisted n (h.calls n _ policy hcall rfl)
  | installing policy =>
    cases hs
    have hentered : Distinct (s.enter n .answered) := h.enterNone n rfl
    refine ⟨fun policy' hpolicy => ?_, hentered.row, hentered.calls⟩
    cases hpolicy
    exact h.calls n _ policy hcall rfl
  | answered => cases hs

theorem Distinct.step {a : PolicyAction} (h : Distinct s) (hs : s.step a = some s') :
    Distinct s' := by
  cases a with
  | createTarget n target =>
    obtain ⟨-, hs⟩ := Option.ite_none_right_eq_some.mp hs
    cases hs
    have hentered : Distinct (s.enter n (.registering target)) := h.enterNone n rfl
    exact ⟨hentered.memory, hentered.row, hentered.calls⟩
  | listUpdatePolicies n =>
    obtain ⟨-, hs⟩ := Option.ite_none_right_eq_some.mp hs
    cases hs
    exact h.enterNone n rfl
  | goOn n =>
    obtain ⟨call, hcall, hs⟩ := Option.bind_eq_some_iff.mp hs
    exact h.goOn hcall hs
  | deleteTarget targetId =>
    obtain ⟨-, hs⟩ := Option.ite_none_right_eq_some.mp hs
    cases hs
    exact ⟨h.memory, h.row, h.calls⟩
  | select =>
    simp only [PolicyState.step] at hs
    split at hs
    case h_1 =>
      split at hs <;> cases hs <;> exact ⟨h.memory, h.row, h.calls⟩
    case h_2 => cases hs
  | refuse =>
    simp only [PolicyState.step] at hs
    split at hs
    case h_1 =>
      cases hs
      exact ⟨h.memory, h.row, h.calls⟩
    case h_2 => cases hs
  | commit =>
    simp only [PolicyState.step] at hs
    split at hs
    case h_1 targetId emptied hdeletion =>
      cases hs
      refine ⟨h.memory, fun row hrow => ?_, h.calls⟩
      dsimp only at hrow
      split at hrow
      case isTrue => cases hrow
      case isFalse =>
        obtain ⟨old, hold, rfl⟩ := Option.map_eq_some_iff.mp hrow
        exact (h.row old hold).filter _
    case h_2 => cases hs
  | remove =>
    simp only [PolicyState.step] at hs
    split at hs
    case h_1 targetId hdeletion =>
      cases hs
      refine ⟨fun policy hpolicy => ?_, h.row, h.calls⟩
      obtain ⟨old, hold, hdrop⟩ := Option.bind_eq_some_iff.mp hpolicy
      obtain ⟨-, hdrop⟩ := Option.ite_none_left_eq_some.mp hdrop
      cases hdrop
      exact (h.memory old hold).filter _
    case h_2 => cases hs

/-! ### What a request keeps -/

theorem registered_eq_true_iff {id : TargetId} :
    s.registered id = some true ↔ id ∈ s.registeredTargetIds := by
  rw [PolicyState.registered, Option.some.injEq, PolicyState.registeredTargetIds,
    mem_sortTargetIds, Option.isSome_iff_exists]
  exact Table.mem_keys.symm

theorem registered_of_remaining {id : TargetId} (h : s.remaining id = some true) :
    s.registered id = some true := by
  rw [PolicyState.remaining, Option.some.injEq, Bool.and_eq_true] at h
  rw [PolicyState.registered, h.1]

/-- A request is new. -/
theorem PolicyState.Covering.enterNew (h : s.Covering) (hnew : s.calls.get n = none) :
    (s.enter n call).Covering :=
  ⟨InStep.joins h.memory hnew, InStep.joins h.row hnew⟩

/-- A request goes on without a change of the policies.  It has promised to list these targets, and
each of them is listed or will be. -/
theorem PolicyState.Covering.enterListing {call' : PolicyCall} {ids : List TargetId}
    (h : s.Covering) (hcall : s.calls.get n = some call)
    (hmemory : ∀ id value, s.registered id = some value → call.promises id value →
      value = true ∧ id ∈ ids)
    (hrow : ∀ id value, s.remaining id = some value → call.promisesRow id value →
      value = true ∧ id ∈ ids)
    (hmemory' : ∀ id ∈ ids, listed s.policy id = some true ∨ call'.promises id true)
    (hrow' : ∀ id ∈ ids, listed s.policyRow id = some true ∨ call'.promisesRow id true) :
    (s.enter n call').Covering := by
  refine ⟨InStep.goesOnFrom h.memory hcall ?_, InStep.goesOnFrom h.row hcall ?_⟩
  · intro id value hregistered hpromise
    obtain ⟨rfl, hmem⟩ := hmemory id value hregistered hpromise
    exact hmemory' id hmem
  · intro id value hremaining hpromise
    obtain ⟨rfl, hmem⟩ := hrow id value hremaining hpromise
    exact hrow' id hmem

/-- A target is put into the store, and its request promises that it will be listed. -/
theorem covering_registering {target : Target} (h : s.Covering)
    (hcall : s.calls.get n = some (.registering target)) :
    PolicyState.Covering
      { s.enter n .collecting with targets := s.targets.put target.id target } := by
  have hsilent : ∀ call, s.calls.get n = some call → call = .registering target := by
    intro call hget
    rw [hcall] at hget
    cases hget
    rfl
  refine ⟨InStep.change h.memory (fun id => ?_) fun id value hpromised => hpromised.put ?_,
    InStep.change h.row (fun id => ?_) fun id value hpromised => hpromised.put ?_⟩
  · by_cases heq : id = target.id
    · refine .inr ⟨true, ?_, promised_put.mpr (.inl rfl)⟩
      rw [PolicyState.registered, heq, Table.get_put_self, Option.isSome_some]
    · refine .inl ?_
      rw [PolicyState.registered, Table.get_put_ne _ _ heq, PolicyState.registered]
  · intro call hget
    rw [hsilent call hget]
    exact not_false
  · by_cases heq : id = target.id
    · -- the deletion of a target of this id is not over yet
      by_cases hremoved : s.deletion = some (.removed id)
      · refine .inl ?_
        simp [PolicyState.remaining, PolicyState.enter, hremoved]
      · refine .inr ⟨true, ?_, promised_put.mpr (.inl rfl)⟩
        subst heq
        simp [PolicyState.remaining, PolicyState.enter, hremoved]
    · refine .inl ?_
      unfold PolicyState.remaining
      rw [Table.get_put_ne _ _ heq]
      rfl
  · intro call hget
    rw [hsilent call hget]
    exact not_false

/-- The registered ids are read, and a target that is registered is among them. -/
theorem covering_collecting (h : s.Covering) (hcall : s.calls.get n = some .collecting) :
    (s.enter n (if s.registeredTargetIds = [] then .answered
      else .reading s.registeredTargetIds)).Covering := by
  have hreads : ∀ id ∈ s.registeredTargetIds,
      (if s.registeredTargetIds = [] then PolicyCall.answered
        else .reading s.registeredTargetIds) = .reading s.registeredTargetIds := by
    intro id hmem
    exact if_neg fun hnil => List.not_mem_nil (hnil ▸ hmem)
  have hmem : ∀ id value, s.registered id = some value → value = true →
      value = true ∧ id ∈ s.registeredTargetIds := by
    intro id value hregistered htrue
    exact ⟨htrue, registered_eq_true_iff.mp (htrue ▸ hregistered)⟩
  refine h.enterListing hcall hmem (fun id value hremaining htrue => ?_) (fun id hid => .inr ?_)
    fun id hid => .inr ?_
  · exact hmem id value (htrue ▸ registered_of_remaining (htrue ▸ hremaining)) htrue
  · rw [hreads id hid]
    exact ⟨rfl, hid⟩
  · rw [hreads id hid]
    exact ⟨rfl, hid⟩

/-- A policy that is to be persisted will list what it lists. -/
theorem promises_persisting {policy : UpdatePolicy} {alreadyExists : Bool} {id : TargetId}
    (h : id ∈ policy.allowedTargets) :
    PolicyCall.promises (.persisting policy alreadyExists) id true := by
  cases alreadyExists with
  | true => exact listed_some_iff.mpr h
  | false => exact ⟨rfl, h⟩

/-- A request that has read the registered ids ends if the policy in memory has them all. -/
theorem covering_reading_iff {targetIds : List TargetId} (hdistinct : Distinct s) (h : s.Covering)
    (hcall : s.calls.get n = some (.reading targetIds))
    (hs : s.goOn n (.reading targetIds) = some s') :
    s'.Covering ↔ s.LeavesRight n (.reading targetIds) := by
  have hsame : (∃ policy, s.policy = some policy ∧ ∀ id ∈ targetIds, id ∈ policy.allowedTargets) ↔
      (s.policy.isSome && (extendPolicy (s.policy.getD (defaultUpdatePolicy targetIds))
        targetIds).allowedTargets.length =
          (s.policy.getD (defaultUpdatePolicy targetIds)).allowedTargets.length) = true := by
    cases hpolicy : s.policy with
    | none => simp
    | some policy => simp [length_extendPolicy_iff (hdistinct.memory policy hpolicy)]
  simp only [PolicyState.goOn] at hs
  split at hs
  case isTrue hall =>
    cases hs
    obtain ⟨policy, hpolicy, hlists⟩ := hsame.mpr hall
    constructor
    · intro hcovering _
      exact (inStep_put_iff fun _ _ => not_false).mp hcovering.row
    · intro hright
      refine ⟨InStep.goesOnFrom h.memory hcall ?_, (inStep_put_iff fun _ _ => not_false).mpr
        (hright ⟨policy, hpolicy, hlists⟩)⟩
      intro id value _ hpromise
      obtain ⟨rfl, hmem⟩ := hpromise
      refine .inl ?_
      show listed s.policy id = some true
      rw [hpolicy, listed_some_iff]
      exact hlists id hmem
  case isFalse hsome =>
    cases hs
    refine iff_of_true ?_ fun hall => absurd (hsame.mp hall) hsome
    have hlists : ∀ id ∈ targetIds, PolicyCall.promises (.persisting
        (extendPolicy (s.policy.getD (defaultUpdatePolicy targetIds)) targetIds)
          s.policy.isSome) id true :=
      fun id hmem => promises_persisting (mem_extendPolicy.mpr (.inr hmem))
    exact h.enterListing hcall (fun _ _ _ hpromise => hpromise) (fun _ _ _ hpromise => hpromise)
      (fun id hmem => .inr (hlists id hmem)) fun id hmem => .inr (hlists id hmem)

/-- The policy is written to the database, and is still to be put into the store. -/
theorem covering_persisted_iff {policy : UpdatePolicy} (h : s.Covering)
    (hcall : s.calls.get n = some call)
    (hpromises : ∀ id value, call.promises id value → listed (some policy) id = some value) :
    (s.persisted n policy).Covering ↔ s.RowRight n (some policy) := by
  constructor
  · intro hcovering
    exact (inStep_put_iff fun _ _ => not_false).mp hcovering.row
  · intro hright
    refine ⟨InStep.goesOnFrom h.memory hcall ?_, (inStep_put_iff fun _ _ => not_false).mpr hright⟩
    intro id value _ hpromise
    exact .inr (hpromises id value hpromise)

theorem covering_persisting_iff {policy : UpdatePolicy} {alreadyExists : Bool} (h : s.Covering)
    (hcall : s.calls.get n = some (.persisting policy alreadyExists))
    (hs : s.goOn n (.persisting policy alreadyExists) = some s') :
    s'.Covering ↔ s.LeavesRight n (.persisting policy alreadyExists) := by
  have hpromises : ∀ id value, PolicyCall.promises (.persisting policy alreadyExists) id value →
      listed (some policy) id = some value := by
    intro id value hpromise
    cases alreadyExists with
    | true => exact hpromise
    | false =>
      obtain ⟨rfl, hmem⟩ := hpromise
      exact listed_some_iff.mpr hmem
  have hpersisted : (alreadyExists = true ∨ s.policyRow = none) →
      ((s.persisted n policy).Covering ↔ s.LeavesRight n (.persisting policy alreadyExists)) := by
    intro hwrites
    rw [covering_persisted_iff h hcall hpromises]
    exact ⟨fun hright _ => hright, fun hright => hright hwrites⟩
  simp only [PolicyState.goOn] at hs
  split at hs
  case isTrue hexists =>
    cases hs
    exact hpersisted (.inl hexists)
  case isFalse hexists =>
    split at hs
    case h_1 hrow =>
      cases hs
      exact hpersisted (.inr hrow)
    case h_2 row hrow =>
      cases hs
      have hfalse : alreadyExists = false := Bool.eq_false_iff.mpr hexists
      subst hfalse
      refine iff_of_true ?_ ?_
      · exact h.enterListing hcall (fun _ _ _ hpromise => hpromise)
          (fun _ _ _ hpromise => hpromise) (fun id hmem => .inr ⟨rfl, hmem⟩)
            fun id hmem => .inr ⟨rfl, hmem⟩
      · rintro (habsurd | habsent)
        · cases habsurd
        · rw [hrow] at habsent
          cases habsent

/-- A request whose policy was in the database already extends the row, and ends if that is
gone. -/
theorem covering_merging_iff {policy : UpdatePolicy} (hdistinct : Distinct s) (h : s.Covering)
    (hcall : s.calls.get n = some (.merging policy))
    (hs : s.goOn n (.merging policy) = some s') :
    s'.Covering ↔ s.LeavesRight n (.merging policy) := by
  simp only [PolicyState.goOn] at hs
  split at hs
  case h_1 hrow =>
    cases hs
    constructor
    · intro hcovering _
      have hrow' := (inStep_put_iff fun _ _ => not_false).mp hcovering.row
      exact ⟨(inStep_put_iff fun _ _ => not_false).mp hcovering.memory, hrow ▸ hrow'⟩
    · intro hright
      obtain ⟨hmemory, hrow'⟩ := hright hrow
      exact ⟨(inStep_put_iff fun _ _ => not_false).mpr hmemory,
        (inStep_put_iff fun _ _ => not_false).mpr (hrow ▸ hrow')⟩
  case h_2 row hrow =>
    have hright : s.LeavesRight n (.merging policy) := by
      intro habsent
      rw [hrow] at habsent
      cases habsent
    have hlists : ∀ id ∈ policy.allowedTargets,
        listed (some (extendPolicy row policy.allowedTargets)) id = some true :=
      fun id hmem => listed_some_iff.mpr (mem_extendPolicy.mpr (.inr hmem))
    split at hs
    case isTrue hlength =>
      cases hs
      have hall := (length_extendPolicy_iff (hdistinct.row row hrow) _).mp hlength
      refine iff_of_true ?_ hright
      exact h.enterListing hcall (fun _ _ _ hpromise => hpromise) (fun _ _ _ hpromise => hpromise)
        (fun id hmem => .inr (hlists id hmem))
          fun id hmem => .inl (by rw [hrow, listed_some_iff]; exact hall id hmem)
    case isFalse =>
      cases hs
      refine iff_of_true ?_ hright
      exact h.enterListing hcall (fun _ _ _ hpromise => hpromise) (fun _ _ _ hpromise => hpromise)
        (fun id hmem => .inr (hlists id hmem)) fun id hmem => .inr (hlists id hmem)

/-- The policy is put into the store. -/
theorem covering_installing_iff {policy : UpdatePolicy} (h : s.Covering)
    (hcall : s.calls.get n = some (.installing policy)) :
    PolicyState.Covering { s.enter n .answered with policy := some policy } ↔
      s.MemoryRight n (some policy) := by
  constructor
  · intro hcovering
    exact (inStep_put_iff fun _ _ => not_false).mp hcovering.memory
  · intro hright
    refine ⟨(inStep_put_iff fun _ _ => not_false).mpr hright, InStep.goesOnFrom h.row hcall ?_⟩
    intro id value _ hpromise
    exact absurd hpromise not_false

/-- The next step of a request keeps the policies right exactly if what it leaves is right. -/
theorem covering_goOn_iff (hdistinct : Distinct s) (h : s.Covering)
    (hcall : s.calls.get n = some call) (hs : s.goOn n call = some s') :
    s'.Covering ↔ s.LeavesRight n call := by
  cases call with
  | registering target =>
    cases hs
    exact iff_of_true (covering_registering h hcall) trivial
  | collecting =>
    cases hs
    exact iff_of_true (covering_collecting h hcall) trivial
  | reading targetIds => exact covering_reading_iff hdistinct h hcall hs
  | persisting policy alreadyExists => exact covering_persisting_iff h hcall hs
  | merging policy => exact covering_merging_iff hdistinct h hcall hs
  | saving policy =>
    cases hs
    exact covering_persisted_iff h hcall fun _ _ hpromise => hpromise
  | installing policy =>
    cases hs
    exact covering_installing_iff h hcall
  | answered => cases hs

/-! ### Deletions -/

/-- A deletion that has not been committed goes on. -/
theorem PolicyState.Covering.deletion (h : s.Covering) {deletion : Option Deletion}
    (hbefore : ∀ id, s.deletion ≠ some (.removed id))
    (hafter : ∀ id, deletion ≠ some (.removed id)) :
    PolicyState.Covering { s with deletion := deletion } := by
  refine ⟨h.memory, ?_⟩
  have hremaining : PolicyState.remaining { s with deletion := deletion } = s.remaining := by
    funext id
    simp [PolicyState.remaining, hbefore id, hafter id]
  rw [hremaining]
  exact h.row

/-- The deletion is committed: the target remains no more, and the other ones are as they were. -/
theorem remaining_commit {targetId : TargetId} {emptied : Bool}
    (hdeletion : s.deletion = some (.selected targetId emptied)) (id : TargetId) :
    PolicyState.remaining { s with deletion := some (.removed targetId) } id =
      if id = targetId then some false else s.remaining id := by
  by_cases heq : id = targetId
  · simp [PolicyState.remaining, heq]
  · simp [PolicyState.remaining, hdeletion, heq, Ne.symm heq]

/-- Every registered target remains before the commit. -/
theorem remaining_selected {targetId : TargetId} {emptied : Bool}
    (hdeletion : s.deletion = some (.selected targetId emptied)) (id : TargetId) :
    s.remaining id = some (s.targets.get id).isSome := by
  simp [PolicyState.remaining, hdeletion]

/-- The row of the policy goes with its last target, or loses the target. -/
theorem covering_commit_iff {targetId : TargetId} {emptied : Bool} (h : s.Covering)
    (hdeletion : s.deletion = some (.selected targetId emptied)) :
    PolicyState.Covering { s with
        targetRows := s.targetRows.remove targetId
        policyRow := if emptied then none else s.policyRow.map (·.withoutTarget targetId)
        deletion := some (.removed targetId) } ↔
      KeepsCovered s .commit := by
  have hcondition : KeepsCovered s .commit ↔ (emptied = true → s.EmptiedRight targetId) := by
    constructor
    · intro hkeeps hemptied
      exact hkeeps targetId (hemptied ▸ hdeletion)
    · intro hright id hselected
      rw [hdeletion] at hselected
      cases hselected
      exact hright rfl
  rw [hcondition]
  cases emptied with
  | false =>
    refine iff_of_true ⟨h.memory, InStep.settle h.row fun id => ?_⟩ fun habsurd => by cases habsurd
    rw [if_neg Bool.false_ne_true, listed_withoutTarget]
    refine (em (id = targetId)).imp (fun heq => ?_) fun hne => ⟨if_neg hne, ?_⟩
    · rw [if_pos heq]
      exact ((remaining_commit hdeletion id).trans (if_pos heq)).symm
    · exact (remaining_commit hdeletion id).trans (if_neg hne)
  | true =>
    rw [imp_iff_right rfl]
    constructor
    · intro hcovering id hne hregistered
      have hstays := (remaining_commit hdeletion id).trans
        ((if_neg hne).trans (remaining_selected hdeletion id))
      -- no row is left that could list the target
      obtain ⟨value, hvalue, hcases⟩ := hcovering.row id false rfl
      have htrue : some value = some true := hvalue.symm.trans (hregistered ▸ hstays)
      cases htrue
      exact hcases.resolve_left Bool.false_ne_true
    · intro hright
      refine ⟨h.memory, fun id value hlisted => ?_⟩
      cases hlisted
      have hcommit := remaining_commit hdeletion id
      by_cases heq : id = targetId
      · exact ⟨false, hcommit.trans (if_pos heq), .inl rfl⟩
      · have hstays := hcommit.trans ((if_neg heq).trans (remaining_selected hdeletion id))
        cases hregistered : (s.targets.get id).isSome with
        | true =>
          rw [hregistered] at hstays
          exact ⟨true, hstays, .inr (hright id heq hregistered)⟩
        | false =>
          rw [hregistered] at hstays
          exact ⟨false, hstays, .inl rfl⟩

/-- The deletion in the store takes the target out of the policy there. -/
theorem covering_remove {targetId : TargetId} (h : s.Covering)
    (hdeletion : s.deletion = some (.removed targetId)) :
    PolicyState.Covering { s with
      targets := s.targets.remove targetId
      policy := s.policy.bind (dropTarget targetId)
      deletion := none } := by
  refine ⟨InStep.settle h.memory fun id => ?_, InStep.settle h.row fun id => ?_⟩
  · rw [listed_dropTarget]
    unfold PolicyState.registered
    rw [Table.get_remove]
    by_cases heq : id = targetId
    · exact .inl (by rw [if_pos heq, if_pos heq, Option.isSome_none])
    · exact .inr ⟨if_neg heq, by rw [if_neg heq]⟩
  · refine .inr ⟨rfl, ?_⟩
    unfold PolicyState.remaining
    rw [Table.get_remove]
    by_cases heq : id = targetId
    · simp [heq, hdeletion]
    · simp [heq, hdeletion, Ne.symm heq]

/-- A step keeps the policies right exactly if it meets the condition. -/
theorem covering_step_iff {a : PolicyAction} (hdistinct : Distinct s) (h : s.Covering)
    (hs : s.step a = some s') : s'.Covering ↔ KeepsCovered s a := by
  cases a with
  | createTarget n target =>
    obtain ⟨hnew, hs⟩ := Option.ite_none_right_eq_some.mp hs
    cases hs
    simp only [Bool.and_eq_true, Option.isNone_iff_eq_none] at hnew
    have hentered : (s.enter n (.registering target)).Covering := h.enterNew hnew.1.1
    exact iff_of_true ⟨hentered.memory, hentered.row⟩ trivial
  | listUpdatePolicies n =>
    obtain ⟨hnew, hs⟩ := Option.ite_none_right_eq_some.mp hs
    cases hs
    exact iff_of_true (h.enterNew (Option.isNone_iff_eq_none.mp hnew)) trivial
  | goOn n =>
    obtain ⟨call, hcall, hs⟩ := Option.bind_eq_some_iff.mp hs
    rw [covering_goOn_iff hdistinct h hcall hs]
    constructor
    · intro hright call' hcall'
      rw [hcall] at hcall'
      cases hcall'
      exact hright
    · intro hkeeps
      exact hkeeps call hcall
  | deleteTarget targetId =>
    obtain ⟨hidle, hs⟩ := Option.ite_none_right_eq_some.mp hs
    cases hs
    rw [Bool.and_eq_true, Option.isNone_iff_eq_none] at hidle
    refine iff_of_true (h.deletion (fun id hremoved => ?_) fun id hremoved => ?_) trivial
    · rw [hidle.1] at hremoved
      cases hremoved
    · cases hremoved
  | select =>
    simp only [PolicyState.step] at hs
    split at hs
    case h_1 targetId hdeletion =>
      have hbefore : ∀ id, s.deletion ≠ some (.removed id) := by
        intro id hremoved
        rw [hdeletion] at hremoved
        cases hremoved
      split at hs
      case isTrue =>
        cases hs
        exact iff_of_true (h.deletion hbefore fun id hremoved => by cases hremoved) trivial
      case isFalse =>
        cases hs
        exact iff_of_true (h.deletion hbefore fun id hremoved => by cases hremoved) trivial
    case h_2 => cases hs
  | refuse =>
    simp only [PolicyState.step] at hs
    split at hs
    case h_1 targetId hdeletion =>
      cases hs
      refine iff_of_true (h.deletion (fun id hremoved => ?_) fun id hremoved => ?_) trivial
      · rw [hdeletion] at hremoved
        cases hremoved
      · cases hremoved
    case h_2 => cases hs
  | commit =>
    simp only [PolicyState.step] at hs
    split at hs
    case h_1 targetId emptied hdeletion =>
      cases hs
      exact covering_commit_iff h hdeletion
    case h_2 => cases hs
  | remove =>
    simp only [PolicyState.step] at hs
    split at hs
    case h_1 targetId hdeletion =>
      cases hs
      exact iff_of_true (covering_remove h hdeletion) trivial
    case h_2 => cases hs

/-! ### Runs -/

/-- Policies that are right cover the targets once nothing is promised any more. -/
theorem covered_of_covering (h : s.Covering) : s.Covered := by
  intro hanswered hidle id
  have hnone : ∀ n call, s.calls.get n = some call →
      ∀ id value, ¬ call.promises id value ∧ ¬ call.promisesRow id value := by
    intro n call hcall id value
    rw [hanswered n call hcall]
    exact ⟨not_false, not_false⟩
  have hmemory : s.registered id = listed s.policy id := InStep.settled h.memory
    (not_promised fun n call hcall id value => (hnone n call hcall id value).1) id _ rfl
  have hrow : s.remaining id = listed s.policyRow id := InStep.settled h.row
    (not_promised fun n call hcall id value => (hnone n call hcall id value).2) id _ rfl
  have hremaining : s.remaining id = s.registered id := by
    simp [PolicyState.remaining, PolicyState.registered, hidle]
  rw [← listed_eq_true_iff, ← listed_eq_true_iff, ← hmemory, ← hrow, hremaining,
    PolicyState.registered, Option.some.injEq]
  exact ⟨Iff.rfl, Iff.rfl⟩

/-- Policies that list the targets are right about them. -/
theorem covering_of_listsTargets (hlists : s.ListsTargets) (hidle : s.deletion = none) :
    s.Covering := by
  have hsame : ∀ policy id, ((s.targets.get id).isSome = true ↔ Allows policy id) →
      listed policy id = s.registered id := by
    intro policy id hiff
    rw [← listed_eq_true_iff, listed, Option.some.injEq] at hiff
    rw [listed, PolicyState.registered, Option.some.injEq, Bool.eq_iff_iff, hiff]
  have hremaining : s.remaining = s.registered := by
    funext id
    simp [PolicyState.remaining, PolicyState.registered, hidle]
  constructor
  · intro id value hlisted
    exact ⟨value, by rw [← hsame s.policy id (hlists id).1, hlisted], .inl rfl⟩
  · intro id value hlisted
    exact ⟨value, by rw [hremaining, ← hsame s.policyRow id (hlists id).2, hlisted], .inl rfl⟩

theorem distinct_of_reach (h : policyMachine.Reach Machine.Any s) : Distinct s := by
  refine h.invariant ?_ ?_
  · rintro s ⟨-, hmemory, hrow, hcalls, -⟩
    refine ⟨hmemory, hrow, fun n call policy hget _ => ?_⟩
    rw [hcalls, Table.get_empty] at hget
    cases hget
  · intro s a s' _ hdistinct _ hs
    exact hdistinct.step hs

theorem covering_of_reach (h : policyMachine.Reach KeepsCovered s) : s.Covering := by
  refine h.invariant ?_ fun s a s' hreach hcovering hkeeps hs =>
    (covering_step_iff (distinct_of_reach hreach.any) hcovering hs).mpr hkeeps
  rintro s ⟨hlists, -, -, -, hidle⟩
  exact covering_of_listsTargets hlists hidle

/-- **The standard policy lists the registered targets and no other ones**, in memory and in the
database, once every request is answered, in every run in which what is written is right or still to
be overtaken; and every other step gets the policy out of step. -/
theorem covered_of_reach (s : PolicyState) :
    (policyMachine.Reach KeepsCovered s → s.Covered) ∧
      (policyMachine.Reach Machine.Any s → s.Covering → ∀ a s',
        policyMachine.step s a = some s' → (s'.Covering ↔ KeepsCovered s a)) :=
  ⟨fun hreach => covered_of_covering (covering_of_reach hreach),
    fun hreach hcovering _ _ hs => covering_step_iff (distinct_of_reach hreach) hcovering hs⟩

/-- A server of this number. -/
def numberedServer (number : BitVec 128) : Target where
  id := ⟨⟨number⟩⟩
  name := "web"
  kind := .linuxServer
  address := "10.0.0.7"
  transport := .ssh
  sshUser := none
  credentialSecretRef := none
  sshKnownHostsSecretRef := none
  agentSecretRef := ⟨⟨21⟩⟩
  state := .pending
  createdAt := 0
  updatedAt := 0

/-- The targets that a policy lists or that are registered. -/
def PolicyState.mentioned (s : PolicyState) (policy : Option UpdatePolicy) : List TargetId :=
  s.targets.keys ++ (policy.map (·.allowedTargets)).getD []

theorem listed_of_not_mentioned {policy : Option UpdatePolicy} {id : TargetId}
    (h : id ∉ s.mentioned policy) :
    s.registered id = some false ∧ s.remaining id = some false ∧ listed policy id = some false := by
  rw [PolicyState.mentioned, List.mem_append, not_or, Table.mem_keys] at h
  have hget : s.targets.get id = none := by
    rw [Option.eq_none_iff_forall_ne_some]
    exact fun target htarget => h.1 ⟨target, htarget⟩
  refine ⟨by simp [PolicyState.registered, hget], by simp [PolicyState.remaining, hget], ?_⟩
  cases policy with
  | none => rfl
  | some found =>
    have hout : id ∉ found.allowedTargets := h.2
    simp [listed, hout]

instance (s : PolicyState) : Decidable s.Covering :=
  decidable_of_iff ((∀ id ∈ s.mentioned s.policy, ∀ w ∈ listed s.policy id,
      ∃ v ∈ s.registered id, w = v ∨ Promised PolicyCall.promises s.calls id v) ∧
    ∀ id ∈ s.mentioned s.policyRow, ∀ w ∈ listed s.policyRow id,
      ∃ v ∈ s.remaining id, w = v ∨ Promised PolicyCall.promisesRow s.calls id v) (by
    rw [← inStep_iff_of_eq_off, ← inStep_iff_of_eq_off]
    · exact ⟨fun h => ⟨h.1, h.2⟩, fun h => ⟨h.memory, h.row⟩⟩
    · intro id hid
      obtain ⟨-, hremaining, hlisted⟩ := listed_of_not_mentioned hid
      rw [hlisted, hremaining]
    · intro id hid
      obtain ⟨hregistered, -, hlisted⟩ := listed_of_not_mentioned hid
      rw [hlisted, hregistered])

/-- One server, and the standard policy for it. -/
def oneServer : PolicyState where
  targets := (∅ : Table TargetId Target).put ⟨⟨1⟩⟩ (numberedServer 1)
  targetRows := (∅ : Table TargetId Target).put ⟨⟨1⟩⟩ (numberedServer 1)
  policy := some (defaultUpdatePolicy [⟨⟨1⟩⟩])
  policyRow := some (defaultUpdatePolicy [⟨⟨1⟩⟩])
  calls := ∅
  deletion := none

theorem init_oneServer : policyMachine.init oneServer := by
  have hnodup : (defaultUpdatePolicy [⟨⟨1⟩⟩]).allowedTargets.Nodup := by decide
  have hlists : ∀ id, (oneServer.targets.get id).isSome = true ↔
      Allows (some (defaultUpdatePolicy [⟨⟨1⟩⟩])) id := by
    intro id
    have hallowed : (defaultUpdatePolicy [⟨⟨1⟩⟩]).allowedTargets = [⟨⟨1⟩⟩] := by decide
    rw [← listed_eq_true_iff, listed_some_iff, hallowed, List.mem_singleton]
    show (((∅ : Table TargetId Target).put _ _).get id).isSome = true ↔ _
    rw [Table.get_put]
    split
    case isTrue heq => exact iff_of_true rfl heq
    case isFalse hne => exact iff_of_false Bool.false_ne_true hne
  refine ⟨fun id => ⟨hlists id, hlists id⟩, fun policy hpolicy => ?_, fun row hrow => ?_, rfl, rfl⟩
  · cases hpolicy
    exact hnodup
  · cases hrow
    exact hnodup

/-- A second server is created, and then the first one is deleted. -/
def createAndDelete : List PolicyAction :=
  [.createTarget 0 (numberedServer 2), .goOn 0, .goOn 0, .goOn 0, .goOn 0, .goOn 0,
    .deleteTarget ⟨⟨1⟩⟩, .select, .commit, .remove]

theorem covered_created_and_deleted :
    ∃ s ∈ policyMachine.exec (policyMachine.Preserves PolicyState.Covering) oneServer
        createAndDelete,
      s.Covered ∧ (∀ call ∈ s.calls.values, call = .answered) ∧
        s.policyRow.map (·.allowedTargets) = some [⟨⟨2⟩⟩] := by
  have hrun : ∃ s ∈ policyMachine.exec (policyMachine.Preserves PolicyState.Covering) oneServer
      createAndDelete, (∀ call ∈ s.calls.values, call = .answered) ∧
        s.policyRow.map (·.allowedTargets) = some [⟨⟨2⟩⟩] := by
    decide +kernel
  obtain ⟨s, hexec, hanswered, hrow⟩ := hrun
  refine ⟨s, hexec, (covered_of_reach s).1 ?_, hanswered, hrow⟩
  exact .exec_preserving (fun s a s' hreach h hs h' =>
      (covering_step_iff (distinct_of_reach hreach.any) h hs).mp h')
    (.init init_oneServer) (covering_of_listsTargets init_oneServer.1 rfl) _ hexec

/-- Two servers are created: the first request reads the ids before the second target is in the
store, and writes the policy after the second request. -/
def twoCreations : List PolicyAction :=
  [.createTarget 0 (numberedServer 2), .goOn 0, .goOn 0, .goOn 0,
    .createTarget 1 (numberedServer 3), .goOn 1, .goOn 1, .goOn 1,
    .goOn 1, .goOn 0, .goOn 0, .goOn 1]

/-- **The policy in the database does not allow the second server.** -/
theorem extension_lost : ¬ ∀ s, policyMachine.Reach Machine.Any s → s.Covered := by
  intro hall
  have hrun : ∃ s ∈ policyMachine.exec Machine.Any oneServer twoCreations,
      (∀ call ∈ s.calls.values, call = .answered) ∧ s.deletion = none ∧
        (s.targets.get ⟨⟨3⟩⟩).isSome = true ∧ listed s.policyRow ⟨⟨3⟩⟩ = some false := by
    decide +kernel
  obtain ⟨s, hexec, hanswered, hidle, hregistered, hrow⟩ := hrun
  have hallows := ((hall s (.exec (.init init_oneServer) _ hexec)
    (fun n call hcall => hanswered call (Table.mem_values.mpr ⟨n, hcall⟩)) hidle ⟨⟨3⟩⟩).2).mp
      hregistered
  rw [← listed_eq_true_iff, hrow] at hallows
  cases hallows

end Lxcup.WriteBack
