import Lxcup.Credentials.Service
import Lxcup.Lib.Machine
import Lxcup.Lib.WriteBehind

/-!
# The states of targets in memory and in the database

The heartbeat of an agent makes its target managed, and the invalidation of the agent's secret makes
it pending.  Both change the target in memory, under the lock of the store, and update its row with
a copy after the lock is released.

The database answers every call here.  Secrets are changed by other requests at any time.

## Main definitions

* `TargetCall`, `TargetStates`, `TargetAction`, `targetMachine`.
* `TargetStates.Agrees` — the rows have the states that the targets have in memory, once every call
  has answered.
* `UpdatesCurrent` — what a row is updated with is current, or the current state is still to be
  written.

## Main results

* `targets_agree_of_reach` — the states agree in every run that writes what is current, and every
  other write puts them out of step.
* `heartbeat_undoes_reset` — a target that was reset, managed in the database.
-/

namespace Lxcup.WriteBack

open Lxcup.Lib Lxcup.Core Lxcup.Secrets Lxcup.Credentials

/-- How far a call has come. -/
inductive TargetCall
  /-- The rows of changed targets are updated, one by one. -/
  | updating (targets : List Target)
  | answered
  deriving DecidableEq, Repr

/-- The targets that a call has still to write. -/
def TargetCall.pending : TargetCall → List Target
  | updating targets => targets
  | answered => []

/-- The targets in memory, their rows, the secrets and the calls. -/
structure TargetStates where
  targets : Table TargetId Target
  rows : Table TargetId Target
  secrets : InMemorySecretStore
  calls : Table Nat TargetCall

/-- `mark_managed`. -/
def markManaged (now : Timestamp) (target : Target) : Target :=
  { target with state := .managed, updatedAt := now }

namespace TargetStates

variable (s : TargetStates) (n : Nat)

/-- A call has targets to write, or answers. -/
def enter (targets : List Target) : TargetStates :=
  { s with calls := s.calls.put n (if targets = [] then .answered else .updating targets) }

/-- `receive_agent_heartbeat`, up to the write of the target. -/
def receiveAgentHeartbeat (targetId : TargetId) (token : String) (now : Timestamp) :
    TargetStates :=
  match s.targets.get targetId with
  | none => s.enter n []
  | some target =>
    match s.secrets.read target.agentSecretRef with
    -- a secret that was revoked lets no heartbeat in
    | .error _ => s.enter n []
    | .ok expected =>
      if expected.value ≠ token then s.enter n []
      else
        { s.enter n [markManaged now target] with
          targets := s.targets.put targetId (markManaged now target) }

/-- `reset_targets_for_secret`, whose changes `persist_changed_targets` writes. -/
def resetTargetsForSecret (secretId : SecretId) (now : Timestamp) : TargetStates :=
  { s.enter n ((s.targets.retain fun _ target => needsReset secretId target).values.map
      (resetAgentTarget secretId now)) with
    targets := s.targets.mapValues fun _ target => resetAgentTarget secretId now target }

end TargetStates

/-- The steps. -/
inductive TargetAction
  | receiveAgentHeartbeat (n : Nat) (targetId : TargetId) (token : String) (now : Timestamp)
  | resetTargetsForSecret (n : Nat) (secretId : SecretId) (now : Timestamp)
  /-- The next row is updated, if it is there. -/
  | update (n : Nat)
  /-- The secrets are changed. -/
  | secrets (secrets : InMemorySecretStore)

/-- The state after a step. -/
def TargetStates.step (s : TargetStates) : TargetAction → Option TargetStates
  | .receiveAgentHeartbeat n targetId token now =>
    if (s.calls.get n).isNone then some (s.receiveAgentHeartbeat n targetId token now) else none
  | .resetTargetsForSecret n secretId now =>
    if (s.calls.get n).isNone then some (s.resetTargetsForSecret n secretId now) else none
  | .update n =>
    match s.calls.get n with
    | some (.updating (target :: rest)) =>
      some { s.enter n rest with rows := updateTargetRow s.rows target }
    | _ => none
  | .secrets secrets => some { s with secrets }

/-- The targets, from a moment on at which there is no call and the states agree. -/
def targetMachine : Machine TargetStates TargetAction where
  init s :=
    (∀ id row, s.rows.get id = some row →
      ∃ target, s.targets.get id = some target ∧ row.state = target.state) ∧
    (∀ id target, s.targets.get id = some target → target.id = id) ∧ s.calls = ∅
  step := TargetStates.step

/-! ### What is to be written -/

namespace TargetStates

/-- The rows have the states of the targets in memory when every call has answered. -/
def Agrees (s : TargetStates) : Prop :=
  (∀ n call, s.calls.get n = some call → call = .answered) →
    ∀ id row, s.rows.get id = some row →
      ∃ target, s.targets.get id = some target ∧ row.state = target.state

/-- The state of a target in memory. -/
def currentState (s : TargetStates) (id : TargetId) : Option TargetState :=
  (s.targets.get id).map (·.state)

/-- The state of a target in the database. -/
def rowState (s : TargetStates) (id : TargetId) : Option TargetState :=
  (s.rows.get id).map (·.state)

/-- Every row has the state of the target in memory, or that one is to be written. -/
def RowsInStep (s : TargetStates) : Prop :=
  InStep s.currentState s.rowState (Pending TargetCall.pending (·.id) (·.state) s.calls)

/-- The table of targets is by their ids. -/
def Keyed (s : TargetStates) : Prop :=
  ∀ id target, s.targets.get id = some target → target.id = id

end TargetStates

/-- **What a row is updated with is current**: the target has this state in memory, or a call has
the state that it has still to write.  A target without a row is not written. -/
def UpdatesCurrent (s : TargetStates) : TargetAction → Prop
  | .update n => ∀ call target rest, s.calls.get n = some call → call.pending = target :: rest →
      (s.rows.get target.id).isSome = true →
        WritesCurrent TargetCall.pending (·.id) (·.state) s.currentState s.calls n target rest
  | _ => True

instance : ∀ (s : TargetStates) (a : TargetAction), Decidable (UpdatesCurrent s a)
  | s, .update n => decidableNext TargetCall.pending s.calls n fun target rest =>
      (s.rows.get target.id).isSome = true →
        WritesCurrent TargetCall.pending (·.id) (·.state) s.currentState s.calls n target rest
  | _, .receiveAgentHeartbeat .. | _, .resetTargetsForSecret .. | _, .secrets _ => instDecidableTrue

variable {s s' : TargetStates} {n : Nat}

@[simp] theorem pending_enter (targets : List Target) :
    (if targets = [] then TargetCall.answered else .updating targets).pending = targets := by
  split
  case isTrue h => rw [h, TargetCall.pending]
  case isFalse => rfl

/-- A step that changes targets in memory, and has the changed ones to write. -/
structure ChangesTargets (s s' : TargetStates) (n : Nat) (targets : List Target) : Prop where
  calls : s'.calls = (s.enter n targets).calls
  rows : s'.rows = s.rows
  targets : ∀ id, s'.targets.get id = s.targets.get id ∨
    ∃ target ∈ targets, target.id = id ∧ s'.targets.get id = some target

theorem ChangesTargets.rowsInStep {targets : List Target} (h : ChangesTargets s s' n targets)
    (hnew : s.calls.get n = none) (hstep : s.RowsInStep) : s'.RowsInStep := by
  unfold TargetStates.RowsInStep
  rw [h.calls, show s'.rowState = s.rowState by unfold TargetStates.rowState; rw [h.rows]]
  refine InStep.changed hstep (fun call hcall => ?_) fun id => ?_
  · rw [hnew] at hcall
    cases hcall
  · unfold TargetStates.currentState
    rw [pending_enter]
    rcases h.targets id with hsame | ⟨target, hmem, hid, hget⟩
    · exact .inl (by rw [hsame])
    · exact .inr ⟨target, hmem, hid, by rw [hget, Option.map_some]⟩

theorem ChangesTargets.keyed {targets : List Target} (h : ChangesTargets s s' n targets)
    (hkeyed : s.Keyed) : s'.Keyed := by
  intro id target hget
  rcases h.targets id with hsame | ⟨changed, -, hid, hchanged⟩
  · exact hkeyed id target (hsame ▸ hget)
  · rw [hget] at hchanged
    cases hchanged
    exact hid

theorem changes_receiveAgentHeartbeat (hkeyed : s.Keyed) (targetId : TargetId) (token : String)
    (now : Timestamp) :
    ∃ targets, ChangesTargets s (s.receiveAgentHeartbeat n targetId token now) n targets := by
  unfold TargetStates.receiveAgentHeartbeat
  cases hget : s.targets.get targetId with
  | none => exact ⟨[], rfl, rfl, fun _ => .inl rfl⟩
  | some target =>
    dsimp only
    split
    case h_1 => exact ⟨[], rfl, rfl, fun _ => .inl rfl⟩
    case h_2 =>
      split
      case isTrue => exact ⟨[], rfl, rfl, fun _ => .inl rfl⟩
      case isFalse =>
        refine ⟨[markManaged now target], rfl, rfl, fun id => ?_⟩
        dsimp only
        rw [Table.get_put]
        split
        case isTrue heq =>
          subst heq
          exact .inr ⟨_, List.mem_singleton_self _, hkeyed id target hget, rfl⟩
        case isFalse => exact .inl rfl

theorem changes_resetTargetsForSecret (hkeyed : s.Keyed) (secretId : SecretId) (now : Timestamp) :
    ∃ targets, ChangesTargets s (s.resetTargetsForSecret n secretId now) n targets := by
  refine ⟨_, rfl, rfl, fun id => ?_⟩
  simp only [TargetStates.resetTargetsForSecret, Table.get_mapValues]
  cases hget : s.targets.get id with
  | none => exact .inl rfl
  | some target =>
    by_cases hreset : needsReset secretId target = true
    · have hid : (resetAgentTarget secretId now target).id = id := by
        rw [resetAgentTarget, if_pos hreset]
        exact hkeyed id target hget
      refine .inr ⟨resetAgentTarget secretId now target, List.mem_map.mpr ⟨target, ?_, rfl⟩, hid,
        rfl⟩
      refine Table.mem_values.mpr ⟨id, ?_⟩
      simp [Table.get_retain, hget, hreset]
    · exact .inl (by rw [Option.map_some, resetAgentTarget, if_neg hreset])

/-! ### Steps -/

theorem rowState_updateTargetRow {rows : Table TargetId Target} {target : Target}
    (h : (rows.get target.id).isSome = true) (id : TargetId) :
    (updateTargetRow rows target).get id = if id = target.id then some target else rows.get id := by
  rw [updateTargetRow, if_pos h, Table.get_put]

/-- A call writes the first of its targets, and keeps the rows in step exactly if that is
current. -/
theorem rowsInStep_update_iff {target : Target} {rest : List Target} (hstep : s.RowsInStep)
    (hcall : s.calls.get n = some (.updating (target :: rest))) :
    TargetStates.RowsInStep { s.enter n rest with rows := updateTargetRow s.rows target } ↔
      UpdatesCurrent s (.update n) := by
  have hcondition : UpdatesCurrent s (.update n) ↔ ((s.rows.get target.id).isSome = true →
      WritesCurrent TargetCall.pending (·.id) (·.state) s.currentState s.calls n target rest) := by
    constructor
    · intro h
      exact h _ target rest hcall rfl
    · intro h call target' rest' hcall' hpending
      rw [hcall] at hcall'
      cases hcall'
      cases hpending
      exact h
  rw [hcondition]
  by_cases hrow : (s.rows.get target.id).isSome = true
  · rw [imp_iff_right hrow]
    refine inStep_written_iff hstep hcall rfl (pending_enter rest) ?_ fun id hne => ?_
    · rw [TargetStates.rowState, rowState_updateTargetRow hrow, if_pos rfl, Option.map_some]
    · rw [TargetStates.rowState, rowState_updateTargetRow hrow, if_neg hne]
      rfl
  · refine iff_of_true ?_ fun hsome => absurd hsome hrow
    have habsent : s.rowState target.id = none := by
      rw [TargetStates.rowState, Option.not_isSome_iff_eq_none.mp hrow]
      rfl
    rw [updateTargetRow, if_neg hrow]
    exact InStep.dropped hstep hcall rfl (pending_enter rest) habsent

theorem keyed_targets_of_step {a : TargetAction} (hkeyed : s.Keyed) (hs : s.step a = some s') :
    s'.Keyed := by
  cases a with
  | receiveAgentHeartbeat n targetId token now =>
    obtain ⟨-, hs⟩ := Option.ite_none_right_eq_some.mp hs
    cases hs
    obtain ⟨targets, hchanges⟩ := @changes_receiveAgentHeartbeat s n hkeyed targetId token now
    exact hchanges.keyed hkeyed
  | resetTargetsForSecret n secretId now =>
    obtain ⟨-, hs⟩ := Option.ite_none_right_eq_some.mp hs
    cases hs
    obtain ⟨targets, hchanges⟩ := @changes_resetTargetsForSecret s n hkeyed secretId now
    exact hchanges.keyed hkeyed
  | update n =>
    simp only [TargetStates.step] at hs
    split at hs
    case h_1 =>
      cases hs
      exact hkeyed
    case h_2 => cases hs
  | secrets secrets =>
    cases hs
    exact hkeyed

/-- A step keeps the rows in step exactly if what it writes is current. -/
theorem rowsInStep_iff_updatesCurrent {a : TargetAction} (hkeyed : s.Keyed)
    (hstep : s.RowsInStep) (hs : s.step a = some s') : s'.RowsInStep ↔ UpdatesCurrent s a := by
  cases a with
  | receiveAgentHeartbeat n targetId token now =>
    obtain ⟨hnew, hs⟩ := Option.ite_none_right_eq_some.mp hs
    cases hs
    obtain ⟨targets, hchanges⟩ := @changes_receiveAgentHeartbeat s n hkeyed targetId token now
    exact iff_of_true (hchanges.rowsInStep (Option.isNone_iff_eq_none.mp hnew) hstep) trivial
  | resetTargetsForSecret n secretId now =>
    obtain ⟨hnew, hs⟩ := Option.ite_none_right_eq_some.mp hs
    cases hs
    obtain ⟨targets, hchanges⟩ := @changes_resetTargetsForSecret s n hkeyed secretId now
    exact iff_of_true (hchanges.rowsInStep (Option.isNone_iff_eq_none.mp hnew) hstep) trivial
  | update n =>
    simp only [TargetStates.step] at hs
    split at hs
    case h_1 target rest hcall =>
      cases hs
      exact rowsInStep_update_iff hstep hcall
    case h_2 => cases hs
  | secrets secrets =>
    cases hs
    exact iff_of_true hstep trivial

/-- Rows in step agree once nothing is to be written. -/
theorem targets_agree_of_rowsInStep (hstep : s.RowsInStep) : s.Agrees := by
  intro hanswered id row hrow
  have hidle : ∀ n call, s.calls.get n = some call → call.pending = [] := by
    intro n call hcall
    rw [hanswered n call hcall, TargetCall.pending]
  have hstate : s.rowState id = some row.state := by
    rw [TargetStates.rowState, hrow, Option.map_some]
  obtain ⟨target, hget, hsame⟩ :=
    Option.map_eq_some_iff.mp (InStep.settled hstep (not_pending hidle) id _ hstate)
  exact ⟨target, hget, hsame.symm⟩

theorem keyed_targets_of_reach (h : targetMachine.Reach Machine.Any s) : s.Keyed := by
  refine h.invariant ?_ ?_
  · rintro s ⟨-, hkeyed, -⟩
    exact hkeyed
  · intro s a s' _ hkeyed _ hs
    exact keyed_targets_of_step hkeyed hs

theorem targets_rowsInStep_of_reach (h : targetMachine.Reach UpdatesCurrent s) : s.RowsInStep := by
  refine h.invariant ?_ fun s a s' hreach hstep hcurrent hs =>
    (rowsInStep_iff_updatesCurrent (keyed_targets_of_reach hreach.any) hstep hs).mpr hcurrent
  rintro s ⟨hrows, -⟩ id state hstate
  obtain ⟨row, hrow, rfl⟩ := Option.map_eq_some_iff.mp hstate
  obtain ⟨target, hget, hsame⟩ := hrows id row hrow
  exact ⟨row.state, Option.map_eq_some_iff.mpr ⟨target, hget, hsame.symm⟩, .inl rfl⟩

/-- **The states in memory and in the database agree** once every call has answered, in every run in
which what is written is current or still to be overtaken; and a row gets out of step with any other
write. -/
theorem targets_agree_of_reach (s : TargetStates) :
    (targetMachine.Reach UpdatesCurrent s → s.Agrees) ∧
      (targetMachine.Reach Machine.Any s → s.RowsInStep → ∀ a s',
        targetMachine.step s a = some s' → (s'.RowsInStep ↔ UpdatesCurrent s a)) :=
  ⟨fun hreach => targets_agree_of_rowsInStep (targets_rowsInStep_of_reach hreach),
    fun hreach hstep _ _ hs =>
      rowsInStep_iff_updatesCurrent (keyed_targets_of_reach hreach) hstep hs⟩

/-- A target whose agent has a token. -/
def agentTarget : Target where
  id := ⟨⟨7⟩⟩
  name := "web"
  kind := .linuxServer
  address := "10.0.0.7"
  transport := .ssh
  sshUser := none
  credentialSecretRef := none
  sshKnownHostsSecretRef := none
  agentSecretRef := ⟨⟨21⟩⟩
  state := .pending
  createdAt := 0
  updatedAt := 0

/-- The target in memory and in the database. -/
def agentTargetSaved : TargetStates where
  targets := (∅ : Table TargetId Target).put ⟨⟨7⟩⟩ agentTarget
  rows := (∅ : Table TargetId Target).put ⟨⟨7⟩⟩ agentTarget
  secrets := ⟨(∅ : Table SecretId SecretRecord).put ⟨⟨21⟩⟩
    ⟨⟨⟨⟨⟨21⟩⟩, "agent", .agentToken, .global, 0, 0⟩, .active⟩, plainToken⟩⟩
  calls := ∅

theorem init_agentTargetSaved : targetMachine.init agentTargetSaved := by
  refine ⟨fun id row hrow => ?_, fun id target hget => ?_, rfl⟩
  · rcases Table.get_put_cases hrow with ⟨rfl, rfl⟩ | ⟨-, hnone⟩
    · exact ⟨agentTarget, Table.get_put_self _ _ _, rfl⟩
    · cases hnone
  · rcases Table.get_put_cases hget with ⟨rfl, rfl⟩ | ⟨-, hnone⟩
    · rfl
    · cases hnone

/-- The target is reset after the change of a heartbeat, and written after it too. -/
def resetAfterHeartbeat : List TargetAction :=
  [.receiveAgentHeartbeat 0 ⟨⟨7⟩⟩ "token" 1, .resetTargetsForSecret 1 ⟨⟨21⟩⟩ 2, .update 0,
    .update 1]

theorem targets_agree_reset_after_heartbeat :
    ∃ s ∈ targetMachine.exec UpdatesCurrent agentTargetSaved resetAfterHeartbeat,
      s.Agrees ∧ s.rowState ⟨⟨7⟩⟩ = some .pending := by
  have hrun : ∃ s ∈ targetMachine.exec UpdatesCurrent agentTargetSaved resetAfterHeartbeat,
      s.rowState ⟨⟨7⟩⟩ = some .pending := by
    decide +kernel
  obtain ⟨s, hexec, hrow⟩ := hrun
  exact ⟨s, hexec, (targets_agree_of_reach s).1 (.exec (.init init_agentTargetSaved) _ hexec), hrow⟩

/-- The target is reset between the change and the write of a heartbeat. -/
def resetWithinHeartbeat : List TargetAction :=
  [.receiveAgentHeartbeat 0 ⟨⟨7⟩⟩ "token" 1, .resetTargetsForSecret 1 ⟨⟨21⟩⟩ 2, .update 1,
    .update 0]

/-- **The target that was reset is managed in the database.** -/
theorem heartbeat_undoes_reset : ¬ ∀ s, targetMachine.Reach Machine.Any s → s.Agrees := by
  intro hall
  have hrun : ∃ s ∈ targetMachine.exec Machine.Any agentTargetSaved resetWithinHeartbeat,
      (∀ call ∈ s.calls.values, call = .answered) ∧
        s.rowState ⟨⟨7⟩⟩ = some .managed ∧ s.currentState ⟨⟨7⟩⟩ = some .pending := by
    decide +kernel
  obtain ⟨s, hexec, hanswered, hrow, hcurrent⟩ := hrun
  obtain ⟨row, hget, hmanaged⟩ := Option.map_eq_some_iff.mp hrow
  obtain ⟨target, hmemory, hsame⟩ := hall s (.exec (.init init_agentTargetSaved) _ hexec)
    (fun n call hcall => hanswered call (Table.mem_values.mpr ⟨n, hcall⟩)) ⟨⟨7⟩⟩ row hget
  rw [TargetStates.currentState, hmemory, Option.map_some, ← hsame, hmanaged] at hcurrent
  cases hcurrent

end Lxcup.WriteBack
