import Lxcup.Core.Plan

/-!
# Executions of update plans

The lifecycle of the execution of a confirmed plan, and the times kept with it.

## Main definitions

* `ExecutionStatus`, `ExecutionStatus.canTransitionTo`, `ExecutionStatus.terminal`.
* `Execution` with `Execution.new` and `Execution.transitionTo`.

## Main results

* `Execution.transitionTo_ok` — everything one change of status does.
* `ExecutionStatus.not_terminal_of_canTransitionTo` — no edge leaves a terminal status.
-/

namespace Lxcup.Core

open Lxcup.Lib

/-- The id of an execution. -/
structure ExecutionId where
  uuid : Uuid
  deriving DecidableEq, Repr, Inhabited

/-- The lifecycle of an execution. -/
inductive ExecutionStatus
  | queued | running | succeeded | failed | aborted | unknown
  deriving DecidableEq, Repr, Inhabited

namespace ExecutionStatus

/-- The edges of the lifecycle. -/
def canTransitionTo : ExecutionStatus → ExecutionStatus → Bool
  | queued, running | queued, aborted => true
  | running, succeeded | running, failed | running, aborted | running, unknown => true
  | unknown, succeeded | unknown, failed | unknown, aborted => true
  | _, _ => false

/-- The statuses an execution ends in. -/
def terminal (status : ExecutionStatus) : Bool :=
  status = succeeded || status = failed || status = aborted

/-- The name of a status in lower case. -/
def name : ExecutionStatus → String
  | queued => "queued"
  | running => "running"
  | succeeded => "succeeded"
  | failed => "failed"
  | aborted => "aborted"
  | unknown => "unknown"

theorem name_injective {status status' : ExecutionStatus} (h : status.name = status'.name) :
    status = status' := by
  cases status <;> cases status' <;> first | rfl | exact absurd h (by decide)

/-- No edge leaves a terminal status. -/
theorem not_terminal_of_canTransitionTo {status next : ExecutionStatus}
    (h : status.canTransitionTo next = true) : status.terminal = false := by
  cases status <;> first | rfl | (cases next <;> cases h)

end ExecutionStatus

/-- A run of a confirmed plan. -/
structure Execution where
  id : ExecutionId
  planId : UpdatePlanId
  status : ExecutionStatus
  startedAt : Option Timestamp
  finishedAt : Option Timestamp
  deriving DecidableEq, Repr

namespace Execution

/-- `Execution::new`, with the fresh id. -/
def new (planId : UpdatePlanId) (newId : ExecutionId) : Execution :=
  ⟨newId, planId, .queued, none, none⟩

/-- Take an edge of the lifecycle: the first start and every end have their times. -/
def transitionTo (execution : Execution) (next : ExecutionStatus) (at_ : Timestamp) :
    Except DomainError Execution :=
  if execution.status.canTransitionTo next then
    .ok { execution with
      status := next
      startedAt :=
        if next = .running ∧ execution.startedAt.isNone then some at_ else execution.startedAt
      finishedAt := if next.terminal then some at_ else execution.finishedAt }
  else .error (.invalidStateTransition "execution status")

/-- Everything a change of status does. -/
theorem transitionTo_ok {execution execution' : Execution} {next : ExecutionStatus}
    {at_ : Timestamp} (h : execution.transitionTo next at_ = .ok execution') :
    execution.status.canTransitionTo next = true ∧ execution'.status = next ∧
      execution'.id = execution.id ∧ execution'.planId = execution.planId ∧
      execution'.startedAt =
        (if next = .running ∧ execution.startedAt.isNone then some at_
          else execution.startedAt) ∧
      execution'.finishedAt = if next.terminal then some at_ else execution.finishedAt := by
  unfold transitionTo at h
  split at h
  case isTrue hedge =>
    cases h
    exact ⟨hedge, rfl, rfl, rfl, rfl, rfl⟩
  case isFalse => cases h

end Execution

end Lxcup.Core
