import Lxcup.Core.Resource
import Lxcup.Core.Target

/-!
# The lifecycle of an enrollment

## Main definitions

* `EnrollmentState.canTransitionTo`, `EnrollmentState.isActive`.
* `Enrollment.new`, `Enrollment.transitionTo`, `Enrollment.fail`.

## Main results

* `Enrollment.transitionTo_ok` — what a transition changes.
-/

namespace Lxcup.Core

open Lxcup.Lib

namespace EnrollmentState

/-- The edges of the lifecycle. -/
def canTransitionTo : EnrollmentState → EnrollmentState → Bool
  | requested, requested | requested, discovering | requested, failed => true
  | discovering, discovering | discovering, installingAgent | discovering, failed => true
  | installingAgent, installingAgent | installingAgent, registeringAgent
  | installingAgent, failed => true
  | registeringAgent, registeringAgent | registeringAgent, connected
  | registeringAgent, failed => true
  | connected, connected | connected, disabled | connected, discovering => true
  | failed, failed | failed, discovering => true
  | disabled, disabled | disabled, discovering => true
  | _, _ => false

/-- The enrollment is under way. -/
def isActive : EnrollmentState → Bool
  | requested | discovering | installingAgent | registeringAgent => true
  | _ => false

end EnrollmentState

namespace Enrollment

/-- `Enrollment::new`, with the fresh id and the time of the call. -/
def new (containerId : ContainerId) (idempotencyKey : String) (id : EnrollmentId)
    (now : Timestamp) : Except DomainError Enrollment :=
  if trim idempotencyKey.toList = [] then .error (.emptyValue "enrollment idempotency key")
  else if idempotencyKey.toList.length > 200 then
    .error (.invalidStateTransition "enrollment idempotency key is too long")
  else .ok {
    id := id
    containerId := containerId
    targetId := none
    state := .requested
    idempotencyKey := idempotencyKey
    failureReason := none
    createdAt := now
    updatedAt := now }

/-- Take an edge of the lifecycle. -/
def transitionTo (enrollment : Enrollment) (next : EnrollmentState) (now : Timestamp) :
    Except DomainError Enrollment :=
  if !enrollment.state.canTransitionTo next then
    .error (.invalidStateTransition "enrollment state")
  else .ok { enrollment with
    state := next
    failureReason := if next ≠ .failed then none else enrollment.failureReason
    updatedAt := now }

/-- Give up, from any state. -/
def fail (enrollment : Enrollment) (reason : String) (now : Timestamp) : Enrollment :=
  { enrollment with state := .failed, failureReason := some reason, updatedAt := now }

/-- What names an enrollment and what it is for. -/
def SameLink (enrollment other : Enrollment) : Prop :=
  other.id = enrollment.id ∧ other.containerId = enrollment.containerId ∧
    other.targetId = enrollment.targetId

theorem SameLink.refl (enrollment : Enrollment) : enrollment.SameLink enrollment :=
  ⟨rfl, rfl, rfl⟩

theorem SameLink.trans {a b c : Enrollment} (h : a.SameLink b) (h' : b.SameLink c) :
    a.SameLink c :=
  ⟨h'.1.trans h.1, h'.2.1.trans h.2.1, h'.2.2.trans h.2.2⟩

/-- **A transition** takes an edge and leaves the link as it is. -/
theorem transitionTo_ok {enrollment enrollment' : Enrollment} {next : EnrollmentState}
    {now : Timestamp} (h : enrollment.transitionTo next now = .ok enrollment') :
    enrollment.state.canTransitionTo next = true ∧ enrollment'.state = next ∧
      enrollment.SameLink enrollment' := by
  unfold transitionTo at h
  split at h
  case isTrue => cases h
  case isFalse hedge =>
    obtain rfl := Except.ok.inj h
    exact ⟨by simpa using hedge, rfl, rfl, rfl, rfl⟩

end Enrollment

end Lxcup.Core
