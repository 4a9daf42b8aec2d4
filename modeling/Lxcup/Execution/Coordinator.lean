import Lxcup.Core.Execution
import Lxcup.Execution.Planner
import Lxcup.Lib.Machine
import Lxcup.Lib.Table

/-!
# The coordinator of executions

Confirmed, revalidated and idempotent executions of update plans.  An operation gives an
error and leaves the coordinator as it is, or an answer and the coordinator after the call;
`run` alone may give an error after it has changed the coordinator, and gives both.  Fresh
ids, the clock and what the executor answers are arguments.

## Main definitions

* `ExecutionCoordinator` with `start`, `run`, `finish`, `abort`, `begin`, `markConnectionLost`
  and `reconcile`.
* `ExecutionCoordinator.Move` — the two ways in which the coordinator ever changes.
* `ExecutionCall`, `executionMachine` — sequences of calls, failing ones included.

## Main results

* `start_ok`, `finish_ok`, `abort_ok`, `begin_ok`, `markConnectionLost_ok`, `reconcile_ok` — what an
  accepted call does, as moves.
* `ExecutionCall.moves_apply` — every call is a sequence of moves.
-/

namespace Lxcup.Execution

open Lxcup.Lib Lxcup.Core

/-- A request to carry out a plan. -/
structure ExecutionRequest where
  plan : UpdatePlan
  currentPlanInput : PlannerInput
  actor : String
  idempotencyKey : String

/-- An entry of the event log of an execution. -/
structure ExecutionEvent where
  sequence : Nat
  eventType : String
  message : String
  createdAt : Timestamp
  deriving DecidableEq, Repr

/-- The details that an audit record keeps of a plan. -/
structure AuditDetails where
  planId : Uuid
  planHash : Option String
  deriving DecidableEq, Repr

/-- An entry of the audit log. -/
structure AuditRecord where
  eventType : String
  actor : String
  executionId : ExecutionId
  details : AuditDetails
  createdAt : Timestamp
  deriving DecidableEq, Repr

/-- The outcome of carrying a plan out. -/
structure ExecutionResult where
  exitCode : Int
  stdout : String
  stderr : String
  deriving DecidableEq, Repr, Inhabited

/-- What an agent is found to have done, after a restart or a lost connection. -/
inductive ObservedExecutionState
  | running | succeeded | failed | unknown
  deriving DecidableEq, Repr, Inhabited

/-- What follows from an observation. -/
inductive ReconciliationAction
  | keepRunning | markSucceeded | markFailed | requireManualReview
  deriving DecidableEq, Repr, Inhabited

/-- The answer to a request to start. -/
inductive ExecutionStart
  | created (execution : Execution)
  | duplicate (id : ExecutionId)
  deriving DecidableEq, Repr

/-- Why the coordinator, or an executor, refuses a call. -/
inductive ExecutionError
  | missingRequestIdentity
  | planNotConfirmed
  | planChanged
  | invalidState
  | unknownExecution
  | emptyPlan
  | unsafePackageArgument
  | notConfigured
  | planner (error : PlannerError)
  deriving DecidableEq, Repr, Inhabited

namespace ExecutionError

/-- The text of an error. -/
def text : ExecutionError → String
  | missingRequestIdentity => "execution actor and idempotency key are required"
  | planNotConfirmed => "plan must be explicitly confirmed"
  | planChanged => "plan changed during pre-execution validation"
  | invalidState => "execution has already reached a terminal state or has an invalid state"
  | unknownExecution => "execution does not exist"
  | emptyPlan => "execution plan must contain at least one package change"
  | unsafePackageArgument => "plan contains an unsafe package argument"
  | notConfigured => "the package executor is not configured"
  | planner (.domain (.emptyValue field)) => field ++ " must not be empty"
  | planner (.domain .invalidPackageName) => "package name must not contain whitespace"
  | planner (.domain (.invalidStateTransition subject)) =>
    "invalid domain state transition: " ++ subject
  | planner (.domain .permissionDenied) => "permission denied"
  | planner (.domain .confirmationRequired) => "explicit confirmation is required"
  | planner (.heldPackage package) => "held package cannot be planned: " ++ package
  | planner (.unauthenticatedPackage package) =>
    "unauthenticated package cannot be planned: " ++ package

end ExecutionError

/-- The coordinator: executions with their plans, the idempotency keys, the event logs and
the audit log. -/
structure ExecutionCoordinator where
  executions : Table ExecutionId Execution
  plans : Table ExecutionId UpdatePlan
  idempotency : Table String ExecutionId
  events : Table ExecutionId (List ExecutionEvent)
  audit : List AuditRecord

namespace ExecutionCoordinator

/-- `ExecutionCoordinator::default()`. -/
def default : ExecutionCoordinator := ⟨∅, ∅, ∅, ∅, []⟩

/-- The events of an execution; none when it is not known. -/
def eventsOf (c : ExecutionCoordinator) (id : ExecutionId) : List ExecutionEvent :=
  (c.events.get id).getD []

/-- Append an event to the log of an execution, numbered from one. -/
def appendEvent (c : ExecutionCoordinator) (id : ExecutionId) (eventType message : String)
    (now : Timestamp) : ExecutionCoordinator :=
  let events := c.eventsOf id
  { c with events := c.events.put id (events ++ [⟨events.length + 1, eventType, message, now⟩]) }

/-- The coordinator with a new execution of a plan under its key. -/
def enqueue (c : ExecutionCoordinator) (plan : UpdatePlan) (actor key : String)
    (newId : ExecutionId) (now : Timestamp) : ExecutionCoordinator :=
  let c := { c with
    idempotency := c.idempotency.put key newId
    plans := c.plans.put newId plan
    executions := c.executions.put newId (.new plan.id newId) }
  let c := c.appendEvent newId "queued" "execution queued" now
  { c with audit := c.audit ++
      [⟨"execution_queued", actor, newId, ⟨plan.id.uuid, plan.planHash⟩, now⟩] }

section

variable (digest : CanonicalPlan → String)

/-- Start the execution of a plan, or find the one that its key has started. -/
def start (c : ExecutionCoordinator) (request : ExecutionRequest) (newId : ExecutionId)
    (now : Timestamp) : Except ExecutionError (ExecutionStart × ExecutionCoordinator) :=
  if trim request.actor.toList = [] ∨ trim request.idempotencyKey.toList = [] then
    .error .missingRequestIdentity
  else
    match c.idempotency.get request.idempotencyKey with
    -- the plan is not looked at any more
    | some existing => .ok (.duplicate existing, c)
    | none =>
      if request.plan.status ≠ .confirmed then .error .planNotConfirmed
      else
        match UpdatePlanner.revalidate digest request.plan request.currentPlanInput with
        | .error error => .error (.planner error)
        | .ok (.changed, _) => .error .planChanged
        | .ok (.unchanged, plan) =>
          .ok (.created (.new plan.id newId),
            c.enqueue plan request.actor request.idempotencyKey newId now)

end

/-- The execution under `id` after an edge of its lifecycle, and the coordinator that holds
it. -/
def transition (c : ExecutionCoordinator) (id : ExecutionId) (next : ExecutionStatus)
    (now : Timestamp) : Except ExecutionError (Execution × ExecutionCoordinator) :=
  match c.executions.get id with
  | none => .error .unknownExecution
  | some execution =>
    match execution.transitionTo next now with
    | .error _ => .error .invalidState
    | .ok execution => .ok (execution, { c with executions := c.executions.put id execution })

/-- A change of status with the event that names it. -/
def recorded (c : ExecutionCoordinator) (id : ExecutionId) (next : ExecutionStatus)
    (eventType message : String) (now : Timestamp) :
    Except ExecutionError (Execution × ExecutionCoordinator) :=
  match c.transition id next now with
  | .error error => .error error
  | .ok (execution, c) => .ok (execution, c.appendEvent id eventType message now)

/-- Finish an execution with what its exit code says. -/
def finish (c : ExecutionCoordinator) (id : ExecutionId) (result : ExecutionResult)
    (now : Timestamp) : Except ExecutionError (Execution × ExecutionCoordinator) :=
  let next : ExecutionStatus := if result.exitCode = 0 then .succeeded else .failed
  let message := if result.exitCode = 0 then "execution succeeded" else "execution failed"
  c.recorded id next next.name message now

/-- Abort an execution. -/
def abort (c : ExecutionCoordinator) (id : ExecutionId) (now : Timestamp) :
    Except ExecutionError (Execution × ExecutionCoordinator) :=
  c.recorded id .aborted "aborted" "execution aborted" now

/-- Begin to carry an execution out; the answer is its plan. -/
def begin (c : ExecutionCoordinator) (id : ExecutionId) (now : Timestamp) :
    Except ExecutionError (UpdatePlan × ExecutionCoordinator) :=
  match c.plans.get id with
  | none => .error .unknownExecution
  | some plan =>
    match c.recorded id .running "running" "execution started" now with
    | .error error => .error error
    | .ok (_, c) => .ok (plan, c)

/-- Carry an execution out with an executor.  When the executor fails, its error is the
answer, although the execution has been finished. -/
def run (c : ExecutionCoordinator) (id : ExecutionId)
    (execute : UpdatePlan → Except ExecutionError ExecutionResult) (started finished : Timestamp) :
    Except ExecutionError Execution × ExecutionCoordinator :=
  match c.plans.get id with
  | none => (.error .unknownExecution, c)
  | some plan =>
    match c.begin id started with
    | .error error => (.error error, c)
    | .ok (_, c) =>
      match execute plan with
      | .ok result =>
        match c.finish id result finished with
        | .error error => (.error error, c)
        | .ok (execution, c) => (.ok execution, c)
      | .error error =>
        match c.finish id ⟨1, "", error.text⟩ finished with
        | .error _ => (.error error, c)
        | .ok (_, c) => (.error error, c)

/-- Move a running execution to unknown when its remote state cannot be read; any other
execution stays as it is. -/
def markConnectionLost (c : ExecutionCoordinator) (id : ExecutionId) (now : Timestamp) :
    Except ExecutionError (Execution × ExecutionCoordinator) :=
  match c.executions.get id with
  | none => .error .unknownExecution
  | some execution =>
    if execution.status = .running then
      c.recorded id .unknown "unknown" "remote agent connection lost; reconciliation required" now
    else .ok (execution, c)

/-- Apply an observed remote state. -/
def reconcile (c : ExecutionCoordinator) (id : ExecutionId) (observed : ObservedExecutionState)
    (now : Timestamp) :
    Except ExecutionError ((Execution × ReconciliationAction) × ExecutionCoordinator) :=
  match c.executions.get id with
  | none => .error .unknownExecution
  | some execution =>
    if execution.status.terminal then .ok ((execution, .requireManualReview), c)
    else
      match observed with
      | .running => .ok ((execution, .keepRunning), c)
      | .succeeded =>
        match c.finish id ⟨0, "", ""⟩ now with
        | .error error => .error error
        | .ok (execution, c) => .ok ((execution, .markSucceeded), c)
      | .failed =>
        match c.finish id ⟨1, "", "remote agent reported failure"⟩ now with
        | .error error => .error error
        | .ok (execution, c) => .ok ((execution, .markFailed), c)
      | .unknown => .ok ((execution, .requireManualReview), c)

/-! ### What the operations do -/

/-- The two ways in which the coordinator ever changes: an execution is queued under an unused
key, or one goes along an edge of its lifecycle and the event is named after its new status. -/
inductive Move (c : ExecutionCoordinator) : ExecutionCoordinator → Prop
  | queued {plan : UpdatePlan} {actor key : String} {newId : ExecutionId} {now : Timestamp}
      (unused : c.idempotency.get key = none) (fresh : c.executions.get newId = none) :
      Move c (c.enqueue plan actor key newId now)
  | moved {id : ExecutionId} {execution execution' : Execution} {next : ExecutionStatus}
      {message : String} {now : Timestamp} (found : c.executions.get id = some execution)
      (edge : execution.transitionTo next now = .ok execution') :
      Move c (({ c with executions := c.executions.put id execution' }).appendEvent id next.name
        message now)

variable {c c' : ExecutionCoordinator} {id : ExecutionId} {now : Timestamp}

theorem recorded_ok {next : ExecutionStatus} {eventType message : String} {execution' : Execution}
    (h : c.recorded id next eventType message now = .ok (execution', c')) :
    ∃ execution, c.executions.get id = some execution ∧
      execution.transitionTo next now = .ok execution' ∧
      c' = ({ c with executions := c.executions.put id execution' }).appendEvent id eventType
        message now := by
  simp only [recorded, transition] at h
  cases hfound : c.executions.get id with
  | none => simp [hfound] at h
  | some execution =>
    cases hedge : execution.transitionTo next now with
    | error error => simp [hfound, hedge] at h
    | ok moved =>
      simp only [hfound, hedge, Except.ok.injEq, Prod.mk.injEq] at h
      obtain ⟨rfl, rfl⟩ := h
      exact ⟨execution, rfl, hedge, rfl⟩

/-- Recording a change of status under the name of the status is a move. -/
theorem move_of_recorded (next : ExecutionStatus) {message : String} {execution : Execution}
    (h : c.recorded id next next.name message now = .ok (execution, c')) : Move c c' := by
  obtain ⟨execution₀, found, edge, rfl⟩ := recorded_ok h
  exact .moved found edge

/-- **Exactly when a request to start is accepted**, and what it does then. -/
theorem start_ok {digest : CanonicalPlan → String} {request : ExecutionRequest}
    {newId : ExecutionId} {answer : ExecutionStart}
    (h : c.start digest request newId now = .ok (answer, c')) :
    trim request.actor.toList ≠ [] ∧ trim request.idempotencyKey.toList ≠ [] ∧
      ((∃ existing, c.idempotency.get request.idempotencyKey = some existing ∧
          answer = .duplicate existing ∧ c' = c) ∨
        (c.idempotency.get request.idempotencyKey = none ∧ request.plan.status = .confirmed ∧
          answer = .created (.new request.plan.id newId) ∧
          c' = c.enqueue request.plan request.actor request.idempotencyKey newId now)) := by
  unfold start at h
  split at h
  case isTrue => cases h
  case isFalse hidentity =>
    obtain ⟨hactor, hkey⟩ := not_or.mp hidentity
    refine ⟨hactor, hkey, ?_⟩
    cases hknown : c.idempotency.get request.idempotencyKey with
    | some existing =>
      simp only [hknown, Except.ok.injEq, Prod.mk.injEq] at h
      exact .inl ⟨existing, rfl, h.1.symm, h.2.symm⟩
    | none =>
      simp only [hknown] at h
      split at h
      case isTrue => cases h
      case isFalse hstatus =>
        cases hrevalidated : UpdatePlanner.revalidate digest request.plan
            request.currentPlanInput with
        | error error => simp [hrevalidated] at h
        | ok outcome =>
          obtain ⟨revalidation, plan⟩ := outcome
          cases revalidation with
          | changed => simp [hrevalidated] at h
          | unchanged =>
            have hplan : plan = request.plan := UpdatePlanner.revalidate_unchanged hrevalidated
            subst hplan
            simp only [hrevalidated, Except.ok.injEq, Prod.mk.injEq] at h
            exact .inr ⟨rfl, not_not.mp hstatus, h.1.symm, h.2.symm⟩

/-- Starting a confirmed plan against its own content. -/
theorem start_ofPlan {digest : CanonicalPlan → String} {plan : UpdatePlan} (actor key : String)
    (newId : ExecutionId) (hstatus : plan.status = .confirmed) :
    c.start digest ⟨plan, .ofPlan plan, actor, key⟩ newId now =
      if trim actor.toList = [] ∨ trim key.toList = [] then .error .missingRequestIdentity
      else
        match c.idempotency.get key with
        | some existing => .ok (.duplicate existing, c)
        | none =>
          if plan.requestedPackages = [] then
            .error (.planner (.domain (.emptyValue "requested packages")))
          else .ok (.created (.new plan.id newId), c.enqueue plan actor key newId now) := by
  simp only [start]
  split
  case isTrue => rfl
  case isFalse =>
    cases hknown : c.idempotency.get key with
    | some existing => rfl
    | none =>
      simp only [hstatus, ne_eq, not_true_eq_false, if_false,
        @UpdatePlanner.revalidate_ofPlan digest plan plan rfl rfl rfl]
      by_cases hempty : plan.requestedPackages = [] <;> simp [hempty]

/-- An execution has gone along an edge of its lifecycle, and nothing but its log has changed
besides. -/
structure MovedTo (c c' : ExecutionCoordinator) (id : ExecutionId) (next : ExecutionStatus)
    (now : Timestamp) (execution execution' : Execution) : Prop where
  move : Move c c'
  found : c.executions.get id = some execution
  edge : execution.transitionTo next now = .ok execution'
  executions : c'.executions = c.executions.put id execution'
  plans : c'.plans = c.plans
  idempotency : c'.idempotency = c.idempotency

theorem movedTo_of_recorded (next : ExecutionStatus) {message : String} {execution' : Execution}
    (h : c.recorded id next next.name message now = .ok (execution', c')) :
    ∃ execution, MovedTo c c' id next now execution execution' := by
  have hmove := move_of_recorded next h
  obtain ⟨execution, found, edge, rfl⟩ := recorded_ok h
  exact ⟨execution, hmove, found, edge, rfl, rfl, rfl⟩

theorem finish_ok {result : ExecutionResult} {execution' : Execution}
    (h : c.finish id result now = .ok (execution', c')) :
    ∃ execution, MovedTo c c' id (if result.exitCode = 0 then .succeeded else .failed) now execution
      execution' :=
  movedTo_of_recorded _ h

/-- A running execution can always be finished. -/
theorem finish_of_running {execution : Execution} (found : c.executions.get id = some execution)
    (hrunning : execution.status = .running) (result : ExecutionResult) :
    ∃ after c', c.finish id result now = .ok (after, c') := by
  have hedge : ∀ next, next = ExecutionStatus.succeeded ∨ next = .failed →
      ∃ after, execution.transitionTo next now = .ok after := by
    rintro next (rfl | rfl)
    all_goals exact ⟨_, by rw [Execution.transitionTo, hrunning]; exact if_pos rfl⟩
  simp only [finish, recorded, transition, found]
  by_cases hexit : result.exitCode = 0
  · obtain ⟨after, hafter⟩ := hedge .succeeded (.inl rfl)
    simp only [hexit, if_true, hafter]
    exact ⟨_, _, rfl⟩
  · obtain ⟨after, hafter⟩ := hedge .failed (.inr rfl)
    simp only [hexit, if_false, hafter]
    exact ⟨_, _, rfl⟩

theorem abort_ok {execution' : Execution} (h : c.abort id now = .ok (execution', c')) :
    ∃ execution, MovedTo c c' id .aborted now execution execution' :=
  movedTo_of_recorded .aborted h

theorem begin_ok {plan : UpdatePlan} (h : c.begin id now = .ok (plan, c')) :
    c.plans.get id = some plan ∧
      ∃ execution execution', MovedTo c c' id .running now execution execution' := by
  simp only [begin] at h
  cases hplan : c.plans.get id with
  | none => simp [hplan] at h
  | some known =>
    cases hrecorded : c.recorded id .running "running" "execution started" now with
    | error error => simp [hplan, hrecorded] at h
    | ok outcome =>
      obtain ⟨execution', moved⟩ := outcome
      simp only [hplan, hrecorded, Except.ok.injEq, Prod.mk.injEq] at h
      obtain ⟨rfl, rfl⟩ := h
      obtain ⟨execution, hmoved⟩ := movedTo_of_recorded .running hrecorded
      exact ⟨rfl, execution, execution', hmoved⟩

theorem markConnectionLost_ok {execution' : Execution}
    (h : c.markConnectionLost id now = .ok (execution', c')) : c' = c ∨ Move c c' := by
  simp only [markConnectionLost] at h
  cases hfound : c.executions.get id with
  | none => simp [hfound] at h
  | some execution =>
    simp only [hfound] at h
    split at h
    case isTrue =>
      exact .inr (move_of_recorded .unknown h)
    case isFalse =>
      simp only [Except.ok.injEq, Prod.mk.injEq] at h
      exact .inl h.2.symm

/-- What a reconciliation answers and does: nothing, or it finishes an unfinished execution. -/
theorem reconcile_ok {observed : ObservedExecutionState} {execution' : Execution}
    {action : ReconciliationAction}
    (h : c.reconcile id observed now = .ok ((execution', action), c')) :
    (c' = c ∧ c.executions.get id = some execution') ∨
      ∃ result, c.finish id result now = .ok (execution', c') := by
  simp only [reconcile] at h
  cases hfound : c.executions.get id with
  | none => simp [hfound] at h
  | some execution =>
    simp only [hfound] at h
    split at h
    case isTrue =>
      simp only [Except.ok.injEq, Prod.mk.injEq] at h
      exact .inl ⟨h.2.symm, by rw [h.1.1]⟩
    case isFalse =>
      have hsame : ∀ {other : ReconciliationAction},
          (Except.ok ((execution, other), c) : Except ExecutionError _)
            = .ok ((execution', action), c') →
          (c' = c ∧ some execution = some execution') ∨
            ∃ result, c.finish id result now = .ok (execution', c') := by
        intro other hother
        simp only [Except.ok.injEq, Prod.mk.injEq] at hother
        exact .inl ⟨hother.2.symm, by rw [hother.1.1]⟩
      have hfinish : ∀ {result : ExecutionResult} {other : ReconciliationAction},
          (match c.finish id result now with
            | .error error => (.error error : Except ExecutionError _)
            | .ok (execution, c) => .ok ((execution, other), c)) = .ok ((execution', action), c') →
          c.finish id result now = .ok (execution', c') := by
        intro result other hother
        cases hcall : c.finish id result now with
        | error error => simp [hcall] at hother
        | ok outcome =>
          simp only [hcall, Except.ok.injEq, Prod.mk.injEq] at hother
          rw [← hother.1.1, ← hother.2]
      cases observed with
      | running => exact hsame h
      | succeeded => exact .inr ⟨_, hfinish h⟩
      | failed => exact .inr ⟨_, hfinish h⟩
      | unknown => exact hsame h

end ExecutionCoordinator

/-! ### Sequences of calls -/

/-- The calls of the coordinator, with what they take from outside. -/
inductive ExecutionCall
  | start (request : ExecutionRequest) (newId : ExecutionId) (now : Timestamp)
  | begin (id : ExecutionId) (now : Timestamp)
  | finish (id : ExecutionId) (result : ExecutionResult) (now : Timestamp)
  | abort (id : ExecutionId) (now : Timestamp)
  | run (id : ExecutionId) (execute : UpdatePlan → Except ExecutionError ExecutionResult)
      (started finished : Timestamp)
  | markConnectionLost (id : ExecutionId) (now : Timestamp)
  | reconcile (id : ExecutionId) (observed : ObservedExecutionState) (now : Timestamp)

namespace ExecutionCall

/-- The coordinator after a call that may have been refused. -/
def settle {α : Type} (c : ExecutionCoordinator) :
    Except ExecutionError (α × ExecutionCoordinator) → ExecutionCoordinator
  | .error _ => c
  | .ok (_, c') => c'

/-- The coordinator after a call. -/
def apply (digest : CanonicalPlan → String) : ExecutionCall → ExecutionCoordinator →
    ExecutionCoordinator
  | .start request newId now, c => settle c (c.start digest request newId now)
  | .begin id now, c => settle c (c.begin id now)
  | .finish id result now, c => settle c (c.finish id result now)
  | .abort id now, c => settle c (c.abort id now)
  | .run id execute started finished, c => (c.run id execute started finished).2
  | .markConnectionLost id now, c => settle c (c.markConnectionLost id now)
  | .reconcile id observed now, c => settle c (c.reconcile id observed now)

/-- A new execution gets an id that none has had. -/
def fresh : ExecutionCall → ExecutionCoordinator → Bool
  | .start _ newId _, c => (c.executions.get newId).isNone
  | _, _ => true

end ExecutionCall

/-- The calls of a coordinator, one after the other, from the default one. -/
def executionMachine (digest : CanonicalPlan → String) :
    Machine ExecutionCoordinator ExecutionCall where
  init c := c = .default
  step c call := if call.fresh c then some (call.apply digest c) else none

namespace ExecutionCall

open ExecutionCoordinator Relation

/-- A call that is refused, or accepted with moves, is a sequence of moves. -/
theorem moves_settle {α : Type} {c : ExecutionCoordinator}
    {outcome : Except ExecutionError (α × ExecutionCoordinator)}
    (h : ∀ answer c', outcome = .ok (answer, c') → c' = c ∨ Move c c') :
    ReflTransGen Move c (settle c outcome) := by
  cases outcome with
  | error error => exact .refl
  | ok result =>
    rcases h result.1 result.2 rfl with hsame | hmove
    · exact hsame ▸ .refl
    · exact .single hmove

theorem moves_run (c : ExecutionCoordinator) (id : ExecutionId)
    (execute : UpdatePlan → Except ExecutionError ExecutionResult) (started finished : Timestamp) :
    ReflTransGen Move c (c.run id execute started finished).2 := by
  unfold ExecutionCoordinator.run
  cases hplan : c.plans.get id with
  | none => exact .refl
  | some plan =>
    cases hbegin : c.begin id started with
    | error error => exact .refl
    | ok outcome =>
      obtain ⟨-, _, _, hmoved⟩ := begin_ok hbegin
      have hbegun : ReflTransGen Move c outcome.2 := .single hmoved.move
      cases hexecute : execute plan with
      | ok result =>
        cases hfinish : outcome.2.finish id result finished with
        | error error => simpa [hexecute, hfinish] using hbegun
        | ok finished' =>
          obtain ⟨_, hfinished⟩ := finish_ok hfinish
          simpa [hexecute, hfinish] using hbegun.tail hfinished.move
      | error error =>
        cases hfinish : outcome.2.finish id ⟨1, "", error.text⟩ finished with
        | error error' => simpa [hexecute, hfinish] using hbegun
        | ok finished' =>
          obtain ⟨_, hfinished⟩ := finish_ok hfinish
          simpa [hexecute, hfinish] using hbegun.tail hfinished.move

/-- **Every call is a sequence of moves**, refused calls and failed executors included. -/
theorem moves_apply {digest : CanonicalPlan → String} {call : ExecutionCall}
    {c : ExecutionCoordinator} (hfresh : call.fresh c = true) :
    ReflTransGen Move c (call.apply digest c) := by
  cases call with
  | start request newId now =>
    refine moves_settle fun answer c' h => ?_
    obtain ⟨-, -, ⟨existing, -, -, rfl⟩ | ⟨unused, -, -, rfl⟩⟩ := start_ok h
    · exact .inl rfl
    · exact .inr (.queued unused (by simpa [fresh] using hfresh))
  | begin id now =>
    refine moves_settle fun plan c' h => ?_
    obtain ⟨-, _, _, hmoved⟩ := begin_ok h
    exact .inr hmoved.move
  | finish id result now =>
    refine moves_settle fun execution c' h => ?_
    obtain ⟨_, hmoved⟩ := finish_ok h
    exact .inr hmoved.move
  | abort id now =>
    refine moves_settle fun execution c' h => ?_
    obtain ⟨_, hmoved⟩ := abort_ok h
    exact .inr hmoved.move
  | run id execute started finished => exact moves_run c id execute started finished
  | markConnectionLost id now =>
    exact moves_settle fun execution c' h => markConnectionLost_ok h
  | reconcile id observed now =>
    refine moves_settle fun answer c' h => ?_
    rcases reconcile_ok h with ⟨rfl, -⟩ | ⟨result, hfinish⟩
    · exact .inl rfl
    · obtain ⟨_, hmoved⟩ := finish_ok hfinish
      exact .inr hmoved.move

end ExecutionCall

/-- A confirmed plan for the package `openssl` in container 101, without changes. -/
def opensslPlan : UpdatePlan where
  id := ⟨⟨1⟩⟩
  containerId := ⟨101⟩
  requestedPackages := (PackageName.new "openssl").toList
  resolvedChanges := []
  status := .confirmed
  createdAt := 0
  planHash := none

/-- The hash of that plan. -/
def opensslDigest : CanonicalPlan → String := fun _ =>
  "1f6574198eebb1ce7c58523fd3e87196f2addeeffcaf8d0004c0300cf16c520a"

end Lxcup.Execution
