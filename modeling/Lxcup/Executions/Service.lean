import Lxcup.Server.Executions

/-!
# Plans and executions, request by request

A server whose requests overlap.  Creating a plan, confirming one and every single access of the
other handlers is a step: the coordinator is locked for each of its calls only, so that a run, an
abort and a reconciliation can come between each other's parts.

The state keeps a history next to what the server holds: which commands have been sent to an
agent, what the agents have answered, which calls of an agent have ended in a transport error, and
which confirmations have been answered.  No step reads it.

## Main definitions

* `CallPhase` — how far a request has come.
* `ExecutionService`, `ServiceAction`, `ExecutionService.step`, `serviceMachine`.
* `Effect` — everything that one step does.

## Main results

* `effect_of_step` — every step has one of these effects.
-/

namespace Lxcup.Executions

open Lxcup.Lib Lxcup.Core Lxcup.Execution Lxcup.Agent Lxcup.Server

/-- How far a request has come that runs, aborts or reconciles an execution. -/
inductive CallPhase
  /-- The plan and the agent are known; the execution begins next. -/
  | located (id : ExecutionId) (plan : UpdatePlan) (agent : RegisteredAgent)
  /-- The execution is running; the command is sent next. -/
  | begun (id : ExecutionId) (plan : UpdatePlan) (agent : RegisteredAgent)
  /-- The command has been sent. -/
  | waiting (id : ExecutionId) (plan : UpdatePlan) (agent : RegisteredAgent)
  /-- The call of the agent has ended; the execution is finished next. -/
  | answered (id : ExecutionId) (response : Except AgentError AgentCommandResponse)
  /-- The execution is finished; the store is written next, and the database after it. -/
  | finished (id : ExecutionId) (execution : Execution) (result : ExecutionResult)
  /-- The execution is aborted; the store is written next. -/
  | aborted (id : ExecutionId) (execution : Execution)
  /-- The execution is reconciled; the store is written next. -/
  | reconciled (id : ExecutionId) (execution : Execution)

/-- A confirmation that has been answered with an execution. -/
structure Confirmed where
  plan : Uuid
  key : String
  execution : ExecutionId
  deriving DecidableEq, Repr

/-- The server with the requests that are under way, and its history. -/
structure ExecutionService where
  api : ExecutionApi
  calls : Table Nat CallPhase
  /-- The executions whose command has been sent. -/
  sent : List ExecutionId
  /-- The exit codes that the agents have answered. -/
  responses : List (ExecutionId × Int)
  /-- The executions whose agent call has ended in a transport error. -/
  lost : List ExecutionId
  confirmations : List Confirmed

/-- The steps, with what they take from outside. -/
inductive ServiceAction
  | createPlan (containerId : String) (request : CreatePlanRequest) (newId : UpdatePlanId)
      (now : Timestamp) (dbFails : Bool)
  | registerAgent (containerId : ContainerId) (agent : RegisteredAgent)
  | confirm (planId : String) (headers : HeaderMap) (newId : ExecutionId) (now : Timestamp)
      (dbFails : Bool)
  | run (call : Nat) (executionId : String)
  | begin (call : Nat) (now : Timestamp)
  | send (call : Nat)
  | answer (call : Nat) (attempts : Nat → Attempt)
  | finish (call : Nat) (now : Timestamp)
  | record (call : Nat) (now : Timestamp) (dbFails : Bool)
  | abort (call : Nat) (executionId : String) (now : Timestamp)
  | reconcile (call : Nat) (executionId : String) (observed : ObservedExecutionState)
      (now : Timestamp)
  /-- The store is written after an abort or a reconciliation. -/
  | store (call : Nat)

namespace ExecutionService

/-- The server when it has been started. -/
def fresh (agents : Table ContainerId RegisteredAgent) (repositories : Option ExecutionTables) :
    ExecutionService where
  api := ⟨⟨[], [], ∅⟩, .default, agents, repositories⟩
  calls := ∅
  sent := []
  responses := []
  lost := []
  confirmations := []

/-- A request goes on. -/
def goesOn (s : ExecutionService) (call : Nat) (phase : CallPhase) : ExecutionService :=
  { s with calls := s.calls.put call phase }

/-- A request has been answered. -/
def ends (s : ExecutionService) (call : Nat) : ExecutionService :=
  { s with calls := s.calls.remove call }

/-- The coordinator after a call of it. -/
def coordinated (s : ExecutionService) (coordinator : ExecutionCoordinator) : ExecutionService :=
  { s with api := { s.api with execution := coordinator } }

/-- What the end of an agent call leaves in the history. -/
def heard (s : ExecutionService) (id : ExecutionId) :
    Except AgentError AgentCommandResponse → ExecutionService
  | .ok response => { s with responses := (id, response.exitCode) :: s.responses }
  | .error .transport => { s with lost := id :: s.lost }
  | .error _ => s

/-- A confirmation; its answer is kept in the history. -/
def confirm (digest : CanonicalPlan → String) (s : ExecutionService) (planId : String)
    (headers : HeaderMap) (newId : ExecutionId) (now : Timestamp) (dbFails : Bool) :
    ExecutionService :=
  match Uuid.parseStr planId.toList, confirmPlan digest s.api planId headers newId now dbFails with
  | some uuid, (.ok dto, api) =>
    { s with
      api := api
      confirmations := ⟨uuid, confirmationKey headers uuid, dto.id⟩ :: s.confirmations }
  | _, (_, api) => { s with api := api }

/-- One step; new ids have never been used, and a new request has a new number. -/
def step (digest : CanonicalPlan → String) (s : ExecutionService) :
    ServiceAction → Option ExecutionService
  | .createPlan containerId request newId now dbFails =>
    if (s.api.store.plans.any fun plan => plan.id = newId) then none
    else some { s with api := (createPlan digest s.api containerId request newId now dbFails).2 }
  | .registerAgent containerId agent =>
    some { s with api := { s.api with agents := s.api.agents.put containerId agent } }
  | .confirm planId headers newId now dbFails =>
    if (s.api.execution.executions.get newId).isSome then none
    else some (s.confirm digest planId headers newId now dbFails)
  | .run call executionId =>
    if (s.calls.get call).isSome then none
    else
      match locateRun s.api executionId with
      | .error _ => some s
      | .ok (id, plan, agent) => some (s.goesOn call (.located id plan agent))
  | .begin call now =>
    match s.calls.get call with
    | some (.located id plan agent) =>
      match s.api.execution.begin id now with
      | .error _ => some (s.ends call)
      | .ok (_, coordinator) => some ((s.coordinated coordinator).goesOn call (.begun id plan agent))
    | _ => none
  | .send call =>
    match s.calls.get call with
    | some (.begun id plan agent) =>
      let command := applyCommand id plan
      if AgentClient.sends command then
        some ({ s with sent := id :: s.sent }.goesOn call (.waiting id plan agent))
      else
        -- the client refuses the command: no attempt is made
        some (s.goesOn call
          (.answered id (AgentClient.command agent.maxRetries command fun _ => .transport)))
    | _ => none
  | .answer call attempts =>
    match s.calls.get call with
    | some (.waiting id plan agent) =>
      let response := AgentClient.command agent.maxRetries (applyCommand id plan) attempts
      some ((s.heard id response).goesOn call (.answered id response))
    | _ => none
  | .finish call now =>
    match s.calls.get call with
    | some (.answered id response) =>
      match s.api.execution.finish id (resultOf response) now with
      | .error _ => some (s.ends call)
      | .ok (execution, coordinator) =>
        some ((s.coordinated coordinator).goesOn call (.finished id execution (resultOf response)))
    | _ => none
  | .record call now dbFails =>
    match s.calls.get call with
    | some (.finished id execution result) =>
      some { s.ends call with
        api := (recordFinished s.api id execution result now dbFails).2 }
    | _ => none
  | .abort call executionId now =>
    if (s.calls.get call).isSome then none
    else
      match parseExecutionId executionId with
      | .error _ => some s
      | .ok id =>
        match s.api.execution.abort id now with
        | .error _ => some s
        | .ok (execution, coordinator) =>
          some ((s.coordinated coordinator).goesOn call (.aborted id execution))
  | .reconcile call executionId observed now =>
    if (s.calls.get call).isSome then none
    else
      match parseExecutionId executionId with
      | .error _ => some s
      | .ok id =>
        match s.api.execution.reconcile id observed now with
        | .error _ => some s
        | .ok ((execution, _), coordinator) =>
          some ((s.coordinated coordinator).goesOn call (.reconciled id execution))
  | .store call =>
    match s.calls.get call with
    | some (.aborted id execution) =>
      some { s.ends call with
        api := { s.api with store := storeAborted s.api.store id execution } }
    | some (.reconciled id execution) =>
      some { s.ends call with
        api := { s.api with store := storeExecution s.api.store id execution } }
    | _ => none

end ExecutionService

/-! ### What a step does -/

open ExecutionService

/-- Everything that one step does. -/
inductive Effect (s : ExecutionService) : ServiceAction → ExecutionService → Prop
  /-- The request is refused, and nothing changes. -/
  | idle {action : ServiceAction} : Effect s action s
  /-- The execution cannot begin. -/
  | unbegun {call : Nat} {now : Timestamp} {id : ExecutionId} {plan : UpdatePlan}
      {agent : RegisteredAgent} (phase : s.calls.get call = some (.located id plan agent)) :
      Effect s (.begin call now) (s.ends call)
  /-- The execution cannot be finished. -/
  | unfinished {call : Nat} {now : Timestamp} {id : ExecutionId} {error : ExecutionError}
      {response : Except AgentError AgentCommandResponse}
      (phase : s.calls.get call = some (.answered id response))
      (refuses : s.api.execution.finish id (resultOf response) now = .error error) :
      Effect s (.finish call now) (s.ends call)
  | planned {containerId : String} {request : CreatePlanRequest} {newId : UpdatePlanId}
      {now : Timestamp} {dbFails : Bool} {plan : UpdatePlan} {tables : Option ExecutionTables}
      (fresh : ∀ other ∈ s.api.store.plans, other.id ≠ newId) (named : plan.id = newId)
      (unconfirmed : plan.status ≠ .confirmed) :
      Effect s (.createPlan containerId request newId now dbFails)
        { s with api := { s.api with
            store := { s.api.store with plans := s.api.store.plans ++ [plan] }
            repositories := tables } }
  | registered {containerId : ContainerId} {agent : RegisteredAgent} :
      Effect s (.registerAgent containerId agent)
        { s with api := { s.api with agents := s.api.agents.put containerId agent } }
  /-- A confirmation is refused after its plan has been confirmed. -/
  | spoiled {planId : String} {headers : HeaderMap} {newId : ExecutionId} {now : Timestamp}
      {dbFails : Bool} {uuid : Uuid} {plan : UpdatePlan}
      (named : NamesReady s.api planId uuid plan) :
      Effect s (.confirm planId headers newId now dbFails)
        { s with api := { s.api with store := withPlan s.api.store uuid (confirmedPlan plan) } }
  /-- A confirmation queues an execution; the answer may be an error of the database. -/
  | created {planId : String} {headers : HeaderMap} {newId : ExecutionId} {now : Timestamp}
      {dbFails : Bool} {uuid : Uuid} {plan : UpdatePlan} {tables : Option ExecutionTables}
      {confirmations : List Confirmed} (named : NamesReady s.api planId uuid plan)
      (fresh : s.api.execution.executions.get newId = none)
      (unused : s.api.execution.idempotency.get (confirmationKey headers uuid) = none)
      (log : ∀ entry ∈ confirmations, entry ∈ s.confirmations ∨
        entry = ⟨uuid, confirmationKey headers uuid, newId⟩) :
      Effect s (.confirm planId headers newId now dbFails)
        { s with
          api := { s.api with
            store := { withPlan s.api.store uuid (confirmedPlan plan) with
              executions := s.api.store.executions ++ [.new plan.id newId] }
            execution := s.api.execution.enqueue (confirmedPlan plan) (confirmingActor headers)
              (confirmationKey headers uuid) newId now
            repositories := tables }
          confirmations := confirmations }
  /-- A confirmation is answered with the execution that its key was used for. -/
  | repeated {planId : String} {headers : HeaderMap} {newId : ExecutionId} {now : Timestamp}
      {dbFails : Bool} {uuid : Uuid} {plan : UpdatePlan} {id : ExecutionId}
      (named : NamesReady s.api planId uuid plan)
      (known : s.api.execution.idempotency.get (confirmationKey headers uuid) = some id) :
      Effect s (.confirm planId headers newId now dbFails)
        { s with
          api := { s.api with store := withPlan s.api.store uuid (confirmedPlan plan) }
          confirmations := ⟨uuid, confirmationKey headers uuid, id⟩ :: s.confirmations }
  | located {call : Nat} {executionId : String} {id : ExecutionId} {plan : UpdatePlan}
      {agent : RegisteredAgent} (unused : s.calls.get call = none)
      (found : s.api.execution.plans.get id = some plan) :
      Effect s (.run call executionId) (s.goesOn call (.located id plan agent))
  | begun {call : Nat} {now : Timestamp} {id : ExecutionId} {plan : UpdatePlan}
      {agent : RegisteredAgent} {plan' : UpdatePlan} {coordinator : ExecutionCoordinator}
      (phase : s.calls.get call = some (.located id plan agent))
      (begins : s.api.execution.begin id now = .ok (plan', coordinator)) :
      Effect s (.begin call now) ((s.coordinated coordinator).goesOn call (.begun id plan agent))
  | sent {call : Nat} {id : ExecutionId} {plan : UpdatePlan} {agent : RegisteredAgent}
      (phase : s.calls.get call = some (.begun id plan agent))
      (sends : AgentClient.sends (applyCommand id plan) = true) :
      Effect s (.send call) ({ s with sent := id :: s.sent }.goesOn call (.waiting id plan agent))
  | unsent {call : Nat} {id : ExecutionId} {plan : UpdatePlan} {agent : RegisteredAgent}
      {error : AgentError} (phase : s.calls.get call = some (.begun id plan agent))
      (sends : AgentClient.sends (applyCommand id plan) = false) :
      Effect s (.send call) (s.goesOn call (.answered id (.error error)))
  | answered {call : Nat} {attempts : Nat → Attempt} {id : ExecutionId} {plan : UpdatePlan}
      {agent : RegisteredAgent} {response : Except AgentError AgentCommandResponse}
      (phase : s.calls.get call = some (.waiting id plan agent)) :
      Effect s (.answer call attempts)
        ((s.heard id response).goesOn call (.answered id response))
  | finished {call : Nat} {now : Timestamp} {id : ExecutionId}
      {response : Except AgentError AgentCommandResponse} {execution : Execution}
      {coordinator : ExecutionCoordinator}
      (phase : s.calls.get call = some (.answered id response))
      (finishes : s.api.execution.finish id (resultOf response) now
        = .ok (execution, coordinator)) :
      Effect s (.finish call now)
        ((s.coordinated coordinator).goesOn call (.finished id execution (resultOf response)))
  | recorded {call : Nat} {now : Timestamp} {dbFails : Bool} {id : ExecutionId}
      {execution : Execution} {result : ExecutionResult} {tables : Option ExecutionTables}
      (phase : s.calls.get call = some (.finished id execution result)) :
      Effect s (.record call now dbFails)
        { s.ends call with
          api := { storeFinished s.api id execution result with repositories := tables } }
  | aborted {call : Nat} {executionId : String} {now : Timestamp} {id : ExecutionId}
      {execution : Execution} {coordinator : ExecutionCoordinator}
      (unused : s.calls.get call = none) (names : parseExecutionId executionId = .ok id)
      (aborts : s.api.execution.abort id now = .ok (execution, coordinator)) :
      Effect s (.abort call executionId now)
        ((s.coordinated coordinator).goesOn call (.aborted id execution))
  | reconciled {call : Nat} {executionId : String} {observed : ObservedExecutionState}
      {now : Timestamp} {id : ExecutionId} {execution : Execution} {action : ReconciliationAction}
      {coordinator : ExecutionCoordinator} (unused : s.calls.get call = none)
      (reconciles : s.api.execution.reconcile id observed now
        = .ok ((execution, action), coordinator)) :
      Effect s (.reconcile call executionId observed now)
        ((s.coordinated coordinator).goesOn call (.reconciled id execution))
  | stored {call : Nat} {id : ExecutionId} {execution : Execution}
      (phase : s.calls.get call = some (.aborted id execution)) :
      Effect s (.store call)
        { s.ends call with
          api := { s.api with store := storeAborted s.api.store id execution } }
  | restored {call : Nat} {id : ExecutionId} {execution : Execution}
      (phase : s.calls.get call = some (.reconciled id execution)) :
      Effect s (.store call)
        { s.ends call with
          api := { s.api with store := storeExecution s.api.store id execution } }

variable {digest : CanonicalPlan → String} {s s' : ExecutionService}

theorem effect_confirm {planId : String} {headers : HeaderMap} {newId : ExecutionId}
    {now : Timestamp} {dbFails : Bool} (fresh : s.api.execution.executions.get newId = none) :
    Effect s (.confirm planId headers newId now dbFails)
      (s.confirm digest planId headers newId now dbFails) := by
  have hcases := confirmInMemory_cases digest s.api planId headers newId now
  unfold ExecutionService.confirm
  generalize hcall : confirmInMemory digest s.api planId headers newId now = outcome at hcases
  cases hcases with
  | unnamed hnone =>
    rw [confirmPlan_of_error dbFails hcall]
    cases Uuid.parseStr planId.toList <;> exact .idle
  | @spoiled error uuid plan hnamed hrefused =>
    rw [confirmPlan_of_error dbFails hcall, hnamed.1]
    exact .spoiled hnamed
  | @created uuid plan hnamed haccepted hunused =>
    obtain ⟨answer, tables, hplan, hanswer⟩ := confirmPlan_of_created dbFails hcall
    rw [hplan, hnamed.1]
    rcases hanswer with rfl | ⟨error, rfl⟩
    · refine .created hnamed fresh hunused fun entry hentry => ?_
      rcases List.mem_cons.mp hentry with rfl | hentry
      · exact .inr rfl
      · exact .inl hentry
    · exact .created hnamed fresh hunused fun entry hentry => .inl hentry
  | @duplicate uuid plan id execution hnamed haccepted hknown hfound =>
    rw [confirmPlan_of_duplicate dbFails hcall, hnamed.1]
    have hid : execution.id = id := by simpa using List.find?_some hfound
    subst hid
    exact .repeated hnamed hknown

/-- **Every step has one of these effects.** -/
theorem effect_of_step {action : ServiceAction} (h : s.step digest action = some s') :
    Effect s action s' := by
  cases action with
  | createPlan containerId request newId now dbFails =>
    simp only [step] at h
    split at h
    case isTrue => cases h
    case isFalse hfresh =>
      obtain rfl := Option.some.inj h
      have hnew : ∀ other ∈ s.api.store.plans, other.id ≠ newId := by
        intro other hother hid
        exact hfresh (List.any_eq_true.mpr ⟨other, hother, decide_eq_true hid⟩)
      rcases createPlan_cases digest s.api containerId request newId now dbFails with
        hsame | ⟨plan, tables, hid, hopen, hplanned⟩
      · rw [hsame]
        exact .idle
      · rw [hplanned]
        exact .planned hnew hid hopen
  | registerAgent containerId agent =>
    obtain rfl := Option.some.inj h
    exact .registered
  | confirm planId headers newId now dbFails =>
    simp only [step] at h
    split at h
    case isTrue => cases h
    case isFalse hfresh =>
      obtain rfl := Option.some.inj h
      exact effect_confirm (by simpa using hfresh)
  | run call executionId =>
    simp only [step] at h
    split at h
    case isTrue => cases h
    case isFalse hunused =>
      cases hlocate : locateRun s.api executionId with
      | error error =>
        simp only [hlocate, Option.some.injEq] at h
        exact h ▸ .idle
      | ok found =>
        obtain ⟨id, plan, agent⟩ := found
        simp only [hlocate, Option.some.injEq] at h
        exact h ▸ .located (by simpa using hunused) (locateRun_ok hlocate)
  | begin call now =>
    simp only [step] at h
    split at h
    case h_2 => cases h
    case h_1 id plan agent hphase =>
      cases hbegin : s.api.execution.begin id now with
      | error error =>
        simp only [hbegin, Option.some.injEq] at h
        exact h ▸ .unbegun hphase
      | ok outcome =>
        obtain ⟨plan', coordinator⟩ := outcome
        simp only [hbegin, Option.some.injEq] at h
        exact h ▸ .begun hphase hbegin
  | send call =>
    simp only [step] at h
    split at h
    case h_2 => cases h
    case h_1 id plan agent hphase =>
      cases hsends : AgentClient.sends (applyCommand id plan) with
      | true =>
        simp only [hsends, if_true, Option.some.injEq] at h
        exact h ▸ .sent hphase hsends
      | false =>
        obtain ⟨error, herror⟩ := @AgentClient.command_of_not_sends agent.maxRetries _
          (fun _ => .transport) hsends
        simp only [hsends, Bool.false_eq_true, if_false, herror, Option.some.injEq] at h
        exact h ▸ .unsent hphase hsends
  | answer call attempts =>
    simp only [step] at h
    split at h
    case h_2 => cases h
    case h_1 id plan agent hphase =>
      obtain rfl := Option.some.inj h
      exact .answered hphase
  | finish call now =>
    simp only [step] at h
    split at h
    case h_2 => cases h
    case h_1 id response hphase =>
      cases hfinish : s.api.execution.finish id (resultOf response) now with
      | error error =>
        simp only [hfinish, Option.some.injEq] at h
        exact h ▸ .unfinished hphase hfinish
      | ok outcome =>
        obtain ⟨execution, coordinator⟩ := outcome
        simp only [hfinish, Option.some.injEq] at h
        exact h ▸ .finished hphase hfinish
  | record call now dbFails =>
    simp only [step] at h
    split at h
    case h_2 => cases h
    case h_1 id execution result hphase =>
      obtain ⟨tables, htables⟩ := recordFinished_cases s.api id execution result now dbFails
      simp only [htables, Option.some.injEq] at h
      exact h ▸ .recorded hphase
  | abort call executionId now =>
    simp only [step] at h
    split at h
    case isTrue => cases h
    case isFalse hunused =>
      cases hparse : parseExecutionId executionId with
      | error error =>
        simp only [hparse, Option.some.injEq] at h
        exact h ▸ .idle
      | ok id =>
        cases habort : s.api.execution.abort id now with
        | error error =>
          simp only [hparse, habort, Option.some.injEq] at h
          exact h ▸ .idle
        | ok outcome =>
          obtain ⟨execution, coordinator⟩ := outcome
          simp only [hparse, habort, Option.some.injEq] at h
          exact h ▸ .aborted (by simpa using hunused) hparse habort
  | reconcile call executionId observed now =>
    simp only [step] at h
    split at h
    case isTrue => cases h
    case isFalse hunused =>
      cases hparse : parseExecutionId executionId with
      | error error =>
        simp only [hparse, Option.some.injEq] at h
        exact h ▸ .idle
      | ok id =>
        cases hreconcile : s.api.execution.reconcile id observed now with
        | error error =>
          simp only [hparse, hreconcile, Option.some.injEq] at h
          exact h ▸ .idle
        | ok outcome =>
          obtain ⟨⟨execution, action⟩, coordinator⟩ := outcome
          simp only [hparse, hreconcile, Option.some.injEq] at h
          exact h ▸ .reconciled (by simpa using hunused) hreconcile
  | store call =>
    simp only [step] at h
    split at h
    case h_1 id execution hphase =>
      obtain rfl := Option.some.inj h
      exact .stored hphase
    case h_2 id execution hphase =>
      obtain rfl := Option.some.inj h
      exact .restored hphase
    case h_3 => cases h

/-- The server from its start, with any agents and any database. -/
def serviceMachine (digest : CanonicalPlan → String) : Machine ExecutionService ServiceAction where
  init s := ∃ agents repositories, s = .fresh agents repositories
  step s action := s.step digest action

/-- A plan for the package `openssl` in container 101 is created. -/
def createsPlan (newId : UpdatePlanId) : ServiceAction :=
  .createPlan "101" ⟨["openssl"], [], false⟩ newId 0 false

end Lxcup.Executions
