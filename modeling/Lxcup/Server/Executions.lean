import Lxcup.Agent.Client
import Lxcup.Execution.Coordinator
import Lxcup.Lib.Lists
import Lxcup.Server.Api

/-!
# Plans and executions at the API

The handlers that create a plan, confirm it, and run, abort and reconcile its execution.  They
work on the plans, executions and results in the store, on the coordinator of executions, on the
registered agents and, in persistent mode, on the database.  A handler that is interrupted by
others between its accesses is written as the parts it is made of, and composed of them.

## Main definitions

* `ExecutionStore`, `ExecutionTables`, `ExecutionApi` — what the handlers work on.
* `createPlan`, `confirmPlan`, `abortExecution`, `runExecution`, `reconcileExecution`.
* `confirmInMemory` — the part of a confirmation before the database is written.
* `locateRun`, `applyCommand`, `resultOf`, `recordFinished` — the parts of a run.

## Main results

* `confirmInMemory_cases` — every way in which a confirmation can go.
* `confirmInMemory_atomic_iff` — exactly when a refused confirmation leaves nothing behind.
-/

namespace Lxcup.Server

open Lxcup.Lib Lxcup.Core Lxcup.Execution Lxcup.Agent

/-! ### Headers -/

/-- The value of a header: bytes that HTTP allows there. -/
structure HeaderValue where
  bytes : List UInt8
  allowed : ∀ byte ∈ bytes, 32 ≤ byte ∧ byte ≠ 127 ∨ byte = 9
  deriving DecidableEq

/-- The characters that a header value may have to be read as a text. -/
def isVisibleAscii (byte : UInt8) : Bool := 32 ≤ byte && byte < 127 || byte = 9

/-- `HeaderValue::to_str`. -/
def HeaderValue.toStr (value : HeaderValue) : Option String :=
  if value.bytes.all isVisibleAscii then
    some (String.ofList (value.bytes.map fun byte => Char.ofNat byte.toNat))
  else none

/-- The headers of a request, names in lower case. -/
abbrev HeaderMap := List (String × HeaderValue)

/-- `HeaderMap::get`: the first value under a name. -/
def headerValue (headers : HeaderMap) (name : String) : Option HeaderValue :=
  (headers.find? fun header => header.1 = name).map (·.2)

/-- A header as a text, or a default when it is missing or no text. -/
def headerText (headers : HeaderMap) (name default : String) : String :=
  ((headerValue headers name).bind HeaderValue.toStr).getD default

/-! ### The state -/

/-- The result of an execution, as it is shown. -/
structure ExecutionResultDto where
  exitCode : Int
  stdout : String
  stderr : String
  deriving DecidableEq, Repr

/-- `truncate`: one line of at most 4000 characters. -/
def truncate (value : String) : String :=
  String.ofList ((value.toList.map fun c => if c = '\r' ∨ c = '\n' then ' ' else c).take 4000)

/-- `ExecutionResultDto::from_result`. -/
def ExecutionResultDto.fromResult (result : ExecutionResult) : ExecutionResultDto :=
  ⟨result.exitCode, truncate result.stdout, truncate result.stderr⟩

/-- The collections of the store that plans and executions are kept in. -/
structure ExecutionStore where
  plans : List UpdatePlan
  executions : List Execution
  results : Table ExecutionId ExecutionResultDto

/-- A row of the table `executions`, without its key. -/
structure ExecutionRow where
  planId : UpdatePlanId
  status : String
  startedAt : Option Timestamp
  finishedAt : Option Timestamp
  deriving DecidableEq, Repr

/-- A point in time as a column of type `TIMESTAMPTZ` holds it: in whole microseconds. -/
def columnTime (time : Timestamp) : Timestamp := time / 1000 * 1000

/-- The row of an execution. -/
def executionRow (execution : Execution) : ExecutionRow where
  planId := execution.planId
  status := execution.status.name
  startedAt := execution.startedAt.map columnTime
  finishedAt := execution.finishedAt.map columnTime

/-- The tables that the handlers write. -/
structure ExecutionTables where
  containers : List ContainerId
  plans : List UpdatePlanId
  executions : Table ExecutionId ExecutionRow
  results : Table ExecutionId (ExecutionResultDto × Timestamp)

namespace ExecutionTables

/-- `UpdatePlanRepository::save`; `none` when a key is violated. -/
def savePlan (tables : ExecutionTables) (plan : UpdatePlan) : Option ExecutionTables :=
  if plan.containerId ∈ tables.containers ∧ plan.id ∉ tables.plans ∧
      (plan.requestedPackages.map (·.value)).Nodup ∧
      (plan.resolvedChanges.map fun change => (change.package.value, change.kind)).Nodup then
    some { tables with plans := plan.id :: tables.plans }
  else none

/-- `ExecutionRepository::save`; `none` when a key is violated. -/
def save (tables : ExecutionTables) (execution : Execution) : Option ExecutionTables :=
  if execution.planId ∈ tables.plans ∧ tables.executions.get execution.id = none then
    some { tables with
      executions := tables.executions.put execution.id (executionRow execution) }
  else none

/-- `ExecutionRepository::update`: nothing happens without a row; `none` when a key is
violated. -/
def update (tables : ExecutionTables) (execution : Execution) : Option ExecutionTables :=
  match tables.executions.get execution.id with
  | none => some tables
  | some _ =>
    if execution.planId ∈ tables.plans then
      some { tables with
        executions := tables.executions.put execution.id (executionRow execution) }
    else none

/-- `ExecutionRepository::save_result`; `none` when a key is violated. -/
def saveResult (tables : ExecutionTables) (id : ExecutionId) (result : ExecutionResult)
    (now : Timestamp) : Option ExecutionTables :=
  if (tables.executions.get id).isSome then
    some { tables with results := tables.results.put id (.fromResult result, columnTime now) }
  else none

end ExecutionTables

/-- A registered agent, as far as a run of an execution looks at it. -/
structure RegisteredAgent where
  maxRetries : UInt8
  deriving DecidableEq, Repr

/-- What the handlers work on; `repositories` is there in persistent mode. -/
structure ExecutionApi where
  store : ExecutionStore
  execution : ExecutionCoordinator
  agents : Table ContainerId RegisteredAgent
  repositories : Option ExecutionTables

/-- An execution, as it is shown. -/
structure ExecutionDto where
  id : ExecutionId
  planId : UpdatePlanId
  status : String
  startedAt : Option Timestamp
  finishedAt : Option Timestamp
  deriving DecidableEq, Repr

/-- `ExecutionDto::from`. -/
def ExecutionDto.ofExecution (execution : Execution) : ExecutionDto :=
  ⟨execution.id, execution.planId, execution.status.name, execution.startedAt,
    execution.finishedAt⟩

/-- A write of the database; `dbFails` says that it fails although no key is violated. -/
def writeTables (api : ExecutionApi) (dbFails : Bool)
    (write : ExecutionTables → Option ExecutionTables) : Except ApiError Unit × ExecutionApi :=
  match api.repositories with
  | none => (.ok (), api)
  | some tables =>
    match if dbFails then none else write tables with
    | none => (.error .storage, api)
    | some tables => (.ok (), { api with repositories := some tables })

/-- A write of the database changes nothing else. -/
theorem writeTables_repositories (api : ExecutionApi) (dbFails : Bool)
    (write : ExecutionTables → Option ExecutionTables) :
    ∃ tables, (writeTables api dbFails write).2 = { api with repositories := tables } := by
  unfold writeTables
  cases api.repositories with
  | none => exact ⟨api.repositories, rfl⟩
  | some tables =>
    dsimp only
    cases if dbFails then none else write tables with
    | none => exact ⟨api.repositories, rfl⟩
    | some tables' => exact ⟨some tables', rfl⟩

theorem writeTables_repositories_of_eq {api api' : ExecutionApi} {dbFails : Bool}
    {write : ExecutionTables → Option ExecutionTables} {written : Except ApiError Unit}
    (h : writeTables api dbFails write = (written, api')) :
    ∃ tables, api' = { api with repositories := tables } := by
  obtain ⟨tables, htables⟩ := writeTables_repositories api dbFails write
  exact ⟨tables, by rw [← htables, h]⟩

/-! ### Plans -/

/-- A number of 64 bits in decimal digits, as `str::parse` reads it. -/
def parseU64 (value : String) : Option UInt64 :=
  let digits := match value.toList with
    | '+' :: rest => rest
    | cs => cs
  if digits = [] ∨ !digits.all isAsciiDigit then none
  else
    let number := digits.foldl (fun n c => 10 * n + (c.toNat - 48)) 0
    if number < 2 ^ 64 then some (UInt64.ofNat number) else none

/-- The id of a container in the path of a request. -/
def parseContainerId (value : String) : Except ApiError ContainerId :=
  match parseU64 value with
  | some number =>
    if number = 0 then .error (.badRequest "invalid_id" "container id") else .ok ⟨number⟩
  | none => .error (.badRequest "invalid_id" "container id")

/-- A request to create a plan, with the defaults of its fields filled in. -/
structure CreatePlanRequest where
  requestedPackages : List String
  dryRunChanges : List DryRunChange
  distributionUpgrade : Bool

variable (digest : CanonicalPlan → String)

/-- `create_plan`: the plan is put into the store first, then saved. -/
def createPlan (api : ExecutionApi) (containerId : String) (request : CreatePlanRequest)
    (newId : UpdatePlanId) (now : Timestamp) (dbFails : Bool) :
    Except ApiError UpdatePlan × ExecutionApi :=
  match parseContainerId containerId with
  | .error error => (.error error, api)
  | .ok containerId =>
    let input : PlannerInput :=
      ⟨containerId, request.requestedPackages, request.dryRunChanges, request.distributionUpgrade⟩
    match UpdatePlanner.build digest input newId now with
    | .error _ => (.error (.badRequest "invalid_plan" "plan input is not valid"), api)
    | .ok plan =>
      let api := { api with store := { api.store with plans := api.store.plans ++ [plan] } }
      match writeTables api dbFails (·.savePlan plan) with
      | (.error error, api) => (.error error, api)
      | (.ok (), api) => (.ok plan, api)

/-- Creating a plan changes nothing, or adds a plan that is not confirmed yet. -/
theorem createPlan_cases (digest : CanonicalPlan → String) (api : ExecutionApi)
    (containerId : String) (request : CreatePlanRequest) (newId : UpdatePlanId) (now : Timestamp)
    (dbFails : Bool) :
    (createPlan digest api containerId request newId now dbFails).2 = api ∨
      ∃ plan tables, plan.id = newId ∧ plan.status ≠ .confirmed ∧
        (createPlan digest api containerId request newId now dbFails).2 =
          { api with
            store := { api.store with plans := api.store.plans ++ [plan] }
            repositories := tables } := by
  unfold createPlan
  cases parseContainerId containerId with
  | error error => exact .inl rfl
  | ok containerId =>
    dsimp only
    cases hbuild : UpdatePlanner.build digest ⟨containerId, request.requestedPackages,
        request.dryRunChanges, request.distributionUpgrade⟩ newId now with
    | error error => exact .inl rfl
    | ok plan =>
      obtain ⟨hid, -, -, hstatus⟩ := UpdatePlanner.build_ok hbuild
      have hopen : plan.status ≠ .confirmed := by
        rw [hstatus]
        split <;> decide
      dsimp only
      split
      case h_1 error api' hwrite =>
        obtain ⟨tables, rfl⟩ := writeTables_repositories_of_eq hwrite
        exact .inr ⟨plan, tables, hid, hopen, rfl⟩
      case h_2 api' hwrite =>
        obtain ⟨tables, rfl⟩ := writeTables_repositories_of_eq hwrite
        exact .inr ⟨plan, tables, hid, hopen, rfl⟩

/-- The plan that the path of a request names. -/
def findPlan (store : ExecutionStore) (uuid : Uuid) : Option UpdatePlan :=
  store.plans.find? fun plan => plan.id.uuid = uuid

/-- The execution under an id in the store. -/
def findExecution (store : ExecutionStore) (id : ExecutionId) : Option Execution :=
  store.executions.find? fun execution => execution.id = id

/-- The actor of a confirmation. -/
def confirmingActor (headers : HeaderMap) : String := headerText headers "x-actor" "api"

/-- The idempotency key of a confirmation: the id of the plan unless the request has one. -/
def confirmationKey (headers : HeaderMap) (uuid : Uuid) : String :=
  headerText headers "idempotency-key" (String.ofList uuid.toText)

/-- The store with the plan that `findPlan` finds replaced. -/
def withPlan (store : ExecutionStore) (uuid : Uuid) (plan : UpdatePlan) : ExecutionStore :=
  { store with plans := replaceFirst (fun plan => plan.id.uuid = uuid) plan store.plans }

/-- What `confirm_plan` does before it writes the database.  The status of the plan is changed
first, and stays changed when a later step refuses the request. -/
def confirmInMemory (api : ExecutionApi) (planId : String) (headers : HeaderMap)
    (newId : ExecutionId) (now : Timestamp) :
    Except ApiError (Execution × Bool) × ExecutionApi :=
  match parseUuid planId "plan id" with
  | .error error => (.error error, api)
  | .ok uuid =>
    match findPlan api.store uuid with
    | none => (.error (.notFound "plan not found"), api)
    | some plan =>
      match plan.transitionTo .confirmed with
      | .error _ =>
        (.error (.badRequest "plan_not_ready" "plan is not ready for confirmation"), api)
      | .ok plan =>
        let api := { api with store := withPlan api.store uuid plan }
        let request : ExecutionRequest :=
          ⟨plan, .ofPlan plan, confirmingActor headers, confirmationKey headers uuid⟩
        match api.execution.start digest request newId now with
        | .error _ => (.error (.badRequest "execution_rejected" "execution was rejected"), api)
        | .ok (.created execution, coordinator) =>
          (.ok (execution, true), { api with
            execution := coordinator
            store := { api.store with executions := api.store.executions ++ [execution] } })
        | .ok (.duplicate id, coordinator) =>
          let api := { api with execution := coordinator }
          match findExecution api.store id with
          | none => (.error (.notFound "execution not found"), api)
          | some execution => (.ok (execution, false), api)

/-- `confirm_plan`: a new execution is also saved. -/
def confirmPlan (api : ExecutionApi) (planId : String) (headers : HeaderMap)
    (newId : ExecutionId) (now : Timestamp) (dbFails : Bool) :
    Except ApiError ExecutionDto × ExecutionApi :=
  match confirmInMemory digest api planId headers newId now with
  | (.error error, api) => (.error error, api)
  | (.ok (execution, created), api) =>
    if created then
      match writeTables api dbFails (·.save execution) with
      | (.error error, api) => (.error error, api)
      | (.ok (), api) => (.ok (.ofExecution execution), api)
    else (.ok (.ofExecution execution), api)

/-! ### Executions -/

/-- The id of an execution in the path of a request. -/
def parseExecutionId (value : String) : Except ApiError ExecutionId :=
  (parseUuid value "execution id").map ExecutionId.mk

/-- The store with the copy of an execution replaced, if it has one. -/
def storeAborted (store : ExecutionStore) (id : ExecutionId) (execution : Execution) :
    ExecutionStore :=
  { store with
    executions := replaceFirst (fun stored => stored.id = id) execution store.executions }

/-- `abort_execution`: neither table is written. -/
def abortExecution (api : ExecutionApi) (executionId : String) (now : Timestamp) :
    Except ApiError ExecutionDto × ExecutionApi :=
  match parseExecutionId executionId with
  | .error error => (.error error, api)
  | .ok id =>
    match api.execution.abort id now with
    | .error _ =>
      (.error (.badRequest "execution_not_abortable" "execution cannot be aborted"), api)
    | .ok (execution, coordinator) =>
      (.ok (.ofExecution execution),
        { api with execution := coordinator, store := storeAborted api.store id execution })

/-- The first accesses of a run: the plan of the execution and the agent of its container. -/
def locateRun (api : ExecutionApi) (executionId : String) :
    Except ApiError (ExecutionId × UpdatePlan × RegisteredAgent) :=
  match parseExecutionId executionId with
  | .error error => .error error
  | .ok id =>
    match api.execution.plans.get id with
    | none => .error (.notFound "execution not found")
    | some plan =>
      match api.agents.get plan.containerId with
      | none =>
        .error (.dependency "agent_unavailable" "no agent is registered for this container")
      | some agent => .ok (id, plan, agent)

/-- The plan that a run works with is the stored one. -/
theorem locateRun_ok {api : ExecutionApi} {executionId : String} {id : ExecutionId}
    {plan : UpdatePlan} {agent : RegisteredAgent}
    (h : locateRun api executionId = .ok (id, plan, agent)) :
    api.execution.plans.get id = some plan := by
  unfold locateRun at h
  cases hparse : parseExecutionId executionId with
  | error error => simp [hparse] at h
  | ok known =>
    cases hplan : api.execution.plans.get known with
    | none => simp [hparse, hplan] at h
    | some stored =>
      cases hagent : api.agents.get stored.containerId with
      | none => simp [hparse, hplan, hagent] at h
      | some registered =>
        simp only [hparse, hplan, hagent, Except.ok.injEq, Prod.mk.injEq] at h
        obtain ⟨rfl, rfl, -⟩ := h
        exact hplan

/-- The command that a run sends to the agent. -/
def applyCommand (id : ExecutionId) (plan : UpdatePlan) : AgentCommandRequest where
  action := .apply
  packages := plan.requestedPackages.map (·.value)
  idempotencyKey := String.ofList id.uuid.toText

/-- What a run makes of the end of the agent call. -/
def resultOf : Except AgentError AgentCommandResponse → ExecutionResult
  | .ok response => ⟨response.exitCode, response.stdout, response.stderr⟩
  | .error error => ⟨1, "", error.text⟩

/-- The store with an execution in place of any older copy of it. -/
def storeExecution (store : ExecutionStore) (id : ExecutionId) (execution : Execution) :
    ExecutionStore :=
  { store with
    executions := (store.executions.filter fun stored => stored.id ≠ id) ++ [execution] }

/-- The store after a run: the execution with its result. -/
def storeFinished (api : ExecutionApi) (id : ExecutionId) (execution : Execution)
    (result : ExecutionResult) : ExecutionApi :=
  let store := storeExecution api.store id execution
  { api with store := { store with results := store.results.put id (.fromResult result) } }

/-- The last accesses of a run: the store, then the database. -/
def recordFinished (api : ExecutionApi) (id : ExecutionId) (execution : Execution)
    (result : ExecutionResult) (now : Timestamp) (dbFails : Bool) :
    Except ApiError ExecutionDto × ExecutionApi :=
  match writeTables (storeFinished api id execution result) dbFails (·.update execution) with
  | (.error error, api) => (.error error, api)
  | (.ok (), api) =>
    match writeTables api dbFails (·.saveResult id result now) with
    | (.error error, api) => (.error error, api)
    | (.ok (), api) => (.ok (.ofExecution execution), api)

/-- The last accesses of a run write the executions and the results of the store. -/
theorem recordFinished_cases (api : ExecutionApi) (id : ExecutionId) (execution : Execution)
    (result : ExecutionResult) (now : Timestamp) (dbFails : Bool) :
    ∃ tables, (recordFinished api id execution result now dbFails).2 =
      { storeFinished api id execution result with repositories := tables } := by
  unfold recordFinished
  split
  case h_1 error api' hupdate => exact writeTables_repositories_of_eq hupdate
  case h_2 api' hupdate =>
    obtain ⟨tables, rfl⟩ := writeTables_repositories_of_eq hupdate
    split
    case h_1 error api'' hsave =>
      obtain ⟨tables', rfl⟩ := writeTables_repositories_of_eq hsave
      exact ⟨tables', rfl⟩
    case h_2 api'' hsave =>
      obtain ⟨tables', rfl⟩ := writeTables_repositories_of_eq hsave
      exact ⟨tables', rfl⟩

/-- `run_execution`, when no other request comes between its parts. -/
def runExecution (api : ExecutionApi) (executionId : String) (attempts : Nat → Attempt)
    (started finished : Timestamp) (dbFails : Bool) :
    Except ApiError ExecutionDto × ExecutionApi :=
  match locateRun api executionId with
  | .error error => (.error error, api)
  | .ok (id, plan, agent) =>
    match api.execution.begin id started with
    | .error _ =>
      (.error (.badRequest "execution_not_runnable" "execution cannot be started"), api)
    | .ok (_, coordinator) =>
      let api := { api with execution := coordinator }
      let result := resultOf (AgentClient.command agent.maxRetries (applyCommand id plan) attempts)
      match api.execution.finish id result finished with
      | .error _ =>
        (.error (.badRequest "execution_failed" "execution could not be finalized"), api)
      | .ok (execution, coordinator) =>
        recordFinished { api with execution := coordinator } id execution result finished dbFails

/-- `reconcile_execution`: neither table is written. -/
def reconcileExecution (api : ExecutionApi) (executionId : String)
    (observed : ObservedExecutionState) (now : Timestamp) :
    Except ApiError ExecutionDto × ExecutionApi :=
  match parseExecutionId executionId with
  | .error error => (.error error, api)
  | .ok id =>
    match api.execution.reconcile id observed now with
    | .error _ =>
      (.error (.badRequest "reconciliation_failed" "execution state cannot be reconciled"), api)
    | .ok ((execution, _), coordinator) =>
      (.ok (.ofExecution execution),
        { api with execution := coordinator, store := storeExecution api.store id execution })

/-! ### How a confirmation goes -/

/-- The plan after its confirmation. -/
def confirmedPlan (plan : UpdatePlan) : UpdatePlan := { plan with status := .confirmed }

/-- The request names a plan that is ready. -/
def NamesReady (api : ExecutionApi) (planId : String) (uuid : Uuid) (plan : UpdatePlan) : Prop :=
  Uuid.parseStr planId.toList = some uuid ∧ findPlan api.store uuid = some plan ∧
    plan.status = .ready

/-- The coordinator refuses to start the plan: the actor or the key is blank, or the key is new
and the plan requests nothing. -/
def StartRefused (api : ExecutionApi) (headers : HeaderMap) (uuid : Uuid) (plan : UpdatePlan) :
    Prop :=
  trim (confirmingActor headers).toList = [] ∨
    trim (confirmationKey headers uuid).toList = [] ∨
      (api.execution.idempotency.get (confirmationKey headers uuid) = none ∧
        plan.requestedPackages = [])

/-- The key is known, and the store has no copy of the execution it was used for. -/
def DuplicateMissing (api : ExecutionApi) (headers : HeaderMap) (uuid : Uuid) : Prop :=
  ∃ id, api.execution.idempotency.get (confirmationKey headers uuid) = some id ∧
    findExecution api.store id = none

/-- Every way in which a confirmation can go before the database is written. -/
inductive Confirmation (api : ExecutionApi) (planId : String) (headers : HeaderMap)
    (newId : ExecutionId) (now : Timestamp) :
    Except ApiError (Execution × Bool) × ExecutionApi → Prop
  /-- No ready plan is named. -/
  | unnamed {error : ApiError} (none_ : ∀ uuid plan, ¬ NamesReady api planId uuid plan) :
      Confirmation api planId headers newId now (.error error, api)
  /-- The plan is confirmed in the store, and the request is refused after that. -/
  | spoiled {error : ApiError} {uuid : Uuid} {plan : UpdatePlan}
      (named : NamesReady api planId uuid plan)
      (refused : StartRefused api headers uuid plan ∨ DuplicateMissing api headers uuid) :
      Confirmation api planId headers newId now
        (.error error, { api with store := withPlan api.store uuid (confirmedPlan plan) })
  /-- An execution is queued. -/
  | created {uuid : Uuid} {plan : UpdatePlan} (named : NamesReady api planId uuid plan)
      (accepted : ¬ StartRefused api headers uuid plan)
      (unused : api.execution.idempotency.get (confirmationKey headers uuid) = none) :
      Confirmation api planId headers newId now
        (.ok (.new plan.id newId, true), { api with
          store := { withPlan api.store uuid (confirmedPlan plan) with
            executions := api.store.executions ++ [.new plan.id newId] }
          execution := api.execution.enqueue (confirmedPlan plan) (confirmingActor headers)
            (confirmationKey headers uuid) newId now })
  /-- The key is known, and the execution it was used for is the answer. -/
  | duplicate {uuid : Uuid} {plan : UpdatePlan} {id : ExecutionId} {execution : Execution}
      (named : NamesReady api planId uuid plan) (accepted : ¬ StartRefused api headers uuid plan)
      (known : api.execution.idempotency.get (confirmationKey headers uuid) = some id)
      (found : findExecution api.store id = some execution) :
      Confirmation api planId headers newId now
        (.ok (execution, false),
          { api with store := withPlan api.store uuid (confirmedPlan plan) })

section

variable {digest : CanonicalPlan → String} {api : ExecutionApi} {planId : String}
  {headers : HeaderMap} {newId : ExecutionId} {now : Timestamp}

/-- The plan that a request names is determined by it. -/
theorem NamesReady.unique {uuid uuid' : Uuid} {plan plan' : UpdatePlan}
    (h : NamesReady api planId uuid plan) (h' : NamesReady api planId uuid' plan') :
    uuid = uuid' ∧ plan = plan' := by
  obtain rfl : uuid = uuid' := Option.some.inj (h.1.symm.trans h'.1)
  exact ⟨rfl, Option.some.inj (h.2.1.symm.trans h'.2.1)⟩

theorem NamesReady.uuid {uuid uuid' : Uuid} {plan : UpdatePlan}
    (h : NamesReady api planId uuid plan) (huuid : Uuid.parseStr planId.toList = some uuid') :
    uuid' = uuid :=
  Option.some.inj (huuid.symm.trans h.1)

/-- **Every way in which a confirmation can go.** -/
theorem confirmInMemory_cases (digest : CanonicalPlan → String) (api : ExecutionApi)
    (planId : String) (headers : HeaderMap) (newId : ExecutionId) (now : Timestamp) :
    Confirmation api planId headers newId now
      (confirmInMemory digest api planId headers newId now) := by
  unfold confirmInMemory parseUuid
  cases huuid : Uuid.parseStr planId.toList with
  | none =>
    refine .unnamed fun uuid plan hnamed => ?_
    rw [hnamed.1] at huuid
    cases huuid
  | some uuid =>
    dsimp only
    cases hplan : findPlan api.store uuid with
    | none =>
      refine .unnamed fun uuid' plan hnamed => ?_
      obtain rfl : uuid' = uuid := Option.some.inj (hnamed.1.symm.trans huuid)
      rw [hnamed.2.1] at hplan
      cases hplan
    | some plan =>
      dsimp only
      rw [UpdatePlan.transitionTo_confirmed]
      by_cases hready : plan.status = .ready
      · have hnamed : NamesReady api planId uuid plan := ⟨huuid, hplan, hready⟩
        rw [if_pos hready]
        dsimp only
        rw [ExecutionCoordinator.start_ofPlan _ _ _ rfl]
        by_cases hblank : trim (confirmingActor headers).toList = [] ∨
            trim (confirmationKey headers uuid).toList = []
        · rw [if_pos hblank]
          exact .spoiled hnamed (.inl (hblank.imp_right .inl))
        · rw [if_neg hblank]
          obtain ⟨hactor, hkey⟩ := not_or.mp hblank
          cases hknown : api.execution.idempotency.get (confirmationKey headers uuid) with
          | none =>
            dsimp only
            by_cases hempty : plan.requestedPackages = []
            · rw [if_pos hempty]
              exact .spoiled hnamed (.inl (.inr (.inr ⟨hknown, hempty⟩)))
            · rw [if_neg hempty]
              refine .created hnamed ?_ hknown
              rintro (h | h | ⟨-, h⟩)
              · exact hactor h
              · exact hkey h
              · exact hempty h
          | some id =>
            dsimp only
            cases hfound : findExecution (withPlan api.store uuid (confirmedPlan plan)) id with
            | none =>
              have hmissing : DuplicateMissing api headers uuid := ⟨id, hknown, hfound⟩
              simp only [confirmedPlan] at hfound
              simp only [hfound]
              exact .spoiled hnamed (.inr hmissing)
            | some execution =>
              have hstored : findExecution api.store id = some execution := hfound
              simp only [confirmedPlan] at hfound
              simp only [hfound]
              refine .duplicate hnamed ?_ hknown hstored
              rintro (h | h | ⟨h, -⟩)
              · exact hactor h
              · exact hkey h
              · rw [hknown] at h
                cases h
      · rw [if_neg hready]
        refine .unnamed fun uuid' plan' hnamed => ?_
        obtain rfl : uuid' = uuid := Option.some.inj (hnamed.1.symm.trans huuid)
        obtain rfl : plan' = plan := Option.some.inj (hnamed.2.1.symm.trans hplan)
        exact hready hnamed.2.2

/-- A confirmed plan in place of a ready one is another store. -/
theorem withPlan_confirmed_ne {uuid : Uuid} {plan : UpdatePlan}
    (hnamed : NamesReady api planId uuid plan) :
    withPlan api.store uuid (confirmedPlan plan) ≠ api.store := by
  intro hsame
  have hid : plan.id.uuid = uuid := by simpa using List.find?_some hnamed.2.1
  have hfound : findPlan (withPlan api.store uuid (confirmedPlan plan)) uuid
      = some (confirmedPlan plan) :=
    find?_replaceFirst hnamed.2.1 (decide_eq_true hid)
  rw [hsame, hnamed.2.1, Option.some.injEq] at hfound
  have hstatus : plan.status = .confirmed := congrArg (·.status) hfound
  rw [hnamed.2.2] at hstatus
  cases hstatus

theorem confirmPlan_of_error {error : ApiError} {api' : ExecutionApi} (dbFails : Bool)
    (h : confirmInMemory digest api planId headers newId now = (.error error, api')) :
    confirmPlan digest api planId headers newId now dbFails = (.error error, api') := by
  simp only [confirmPlan, h]

theorem confirmPlan_of_duplicate {execution : Execution} {api' : ExecutionApi} (dbFails : Bool)
    (h : confirmInMemory digest api planId headers newId now = (.ok (execution, false), api')) :
    confirmPlan digest api planId headers newId now dbFails
      = (.ok (.ofExecution execution), api') := by
  simp [confirmPlan, h]

/-- A new execution is saved; the answer is the execution, or the error of the database. -/
theorem confirmPlan_of_created {execution : Execution} {api' : ExecutionApi} (dbFails : Bool)
    (h : confirmInMemory digest api planId headers newId now = (.ok (execution, true), api')) :
    ∃ answer tables, confirmPlan digest api planId headers newId now dbFails
        = (answer, { api' with repositories := tables }) ∧
      (answer = .ok (.ofExecution execution) ∨ ∃ error, answer = .error error) := by
  simp only [confirmPlan, h, if_true]
  split
  case h_1 error api'' hwrite =>
    obtain ⟨tables, rfl⟩ := writeTables_repositories_of_eq hwrite
    exact ⟨_, tables, rfl, .inr ⟨error, rfl⟩⟩
  case h_2 api'' hwrite =>
    obtain ⟨tables, rfl⟩ := writeTables_repositories_of_eq hwrite
    exact ⟨_, tables, rfl, .inl rfl⟩

/-! ### Refused confirmations -/

/-- When the confirmation is refused before the database is written, everything is as it was. -/
def Atomic (digest : CanonicalPlan → String) (api : ExecutionApi) (planId : String)
    (headers : HeaderMap) (newId : ExecutionId) (now : Timestamp) : Prop :=
  ∀ error api', confirmInMemory digest api planId headers newId now = (.error error, api') →
    api' = api

/-- **Exactly when a refused confirmation leaves nothing behind**: a ready plan that is named is
not refused by the coordinator, and its key does not lead to an execution that the store lacks. -/
theorem confirmInMemory_atomic_iff : Atomic digest api planId headers newId now ↔
    ∀ uuid plan, NamesReady api planId uuid plan →
      ¬ StartRefused api headers uuid plan ∧ ¬ DuplicateMissing api headers uuid := by
  have hcases := confirmInMemory_cases digest api planId headers newId now
  unfold Atomic
  generalize confirmInMemory digest api planId headers newId now = outcome at hcases
  cases hcases with
  | unnamed hnone =>
    refine ⟨fun _ uuid plan hnamed => absurd hnamed (hnone uuid plan), fun _ error api' h => ?_⟩
    exact (Prod.mk.inj h).2.symm
  | @spoiled error uuid plan hnamed hrefused =>
    constructor
    · intro h
      have hsame := h error _ rfl
      exact absurd (congrArg (·.store) hsame) (withPlan_confirmed_ne hnamed)
    · intro h
      obtain ⟨hstart, hmissing⟩ := h uuid plan hnamed
      rcases hrefused with hrefused | hrefused
      · exact absurd hrefused hstart
      · exact absurd hrefused hmissing
  | @created uuid plan hnamed haccepted hunused =>
    refine ⟨fun _ uuid' plan' hnamed' => ?_, fun _ error api' h => by cases h⟩
    obtain ⟨rfl, rfl⟩ := hnamed.unique hnamed'
    refine ⟨haccepted, ?_⟩
    rintro ⟨id, hknown, -⟩
    rw [hunused] at hknown
    cases hknown
  | @duplicate uuid plan id execution hnamed haccepted hknown hfound =>
    refine ⟨fun _ uuid' plan' hnamed' => ?_, fun _ error api' h => by cases h⟩
    obtain ⟨rfl, rfl⟩ := hnamed.unique hnamed'
    refine ⟨haccepted, ?_⟩
    rintro ⟨id', hknown', hmissing⟩
    obtain rfl : id = id' := Option.some.inj (hknown.symm.trans hknown')
    rw [hfound] at hmissing
    cases hmissing

end

/-- A server without a database that holds one plan, ready to be confirmed. -/
def serverWithPlan : ExecutionApi where
  store := ⟨[{ opensslPlan with status := .ready }], [], ∅⟩
  execution := .default
  agents := ∅
  repositories := none

/-- The id of that plan. -/
def opensslPlanText : String := "00000000-0000-0000-0000-000000000001"

/-- A request whose actor is the empty text. -/
def withoutActor : HeaderMap := [("x-actor", ⟨[], by simp⟩)]

/-- The actor is empty: the request is refused, the plan stays confirmed, and with the actor given
the confirmation is refused as well. -/
theorem confirm_without_actor :
    ¬ ∀ digest api planId headers newId now, Atomic digest api planId headers newId now := by
  intro h
  let outcome := confirmInMemory opensslDigest serverWithPlan opensslPlanText withoutActor
    ⟨⟨2⟩⟩ 10
  have hcall : outcome.1 = .error (.badRequest "execution_rejected" "execution was rejected") ∧
      outcome.2.store.plans.map (·.status) = [.confirmed] ∧
      (confirmInMemory opensslDigest outcome.2 opensslPlanText [] ⟨⟨2⟩⟩ 20).1
        = .error (.badRequest "plan_not_ready" "plan is not ready for confirmation") := by
    decide +kernel
  have hsame : outcome.2 = serverWithPlan := h _ _ _ _ _ _ _ _ (Prod.ext hcall.1 rfl)
  have hplans := hcall.2.1
  rw [hsame] at hplans
  revert hplans
  decide

end Lxcup.Server
