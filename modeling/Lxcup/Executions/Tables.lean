import Lxcup.Execution.Invariant
import Lxcup.Server.Executions

/-!
# The table of executions

In persistent mode an execution is kept in three places: in the coordinator, in the store and in
a table of the database.  Confirmations and runs write all three; aborts and reconciliations write
the first two.  Requests are taken one after the other here, each complete.

Between requests an execution is queued or has ended, since a run that begins also finishes.  A
reconciliation therefore changes nothing, and an abort can only meet a queued execution.  The
columns for times hold whole microseconds, while the clock is finer.

## Main definitions

* `ExecutionRequests`, `requestMachine` — sequences of complete requests.
* `RowAgrees`, `TablesAgree` — the table holds what the coordinator and the store hold.
* `Recorded` — no abort meets a queued execution, and a run reads whole microseconds.
* `Saved` — the invariant.

## Main results

* `Saved.step` — a recorded request keeps the invariant.
* `tablesAgree_of_recorded` — the table agrees after every sequence of recorded requests.
-/

namespace Lxcup.Executions

open Lxcup.Lib Lxcup.Core Lxcup.Execution Lxcup.Agent Lxcup.Server

/-! ### Complete requests -/

/-- The requests, with what they take from outside. -/
inductive CompleteRequest
  | createPlan (containerId : String) (request : CreatePlanRequest) (newId : UpdatePlanId)
      (now : Timestamp)
  | registerAgent (containerId : ContainerId) (agent : RegisteredAgent)
  | confirm (planId : String) (headers : HeaderMap) (newId : ExecutionId) (now : Timestamp)
  | run (executionId : String) (attempts : Nat → Attempt) (started finished : Timestamp)
  | abort (executionId : String) (now : Timestamp)
  | reconcile (executionId : String) (observed : ObservedExecutionState) (now : Timestamp)

/-- The state after a request, unless a call of the database has failed. -/
def unlessStorage {α : Type} : Except ApiError α × ExecutionApi → Option ExecutionApi
  | (.error error, api) => if error = .storage then none else some api
  | (.ok _, api) => some api

/-- A complete request in which no call of the database fails; new executions get new ids. -/
def completeRequest (digest : CanonicalPlan → String) (api : ExecutionApi) :
    CompleteRequest → Option ExecutionApi
  | .createPlan containerId request newId now =>
    unlessStorage (createPlan digest api containerId request newId now false)
  | .registerAgent containerId agent =>
    some { api with agents := api.agents.put containerId agent }
  | .confirm planId headers newId now =>
    if (api.execution.executions.get newId).isSome then none
    else unlessStorage (confirmPlan digest api planId headers newId now false)
  | .run executionId attempts started finished =>
    unlessStorage (runExecution api executionId attempts started finished false)
  | .abort executionId now => unlessStorage (abortExecution api executionId now)
  | .reconcile executionId observed now =>
    unlessStorage (reconcileExecution api executionId observed now)

/-- A server that has been started on a database. -/
def requestMachine (digest : CanonicalPlan → String) : Machine ExecutionApi CompleteRequest where
  init api := ∃ agents tables, api = ⟨⟨[], [], ∅⟩, .default, agents, some tables⟩
  step api request := completeRequest digest api request

/-! ### Agreement -/

/-- The row of an execution holds its status and its times. -/
def RowAgrees (tables : ExecutionTables) (execution : Execution) : Prop :=
  ∃ row, tables.executions.get execution.id = some row ∧ row.status = execution.status.name ∧
    row.startedAt = execution.startedAt ∧ row.finishedAt = execution.finishedAt

/-- The table agrees with every execution of the coordinator and of the store. -/
def TablesAgree (api : ExecutionApi) : Prop :=
  ∃ tables, api.repositories = some tables ∧
    (∀ id execution, api.execution.executions.get id = some execution →
      execution.id = id ∧ RowAgrees tables execution) ∧
    ∀ execution ∈ api.store.executions, RowAgrees tables execution

/-- The time is one that a column can hold. -/
def WholeMicroseconds (time : Timestamp) : Prop := columnTime time = time

instance (time : Timestamp) : Decidable (WholeMicroseconds time) :=
  inferInstanceAs (Decidable (columnTime time = time))

/-- The status of an execution in the coordinator. -/
def heldStatus (api : ExecutionApi) (id : ExecutionId) : Option ExecutionStatus :=
  (api.execution.executions.get id).map (·.status)

/-- No abort meets a queued execution, and a run of a queued execution reads times that a column can
hold. -/
def Recorded (api : ExecutionApi) : CompleteRequest → Prop
  | .abort executionId _ => ∀ id, parseExecutionId executionId = .ok id →
      heldStatus api id ≠ some .queued
  | .run executionId _ started finished => ∀ id plan agent,
      locateRun api executionId = .ok (id, plan, agent) → heldStatus api id = some .queued →
        WholeMicroseconds started ∧ WholeMicroseconds finished
  | _ => True

/-- The test that a request is recorded. -/
def recorded (api : ExecutionApi) : CompleteRequest → Bool
  | .abort executionId _ =>
    match parseExecutionId executionId with
    | .error _ => true
    | .ok id => heldStatus api id ≠ some .queued
  | .run executionId _ started finished =>
    match locateRun api executionId with
    | .error _ => true
    | .ok (id, _, _) =>
      heldStatus api id ≠ some .queued
        || (columnTime started = started && columnTime finished = finished)
  | _ => true

theorem recorded_iff {api : ExecutionApi} {request : CompleteRequest} :
    recorded api request = true ↔ Recorded api request := by
  cases request with
  | abort executionId now =>
    simp only [recorded, Recorded]
    cases hparse : parseExecutionId executionId with
    | error error => simp
    | ok id => simp
  | run executionId attempts started finished =>
    simp only [recorded, Recorded]
    cases hlocate : locateRun api executionId with
    | error error => simp
    | ok found =>
      obtain ⟨id, plan, agent⟩ := found
      by_cases hqueued : heldStatus api id = some .queued <;> simp [hqueued, WholeMicroseconds]
  | _ => simp [recorded, Recorded]

instance (api : ExecutionApi) (request : CompleteRequest) : Decidable (Recorded api request) :=
  decidable_of_iff _ recorded_iff

/-! ### The invariant -/

/-- What holds of an execution between requests. -/
structure AtRest (execution : Execution) : Prop where
  status : execution.status = .queued ∨ execution.status.terminal = true
  started : execution.startedAt.map columnTime = execution.startedAt
  finished : execution.finishedAt.map columnTime = execution.finishedAt

/-- The invariant: the three places hold the same executions, all of them at rest. -/
structure Saved (api : ExecutionApi) (tables : ExecutionTables) : Prop where
  repositories : api.repositories = some tables
  coherent : api.execution.Coherent
  atRest : ∀ id execution, api.execution.executions.get id = some execution → AtRest execution
  rows : ∀ id execution, api.execution.executions.get id = some execution →
    tables.executions.get id = some (executionRow execution)
  copies : ∀ execution ∈ api.store.executions,
    api.execution.executions.get execution.id = some execution

variable {digest : CanonicalPlan → String} {api api' : ExecutionApi} {tables : ExecutionTables}

theorem Saved.tablesAgree (h : Saved api tables) : TablesAgree api := by
  have hagrees : ∀ id execution, api.execution.executions.get id = some execution →
      execution.id = id ∧ RowAgrees tables execution := by
    intro id execution hexecution
    have hid := h.coherent.id_eq hexecution
    have hrest := h.atRest id execution hexecution
    refine ⟨hid, executionRow execution, ?_, rfl, hrest.started, hrest.finished⟩
    rw [hid]
    exact h.rows id execution hexecution
  refine ⟨tables, h.repositories, hagrees, ?_⟩
  intro execution hcopy
  exact (hagrees _ _ (h.copies execution hcopy)).2

/-- Plans, agents and results do not matter. -/
theorem Saved.same (h : Saved api tables) {tables' : ExecutionTables}
    (hrepositories : api'.repositories = some tables')
    (hexecutions : tables'.executions = tables.executions)
    (hcoordinator : api'.execution = api.execution)
    (hcopies : api'.store.executions = api.store.executions) : Saved api' tables' := by
  constructor
  · exact hrepositories
  · rw [hcoordinator]
    exact h.coherent
  · rw [hcoordinator]
    exact h.atRest
  · rw [hcoordinator, hexecutions]
    exact h.rows
  · rw [hcoordinator, hcopies]
    exact h.copies

/-- A write of the database that is not refused. -/
theorem writeTables_ok {write : ExecutionTables → Option ExecutionTables}
    {written : Except ApiError Unit} (h : writeTables api false write = (written, api'))
    (hrepositories : api.repositories = some tables) :
    (written = .error .storage ∧ api' = api) ∨
      ∃ tables', write tables = some tables' ∧ written = .ok () ∧
        api' = { api with repositories := some tables' } := by
  simp only [writeTables, hrepositories, Bool.false_eq_true, if_false] at h
  cases hwrite : write tables with
  | none =>
    simp only [hwrite, Prod.mk.injEq] at h
    exact .inl ⟨h.1.symm, h.2.symm⟩
  | some tables' =>
    simp only [hwrite, Prod.mk.injEq] at h
    exact .inr ⟨tables', rfl, h.1.symm, h.2.symm⟩

/-- A write of the database fails with a storage error only. -/
theorem writeTables_error {write : ExecutionTables → Option ExecutionTables} {error : ApiError}
    (h : writeTables api false write = (.error error, api'))
    (hrepositories : api.repositories = some tables) : error = .storage := by
  rcases writeTables_ok h hrepositories with ⟨hstorage, -⟩ | ⟨_, _, hok, -⟩
  · exact Except.error.inj hstorage
  · cases hok

/-- An execution at rest is written to all three places. -/
theorem Saved.put (h : Saved api tables) {tables' : ExecutionTables} {id : ExecutionId}
    {after : Execution} (hrest : AtRest after) (hid : after.id = id)
    (hrepositories : api'.repositories = some tables') (hcoherent : api'.execution.Coherent)
    (hget : ∀ other, api'.execution.executions.get other =
      if other = id then some after else api.execution.executions.get other)
    (hrows : tables'.executions = tables.executions.put id (executionRow after))
    (hcopies : ∀ copy ∈ api'.store.executions,
      copy = after ∨ (copy.id ≠ id ∧ copy ∈ api.store.executions)) : Saved api' tables' := by
  refine ⟨hrepositories, hcoherent, ?_, ?_, ?_⟩
  · intro other execution hexecution
    rw [hget] at hexecution
    split at hexecution
    case isTrue =>
      obtain rfl := Option.some.inj hexecution
      exact hrest
    case isFalse => exact h.atRest other execution hexecution
  · intro other execution hexecution
    rw [hget] at hexecution
    rw [hrows, Table.get_put]
    split at hexecution
    case isTrue hother =>
      obtain rfl := Option.some.inj hexecution
      rw [if_pos hother]
    case isFalse hother =>
      rw [if_neg hother]
      exact h.rows other execution hexecution
  · intro copy hcopy
    rw [hget]
    rcases hcopies copy hcopy with rfl | ⟨hother, hold⟩
    · rw [if_pos hid]
    · rw [if_neg hother]
      exact h.copies copy hold

/-- A request that is answered keeps the invariant when its handler does. -/
theorem saved_unlessStorage {α : Type} {outcome : Except ApiError α × ExecutionApi}
    (h : unlessStorage outcome = some api')
    (hsaved : (∀ error, outcome.1 = .error error → error ≠ .storage) →
      ∃ tables', Saved outcome.2 tables') : ∃ tables', Saved api' tables' := by
  obtain ⟨answer, after⟩ := outcome
  cases answer with
  | error error =>
    simp only [unlessStorage] at h
    split at h
    case isTrue => cases h
    case isFalse hother =>
      obtain rfl := Option.some.inj h
      refine hsaved fun error' herror => ?_
      obtain rfl := Except.error.inj herror
      exact hother
  | ok answer =>
    obtain rfl := Option.some.inj h
    exact hsaved fun error' herror => by cases herror

/-- Creating a plan does not touch executions. -/
theorem Saved.planned (h : Saved api tables) (containerId : String) (request : CreatePlanRequest)
    (newId : UpdatePlanId) (now : Timestamp) :
    ∃ tables', Saved (createPlan digest api containerId request newId now false).2 tables' := by
  unfold createPlan
  cases parseContainerId containerId with
  | error error => exact ⟨tables, h⟩
  | ok containerId =>
    dsimp only
    cases UpdatePlanner.build digest ⟨containerId, request.requestedPackages,
        request.dryRunChanges, request.distributionUpgrade⟩ newId now with
    | error error => exact ⟨tables, h⟩
    | ok plan =>
      have hadded : Saved
          { api with store := { api.store with plans := api.store.plans ++ [plan] } } tables :=
        h.same h.repositories rfl rfl rfl
      dsimp only
      split
      case h_1 error after hwrite =>
        rcases writeTables_ok hwrite hadded.repositories with ⟨-, rfl⟩ | ⟨_, _, hok, -⟩
        · exact ⟨tables, hadded⟩
        · cases hok
      case h_2 after hwrite =>
        rcases writeTables_ok hwrite hadded.repositories with ⟨hfails, -⟩ | ⟨tables', hsave, -, rfl⟩
        · cases hfails
        · refine ⟨tables', hadded.same rfl ?_ rfl rfl⟩
          simp only [ExecutionTables.savePlan] at hsave
          split at hsave
          case isTrue => rw [← Option.some.inj hsave]
          case isFalse => cases hsave

/-- A new execution is saved as it is queued. -/
theorem Saved.confirmed (h : Saved api tables) {planId : String} {headers : HeaderMap}
    {newId : ExecutionId} {now : Timestamp}
    (fresh : api.execution.executions.get newId = none)
    (hfails : ∀ error, (confirmPlan digest api planId headers newId now false).1 = .error error →
      error ≠ .storage) :
    ∃ tables', Saved (confirmPlan digest api planId headers newId now false).2 tables' := by
  have hcases := confirmInMemory_cases digest api planId headers newId now
  generalize hcall : confirmInMemory digest api planId headers newId now = outcome at hcases
  cases hcases with
  | unnamed hnone =>
    rw [confirmPlan_of_error false hcall]
    exact ⟨tables, h⟩
  | spoiled hnamed hrefused =>
    rw [confirmPlan_of_error false hcall]
    exact ⟨tables, h.same h.repositories rfl rfl rfl⟩
  | duplicate hnamed haccepted hknown hfound =>
    rw [confirmPlan_of_duplicate false hcall]
    exact ⟨tables, h.same h.repositories rfl rfl rfl⟩
  | @created uuid plan hnamed haccepted hunused =>
    simp only [confirmPlan, hcall, if_true] at hfails ⊢
    split
    case h_1 error after hwrite =>
      exact absurd (writeTables_error hwrite h.repositories) (hfails error (by rw [hwrite]))
    case h_2 after hwrite =>
      rcases writeTables_ok hwrite h.repositories with ⟨hstorage, -⟩ | ⟨tables', hsave, -, rfl⟩
      · cases hstorage
      · simp only [ExecutionTables.save] at hsave
        split at hsave
        case isFalse => cases hsave
        case isTrue =>
          obtain rfl := Option.some.inj hsave
          have hrest : AtRest (.new plan.id newId) := ⟨.inl rfl, rfl, rfl⟩
          refine ⟨_, h.put hrest rfl rfl
            (h.coherent.enqueue _ _ _ _ fresh) (fun _ => Table.get_put _ _ _ _) rfl ?_⟩
          intro copy hcopy
          rcases List.mem_append.mp hcopy with hold | hlast
          · -- the id is new, so that no copy has it
            refine .inr ⟨?_, hold⟩
            intro (hid : copy.id = newId)
            have hheld := h.copies copy hold
            rw [hid, fresh] at hheld
            cases hheld
          · exact .inl (List.mem_singleton.mp hlast)

/-- A copy of an execution that the coordinator holds is written into the store. -/
theorem Saved.storeExecution (h : Saved api tables) {id : ExecutionId} {execution : Execution}
    (hheld : api.execution.executions.get id = some execution) :
    ∀ copy ∈ (storeExecution api.store id execution).executions,
      api.execution.executions.get copy.id = some copy := by
  intro copy hcopy
  rcases List.mem_append.mp hcopy with hold | hlast
  · exact h.copies copy (List.mem_filter.mp hold).1
  · obtain rfl := List.mem_singleton.mp hlast
    rw [h.coherent.id_eq hheld]
    exact hheld

/-- Reconciliation changes no execution: it is queued or has ended. -/
theorem Saved.reconciled (h : Saved api tables) (executionId : String)
    (observed : ObservedExecutionState) (now : Timestamp) :
    Saved (reconcileExecution api executionId observed now).2 tables := by
  unfold reconcileExecution
  cases parseExecutionId executionId with
  | error error => exact h
  | ok id =>
    dsimp only
    split
    case h_1 => exact h
    case h_2 execution action coordinator hreconcile =>
      rcases ExecutionCoordinator.reconcile_ok hreconcile with ⟨rfl, hheld⟩ | ⟨result, hfinish⟩
      · exact ⟨h.repositories, h.coherent, h.atRest, h.rows, h.storeExecution hheld⟩
      · -- neither a queued nor a terminal execution succeeds or fails
        obtain ⟨before, hmoved⟩ := ExecutionCoordinator.finish_ok hfinish
        have hedge := (Execution.transitionTo_ok hmoved.edge).1
        rcases (h.atRest _ _ hmoved.found).status with hqueued | hterminal
        · rw [hqueued] at hedge
          split at hedge <;> cases hedge
        · rw [ExecutionStatus.not_terminal_of_canTransitionTo hedge] at hterminal
          cases hterminal

/-- An abort is refused: the execution has ended. -/
theorem Saved.aborted (h : Saved api tables) {executionId : String} {now : Timestamp}
    (hok : Recorded api (.abort executionId now)) :
    Saved (abortExecution api executionId now).2 tables := by
  unfold abortExecution
  cases hparse : parseExecutionId executionId with
  | error error => exact h
  | ok id =>
    dsimp only
    split
    case h_1 => exact h
    case h_2 execution coordinator habort =>
      obtain ⟨before, hmoved⟩ := ExecutionCoordinator.abort_ok habort
      have hopen := ExecutionStatus.not_terminal_of_canTransitionTo
        (Execution.transitionTo_ok hmoved.edge).1
      rcases (h.atRest _ _ hmoved.found).status with hqueued | hterminal
      · refine absurd ?_ (hok id hparse)
        rw [heldStatus, hmoved.found, Option.map_some, hqueued]
      · rw [hopen] at hterminal
        cases hterminal

/-- The execution after a run: begun, finished, and with both times. -/
theorem run_moves {c c₁ c₂ : ExecutionCoordinator} {id : ExecutionId} {plan : UpdatePlan}
    {result : ExecutionResult} {started finished : Timestamp} {after : Execution}
    (hbegin : c.begin id started = .ok (plan, c₁))
    (hfinish : c₁.finish id result finished = .ok (after, c₂)) :
    ∃ before, c.executions.get id = some before ∧ before.status = .queued ∧
      after.id = before.id ∧ after.status.terminal = true ∧
      (after.startedAt = some started ∨ after.startedAt = before.startedAt) ∧
      after.finishedAt = some finished ∧
      ∀ other, c₂.executions.get other =
        if other = id then some after else c.executions.get other := by
  obtain ⟨-, before, during, hbegun⟩ := ExecutionCoordinator.begin_ok hbegin
  obtain ⟨during', hfinished⟩ := ExecutionCoordinator.finish_ok hfinish
  have hsame : during = during' := by
    have hget := hfinished.found
    rw [hbegun.executions, Table.get_put_self] at hget
    exact Option.some.inj hget
  subst hsame
  obtain ⟨hedge₁, hstatus₁, hid₁, -, hstarted₁, -⟩ := Execution.transitionTo_ok hbegun.edge
  obtain ⟨hedge₂, hstatus₂, hid₂, -, hstarted₂, hfinished₂⟩ :=
    Execution.transitionTo_ok hfinished.edge
  have hends : (if result.exitCode = 0 then ExecutionStatus.succeeded else .failed).terminal
      = true := by
    split <;> rfl
  have hnot : (if result.exitCode = 0 then ExecutionStatus.succeeded else .failed) ≠ .running := by
    split <;> decide
  refine ⟨before, hbegun.found, ?_, by rw [hid₂, hid₁], by rw [hstatus₂]; exact hends, ?_, ?_, ?_⟩
  · cases hstatus : before.status <;> rw [hstatus] at hedge₁ <;> first | rfl | cases hedge₁
  · rw [hstarted₂, if_neg (fun hboth => hnot hboth.1), hstarted₁]
    split
    case isTrue => exact .inl rfl
    case isFalse => exact .inr rfl
  · rw [hfinished₂, if_pos hends]
  · intro other
    rw [hfinished.executions, hbegun.executions, Table.get_put, Table.get_put]
    split <;> rfl

/-- A run that finishes writes the execution into the store and the table. -/
theorem Saved.finished (h : Saved api tables) {coordinator : ExecutionCoordinator}
    {id : ExecutionId} {before after : Execution} {result : ExecutionResult}
    {started finished : Timestamp} (hcoherent : coordinator.Coherent)
    (hbefore : api.execution.executions.get id = some before) (hid : after.id = id)
    (hterminal : after.status.terminal = true)
    (hstarted : after.startedAt = some started ∨ after.startedAt = before.startedAt)
    (hfinished : after.finishedAt = some finished)
    (hget : ∀ other, coordinator.executions.get other =
      if other = id then some after else api.execution.executions.get other)
    (htimes : WholeMicroseconds started ∧ WholeMicroseconds finished)
    (hfails : ∀ error, (recordFinished { api with execution := coordinator } id after result
      finished false).1 = .error error → error ≠ .storage) :
    ∃ tables', Saved (recordFinished { api with execution := coordinator } id after result finished
      false).2 tables' := by
  unfold recordFinished at hfails ⊢
  split
  case h_1 error api' hwrite =>
    exact absurd (writeTables_error hwrite h.repositories) (hfails error (by rw [hwrite]))
  case h_2 api' hwrite =>
    rcases writeTables_ok hwrite h.repositories with ⟨hstorage, -⟩ | ⟨tables', hupdate, -, rfl⟩
    · cases hstorage
    · rw [hwrite] at hfails
      -- the row is there, and is overwritten
      have hrow : tables.executions.get after.id = some (executionRow before) := by
        rw [hid]
        exact h.rows id before hbefore
      have hexecutions : tables'.executions = tables.executions.put id (executionRow after) := by
        simp only [ExecutionTables.update, hrow] at hupdate
        split at hupdate
        case isTrue =>
          rw [← Option.some.inj hupdate, hid]
        case isFalse => cases hupdate
      have hrest : AtRest after := by
        refine ⟨.inr hterminal, ?_, ?_⟩
        · rcases hstarted with hnew | hold
          · rw [hnew, Option.map_some, htimes.1]
          · rw [hold]
            exact (h.atRest id before hbefore).started
        · rw [hfinished, Option.map_some, htimes.2]
      have hsaved : Saved { storeFinished { api with execution := coordinator } id after result with
          repositories := some tables' } tables' := by
        refine h.put hrest hid rfl hcoherent hget hexecutions fun copy hcopy => ?_
        rcases List.mem_append.mp hcopy with hold | hlast
        · obtain ⟨hmem, hother⟩ := List.mem_filter.mp hold
          exact .inr ⟨by simpa using hother, hmem⟩
        · exact .inl (List.mem_singleton.mp hlast)
      split
      case h_1 error api'' hresult =>
        have hstorage : error = .storage := writeTables_error hresult rfl
        exact absurd hstorage (hfails error (by simp only [hresult]))
      case h_2 api'' hresult =>
        rcases writeTables_ok hresult rfl with ⟨hstorage, -⟩ | ⟨tables'', hresults, -, rfl⟩
        · cases hstorage
        · refine ⟨tables'', hsaved.same rfl ?_ rfl rfl⟩
          simp only [ExecutionTables.saveResult] at hresults
          split at hresults
          case isTrue => rw [← Option.some.inj hresults]
          case isFalse => cases hresults

/-- A run is refused, or it finishes. -/
theorem Saved.ran (h : Saved api tables) {executionId : String} {attempts : Nat → Attempt}
    {started finished : Timestamp} (hok : Recorded api (.run executionId attempts started finished))
    (hfails : ∀ error, (runExecution api executionId attempts started finished false).1
      = .error error → error ≠ .storage) :
    ∃ tables', Saved (runExecution api executionId attempts started finished false).2 tables' := by
  unfold runExecution at hfails ⊢
  cases hlocate : locateRun api executionId with
  | error error => exact ⟨tables, h⟩
  | ok found =>
    obtain ⟨id, plan, agent⟩ := found
    simp only [hlocate] at hfails ⊢
    cases hbegin : api.execution.begin id started with
    | error error => exact ⟨tables, h⟩
    | ok outcome =>
      obtain ⟨plan', begun⟩ := outcome
      simp only [hbegin] at hfails ⊢
      obtain ⟨-, before, during, hbegun⟩ := ExecutionCoordinator.begin_ok hbegin
      have hduring : begun.executions.get id = some during := by
        rw [hbegun.executions, Table.get_put_self]
      have hrunning := (Execution.transitionTo_ok hbegun.edge).2.1
      obtain ⟨after, coordinator, hfinish⟩ :=
        @ExecutionCoordinator.finish_of_running begun id finished during hduring hrunning
          (resultOf (AgentClient.command agent.maxRetries (applyCommand id plan) attempts))
      simp only [hfinish] at hfails ⊢
      obtain ⟨before', hbefore, hqueued, hid, hterminal, hstarted, hfinished, hget⟩ :=
        run_moves hbegin hfinish
      obtain ⟨_, hmoved⟩ := ExecutionCoordinator.finish_ok hfinish
      have hcoherent := (h.coherent.move hbegun.move).move hmoved.move
      have htimes := hok id plan agent hlocate
        (by rw [heldStatus, hbefore, Option.map_some, hqueued])
      exact h.finished hcoherent hbefore (by rw [hid, h.coherent.id_eq hbefore]) hterminal hstarted
        hfinished hget htimes hfails

/-- **A recorded request keeps the invariant.** -/
theorem Saved.step (h : Saved api tables) {request : CompleteRequest} (hok : Recorded api request)
    (hstep : completeRequest digest api request = some api') : ∃ tables', Saved api' tables' := by
  cases request with
  | createPlan containerId request newId now =>
    exact saved_unlessStorage hstep fun _ => h.planned containerId request newId now
  | registerAgent containerId agent =>
    obtain rfl := Option.some.inj hstep
    exact ⟨tables, h.same h.repositories rfl rfl rfl⟩
  | confirm planId headers newId now =>
    simp only [completeRequest] at hstep
    split at hstep
    case isTrue => cases hstep
    case isFalse hfresh =>
      exact saved_unlessStorage hstep fun hfails => h.confirmed (by simpa using hfresh) hfails
  | run executionId attempts started finished =>
    exact saved_unlessStorage hstep fun hfails => h.ran hok hfails
  | abort executionId now =>
    exact saved_unlessStorage hstep fun _ => ⟨tables, h.aborted hok⟩
  | reconcile executionId observed now =>
    exact saved_unlessStorage hstep fun _ => ⟨tables, h.reconciled executionId observed now⟩

/-- **The table agrees** after every sequence of completed requests in which no abort meets a queued
execution and the runs read whole microseconds. -/
theorem tablesAgree_of_recorded (h : (requestMachine digest).Reach Recorded api) :
    TablesAgree api := by
  have hsaved : ∃ tables, Saved api tables := by
    refine h.invariant (I := fun api => ∃ tables, Saved api tables) ?_ ?_
    · rintro api ⟨agents, tables, rfl⟩
      refine ⟨tables, rfl, ExecutionCoordinator.coherent_default, ?_, ?_, ?_⟩
      · intro id execution hexecution
        simp [ExecutionCoordinator.default] at hexecution
      · intro id execution hexecution
        simp [ExecutionCoordinator.default] at hexecution
      · intro execution hcopy
        cases hcopy
    · rintro api request api' _ ⟨tables, hsaved⟩ hok hstep
      exact hsaved.step hok hstep
  obtain ⟨tables, hsaved⟩ := hsaved
  exact hsaved.tablesAgree

/-- A server on a database with container 101. -/
def serverOnDatabase : ExecutionApi :=
  ⟨⟨[], [], ∅⟩, .default, ∅, some ⟨[⟨101⟩], [], ∅, ∅⟩⟩

/-- A plan for container 101 is created and confirmed; its execution has the id 2. -/
def queuesExecution : List CompleteRequest :=
  [.registerAgent ⟨101⟩ ⟨0⟩, .createPlan "101" ⟨["openssl"], [], false⟩ ⟨⟨1⟩⟩ 0,
    .confirm opensslPlanText [] ⟨⟨2⟩⟩ 10]

/-- The id of that execution. -/
def executionText : String := "00000000-0000-0000-0000-000000000002"

theorem tablesAgree_after_run :
    ∃ api, (requestMachine opensslDigest).Reach Recorded api ∧
      heldStatus api ⟨⟨2⟩⟩ = some .succeeded ∧ TablesAgree api := by
  have hrun : ∃ api ∈ (requestMachine opensslDigest).exec Recorded serverOnDatabase
        (queuesExecution ++
          [.run executionText (fun _ => .success (some ⟨⟨1⟩, true, 0, "", "", false, 5⟩)) 2000 5000,
            .reconcile executionText .failed 6000]),
      heldStatus api ⟨⟨2⟩⟩ = some .succeeded := by
    decide +kernel
  obtain ⟨api, hexec, hstatus⟩ := hrun
  have hreach : (requestMachine opensslDigest).Reach Recorded api :=
    .exec (.init ⟨_, _, rfl⟩) _ hexec
  exact ⟨api, hreach, hstatus, tablesAgree_of_recorded hreach⟩

/-- A queued execution is aborted: its row still says that it is queued. -/
theorem aborted_row_queued :
    ∃ api, (requestMachine opensslDigest).Reach Machine.Any api ∧
      heldStatus api ⟨⟨2⟩⟩ = some .aborted ∧
      (∃ tables ∈ api.repositories,
        (tables.executions.get ⟨⟨2⟩⟩).map (·.status) = some "queued") ∧ ¬ TablesAgree api := by
  have hrun : ∃ api ∈ (requestMachine opensslDigest).exec Machine.Any serverOnDatabase
        (queuesExecution ++ [.abort executionText 2000]),
      heldStatus api ⟨⟨2⟩⟩ = some .aborted ∧
        ∃ tables ∈ api.repositories,
          (tables.executions.get ⟨⟨2⟩⟩).map (·.status) = some "queued" := by
    decide +kernel
  obtain ⟨api, hexec, hstatus, tables, htables, hrow⟩ := hrun
  refine ⟨api, .exec (.init ⟨_, _, rfl⟩) _ hexec, hstatus, ⟨tables, htables, hrow⟩, ?_⟩
  rintro ⟨tables', htables', hagrees, -⟩
  obtain rfl : tables = tables' := Option.some.inj (htables.symm.trans htables')
  obtain ⟨execution, hexecution, haborted⟩ : ∃ execution,
      api.execution.executions.get ⟨⟨2⟩⟩ = some execution ∧ execution.status = .aborted := by
    simpa [heldStatus, Option.map_eq_some_iff] using hstatus
  obtain ⟨hid, row, hget, hname, -⟩ := hagrees _ _ hexecution
  rw [hid] at hget
  rw [hget, Option.map_some, hname, haborted] at hrow
  revert hrow
  decide

end Lxcup.Executions
