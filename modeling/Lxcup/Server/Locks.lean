import Lxcup.Lib.LockOrder

/-!
# The locks of the server

Request handlers and background tasks share seven locks: `backup_gate`, which write requests
hold for their whole duration and backups take alone, `scheduler_lock`, `docker_discovery_lock`,
and the locks around the coordinator, the store, the executions and the agent clients.  All are
fair.  This module states for each kind of task which locks it takes over which, and where they
can wait in a cycle.

All tasks take the locks in the order in which they are listed here, but one: the dispatcher
takes `backup_gate` for a scheduled backup while it holds `scheduler_lock`.  `delete_target`
takes the two in the order of the list, `backup_gate` in the middleware and `scheduler_lock` in
the handler.

## Main definitions

* `ServerLock`, `ServerLock.rank`.
* `ServerTask`, `ServerTask.code` — the handlers and the background tasks.
* `serverLocks` — any interleaving of them.

## Main results

* `code_respects_order` — the order, with its exception.
* `noDeadlock_of_uncrossed` — no cycle where no deletion is between the two locks when the
  dispatcher asks for the gate.
* `scheduled_backup_deadlock` — a cycle otherwise.
-/

namespace Lxcup.Server

open Lib

/-- The locks of `ApiState`, in the order in which they are taken. -/
inductive ServerLock
  | backupGate | scheduler | dockerDiscovery | ansible | store | execution | agents
  deriving DecidableEq, Repr

/-- The place of a lock in the order. -/
def ServerLock.rank : ServerLock → ℕ
  | .backupGate => 0
  | .scheduler => 1
  | .dockerDiscovery => 2
  | .ansible => 3
  | .store => 4
  | .execution => 5
  | .agents => 6

/-! ### Code -/

/-- What a task does with the locks of the server. -/
abbrev ServerCode := Skeleton ServerLock

/-- `lock.read().await`, given up at once. -/
def read (lock : ServerLock) : ServerCode := .hold lock .shared .skip

/-- `lock.write().await`, given up at once. -/
def write (lock : ServerLock) : ServerCode := .hold lock .exclusive .skip

/-- Some code, after which the task may return early, and the rest. -/
def thenMaybe (first rest : ServerCode) : ServerCode := .seq first (.choice .skip rest)

/-- Any number of the given steps in any order, none of which holds a lock beyond its end. -/
def anyOf (steps : List ServerCode) : ServerCode := .loop (steps.foldr .choice .skip)

/-- The handlers that never hold a lock when they ask for another. -/
def oneAtATime : ServerCode :=
  anyOf [read .ansible, write .ansible, read .store, write .store, read .execution,
    write .execution, read .agents, write .agents]

/-- `request_middleware` around the handler of a write request: the audit entry may fail before
the handler runs. -/
def requestMiddleware (handler : ServerCode) : ServerCode :=
  .hold .backupGate .shared (.choice .skip handler)

/-- `delete_target` from `scheduler_lock` on; both guards live to the end of the handler. -/
def deleteTargetLocked : ServerCode :=
  .hold .ansible .exclusive (.choice .skip (thenMaybe (read .store) (write .store)))

/-- `delete_target`; `accepted` says that the actor may delete, the request is confirmed and the id
is well-formed. -/
def deleteTargetCode (accepted : Bool) : ServerCode :=
  if accepted then .hold .scheduler .exclusive deleteTargetLocked else .skip

/-- `confirm_plan` starts the execution while it holds the store. -/
def confirmPlanCode : ServerCode :=
  .hold .store .exclusive (.choice .skip (write .execution))

/-- `run_scan` looks up the agent while it holds the store. -/
def runScanCode : ServerCode :=
  thenMaybe (.hold .store .exclusive (.choice .skip (read .agents))) (write .store)

/-- `run_docker_discovery`; the store is used only without a database. -/
def runDockerDiscovery : ServerCode :=
  .hold .dockerDiscovery .exclusive
    -- the start of the run, the agent's client, then the result or its error
    (thenMaybe (.choice .skip (write .store)) (thenMaybe (read .agents) (anyOf [write .store])))

/-- `create_encrypted_backup_for_state`. -/
def createEncryptedBackupForState : ServerCode := write .backupGate

/-- `execute_scheduled_backup`: nothing is locked without a usable passphrase. -/
def executeScheduledBackup : ServerCode := .choice .skip createEncryptedBackupForState

/-- `scheduled_target`. -/
def scheduledTarget : ServerCode := thenMaybe (read .store) (read .store)

/-- `dispatch_scheduled_docker_discovery`. -/
def dispatchScheduledDockerDiscovery : ServerCode :=
  .choice .skip (thenMaybe (read .store) runDockerDiscovery)

/-- `persist_created_job`. -/
def persistCreatedJob : ServerCode := .choice .skip (read .ansible)

/-- `dispatch_scheduled_target`. -/
def dispatchScheduledTarget : ServerCode :=
  thenMaybe scheduledTarget (.choice dispatchScheduledDockerDiscovery
    (thenMaybe (.choice .skip (read .store)) (thenMaybe (write .ansible) persistCreatedJob)))

/-- `execute_due_schedule`. -/
def executeDueSchedule : ServerCode :=
  -- a backup has no targets and the other operations go through theirs
  .choice executeScheduledBackup (.loop dispatchScheduledTarget)

/-- The loop of `dispatch_due_schedules`; a schedule that waits for the worker is passed over, and
`advance_schedule_after_run` writes the store. -/
def dispatchLoop : ServerCode :=
  .loop (.choice .skip (.seq executeDueSchedule (write .store)))

/-- `dispatch_due_schedules`. -/
def dispatchDueSchedulesCode : ServerCode :=
  .hold .scheduler .exclusive (.seq (read .store) dispatchLoop)

/-- `reconcile_onboarding_jobs`: for each job look-ups, submissions and `persist_created_job`. -/
def reconcileOnboardingJobsCode : ServerCode :=
  .hold .scheduler .exclusive (anyOf [read .ansible, read .store, write .ansible])

/-! ### Tasks -/

/-- The tasks of the server. -/
inductive ServerTask
  /-- Requests that do not write, and background work outside the scheduler. -/
  | readRequest
  /-- Write requests of all handlers without one of their own here. -/
  | writeRequest
  | deleteTarget (accepted : Bool)
  | confirmPlan
  | runScan
  | discoverDockerContainers
  /-- `POST /api/v1/admin/backups`, which `request_middleware` lets pass without the gate. -/
  | createBackup
  | dispatchDueSchedules
  | reconcileOnboardingJobs
  deriving DecidableEq, Repr

/-- What a task does with the locks. -/
def ServerTask.code : ServerTask → ServerCode
  | .readRequest => oneAtATime
  | .writeRequest => requestMiddleware oneAtATime
  | .deleteTarget accepted => requestMiddleware (deleteTargetCode accepted)
  | .confirmPlan => requestMiddleware confirmPlanCode
  | .runScan => requestMiddleware runScanCode
  | .discoverDockerContainers => requestMiddleware runDockerDiscovery
  | .createBackup => .choice .skip createEncryptedBackupForState
  | .dispatchDueSchedules => dispatchDueSchedulesCode
  | .reconcileOnboardingJobs => reconcileOnboardingJobsCode

/-- Any number of tasks of each kind in any interleaving. -/
def serverLocks : Machine (LockSystem ServerLock) (LockAction ServerTask) :=
  lockMachine ServerTask.code

/-! ### Order -/

/-- The two locks that are taken in both orders: whenever a task asks for the gate while it holds
`scheduler_lock`, no other task has asked for the gate and is still to get `scheduler_lock`. -/
def GateUncrossed : LockSystem ServerLock → LockAction ServerTask → Prop :=
  LockSystem.Uncrossed .backupGate .scheduler

instance (s : LockSystem ServerLock) (a : LockAction ServerTask) : Decidable (GateUncrossed s a) :=
  inferInstanceAs (Decidable (LockSystem.Uncrossed .backupGate .scheduler s a))

/-- **The order of the locks**: every task asks only for locks above those it holds, or for the gate
while it holds `scheduler_lock` alone. -/
theorem code_respects_order (task : ServerTask) :
    task.code.respects (LockSystem.inOrder ServerLock.rank .backupGate .scheduler) [] = true := by
  cases task with
  | deleteTarget accepted => cases accepted <;> rfl
  | _ => rfl

/-- Only the gate is below `scheduler_lock`. -/
theorem eq_backupGate_of_rank_lt (lock : ServerLock)
    (h : lock.rank < ServerLock.scheduler.rank) : lock = .backupGate := by
  cases lock <;> simp_all [ServerLock.rank]

/-- **No deadlock** in any run in which no deletion is between the gate and `scheduler_lock` when
the dispatcher asks for the gate. -/
theorem noDeadlock_of_uncrossed {s : LockSystem ServerLock}
    (h : serverLocks.Reach GateUncrossed s) : ¬ s.Deadlocked :=
  noCycle_of_uncrossed code_respects_order (by decide) eq_backupGate_of_rank_lt h

/-- The dispatcher, with `scheduler_lock` and the schedules due, goes on to a scheduled backup: the
steps from its start to the request for the gate. -/
def scheduledBackupSteps (task : TaskId) : List (LockAction ServerTask) :=
  [.spawn task .dispatchDueSchedules, .run task true, .grant task,
    -- the schedules that are due are read from the store
    .run task true, .run task true, .grant task, .run task true, .run task true,
    -- one of them is due and a backup with a usable passphrase
    .run task true, .run task false, .run task true, .run task true, .run task false]

/-- What is left of the dispatcher's tick after the backup. -/
def afterScheduledBackup : List (Frame ServerLock) :=
  [.exec (write .store), .exec dispatchLoop, .drop .scheduler .exclusive]

/-- A deletion that arrives at the gate after the dispatcher waits its turn: first for the backup,
then for the end of the tick. -/
theorem delete_after_backup_noDeadlock :
    ∃ s, serverLocks.Reach GateUncrossed s ∧
      s.tasks.get 1 = some (.waiting .scheduler .exclusive deleteTargetLocked
        [.drop .backupGate .shared]) ∧
      s.tasks.get 2 = some (.running afterScheduledBackup) ∧
      ¬ s.Deadlocked := by
  have hrun : ∃ s ∈ serverLocks.exec GateUncrossed .initial
      (scheduledBackupSteps 2 ++ [.run 2 true, .spawn 1 (.deleteTarget true), .run 1 true,
        .grant 2, .run 2 true, .run 2 true, .grant 1, .run 1 false, .run 1 true]),
      s.tasks.get 1 = some (.waiting .scheduler .exclusive deleteTargetLocked
        [.drop .backupGate .shared]) ∧
      s.tasks.get 2 = some (.running afterScheduledBackup) := by
    decide +kernel
  obtain ⟨s, hexec, hdelete, htick⟩ := hrun
  have hreach : serverLocks.Reach GateUncrossed s := .exec (.init rfl) _ hexec
  exact ⟨s, hreach, hdelete, htick, noDeadlock_of_uncrossed hreach⟩

/-- A deletion that has passed the gate waits for `scheduler_lock`, which the dispatcher holds; the
dispatcher waits for the gate. -/
theorem scheduled_backup_deadlock :
    ¬ ∀ s, serverLocks.Reach Machine.Any s → ¬ s.Deadlocked := by
  intro hall
  have hrun : ∃ s ∈ serverLocks.exec Machine.Any .initial
      ([.spawn 1 (.deleteTarget true), .run 1 true, .grant 1, .run 1 false] ++
        scheduledBackupSteps 2 ++ [.run 2 true, .run 1 true]),
      s.tasks.get 1 = some (.waiting .scheduler .exclusive deleteTargetLocked
        [.drop .backupGate .shared]) ∧
      s.tasks.get 2 = some (.waiting .backupGate .exclusive .skip afterScheduledBackup) := by
    decide +kernel
  obtain ⟨s, hexec, hdelete, htick⟩ := hrun
  have hfirst : WaitEdge s.Holds s.Waits 1 2 :=
    ⟨.scheduler, ⟨_, _, _, hdelete⟩, ⟨_, .exclusive, htick, by decide⟩⟩
  have hsecond : WaitEdge s.Holds s.Waits 2 1 :=
    ⟨.backupGate, ⟨_, _, _, htick⟩, ⟨_, .shared, hdelete, by decide⟩⟩
  exact hall s (.exec (.init rfl) _ hexec) ⟨1, .tail (.single hfirst) hsecond⟩

end Lxcup.Server
