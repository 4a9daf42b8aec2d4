import Lxcup.Core.Schedule
import Lxcup.Lib.Machine
import Lxcup.Lib.Table
import Lxcup.Lib.WriteBehind
import Lxcup.Server.Executions

/-!
# Schedules in memory and in the database

A request that enables a schedule, the tick of the dispatcher and the invalidation of a secret all
change schedules in memory, under the lock of the store, and save what they have copied from there
after the lock is released.  The writes of different callers may come in another order than their
changes.

The database answers every call here.  Ticks exclude each other by the lock of the scheduler.

## Main definitions

* `storedSchedule` — a schedule as its row holds it.
* `ScheduleCall`, `ScheduleState`, `ScheduleAction`, `scheduleMachine`.
* `ScheduleState.Agrees` — the rows are those of the schedules in memory, once every call has
  answered.
* `SavesCurrent` — what is saved is current, or the current schedule is still to be saved.

## Main results

* `agrees_of_reach` — the rows agree in every run that saves what is current, and every other write
  puts them out of step.
* `tick_undoes_disabling` — a schedule that was disabled, enabled in the database.
-/

namespace Lxcup.WriteBack

open Lxcup.Lib Lxcup.Core
open Lxcup.Server (columnTime)

/-- A schedule as its row holds it: points in time are rounded. -/
def storedSchedule (schedule : JobSchedule) : JobSchedule :=
  { schedule with
    lastRunAt := schedule.lastRunAt.map columnTime
    nextRunAt := columnTime schedule.nextRunAt }

/-- How far a call has come. -/
inductive ScheduleCall
  /-- Copies of changed schedules are saved, one by one. -/
  | saving (schedules : List JobSchedule)
  /-- A tick, with the due schedules that are left. -/
  | dispatching (now : Timestamp) (due : List JobSchedule)
  /-- A tick saves the schedule that it has advanced. -/
  | advanced (now : Timestamp) (schedule : JobSchedule) (due : List JobSchedule)
  | answered
  deriving DecidableEq, Repr

/-- What a call has still to save. -/
def ScheduleCall.pending : ScheduleCall → List JobSchedule
  | saving schedules => schedules
  | advanced _ schedule _ => [schedule]
  | dispatching _ _ | answered => []

/-- The schedules in memory, the rows, the owner of the scheduler's lock, and the calls. -/
structure ScheduleState where
  schedules : Table String JobSchedule
  rows : Table String JobSchedule
  scheduler : Option Nat
  calls : Table Nat ScheduleCall

namespace ScheduleState

variable (s : ScheduleState) (n : Nat)

/-- A call goes on. -/
def enter (call : ScheduleCall) : ScheduleState := { s with calls := s.calls.put n call }

/-- A call has copies to save, or answers. -/
def enterSaving (schedules : List JobSchedule) : ScheduleState :=
  s.enter n (if schedules = [] then .answered else .saving schedules)

/-- A tick goes on with the due schedules that are left, or ends. -/
def enterDispatching (now : Timestamp) (due : List JobSchedule) : ScheduleState :=
  if due = [] then { s.enter n .answered with scheduler := none }
  else s.enter n (.dispatching now due)

/-- `set_schedule_enabled`, up to the write. -/
def setScheduleEnabled (scheduleId : String) (enabled : Bool) : ScheduleState :=
  match s.schedules.get scheduleId with
  | none => s.enter n .answered
  | some schedule =>
    let updated := { schedule with enabled := enabled }
    { s.enter n (.saving [updated]) with schedules := s.schedules.put scheduleId updated }

/-- The schedule is disabled with its targets. -/
def disables (affectedTargets : List TargetId) (schedule : JobSchedule) : Bool :=
  (schedule.targetIds.any fun id => affectedTargets.contains id) && schedule.enabled

/-- A schedule that is disabled with its targets. -/
def disable (schedule : JobSchedule) : JobSchedule :=
  { schedule with
    enabled := false
    lastError := some "disabled because a referenced secret was revoked or rotated" }

/-- `disable_schedules_for_targets`, up to the writes. -/
def disableSchedulesForTargets (affectedTargets : List TargetId) : ScheduleState :=
  { s.enterSaving n (((s.schedules.retain fun _ schedule =>
      disables affectedTargets schedule).values).map disable) with
    schedules := s.schedules.mapValues fun _ schedule =>
      if disables affectedTargets schedule then disable schedule else schedule }

/-- `dispatch_due_schedules`, up to the list of the schedules that are due. -/
def dispatchDueSchedules (now : Timestamp) : Option ScheduleState :=
  if s.scheduler = none then
    some (enterDispatching { s with scheduler := some n } n now
      (s.schedules.values.filter (·.isDue now)))
  else none

/-- `advance_schedule_after_run`, of the first of the due schedules. -/
def advanceScheduleAfterRun (now : Timestamp) (schedule : JobSchedule) (due : List JobSchedule)
    (failure : Option String) : ScheduleState :=
  match s.schedules.get schedule.id with
  -- deleted since the list of due schedules was made
  | none => s.enterDispatching n now due
  | some current =>
    let updated := current.advanceAfterRun now failure
    { s.enter n (.advanced now updated due) with
      schedules := s.schedules.put schedule.id updated }

/-- `ScheduleRepository::update`. -/
def save (schedule : JobSchedule) : ScheduleState :=
  { s with rows := s.rows.put schedule.id (storedSchedule schedule) }

end ScheduleState

/-- The steps. -/
inductive ScheduleAction
  | setScheduleEnabled (n : Nat) (scheduleId : String) (enabled : Bool)
  | disableSchedulesForTargets (n : Nat) (affectedTargets : List TargetId)
  | dispatchDueSchedules (n : Nat) (now : Timestamp)
  /-- The next due schedule waits for a worker. -/
  | wait (n : Nat)
  /-- The next due schedule has run, and is advanced. -/
  | advanceScheduleAfterRun (n : Nat) (failure : Option String)
  /-- The next copy is saved. -/
  | save (n : Nat)
  deriving DecidableEq, Repr

/-- The state after a step. -/
def ScheduleState.step (s : ScheduleState) : ScheduleAction → Option ScheduleState
  | .setScheduleEnabled n scheduleId enabled =>
    if (s.calls.get n).isNone then some (s.setScheduleEnabled n scheduleId enabled) else none
  | .disableSchedulesForTargets n affectedTargets =>
    if (s.calls.get n).isNone then some (s.disableSchedulesForTargets n affectedTargets) else none
  | .dispatchDueSchedules n now =>
    if (s.calls.get n).isNone then s.dispatchDueSchedules n now else none
  | .wait n =>
    match s.calls.get n with
    | some (.dispatching now (_ :: due)) => some (s.enterDispatching n now due)
    | _ => none
  | .advanceScheduleAfterRun n failure =>
    match s.calls.get n with
    | some (.dispatching now (schedule :: due)) =>
      some (s.advanceScheduleAfterRun n now schedule due failure)
    | _ => none
  | .save n =>
    match s.calls.get n with
    | some (.saving (schedule :: rest)) => some ((s.save schedule).enterSaving n rest)
    | some (.advanced now schedule due) => some ((s.save schedule).enterDispatching n now due)
    | _ => none

/-- The schedules, from a moment on at which there is no call and the rows agree. -/
def scheduleMachine : Machine ScheduleState ScheduleAction where
  init s :=
    (∀ id row, s.rows.get id = some row →
      ∃ schedule, s.schedules.get id = some schedule ∧ row = storedSchedule schedule) ∧
    (∀ id schedule, s.schedules.get id = some schedule → schedule.id = id) ∧
    s.scheduler = none ∧ s.calls = ∅
  step := ScheduleState.step

/-! ### What is to be saved -/

namespace ScheduleState

/-- The rows agree with the schedules in memory when every call has answered. -/
def Agrees (s : ScheduleState) : Prop :=
  (∀ n call, s.calls.get n = some call → call = .answered) →
    ∀ id row, s.rows.get id = some row →
      ∃ schedule, s.schedules.get id = some schedule ∧ row = storedSchedule schedule

/-- The rows that the schedules in memory would have. -/
def currentRow (s : ScheduleState) (id : String) : Option JobSchedule :=
  (s.schedules.get id).map storedSchedule

/-- Every row is the one of the schedule in memory, or that one is to be saved. -/
def RowsInStep (s : ScheduleState) : Prop :=
  InStep s.currentRow s.rows.get (Pending ScheduleCall.pending (·.id) storedSchedule s.calls)

/-- The table of schedules is by their ids. -/
def Keyed (s : ScheduleState) : Prop :=
  ∀ id schedule, s.schedules.get id = some schedule → schedule.id = id

end ScheduleState

/-- **What is saved is current**: it makes the row that the schedule in memory would have, or a call
has still to save one that does. -/
def SavesCurrent (s : ScheduleState) : ScheduleAction → Prop
  | .save n => ∀ call schedule rest, s.calls.get n = some call →
      call.pending = schedule :: rest →
        WritesCurrent ScheduleCall.pending (·.id) storedSchedule s.currentRow s.calls n schedule rest
  | _ => True

instance : ∀ (s : ScheduleState) (a : ScheduleAction), Decidable (SavesCurrent s a)
  | s, .save n => decidableNext ScheduleCall.pending s.calls n
      (WritesCurrent ScheduleCall.pending (·.id) storedSchedule s.currentRow s.calls n)
  | _, .setScheduleEnabled .. | _, .disableSchedulesForTargets .. | _, .dispatchDueSchedules ..
  | _, .wait _ | _, .advanceScheduleAfterRun .. => instDecidableTrue

variable {s s' : ScheduleState} {n : Nat} {call : ScheduleCall}

@[simp] theorem pending_enterSaving (schedules : List JobSchedule) :
    (if schedules = [] then ScheduleCall.answered else .saving schedules).pending = schedules := by
  split
  case isTrue h => rw [h, ScheduleCall.pending]
  case isFalse => rfl

/-- A tick that goes on has nothing to save. -/
theorem enterDispatching_spec (s : ScheduleState) (n : Nat) (now : Timestamp)
    (due : List JobSchedule) : ∃ call, (s.enterDispatching n now due).calls = s.calls.put n call ∧
      call.pending = [] ∧ (s.enterDispatching n now due).schedules = s.schedules ∧
      (s.enterDispatching n now due).rows = s.rows := by
  unfold ScheduleState.enterDispatching
  split
  case isTrue => exact ⟨.answered, rfl, rfl, rfl, rfl⟩
  case isFalse => exact ⟨.dispatching now due, rfl, rfl, rfl, rfl⟩

/-! ### Changes -/

/-- A step that changes schedules in memory, and has the changed ones to save. -/
structure Changes (s s' : ScheduleState) (n : Nat) (call : ScheduleCall) : Prop where
  idle : ∀ call, s.calls.get n = some call → call.pending = []
  calls : s'.calls = s.calls.put n call
  rows : s'.rows = s.rows
  schedules : ∀ id, s'.schedules.get id = s.schedules.get id ∨
    ∃ schedule ∈ call.pending, schedule.id = id ∧ s'.schedules.get id = some schedule

theorem Changes.rowsInStep (h : Changes s s' n call) (hstep : s.RowsInStep) : s'.RowsInStep := by
  unfold ScheduleState.RowsInStep
  rw [h.calls, h.rows]
  refine InStep.changed hstep h.idle fun id => ?_
  unfold ScheduleState.currentRow
  rcases h.schedules id with hsame | ⟨schedule, hmem, hid, hget⟩
  · exact .inl (by rw [hsame])
  · exact .inr ⟨schedule, hmem, hid, by rw [hget, Option.map_some]⟩

theorem Changes.keyed (h : Changes s s' n call) (hkeyed : s.Keyed) : s'.Keyed := by
  intro id schedule hget
  rcases h.schedules id with hsame | ⟨changed, -, hid, hchanged⟩
  · exact hkeyed id schedule (hsame ▸ hget)
  · rw [hget] at hchanged
    cases hchanged
    exact hid

theorem changes_setScheduleEnabled (hkeyed : s.Keyed) (hnew : s.calls.get n = none)
    (scheduleId : String) (enabled : Bool) :
    ∃ call, Changes s (s.setScheduleEnabled n scheduleId enabled) n call := by
  have hidle : ∀ call, s.calls.get n = some call → call.pending = [] := by
    intro call hcall
    rw [hnew] at hcall
    cases hcall
  unfold ScheduleState.setScheduleEnabled
  cases hget : s.schedules.get scheduleId with
  | none => exact ⟨.answered, hidle, rfl, rfl, fun _ => .inl rfl⟩
  | some schedule =>
    refine ⟨.saving [{ schedule with enabled := enabled }], hidle, rfl, rfl, fun id => ?_⟩
    dsimp only
    rw [Table.get_put]
    split
    case isTrue heq =>
      subst heq
      exact .inr ⟨_, List.mem_singleton_self _, hkeyed id schedule hget, rfl⟩
    case isFalse => exact .inl rfl

theorem changes_disableSchedulesForTargets (hkeyed : s.Keyed) (hnew : s.calls.get n = none)
    (affectedTargets : List TargetId) :
    ∃ call, Changes s (s.disableSchedulesForTargets n affectedTargets) n call := by
  refine ⟨_, fun call hcall => ?_, rfl, rfl, fun id => ?_⟩
  · rw [hnew] at hcall
    cases hcall
  · rw [pending_enterSaving]
    simp only [ScheduleState.disableSchedulesForTargets, Table.get_mapValues]
    cases hget : s.schedules.get id with
    | none => exact .inl rfl
    | some schedule =>
      by_cases hdisables : ScheduleState.disables affectedTargets schedule = true
      · refine .inr ⟨ScheduleState.disable schedule, List.mem_map.mpr ⟨schedule, ?_, rfl⟩,
          hkeyed id schedule hget, by simp [hdisables]⟩
        refine Table.mem_values.mpr ⟨id, ?_⟩
        simp [Table.get_retain, hget, hdisables]
      · exact .inl (by simp [hdisables])

theorem changes_dispatchDueSchedules {now : Timestamp} (hnew : s.calls.get n = none)
    (hs : s.dispatchDueSchedules n now = some s') : ∃ call, Changes s s' n call := by
  obtain ⟨-, hs⟩ := Option.ite_none_right_eq_some.mp hs
  cases hs
  obtain ⟨call, hcalls, -, hschedules, hrows⟩ := enterDispatching_spec
    { s with scheduler := some n } n now (s.schedules.values.filter (·.isDue now))
  refine ⟨call, fun call hcall => ?_, hcalls, hrows, fun id => .inl (by rw [hschedules])⟩
  rw [hnew] at hcall
  cases hcall

theorem changes_enterDispatching {now : Timestamp} {due due' : List JobSchedule}
    (hcall : s.calls.get n = some (.dispatching now due)) :
    ∃ call, Changes s (s.enterDispatching n now due') n call := by
  obtain ⟨call, hcalls, -, hschedules, hrows⟩ := enterDispatching_spec s n now due'
  refine ⟨call, fun call' hcall' => ?_, hcalls, hrows, fun id => .inl (by rw [hschedules])⟩
  rw [hcall] at hcall'
  cases hcall'
  rfl

theorem changes_advanceScheduleAfterRun {now : Timestamp} {schedule : JobSchedule}
    {due : List JobSchedule} (hkeyed : s.Keyed)
    (hcall : s.calls.get n = some (.dispatching now (schedule :: due)))
    (failure : Option String) :
    ∃ call, Changes s (s.advanceScheduleAfterRun n now schedule due failure) n call := by
  unfold ScheduleState.advanceScheduleAfterRun
  cases hget : s.schedules.get schedule.id with
  | none => exact changes_enterDispatching hcall
  | some current =>
    refine ⟨.advanced now (current.advanceAfterRun now failure) due, fun call' hcall' => ?_, rfl,
      rfl, fun id => ?_⟩
    · rw [hcall] at hcall'
      cases hcall'
      rfl
    · dsimp only
      rw [Table.get_put]
      split
      case isTrue heq =>
        subst heq
        exact .inr ⟨_, List.mem_singleton_self _, hkeyed _ current hget, rfl⟩
      case isFalse => exact .inl rfl

/-! ### Writes -/

/-- A step that saves the first of the schedules that a call has to save. -/
structure Saves (s s' : ScheduleState) (n : Nat) (schedule : JobSchedule)
    (rest : List JobSchedule) : Prop where
  before : ∃ call, s.calls.get n = some call ∧ call.pending = schedule :: rest
  after : ∃ call, s'.calls = s.calls.put n call ∧ call.pending = rest
  rows : s'.rows = s.rows.put schedule.id (storedSchedule schedule)
  schedules : s'.schedules = s.schedules

theorem Saves.keyed {schedule : JobSchedule} {rest : List JobSchedule}
    (h : Saves s s' n schedule rest) (hkeyed : s.Keyed) : s'.Keyed := by
  unfold ScheduleState.Keyed
  rw [h.schedules]
  exact hkeyed

theorem Saves.rowsInStep_iff {schedule : JobSchedule} {rest : List JobSchedule}
    (h : Saves s s' n schedule rest) (hstep : s.RowsInStep) :
    s'.RowsInStep ↔ SavesCurrent s (.save n) := by
  obtain ⟨call, hcall, hpending⟩ := h.before
  obtain ⟨call', hcalls, hpending'⟩ := h.after
  unfold ScheduleState.RowsInStep
  rw [show s'.currentRow = s.currentRow by unfold ScheduleState.currentRow; rw [h.schedules],
    h.rows, hcalls, inStep_written_iff hstep hcall hpending hpending' (Table.get_put_self _ _ _)
      fun _ hne => Table.get_put_ne _ _ hne]
  constructor
  · intro hcurrent call'' schedule' rest' hcall'' hpending''
    rw [hcall] at hcall''
    cases hcall''
    rw [hpending] at hpending''
    cases hpending''
    exact hcurrent
  · intro hcurrent
    exact hcurrent call schedule rest hcall hpending

/-- **What a step does**: it changes schedules that are to be saved then, or it saves one. -/
theorem changes_or_saves {a : ScheduleAction} (hkeyed : s.Keyed) (hs : s.step a = some s') :
    (∃ n call, Changes s s' n call ∧ ∀ n, a ≠ .save n) ∨
      ∃ n schedule rest, a = .save n ∧ Saves s s' n schedule rest := by
  cases a with
  | setScheduleEnabled n scheduleId enabled =>
    obtain ⟨hnew, hs⟩ := Option.ite_none_right_eq_some.mp hs
    cases hs
    obtain ⟨call, hchanges⟩ := changes_setScheduleEnabled hkeyed (Option.isNone_iff_eq_none.mp hnew)
      scheduleId enabled
    exact .inl ⟨n, call, hchanges, fun _ heq => by cases heq⟩
  | disableSchedulesForTargets n affectedTargets =>
    obtain ⟨hnew, hs⟩ := Option.ite_none_right_eq_some.mp hs
    cases hs
    obtain ⟨call, hchanges⟩ := changes_disableSchedulesForTargets hkeyed
      (Option.isNone_iff_eq_none.mp hnew) affectedTargets
    exact .inl ⟨n, call, hchanges, fun _ heq => by cases heq⟩
  | dispatchDueSchedules n now =>
    obtain ⟨hnew, hs⟩ := Option.ite_none_right_eq_some.mp hs
    obtain ⟨call, hchanges⟩ := changes_dispatchDueSchedules (Option.isNone_iff_eq_none.mp hnew) hs
    exact .inl ⟨n, call, hchanges, fun _ heq => by cases heq⟩
  | wait n =>
    simp only [ScheduleState.step] at hs
    split at hs
    case h_1 now schedule due hcall =>
      cases hs
      obtain ⟨call, hchanges⟩ := changes_enterDispatching hcall
      exact .inl ⟨n, call, hchanges, fun _ heq => by cases heq⟩
    case h_2 => cases hs
  | advanceScheduleAfterRun n failure =>
    simp only [ScheduleState.step] at hs
    split at hs
    case h_1 now schedule due hcall =>
      cases hs
      obtain ⟨call, hchanges⟩ := changes_advanceScheduleAfterRun hkeyed hcall failure
      exact .inl ⟨n, call, hchanges, fun _ heq => by cases heq⟩
    case h_2 => cases hs
  | save n =>
    simp only [ScheduleState.step] at hs
    split at hs
    case h_1 schedule rest hcall =>
      cases hs
      exact .inr ⟨n, schedule, rest, rfl, ⟨_, hcall, rfl⟩, ⟨_, rfl, pending_enterSaving rest⟩, rfl,
        rfl⟩
    case h_2 now schedule due hcall =>
      cases hs
      obtain ⟨call, hcalls, hpending, hschedules, hrows⟩ :=
        enterDispatching_spec (s.save schedule) n now due
      exact .inr ⟨n, schedule, [], rfl, ⟨_, hcall, rfl⟩, ⟨call, hcalls, hpending⟩, hrows,
        hschedules⟩
    case h_3 => cases hs

theorem keyed_of_step {a : ScheduleAction} (hkeyed : s.Keyed) (hs : s.step a = some s') :
    s'.Keyed := by
  rcases changes_or_saves hkeyed hs with ⟨n, call, hchanges, -⟩ | ⟨n, schedule, rest, -, hsaves⟩
  · exact hchanges.keyed hkeyed
  · exact hsaves.keyed hkeyed

/-- A step keeps the rows in step exactly if what it saves is current. -/
theorem rowsInStep_iff_savesCurrent {a : ScheduleAction} (hkeyed : s.Keyed) (hstep : s.RowsInStep)
    (hs : s.step a = some s') : s'.RowsInStep ↔ SavesCurrent s a := by
  rcases changes_or_saves hkeyed hs with ⟨n, call, hchanges, hother⟩ |
    ⟨n, schedule, rest, rfl, hsaves⟩
  · refine iff_of_true (hchanges.rowsInStep hstep) ?_
    cases a with
    | save n => exact absurd rfl (hother n)
    | _ => trivial
  · exact hsaves.rowsInStep_iff hstep

/-- Rows in step agree once nothing is to be saved. -/
theorem agrees_of_rowsInStep (hstep : s.RowsInStep) : s.Agrees := by
  intro hanswered id row hrow
  have hidle : ∀ n call, s.calls.get n = some call → call.pending = [] := by
    intro n call hcall
    rw [hanswered n call hcall, ScheduleCall.pending]
  obtain ⟨schedule, hget, hstored⟩ :=
    Option.map_eq_some_iff.mp (InStep.settled hstep (not_pending hidle) id row hrow)
  exact ⟨schedule, hget, hstored.symm⟩

theorem keyed_of_reach (h : scheduleMachine.Reach Machine.Any s) : s.Keyed := by
  refine h.invariant ?_ ?_
  · rintro s ⟨-, hkeyed, -⟩
    exact hkeyed
  · intro s a s' _ hkeyed _ hs
    exact keyed_of_step hkeyed hs

theorem rowsInStep_of_reach (h : scheduleMachine.Reach SavesCurrent s) : s.RowsInStep := by
  refine h.invariant ?_ fun s a s' hreach hstep hcurrent hs =>
    (rowsInStep_iff_savesCurrent (keyed_of_reach hreach.any) hstep hs).mpr hcurrent
  rintro s ⟨hrows, -⟩ id row hrow
  obtain ⟨schedule, hget, hstored⟩ := hrows id row hrow
  exact ⟨row, Option.map_eq_some_iff.mpr ⟨schedule, hget, hstored.symm⟩, .inl rfl⟩

/-- **Schedules in memory and in the database agree** once every call has answered, in every run in
which what is saved is current or still to be overtaken; and a row gets out of step with any other
write. -/
theorem agrees_of_reach (s : ScheduleState) :
    (scheduleMachine.Reach SavesCurrent s → s.Agrees) ∧
      (scheduleMachine.Reach Machine.Any s → s.RowsInStep → ∀ a s',
        scheduleMachine.step s a = some s' → (s'.RowsInStep ↔ SavesCurrent s a)) :=
  ⟨fun hreach => agrees_of_rowsInStep (rowsInStep_of_reach hreach),
    fun hreach hstep _ _ hs => rowsInStep_iff_savesCurrent (keyed_of_reach hreach) hstep hs⟩

/-- A schedule of every hour that is due at 7200. -/
def hourly : JobSchedule where
  id := "hourly"
  operation := "health_check"
  timezone := "UTC"
  targetIds := [⟨⟨7⟩⟩]
  frequency := .everyMinutes 60
  enabled := true
  threshold := none
  policyId := none
  backupSecretRef := none
  lastRunAt := none
  nextRunAt := 3600000000000
  lastError := none

/-- The schedule in memory and in the database. -/
def hourlySaved : ScheduleState where
  schedules := (∅ : Table String JobSchedule).put "hourly" hourly
  rows := (∅ : Table String JobSchedule).put "hourly" hourly
  scheduler := none
  calls := ∅

theorem init_hourlySaved : scheduleMachine.init hourlySaved := by
  refine ⟨fun id row hrow => ?_, fun id schedule hget => ?_, rfl, rfl⟩
  · rcases Table.get_put_cases hrow with ⟨rfl, rfl⟩ | ⟨-, hnone⟩
    · exact ⟨hourly, Table.get_put_self _ _ _, by decide⟩
    · cases hnone
  · rcases Table.get_put_cases hget with ⟨rfl, rfl⟩ | ⟨-, hnone⟩
    · rfl
    · cases hnone

/-- The schedule is disabled when a tick has saved it. -/
def disableAfterTick : List ScheduleAction :=
  [.dispatchDueSchedules 0 7200000000000, .advanceScheduleAfterRun 0 none, .save 0,
    .setScheduleEnabled 1 "hourly" false, .save 1]

theorem agrees_disabled_after_tick :
    ∃ s ∈ scheduleMachine.exec SavesCurrent hourlySaved disableAfterTick,
      s.Agrees ∧ (s.rows.get "hourly").map (·.enabled) = some false := by
  have hrun : ∃ s ∈ scheduleMachine.exec SavesCurrent hourlySaved disableAfterTick,
      (s.rows.get "hourly").map (·.enabled) = some false := by
    decide +kernel
  obtain ⟨s, hexec, hrow⟩ := hrun
  exact ⟨s, hexec, (agrees_of_reach s).1 (.exec (.init init_hourlySaved) _ hexec), hrow⟩

/-- The schedule is disabled between the advance and the write of a tick. -/
def disableWithinTick : List ScheduleAction :=
  [.dispatchDueSchedules 0 7200000000000, .advanceScheduleAfterRun 0 none,
    .setScheduleEnabled 1 "hourly" false, .save 1, .save 0]

/-- **The disabled schedule is enabled in the database.** -/
theorem tick_undoes_disabling : ¬ ∀ s, scheduleMachine.Reach Machine.Any s → s.Agrees := by
  intro hall
  have hrun : ∃ s ∈ scheduleMachine.exec Machine.Any hourlySaved disableWithinTick,
      (∀ call ∈ s.calls.values, call = .answered) ∧
        (s.rows.get "hourly").map (·.enabled) = some true ∧
        (s.schedules.get "hourly").map (·.enabled) = some false := by
    decide +kernel
  obtain ⟨s, hexec, hanswered, hrow, hschedule⟩ := hrun
  obtain ⟨row, hget, henabled⟩ := Option.map_eq_some_iff.mp hrow
  obtain ⟨schedule, hmemory, hstored⟩ := hall s (.exec (.init init_hourlySaved) _ hexec)
    (fun n call hcall => hanswered call (Table.mem_values.mpr ⟨n, hcall⟩)) "hourly" row hget
  rw [hmemory, Option.map_some, Option.some.injEq] at hschedule
  rw [hstored] at henabled
  have hsame : schedule.enabled = true := henabled
  rw [hschedule] at hsame
  cases hsame

end Lxcup.WriteBack
