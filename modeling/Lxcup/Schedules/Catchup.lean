import Lxcup.Schedules.Advance
import Lxcup.WriteBack.Schedules

/-!
# Missed slots are caught up with one run

The slots of a schedule are those of a grid: its first slot, and from there on one every interval.
A tick runs what is due and advances it by the time that the tick began with.  Whatever happens
between the ticks and within them, the next slot stays on the grid, and the slots that have passed
are divided among the runs: every slot between two ticks falls to the one run after it.

The steps are those of the ticks, of the requests that enable schedules and of the invalidation of
secrets.  What is new here is a log of the runs, which no step reads.

## Main definitions

* `ScheduledRun`, `SlotState`, `slotMachine` — the steps with the log.
* `SlotChain` — the runs of a schedule, one after the other on its grid.
* `covering` — how many runs a slot falls to.

## Main results

* `SlotChain.covering_eq_one` — a slot that has passed falls to one run.
* `chained_of_reach` — the runs of every schedule are such a chain.
* `advance_on_grid` — the loop, and what follows for all ticks.
-/

namespace Lxcup.Schedules

open Lxcup.Lib Lxcup.Core Lxcup.WriteBack

/-- A run of a schedule: for which slot, and in a tick of which time. -/
structure ScheduledRun where
  scheduleId : String
  slot : Timestamp
  now : Timestamp
  deriving DecidableEq, Repr

/-- How many of the runs the slot falls to. -/
def covering (runs : List ScheduledRun) (slot : Timestamp) : Nat :=
  runs.countP fun run => run.slot ≤ slot && slot ≤ run.now

/-- The schedules, as they were in the beginning and as they are, and the runs so far. -/
structure SlotState where
  original : Table String JobSchedule
  state : ScheduleState
  runs : List ScheduledRun

/-- The runs of one schedule. -/
def SlotState.runsOf (s : SlotState) (id : String) : List ScheduledRun :=
  s.runs.filter fun run => run.scheduleId = id

/-- The run that a step finishes: that of the copy which the tick has made. -/
def finishedRun (s : ScheduleState) : ScheduleAction → Option ScheduledRun
  | .advanceScheduleAfterRun n _ =>
    match s.calls.get n with
    | some (.dispatching now (schedule :: _)) => some ⟨schedule.id, schedule.nextRunAt, now⟩
    | _ => none
  | _ => none

/-- The steps with the log. -/
def slotMachine : Machine SlotState ScheduleAction where
  init s := scheduleMachine.init s.state ∧ s.original = s.state.schedules ∧ s.runs = []
  step s action := (s.state.step action).map fun state =>
    { s with state, runs := s.runs ++ (finishedRun s.state action).toList }

/-! ### Chains of runs -/

/-- Runs from a first slot on, up to the next one that is due. -/
inductive SlotChain (interval first : Int) : List ScheduledRun → Timestamp → Prop
  | nil : SlotChain interval first [] first
  /-- The run has its slot, and the next one is the first after it. -/
  | snoc {runs : List ScheduledRun} {run : ScheduledRun} {k : Nat}
    (h : SlotChain interval first runs run.slot) (hdue : run.slot ≤ run.now)
    (hnext : FirstAfter interval run.slot run.now k) :
    SlotChain interval first (runs ++ [run]) (run.slot + k * interval)

/-- The slot is on the grid. -/
def OnGrid (interval first slot : Int) : Prop := ∃ m : Nat, slot = first + m * interval

variable {interval first : Int} {runs : List ScheduledRun} {next : Timestamp}

theorem OnGrid.add {slot : Int} (h : OnGrid interval first slot) (k : Nat) :
    OnGrid interval first (slot + k * interval) := by
  obtain ⟨m, rfl⟩ := h
  refine ⟨m + k, ?_⟩
  push_cast
  ring

theorem SlotChain.onGrid (h : SlotChain interval first runs next) :
    OnGrid interval first next ∧ ∀ run ∈ runs, OnGrid interval first run.slot := by
  induction h with
  | nil => exact ⟨⟨0, by simp⟩, fun _ hmem => absurd hmem List.not_mem_nil⟩
  | @snoc runs run k h hdue hnext ih =>
    refine ⟨ih.1.add k, fun other hmem => ?_⟩
    rcases List.mem_append.mp hmem with hold | hnew
    · exact ih.2 other hold
    · rw [List.mem_singleton.mp hnew]
      exact ih.1

/-- All runs are before the next slot. -/
theorem SlotChain.now_lt (h : SlotChain interval first runs next) :
    ∀ run ∈ runs, run.now < next := by
  induction h with
  | nil => exact fun _ hmem => absurd hmem List.not_mem_nil
  | @snoc runs run k h hdue hnext ih =>
    have hlater : run.now < run.slot + k * interval := (firstAfter_iff.mp hnext).2.1
    intro other hmem
    rcases List.mem_append.mp hmem with hold | hnew
    · exact ((ih other hold).trans_le hdue).trans hlater
    · rw [List.mem_singleton.mp hnew]
      exact hlater

/-- A slot that has not passed falls to no run. -/
theorem SlotChain.covering_eq_zero (h : SlotChain interval first runs next) {slot : Timestamp}
    (hnotPassed : next ≤ slot) : covering runs slot = 0 := by
  refine List.countP_eq_zero.mpr fun run hmem => ?_
  have hbefore := (h.now_lt run hmem).trans_le hnotPassed
  simp [hbefore]

/-- A slot of the grid that is later than a run is not before the first such slot. -/
theorem FirstAfter.le_of_onGrid (hpos : 0 < interval) {start now slot : Int} {k : Nat}
    (h : FirstAfter interval start now k) (hstart : OnGrid interval first start)
    (hslot : OnGrid interval first slot) (hdue : start ≤ now) (hlate : now < slot) :
    start + k * interval ≤ slot := by
  obtain ⟨i, rfl⟩ := hstart
  obtain ⟨j, rfl⟩ := hslot
  have hlt : i < j := by
    by_contra hle
    have hsteps : (j : Int) * interval ≤ (i : Int) * interval :=
      Int.mul_le_mul_of_nonneg_right (by omega) hpos.le
    omega
  obtain ⟨d, rfl⟩ : ∃ d, j = i + d := Nat.exists_eq_add_of_le hlt.le
  have hlater : first + ((i + d : Nat) : Int) * interval = first + i * interval + d * interval := by
    push_cast
    ring
  rw [hlater] at hlate ⊢
  have hleast : k ≤ d := h.2 ⟨by omega, hlate⟩
  have hsteps : (k : Int) * interval ≤ (d : Int) * interval :=
    Int.mul_le_mul_of_nonneg_right (by omega) hpos.le
  omega

/-- **A slot of the grid that has passed falls to one run.** -/
theorem SlotChain.covering_eq_one (hpos : 0 < interval) (h : SlotChain interval first runs next)
    {slot : Timestamp} (hgrid : OnGrid interval first slot) (hpassed : slot < next) :
    covering runs slot = 1 := by
  induction h with
  | nil =>
    obtain ⟨m, rfl⟩ := hgrid
    have hnonneg : 0 ≤ (m : Int) * interval := Int.mul_nonneg (Int.natCast_nonneg m) hpos.le
    have hpassed : first + (m : Int) * interval < first := hpassed
    omega
  | @snoc runs run k h hdue hnext ih =>
    have happend : covering (runs ++ [run]) slot = covering runs slot + covering [run] slot :=
      List.countP_append
    rw [happend]
    by_cases hearlier : slot < run.slot
    · have hnot : covering [run] slot = 0 := by
        simp [covering, hearlier]
      rw [ih hearlier, hnot]
    · -- the runs before are before the slot of this one
      have hslot : run.slot ≤ slot := not_lt.mp hearlier
      have hnone : covering runs slot = 0 := h.covering_eq_zero hslot
      have hcovered : slot ≤ run.now := by
        by_contra hlate
        have hnotPassed := hnext.le_of_onGrid hpos h.onGrid.1 hgrid hdue (not_le.mp hlate)
        exact absurd hpassed (not_lt.mpr hnotPassed)
      have hone : covering [run] slot = 1 := by
        simp [covering, hslot, hcovered]
      rw [hnone, hone]

/-! ### Ticks -/

variable {s s' : ScheduleState} {n : Nat} {call : ScheduleCall} {now : Timestamp}
  {due : List JobSchedule}

/-- What is left of a tick: schedules that are due, in copies whose slots are those in memory. -/
structure Listed (s : ScheduleState) (now : Timestamp) (due : List JobSchedule) : Prop where
  nodup : (due.map (·.id)).Nodup
  current : ∀ copy ∈ due, copy.nextRunAt ≤ now ∧ ∃ schedule,
    s.schedules.get copy.id = some schedule ∧ schedule.nextRunAt = copy.nextRunAt

/-- The time of a tick, and the schedules that it has still to run. -/
def tickOf : ScheduleCall → Option (Timestamp × List JobSchedule)
  | .dispatching now due | .advanced now _ due => some (now, due)
  | .saving _ | .answered => none

/-- There is one tick at a time, and what it has listed is due and not yet advanced. -/
structure TickInOrder (s : ScheduleState) : Prop where
  owner : ∀ n call tick, s.calls.get n = some call → tickOf call = some tick → s.scheduler = some n
  listed : ∀ n call now due, s.calls.get n = some call → tickOf call = some (now, due) →
    Listed s now due

/-- The slots of a schedule. -/
def slotOf (schedule : JobSchedule) : Timestamp × ScheduleFrequency :=
  (schedule.nextRunAt, schedule.frequency)

/-- A step that leaves the slots of all schedules alone. -/
def KeepsSlots (s s' : ScheduleState) : Prop :=
  ∀ id, (s'.schedules.get id).map slotOf = (s.schedules.get id).map slotOf

theorem keepsSlots_of_eq (h : s'.schedules = s.schedules) : KeepsSlots s s' := by
  intro id
  rw [h]

theorem KeepsSlots.listed (h : KeepsSlots s s') (hlisted : Listed s now due) :
    Listed s' now due where
  nodup := hlisted.nodup
  current copy hmem := by
    obtain ⟨hdue, schedule, hget, hslot⟩ := hlisted.current copy hmem
    have hsame := h copy.id
    rw [hget, Option.map_some] at hsame
    obtain ⟨schedule', hget', hslot'⟩ := Option.map_eq_some_iff.mp hsame
    exact ⟨hdue, schedule', hget', (congrArg Prod.fst hslot').trans hslot⟩

theorem Listed.tail {copy : JobSchedule} (h : Listed s now (copy :: due)) : Listed s now due where
  nodup := (List.nodup_cons.mp h.nodup).2
  current other hmem := h.current other (List.mem_cons_of_mem _ hmem)

/-- The schedules that are due when a tick begins. -/
theorem listed_dueSchedules (h : s.Keyed) (now : Timestamp) :
    Listed s now (s.schedules.values.filter (·.isDue now)) where
  nodup := (Table.nodup_map_values h).sublist (List.filter_sublist.map _)
  current copy hmem := by
    obtain ⟨hvalue, hisDue⟩ := List.mem_filter.mp hmem
    obtain ⟨id, hget⟩ := Table.mem_values.mp hvalue
    have hid : copy.id = id := h id copy hget
    have hdue : copy.nextRunAt ≤ now := by
      simp only [JobSchedule.isDue, Bool.and_eq_true, decide_eq_true_eq] at hisDue
      exact hisDue.2
    exact ⟨hdue, copy, by rw [hid]; exact hget, rfl⟩

/-- A schedule that has run is listed once, so that the rest does not see where it is now. -/
theorem Listed.put_head {copy schedule : JobSchedule} (h : Listed s now (copy :: due))
    (hschedules : s'.schedules = s.schedules.put copy.id schedule) : Listed s' now due where
  nodup := h.tail.nodup
  current other hmem := by
    have hne : other.id ≠ copy.id := by
      intro heq
      have hother : other.id ∈ due.map (·.id) := List.mem_map_of_mem hmem
      rw [heq] at hother
      exact (List.nodup_cons.mp h.nodup).1 hother
    rw [hschedules, Table.get_put_ne _ _ hne]
    exact h.tail.current other hmem

/-- A call goes on, and the others stay as they are. -/
theorem TickInOrder.put (hcalls : s'.calls = s.calls.put n call)
    (hown : ∀ now due, tickOf call = some (now, due) → s'.scheduler = some n ∧ Listed s' now due)
    (hothers : ∀ m other now due, m ≠ n → s.calls.get m = some other →
      tickOf other = some (now, due) → s'.scheduler = some m ∧ Listed s' now due) :
    TickInOrder s' := by
  have hboth : ∀ m other now due, s'.calls.get m = some other → tickOf other = some (now, due) →
      s'.scheduler = some m ∧ Listed s' now due := by
    intro m other now due hget htick
    rw [hcalls] at hget
    rcases Table.get_put_cases hget with ⟨rfl, rfl⟩ | ⟨hne, hold⟩
    · exact hown now due htick
    · exact hothers m other now due hne hold htick
  exact ⟨fun m other tick hget htick => (hboth m other tick.1 tick.2 hget htick).1,
    fun m other now due hget htick => (hboth m other now due hget htick).2⟩

/-- A call that is no tick goes on. -/
theorem TickInOrder.keep (h : TickInOrder s) (hcalls : s'.calls = s.calls.put n call)
    (hcall : tickOf call = none) (hscheduler : s'.scheduler = s.scheduler)
    (hslots : KeepsSlots s s') : TickInOrder s' := by
  refine .put hcalls (fun now due htick => ?_) fun m other now due _ hget htick => ⟨?_, ?_⟩
  · rw [hcall] at htick
    cases htick
  · rw [hscheduler, h.owner m other _ hget htick]
  · exact hslots.listed (h.listed m other now due hget htick)

/-- Who has the lock is the only tick. -/
theorem TickInOrder.others (h : TickInOrder s) (hscheduler : s.scheduler = some n) {m : Nat}
    {other : ScheduleCall} {tick : Timestamp × List JobSchedule} (hne : m ≠ n)
    (hget : s.calls.get m = some other) : tickOf other ≠ some tick := by
  intro htick
  have howner := h.owner m other tick hget htick
  rw [hscheduler] at howner
  exact hne (Option.some.inj howner).symm

theorem tickInOrder_enterDispatching (hscheduler : s.scheduler = some n)
    (hothers : ∀ m other tick, m ≠ n → s.calls.get m = some other → tickOf other ≠ some tick)
    (hlisted : Listed s now due) : TickInOrder (s.enterDispatching n now due) := by
  unfold ScheduleState.enterDispatching
  split
  · exact .put rfl nofun fun m other now due hne hget htick =>
      absurd htick (hothers m other _ hne hget)
  · refine @TickInOrder.put _ _ _ (.dispatching now due) rfl (fun now' due' htick => ?_)
      fun m other now due hne hget htick => absurd htick (hothers m other _ hne hget)
    cases htick
    exact ⟨hscheduler, hlisted.nodup, hlisted.current⟩

theorem schedules_enterDispatching :
    (s.enterDispatching n now due).schedules = s.schedules := by
  obtain ⟨call, -, -, hschedules, -⟩ := enterDispatching_spec s n now due
  exact hschedules

theorem tickOf_enterSaving (schedules : List JobSchedule) :
    tickOf (if schedules = [] then .answered else .saving schedules) = none := by
  split <;> rfl

/-- Everything a step does to the slots. -/
inductive SlotStep (s : ScheduleState) : Option ScheduledRun → ScheduleState → Prop
  | keep {s' : ScheduleState} (hslots : KeepsSlots s s') : SlotStep s none s'
  | advance {s' : ScheduleState} {copy schedule : JobSchedule} {now : Timestamp}
    {failure : Option String} (hget : s.schedules.get copy.id = some schedule)
    (hslot : schedule.nextRunAt = copy.nextRunAt) (hdue : copy.nextRunAt ≤ now)
    (hschedules : s'.schedules = s.schedules.put copy.id (schedule.advanceAfterRun now failure)) :
    SlotStep s (some ⟨copy.id, copy.nextRunAt, now⟩) s'

theorem keepsSlots_setScheduleEnabled (id : String) (enabled : Bool) :
    KeepsSlots s (s.setScheduleEnabled n id enabled) := by
  intro other
  unfold ScheduleState.setScheduleEnabled
  cases hget : s.schedules.get id with
  | none => rfl
  | some schedule =>
    show ((s.schedules.put id { schedule with enabled := enabled }).get other).map slotOf = _
    rw [Table.get_put]
    split
    · rename_i heq
      rw [heq, hget]
      rfl
    · rfl

theorem calls_setScheduleEnabled (id : String) (enabled : Bool) :
    ∃ call, tickOf call = none ∧ (s.setScheduleEnabled n id enabled).calls = s.calls.put n call ∧
      (s.setScheduleEnabled n id enabled).scheduler = s.scheduler := by
  unfold ScheduleState.setScheduleEnabled
  cases s.schedules.get id with
  | none => exact ⟨.answered, rfl, rfl, rfl⟩
  | some schedule => exact ⟨.saving [{ schedule with enabled := enabled }], rfl, rfl, rfl⟩

theorem keepsSlots_disableSchedulesForTargets (ids : List TargetId) :
    KeepsSlots s (s.disableSchedulesForTargets n ids) := by
  intro id
  show ((s.schedules.mapValues _).get id).map slotOf = _
  rw [Table.get_mapValues, Option.map_map]
  congr 1
  funext schedule
  simp only [Function.comp_apply]
  split <;> rfl

/-- **What a step does**, from a state that is in order to another one. -/
theorem slotStep_of_step {action : ScheduleAction} (hkeyed : s.Keyed) (h : TickInOrder s)
    (hs : s.step action = some s') : TickInOrder s' ∧ SlotStep s (finishedRun s action) s' := by
  cases action with
  | setScheduleEnabled n id enabled =>
    obtain ⟨-, hs⟩ := Option.ite_none_right_eq_some.mp hs
    cases hs
    have hslots : KeepsSlots s (s.setScheduleEnabled n id enabled) :=
      keepsSlots_setScheduleEnabled id enabled
    obtain ⟨call, hcall, hcalls, hscheduler⟩ :=
      calls_setScheduleEnabled (s := s) (n := n) id enabled
    exact ⟨h.keep hcalls hcall hscheduler hslots, .keep hslots⟩
  | disableSchedulesForTargets n ids =>
    obtain ⟨-, hs⟩ := Option.ite_none_right_eq_some.mp hs
    cases hs
    have hslots : KeepsSlots s (s.disableSchedulesForTargets n ids) :=
      keepsSlots_disableSchedulesForTargets ids
    exact ⟨h.keep rfl (tickOf_enterSaving _) rfl hslots, .keep hslots⟩
  | dispatchDueSchedules n now =>
    obtain ⟨-, hs⟩ := Option.ite_none_right_eq_some.mp hs
    obtain ⟨hfree, hs⟩ := Option.ite_none_right_eq_some.mp hs
    cases hs
    refine ⟨tickInOrder_enterDispatching rfl (fun m other tick _ hget htick => ?_) ?_,
      .keep (keepsSlots_of_eq schedules_enterDispatching)⟩
    · have howner := h.owner m other tick hget htick
      rw [hfree] at howner
      cases howner
    · have hlisted := listed_dueSchedules hkeyed now
      exact ⟨hlisted.nodup, hlisted.current⟩
  | wait n =>
    simp only [ScheduleState.step] at hs
    split at hs
    · rename_i now copy due hcall
      cases hs
      have hscheduler := h.owner n _ _ hcall rfl
      exact ⟨tickInOrder_enterDispatching hscheduler
        (fun m other tick hne hget => h.others hscheduler hne hget)
        (h.listed n _ now _ hcall rfl).tail,
        .keep (keepsSlots_of_eq schedules_enterDispatching)⟩
    · cases hs
  | advanceScheduleAfterRun n failure =>
    simp only [ScheduleState.step] at hs
    split at hs
    · rename_i now copy due hcall
      cases hs
      have hscheduler := h.owner n _ _ hcall rfl
      have hlisted := h.listed n _ now _ hcall rfl
      obtain ⟨hdue, schedule, hget, hslot⟩ := hlisted.current copy List.mem_cons_self
      have hrun : finishedRun s (.advanceScheduleAfterRun n failure)
          = some ⟨copy.id, copy.nextRunAt, now⟩ := by
        simp only [finishedRun, hcall]
      rw [hrun]
      unfold ScheduleState.advanceScheduleAfterRun
      rw [hget]
      refine ⟨@TickInOrder.put _ _ _
        (.advanced now (schedule.advanceAfterRun now failure) due) rfl
        (fun now' due' htick => ?_) fun m other now' due' hne hgetOther htick => ?_,
        .advance hget hslot hdue rfl⟩
      · cases htick
        exact ⟨hscheduler, hlisted.put_head rfl⟩
      · exact absurd htick (h.others hscheduler hne hgetOther)
    · cases hs
  | save n =>
    simp only [ScheduleState.step] at hs
    split at hs
    · cases hs
      exact ⟨h.keep rfl (tickOf_enterSaving _) rfl (keepsSlots_of_eq rfl),
        .keep (keepsSlots_of_eq rfl)⟩
    · rename_i now schedule due hcall
      cases hs
      have hscheduler := h.owner n _ _ hcall rfl
      have hlisted := h.listed n _ now due hcall rfl
      refine ⟨tickInOrder_enterDispatching hscheduler
        (fun m other tick hne hget => h.others hscheduler hne hget)
        ⟨hlisted.nodup, hlisted.current⟩,
        .keep (keepsSlots_of_eq schedules_enterDispatching)⟩
    · cases hs

/-! ### Runs -/

/-- The runs of a schedule are a chain from its first slot to its next one. -/
def Chained (t : SlotState) : Prop :=
  ∀ id schedule, t.state.schedules.get id = some schedule → ∃ first,
    t.original.get id = some first ∧ first.frequency = schedule.frequency ∧
      SlotChain schedule.frequency.interval first.nextRunAt (t.runsOf id) schedule.nextRunAt

variable {t : SlotState}

theorem chained_of_step {run : Option ScheduledRun} (h : Chained t) (hs : SlotStep t.state run s') :
    Chained { t with state := s', runs := t.runs ++ run.toList } := by
  intro id schedule' hget'
  cases hs with
  | keep hslots =>
    have hsame := hslots id
    rw [show s'.schedules.get id = some schedule' from hget', Option.map_some] at hsame
    obtain ⟨schedule, hget, hslot⟩ := Option.map_eq_some_iff.mp hsame.symm
    obtain ⟨hnext, hfrequency⟩ := Prod.mk.inj hslot
    obtain ⟨first, hfirst, hsameFrequency, hchain⟩ := h id schedule hget
    refine ⟨first, hfirst, hsameFrequency.trans hfrequency, ?_⟩
    rw [← hfrequency, ← hnext]
    simpa [SlotState.runsOf] using hchain
  | @advance _ copy schedule now failure hget hslot hdue hschedules =>
    have hput : (t.state.schedules.put copy.id (schedule.advanceAfterRun now failure)).get id
        = some schedule' := hschedules ▸ hget'
    rcases Table.get_put_cases hput with ⟨rfl, rfl⟩ | ⟨hne, hold⟩
    · obtain ⟨first, hfirst, hfrequency, hchain⟩ := h copy.id schedule hget
      refine ⟨first, hfirst, hfrequency, ?_⟩
      obtain ⟨k, hk⟩ := exists_firstAfter schedule.frequency.interval_pos schedule.nextRunAt now
      have hruns : SlotState.runsOf { t with
          state := s', runs := t.runs ++ [⟨copy.id, copy.nextRunAt, now⟩] } copy.id
          = t.runsOf copy.id ++ [⟨copy.id, copy.nextRunAt, now⟩] := by
        simp [SlotState.runsOf]
      show SlotChain schedule.frequency.interval first.nextRunAt (SlotState.runsOf _ copy.id) _
      rw [nextRunAt_advanceAfterRun hk]
      rw [hslot] at hk hchain ⊢
      exact hruns ▸ @SlotChain.snoc _ _ _ ⟨copy.id, copy.nextRunAt, now⟩ k hchain hdue hk
    · obtain ⟨first, hfirst, hfrequency, hchain⟩ := h id schedule' hold
      refine ⟨first, hfirst, hfrequency, ?_⟩
      simpa [SlotState.runsOf, Ne.symm hne] using hchain

/-- **The runs of every schedule are a chain on its grid**, in every run of the steps. -/
theorem chained_of_reach (h : slotMachine.Reach Machine.Any t) :
    t.state.Keyed ∧ TickInOrder t.state ∧ Chained t := by
  refine h.invariant (I := fun t => t.state.Keyed ∧ TickInOrder t.state ∧ Chained t) ?_ ?_
  · rintro t ⟨⟨-, hkeyed, -, hcalls⟩, horiginal, hruns⟩
    refine ⟨hkeyed, ⟨?_, ?_⟩, fun id schedule hget => ⟨schedule, ?_, rfl, ?_⟩⟩
    · intro n call tick hget
      rw [hcalls, Table.get_empty] at hget
      cases hget
    · intro n call now due hget
      rw [hcalls, Table.get_empty] at hget
      cases hget
    · rw [horiginal, hget]
    · have hnone : t.runsOf id = [] := by
        rw [SlotState.runsOf, hruns]
        rfl
      rw [hnone]
      exact .nil
  · rintro t action t' - ⟨hkeyed, hticks, hchained⟩ - hs
    obtain ⟨s', hstep, rfl⟩ := Option.map_eq_some_iff.mp hs
    obtain ⟨hticks', hslots⟩ := slotStep_of_step hkeyed hticks hstep
    exact ⟨keyed_of_step hkeyed hstep, hticks', chained_of_step hchained hslots⟩

/-- **The loop ends with the first slot of the grid after the run**, and the schedule is not due
then.  Whatever happens in and between the ticks, every slot is on the grid of its schedule, and
every slot of the grid that has passed falls to one run. -/
theorem advance_on_grid :
    (∀ (schedule : JobSchedule) (now : Timestamp) (error : Option String), ∃ k : Nat,
      IsLeast {k : Nat | 1 ≤ k ∧ now < schedule.nextRunAt + k * schedule.frequency.interval} k ∧
      (schedule.nextRunAt + k * schedule.frequency.interval ≤ maxUtc → ∃ enough, ∀ turns,
        enough ≤ turns → advanceSlot schedule now turns
          = .finished (schedule.nextRunAt + k * schedule.frequency.interval)) ∧
      (schedule.advanceAfterRun now error).nextRunAt
        = schedule.nextRunAt + k * schedule.frequency.interval ∧
      (schedule.advanceAfterRun now error).isDue now = false) ∧
    (∀ t, slotMachine.Reach Machine.Any t → ∀ id schedule,
      t.state.schedules.get id = some schedule → ∃ first, t.original.get id = some first ∧
        first.frequency = schedule.frequency ∧
        OnGrid first.frequency.interval first.nextRunAt schedule.nextRunAt ∧
        (∀ run ∈ t.runsOf id, OnGrid first.frequency.interval first.nextRunAt run.slot) ∧
        ∀ slot, OnGrid first.frequency.interval first.nextRunAt slot →
          covering (t.runsOf id) slot = if slot < schedule.nextRunAt then 1 else 0) := by
  constructor
  · intro schedule now error
    obtain ⟨k, hk⟩ := exists_firstAfter schedule.frequency.interval_pos schedule.nextRunAt now
    exact ⟨k, hk, fun hbound => ⟨k, fun turns hturns => advanceSlot_finished hk hbound hturns⟩,
      nextRunAt_advanceAfterRun hk, schedule.advanceAfterRun_not_due now error⟩
  · intro t hreach id schedule hget
    obtain ⟨first, hfirst, hfrequency, hchain⟩ := (chained_of_reach hreach).2.2 id schedule hget
    rw [← hfrequency] at hchain
    refine ⟨first, hfirst, hfrequency, hchain.onGrid.1, hchain.onGrid.2, fun slot hslot => ?_⟩
    split
    · rename_i hpassed
      exact hchain.covering_eq_one first.frequency.interval_pos hslot hpassed
    · rename_i hnotPassed
      exact hchain.covering_eq_zero (not_lt.mp hnotPassed)

end Lxcup.Schedules
