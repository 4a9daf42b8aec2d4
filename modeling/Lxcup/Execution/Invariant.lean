import Lxcup.Execution.Coordinator

/-!
# What the coordinator of executions keeps in step

Five collections describe an execution: the execution itself, its plan, its event log, the key
it was started under and the audit log.  The invariant says how the first four agree; it is
shown for one move, then for the sequences of moves that calls are, then for all runs.

## Main definitions

* `LogAgrees` — an execution and its event log tell the same story.
* `ExecutionCoordinator.Coherent` — the invariant.
* `FinalStays` — terminal executions keep their status, whatever is called.

## Main results

* `LogAgrees.transition` — a change of status, recorded, keeps execution and log in agreement.
* `ExecutionCoordinator.Coherent.move` — a move keeps the invariant.
* `ExecutionCoordinator.Move.terminal` — a move leaves terminal executions alone.
* `coherent_and_final` — both, for every run of calls from the default coordinator.
-/

namespace Lxcup.Execution

open Lxcup.Lib Lxcup.Core

/-! ### An execution and its log -/

/-- The log is numbered from one, its last entry names the status of the execution, and the times
of the execution are there exactly when the log or the status says so. -/
structure LogAgrees (execution : Execution) (events : List ExecutionEvent) : Prop where
  numbered : events.map (·.sequence) = List.range' 1 events.length
  last : (events.getLast?).map (·.eventType) = some execution.status.name
  finished : execution.finishedAt.isSome = execution.status.terminal
  started : execution.startedAt.isSome = true ↔
    ∃ event ∈ events, event.eventType = ExecutionStatus.running.name

/-- The log of a new execution. -/
theorem LogAgrees.new (planId : UpdatePlanId) (newId : ExecutionId) (message : String)
    (now : Timestamp) : LogAgrees (.new planId newId) [⟨1, "queued", message, now⟩] where
  numbered := rfl
  last := rfl
  finished := rfl
  started := by
    constructor
    · intro h
      cases h
    · rintro ⟨event, hevent, hname⟩
      cases List.mem_singleton.mp hevent
      have hother : ("queued" : String) ≠ ExecutionStatus.running.name := by decide
      exact absurd hname hother

/-- **A change of status, recorded under its name, keeps execution and log in agreement.** -/
theorem LogAgrees.transition {execution execution' : Execution} {events : List ExecutionEvent}
    {next : ExecutionStatus} {now : Timestamp} (h : LogAgrees execution events)
    (edge : execution.transitionTo next now = .ok execution') (message : String) :
    LogAgrees execution' (events ++ [⟨events.length + 1, next.name, message, now⟩]) := by
  obtain ⟨hedge, hstatus, -, -, hstarted, hfinished⟩ := Execution.transitionTo_ok edge
  have hopen := ExecutionStatus.not_terminal_of_canTransitionTo hedge
  constructor
  · rw [List.map_append, h.numbered, List.length_append, List.length_singleton,
      List.range'_concat]
    simp [Nat.add_comm]
  · simp [hstatus]
  · -- an unfinished execution had no time of its end before
    have hnone : execution.finishedAt = none := by
      rw [← Option.not_isSome_iff_eq_none, h.finished, hopen]
      simp
    rw [hfinished, hstatus, hnone]
    cases next.terminal <;> rfl
  · rw [hstarted]
    by_cases hnext : next = .running
    · have hthere : ∃ event ∈ events ++ [⟨events.length + 1, next.name, message, now⟩],
          event.eventType = ExecutionStatus.running.name :=
        ⟨_, List.mem_append_right _ (List.mem_singleton_self _), by rw [hnext]⟩
      refine ⟨fun _ => hthere, fun _ => ?_⟩
      cases hbefore : execution.startedAt with
      | none => simp [hnext]
      | some time => simp
    · rw [if_neg (fun hboth => hnext hboth.1), h.started]
      constructor
      · rintro ⟨event, hevent, hname⟩
        exact ⟨event, List.mem_append_left _ hevent, hname⟩
      · rintro ⟨event, hevent, hname⟩
        rcases List.mem_append.mp hevent with hevent | hevent
        · exact ⟨event, hevent, hname⟩
        · cases List.mem_singleton.mp hevent
          exact absurd (ExecutionStatus.name_injective hname) hnext

/-! ### The invariant -/

namespace ExecutionCoordinator

/-- The invariant of the coordinator. -/
structure Coherent (c : ExecutionCoordinator) : Prop where
  /-- An idempotency key leads to an execution. -/
  keyed : ∀ key id, c.idempotency.get key = some id → (c.executions.get id).isSome = true
  /-- The executions and the plans have the same keys. -/
  planned : ∀ id, (c.executions.get id).isSome = (c.plans.get id).isSome
  /-- The executions and the event logs have the same keys. -/
  logged : ∀ id, (c.executions.get id).isSome = (c.events.get id).isSome
  /-- An execution is stored under its own id and is one of the stored plan. -/
  named : ∀ id execution plan, c.executions.get id = some execution →
    c.plans.get id = some plan → execution.id = id ∧ execution.planId = plan.id
  /-- An execution agrees with its event log. -/
  agrees : ∀ id execution, c.executions.get id = some execution →
    LogAgrees execution (c.eventsOf id)

theorem coherent_default : Coherent .default where
  keyed key id h := by simp [default] at h
  planned id := by simp [default]
  logged id := by simp [default]
  named id execution plan h := by simp [default] at h
  agrees id execution h := by simp [default] at h

variable {c c' : ExecutionCoordinator} {id other : ExecutionId}

theorem eventsOf_appendEvent (eventType message : String) (now : Timestamp) :
    (c.appendEvent id eventType message now).eventsOf other =
      if other = id then
        c.eventsOf id ++ [⟨(c.eventsOf id).length + 1, eventType, message, now⟩]
      else c.eventsOf other := by
  simp only [appendEvent, eventsOf, Table.get_put]
  split <;> rfl

theorem isSome_events_appendEvent (eventType message : String) (now : Timestamp) :
    ((c.appendEvent id eventType message now).events.get other).isSome =
      (decide (other = id) || (c.events.get other).isSome) := by
  simp only [appendEvent, Table.get_put]
  by_cases hother : other = id <;> simp [hother]

/-- An execution that is not known has no events. -/
theorem Coherent.eventsOf_fresh (h : Coherent c) (fresh : c.executions.get id = none) :
    c.eventsOf id = [] := by
  have hnone : c.events.get id = none := by
    rw [← Option.not_isSome_iff_eq_none, ← h.logged id, fresh]
    simp
  simp [eventsOf, hnone]

/-- An execution is stored under its own id. -/
theorem Coherent.id_eq (h : Coherent c) {execution : Execution}
    (found : c.executions.get id = some execution) : execution.id = id := by
  have hplan := h.planned id
  rw [found, Option.isSome_some] at hplan
  obtain ⟨plan, hplan⟩ := Option.isSome_iff_exists.mp hplan.symm
  exact (h.named id execution plan found hplan).1

/-- A new execution is kept in step by `enqueue`. -/
theorem Coherent.enqueue (h : Coherent c) (plan : UpdatePlan) (actor key : String)
    (now : Timestamp) (fresh : c.executions.get id = none) :
    Coherent (c.enqueue plan actor key id now) := by
  have hevents := h.eventsOf_fresh fresh
  constructor
  · intro key' known hknown
    simp only [ExecutionCoordinator.enqueue, appendEvent, Table.get_put] at hknown ⊢
    by_cases hid : known = id
    · simp [hid]
    · rw [if_neg hid]
      split at hknown
      case isTrue => exact absurd (Option.some.inj hknown).symm hid
      case isFalse => exact h.keyed _ _ hknown
  · intro other
    simp only [ExecutionCoordinator.enqueue, appendEvent, Table.get_put]
    split
    case isTrue => rfl
    case isFalse => exact h.planned other
  · intro other
    simp only [ExecutionCoordinator.enqueue, isSome_events_appendEvent]
    simp only [appendEvent, Table.get_put]
    by_cases hother : other = id
    · simp [hother]
    · simpa [hother] using h.logged other
  · intro other execution plan' hexecution hplan
    simp only [ExecutionCoordinator.enqueue, appendEvent, Table.get_put] at hexecution hplan
    by_cases hother : other = id
    · simp only [if_pos hother, Option.some.injEq] at hexecution hplan
      rw [← hexecution, ← hplan, hother]
      exact ⟨rfl, rfl⟩
    · rw [if_neg hother] at hexecution hplan
      exact h.named _ _ _ hexecution hplan
  · intro other execution hexecution
    have hlog : (c.enqueue plan actor key id now).eventsOf other =
        if other = id then [⟨1, "queued", "execution queued", now⟩] else c.eventsOf other := by
      have happend := @eventsOf_appendEvent
        { c with
          idempotency := c.idempotency.put key id
          plans := c.plans.put id plan
          executions := c.executions.put id (.new plan.id id) }
        id other "queued" "execution queued" now
      have hsame : ∀ known, eventsOf
          { c with
            idempotency := c.idempotency.put key id
            plans := c.plans.put id plan
            executions := c.executions.put id (.new plan.id id) } known = c.eventsOf known :=
        fun _ => rfl
      rw [hsame, hsame, hevents] at happend
      exact happend
    simp only [ExecutionCoordinator.enqueue, appendEvent, Table.get_put] at hexecution
    rw [hlog]
    by_cases hother : other = id
    · rw [if_pos hother] at hexecution ⊢
      rw [← Option.some.inj hexecution]
      exact .new _ _ _ _
    · rw [if_neg hother] at hexecution ⊢
      exact h.agrees _ _ hexecution

/-- A recorded change of status keeps everything in step. -/
theorem Coherent.transition {execution execution' : Execution} {next : ExecutionStatus}
    {now : Timestamp} (h : Coherent c) (found : c.executions.get id = some execution)
    (edge : execution.transitionTo next now = .ok execution') (message : String) :
    Coherent (({ c with executions := c.executions.put id execution' }).appendEvent id next.name
      message now) := by
  obtain ⟨-, -, hid, hplanId, -, -⟩ := Execution.transitionTo_ok edge
  have hkeys : ∀ other, ((c.executions.put id execution').get other).isSome =
      (c.executions.get other).isSome := by
    intro other
    rw [Table.get_put]
    split
    case isTrue hother => rw [hother, found]; rfl
    case isFalse => rfl
  constructor
  · intro key known hknown
    simp only [appendEvent] at hknown ⊢
    rw [hkeys]
    exact h.keyed _ _ hknown
  · intro other
    simp only [appendEvent]
    rw [hkeys]
    exact h.planned other
  · intro other
    rw [isSome_events_appendEvent]
    simp only [appendEvent]
    rw [hkeys, h.logged other]
    by_cases hother : other = id
    · rw [hother, ← h.logged id, found]
      simp
    · simp [hother]
  · intro other moved plan hmoved hplan
    simp only [appendEvent, Table.get_put] at hmoved hplan
    by_cases hother : other = id
    · rw [if_pos hother] at hmoved
      obtain rfl := Option.some.inj hmoved
      rw [hother] at hplan
      obtain ⟨hnamed, hof⟩ := h.named _ _ _ found hplan
      exact ⟨by rw [hid, hnamed, hother], by rw [hplanId, hof]⟩
    · rw [if_neg hother] at hmoved
      exact h.named _ _ _ hmoved hplan
  · intro other moved hmoved
    rw [eventsOf_appendEvent]
    simp only [appendEvent, Table.get_put] at hmoved
    by_cases hother : other = id
    · rw [if_pos hother] at hmoved ⊢
      obtain rfl := Option.some.inj hmoved
      exact (h.agrees _ _ found).transition edge message
    · rw [if_neg hother] at hmoved ⊢
      exact h.agrees _ _ hmoved

/-- **A move keeps the invariant.** -/
theorem Coherent.move (h : Coherent c) (hmove : Move c c') : Coherent c' := by
  cases hmove with
  | queued unused fresh => exact h.enqueue _ _ _ _ fresh
  | moved found edge => exact h.transition found edge _

theorem Coherent.moves (h : Coherent c) (hmoves : Relation.ReflTransGen Move c c') :
    Coherent c' := by
  induction hmoves with
  | refl => exact h
  | tail _ hmove ih => exact ih.move hmove

/-- **A move leaves terminal executions alone.** -/
theorem Move.terminal {execution : Execution} (hmove : Move c c')
    (found : c.executions.get id = some execution) (hterminal : execution.status.terminal = true) :
    c'.executions.get id = some execution := by
  cases hmove with
  | @queued plan actor key newId now unused fresh =>
    have hne : id ≠ newId := by
      rintro rfl
      rw [fresh] at found
      cases found
    simpa [enqueue, appendEvent, Table.get_put, hne] using found
  | @moved moved before after next message now hfound edge =>
    by_cases hid : id = moved
    · -- no edge leaves a terminal status
      subst hid
      obtain rfl : execution = before := Option.some.inj (found.symm.trans hfound)
      have hopen := ExecutionStatus.not_terminal_of_canTransitionTo
        (Execution.transitionTo_ok edge).1
      rw [hterminal] at hopen
      cases hopen
    · simpa [appendEvent, Table.get_put, hid] using found

theorem moves_terminal {execution : Execution} (hmoves : Relation.ReflTransGen Move c c')
    (found : c.executions.get id = some execution) (hterminal : execution.status.terminal = true) :
    c'.executions.get id = some execution := by
  induction hmoves with
  | refl => exact found
  | tail _ hmove ih => exact hmove.terminal ih hterminal

end ExecutionCoordinator

/-! ### Runs -/

open ExecutionCoordinator

variable {digest : CanonicalPlan → String} {c c' : ExecutionCoordinator}

theorem moves_of_step {call : ExecutionCall} (h : (executionMachine digest).step c call = some c') :
    Relation.ReflTransGen Move c c' := by
  simp only [executionMachine] at h
  split at h
  case isTrue hfresh =>
    rw [← Option.some.inj h]
    exact ExecutionCall.moves_apply hfresh
  case isFalse => cases h

/-- Whatever is called from here on, an execution that is terminal now keeps its status. -/
def FinalStays (digest : CanonicalPlan → String) (c : ExecutionCoordinator) : Prop :=
  ∀ calls c', (executionMachine digest).exec Machine.Any c calls = some c' →
    ∀ id execution, c.executions.get id = some execution → execution.status.terminal = true →
      ∃ execution', c'.executions.get id = some execution' ∧ execution'.status = execution.status

theorem moves_of_exec {calls : List ExecutionCall}
    (h : (executionMachine digest).exec Machine.Any c calls = some c') :
    Relation.ReflTransGen Move c c' := by
  induction calls generalizing c with
  | nil =>
    simp only [Machine.exec, Option.some.injEq] at h
    exact h ▸ .refl
  | cons call calls ih =>
    simp only [Machine.exec, Machine.Any] at h
    obtain ⟨c₁, hstep, hrest⟩ := Option.bind_eq_some_iff.mp h
    exact (moves_of_step hstep).trans (ih hrest)

/-- **The invariant of the coordinator**, after every sequence of calls: the collections are in step
and a terminal status never changes again. -/
theorem coherent_and_final (h : (executionMachine digest).Reach Machine.Any c) :
    c.Coherent ∧ FinalStays digest c := by
  constructor
  · refine h.invariant (I := Coherent) ?_ ?_
    · rintro c rfl
      exact coherent_default
    · intro c call c' _ hcoherent _ hstep
      exact hcoherent.moves (moves_of_step hstep)
  · intro calls c' hexec id execution found hterminal
    exact ⟨execution, moves_terminal (moves_of_exec hexec) found hterminal, rfl⟩

/-- It is started, begun and lost; then its success is observed, and aborting comes too late. -/
def lostAndFound : List ExecutionCall :=
  [.start ⟨opensslPlan, .ofPlan opensslPlan, "api", "key"⟩ ⟨⟨2⟩⟩ 10, .begin ⟨⟨2⟩⟩ 20,
    .markConnectionLost ⟨⟨2⟩⟩ 30, .reconcile ⟨⟨2⟩⟩ .succeeded 40, .abort ⟨⟨2⟩⟩ 50]

theorem coherent_lostAndFound :
    ∃ c, (executionMachine opensslDigest).Reach Machine.Any c ∧
      ((c.executions.get ⟨⟨2⟩⟩).map (·.status)) = some .succeeded ∧
      c.Coherent ∧ FinalStays opensslDigest c := by
  have hrun : ∃ c ∈ (executionMachine opensslDigest).exec Machine.Any .default lostAndFound,
      ((c.executions.get ⟨⟨2⟩⟩).map (·.status)) = some .succeeded := by
    decide +kernel
  obtain ⟨c, hexec, hstatus⟩ := hrun
  have hreach : (executionMachine opensslDigest).Reach Machine.Any c := .exec (.init rfl) _ hexec
  exact ⟨c, hreach, hstatus, coherent_and_final hreach⟩

end Lxcup.Execution
