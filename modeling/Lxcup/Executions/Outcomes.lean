import Lxcup.Executions.Service
import Lxcup.Execution.Invariant

/-!
# What a terminal status says about the host

An execution that has succeeded or failed should have had an answer of the agent to its command,
one that is aborted should never have had its command sent, and one whose agent call was lost
should be left open.  Two things break this: a run takes every error of the agent call for a
failure, and an abort is accepted while the command is on its way.

Between its begin and its finish a run is *active*.  An execution has at most one active run,
because only a queued execution begins; while a run is active the execution is running, unless it
was aborted before the client refused the command.  This is what the invariant keeps.

## Main definitions

* `Shown`, `TellsTruth` — the statuses that the coordinator and the store hold, and what they
  should say.
* `Undisturbed` — no run finishes on an error, and no abort meets a command on its way.
* `Fits`, `Candid` — the invariant, for a request and for the server.

## Main results

* `Candid.step` — a step that is undisturbed keeps the invariant.
* `tellsTruth_of_undisturbed` — the statuses tell the truth in every undisturbed run.
-/

namespace Lxcup.Executions

open Lxcup.Lib Lxcup.Core Lxcup.Execution Lxcup.Agent Lxcup.Server ExecutionService

/-! ### What the statuses should say -/

/-- The status of an execution in the coordinator. -/
def statusOf (s : ExecutionService) (id : ExecutionId) : Option ExecutionStatus :=
  (s.api.execution.executions.get id).map (·.status)

/-- The coordinator or the store shows the execution with this status. -/
def Shown (s : ExecutionService) (id : ExecutionId) (status : ExecutionStatus) : Prop :=
  statusOf s id = some status ∨
    ∃ execution ∈ s.api.store.executions, execution.id = id ∧ execution.status = status

/-- Success and failure come with an answer of the agent, an aborted execution has never had its
command sent, and an execution whose agent call was lost is open. -/
structure TellsTruth (s : ExecutionService) : Prop where
  succeeded : ∀ id, Shown s id .succeeded → (id, 0) ∈ s.responses
  failed : ∀ id, Shown s id .failed → ∃ code, code ≠ 0 ∧ (id, code) ∈ s.responses
  aborted : ∀ id, Shown s id .aborted → id ∉ s.sent
  lost : ∀ id ∈ s.lost, ∀ status, Shown s id status → status.terminal = false

/-- The command of an execution passes the checks of the client. -/
def Sendable (id : ExecutionId) (plan : UpdatePlan) : Prop :=
  AgentClient.sends (applyCommand id plan) = true

/-- Requests run and abort executions; no abort meets a running execution whose command can be
sent, and no run finishes a running execution on an error of the agent call. -/
def Undisturbed (s : ExecutionService) : ServiceAction → Prop
  | .abort _ executionId _ => ∀ id plan, parseExecutionId executionId = .ok id →
      s.api.execution.plans.get id = some plan → statusOf s id = some .running → ¬ Sendable id plan
  | .finish call _ => ∀ id error, s.calls.get call = some (.answered id (.error error)) →
      statusOf s id ≠ some .running
  | .reconcile .. => False
  | _ => True

/-- The test that a step is undisturbed. -/
def undisturbed (s : ExecutionService) : ServiceAction → Bool
  | .abort _ executionId _ =>
    match parseExecutionId executionId with
    | .error _ => true
    | .ok id =>
      match s.api.execution.plans.get id with
      | none => true
      | some plan =>
        !(statusOf s id = some .running && AgentClient.sends (applyCommand id plan))
  | .finish call _ =>
    match s.calls.get call with
    | some (.answered id (.error _)) => statusOf s id ≠ some .running
    | _ => true
  | .reconcile .. => false
  | _ => true

theorem undisturbed_iff {s : ExecutionService} {action : ServiceAction} :
    undisturbed s action = true ↔ Undisturbed s action := by
  cases action with
  | abort call executionId now =>
    simp only [undisturbed, Undisturbed]
    cases hparse : parseExecutionId executionId with
    | error error => simp
    | ok id =>
      dsimp only
      cases hplan : s.api.execution.plans.get id with
      | none =>
        refine ⟨fun _ other plan hother hother' => ?_, fun _ => rfl⟩
        cases hother
        rw [hplan] at hother'
        cases hother'
      | some plan =>
        constructor
        · intro hcalm other known hother hknown hrunning
          cases hother
          obtain rfl : plan = known := Option.some.inj (hplan.symm.trans hknown)
          simpa [hrunning, Sendable] using hcalm
        · intro hcalm
          have hthis := hcalm id plan rfl hplan
          by_cases hrunning : statusOf s id = some .running
          · simpa [hrunning, Sendable] using hthis hrunning
          · simp [hrunning]
  | finish call now =>
    simp only [undisturbed, Undisturbed]
    split
    case h_1 id error hcall => simp [hcall]
    case h_2 hother =>
      refine ⟨fun _ id error hcall => ?_, fun _ => rfl⟩
      exact absurd hcall (hother id error)
  | _ => simp [undisturbed, Undisturbed]

instance (s : ExecutionService) (action : ServiceAction) : Decidable (Undisturbed s action) :=
  decidable_of_iff _ undisturbed_iff

/-- No reconciliation takes part: the requests run and abort executions. -/
def RunsAndAborts (_ : ExecutionService) : ServiceAction → Prop
  | .reconcile .. => False
  | _ => True

instance (s : ExecutionService) (action : ServiceAction) : Decidable (RunsAndAborts s action) :=
  match action with
  | .createPlan .. => isTrue trivial
  | .registerAgent .. => isTrue trivial
  | .confirm .. => isTrue trivial
  | .run .. => isTrue trivial
  | .begin .. => isTrue trivial
  | .send .. => isTrue trivial
  | .answer .. => isTrue trivial
  | .finish .. => isTrue trivial
  | .record .. => isTrue trivial
  | .abort .. => isTrue trivial
  | .reconcile .. => isFalse fun h => h
  | .store .. => isTrue trivial

/-! ### The invariant -/

/-- The execution that a run is active on. -/
def CallPhase.active? : CallPhase → Option ExecutionId
  | .begun id _ _ => some id
  | .waiting id _ _ => some id
  | .answered id _ => some id
  | _ => none

/-- What holds while a request is in a phase. -/
def Fits (s : ExecutionService) : CallPhase → Prop
  | .located id plan _ => s.api.execution.plans.get id = some plan
  | .begun id plan _ => s.api.execution.plans.get id = some plan ∧
      (statusOf s id = some .running ∨ (statusOf s id = some .aborted ∧ ¬ Sendable id plan))
  | .waiting id plan _ => s.api.execution.plans.get id = some plan ∧ Sendable id plan ∧
      id ∈ s.sent ∧ statusOf s id = some .running
  | .answered id (.ok response) =>
      id ∈ s.sent ∧ (id, response.exitCode) ∈ s.responses ∧ statusOf s id = some .running
  | .answered id (.error _) => statusOf s id = some .running ∨ statusOf s id = some .aborted
  | .finished id execution _ => execution.id = id ∧ execution.status.terminal = true ∧
      s.api.execution.executions.get id = some execution
  | .aborted id execution => execution.id = id ∧ execution.status.terminal = true ∧
      s.api.execution.executions.get id = some execution
  | .reconciled _ _ => False

/-- The invariant of undisturbed runs. -/
structure Candid (s : ExecutionService) : Prop where
  coherent : s.api.execution.Coherent
  fits : ∀ call phase, s.calls.get call = some phase → Fits s phase
  /-- An execution has at most one active run. -/
  alone : ∀ call call' phase phase' id, s.calls.get call = some phase →
    s.calls.get call' = some phase' → phase.active? = some id → phase'.active? = some id →
    call = call'
  /-- A sent command could be sent, and the execution has not left its path since. -/
  sent : ∀ id ∈ s.sent, (∃ plan, s.api.execution.plans.get id = some plan ∧ Sendable id plan) ∧
    (statusOf s id = some .running ∨ statusOf s id = some .succeeded ∨
      statusOf s id = some .failed)
  /-- The run whose agent call was lost has not gone on. -/
  lost : ∀ id ∈ s.lost, id ∈ s.sent ∧ statusOf s id = some .running ∧
    ∃ call, s.calls.get call = some (.answered id (.error .transport))
  succeeded : ∀ id, statusOf s id = some .succeeded → (id, 0) ∈ s.responses
  failed : ∀ id, statusOf s id = some .failed → ∃ code, code ≠ 0 ∧ (id, code) ∈ s.responses
  /-- The store shows a terminal execution as the coordinator has it. -/
  copies : ∀ execution ∈ s.api.store.executions, execution.status.terminal = true →
    s.api.execution.executions.get execution.id = some execution

variable {digest : CanonicalPlan → String} {s s' : ExecutionService} {call : Nat}
  {phase : CallPhase}

theorem statusOf_terminal {id : ExecutionId} {status : ExecutionStatus}
    (hstatus : statusOf s id = some status) :
    ∃ execution, s.api.execution.executions.get id = some execution ∧
      execution.status = status := by
  simpa [statusOf, Option.map_eq_some_iff] using hstatus

/-- **The invariant gives what the statuses should say.** -/
theorem Candid.tellsTruth (h : Candid s) : TellsTruth s := by
  -- a terminal status that the store shows is the one of the coordinator
  have hshown : ∀ id status, Shown s id status → status.terminal = true →
      statusOf s id = some status := by
    rintro id status (hstatus | ⟨execution, hstored, hid, hstatus⟩) hterminal
    · exact hstatus
    · rw [← hstatus] at hterminal
      rw [statusOf, ← hid, h.copies execution hstored hterminal, ← hstatus]
      rfl
  constructor
  · intro id hid
    exact h.succeeded id (hshown id _ hid rfl)
  · intro id hid
    exact h.failed id (hshown id _ hid rfl)
  · intro id hid hsent
    have hstatus := hshown id _ hid rfl
    rcases (h.sent id hsent).2 with hother | hother | hother
    all_goals
      rw [hstatus] at hother
      cases hother
  · intro id hlost status hstatus
    by_contra hterminal
    have hother := hshown id status hstatus (by simpa using hterminal)
    rw [(h.lost id hlost).2.1, Option.some.injEq] at hother
    rw [← hother] at hterminal
    exact hterminal rfl

theorem candid_fresh (agents : Table ContainerId RegisteredAgent)
    (repositories : Option ExecutionTables) : Candid (.fresh agents repositories) where
  coherent := ExecutionCoordinator.coherent_default
  fits call phase hcall := by simp [fresh] at hcall
  alone call call' phase phase' id hcall := by simp [fresh] at hcall
  sent id hid := by simp [fresh] at hid
  lost id hid := by simp [fresh] at hid
  succeeded id hid := by simp [statusOf, fresh, ExecutionCoordinator.default] at hid
  failed id hid := by simp [statusOf, fresh, ExecutionCoordinator.default] at hid
  copies execution hstored := by simp [fresh] at hstored

/-! ### Steps that leave the coordinator alone -/

/-- A request fits as before when the statuses it looks at stay, and nothing else is lost. -/
theorem Fits.mono (h : Fits s phase)
    (hplans : ∀ id plan, s.api.execution.plans.get id = some plan →
      s'.api.execution.plans.get id = some plan)
    (hstatus : ∀ id, phase.active? = some id → statusOf s' id = statusOf s id)
    (hfinal : ∀ id execution, s.api.execution.executions.get id = some execution →
      execution.status.terminal = true → s'.api.execution.executions.get id = some execution)
    (hsent : ∀ id ∈ s.sent, id ∈ s'.sent)
    (hresponses : ∀ response ∈ s.responses, response ∈ s'.responses) : Fits s' phase := by
  cases phase with
  | located id plan agent => exact hplans id plan h
  | begun id plan agent =>
    refine ⟨hplans id plan h.1, ?_⟩
    rw [hstatus id rfl]
    exact h.2
  | waiting id plan agent =>
    refine ⟨hplans id plan h.1, h.2.1, hsent id h.2.2.1, ?_⟩
    rw [hstatus id rfl]
    exact h.2.2.2
  | answered id response =>
    cases response with
    | ok response =>
      refine ⟨hsent id h.1, hresponses _ h.2.1, ?_⟩
      rw [hstatus id rfl]
      exact h.2.2
    | error error =>
      simp only [Fits, hstatus id rfl]
      exact h
  | finished id execution result =>
    exact ⟨h.1, h.2.1, hfinal id execution h.2.2 h.2.1⟩
  | aborted id execution =>
    exact ⟨h.1, h.2.1, hfinal id execution h.2.2 h.2.1⟩
  | reconciled id execution => exact h

/-- The same coordinator and the same history fit the same requests. -/
theorem Fits.same (h : Fits s phase) (hcoordinator : s'.api.execution = s.api.execution)
    (hsent : s'.sent = s.sent) (hresponses : s'.responses = s.responses) : Fits s' phase := by
  refine h.mono ?_ ?_ ?_ ?_ ?_
  · intro id plan hplan
    rw [hcoordinator]
    exact hplan
  · intro id _
    simp only [statusOf, hcoordinator]
  · intro id execution hexecution _
    rw [hcoordinator]
    exact hexecution
  · intro id hid
    rw [hsent]
    exact hid
  · intro response hresponse
    rw [hresponses]
    exact hresponse

/-- Plans, agents, tables and confirmations may change, and copies be written into the store that
are not terminal or as the coordinator has them. -/
theorem Candid.same (h : Candid s) (hcoordinator : s'.api.execution = s.api.execution)
    (hcalls : s'.calls = s.calls) (hsent : s'.sent = s.sent)
    (hresponses : s'.responses = s.responses) (hlost : s'.lost = s.lost)
    (hcopies : ∀ execution ∈ s'.api.store.executions, execution.status.terminal = true →
      s.api.execution.executions.get execution.id = some execution) : Candid s' := by
  have hstatus : ∀ id, statusOf s' id = statusOf s id := by
    intro id
    simp only [statusOf, hcoordinator]
  constructor
  · rw [hcoordinator]
    exact h.coherent
  · intro call phase hcall
    rw [hcalls] at hcall
    exact (h.fits call phase hcall).same hcoordinator hsent hresponses
  · rw [hcalls]
    exact h.alone
  · intro id hid
    rw [hsent] at hid
    rw [hcoordinator, hstatus]
    exact h.sent id hid
  · intro id hid
    rw [hlost] at hid
    rw [hsent, hstatus, hcalls]
    exact h.lost id hid
  · intro id hid
    rw [hstatus] at hid
    rw [hresponses]
    exact h.succeeded id hid
  · intro id hid
    rw [hstatus] at hid
    rw [hresponses]
    exact h.failed id hid
  · intro execution hstored hterminal
    rw [hcoordinator]
    exact hcopies execution hstored hterminal

/-- No other request is active on the execution. -/
def NoOther (s : ExecutionService) (call : Nat) (id : ExecutionId) : Prop :=
  ∀ other phase, other ≠ call → s.calls.get other = some phase → phase.active? ≠ some id

/-- The active request of an execution is the only one. -/
theorem Candid.noOther (h : Candid s) {id : ExecutionId} (hcall : s.calls.get call = some phase)
    (hactive : phase.active? = some id) : NoOther s call id := by
  intro other phase' hne hother hactive'
  exact hne (h.alone other call phase' phase id hother hcall hactive' hactive)

/-- A request that is alone in its phase leaves every execution with one active run. -/
theorem Candid.alone_put (h : Candid s) {first second : Nat} {phase₁ phase₂ : CallPhase}
    {id : ExecutionId} (halone : ∀ id, phase.active? = some id → NoOther s call id)
    (hfirst : (s.calls.put call phase).get first = some phase₁)
    (hsecond : (s.calls.put call phase).get second = some phase₂)
    (hactive₁ : phase₁.active? = some id) (hactive₂ : phase₂.active? = some id) :
    first = second := by
  rcases Table.get_put_cases hfirst with ⟨rfl, rfl⟩ | ⟨hne₁, hold₁⟩
  · rcases Table.get_put_cases hsecond with ⟨rfl, -⟩ | ⟨hne₂, hold₂⟩
    · rfl
    · exact absurd hactive₂ (halone id hactive₁ second phase₂ hne₂ hold₂)
  · rcases Table.get_put_cases hsecond with ⟨rfl, rfl⟩ | ⟨hne₂, hold₂⟩
    · exact absurd hactive₁ (halone id hactive₂ first phase₁ hne₁ hold₁)
    · exact h.alone first second phase₁ phase₂ id hold₁ hold₂ hactive₁ hactive₂

/-- A lost call stays where it is when another request goes on. -/
theorem Candid.lost_put (h : Candid s) {id : ExecutionId} (hid : id ∈ s.lost)
    (hstays : ∀ id ∈ s.lost, s.calls.get call ≠ some (.answered id (.error .transport))) :
    ∃ other, (s.calls.put call phase).get other = some (.answered id (.error .transport)) := by
  obtain ⟨-, -, other, hother⟩ := h.lost id hid
  have hne : other ≠ call := by
    rintro rfl
    exact hstays id hid hother
  exact ⟨other, (Table.get_put_ne _ _ hne).trans hother⟩

/-- A request in another phase is none that a lost call stays in. -/
theorem not_lost (hcall : s.calls.get call = some phase)
    (hphase : ∀ id, phase ≠ .answered id (.error .transport)) :
    ∀ id ∈ s.lost, s.calls.get call ≠ some (.answered id (.error .transport)) := by
  intro id _ hanswered
  exact hphase id (Option.some.inj (hcall.symm.trans hanswered))

/-- A request goes on into a phase that fits; it is not one that a lost call stays in. -/
theorem Candid.goesOn (h : Candid s) (hphase : Fits s phase)
    (halone : ∀ id, phase.active? = some id → NoOther s call id)
    (hstays : ∀ id ∈ s.lost, s.calls.get call ≠ some (.answered id (.error .transport))) :
    Candid (s.goesOn call phase) := by
  refine ⟨h.coherent, ?_, ?_, h.sent, ?_, h.succeeded, h.failed, h.copies⟩
  · intro other phase' hother
    rcases Table.get_put_cases hother with ⟨-, rfl⟩ | ⟨-, hold⟩
    · exact hphase.same rfl rfl rfl
    · exact (h.fits other phase' hold).same rfl rfl rfl
  · intro first second phase₁ phase₂ id hfirst hsecond
    exact h.alone_put halone hfirst hsecond
  · intro id hid
    obtain ⟨hsent, hstatus, -⟩ := h.lost id hid
    exact ⟨hsent, hstatus, h.lost_put hid hstays⟩

/-- A request ends; it is not one that a lost call stays in. -/
theorem Candid.ends (h : Candid s)
    (hstays : ∀ id ∈ s.lost, s.calls.get call ≠ some (.answered id (.error .transport))) :
    Candid (s.ends call) := by
  have hget : ∀ other phase', (s.ends call).calls.get other = some phase' →
      s.calls.get other = some phase' := by
    intro other phase' hother
    simp only [ExecutionService.ends, Table.get_remove] at hother
    split at hother
    case isTrue => cases hother
    case isFalse => exact hother
  refine ⟨h.coherent, ?_, ?_, h.sent, ?_, h.succeeded, h.failed, h.copies⟩
  · intro other phase' hother
    exact (h.fits other phase' (hget other phase' hother)).same rfl rfl rfl
  · intro first second phase₁ phase₂ id hfirst hsecond
    exact h.alone first second phase₁ phase₂ id (hget _ _ hfirst) (hget _ _ hsecond)
  · intro id hid
    obtain ⟨hsent, hstatus, other, hother⟩ := h.lost id hid
    refine ⟨hsent, hstatus, other, ?_⟩
    have hne : other ≠ call := by
      rintro rfl
      exact hstays id hid hother
    simp only [ExecutionService.ends, Table.get_remove, if_neg hne]
    exact hother

/-! ### Steps of the coordinator -/

section

variable {coordinator : ExecutionCoordinator} {id : ExecutionId} {next : ExecutionStatus}
  {now : Timestamp} {execution execution' : Execution}

/-- The statuses after an execution has gone along an edge. -/
theorem statusOf_coordinated
    (hmoved : s.api.execution.MovedTo coordinator id next now execution execution')
    (other : ExecutionId) : statusOf ((s.coordinated coordinator).goesOn call phase) other =
      if other = id then some next else statusOf s other := by
  obtain ⟨-, hstatus, -⟩ := Execution.transitionTo_ok hmoved.edge
  simp only [statusOf, ExecutionService.goesOn, ExecutionService.coordinated, hmoved.executions,
    Table.get_put]
  split
  case isTrue => rw [Option.map_some, hstatus]
  case isFalse => rfl

/-- The status of the execution before it goes along an edge. -/
theorem statusOf_before
    (hmoved : s.api.execution.MovedTo coordinator id next now execution execution') :
    statusOf s id = some execution.status := by
  rw [statusOf, hmoved.found]
  rfl

/-- **An execution goes along an edge, and the request that does it goes on.**  The request fits
its new phase, the other active requests of the execution fit theirs, and what the new status says
is in the history. -/
theorem Candid.moved (h : Candid s)
    (hmoved : s.api.execution.MovedTo coordinator id next now execution execution')
    (hphase : Fits ((s.coordinated coordinator).goesOn call phase) phase)
    (hothers : ∀ other phase', other ≠ call → s.calls.get other = some phase' →
      phase'.active? = some id → Fits ((s.coordinated coordinator).goesOn call phase) phase')
    (halone : ∀ known, phase.active? = some known → NoOther s call known)
    (hsent : id ∈ s.sent → next = .succeeded ∨ next = .failed) (hlost : id ∉ s.lost)
    (hsucceeded : next = .succeeded → (id, 0) ∈ s.responses)
    (hfailed : next = .failed → ∃ code, code ≠ 0 ∧ (id, code) ∈ s.responses)
    (hstays : ∀ known ∈ s.lost, s.calls.get call ≠ some (.answered known (.error .transport))) :
    Candid ((s.coordinated coordinator).goesOn call phase) := by
  have hopen := ExecutionStatus.not_terminal_of_canTransitionTo
    (Execution.transitionTo_ok hmoved.edge).1
  have hstatus := @statusOf_coordinated s call phase coordinator id next now execution execution'
    hmoved
  have hfinal : ∀ known kept, s.api.execution.executions.get known = some kept →
      kept.status.terminal = true → coordinator.executions.get known = some kept :=
    fun known kept hkept hterminal => hmoved.move.terminal hkept hterminal
  have hplans : ∀ known plan, s.api.execution.plans.get known = some plan →
      coordinator.plans.get known = some plan := by
    intro known plan hplan
    rw [hmoved.plans]
    exact hplan
  constructor
  · exact h.coherent.move hmoved.move
  · intro other phase' hother
    rcases Table.get_put_cases hother with ⟨-, rfl⟩ | ⟨hne, hold⟩
    · exact hphase
    · by_cases hactive : phase'.active? = some id
      · exact hothers other phase' hne hold hactive
      · refine (h.fits other phase' hold).mono hplans ?_ hfinal (fun _ hid => hid)
          (fun _ hresponse => hresponse)
        intro known hknown
        rw [hstatus, if_neg]
        rintro rfl
        exact hactive hknown
  · intro first second phase₁ phase₂ known hfirst hsecond
    exact h.alone_put halone hfirst hsecond
  · intro known hknown
    obtain ⟨⟨plan, hplan, hsendable⟩, hpath⟩ := h.sent known hknown
    refine ⟨⟨plan, hplans known plan hplan, hsendable⟩, ?_⟩
    rw [hstatus]
    by_cases hid : known = id
    · rw [if_pos hid]
      rcases hsent (hid ▸ hknown) with hnext | hnext
      · exact .inr (.inl (congrArg some hnext))
      · exact .inr (.inr (congrArg some hnext))
    · rw [if_neg hid]
      exact hpath
  · intro known hknown
    obtain ⟨hsent', hrunning, -⟩ := h.lost known hknown
    have hid : known ≠ id := by
      rintro rfl
      exact hlost hknown
    refine ⟨hsent', ?_, h.lost_put hknown hstays⟩
    rw [hstatus, if_neg hid]
    exact hrunning
  · intro known hknown
    rw [hstatus] at hknown
    split at hknown
    case isTrue hid =>
      rw [hid]
      exact hsucceeded (Option.some.inj hknown)
    case isFalse => exact h.succeeded known hknown
  · intro known hknown
    rw [hstatus] at hknown
    split at hknown
    case isTrue hid =>
      rw [hid]
      exact hfailed (Option.some.inj hknown)
    case isFalse => exact h.failed known hknown
  · intro copy hcopy hterminal
    exact hfinal copy.id copy (h.copies copy hcopy hterminal) hterminal

end

/-- Only a queued execution begins. -/
theorem queued_of_running {status : ExecutionStatus}
    (h : status.canTransitionTo .running = true) : status = .queued := by
  cases status <;> first | rfl | cases h

/-- Only a running or an unknown execution succeeds or fails. -/
theorem running_of_finished {status next : ExecutionStatus}
    (h : status.canTransitionTo next = true) (hnext : next = .succeeded ∨ next = .failed) :
    status = .running ∨ status = .unknown := by
  rcases hnext with rfl | rfl
  all_goals cases status <;> first | exact .inl rfl | exact .inr rfl | cases h

/-- An active run has an execution that is running or aborted. -/
theorem Fits.active (h : Fits s phase) {id : ExecutionId} (hactive : phase.active? = some id) :
    statusOf s id = some .running ∨ statusOf s id = some .aborted := by
  cases phase with
  | begun known plan agent =>
    cases hactive
    exact h.2.imp_right (·.1)
  | waiting known plan agent =>
    cases hactive
    exact .inl h.2.2.2
  | answered known response =>
    cases hactive
    cases response with
    | ok response => exact .inl h.2.2
    | error error => exact h
  | located known plan agent => cases hactive
  | finished known execution result => cases hactive
  | aborted known execution => cases hactive
  | reconciled known execution => cases hactive

/-- An execution that cannot be finished is not running. -/
theorem not_running_of_refused {id : ExecutionId} {result : ExecutionResult} {now : Timestamp}
    {error : ExecutionError} (h : s.api.execution.finish id result now = .error error) :
    statusOf s id ≠ some .running := by
  intro hrunning
  obtain ⟨execution, hfound, hstatus⟩ := statusOf_terminal hrunning
  obtain ⟨after, coordinator, hfinish⟩ :=
    @ExecutionCoordinator.finish_of_running _ id now execution hfound hstatus result
  rw [h] at hfinish
  cases hfinish

/-- An execution begins: it was queued, so that no other run is active on it. -/
theorem Candid.begun (h : Candid s) {now : Timestamp} {id : ExecutionId}
    {plan plan' : UpdatePlan} {agent : RegisteredAgent} {coordinator : ExecutionCoordinator}
    (hcall : s.calls.get call = some (.located id plan agent))
    (hbegin : s.api.execution.begin id now = .ok (plan', coordinator)) :
    Candid ((s.coordinated coordinator).goesOn call (.begun id plan agent)) := by
  obtain ⟨hplan, execution, execution', hmoved⟩ := ExecutionCoordinator.begin_ok hbegin
  have hqueued := queued_of_running (Execution.transitionTo_ok hmoved.edge).1
  have hbefore := statusOf_before hmoved
  rw [hqueued] at hbefore
  have hidle : ∀ other phase', s.calls.get other = some phase' → phase'.active? ≠ some id := by
    intro other phase' hother hactive
    rcases (h.fits other phase' hother).active hactive with hstatus | hstatus
    all_goals
      rw [hbefore] at hstatus
      cases hstatus
  refine h.moved hmoved ?_ ?_ ?_ ?_ ?_ (fun hnext => by cases hnext) (fun hnext => by cases hnext) ?_
  · refine ⟨?_, .inl ?_⟩
    · simp only [ExecutionService.goesOn, ExecutionService.coordinated, hmoved.plans]
      exact h.fits call _ hcall
    · rw [statusOf_coordinated hmoved, if_pos rfl]
  · intro other phase' _ hother hactive
    exact absurd hactive (hidle other phase' hother)
  · intro known hknown other phase' _ hother
    cases hknown
    exact hidle other phase' hother
  · intro hsent
    rcases (h.sent id hsent).2 with hstatus | hstatus | hstatus
    all_goals
      rw [hbefore] at hstatus
      cases hstatus
  · intro hlost
    have hstatus := (h.lost id hlost).2.1
    rw [hbefore] at hstatus
    cases hstatus
  · exact not_lost hcall (by simp)

/-- A run finishes: the agent has answered, and the execution ends as the answer says. -/
theorem Candid.finished (h : Candid s) {now : Timestamp} {id : ExecutionId}
    {response : Except AgentError AgentCommandResponse} {execution' : Execution}
    {coordinator : ExecutionCoordinator} (hcall : s.calls.get call = some (.answered id response))
    (hok : Undisturbed s (.finish call now))
    (hfinish : s.api.execution.finish id (resultOf response) now = .ok (execution', coordinator)) :
    Candid ((s.coordinated coordinator).goesOn call (.finished id execution' (resultOf response))) := by
  obtain ⟨execution, hmoved⟩ := ExecutionCoordinator.finish_ok hfinish
  have hfits := h.fits call _ hcall
  have hnext : ∀ (p : Prop) [Decidable p], (if p then ExecutionStatus.succeeded else .failed) =
      .succeeded ∨ (if p then ExecutionStatus.succeeded else .failed) = .failed := by
    intro p _
    split <;> simp
  have hbefore := statusOf_before hmoved
  have hedge := (Execution.transitionTo_ok hmoved.edge).1
  cases response with
  | error error =>
    -- the execution is not running, so that it cannot be finished
    have hidle := hok id error hcall
    rcases hfits with hrunning | haborted
    · exact absurd hrunning hidle
    · rw [hbefore, Option.some.injEq] at haborted
      rcases running_of_finished hedge (hnext _) with hstatus | hstatus
      all_goals
        rw [haborted] at hstatus
        cases hstatus
  | ok response =>
    obtain ⟨hsent, hresponse, hrunning⟩ := hfits
    have hother : NoOther s call id := h.noOther hcall rfl
    refine h.moved hmoved ?_ ?_ ?_ (fun _ => hnext _) ?_ ?_ ?_ ?_
    · obtain ⟨-, hstatus, hid, -⟩ := Execution.transitionTo_ok hmoved.edge
      refine ⟨?_, ?_, ?_⟩
      · rw [hid]
        exact (h.coherent.id_eq hmoved.found)
      · rw [hstatus]
        split <;> rfl
      · simp only [ExecutionService.goesOn, ExecutionService.coordinated, hmoved.executions,
          Table.get_put_self]
    · intro other phase' hne hget hactive
      exact absurd hactive (hother other phase' hne hget)
    · intro known hknown
      cases hknown
    · -- the only active run of the execution has an answer
      intro hlost
      obtain ⟨-, -, other, hget⟩ := h.lost id hlost
      by_cases hne : other = call
      · rw [hne, hcall] at hget
        cases hget
      · exact hother other _ hne hget rfl
    · intro hsucceeded
      have hexit : response.exitCode = 0 := by
        by_contra hexit
        simp [resultOf, hexit] at hsucceeded
      rw [← hexit]
      exact hresponse
    · intro hfailed
      refine ⟨response.exitCode, ?_, hresponse⟩
      intro hexit
      simp [resultOf, hexit] at hfailed
    · exact not_lost hcall (by simp)

/-- An execution is aborted: it was queued, or its command cannot be sent. -/
theorem Candid.aborted (h : Candid s) {executionId : String} {now : Timestamp} {id : ExecutionId}
    {execution' : Execution} {coordinator : ExecutionCoordinator}
    (hcall : s.calls.get call = none) (hnames : parseExecutionId executionId = .ok id)
    (hok : Undisturbed s (.abort call executionId now))
    (habort : s.api.execution.abort id now = .ok (execution', coordinator)) :
    Candid ((s.coordinated coordinator).goesOn call (.aborted id execution')) := by
  obtain ⟨execution, hmoved⟩ := ExecutionCoordinator.abort_ok habort
  have hbefore := statusOf_before hmoved
  have hopen := ExecutionStatus.not_terminal_of_canTransitionTo
    (Execution.transitionTo_ok hmoved.edge).1
  -- a command that has been sent could be sent, and its execution is not aborted
  have hunsent : id ∉ s.sent := by
    intro hsent
    obtain ⟨⟨plan, hplan, hsendable⟩, hpath⟩ := h.sent id hsent
    rcases hpath with hstatus | hstatus | hstatus
    · exact hok id plan hnames hplan hstatus hsendable
    all_goals
      rw [hbefore, Option.some.injEq] at hstatus
      rw [hstatus] at hopen
      cases hopen
  have hafter := @statusOf_coordinated s call (.aborted id execution') _ _ _ _ _ _ hmoved
  refine h.moved hmoved ?_ ?_ ?_ ?_ ?_ (fun hnext => by cases hnext) (fun hnext => by cases hnext) ?_
  · obtain ⟨-, hstatus, hid, -⟩ := Execution.transitionTo_ok hmoved.edge
    refine ⟨?_, ?_, ?_⟩
    · rw [hid]
      exact h.coherent.id_eq hmoved.found
    · rw [hstatus]
      rfl
    · simp only [ExecutionService.goesOn, ExecutionService.coordinated, hmoved.executions,
        Table.get_put_self]
  · intro other phase' hne hother hactive
    have hfits := h.fits other phase' hother
    cases phase' with
    | begun known plan agent =>
      cases hactive
      obtain ⟨hplan, hstatus⟩ := hfits
      refine ⟨by simpa [ExecutionService.goesOn, ExecutionService.coordinated, hmoved.plans] using
        hplan, .inr ⟨by rw [hafter, if_pos rfl], ?_⟩⟩
      rcases hstatus with hrunning | ⟨haborted, hrefused⟩
      · exact hok id plan hnames hplan hrunning
      · exact hrefused
    | waiting known plan agent =>
      cases hactive
      exact absurd hfits.2.2.1 hunsent
    | answered known response =>
      cases hactive
      cases response with
      | ok response => exact absurd hfits.1 hunsent
      | error error => exact .inr (by rw [hafter, if_pos rfl])
    | located known plan agent => cases hactive
    | finished known execution result => cases hactive
    | aborted known execution => cases hactive
    | reconciled known execution => cases hactive
  · intro known hknown
    cases hknown
  · intro hsent
    exact absurd hsent hunsent
  · intro hlost
    exact hunsent (h.lost id hlost).1
  · intro known _ hanswered
    rw [hcall] at hanswered
    cases hanswered

/-! ### Steps of the history -/

/-- A command is sent whose execution is running. -/
theorem Candid.sentTo (h : Candid s) {id : ExecutionId} {plan : UpdatePlan}
    (hplan : s.api.execution.plans.get id = some plan) (hsendable : Sendable id plan)
    (hrunning : statusOf s id = some .running) : Candid { s with sent := id :: s.sent } where
  coherent := h.coherent
  fits call phase hcall := (h.fits call phase hcall).mono (fun _ _ hplan => hplan) (fun _ _ => rfl)
    (fun _ _ hexecution _ => hexecution) (fun _ hid => List.mem_cons_of_mem _ hid)
    (fun _ hresponse => hresponse)
  alone := h.alone
  sent known hknown := by
    rcases List.mem_cons.mp hknown with rfl | hold
    · exact ⟨⟨plan, hplan, hsendable⟩, .inl hrunning⟩
    · exact h.sent known hold
  lost known hknown := by
    obtain ⟨hsent, hstatus, hcall⟩ := h.lost known hknown
    exact ⟨List.mem_cons_of_mem _ hsent, hstatus, hcall⟩
  succeeded := h.succeeded
  failed := h.failed
  copies := h.copies

/-- An answer is added to the history. -/
theorem Candid.responded (h : Candid s) (id : ExecutionId) (code : Int) :
    Candid { s with responses := (id, code) :: s.responses } where
  coherent := h.coherent
  fits call phase hcall := (h.fits call phase hcall).mono (fun _ _ hplan => hplan) (fun _ _ => rfl)
    (fun _ _ hexecution _ => hexecution) (fun _ hid => hid)
    (fun _ hresponse => List.mem_cons_of_mem _ hresponse)
  alone := h.alone
  sent := h.sent
  lost := h.lost
  succeeded known hknown := List.mem_cons_of_mem _ (h.succeeded known hknown)
  failed known hknown := by
    obtain ⟨code, hcode, hresponse⟩ := h.failed known hknown
    exact ⟨code, hcode, List.mem_cons_of_mem _ hresponse⟩
  copies := h.copies

/-- An agent call is lost whose execution is running. -/
theorem Candid.lostCall (h : Candid s) {id : ExecutionId} (hsent : id ∈ s.sent)
    (hrunning : statusOf s id = some .running)
    (hcall : s.calls.get call = some (.answered id (.error .transport))) :
    Candid { s with lost := id :: s.lost } where
  coherent := h.coherent
  fits call phase hcall := (h.fits call phase hcall).same rfl rfl rfl
  alone := h.alone
  sent := h.sent
  lost known hknown := by
    rcases List.mem_cons.mp hknown with rfl | hold
    · exact ⟨hsent, hrunning, call, hcall⟩
    · exact h.lost known hold
  succeeded := h.succeeded
  failed := h.failed
  copies := h.copies

/-- The call of the agent ends, with an answer or an error. -/
theorem Candid.answered (h : Candid s) {id : ExecutionId} {plan : UpdatePlan}
    {agent : RegisteredAgent} {response : Except AgentError AgentCommandResponse}
    (hcall : s.calls.get call = some (.waiting id plan agent)) :
    Candid ((s.heard id response).goesOn call (.answered id response)) := by
  obtain ⟨-, -, hsent, hrunning⟩ := h.fits call _ hcall
  have hother : NoOther s call id := h.noOther hcall rfl
  have halone : ∀ known, (CallPhase.answered id response).active? = some known →
      NoOther s call known := by
    intro known hknown
    cases hknown
    exact hother
  have hstays := not_lost hcall (by simp)
  cases response with
  | ok response =>
    have hadded := h.responded id response.exitCode
    exact hadded.goesOn ⟨hsent, List.mem_cons_self, hrunning⟩ halone hstays
  | error error =>
    have hfits : Fits s (.answered id (.error error)) := .inl hrunning
    have hwaits := h.goesOn hfits halone hstays
    cases error with
    | transport =>
      exact hwaits.lostCall hsent hrunning (Table.get_put_self _ _ _)
    | unauthorized => exact hwaits
    | invalidRequest reason => exact hwaits
    | api status message => exact hwaits
    | decode => exact hwaits

/-! ### Confirmations and the store -/

/-- An execution is queued under a new id. -/
theorem Candid.enqueued (h : Candid s) {plan : UpdatePlan} {actor key : String}
    {newId : ExecutionId} {now : Timestamp} (fresh : s.api.execution.executions.get newId = none)
    (hcoordinator : s'.api.execution = s.api.execution.enqueue plan actor key newId now)
    (hstore : s'.api.store.executions = s.api.store.executions ++ [.new plan.id newId])
    (hcalls : s'.calls = s.calls) (hsent : s'.sent = s.sent)
    (hresponses : s'.responses = s.responses) (hlost : s'.lost = s.lost) : Candid s' := by
  have hmove : s.api.execution.Coherent := h.coherent
  have hget : ∀ id, s'.api.execution.executions.get id =
      if id = newId then some (.new plan.id newId) else s.api.execution.executions.get id := by
    intro id
    rw [hcoordinator]
    exact Table.get_put _ _ _ _
  have hkept : ∀ id execution, s.api.execution.executions.get id = some execution →
      s'.api.execution.executions.get id = some execution := by
    intro id execution hexecution
    rw [hget, if_neg]
    · exact hexecution
    · rintro rfl
      rw [fresh] at hexecution
      cases hexecution
  have hunknown : statusOf s newId = none := by
    rw [statusOf, fresh]
    rfl
  have hstatus : ∀ id status, statusOf s id = some status → statusOf s' id = some status := by
    intro id status hid
    obtain ⟨execution, hexecution, hsame⟩ := statusOf_terminal hid
    rw [statusOf, hkept id execution hexecution, ← hsame]
    rfl
  have hback : ∀ id status, statusOf s' id = some status → status ≠ .queued →
      statusOf s id = some status := by
    intro id status hid hne
    rw [statusOf, hget] at hid
    split at hid
    case isTrue => exact absurd (Option.some.inj hid).symm hne
    case isFalse => exact hid
  have hplans : ∀ id known, s.api.execution.plans.get id = some known →
      s'.api.execution.plans.get id = some known := by
    intro id known hknown
    have hne : id ≠ newId := by
      rintro rfl
      have hplanned := h.coherent.planned id
      rw [fresh, hknown] at hplanned
      cases hplanned
    rw [hcoordinator]
    exact (Table.get_put_ne _ _ hne).trans hknown
  constructor
  · rw [hcoordinator]
    exact hmove.enqueue _ _ _ _ fresh
  · intro call phase hcall
    rw [hcalls] at hcall
    have hfits := h.fits call phase hcall
    refine hfits.mono hplans ?_ (fun id execution hexecution _ => hkept id execution hexecution)
      (fun id hid => by rw [hsent]; exact hid)
      (fun response hresponse => by rw [hresponses]; exact hresponse)
    intro id hactive
    rcases hfits.active hactive with hold | hold
    · rw [hold]
      exact hstatus id _ hold
    · rw [hold]
      exact hstatus id _ hold
  · rw [hcalls]
    exact h.alone
  · intro id hid
    rw [hsent] at hid
    obtain ⟨⟨known, hknown, hsendable⟩, hpath⟩ := h.sent id hid
    refine ⟨⟨known, hplans id known hknown, hsendable⟩, ?_⟩
    exact hpath.imp (hstatus id _) (Or.imp (hstatus id _) (hstatus id _))
  · intro id hid
    rw [hlost] at hid
    obtain ⟨hid', hrunning, other, hother⟩ := h.lost id hid
    refine ⟨?_, hstatus id _ hrunning, other, ?_⟩
    · rw [hsent]
      exact hid'
    · rw [hcalls]
      exact hother
  · intro id hid
    rw [hresponses]
    exact h.succeeded id (hback id _ hid (by decide))
  · intro id hid
    rw [hresponses]
    exact h.failed id (hback id _ hid (by decide))
  · intro execution hexecution hterminal
    rw [hstore] at hexecution
    rcases List.mem_append.mp hexecution with hold | hlast
    · exact hkept _ _ (h.copies execution hold hterminal)
    · obtain rfl := List.mem_singleton.mp hlast
      cases hterminal

/-- **A step that is undisturbed keeps the invariant.** -/
theorem Candid.step (h : Candid s) {action : ServiceAction} (hok : Undisturbed s action)
    (heffect : Effect s action s') : Candid s' := by
  cases heffect with
  | idle => exact h
  | @unbegun call now id plan agent phase =>
    exact h.ends (not_lost phase (by simp))
  | @unfinished call now id error response phase refuses =>
    -- the execution of a lost call is running, and could be finished
    refine h.ends fun known hlost hanswered => ?_
    rw [phase, Option.some.injEq, CallPhase.answered.injEq] at hanswered
    obtain ⟨rfl, rfl⟩ := hanswered
    exact not_running_of_refused refuses (h.lost _ hlost).2.1
  | planned fresh named unconfirmed => exact h.same rfl rfl rfl rfl rfl h.copies
  | registered => exact h.same rfl rfl rfl rfl rfl h.copies
  | spoiled named => exact h.same rfl rfl rfl rfl rfl h.copies
  | created named fresh unused log => exact h.enqueued fresh rfl rfl rfl rfl rfl rfl
  | repeated named known => exact h.same rfl rfl rfl rfl rfl h.copies
  | located unused found =>
    refine h.goesOn found (fun id hid => by cases hid) fun known _ hanswered => ?_
    rw [unused] at hanswered
    cases hanswered
  | begun phase begins => exact h.begun phase begins
  | @sent call id plan agent phase sends =>
    obtain ⟨hplan, hstatus⟩ := h.fits call _ phase
    have hrunning : statusOf s id = some .running := by
      rcases hstatus with hrunning | ⟨-, hrefused⟩
      · exact hrunning
      · exact absurd sends hrefused
    refine (h.sentTo hplan sends hrunning).goesOn ⟨hplan, sends, List.mem_cons_self, hrunning⟩ ?_ ?_
    · intro known hknown
      cases hknown
      exact h.noOther phase rfl
    · exact not_lost phase (by simp)
  | @unsent call id plan agent error phase sends =>
    obtain ⟨-, hstatus⟩ := h.fits call _ phase
    have hfits : Fits s (.answered id (.error error)) := hstatus.imp_right (·.1)
    refine h.goesOn hfits ?_ ?_
    · intro known hknown
      cases hknown
      exact h.noOther phase rfl
    · exact not_lost phase (by simp)
  | answered phase => exact h.answered phase
  | finished phase finishes => exact h.finished phase hok finishes
  | @recorded call now dbFails id execution result tables phase =>
    obtain ⟨hid, -, hheld⟩ := h.fits call _ phase
    have hends : Candid (s.ends call) := h.ends (not_lost phase (by simp))
    refine hends.same rfl rfl rfl rfl rfl fun copy hcopy hterminal => ?_
    rcases List.mem_append.mp hcopy with hold | hlast
    · exact h.copies copy (List.mem_filter.mp hold).1 hterminal
    · obtain rfl := List.mem_singleton.mp hlast
      rw [hid]
      exact hheld
  | aborted unused names aborts => exact h.aborted unused names hok aborts
  | reconciled unused reconciles => exact absurd hok (fun hfalse => hfalse)
  | @stored call id execution phase =>
    obtain ⟨hid, -, hheld⟩ := h.fits call _ phase
    have hends : Candid (s.ends call) := h.ends (not_lost phase (by simp))
    refine hends.same rfl rfl rfl rfl rfl fun copy hcopy hterminal => ?_
    rcases mem_replaceFirst hcopy with rfl | hold
    · rw [hid]
      exact hheld
    · exact h.copies copy hold hterminal
  | @restored call id execution phase => exact absurd (h.fits call _ phase) (fun hfalse => hfalse)

/-- **The statuses tell the truth** in every state of every run in which no abort meets a running
execution whose command can be sent, and no run finishes a running execution on an error. -/
theorem tellsTruth_of_undisturbed (h : (serviceMachine digest).Reach Undisturbed s) :
    TellsTruth s := by
  have hcandid : Candid s := by
    refine h.invariant (I := Candid) ?_ ?_
    · rintro s ⟨agents, repositories, rfl⟩
      exact candid_fresh agents repositories
    · intro s action s' _ hcandid hok hstep
      exact hcandid.step hok (effect_of_step hstep)
  exact hcandid.tellsTruth

/-- An agent is registered for container 101. -/
def registersAgent : ServiceAction := .registerAgent ⟨101⟩ ⟨0⟩

/-- The text of a small number as an id. -/
def idText (n : Nat) : String := String.ofList (Uuid.mk (BitVec.ofNat 128 n)).toText

/-- A plan is created and confirmed, and the command of its execution is sent by the request with
the number `call`. -/
def sendsCommand (planId executionId call : Nat) : List ServiceAction :=
  [createsPlan ⟨⟨BitVec.ofNat 128 planId⟩⟩,
    .confirm (idText planId) [] ⟨⟨BitVec.ofNat 128 executionId⟩⟩ 10 false,
    .run call (idText executionId), .begin call 20, .send call]

/-- The agent answers with an exit code. -/
def answersWith (code : Int) : Nat → Attempt :=
  fun _ => .success (some ⟨⟨1⟩, code == 0, code, "", "", false, 5⟩)

theorem tellsTruth_of_success :
    ∃ s, (serviceMachine opensslDigest).Reach Undisturbed s ∧
      statusOf s ⟨⟨2⟩⟩ = some .succeeded ∧ TellsTruth s := by
  have hrun : ∃ s ∈ (serviceMachine opensslDigest).exec Undisturbed (.fresh ∅ none)
        (registersAgent :: sendsCommand 1 2 0 ++
          [.answer 0 (answersWith 0), .finish 0 30, .record 0 40 false]),
      statusOf s ⟨⟨2⟩⟩ = some .succeeded := by
    decide +kernel
  obtain ⟨s, hexec, hstatus⟩ := hrun
  have hreach : (serviceMachine opensslDigest).Reach Undisturbed s :=
    .exec (.init ⟨∅, none, rfl⟩) _ hexec
  exact ⟨s, hreach, hstatus, tellsTruth_of_undisturbed hreach⟩

/-- The agent call of one execution is lost, and it has failed; the command of another one has been
sent, and it is aborted. -/
theorem lost_and_aborted_in_flight :
    ∃ s, (serviceMachine opensslDigest).Reach RunsAndAborts s ∧
      (⟨⟨2⟩⟩ ∈ s.lost ∧ statusOf s ⟨⟨2⟩⟩ = some .failed) ∧
      (⟨⟨4⟩⟩ ∈ s.sent ∧ statusOf s ⟨⟨4⟩⟩ = some .aborted) ∧ ¬ TellsTruth s := by
  have hrun : ∃ s ∈ (serviceMachine opensslDigest).exec RunsAndAborts (.fresh ∅ none)
        (registersAgent :: sendsCommand 1 2 0 ++
          [.answer 0 fun _ => .transport, .finish 0 30] ++ sendsCommand 3 4 1 ++
          [.abort 2 (idText 4) 40]),
      (⟨⟨2⟩⟩ ∈ s.lost ∧ statusOf s ⟨⟨2⟩⟩ = some .failed) ∧
        (⟨⟨4⟩⟩ ∈ s.sent ∧ statusOf s ⟨⟨4⟩⟩ = some .aborted) := by
    decide +kernel
  obtain ⟨s, hexec, hfailed, haborted⟩ := hrun
  refine ⟨s, .exec (.init ⟨∅, none, rfl⟩) _ hexec, hfailed, haborted, fun h => ?_⟩
  have hopen := h.lost _ hfailed.1 .failed (.inl hfailed.2)
  cases hopen

end Lxcup.Executions
