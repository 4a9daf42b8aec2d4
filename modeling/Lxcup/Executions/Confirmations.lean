import Lxcup.Executions.Service
import Lxcup.Execution.Invariant

/-!
# Repeated confirmations

A confirmation that is repeated should be answered with the execution of the first one, and never
with the execution of another plan.  The keys of the coordinator are not bound to plans, and they
are looked at only after the plan itself has been taken from ready to confirmed.

What carries the argument is that a plan with an execution, or with an answered confirmation, is
confirmed for good: such a plan is never ready again, so that a repeated confirmation is always
refused, and a known key always belongs to another plan.

## Main definitions

* `ConfirmedIn` — the plan of a path is confirmed in the store.
* `Traced` — every copy of an execution leads to a confirmed plan, and the store has a copy of
  every execution.
* `Idempotent` — what a confirmation in a state should do.
* `FirstAndOwn` — the confirmation is the first with its plan and key, and no other plan has used
  the key.

## Main results

* `traced_of_reach` — the invariant, for every run.
* `confirm_idempotent_iff` — exactly when a confirmation does what it should.
-/

namespace Lxcup.Executions

open Lxcup.Lib Lxcup.Core Lxcup.Execution Lxcup.Agent Lxcup.Server ExecutionService

/-! ### Plans that are confirmed -/

/-- The plan of a path is confirmed. -/
def ConfirmedIn (store : ExecutionStore) (uuid : Uuid) : Prop :=
  ∃ plan, findPlan store uuid = some plan ∧ plan.status = .confirmed

variable {digest : CanonicalPlan → String} {s s' : ExecutionService}
  {store store' : ExecutionStore} {uuid other : Uuid} {plan : UpdatePlan} {planId : String}

theorem ConfirmedIn.append (h : ConfirmedIn store uuid)
    (hplans : store'.plans = store.plans ++ [plan]) : ConfirmedIn store' uuid := by
  obtain ⟨confirmed, hfound, hstatus⟩ := h
  refine ⟨confirmed, ?_, hstatus⟩
  rw [findPlan, hplans, List.find?_append]
  rw [findPlan] at hfound
  rw [hfound]
  rfl

/-- The plan that has been confirmed is found confirmed. -/
theorem confirmedIn_withPlan {api : ExecutionApi} (hnamed : NamesReady api planId uuid plan)
    (hplans : store'.plans = (withPlan api.store uuid (confirmedPlan plan)).plans) :
    ConfirmedIn store' uuid := by
  have hid : plan.id.uuid = uuid := by simpa using List.find?_some hnamed.2.1
  refine ⟨confirmedPlan plan, ?_, rfl⟩
  rw [findPlan, hplans]
  exact find?_replaceFirst hnamed.2.1 (decide_eq_true hid)

theorem ConfirmedIn.withPlan {api : ExecutionApi} (h : ConfirmedIn api.store other)
    (hnamed : NamesReady api planId uuid plan)
    (hplans : store'.plans = (Server.withPlan api.store uuid (confirmedPlan plan)).plans) :
    ConfirmedIn store' other := by
  by_cases hother : other = uuid
  · rw [hother]
    exact confirmedIn_withPlan hnamed hplans
  · have hid : plan.id.uuid = uuid := by simpa using List.find?_some hnamed.2.1
    obtain ⟨confirmed, hfound, hstatus⟩ := h
    refine ⟨confirmed, ?_, hstatus⟩
    have hdiffers : decide (plan.id.uuid = other) = false :=
      decide_eq_false (by rw [hid]; exact Ne.symm hother)
    rw [findPlan, hplans]
    exact (find?_replaceFirst_ne hnamed.2.1 hdiffers hdiffers).trans hfound

/-- A confirmed plan is not ready. -/
theorem ConfirmedIn.not_ready {api : ExecutionApi} (h : ConfirmedIn api.store uuid) :
    ¬ NamesReady api planId uuid plan := by
  rintro ⟨-, hfound, hready⟩
  obtain ⟨confirmed, hconfirmed, hstatus⟩ := h
  obtain rfl : confirmed = plan := Option.some.inj (hconfirmed.symm.trans hfound)
  rw [hready] at hstatus
  cases hstatus

/-! ### The invariant -/

/-- The copy of an execution that a request has still to write into the store. -/
def CallPhase.copy? : CallPhase → Option (ExecutionId × Execution)
  | .finished id execution _ => some (id, execution)
  | .aborted id execution => some (id, execution)
  | .reconciled id execution => some (id, execution)
  | _ => none

/-- Every copy of an execution leads to a confirmed plan, and so does every confirmation that has
been answered; the store has a copy of every execution of the coordinator. -/
structure Traced (s : ExecutionService) : Prop where
  coherent : s.api.execution.Coherent
  /-- Executions of the coordinator. -/
  held : ∀ id execution, s.api.execution.executions.get id = some execution →
    execution.id = id ∧ ConfirmedIn s.api.store execution.planId.uuid ∧
      ∃ copy ∈ s.api.store.executions, copy.id = id
  stored : ∀ execution ∈ s.api.store.executions,
    ConfirmedIn s.api.store execution.planId.uuid
  carried : ∀ call phase id execution, s.calls.get call = some phase →
    phase.copy? = some (id, execution) →
      execution.id = id ∧ ConfirmedIn s.api.store execution.planId.uuid
  answered : ∀ entry ∈ s.confirmations, ConfirmedIn s.api.store entry.plan

theorem traced_fresh (agents : Table ContainerId RegisteredAgent)
    (repositories : Option ExecutionTables) : Traced (.fresh agents repositories) where
  coherent := ExecutionCoordinator.coherent_default
  held id execution h := by simp [fresh, ExecutionCoordinator.default] at h
  stored execution h := by simp [fresh] at h
  carried call phase id execution h := by simp [fresh] at h
  answered entry h := by simp [fresh] at h

/-- A request goes on, with a copy of an execution that is traced. -/
theorem Traced.goesOn (h : Traced s) {call : Nat} {phase : CallPhase}
    (hphase : ∀ id execution, phase.copy? = some (id, execution) →
      execution.id = id ∧ ConfirmedIn s.api.store execution.planId.uuid) :
    Traced (s.goesOn call phase) where
  coherent := h.coherent
  held := h.held
  stored := h.stored
  carried other phase' id execution hcall hcopy := by
    rcases Table.get_put_cases hcall with ⟨-, rfl⟩ | ⟨-, hold⟩
    · exact hphase id execution hcopy
    · exact h.carried other phase' id execution hold hcopy
  answered := h.answered

theorem Traced.ends (h : Traced s) (call : Nat) : Traced (s.ends call) where
  coherent := h.coherent
  held := h.held
  stored := h.stored
  carried other phase id execution hcall hcopy := by
    simp only [ExecutionService.ends, Table.get_remove] at hcall
    split at hcall
    case isTrue => cases hcall
    case isFalse => exact h.carried other phase id execution hcall hcopy
  answered := h.answered

/-- The history of sent commands and answers does not matter. -/
theorem Traced.heard (h : Traced s) (id : ExecutionId)
    (response : Except AgentError AgentCommandResponse) : Traced (s.heard id response) := by
  cases response with
  | ok response => exact ⟨h.coherent, h.held, h.stored, h.carried, h.answered⟩
  | error error =>
    cases error <;> exact ⟨h.coherent, h.held, h.stored, h.carried, h.answered⟩

/-- An execution goes along an edge of its lifecycle: the new copy is traced as the old one. -/
theorem Traced.coordinated (h : Traced s) {coordinator : ExecutionCoordinator} {id : ExecutionId}
    {execution execution' : Execution} {next : ExecutionStatus} {now : Timestamp}
    (hmoved : s.api.execution.MovedTo coordinator id next now execution execution') :
    Traced (s.coordinated coordinator) ∧ execution'.id = id ∧
      ConfirmedIn s.api.store execution'.planId.uuid := by
  obtain ⟨-, -, hid, hplan, -, -⟩ := Execution.transitionTo_ok hmoved.edge
  obtain ⟨hnamed, hconfirmed, hcopy⟩ := h.held id execution hmoved.found
  refine ⟨⟨h.coherent.move hmoved.move, ?_, h.stored, h.carried, h.answered⟩, by rw [hid, hnamed],
    by rw [hplan]; exact hconfirmed⟩
  intro other after hafter
  simp only [ExecutionService.coordinated, hmoved.executions] at hafter
  rcases Table.get_put_cases hafter with ⟨rfl, rfl⟩ | ⟨-, hold⟩
  · rw [hid, hplan]
    exact ⟨hnamed, hconfirmed, hcopy⟩
  · exact h.held other after hold

/-- A traced copy is written into the store in place of any other copies. -/
theorem Traced.written (h : Traced s) {id : ExecutionId} {execution : Execution}
    {executions : List Execution} {results : Table ExecutionId ExecutionResultDto}
    {tables : Option ExecutionTables} (hid : execution.id = id)
    (hconfirmed : ConfirmedIn s.api.store execution.planId.uuid)
    (hmem : ∀ copy ∈ executions, copy = execution ∨ copy ∈ s.api.store.executions)
    (hkept : ∀ copy ∈ s.api.store.executions, copy.id ≠ id → copy ∈ executions)
    (hnew : (∃ copy ∈ s.api.store.executions, copy.id = id) → execution ∈ executions) :
    Traced { s with api := { s.api with
      store := { s.api.store with executions := executions, results := results }
      repositories := tables } } where
  coherent := h.coherent
  held other held hheld := by
    obtain ⟨hnamed, hplan, hcopy⟩ := h.held other held hheld
    refine ⟨hnamed, hplan, ?_⟩
    by_cases hother : other = id
    · rw [hother] at hcopy ⊢
      exact ⟨execution, hnew hcopy, hid⟩
    · obtain ⟨copy, hmem', hcopyid⟩ := hcopy
      exact ⟨copy, hkept copy hmem' (by rw [hcopyid]; exact hother), hcopyid⟩
  stored copy hcopy := by
    rcases hmem copy hcopy with rfl | hold
    · exact hconfirmed
    · exact h.stored copy hold
  carried := h.carried
  answered := h.answered

/-- The store after a run or a reconciliation. -/
theorem Traced.storeExecution (h : Traced s) {id : ExecutionId} {execution : Execution}
    {results : Table ExecutionId ExecutionResultDto} {tables : Option ExecutionTables}
    (hid : execution.id = id) (hconfirmed : ConfirmedIn s.api.store execution.planId.uuid) :
    Traced { s with api := { s.api with
      store := { Server.storeExecution s.api.store id execution with results := results }
      repositories := tables } } := by
  refine h.written hid hconfirmed ?_ ?_ ?_
  · intro copy hcopy
    rcases List.mem_append.mp hcopy with hold | hnew
    · exact .inr (List.mem_filter.mp hold).1
    · exact .inl (List.mem_singleton.mp hnew)
  · intro copy hcopy hother
    exact List.mem_append_left _ (List.mem_filter.mpr ⟨hcopy, decide_eq_true hother⟩)
  · intro _
    exact List.mem_append_right _ (List.mem_singleton_self _)

/-- The store after an abort. -/
theorem Traced.storeAborted (h : Traced s) {id : ExecutionId} {execution : Execution}
    (hid : execution.id = id) (hconfirmed : ConfirmedIn s.api.store execution.planId.uuid) :
    Traced { s with api := { s.api with
      store := Server.storeAborted s.api.store id execution } } := by
  have hwritten := @Traced.written s h id execution
    (replaceFirst (fun stored => stored.id = id) execution s.api.store.executions)
    s.api.store.results s.api.repositories hid hconfirmed (fun copy hcopy => mem_replaceFirst hcopy)
  refine hwritten ?_ ?_
  · intro copy hcopy hother
    exact mem_replaceFirst_of_not hcopy (decide_eq_false hother)
  · rintro ⟨copy, hcopy, hcopyid⟩
    exact mem_replaceFirst_self hcopy (decide_eq_true hcopyid)

/-- Plans are added or confirmed. -/
theorem Traced.replanned (h : Traced s) (tables : Option ExecutionTables)
    (hstay : ∀ uuid, ConfirmedIn s.api.store uuid → ConfirmedIn store' uuid)
    (hexecutions : store'.executions = s.api.store.executions) :
    Traced { s with api := { s.api with store := store', repositories := tables } } where
  coherent := h.coherent
  held id execution hheld := by
    obtain ⟨hid, hplan, hcopy⟩ := h.held id execution hheld
    exact ⟨hid, hstay _ hplan, by rw [hexecutions]; exact hcopy⟩
  stored execution hstored := hstay _ (h.stored execution (by rw [← hexecutions]; exact hstored))
  carried call phase id execution hcall hcopy := by
    obtain ⟨hid, hplan⟩ := h.carried call phase id execution hcall hcopy
    exact ⟨hid, hstay _ hplan⟩
  answered entry hentry := hstay _ (h.answered entry hentry)

/-- An execution is queued for a plan that has just been confirmed. -/
theorem Traced.enqueued (h : Traced s) (headers : HeaderMap) {newId : ExecutionId}
    {now : Timestamp} {tables : Option ExecutionTables} (hnamed : NamesReady s.api planId uuid plan)
    (hfresh : s.api.execution.executions.get newId = none) :
    Traced { s with api := { s.api with
      store := { withPlan s.api.store uuid (confirmedPlan plan) with
        executions := s.api.store.executions ++ [.new plan.id newId] }
      execution := s.api.execution.enqueue (confirmedPlan plan) (confirmingActor headers)
        (confirmationKey headers uuid) newId now
      repositories := tables } } := by
  have hid : plan.id.uuid = uuid := by simpa using List.find?_some hnamed.2.1
  have hstay := fun other (hother : ConfirmedIn s.api.store other) =>
    hother.withPlan hnamed
      (rfl : (withPlan s.api.store uuid (confirmedPlan plan)).plans = _)
  have hnew : ConfirmedIn (withPlan s.api.store uuid (confirmedPlan plan)) plan.id.uuid := by
    rw [hid]
    exact confirmedIn_withPlan hnamed rfl
  constructor
  · exact h.coherent.enqueue _ _ _ _ hfresh
  · intro id execution hheld
    rcases Table.get_put_cases hheld with ⟨rfl, rfl⟩ | ⟨-, hold⟩
    · exact ⟨rfl, hnew, _, List.mem_append_right _ (List.mem_singleton_self _), rfl⟩
    · obtain ⟨hexecution, hplan, copy, hcopy, hcopyid⟩ := h.held id execution hold
      exact ⟨hexecution, hstay _ hplan, copy, List.mem_append_left _ hcopy, hcopyid⟩
  · intro execution hstored
    rcases List.mem_append.mp hstored with hold | hlast
    · exact hstay _ (h.stored execution hold)
    · obtain rfl := List.mem_singleton.mp hlast
      exact hnew
  · intro call phase id execution hcall hcopy
    obtain ⟨hexecution, hplan⟩ := h.carried call phase id execution hcall hcopy
    exact ⟨hexecution, hstay _ hplan⟩
  · intro entry hentry
    exact hstay _ (h.answered entry hentry)

/-- Confirmations of a confirmed plan are added to the history. -/
theorem Traced.logged (h : Traced s) {confirmations : List Confirmed}
    (hlog : ∀ entry ∈ confirmations, entry ∈ s.confirmations ∨
      ConfirmedIn s.api.store entry.plan) :
    Traced { s with confirmations := confirmations } where
  coherent := h.coherent
  held := h.held
  stored := h.stored
  carried := h.carried
  answered entry hentry := by
    rcases hlog entry hentry with hold | hplan
    · exact h.answered entry hold
    · exact hplan

/-- **Every step keeps the invariant.** -/
theorem Traced.step (h : Traced s) {action : ServiceAction} (heffect : Effect s action s') :
    Traced s' := by
  cases heffect with
  | idle => exact h
  | unbegun phase => exact h.ends _
  | unfinished phase refuses => exact h.ends _
  | planned fresh named unconfirmed =>
    exact h.replanned _ (fun uuid hplan => hplan.append rfl) rfl
  | registered => exact ⟨h.coherent, h.held, h.stored, h.carried, h.answered⟩
  | spoiled named => exact h.replanned _ (fun uuid hplan => hplan.withPlan named rfl) rfl
  | @created planId headers newId now dbFails uuid plan tables confirmations named fresh unused
      log =>
    refine (h.enqueued headers named fresh).logged fun entry hentry => ?_
    rcases log entry hentry with hold | rfl
    · exact .inl hold
    · exact .inr (confirmedIn_withPlan named rfl)
  | @repeated planId headers newId now dbFails uuid plan id named known =>
    have hplanned := h.replanned s.api.repositories
      (fun other hplan => hplan.withPlan named
        (rfl : (withPlan s.api.store uuid (confirmedPlan plan)).plans = _)) rfl
    refine hplanned.logged fun entry hentry => ?_
    rcases List.mem_cons.mp hentry with rfl | hold
    · exact .inr (confirmedIn_withPlan named rfl)
    · exact .inl hold
  | located unused found => exact h.goesOn fun id execution hcopy => by cases hcopy
  | begun phase begins =>
    obtain ⟨-, execution, execution', hmoved⟩ := ExecutionCoordinator.begin_ok begins
    exact (h.coordinated hmoved).1.goesOn fun id execution hcopy => by cases hcopy
  | @sent call id plan agent phase sends =>
    have hsent : Traced { s with sent := id :: s.sent } :=
      ⟨h.coherent, h.held, h.stored, h.carried, h.answered⟩
    exact hsent.goesOn fun id execution hcopy => by cases hcopy
  | unsent phase sends => exact h.goesOn fun id execution hcopy => by cases hcopy
  | answered phase => exact (h.heard _ _).goesOn fun id execution hcopy => by cases hcopy
  | finished phase finishes =>
    obtain ⟨execution, hmoved⟩ := ExecutionCoordinator.finish_ok finishes
    obtain ⟨htraced, hid, hplan⟩ := h.coordinated hmoved
    refine htraced.goesOn fun id execution hcopy => ?_
    cases hcopy
    exact ⟨hid, hplan⟩
  | recorded phase =>
    obtain ⟨hid, hplan⟩ := h.carried _ _ _ _ phase rfl
    exact (h.ends _).storeExecution hid hplan
  | aborted unused names aborts =>
    obtain ⟨execution, hmoved⟩ := ExecutionCoordinator.abort_ok aborts
    obtain ⟨htraced, hid, hplan⟩ := h.coordinated hmoved
    refine htraced.goesOn fun id execution hcopy => ?_
    cases hcopy
    exact ⟨hid, hplan⟩
  | reconciled unused reconciles =>
    rcases ExecutionCoordinator.reconcile_ok reconciles with ⟨rfl, found⟩ | ⟨result, finishes⟩
    · obtain ⟨hid, hplan, -⟩ := h.held _ _ found
      refine Traced.goesOn (s := s.coordinated s.api.execution)
        ⟨h.coherent, h.held, h.stored, h.carried, h.answered⟩ fun id execution hcopy => ?_
      cases hcopy
      exact ⟨hid, hplan⟩
    · obtain ⟨execution, hmoved⟩ := ExecutionCoordinator.finish_ok finishes
      obtain ⟨htraced, hid, hplan⟩ := h.coordinated hmoved
      refine htraced.goesOn fun id execution hcopy => ?_
      cases hcopy
      exact ⟨hid, hplan⟩
  | stored phase =>
    obtain ⟨hid, hplan⟩ := h.carried _ _ _ _ phase rfl
    exact (h.ends _).storeAborted hid hplan
  | restored phase =>
    obtain ⟨hid, hplan⟩ := h.carried _ _ _ _ phase rfl
    exact (h.ends _).storeExecution hid hplan

theorem traced_of_reach (h : (serviceMachine digest).Reach Machine.Any s) : Traced s := by
  refine h.invariant (I := Traced) ?_ ?_
  · rintro s ⟨agents, repositories, rfl⟩
    exact traced_fresh agents repositories
  · intro s action s' _ htraced _ hstep
    exact htraced.step (effect_of_step hstep)

/-- A key that the coordinator knows leads to an execution that the store has a copy of. -/
theorem Traced.find_known (h : Traced s) {key : String} {id : ExecutionId}
    (hknown : s.api.execution.idempotency.get key = some id) :
    ∃ execution, findExecution s.api.store id = some execution ∧ execution.id = id := by
  obtain ⟨held, hheld⟩ := Option.isSome_iff_exists.mp (h.coherent.keyed key id hknown)
  obtain ⟨-, -, copy, hcopy, hid⟩ := h.held id held hheld
  have hsome : (findExecution s.api.store id).isSome = true :=
    List.find?_isSome.mpr ⟨copy, hcopy, decide_eq_true hid⟩
  obtain ⟨found, hfound⟩ := Option.isSome_iff_exists.mp hsome
  exact ⟨found, hfound, by simpa using List.find?_some hfound⟩

/-! ### What a confirmation should do -/

/-- A confirmation that has been answered before is answered with the same execution, and no
confirmation is answered with an execution of another plan. -/
def Idempotent (digest : CanonicalPlan → String) (s : ExecutionService) (planId : String)
    (headers : HeaderMap) (newId : ExecutionId) (now : Timestamp) (dbFails : Bool) : Prop :=
  (∀ uuid, Uuid.parseStr planId.toList = some uuid → ∀ entry ∈ s.confirmations,
    entry.plan = uuid → entry.key = confirmationKey headers uuid →
      ∃ dto, (confirmPlan digest s.api planId headers newId now dbFails).1 = .ok dto ∧
        dto.id = entry.execution) ∧
  ∀ dto, (confirmPlan digest s.api planId headers newId now dbFails).1 = .ok dto →
    Uuid.parseStr planId.toList = some dto.planId.uuid

/-- No confirmation of the plan under the key has been answered before, and when the plan is ready
and the coordinator would start it, the key is a new one. -/
def FirstAndOwn (s : ExecutionService) (planId : String) (headers : HeaderMap) : Prop :=
  ∀ uuid, Uuid.parseStr planId.toList = some uuid →
    (∀ entry ∈ s.confirmations, entry.plan = uuid → entry.key ≠ confirmationKey headers uuid) ∧
    ∀ plan, NamesReady s.api planId uuid plan → StartRefused s.api headers uuid plan ∨
      s.api.execution.idempotency.get (confirmationKey headers uuid) = none

section

variable {planId : String} {headers : HeaderMap} {newId : ExecutionId} {now : Timestamp}
  {dbFails : Bool} {uuid : Uuid}

/-- A repetition finds its plan confirmed, and is refused. -/
theorem Traced.not_repeated (htraced : Traced s)
    (h : Idempotent digest s planId headers newId now dbFails)
    (huuid : Uuid.parseStr planId.toList = some uuid) :
    ∀ entry ∈ s.confirmations, entry.plan = uuid → entry.key ≠ confirmationKey headers uuid := by
  intro entry hentry hplan hkey
  obtain ⟨dto, hanswer, -⟩ := h.1 uuid huuid entry hentry hplan hkey
  have hconfirmed := htraced.answered entry hentry
  rw [hplan] at hconfirmed
  have hcases := confirmInMemory_cases digest s.api planId headers newId now
  generalize hcall : confirmInMemory digest s.api planId headers newId now = outcome at hcases
  cases hcases with
  | unnamed hnone =>
    rw [confirmPlan_of_error dbFails hcall] at hanswer
    cases hanswer
  | spoiled hnamed => exact absurd hnamed ((hnamed.uuid huuid) ▸ hconfirmed).not_ready
  | created hnamed => exact absurd hnamed ((hnamed.uuid huuid) ▸ hconfirmed).not_ready
  | duplicate hnamed => exact absurd hnamed ((hnamed.uuid huuid) ▸ hconfirmed).not_ready

/-- A known key belongs to an execution of a confirmed plan, hence of another one. -/
theorem Traced.key_unused (htraced : Traced s)
    (h : Idempotent digest s planId headers newId now dbFails)
    (huuid : Uuid.parseStr planId.toList = some uuid) {plan : UpdatePlan}
    (hnamed : NamesReady s.api planId uuid plan)
    (haccepted : ¬ StartRefused s.api headers uuid plan) :
    s.api.execution.idempotency.get (confirmationKey headers uuid) = none := by
  by_contra hused
  obtain ⟨id, hknown⟩ := Option.ne_none_iff_exists'.mp hused
  obtain ⟨execution, hfound, -⟩ := htraced.find_known hknown
  have hother : ConfirmedIn s.api.store execution.planId.uuid :=
    htraced.stored execution (List.mem_of_find?_eq_some hfound)
  have hcases := confirmInMemory_cases digest s.api planId headers newId now
  generalize hcall : confirmInMemory digest s.api planId headers newId now = outcome at hcases
  cases hcases with
  | unnamed hnone => exact hnone uuid plan hnamed
  | @spoiled error uuid' plan' hnamed' hrefused =>
    obtain ⟨rfl, rfl⟩ := hnamed.unique hnamed'
    rcases hrefused with hrefused | ⟨id', hknown', hmissing⟩
    · exact haccepted hrefused
    · obtain rfl : id = id' := Option.some.inj (hknown.symm.trans hknown')
      rw [hfound] at hmissing
      cases hmissing
  | @created uuid' plan' hnamed' haccepted' hunused =>
    obtain ⟨rfl, rfl⟩ := hnamed.unique hnamed'
    exact hused hunused
  | @duplicate uuid' plan' id' execution' hnamed' haccepted' hknown' hfound' =>
    obtain ⟨rfl, rfl⟩ := hnamed.unique hnamed'
    obtain rfl : id = id' := Option.some.inj (hknown.symm.trans hknown')
    obtain rfl : execution = execution' := Option.some.inj (hfound.symm.trans hfound')
    have hown := h.2 (.ofExecution execution) (by rw [confirmPlan_of_duplicate dbFails hcall])
    rw [huuid, Option.some.injEq] at hown
    rw [show execution.planId.uuid = uuid from hown.symm] at hother
    exact hother.not_ready hnamed

/-- A first confirmation under a key of its own is answered with an execution of its plan. -/
theorem FirstAndOwn.idempotent (h : FirstAndOwn s planId headers) :
    Idempotent digest s planId headers newId now dbFails := by
  constructor
  · intro uuid huuid entry hentry hplan hkey
    exact absurd hkey ((h uuid huuid).1 entry hentry hplan)
  · intro dto hanswer
    have hcases := confirmInMemory_cases digest s.api planId headers newId now
    generalize hcall : confirmInMemory digest s.api planId headers newId now = outcome at hcases
    cases hcases with
    | unnamed hnone =>
      rw [confirmPlan_of_error dbFails hcall] at hanswer
      cases hanswer
    | spoiled hnamed hrefused =>
      rw [confirmPlan_of_error dbFails hcall] at hanswer
      cases hanswer
    | @created uuid plan hnamed haccepted hunused =>
      obtain ⟨answer, tables, hplan, rfl | ⟨error, rfl⟩⟩ := confirmPlan_of_created dbFails hcall
      · rw [hplan] at hanswer
        obtain rfl := Except.ok.inj hanswer
        have hid : plan.id.uuid = uuid := by simpa using List.find?_some hnamed.2.1
        rw [hnamed.1, ← hid]
        rfl
      · rw [hplan] at hanswer
        cases hanswer
    | @duplicate uuid plan id execution hnamed haccepted hknown hfound =>
      rcases (h uuid hnamed.1).2 plan hnamed with hrefused | hunused
      · exact absurd hrefused haccepted
      · rw [hknown] at hunused
        cases hunused

end

/-- **Exactly when a confirmation does what it should**, in every state that the server can reach:
it is not a repetition, and its key has not been used for another plan. -/
theorem confirm_idempotent_iff (h : (serviceMachine digest).Reach Machine.Any s) (planId : String)
    (headers : HeaderMap) (newId : ExecutionId) (now : Timestamp) (dbFails : Bool) :
    Idempotent digest s planId headers newId now dbFails ↔ FirstAndOwn s planId headers := by
  have htraced := traced_of_reach h
  constructor
  · intro hidempotent uuid huuid
    refine ⟨htraced.not_repeated hidempotent huuid, fun plan hnamed => ?_⟩
    by_cases hrefused : StartRefused s.api headers uuid plan
    · exact .inl hrefused
    · exact .inr (htraced.key_unused hidempotent huuid hnamed hrefused)
  · intro hfirst
    exact hfirst.idempotent

theorem first_confirmation_idempotent :
    ∃ s, (serviceMachine opensslDigest).Reach Machine.Any s ∧
      ((confirmPlan opensslDigest s.api opensslPlanText [] ⟨⟨2⟩⟩ 10 false).1.toOption).isSome = true ∧
      Idempotent opensslDigest s opensslPlanText [] ⟨⟨2⟩⟩ 10 false := by
  have hrun : ∃ s ∈ (serviceMachine opensslDigest).exec Machine.Any (.fresh ∅ none)
        [createsPlan ⟨⟨1⟩⟩],
      s.confirmations = [] ∧
        s.api.execution.idempotency.get opensslPlanText = none ∧
        ((confirmPlan opensslDigest s.api opensslPlanText [] ⟨⟨2⟩⟩ 10 false).1.toOption).isSome
          = true := by
    decide +kernel
  obtain ⟨s, hexec, hlog, hunused, hanswer⟩ := hrun
  have hreach : (serviceMachine opensslDigest).Reach Machine.Any s :=
    .exec (.init ⟨∅, none, rfl⟩) _ hexec
  refine ⟨s, hreach, hanswer, (confirm_idempotent_iff hreach _ _ _ _ _).mpr ?_⟩
  intro uuid huuid
  have hread : Uuid.parseStr opensslPlanText.toList = some ⟨1⟩ := by decide +kernel
  have hkey : confirmationKey [] ⟨1⟩ = opensslPlanText := by decide +kernel
  obtain rfl : (⟨1⟩ : Uuid) = uuid := Option.some.inj (hread.symm.trans huuid)
  refine ⟨fun entry hentry => ?_, fun plan _ => .inr ?_⟩
  · rw [hlog] at hentry
    cases hentry
  · rw [hkey]
    exact hunused

/-- The confirmation of a plan is answered with an execution; its repetition is refused. -/
theorem repeated_confirmation_refused :
    ¬ ∀ digest s, (serviceMachine digest).Reach Machine.Any s →
      ∀ planId headers newId now dbFails, Idempotent digest s planId headers newId now dbFails := by
  intro hall
  have hrun : ∃ s ∈ (serviceMachine opensslDigest).exec Machine.Any (.fresh ∅ none)
        [createsPlan ⟨⟨1⟩⟩, .confirm opensslPlanText [] ⟨⟨2⟩⟩ 10 false],
      (⟨⟨1⟩, opensslPlanText, ⟨⟨2⟩⟩⟩ : Confirmed) ∈ s.confirmations ∧
        (confirmPlan opensslDigest s.api opensslPlanText [] ⟨⟨3⟩⟩ 20 false).1
          = .error (.badRequest "plan_not_ready" "plan is not ready for confirmation") := by
    decide +kernel
  obtain ⟨s, hexec, hlogged, hanswer⟩ := hrun
  have hreach : (serviceMachine opensslDigest).Reach Machine.Any s :=
    .exec (.init ⟨∅, none, rfl⟩) _ hexec
  have hread : Uuid.parseStr opensslPlanText.toList = some ⟨1⟩ := by decide +kernel
  have hkey : opensslPlanText = confirmationKey [] ⟨1⟩ := by decide +kernel
  obtain ⟨dto, hdto, -⟩ := (hall _ s hreach opensslPlanText [] ⟨⟨3⟩⟩ 20 false).1 _ hread _ hlogged
    rfl hkey
  rw [hanswer] at hdto
  cases hdto

end Lxcup.Executions
