import Lxcup.Agent.Heartbeat
import Lxcup.Lib.Machine

/-!
# The pending package inventory

The agent keeps its last package inventory until a heartbeat has delivered it.  Its tasks send
heartbeats at the same time, while others record inventories: a task takes a copy of the
inventory, waits for the answer of the controller, and acknowledges what it has sent.  By then the
inventory may be another one, so that the acknowledgement is for one time of collection.

A step is what a task does between two waits.  The history of the run, the inventories that were
recorded and the heartbeats that were answered, is kept beside the state.

## Main definitions

* `LocalAgentState` with `recordPackageInventory` and `acknowledgePackageInventory`.
* `Sending` — how far a task is with its heartbeat.
* `reporterMachine` — the agent with any number of tasks.
* `DistinctTimes` — no two inventories are recorded for one time of collection.

## Main results

* `tracked_of_reach` — what is pending or on the way was recorded, and what is to be acknowledged
  was delivered.
* `newest_kept` — the inventory recorded last is pending or delivered.
* `inventory_leaves` — an inventory makes way for another one, or it was delivered.
-/

namespace Lxcup.Heartbeats

open Lxcup.Lib Lxcup.Core Lxcup.Agent

/-! ### The agent -/

/-- What the tasks of the agent share, as far as heartbeats carry it. -/
structure LocalAgentState where
  telemetry : TelemetryBuffer
  packageInventory : Option AgentPackageInventory
  deriving DecidableEq, Repr, Inhabited

namespace LocalAgentState

/-- `record_package_inventory`. -/
def recordPackageInventory (state : LocalAgentState) (inventory : AgentPackageInventory) :
    LocalAgentState :=
  { state with packageInventory := some inventory }

/-- `acknowledge_package_inventory`. -/
def acknowledgePackageInventory (state : LocalAgentState) (collectedAt : Timestamp) :
    LocalAgentState :=
  if state.packageInventory.any fun current => current.collectedAt = collectedAt then
    { state with packageInventory := none }
  else state

end LocalAgentState

/-- What comes of a request: a response with its status, or none. -/
inductive HeartbeatAnswer
  | response (status : Nat)
  | error
  deriving DecidableEq, Repr, Inhabited

/-- `status().is_success()`. -/
def HeartbeatAnswer.isSuccess : HeartbeatAnswer → Bool
  | .response status => 200 ≤ status && status < 300
  | .error => false

/-- How far a call of `send_agent_heartbeat` is. -/
inductive Sending
  | started
  /-- The telemetry is read, the package inventory is not. -/
  | measured (sentAt : Timestamp) (telemetry : SystemTelemetryWindow)
  | waiting (heartbeat : AgentHeartbeat)
  /-- The answer was a success, and `inventory_collected_at` is to be acknowledged. -/
  | accepted (heartbeat : AgentHeartbeat) (inventoryCollectedAt : Timestamp)
  | ended (delivered : Bool)
  deriving DecidableEq, Repr, Inhabited

/-- What a task does next with the answer to its heartbeat. -/
def afterAnswer (heartbeat : AgentHeartbeat) (answer : HeartbeatAnswer) : Sending :=
  if answer.isSuccess then
    match heartbeat.packageInventory.map (·.collectedAt) with
    | some collectedAt => .accepted heartbeat collectedAt
    | none => .ended true
  else .ended false

/-- The agent and the history of the run, the newest first. -/
structure Reporter where
  state : LocalAgentState
  tasks : Table Nat Sending
  recorded : List AgentPackageInventory
  answered : List (AgentHeartbeat × HeartbeatAnswer)

/-- The steps of the tasks. -/
inductive ReporterAction
  | recordTelemetry (sample : SystemTelemetrySample) (now : Timestamp)
  | recordInventory (inventory : AgentPackageInventory)
  | start (task : Nat)
  | measure (task : Nat) (sentAt now : Timestamp)
  | snapshot (task : Nat)
  | answer (task : Nat) (answer : HeartbeatAnswer)
  | acknowledge (task : Nat)
  deriving DecidableEq, Repr

namespace Reporter

/-- A step of an agent that reports for a target. -/
def step (targetId : Uuid) (info : AgentInfo) (s : Reporter) :
    ReporterAction → Option Reporter
  | .recordTelemetry sample now =>
    some { s with state := { s.state with telemetry := s.state.telemetry.record sample now } }
  | .recordInventory inventory =>
    some { s with
      state := s.state.recordPackageInventory inventory
      recorded := inventory :: s.recorded }
  | .start task =>
    match s.tasks.get task with
    | none | some (.ended _) => some { s with tasks := s.tasks.put task .started }
    | some _ => none
  | .measure task sentAt now =>
    match s.tasks.get task with
    | some .started =>
      let (telemetry, window) := s.state.telemetry.window now
      some { s with
        state := { s.state with telemetry }
        tasks := s.tasks.put task (.measured sentAt window) }
    | _ => none
  | .snapshot task =>
    match s.tasks.get task with
    | some (.measured sentAt telemetry) =>
      let heartbeat := ⟨targetId, info, sentAt, telemetry, s.state.packageInventory⟩
      some { s with tasks := s.tasks.put task (.waiting heartbeat) }
    | _ => none
  | .answer task answer =>
    match s.tasks.get task with
    | some (.waiting heartbeat) =>
      some { s with
        tasks := s.tasks.put task (afterAnswer heartbeat answer)
        answered := (heartbeat, answer) :: s.answered }
    | _ => none
  | .acknowledge task =>
    match s.tasks.get task with
    | some (.accepted _ collectedAt) =>
      some { s with
        state := s.state.acknowledgePackageInventory collectedAt
        tasks := s.tasks.put task (.ended true) }
    | _ => none

/-- A heartbeat that carried the inventory was answered with success. -/
def Delivered (s : Reporter) (inventory : AgentPackageInventory) : Prop :=
  ∃ heartbeat answer, (heartbeat, answer) ∈ s.answered ∧ answer.isSuccess = true ∧
    heartbeat.packageInventory = some inventory

end Reporter

/-- An agent that starts has no inventory, and no task is sending. -/
def reporterMachine (targetId : Uuid) (info : AgentInfo) : Machine Reporter ReporterAction where
  init s := s.state.packageInventory = none ∧ s.tasks = ∅ ∧ s.recorded = [] ∧ s.answered = []
  step := Reporter.step targetId info

/-- An inventory is recorded for a new time of collection. -/
def DistinctTimes (s : Reporter) : ReporterAction → Prop
  | .recordInventory inventory => ∀ old ∈ s.recorded, old.collectedAt ≠ inventory.collectedAt
  | _ => True

instance (s : Reporter) : ∀ action, Decidable (DistinctTimes s action)
  | .recordInventory inventory =>
    inferInstanceAs (Decidable (∀ old ∈ s.recorded, old.collectedAt ≠ inventory.collectedAt))
  | .recordTelemetry .. | .start _ | .measure .. | .snapshot _ | .answer .. | .acknowledge _ =>
    isTrue trivial

/-! ### The history -/

/-- The heartbeat of a task, once it is built. -/
def Sending.heartbeat : Sending → Option AgentHeartbeat
  | .waiting heartbeat | .accepted heartbeat _ => some heartbeat
  | .started | .measured .. | .ended _ => none

/-- The agent agrees with the history of the run. -/
structure Tracked (s : Reporter) : Prop where
  /-- No two inventories have one time of collection. -/
  distinct : (s.recorded.map (·.collectedAt)).Nodup
  pending : ∀ inventory, s.state.packageInventory = some inventory → inventory ∈ s.recorded
  carried : ∀ task sending heartbeat inventory, s.tasks.get task = some sending →
    sending.heartbeat = some heartbeat → heartbeat.packageInventory = some inventory →
      inventory ∈ s.recorded
  /-- What is to be acknowledged was delivered. -/
  accepted : ∀ task heartbeat collectedAt,
    s.tasks.get task = some (.accepted heartbeat collectedAt) → ∃ inventory,
      heartbeat.packageInventory = some inventory ∧ inventory.collectedAt = collectedAt ∧
        s.Delivered inventory

/-- The inventory recorded last is pending or delivered. -/
def NewestKept (s : Reporter) : Prop :=
  ∀ newest ∈ s.recorded.head?, s.state.packageInventory = some newest ∨ s.Delivered newest

namespace Tracked

variable {s : Reporter}

/-- Two recorded inventories of one time are one. -/
theorem eq_of_collectedAt (h : Tracked s) {a b : AgentPackageInventory} (ha : a ∈ s.recorded)
    (hb : b ∈ s.recorded) (htime : a.collectedAt = b.collectedAt) : a = b :=
  List.inj_on_of_nodup_map h.distinct ha hb htime

/-- A task goes on with a heartbeat of recorded inventories. -/
theorem tasks_put (h : Tracked s) {task : Nat} {sending : Sending}
    (hcarried : ∀ heartbeat inventory, sending.heartbeat = some heartbeat →
      heartbeat.packageInventory = some inventory → inventory ∈ s.recorded)
    (haccepted : ∀ heartbeat collectedAt, sending = .accepted heartbeat collectedAt →
      ∃ inventory, heartbeat.packageInventory = some inventory ∧
        inventory.collectedAt = collectedAt ∧ s.Delivered inventory) :
    Tracked { s with tasks := s.tasks.put task sending } where
  distinct := h.distinct
  pending := h.pending
  carried := by
    intro other sending' heartbeat inventory hget hheartbeat hinventory
    rcases Table.get_put_cases hget with ⟨-, rfl⟩ | ⟨-, hget⟩
    · exact hcarried heartbeat inventory hheartbeat hinventory
    · exact h.carried other sending' heartbeat inventory hget hheartbeat hinventory
  accepted := by
    intro other heartbeat collectedAt hget
    rcases Table.get_put_cases hget with ⟨-, heq⟩ | ⟨-, hget⟩
    · exact haccepted heartbeat collectedAt heq.symm
    · exact h.accepted other heartbeat collectedAt hget

/-- A task goes on without a heartbeat. -/
theorem tasks_put_none (h : Tracked s) {task : Nat} {sending : Sending}
    (hnone : sending.heartbeat = none) :
    Tracked { s with tasks := s.tasks.put task sending } := by
  refine h.tasks_put (fun heartbeat inventory hsome => ?_) fun heartbeat collectedAt heq => ?_
  · rw [hnone] at hsome
    cases hsome
  · rw [heq] at hnone
    cases hnone

/-- Nothing but the inventory of the agent matters. -/
theorem of_inventory (h : Tracked s) {state : LocalAgentState}
    (hstate : ∀ inventory, state.packageInventory = some inventory →
      s.state.packageInventory = some inventory) : Tracked { s with state } where
  distinct := h.distinct
  pending inventory hinventory := h.pending inventory (hstate inventory hinventory)
  carried := h.carried
  accepted := h.accepted

/-- An answer is added to the history. -/
theorem answered_cons (h : Tracked s) (heartbeat : AgentHeartbeat) (answer : HeartbeatAnswer) :
    Tracked { s with answered := (heartbeat, answer) :: s.answered } where
  distinct := h.distinct
  pending := h.pending
  carried := h.carried
  accepted := by
    intro task heartbeat' collectedAt hget
    obtain ⟨inventory, hinventory, htime, heartbeat'', answer', hmem, hanswer⟩ :=
      h.accepted task heartbeat' collectedAt hget
    exact ⟨inventory, hinventory, htime, heartbeat'', answer', List.mem_cons_of_mem _ hmem, hanswer⟩

/-- A new inventory is recorded. -/
theorem recordInventory (h : Tracked s) {inventory : AgentPackageInventory}
    (hnew : ∀ old ∈ s.recorded, old.collectedAt ≠ inventory.collectedAt) :
    Tracked { s with
      state := s.state.recordPackageInventory inventory
      recorded := inventory :: s.recorded } where
  distinct := by
    rw [List.map_cons, List.nodup_cons]
    refine ⟨fun hmem => ?_, h.distinct⟩
    obtain ⟨old, hold, htime⟩ := List.mem_map.mp hmem
    exact hnew old hold htime
  pending pending hpending := by
    obtain rfl := Option.some.inj hpending
    exact List.mem_cons_self
  carried task sending heartbeat inventory' hget hheartbeat hinventory :=
    List.mem_cons_of_mem _ (h.carried task sending heartbeat inventory' hget hheartbeat hinventory)
  accepted := h.accepted

end Tracked

/-- An acknowledgement leaves the inventory or takes it away. -/
theorem acknowledgePackageInventory_cases (state : LocalAgentState) (collectedAt : Timestamp) :
    state.acknowledgePackageInventory collectedAt = state ∨
      (state.acknowledgePackageInventory collectedAt).packageInventory = none ∧
        ∃ inventory, state.packageInventory = some inventory ∧
          inventory.collectedAt = collectedAt := by
  unfold LocalAgentState.acknowledgePackageInventory
  split
  · rename_i hany
    obtain ⟨inventory, hinventory, htime⟩ := Option.any_eq_true .. |>.mp hany
    exact .inr ⟨rfl, inventory, hinventory, of_decide_eq_true htime⟩
  · exact .inl rfl

theorem packageInventory_of_acknowledged (state : LocalAgentState) (collectedAt : Timestamp) :
    ∀ inventory,
      (state.acknowledgePackageInventory collectedAt).packageInventory = some inventory →
        state.packageInventory = some inventory := by
  intro inventory hinventory
  rcases acknowledgePackageInventory_cases state collectedAt with heq | ⟨hnone, -⟩
  · rwa [heq] at hinventory
  · rw [hnone] at hinventory
    cases hinventory

/-- A task has something to acknowledge if its inventory was delivered. -/
theorem afterAnswer_cases (heartbeat : AgentHeartbeat) (answer : HeartbeatAnswer) :
    (∃ delivered, afterAnswer heartbeat answer = .ended delivered) ∨
      ∃ inventory, answer.isSuccess = true ∧ heartbeat.packageInventory = some inventory ∧
        afterAnswer heartbeat answer = .accepted heartbeat inventory.collectedAt := by
  unfold afterAnswer
  split
  · rename_i hsuccess
    cases hinventory : heartbeat.packageInventory with
    | none => exact .inl ⟨true, rfl⟩
    | some inventory => exact .inr ⟨inventory, hsuccess, rfl, rfl⟩
  · exact .inl ⟨false, rfl⟩

/-- The answer to the heartbeat of a task. -/
theorem Tracked.answer {s : Reporter} (h : Tracked s) {task : Nat} {heartbeat : AgentHeartbeat}
    (hget : s.tasks.get task = some (.waiting heartbeat)) (answer : HeartbeatAnswer) :
    Tracked { s with
      tasks := s.tasks.put task (afterAnswer heartbeat answer)
      answered := (heartbeat, answer) :: s.answered } := by
  have hanswered := h.answered_cons heartbeat answer
  rcases afterAnswer_cases heartbeat answer with
    ⟨delivered, hended⟩ | ⟨inventory, hsuccess, hinventory, haccepted⟩
  · rw [hended]
    exact hanswered.tasks_put_none rfl
  · rw [haccepted]
    refine hanswered.tasks_put (fun heartbeat' inventory' hheartbeat hinventory' => ?_)
      fun heartbeat' collectedAt heq => ?_
    · obtain rfl := Option.some.inj hheartbeat
      exact h.carried task _ heartbeat inventory' hget rfl hinventory'
    · obtain ⟨rfl, rfl⟩ := Sending.accepted.inj heq
      exact ⟨inventory, hinventory, rfl, heartbeat, answer, List.mem_cons_self, hsuccess,
        hinventory⟩

variable {targetId : Uuid} {info : AgentInfo}

/-- **Every step agrees with the history.** -/
theorem tracked_step {s s' : Reporter} {action : ReporterAction} (h : Tracked s)
    (hok : DistinctTimes s action) (hstep : s.step targetId info action = some s') :
    Tracked s' := by
  cases action with
  | recordTelemetry sample now =>
    obtain rfl := Option.some.inj hstep
    exact h.of_inventory fun _ hinventory => hinventory
  | recordInventory inventory =>
    obtain rfl := Option.some.inj hstep
    exact h.recordInventory hok
  | start task =>
    simp only [Reporter.step] at hstep
    split at hstep
    · obtain rfl := Option.some.inj hstep
      exact h.tasks_put_none rfl
    · obtain rfl := Option.some.inj hstep
      exact h.tasks_put_none rfl
    · cases hstep
  | measure task sentAt now =>
    simp only [Reporter.step] at hstep
    split at hstep
    · obtain rfl := Option.some.inj hstep
      have hmeasured := @Tracked.of_inventory _ h
        ⟨(s.state.telemetry.window now).1, s.state.packageInventory⟩
        fun _ hinventory => hinventory
      exact @Tracked.tasks_put_none _ hmeasured _ (.measured sentAt _) rfl
    · cases hstep
  | snapshot task =>
    simp only [Reporter.step] at hstep
    split at hstep
    · obtain rfl := Option.some.inj hstep
      refine h.tasks_put (fun heartbeat inventory hheartbeat hinventory => ?_)
        fun heartbeat collectedAt heq => by cases heq
      obtain rfl := Option.some.inj hheartbeat
      exact h.pending inventory hinventory
    · cases hstep
  | answer task answer =>
    simp only [Reporter.step] at hstep
    split at hstep
    · rename_i heartbeat hget
      obtain rfl := Option.some.inj hstep
      exact h.answer hget answer
    · cases hstep
  | acknowledge task =>
    simp only [Reporter.step] at hstep
    split at hstep
    · rename_i heartbeat collectedAt hget
      obtain rfl := Option.some.inj hstep
      have hstate := packageInventory_of_acknowledged s.state collectedAt
      exact @Tracked.tasks_put_none _ (h.of_inventory hstate) _ (.ended true) rfl
    · cases hstep

/-- What an agent has reached agrees with its history. -/
theorem tracked_of_reach {s : Reporter}
    (h : (reporterMachine targetId info).Reach DistinctTimes s) : Tracked s := by
  refine h.invariant (fun s hinit => ?_) fun s action s' _ htracked hok hstep =>
    tracked_step htracked hok hstep
  obtain ⟨hpending, htasks, hrecorded, -⟩ := hinit
  refine ⟨by simp [hrecorded], fun inventory hinventory => ?_,
    fun task sending heartbeat inventory hget => ?_, fun task heartbeat collectedAt hget => ?_⟩
  · rw [hpending] at hinventory
    cases hinventory
  · rw [htasks, Table.get_empty] at hget
    cases hget
  · rw [htasks, Table.get_empty] at hget
    cases hget

/-! ### What becomes of an inventory -/

/-- What a step does to the pending inventory: nothing, or it records one, or it acknowledges one
that a task has sent. -/
theorem step_cases {s s' : Reporter} {action : ReporterAction}
    (hstep : s.step targetId info action = some s') :
    (s'.state.packageInventory = s.state.packageInventory ∧ s'.recorded = s.recorded ∧
        s.answered ⊆ s'.answered) ∨
      (∃ newer, action = .recordInventory newer ∧ s'.state.packageInventory = some newer ∧
        s'.recorded = newer :: s.recorded) ∨
      ∃ task heartbeat collectedAt, s.tasks.get task = some (.accepted heartbeat collectedAt) ∧
        s'.state = s.state.acknowledgePackageInventory collectedAt ∧ s'.recorded = s.recorded ∧
          s'.answered = s.answered := by
  cases action with
  | recordTelemetry sample now =>
    obtain rfl := Option.some.inj hstep
    exact .inl ⟨rfl, rfl, List.Subset.refl _⟩
  | recordInventory newer =>
    obtain rfl := Option.some.inj hstep
    exact .inr (.inl ⟨newer, rfl, rfl, rfl⟩)
  | start task =>
    simp only [Reporter.step] at hstep
    split at hstep
    · obtain rfl := Option.some.inj hstep
      exact .inl ⟨rfl, rfl, List.Subset.refl _⟩
    · obtain rfl := Option.some.inj hstep
      exact .inl ⟨rfl, rfl, List.Subset.refl _⟩
    · cases hstep
  | measure task sentAt now =>
    simp only [Reporter.step] at hstep
    split at hstep
    · obtain rfl := Option.some.inj hstep
      exact .inl ⟨rfl, rfl, List.Subset.refl _⟩
    · cases hstep
  | snapshot task =>
    simp only [Reporter.step] at hstep
    split at hstep
    · obtain rfl := Option.some.inj hstep
      exact .inl ⟨rfl, rfl, List.Subset.refl _⟩
    · cases hstep
  | answer task answer =>
    simp only [Reporter.step] at hstep
    split at hstep
    · obtain rfl := Option.some.inj hstep
      exact .inl ⟨rfl, rfl, List.subset_cons_self _ _⟩
    · cases hstep
  | acknowledge task =>
    simp only [Reporter.step] at hstep
    split at hstep
    · rename_i heartbeat collectedAt hget
      obtain rfl := Option.some.inj hstep
      exact .inr (.inr ⟨task, heartbeat, collectedAt, hget, rfl, rfl, rfl⟩)
    · cases hstep

/-- **An acknowledgement takes away nothing but what was delivered**, however old it is. -/
theorem acknowledge_delivered {s : Reporter} (h : Tracked s) {task : Nat}
    {heartbeat : AgentHeartbeat} {collectedAt : Timestamp}
    (hget : s.tasks.get task = some (.accepted heartbeat collectedAt))
    {inventory : AgentPackageInventory} (hpending : s.state.packageInventory = some inventory)
    (hgone : (s.state.acknowledgePackageInventory collectedAt).packageInventory
      ≠ some inventory) : s.Delivered inventory := by
  rcases acknowledgePackageInventory_cases s.state collectedAt with
    heq | ⟨-, current, hcurrent, hcurrentTime⟩
  · rw [heq] at hgone
    exact absurd hpending hgone
  · -- the inventory that was sent has the time of the pending one
    obtain rfl := Option.some.inj (hpending.symm.trans hcurrent)
    obtain ⟨sent, hsent, hsentTime, hdelivered⟩ := h.accepted task heartbeat collectedAt hget
    have hsame := h.eq_of_collectedAt (h.pending inventory hpending)
      (h.carried task _ heartbeat sent hget rfl hsent) (hcurrentTime.trans hsentTime.symm)
    rwa [hsame]

/-- What was delivered stays delivered. -/
theorem Reporter.Delivered.mono {s s' : Reporter} (hanswered : s.answered ⊆ s'.answered)
    {inventory : AgentPackageInventory} (h : s.Delivered inventory) : s'.Delivered inventory := by
  obtain ⟨heartbeat, answer, hmem, hanswer⟩ := h
  exact ⟨heartbeat, answer, hanswered hmem, hanswer⟩

theorem newestKept_step {s s' : Reporter} {action : ReporterAction} (htracked : Tracked s)
    (h : NewestKept s) (hstep : s.step targetId info action = some s') : NewestKept s' := by
  rcases step_cases hstep with ⟨hpending, hrecorded, hanswered⟩ |
    ⟨newer, -, hpending, hrecorded⟩ |
    ⟨task, heartbeat, collectedAt, hget, hstate, hrecorded, hanswered⟩
  · intro newest hnewest
    rw [hrecorded] at hnewest
    rw [hpending]
    exact (h newest hnewest).imp_right (.mono hanswered)
  · intro newest hnewest
    rw [hrecorded, List.head?_cons, Option.mem_some_iff] at hnewest
    exact .inl (hnewest ▸ hpending)
  · intro newest hnewest
    have hmono : s.Delivered newest → s'.Delivered newest := .mono (hanswered ▸ List.Subset.refl _)
    rw [hrecorded] at hnewest
    rw [hstate]
    rcases h newest hnewest with hpending | hdelivered
    · by_cases hkept : (s.state.acknowledgePackageInventory collectedAt).packageInventory
        = some newest
      · exact .inl hkept
      · exact .inr (hmono (acknowledge_delivered htracked hget hpending hkept))
    · exact .inr (hmono hdelivered)

/-- **The inventory recorded last is pending or delivered**, in every state of every run. -/
theorem newest_kept {s : Reporter}
    (h : (reporterMachine targetId info).Reach DistinctTimes s) : NewestKept s := by
  refine h.invariant (fun s hinit => ?_) fun s action s' hreach hkept _ hstep =>
    newestKept_step (tracked_of_reach hreach) hkept hstep
  intro newest hnewest
  rw [hinit.2.2.1] at hnewest
  cases hnewest

/-- **A pending inventory goes only because another one is recorded, or because a heartbeat that
carried it was answered with success.** -/
theorem inventory_leaves {s s' : Reporter} {action : ReporterAction}
    (h : (reporterMachine targetId info).Reach DistinctTimes s)
    (hstep : (reporterMachine targetId info).step s action = some s')
    {inventory : AgentPackageInventory} (hpending : s.state.packageInventory = some inventory)
    (hgone : s'.state.packageInventory ≠ some inventory) :
    (∃ newer, action = .recordInventory newer ∧ s'.state.packageInventory = some newer) ∨
      s.Delivered inventory := by
  rcases step_cases hstep with ⟨hsame, -⟩ | ⟨newer, haction, hnewer, -⟩ |
    ⟨task, heartbeat, collectedAt, hget, hstate, -⟩
  · exact absurd (hsame.trans hpending) hgone
  · exact .inl ⟨newer, haction, hnewer⟩
  · rw [hstate] at hgone
    exact .inr (acknowledge_delivered (tracked_of_reach h) hget hpending hgone)

/-- An agent that has just started. -/
def startedReporter : Reporter := ⟨⟨⟨[]⟩, none⟩, ∅, [], []⟩

/-- An inventory of one package with an update, and the heartbeat that carries it. -/
def updateInventory : AgentPackageInventory :=
  ⟨3, [⟨"7zip.7zip", "24.08", some "24.09", none, some "winget"⟩]⟩

def updateHeartbeat : AgentHeartbeat :=
  ⟨⟨1⟩, default, 5, ⟨[], false⟩, some updateInventory⟩

/-- The controller has answered, and the acknowledgement is still to come. -/
def acceptedReporter : Reporter where
  state := ⟨⟨[]⟩, some updateInventory⟩
  tasks := Table.put ∅ 0 (.accepted updateHeartbeat 3)
  recorded := [updateInventory]
  answered := [(updateHeartbeat, .response 204)]

theorem inventory_leaves_accepted :
    acceptedReporter.state.packageInventory = some updateInventory ∧
      acceptedReporter.Delivered updateInventory := by
  have hrun : (reporterMachine ⟨1⟩ default).exec DistinctTimes startedReporter
      [.recordInventory updateInventory, .start 0, .measure 0 5 5, .snapshot 0,
        .answer 0 (.response 204)] = some acceptedReporter := rfl
  have hinit : (reporterMachine ⟨1⟩ default).init startedReporter := ⟨rfl, rfl, rfl, rfl⟩
  have hreach := Machine.Reach.exec (.init hinit) _ hrun
  have hleaves := @inventory_leaves _ _ _ _ (.acknowledge 0) hreach rfl updateInventory rfl
    (by decide)
  refine ⟨rfl, hleaves.resolve_left ?_⟩
  rintro ⟨newer, haction, -⟩
  cases haction

end Lxcup.Heartbeats
