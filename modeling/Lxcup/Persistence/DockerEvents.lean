import Lxcup.Core.Ids
import Mathlib.Data.List.DropRight
import Mathlib.Data.List.Nodup

/-!
# The event history of the Docker inventory

With every inventory that a target sends goes a history of what has changed.  The containers of
the new inventory are compared with those of the one before, by id, and what differs is appended
to the events of the one before; of the result the last 200 stay.  Nothing is known before the
first inventory, so it adds no events.

The whole history, with nothing dropped, is the concatenation of the differences of neighbouring
inventories.  A difference is described twice: as a list, and by the events in it with the order
in which they stand.

## Main definitions

* `updateDockerInventoryEvents` with `recordCurrentContainerEvents` and
  `recordRemovedContainerEvents` — the source.
* `difference`, `differences` — what one inventory adds, and the whole history.
* `Change`, `Precedes` — the events of a difference, and their order.
* `processInventories`, `eventHistory` — inventories stored one after the other.

## Main results

* `updateDockerInventoryEvents_events` — what one inventory makes of the events.
* `mem_difference`, `pairwise_difference` — a difference holds the changes, in order.
* `eventHistory_spec` — the history after any number of inventories.
-/

namespace Lxcup.Persistence

open Lxcup.Core

/-! ### The source -/

/-- A container, with the fields that the history reads. -/
structure DockerContainerInfo where
  id : String
  name : String
  image : String
  state : String
  imageId : Option String
  restartCount : Option UInt64
  health : Option String
  oomKilled : Option Bool
  deriving DecidableEq, Repr, Inhabited

inductive DockerInventoryEventKind
  | added
  | removed
  | imageChanged
  | stateChanged
  | healthChanged
  | restartCountIncreased
  | oomKilled
  deriving DecidableEq, Repr

structure DockerInventoryEvent where
  observedAt : Timestamp
  containerId : String
  containerName : String
  kind : DockerInventoryEventKind
  previousValue : Option String
  currentValue : Option String
  deriving DecidableEq, Repr

structure PersistedTargetDockerInventory where
  collectedAt : Timestamp
  containers : List DockerContainerInfo
  events : List DockerInventoryEvent
  deriving DecidableEq, Repr

/-- `MAX_DOCKER_INVENTORY_EVENTS`. -/
def maxDockerInventoryEvents : Nat := 200

/-- The entry of an id in the map that is collected from the containers, where a later container
replaces an earlier one. -/
def containerById (containers : List DockerContainerInfo) (id : String) :
    Option DockerContainerInfo :=
  containers.reverse.find? fun container => container.id = id

def formatImageReference (container : DockerContainerInfo) : String :=
  match container.imageId with
  | none => container.image
  | some imageId => container.image ++ " (" ++ imageId ++ ")"

def pushEvent (events : List DockerInventoryEvent) (observedAt : Timestamp)
    (container : DockerContainerInfo) (kind : DockerInventoryEventKind)
    (previousValue currentValue : Option String) : List DockerInventoryEvent :=
  events ++ [⟨observedAt, container.id, container.name, kind, previousValue, currentValue⟩]

def recordChange (events : List DockerInventoryEvent) (observedAt : Timestamp)
    (container : DockerContainerInfo) (kind : DockerInventoryEventKind) (changed : Bool)
    (previousValue currentValue : Option String) : List DockerInventoryEvent :=
  if changed then pushEvent events observedAt container kind previousValue currentValue else events

/-- The event for a restart count that is known on both sides and went up. -/
def recordRestarts (observedAt : Timestamp) (old container : DockerContainerInfo)
    (events : List DockerInventoryEvent) : List DockerInventoryEvent :=
  match old.restartCount, container.restartCount with
  | some oldCount, some newCount =>
    if newCount > oldCount then
      pushEvent events observedAt container .restartCountIncreased (some (toString oldCount))
        (some (toString newCount))
    else events
  | _, _ => events

/-- The body of the loop over the current containers, where the container had been known. -/
def recordKnownContainer (observedAt : Timestamp) (old container : DockerContainerInfo)
    (events : List DockerInventoryEvent) : List DockerInventoryEvent :=
  let events := recordChange events observedAt container .imageChanged
    (old.image != container.image || old.imageId != container.imageId)
    (some (formatImageReference old)) (some (formatImageReference container))
  let events := recordChange events observedAt container .stateChanged
    (old.state != container.state) (some old.state) (some container.state)
  let events := recordChange events observedAt container .healthChanged
    (old.health != container.health && old.health.isSome && container.health.isSome)
    old.health container.health
  let events := recordRestarts observedAt old container events
  if old.oomKilled != some true && container.oomKilled == some true then
    pushEvent events observedAt container .oomKilled (some "false") (some "true")
  else events

def recordCurrentContainerEvents (current : PersistedTargetDockerInventory)
    (previousById : String → Option DockerContainerInfo) (hasPrevious : Bool)
    (events : List DockerInventoryEvent) : List DockerInventoryEvent :=
  current.containers.foldl (fun events container =>
    match previousById container.id with
    | none =>
      if hasPrevious then
        pushEvent events current.collectedAt container .added none (some "present")
      else events
    | some old => recordKnownContainer current.collectedAt old container events) events

def recordRemovedContainerEvents (previous : Option PersistedTargetDockerInventory)
    (currentById : String → Option DockerContainerInfo) (observedAt : Timestamp)
    (events : List DockerInventoryEvent) : List DockerInventoryEvent :=
  match previous with
  | none => events
  | some previous =>
    previous.containers.foldl (fun events container =>
      if (currentById container.id).isNone then
        pushEvent events observedAt container .removed (some "present") none
      else events) events

/-- `update_docker_inventory_events`: the current inventory afterwards. -/
def updateDockerInventoryEvents (previous : Option PersistedTargetDockerInventory)
    (current : PersistedTargetDockerInventory) : PersistedTargetDockerInventory :=
  let events := (previous.map (·.events)).getD []
  let previousContainers := (previous.map (·.containers)).getD []
  let events := recordCurrentContainerEvents current (containerById previousContainers)
    previous.isSome events
  let events := recordRemovedContainerEvents previous (containerById current.containers)
    current.collectedAt events
  let events :=
    if events.length > maxDockerInventoryEvents then
      events.drop (events.length - maxDockerInventoryEvents)
    else events
  { current with events }

/-- Inventories of a target, saved one after the other. -/
def processInventories (inventories : List PersistedTargetDockerInventory) :
    Option PersistedTargetDockerInventory :=
  inventories.foldl (fun stored current => some (updateDockerInventoryEvents stored current)) none

/-- The events that are stored then. -/
def eventHistory (inventories : List PersistedTargetDockerInventory) :
    List DockerInventoryEvent :=
  ((processInventories inventories).map (·.events)).getD []

/-! ### What one inventory adds -/

/-- An event about a container. -/
def eventOf (observedAt : Timestamp) (container : DockerContainerInfo)
    (kind : DockerInventoryEventKind) (previousValue currentValue : Option String) :
    DockerInventoryEvent :=
  ⟨observedAt, container.id, container.name, kind, previousValue, currentValue⟩

/-- The number of restarts went up. -/
def restartEvents (observedAt : Timestamp) (old container : DockerContainerInfo) :
    List DockerInventoryEvent :=
  match old.restartCount, container.restartCount with
  | some oldCount, some newCount =>
    if newCount > oldCount then
      [eventOf observedAt container .restartCountIncreased (some (toString oldCount))
        (some (toString newCount))]
    else []
  | _, _ => []

/-- What has changed about a container that was known before. -/
def changesOf (observedAt : Timestamp) (old container : DockerContainerInfo) :
    List DockerInventoryEvent :=
  (if old.image != container.image || old.imageId != container.imageId then
    [eventOf observedAt container .imageChanged (some (formatImageReference old))
      (some (formatImageReference container))] else []) ++
  (if old.state != container.state then
    [eventOf observedAt container .stateChanged (some old.state) (some container.state)] else []) ++
  (if old.health != container.health && old.health.isSome && container.health.isSome then
    [eventOf observedAt container .healthChanged old.health container.health] else []) ++
  restartEvents observedAt old container ++
  (if old.oomKilled != some true && container.oomKilled == some true then
    [eventOf observedAt container .oomKilled (some "false") (some "true")] else [])

/-- What a container of the current inventory adds. -/
def containerEvents (previous current : PersistedTargetDockerInventory)
    (container : DockerContainerInfo) : List DockerInventoryEvent :=
  match containerById previous.containers container.id with
  | none => [eventOf current.collectedAt container .added none (some "present")]
  | some old => changesOf current.collectedAt old container

/-- What a container of the inventory before adds. -/
def removedEvents (current : PersistedTargetDockerInventory) (container : DockerContainerInfo) :
    List DockerInventoryEvent :=
  if (containerById current.containers container.id).isNone then
    [eventOf current.collectedAt container .removed (some "present") none] else []

/-- The difference of two inventories. -/
def difference (previous current : PersistedTargetDockerInventory) : List DockerInventoryEvent :=
  current.containers.flatMap (containerEvents previous current) ++
    previous.containers.flatMap (removedEvents current)

/-- The whole history, with nothing dropped. -/
def differences : List PersistedTargetDockerInventory → List DockerInventoryEvent
  | previous :: current :: rest => difference previous current ++ differences (current :: rest)
  | _ => []

section

variable {events : List DockerInventoryEvent} {previous current : PersistedTargetDockerInventory}

theorem pushEvent_eq (observedAt : Timestamp) (container : DockerContainerInfo)
    (kind : DockerInventoryEventKind) (previousValue currentValue : Option String) :
    pushEvent events observedAt container kind previousValue currentValue =
      events ++ [eventOf observedAt container kind previousValue currentValue] :=
  rfl

theorem recordChange_eq (observedAt : Timestamp) (container : DockerContainerInfo)
    (kind : DockerInventoryEventKind) (changed : Bool)
    (previousValue currentValue : Option String) :
    recordChange events observedAt container kind changed previousValue currentValue =
      events ++ if changed then
        [eventOf observedAt container kind previousValue currentValue] else [] := by
  cases changed
  · exact (List.append_nil events).symm
  · rfl

theorem ite_append_singleton (p : Prop) [Decidable p] (event : DockerInventoryEvent) :
    (if p then events ++ [event] else events) = events ++ if p then [event] else [] := by
  by_cases hp : p
  · rw [if_pos hp, if_pos hp]
  · rw [if_neg hp, if_neg hp, List.append_nil]

theorem recordRestarts_eq (observedAt : Timestamp) (old container : DockerContainerInfo) :
    recordRestarts observedAt old container events =
      events ++ restartEvents observedAt old container := by
  rw [recordRestarts, restartEvents]
  split
  · exact ite_append_singleton _ _
  · exact (List.append_nil events).symm

theorem recordKnownContainer_eq (observedAt : Timestamp) (old container : DockerContainerInfo) :
    recordKnownContainer observedAt old container events =
      events ++ changesOf observedAt old container := by
  simp only [recordKnownContainer, recordChange_eq, recordRestarts_eq, pushEvent_eq,
    ite_append_singleton]
  simp only [changesOf, List.append_assoc]

theorem recordCurrentContainerEvents_eq (previous current : PersistedTargetDockerInventory) :
    recordCurrentContainerEvents current (containerById previous.containers) true events =
      events ++ current.containers.flatMap (containerEvents previous current) := by
  have hstep : (fun (events : List DockerInventoryEvent) container =>
      match containerById previous.containers container.id with
      | none =>
        if true then
          pushEvent events current.collectedAt container .added none (some "present")
        else events
      | some old => recordKnownContainer current.collectedAt old container events) =
      fun events container => events ++ containerEvents previous current container := by
    funext events container
    rw [containerEvents]
    split
    · rfl
    · exact recordKnownContainer_eq _ _ _
  rw [recordCurrentContainerEvents, hstep, List.foldl_append_eq_append, List.flatMap_def]

theorem recordCurrentContainerEvents_first (current : PersistedTargetDockerInventory) :
    recordCurrentContainerEvents current (containerById []) false events = events := by
  rw [recordCurrentContainerEvents]
  induction current.containers with
  | nil => rfl
  | cons container containers ih => exact ih

theorem recordRemovedContainerEvents_eq (previous current : PersistedTargetDockerInventory) :
    recordRemovedContainerEvents (some previous) (containerById current.containers)
        current.collectedAt events =
      events ++ previous.containers.flatMap (removedEvents current) := by
  have hstep : (fun (events : List DockerInventoryEvent) container =>
      if (containerById current.containers container.id).isNone then
        pushEvent events current.collectedAt container .removed (some "present") none
      else events) = fun events container => events ++ removedEvents current container := by
    funext events container
    rw [removedEvents]
    by_cases h : (containerById current.containers container.id).isNone = true
    · rw [if_pos h, if_pos h]
      rfl
    · rw [if_neg h, if_neg h, List.append_nil]
  rw [recordRemovedContainerEvents, hstep, List.foldl_append_eq_append, List.flatMap_def]

/-- What is drained from the front leaves the last events. -/
theorem drain_eq_rtake :
    (if events.length > maxDockerInventoryEvents then
      events.drop (events.length - maxDockerInventoryEvents)
    else events) = events.rtake maxDockerInventoryEvents := by
  rw [List.rtake]
  by_cases h : events.length > maxDockerInventoryEvents
  · rw [if_pos h]
  · rw [if_neg h, Nat.sub_eq_zero_of_le (Nat.le_of_not_lt h), List.drop_zero]

/-- An inventory adds its difference to the events, and of these the last ones stay. -/
theorem updateDockerInventoryEvents_events (previous current : PersistedTargetDockerInventory) :
    (updateDockerInventoryEvents (some previous) current).events =
      (previous.events ++ difference previous current).rtake maxDockerInventoryEvents := by
  simp only [updateDockerInventoryEvents, Option.map_some, Option.getD_some, Option.isSome_some,
    recordCurrentContainerEvents_eq, recordRemovedContainerEvents_eq, drain_eq_rtake, difference,
    List.append_assoc]

theorem updateDockerInventoryEvents_first (current : PersistedTargetDockerInventory) :
    (updateDockerInventoryEvents none current).events = [] := by
  simp only [updateDockerInventoryEvents, Option.map_none, Option.getD_none, Option.isSome_none,
    recordCurrentContainerEvents_first, recordRemovedContainerEvents, List.length_nil,
    List.drop_nil, ite_self]

end

/-! ### The changes -/

/-- The ids of the containers, in their order. -/
def PersistedTargetDockerInventory.ids (inventory : PersistedTargetDockerInventory) :
    List String :=
  inventory.containers.map (·.id)

/-- What can be said to have changed about a container, with the values before and after. -/
inductive Changed (old container : DockerContainerInfo) :
    DockerInventoryEventKind → Option String → Option String → Prop
  | image (h : old.image ≠ container.image ∨ old.imageId ≠ container.imageId) :
    Changed old container .imageChanged (some (formatImageReference old))
      (some (formatImageReference container))
  | state (h : old.state ≠ container.state) :
    Changed old container .stateChanged (some old.state) (some container.state)
  | health {before after : String} (hold : old.health = some before)
    (hnew : container.health = some after) (h : before ≠ after) :
    Changed old container .healthChanged (some before) (some after)
  | restarts {before after : UInt64} (hold : old.restartCount = some before)
    (hnew : container.restartCount = some after) (h : before < after) :
    Changed old container .restartCountIncreased (some (toString before)) (some (toString after))
  | oomKilled (hold : old.oomKilled ≠ some true) (hnew : container.oomKilled = some true) :
    Changed old container .oomKilled (some "false") (some "true")

/-- The events of a difference. -/
inductive Change (previous current : PersistedTargetDockerInventory) :
    DockerInventoryEvent → Prop
  | added {container : DockerContainerInfo} (hmem : container ∈ current.containers)
    (hnew : ∀ old ∈ previous.containers, old.id ≠ container.id) :
    Change previous current (eventOf current.collectedAt container .added none (some "present"))
  | changed {old container : DockerContainerInfo} {kind : DockerInventoryEventKind}
    {before after : Option String} (hold : old ∈ previous.containers)
    (hmem : container ∈ current.containers) (hid : old.id = container.id)
    (h : Changed old container kind before after) :
    Change previous current (eventOf current.collectedAt container kind before after)
  | removed {old : DockerContainerInfo} (hold : old ∈ previous.containers)
    (hgone : ∀ container ∈ current.containers, container.id ≠ old.id) :
    Change previous current (eventOf current.collectedAt old .removed (some "present") none)

/-- The place of a kind among the events of one container. -/
def DockerInventoryEventKind.rank : DockerInventoryEventKind → Nat
  | .added => 0
  | .imageChanged => 1
  | .stateChanged => 2
  | .healthChanged => 3
  | .restartCountIncreased => 4
  | .oomKilled => 5
  | .removed => 6

/-- The order of the events: those about containers that are there, in the order of the current
inventory and by their kind, and behind them the removals, in the order of the inventory before. -/
inductive Precedes (previous current : PersistedTargetDockerInventory)
    (a b : DockerInventoryEvent) : Prop
  | kept (ha : a.kind ≠ .removed) (hb : b.kind ≠ .removed)
    (h : [a.containerId, b.containerId].Sublist current.ids)
  | same (ha : a.kind ≠ .removed) (hb : b.kind ≠ .removed) (hid : a.containerId = b.containerId)
    (h : a.kind.rank < b.kind.rank)
  | behind (ha : a.kind ≠ .removed) (hb : b.kind = .removed)
  | gone (ha : a.kind = .removed) (hb : b.kind = .removed)
    (h : [a.containerId, b.containerId].Sublist previous.ids)

section

variable {containers : List DockerContainerInfo} {container : DockerContainerInfo} {id : String}

theorem containerById_eq_none :
    containerById containers id = none ↔ ∀ container ∈ containers, container.id ≠ id := by
  simp [containerById]

theorem containerById_eq_some (unique : (containers.map (·.id)).Nodup) :
    containerById containers id = some container ↔ container ∈ containers ∧ container.id = id := by
  constructor
  · intro h
    exact ⟨List.mem_reverse.mp (List.mem_of_find?_eq_some h),
      by simpa using List.find?_some h⟩
  · rintro ⟨hmem, rfl⟩
    cases hother : containerById containers container.id with
    | none => exact absurd rfl (containerById_eq_none.mp hother container hmem)
    | some other =>
      have hid : other.id = container.id := by simpa using List.find?_some hother
      have hothermem := List.mem_reverse.mp (List.mem_of_find?_eq_some hother)
      rw [List.inj_on_of_nodup_map unique hothermem hmem hid]

theorem mem_restartEvents {observedAt : Timestamp} {old : DockerContainerInfo}
    {event : DockerInventoryEvent} : event ∈ restartEvents observedAt old container ↔
      ∃ before after, old.restartCount = some before ∧ container.restartCount = some after ∧
        before < after ∧ event = eventOf observedAt container .restartCountIncreased
          (some (toString before)) (some (toString after)) := by
  rw [restartEvents]
  split
  · rename_i before after hold hnew
    simp [hold, hnew]
  · rename_i hnone
    refine iff_of_false List.not_mem_nil ?_
    rintro ⟨before, after, hold, hnew, -⟩
    exact hnone before after hold hnew

/-- The events about a container that was known before are its changes. -/
theorem mem_changesOf {observedAt : Timestamp} {old : DockerContainerInfo}
    {event : DockerInventoryEvent} :
    event ∈ changesOf observedAt old container ↔ ∃ kind before after,
      Changed old container kind before after ∧
        event = eventOf observedAt container kind before after := by
  simp only [changesOf, List.mem_append, mem_restartEvents, List.mem_ite_nil_right,
    List.mem_singleton, Bool.or_eq_true, Bool.and_eq_true, bne_iff_ne, beq_iff_eq,
    Option.isSome_iff_exists]
  constructor
  · rintro ((((⟨h, rfl⟩ | ⟨h, rfl⟩) | ⟨⟨⟨h, before, hold⟩, after, hnew⟩, rfl⟩) |
      ⟨before, after, hold, hnew, h, rfl⟩) | ⟨⟨hold, hnew⟩, rfl⟩)
    · exact ⟨_, _, _, .image h, rfl⟩
    · exact ⟨_, _, _, .state h, rfl⟩
    · rw [hold, hnew] at h ⊢
      exact ⟨_, _, _, .health hold hnew (fun heq => h (congrArg some heq)), rfl⟩
    · exact ⟨_, _, _, .restarts hold hnew h, rfl⟩
    · exact ⟨_, _, _, .oomKilled hold hnew, rfl⟩
  · rintro ⟨kind, before, after, hchanged, rfl⟩
    cases hchanged with
    | image h => exact .inl (.inl (.inl (.inl ⟨h, rfl⟩)))
    | state h => exact .inl (.inl (.inl (.inr ⟨h, rfl⟩)))
    | health hold hnew h =>
      refine .inl (.inl (.inr ⟨⟨⟨?_, _, hold⟩, _, hnew⟩, by rw [hold, hnew]⟩))
      rw [hold, hnew]
      exact fun heq => h (Option.some_inj.mp heq)
    | restarts hold hnew h => exact .inl (.inr ⟨_, _, hold, hnew, h, rfl⟩)
    | oomKilled hold hnew => exact .inr ⟨⟨hold, hnew⟩, rfl⟩

theorem not_changed_self {kind : DockerInventoryEventKind} {before after : Option String} :
    ¬Changed container container kind before after := by
  intro h
  cases h with
  | image h => exact h.elim (fun h => h rfl) (fun h => h rfl)
  | state h => exact h rfl
  | health hold hnew h => exact h (Option.some_inj.mp (hold.symm.trans hnew))
  | restarts hold hnew h =>
    rw [Option.some_inj.mp (hold.symm.trans hnew)] at h
    exact UInt64.lt_irrefl _ h
  | oomKilled hold hnew => exact hold hnew

end

section

variable {previous current : PersistedTargetDockerInventory} {event : DockerInventoryEvent}

/-- A difference holds the changes and nothing else. -/
theorem mem_difference (unique : previous.ids.Nodup) :
    event ∈ difference previous current ↔ Change previous current event := by
  rw [difference, List.mem_append, List.mem_flatMap, List.mem_flatMap]
  constructor
  · rintro (⟨container, hmem, hevent⟩ | ⟨old, hold, hevent⟩)
    · rw [containerEvents] at hevent
      split at hevent
      · rename_i hnone
        rw [List.mem_singleton.mp hevent]
        exact .added hmem (containerById_eq_none.mp hnone)
      · rename_i old hsome
        obtain ⟨hold, hid⟩ := (containerById_eq_some unique).mp hsome
        obtain ⟨kind, before, after, hchanged, rfl⟩ := mem_changesOf.mp hevent
        exact .changed hold hmem hid hchanged
    · rw [removedEvents, List.mem_ite_nil_right, Option.isNone_iff_eq_none] at hevent
      rw [List.mem_singleton.mp hevent.2]
      exact .removed hold (containerById_eq_none.mp hevent.1)
  · rintro (⟨hmem, hnew⟩ | ⟨hold, hmem, hid, hchanged⟩ | ⟨hold, hgone⟩)
    · refine .inl ⟨_, hmem, ?_⟩
      rw [containerEvents, containerById_eq_none.mpr hnew]
      exact List.mem_singleton_self _
    · refine .inl ⟨_, hmem, ?_⟩
      rw [containerEvents, (containerById_eq_some unique).mpr ⟨hold, hid⟩]
      exact mem_changesOf.mpr ⟨_, _, _, hchanged, rfl⟩
    · refine .inr ⟨_, hold, ?_⟩
      rw [removedEvents, containerById_eq_none.mpr hgone]
      exact List.mem_singleton_self _

/-- The events about one container stand in the order of their kinds. -/
theorem pairwise_changesOf (observedAt : Timestamp) (old container : DockerContainerInfo) :
    (changesOf observedAt old container).Pairwise fun a b => a.kind.rank < b.kind.rank := by
  have hsome : ∀ (p : Prop) [Decidable p] (event : DockerInventoryEvent),
      (if p then [event] else []).Sublist [event] := by
    intro p _ event
    by_cases hp : p
    · rw [if_pos hp]
    · rw [if_neg hp]
      exact List.nil_sublist _
  have hrestart : (restartEvents observedAt old container).Sublist
      [eventOf observedAt container .restartCountIncreased (old.restartCount.map toString)
        (container.restartCount.map toString)] := by
    rw [restartEvents]
    split
    · rename_i before after hold hnew
      rw [hold, hnew]
      exact hsome _ _
    · exact List.nil_sublist _
  have hall : (changesOf observedAt old container).Sublist
      [eventOf observedAt container .imageChanged (some (formatImageReference old))
        (some (formatImageReference container)),
      eventOf observedAt container .stateChanged (some old.state) (some container.state),
      eventOf observedAt container .healthChanged old.health container.health,
      eventOf observedAt container .restartCountIncreased (old.restartCount.map toString)
        (container.restartCount.map toString),
      eventOf observedAt container .oomKilled (some "false") (some "true")] :=
    ((((hsome _ _).append (hsome _ _)).append (hsome _ _)).append hrestart).append (hsome _ _)
  refine List.Pairwise.sublist hall ?_
  simp [eventOf, DockerInventoryEventKind.rank]

/-- What a container adds is about it, and no removal. -/
theorem about_containerEvents {container : DockerContainerInfo}
    (h : event ∈ containerEvents previous current container) :
    event.containerId = container.id ∧ event.kind ≠ .removed := by
  rw [containerEvents] at h
  split at h
  · rw [List.mem_singleton.mp h]
    exact ⟨rfl, DockerInventoryEventKind.noConfusion⟩
  · obtain ⟨kind, before, after, hchanged, rfl⟩ := mem_changesOf.mp h
    refine ⟨rfl, ?_⟩
    rintro rfl
    cases hchanged

theorem about_removedEvents {container : DockerContainerInfo}
    (h : event ∈ removedEvents current container) :
    event.containerId = container.id ∧ event.kind = .removed := by
  rw [removedEvents, List.mem_ite_nil_right] at h
  rw [List.mem_singleton.mp h.2]
  exact ⟨rfl, rfl⟩

/-- Two containers, one before the other, by their ids. -/
theorem sublist_ids {inventory : PersistedTargetDockerInventory} {a b : DockerContainerInfo}
    (h : [a, b].Sublist inventory.containers) : [a.id, b.id].Sublist inventory.ids :=
  List.Sublist.map DockerContainerInfo.id h

/-- A difference is in order. -/
theorem pairwise_difference (previous current : PersistedTargetDockerInventory) :
    (difference previous current).Pairwise (Precedes previous current) := by
  rw [difference, List.pairwise_append, List.pairwise_flatMap, List.pairwise_flatMap]
  refine ⟨⟨fun container _ => ?_, ?_⟩, ⟨fun container _ => ?_, ?_⟩, ?_⟩
  · -- the events of one container
    have hrank : (containerEvents previous current container).Pairwise
        fun a b => a.kind.rank < b.kind.rank := by
      rw [containerEvents]
      split
      · exact List.pairwise_singleton _ _
      · exact pairwise_changesOf _ _ _
    refine hrank.imp_of_mem fun ha hb h => ?_
    obtain ⟨haid, ha⟩ := about_containerEvents ha
    obtain ⟨hbid, hb⟩ := about_containerEvents hb
    exact .same ha hb (haid.trans hbid.symm) h
  · refine List.pairwise_iff_forall_sublist.mpr fun hsublist a ha b hb => ?_
    obtain ⟨haid, ha⟩ := about_containerEvents ha
    obtain ⟨hbid, hb⟩ := about_containerEvents hb
    exact .kept ha hb (haid ▸ hbid ▸ sublist_ids hsublist)
  · rw [removedEvents]
    split
    · exact List.pairwise_singleton _ _
    · exact List.Pairwise.nil
  · refine List.pairwise_iff_forall_sublist.mpr fun hsublist a ha b hb => ?_
    obtain ⟨haid, ha⟩ := about_removedEvents ha
    obtain ⟨hbid, hb⟩ := about_removedEvents hb
    exact .gone ha hb (haid ▸ hbid ▸ sublist_ids hsublist)
  · intro a ha b hb
    obtain ⟨_, -, ha⟩ := List.mem_flatMap.mp ha
    obtain ⟨_, -, hb⟩ := List.mem_flatMap.mp hb
    exact .behind (about_containerEvents ha).2 (about_removedEvents hb).2

/-- An inventory with the same containers, in whatever order, adds nothing. -/
theorem difference_of_perm (unique : previous.ids.Nodup)
    (h : current.containers.Perm previous.containers) : difference previous current = [] := by
  rw [List.eq_nil_iff_forall_not_mem]
  intro event hevent
  cases (mem_difference unique).mp hevent with
  | added hmem hnew => exact hnew _ (h.mem_iff.mp hmem) rfl
  | changed hold hmem hid hchanged =>
    rw [List.inj_on_of_nodup_map unique hold (h.mem_iff.mp hmem) hid] at hchanged
    exact not_changed_self hchanged
  | removed hold hgone => exact hgone _ (h.mem_iff.mpr hold) rfl

/-! ### The history -/

/-- Dropping from the front what will be dropped anyway changes nothing. -/
theorem rtake_rtake_append {α : Type*} (n : Nat) (as bs : List α) :
    (as.rtake n ++ bs).rtake n = (as ++ bs).rtake n := by
  simp only [List.rtake_eq_reverse_take_reverse, List.reverse_append, List.reverse_reverse,
    List.take_append, List.take_take]
  rw [min_eq_left (Nat.sub_le n _)]

theorem processInventories_concat (inventories : List PersistedTargetDockerInventory)
    (current : PersistedTargetDockerInventory) :
    processInventories (inventories ++ [current]) =
      some (updateDockerInventoryEvents (processInventories inventories) current) := by
  rw [processInventories, List.foldl_append, List.foldl_cons, List.foldl_nil]
  rfl

theorem differences_concat (inventories : List PersistedTargetDockerInventory) :
    differences (inventories ++ [previous, current]) =
      differences (inventories ++ [previous]) ++ difference previous current := by
  induction inventories with
  | nil => simp [differences]
  | cons first rest ih =>
    cases rest with
    | nil => simp [differences]
    | cons second rest =>
      simp only [List.cons_append, differences, List.append_assoc] at ih ⊢
      rw [ih]

/-- The events of the inventory before are not compared. -/
theorem difference_with_events (events : List DockerInventoryEvent) :
    difference { previous with events } current = difference previous current :=
  rfl

/-- Only the events of the current inventory change. -/
theorem updateDockerInventoryEvents_eq (previous : Option PersistedTargetDockerInventory)
    (current : PersistedTargetDockerInventory) :
    updateDockerInventoryEvents previous current =
      { current with events := (updateDockerInventoryEvents previous current).events } := by
  rw [updateDockerInventoryEvents]

/-- After any number of inventories the last of the whole history is stored, with the containers
of the last inventory. -/
theorem processInventories_eq (inventories : List PersistedTargetDockerInventory)
    (current : PersistedTargetDockerInventory) :
    processInventories (inventories ++ [current]) =
      some { current with
        events := (differences (inventories ++ [current])).rtake maxDockerInventoryEvents } := by
  induction inventories using List.reverseRecOn generalizing current with
  | nil =>
    change some (updateDockerInventoryEvents none current) = _
    rw [updateDockerInventoryEvents_eq, updateDockerInventoryEvents_first, List.nil_append,
      differences, List.rtake_nil]
    exact fun _ _ _ h => nomatch h
  | append_singleton inventories previous ih =>
    rw [processInventories_concat, ih, updateDockerInventoryEvents_eq,
      updateDockerInventoryEvents_events, rtake_rtake_append, List.append_assoc, List.cons_append,
      List.nil_append, differences_concat, difference_with_events]

/-- The history after any number of inventories. -/
theorem eventHistory_eq (inventories : List PersistedTargetDockerInventory) :
    eventHistory inventories = (differences inventories).rtake maxDockerInventoryEvents := by
  cases inventories using List.reverseRecOn with
  | nil => simp [eventHistory, processInventories, differences]
  | append_singleton inventories current =>
    rw [eventHistory, processInventories_eq, Option.map_some, Option.getD_some]

/-- The history is the end of the concatenated differences, where a difference holds the changes
of two neighbouring inventories in order; the same containers again and a first inventory add
nothing. -/
theorem eventHistory_spec (inventories : List PersistedTargetDockerInventory)
    (unique : ∀ inventory ∈ inventories, inventory.ids.Nodup) :
    eventHistory inventories = (differences inventories).rtake maxDockerInventoryEvents ∧
    (∀ previous current, [previous, current] <:+: inventories →
      (∀ event, event ∈ difference previous current ↔ Change previous current event) ∧
      (difference previous current).Pairwise (Precedes previous current) ∧
      (current.containers.Perm previous.containers → difference previous current = [])) ∧
    ∀ first, eventHistory [first] = [] := by
  refine ⟨eventHistory_eq inventories, fun previous current hoccurs => ?_, fun first => ?_⟩
  · have hunique : previous.ids.Nodup := unique previous (hoccurs.subset List.mem_cons_self)
    exact ⟨fun event => mem_difference hunique, pairwise_difference previous current,
      difference_of_perm hunique⟩
  · rw [eventHistory_eq, differences, List.rtake_nil]
    exact fun _ _ _ h => nomatch h

/-- A container that restarts while another one appears. -/
def oneContainer : PersistedTargetDockerInventory :=
  ⟨0, [⟨"web", "web", "nginx:1", "running", none, some 1, none, none⟩], []⟩

def twoContainers : PersistedTargetDockerInventory :=
  ⟨30, [⟨"web", "web", "nginx:1", "running", none, some 2, none, none⟩,
    ⟨"db", "db", "redis:7", "running", none, none, none, none⟩], []⟩

theorem eventHistory_twoContainers :
    eventHistory [oneContainer, twoContainers] =
        (differences [oneContainer, twoContainers]).rtake maxDockerInventoryEvents ∧
      (differences [oneContainer, twoContainers]).map (·.kind) =
        [.restartCountIncreased, .added] :=
  ⟨(eventHistory_spec [oneContainer, twoContainers] (by decide)).1, by decide +kernel⟩

end

end Lxcup.Persistence
