import Lxcup.Lib.Lists
import Lxcup.Server.Executions

/-!
# The inventory of Docker workloads, in memory and in the database

What a discovery finds on a host is merged into the inventory: containers that are listed are
present, the others of the host are missing, and each is new, changed or unchanged since the
discovery before.  Whether a workload is managed is not the business of a discovery.  The server
keeps the inventory in memory, or in a table whose rows are merged by an `INSERT .. ON CONFLICT`.

A row holds texts where the domain has enumerations, and the number of the host as a signed
integer.  Reading a row fails on a text that names none of the values.

## Main definitions

* `DockerContainerInfo`, `DockerWorkloadDto` — what the agent lists, and what the server answers.
* `reconcileMemoryDockerInventory`, `adoptInMemory`, `removeInMemory` — the inventory in memory.
* `WorkloadTable` with `upsertDiscovered`, `markMissingExcept`, `list`, `adopt`, `remove`.
* `persistDockerInventory`, `adoptPersisted`, `removePersisted` — the handlers with a database.
-/

namespace Lxcup.Agreement

open Lxcup.Lib Lxcup.Core Lxcup.Persistence Lxcup.Server

/-! ### What is discovered -/

/-- A container, as the agent lists it; the fields that the inventory does not keep are left
out. -/
structure DockerContainerInfo where
  id : String
  name : String
  image : String
  state : String
  status : String
  ports : List String
  startedAt : Option String
  labels : List String
  deriving DecidableEq, Repr, Inhabited

inductive DockerWorkloadPresence
  | present | missing
  deriving DecidableEq, Repr, Inhabited

def DockerWorkloadPresence.text : DockerWorkloadPresence → String
  | .present => "present"
  | .missing => "missing"

inductive DockerWorkloadChange
  | new | changed | unchanged | missing
  deriving DecidableEq, Repr, Inhabited

def DockerWorkloadChange.text : DockerWorkloadChange → String
  | .new => "new"
  | .changed => "changed"
  | .unchanged => "unchanged"
  | .missing => "missing"

inductive DockerWorkloadManagementState
  | discovered | managed
  deriving DecidableEq, Repr, Inhabited

def DockerWorkloadManagementState.text : DockerWorkloadManagementState → String
  | .discovered => "discovered"
  | .managed => "managed"

/-- A workload of the domain. -/
structure DockerWorkload where
  hostContainerId : ContainerId
  container : DockerContainerInfo
  presence : DockerWorkloadPresence
  change : DockerWorkloadChange
  managementState : DockerWorkloadManagementState
  discoveredAt : Timestamp
  deriving DecidableEq, Repr, Inhabited

/-- A workload as the server answers it, and as it is kept in memory. -/
structure DockerWorkloadDto where
  hostContainerId : ContainerId
  container : DockerContainerInfo
  presence : String
  changeState : String
  managementState : String
  discoveredAt : Timestamp
  deriving DecidableEq, Repr, Inhabited

namespace DockerWorkloadDto

/-- A workload that has just been found. -/
def discovered (hostContainerId : ContainerId) (container : DockerContainerInfo)
    (now : Timestamp) : DockerWorkloadDto where
  hostContainerId := hostContainerId
  container := container
  presence := "present"
  changeState := "new"
  managementState := "discovered"
  discoveredAt := now

/-- `DockerWorkloadDto::from`. -/
def ofWorkload (item : DockerWorkload) : DockerWorkloadDto where
  hostContainerId := item.hostContainerId
  container := item.container
  presence := item.presence.text
  changeState := item.change.text
  managementState := item.managementState.text
  discoveredAt := item.discoveredAt

end DockerWorkloadDto

/-! ### The inventory in memory -/

/-- `docker_workloads` of the store. -/
abbrev MemoryInventory := Table (ContainerId × String) DockerWorkloadDto

/-- `docker_workload_change`. -/
def dockerWorkloadChange (previous : Option DockerWorkloadDto) (current : DockerContainerInfo) :
    String :=
  match previous with
  | none => "new"
  | some previous =>
    if previous.presence = "missing" ∨ previous.container.name ≠ current.name ∨
        previous.container.image ≠ current.image ∨ previous.container.state ≠ current.state ∨
        previous.container.status ≠ current.status ∨ previous.container.ports ≠ current.ports ∨
        previous.container.startedAt ≠ current.startedAt ∨
        previous.container.labels ≠ current.labels then
      "changed"
    else "unchanged"

/-- The body of the loop over the listed containers. -/
def rememberContainer (hostContainerId : ContainerId) (now : Timestamp) (store : MemoryInventory)
    (container : DockerContainerInfo) : MemoryInventory :=
  let key := (hostContainerId, container.id)
  let previous := store.get key
  let managementState := match previous with
    | some item => item.managementState
    | none => "discovered"
  store.put key { DockerWorkloadDto.discovered hostContainerId container now with
    managementState := managementState
    changeState := dockerWorkloadChange previous container }

/-- `mark_missing_docker_workloads`. -/
def markMissingDockerWorkloads (store : MemoryInventory) (hostContainerId : ContainerId)
    (seenIds : List String) : MemoryInventory :=
  store.mapValues fun key workload =>
    if key.1 = hostContainerId ∧ key.2 ∉ seenIds ∧ workload.presence = "present" then
      { workload with presence := "missing", changeState := "missing" }
    else workload

/-- The workloads of a host. -/
def listInMemory (store : MemoryInventory) (hostContainerId : ContainerId) :
    List DockerWorkloadDto :=
  store.values.filter fun item => item.hostContainerId = hostContainerId

/-- `reconcile_memory_docker_inventory`. -/
def reconcileMemoryDockerInventory (store : MemoryInventory) (hostContainerId : ContainerId)
    (containers : List DockerContainerInfo) (now : Timestamp) :
    List DockerWorkloadDto × MemoryInventory :=
  let seenIds := containers.map (·.id)
  let store := containers.foldl (rememberContainer hostContainerId now) store
  let store := markMissingDockerWorkloads store hostContainerId seenIds
  (listInMemory store hostContainerId, store)

/-- `adopt_docker_container`, without a database. -/
def adoptInMemory (store : MemoryInventory) (containerId dockerId : String) :
    Except ApiError DockerWorkloadDto × MemoryInventory :=
  match parseContainerId containerId with
  | .error error => (.error error, store)
  | .ok containerId =>
    match store.get (containerId, dockerId) with
    | none => (.error (.notFound "Docker-Container zuerst entdecken"), store)
    | some workload =>
      let workload := { workload with managementState := "managed" }
      (.ok workload, store.put (containerId, dockerId) workload)

/-- The answer when a removal is not confirmed. -/
def removalUnconfirmed : ApiError :=
  .badRequest "confirmation_required" "Entfernen muss ausdrücklich bestätigt werden"

/-- `remove_docker_container`, without a database. -/
def removeInMemory (store : MemoryInventory) (containerId dockerId : String) (confirmed : Bool) :
    Except ApiError Unit × MemoryInventory :=
  if !confirmed then (.error removalUnconfirmed, store)
  else
    match parseContainerId containerId with
    | .error error => (.error error, store)
    | .ok containerId =>
      match store.get (containerId, dockerId) with
      | none => (.error (.notFound "Docker-Container nicht im Inventar"), store)
      | some _ => (.ok (), store.remove (containerId, dockerId))

/-! ### The table -/

/-- A row of `docker_workloads`. -/
structure WorkloadRow where
  hostContainerId : Int64
  dockerId : String
  name : String
  image : String
  state : String
  status : String
  managementState : String
  discoveredAt : Timestamp
  ports : List String
  startedAt : Option String
  labels : List String
  presence : String
  lastSeenAt : Timestamp
  changeState : String
  deriving DecidableEq, Repr

/-- The primary key. -/
def WorkloadRow.key (row : WorkloadRow) : Int64 × String := (row.hostContainerId, row.dockerId)

/-- The table, each row under its primary key. -/
structure WorkloadTable where
  rows : Table (Int64 × String) WorkloadRow
  keyed : ∀ key row, rows.get key = some row → row.key = key

/-- `host.value() as i64`. -/
def hostColumn (host : ContainerId) : Int64 := host.value.toInt64

def presenceOfText : String → Except RepositoryError DockerWorkloadPresence
  | "present" => .ok .present
  | "missing" => .ok .missing
  | _ => .error (.invalidValue "docker workload presence")

/-- What `upsert_discovered` makes of the change that its statement returns. -/
def discoveredChange : String → Except RepositoryError DockerWorkloadChange
  | "new" => .ok .new
  | "changed" => .ok .changed
  | "unchanged" => .ok .unchanged
  | _ => .error (.invalidValue "docker workload change state")

def changeOfText : String → Except RepositoryError DockerWorkloadChange
  | "new" => .ok .new
  | "changed" => .ok .changed
  | "unchanged" => .ok .unchanged
  | "missing" => .ok .missing
  | _ => .error (.invalidValue "docker workload change state")

def managementStateOfText : String → Except RepositoryError DockerWorkloadManagementState
  | "discovered" => .ok .discovered
  | "managed" => .ok .managed
  | _ => .error (.invalidValue "docker workload management state")

/-- The columns that describe the container. -/
def WorkloadRow.container (row : WorkloadRow) : DockerContainerInfo where
  id := row.dockerId
  name := row.name
  image := row.image
  state := row.state
  status := row.status
  ports := row.ports
  startedAt := row.startedAt
  labels := row.labels

/-- `docker_workload_from_row`. -/
def dockerWorkloadFromRow (row : WorkloadRow) : Except RepositoryError DockerWorkload := do
  let presence ← presenceOfText row.presence
  let change ← changeOfText row.changeState
  let managementState ← managementStateOfText row.managementState
  return {
    hostContainerId := ⟨row.hostContainerId.toUInt64⟩
    container := row.container
    presence := presence
    change := change
    managementState := managementState
    discoveredAt := row.discoveredAt }

namespace WorkloadTable

/-- No rows. -/
def empty : WorkloadTable := ⟨∅, by simp⟩

/-- The row of a key. -/
def get (table : WorkloadTable) (key : Int64 × String) : Option WorkloadRow := table.rows.get key

/-- Write a row, over the one with the same key. -/
def put (table : WorkloadTable) (row : WorkloadRow) : WorkloadTable where
  rows := table.rows.put row.key row
  keyed := by
    intro key other h
    rcases Table.get_put_cases h with ⟨rfl, rfl⟩ | ⟨-, hother⟩
    · rfl
    · exact table.keyed key other hother

/-- The row that `INSERT` writes. -/
def insertedRow (item : DockerWorkload) : WorkloadRow where
  hostContainerId := hostColumn item.hostContainerId
  dockerId := item.container.id
  name := item.container.name
  image := item.container.image
  state := item.container.state
  status := item.container.status
  managementState := "discovered"
  discoveredAt := item.discoveredAt
  ports := item.container.ports
  startedAt := item.container.startedAt
  labels := item.container.labels
  presence := "present"
  lastSeenAt := item.discoveredAt
  changeState := "new"

/-- The row that `ON CONFLICT .. DO UPDATE` writes: `excluded` is the row that would have been
inserted. -/
def mergedRow (row excluded : WorkloadRow) : WorkloadRow :=
  { row with
    changeState :=
      if row.presence = "missing" ∨ row.name ≠ excluded.name ∨ row.image ≠ excluded.image ∨
          row.state ≠ excluded.state ∨ row.status ≠ excluded.status ∨
          row.ports ≠ excluded.ports ∨ row.startedAt ≠ excluded.startedAt ∨
          row.labels ≠ excluded.labels then
        "changed"
      else "unchanged"
    name := excluded.name
    image := excluded.image
    state := excluded.state
    status := excluded.status
    ports := excluded.ports
    startedAt := excluded.startedAt
    labels := excluded.labels
    presence := "present"
    discoveredAt := excluded.discoveredAt
    lastSeenAt := excluded.lastSeenAt }

/-- The row of a workload that was discovered. -/
def upsertedRow (table : WorkloadTable) (item : DockerWorkload) : WorkloadRow :=
  let inserted := insertedRow item
  match table.get inserted.key with
  | none => inserted
  | some row => mergedRow row inserted

/-- `upsert_discovered`, with what the statement returns. -/
def upsertDiscovered (table : WorkloadTable) (item : DockerWorkload) :
    Except RepositoryError DockerWorkloadChange × WorkloadTable :=
  let row := table.upsertedRow item
  (discoveredChange row.changeState, table.put row)

/-- `mark_missing_except`. -/
def markMissingExcept (table : WorkloadTable) (host : ContainerId) (seenIds : List String) :
    WorkloadTable where
  rows := table.rows.mapValues fun _ row =>
    if row.hostContainerId = hostColumn host ∧ row.presence = "present" ∧ row.dockerId ∉ seenIds
    then { row with presence := "missing", changeState := "missing" }
    else row
  keyed := by
    intro key row h
    rw [Table.get_mapValues, Option.map_eq_some_iff] at h
    obtain ⟨old, hold, rfl⟩ := h
    rw [← table.keyed key old hold]
    split <;> rfl

/-- `list`: in the order of the names. -/
def list (table : WorkloadTable) (host : ContainerId) :
    Except RepositoryError (List DockerWorkload) :=
  let rows := table.rows.values.filter fun row => row.hostContainerId = hostColumn host
  (rows.insertionSort fun a b => a.name ≤ b.name).mapM dockerWorkloadFromRow

/-- `adopt`, with whether a row was updated. -/
def adopt (table : WorkloadTable) (host : ContainerId) (id : String) : Bool × WorkloadTable :=
  match table.get (hostColumn host, id) with
  | none => (false, table)
  | some row => (true, table.put { row with managementState := "managed" })

/-- `remove`, with whether a row was deleted. -/
def remove (table : WorkloadTable) (host : ContainerId) (id : String) : Bool × WorkloadTable :=
  match table.get (hostColumn host, id) with
  | none => (false, table)
  | some _ => (true,
    { rows := table.rows.remove (hostColumn host, id)
      keyed := by
        intro key row h
        rw [Table.get_remove] at h
        split at h
        · cases h
        · exact table.keyed key row h })

end WorkloadTable

/-! ### The handlers with a database that carries out every statement -/

/-- The answer when the inventory cannot be used. -/
def inventoryUnavailable (message : String) : ApiError :=
  .dependency "docker_inventory_unavailable" message

/-- The loop of `persist_docker_inventory`, up to the first error. -/
def upsertAll (host : ContainerId) (now : Timestamp) :
    List DockerContainerInfo → WorkloadTable → Except RepositoryError Unit × WorkloadTable
  | [], table => (.ok (), table)
  | container :: containers, table =>
    match table.upsertDiscovered ⟨host, container, .present, .new, .discovered, now⟩ with
    | (.error error, table) => (.error error, table)
    | (.ok _, table) => upsertAll host now containers table

/-- `persist_docker_inventory`. -/
def persistDockerInventory (table : WorkloadTable) (host : ContainerId)
    (containers : List DockerContainerInfo) (now : Timestamp) :
    Except ApiError (List DockerWorkloadDto) × WorkloadTable :=
  match upsertAll host now containers table with
  | (.error _, table) =>
    (.error (inventoryUnavailable "Docker-Inventar konnte nicht gespeichert werden"), table)
  | (.ok (), table) =>
    let table := table.markMissingExcept host (containers.map (·.id))
    match table.list host with
    | .error _ =>
      (.error (inventoryUnavailable "Docker-Inventar konnte nicht gelesen werden"), table)
    | .ok workloads => (.ok (workloads.map .ofWorkload), table)

/-- `adopt_docker_container`, with a database. -/
def adoptPersisted (table : WorkloadTable) (containerId dockerId : String) :
    Except ApiError DockerWorkloadDto × WorkloadTable :=
  match parseContainerId containerId with
  | .error error => (.error error, table)
  | .ok host =>
    match table.adopt host dockerId with
    | (false, table) => (.error (.notFound "Docker-Container zuerst entdecken"), table)
    | (true, table) =>
      match table.list host with
      | .error _ =>
        (.error (inventoryUnavailable "Docker-Inventar konnte nicht gelesen werden"), table)
      | .ok workloads =>
        match workloads.find? fun item => item.container.id = dockerId with
        | none => (.error (.notFound "Docker-Container nicht im Inventar"), table)
        | some item => (.ok (.ofWorkload item), table)

/-- `remove_docker_container`, with a database. -/
def removePersisted (table : WorkloadTable) (containerId dockerId : String) (confirmed : Bool) :
    Except ApiError Unit × WorkloadTable :=
  if !confirmed then (.error removalUnconfirmed, table)
  else
    match parseContainerId containerId with
    | .error error => (.error error, table)
    | .ok host =>
      match table.remove host dockerId with
      | (false, table) => (.error (.notFound "Docker-Container nicht im Inventar"), table)
      | (true, table) => (.ok (), table)

end Lxcup.Agreement
