import Lxcup.Agreement.Docker
import Lxcup.Lib.Outcome

/-!
# The two inventories agree

Discoveries, adoptions and removals are applied to the inventory in memory and to the one in the
database.  After every sequence of them both list the same workloads for every host, the times of
discovery aside, and answer the next operation alike.

What carries this is that every row of the table reads as the workload under the same key in
memory: the two comparisons that tell changed from unchanged see the same fields, and neither side
touches the management state of a workload that it knows.

## Main definitions

* `DockerOp`, `applyMemory`, `applyPersisted` — the operations on either side.
* `Agree` — every row reads as the workload in memory.
* `SameInventory`, `SameAnswer` — the same lists and the same answers, up to order and times.

## Main results

* `Agree.discover`, `Agree.adopt`, `Agree.remove` — what one operation keeps.
* `inventories_agree` — what every sequence of operations keeps.
-/

namespace Lxcup.Agreement

open Lxcup.Lib Lxcup.Core Lxcup.Persistence Lxcup.Server

/-! ### Operations -/

/-- An operation on the inventory; a discovery comes with the containers that the agent lists. -/
inductive DockerOp
  | discover (host : ContainerId) (containers : List DockerContainerInfo)
  | adopt (containerId dockerId : String)
  | remove (containerId dockerId : String) (confirmed : Bool)

/-- What an operation answers. -/
inductive DockerAnswer
  | workloads (items : List DockerWorkloadDto)
  | workload (item : DockerWorkloadDto)
  | removed

/-- An operation without a database. -/
def applyMemory (store : MemoryInventory) (now : Timestamp) :
    DockerOp → Except ApiError DockerAnswer × MemoryInventory
  | .discover host containers =>
    let (items, store) := reconcileMemoryDockerInventory store host containers now
    (.ok (.workloads items), store)
  | .adopt containerId dockerId =>
    let (answer, store) := adoptInMemory store containerId dockerId
    (answer.map .workload, store)
  | .remove containerId dockerId confirmed =>
    let (answer, store) := removeInMemory store containerId dockerId confirmed
    (answer.map fun _ => .removed, store)

/-- An operation with a database. -/
def applyPersisted (table : WorkloadTable) (now : Timestamp) :
    DockerOp → Except ApiError DockerAnswer × WorkloadTable
  | .discover host containers =>
    let (answer, table) := persistDockerInventory table host containers now
    (answer.map .workloads, table)
  | .adopt containerId dockerId =>
    let (answer, table) := adoptPersisted table containerId dockerId
    (answer.map .workload, table)
  | .remove containerId dockerId confirmed =>
    let (answer, table) := removePersisted table containerId dockerId confirmed
    (answer.map fun _ => .removed, table)

/-! ### Rows and workloads -/

/-- A workload without the time of its discovery. -/
def DockerWorkloadDto.untimed (item : DockerWorkloadDto) : DockerWorkloadDto :=
  { item with discoveredAt := 0 }

/-- What a row says, without the times. -/
def WorkloadRow.view (row : WorkloadRow) : DockerWorkloadDto where
  hostContainerId := ⟨row.hostContainerId.toUInt64⟩
  container := row.container
  presence := row.presence
  changeState := row.changeState
  managementState := row.managementState
  discoveredAt := 0

/-- The texts of a row name values. -/
structure WorkloadRow.Readable (row : WorkloadRow) : Prop where
  presence : ∃ value : DockerWorkloadPresence, row.presence = value.text
  change : ∃ value : DockerWorkloadChange, row.changeState = value.text
  management : ∃ value : DockerWorkloadManagementState, row.managementState = value.text

theorem presenceOfText_text (value : DockerWorkloadPresence) :
    presenceOfText value.text = .ok value := by
  cases value <;> rfl

theorem changeOfText_text (value : DockerWorkloadChange) : changeOfText value.text = .ok value := by
  cases value <;> rfl

theorem managementStateOfText_text (value : DockerWorkloadManagementState) :
    managementStateOfText value.text = .ok value := by
  cases value <;> rfl

/-- A row whose texts name values can be read, and says what is in it. -/
theorem read_of_readable {row : WorkloadRow} (h : row.Readable) :
    ∃ item, dockerWorkloadFromRow row = .ok item ∧
      (DockerWorkloadDto.ofWorkload item).untimed = row.view := by
  obtain ⟨⟨presence, hpresence⟩, ⟨change, hchange⟩, ⟨management, hmanagement⟩⟩ := h
  refine ⟨⟨⟨row.hostContainerId.toUInt64⟩, row.container, presence, change, management,
    row.discoveredAt⟩, ?_, ?_⟩
  · rw [dockerWorkloadFromRow, hpresence, presenceOfText_text, hchange, changeOfText_text,
      hmanagement, managementStateOfText_text]
    rfl
  · rw [DockerWorkloadDto.ofWorkload, DockerWorkloadDto.untimed, WorkloadRow.view, hpresence,
      hchange, hmanagement]

theorem hostColumn_toUInt64 (host : ContainerId) :
    (⟨(hostColumn host).toUInt64⟩ : ContainerId) = host := by
  simp [hostColumn]

theorem hostColumn_of_toUInt64 (column : Int64) : hostColumn ⟨column.toUInt64⟩ = column := by
  simp [hostColumn]

theorem hostColumn_inj {host host' : ContainerId} (h : hostColumn host = hostColumn host') :
    host = host' := by
  rw [← hostColumn_toUInt64 host, h, hostColumn_toUInt64]

/-- The row reads as the workload. -/
structure ReadsAs (row : WorkloadRow) (item : DockerWorkloadDto) : Prop where
  readable : row.Readable
  same : row.view = item.untimed

namespace ReadsAs

variable {row : WorkloadRow} {item : DockerWorkloadDto}

theorem container (h : ReadsAs row item) : row.container = item.container :=
  congrArg DockerWorkloadDto.container h.same

theorem presence (h : ReadsAs row item) : row.presence = item.presence :=
  congrArg DockerWorkloadDto.presence h.same

theorem changeState (h : ReadsAs row item) : row.changeState = item.changeState :=
  congrArg DockerWorkloadDto.changeState h.same

theorem managementState (h : ReadsAs row item) : row.managementState = item.managementState :=
  congrArg DockerWorkloadDto.managementState h.same

theorem host (h : ReadsAs row item) : hostColumn item.hostContainerId = row.hostContainerId := by
  have hhost : (⟨row.hostContainerId.toUInt64⟩ : ContainerId) = item.hostContainerId :=
    congrArg DockerWorkloadDto.hostContainerId h.same
  rw [← hhost, hostColumn_of_toUInt64]

end ReadsAs

/-! ### Agreement -/

/-- Every row of the table reads as the workload under the same key in memory. -/
structure Agree (store : MemoryInventory) (table : WorkloadTable) : Prop where
  keyed : ∀ key item, store.get key = some item → (item.hostContainerId, item.container.id) = key
  absent : ∀ host id, store.get (host, id) = none → table.get (hostColumn host, id) = none
  present : ∀ host id item, store.get (host, id) = some item →
    ∃ row, table.get (hostColumn host, id) = some row ∧ ReadsAs row item

theorem agree_empty : Agree ∅ .empty where
  keyed _ _ h := by simp at h
  absent _ _ _ := Table.get_empty _
  present _ _ _ h := by simp at h

theorem WorkloadTable.get_put (table : WorkloadTable) (row : WorkloadRow) (key : Int64 × String) :
    (table.put row).get key = if key = row.key then some row else table.get key :=
  Table.get_put table.rows row.key key row

theorem columns_eq_iff {host host' : ContainerId} {id id' : String} :
    (hostColumn host, id) = (hostColumn host', id') ↔ (host, id) = (host', id') := by
  simp only [Prod.mk.injEq]
  exact ⟨fun h => ⟨hostColumn_inj h.1, h.2⟩, fun h => ⟨congrArg hostColumn h.1, h.2⟩⟩

/-- Writing a workload on both sides under the same key. -/
theorem Agree.put {store : MemoryInventory} {table : WorkloadTable} (h : Agree store table)
    {row : WorkloadRow} {item : DockerWorkloadDto} (hreads : ReadsAs row item) :
    Agree (store.put (item.hostContainerId, item.container.id) item) (table.put row) := by
  have hid : row.dockerId = item.container.id := congrArg DockerContainerInfo.id hreads.container
  have hkey : row.key = (hostColumn item.hostContainerId, item.container.id) :=
    Prod.ext hreads.host.symm hid
  constructor
  · intro key other hother
    rcases Table.get_put_cases hother with ⟨rfl, rfl⟩ | ⟨-, hold⟩
    · rfl
    · exact h.keyed key other hold
  · intro host id hnone
    rw [Table.get_put] at hnone
    split at hnone
    case isTrue => cases hnone
    case isFalse hne =>
      rw [WorkloadTable.get_put, hkey, if_neg (mt columns_eq_iff.mp hne)]
      exact h.absent host id hnone
  · intro host id other hother
    rcases Table.get_put_cases hother with ⟨heq, rfl⟩ | ⟨hne, hold⟩
    · refine ⟨row, ?_, hreads⟩
      rw [WorkloadTable.get_put, hkey, if_pos (columns_eq_iff.mpr heq)]
    · obtain ⟨old, hrow, hold'⟩ := h.present host id other hold
      refine ⟨old, ?_, hold'⟩
      rw [WorkloadTable.get_put, hkey, if_neg (mt columns_eq_iff.mp hne), hrow]

/-! ### Discoveries -/

/-- What a discovery hands to the statement. -/
def discoveredItem (host : ContainerId) (container : DockerContainerInfo) (now : Timestamp) :
    DockerWorkload :=
  ⟨host, container, .present, .new, .discovered, now⟩

/-- The comparison of the statement is the one of `docker_workload_change`. -/
theorem changeState_mergedRow {row : WorkloadRow} {item : DockerWorkloadDto}
    (hreads : ReadsAs row item) (host : ContainerId) (container : DockerContainerInfo)
    (now : Timestamp) :
    (WorkloadTable.mergedRow row
        (WorkloadTable.insertedRow (discoveredItem host container now))).changeState
      = dockerWorkloadChange (some item) container := by
  have hcontainer := hreads.container
  have hpresence := hreads.presence
  simp only [WorkloadTable.mergedRow, WorkloadTable.insertedRow, discoveredItem,
    dockerWorkloadChange, ← hcontainer, ← hpresence]
  rfl

/-- The change of a container that is listed is never that it is missing. -/
theorem dockerWorkloadChange_cases (previous : Option DockerWorkloadDto)
    (current : DockerContainerInfo) :
    ∃ change : DockerWorkloadChange, dockerWorkloadChange previous current = change.text ∧
      discoveredChange change.text = .ok change := by
  unfold dockerWorkloadChange
  cases previous with
  | none => exact ⟨.new, rfl, rfl⟩
  | some previous =>
    dsimp only
    split
    case isTrue => exact ⟨.changed, rfl, rfl⟩
    case isFalse => exact ⟨.unchanged, rfl, rfl⟩

/-- The workload that a discovery leaves in memory. -/
def rememberedItem (host : ContainerId) (now : Timestamp) (previous : Option DockerWorkloadDto)
    (container : DockerContainerInfo) : DockerWorkloadDto where
  hostContainerId := host
  container := container
  presence := "present"
  changeState := dockerWorkloadChange previous container
  managementState := match previous with
    | some item => item.managementState
    | none => "discovered"
  discoveredAt := now

theorem rememberContainer_eq (host : ContainerId) (now : Timestamp) (store : MemoryInventory)
    (container : DockerContainerInfo) :
    rememberContainer host now store container =
      store.put (host, container.id)
        (rememberedItem host now (store.get (host, container.id)) container) := by
  rfl

/-- The row that a discovery writes reads as the workload that it leaves in memory. -/
theorem Agree.upsertedRow {store : MemoryInventory} {table : WorkloadTable}
    (h : Agree store table) (host : ContainerId) (container : DockerContainerInfo)
    (now now' : Timestamp) :
    ReadsAs (table.upsertedRow (discoveredItem host container now'))
      (rememberedItem host now (store.get (host, container.id)) container) := by
  cases hold : store.get (host, container.id) with
  | none =>
    -- no conflict: the row is inserted as it is
    have hrow : table.get (WorkloadTable.insertedRow (discoveredItem host container now')).key
        = none := h.absent host container.id hold
    rw [WorkloadTable.upsertedRow, hrow]
    constructor
    · exact ⟨⟨.present, rfl⟩, ⟨.new, rfl⟩, ⟨.discovered, rfl⟩⟩
    · simp [WorkloadRow.view, WorkloadTable.insertedRow, discoveredItem, WorkloadRow.container,
        DockerWorkloadDto.untimed, rememberedItem, dockerWorkloadChange, hostColumn]
  | some item =>
    obtain ⟨row, hrow, hreads⟩ := h.present host container.id item hold
    have hget : table.get (WorkloadTable.insertedRow (discoveredItem host container now')).key
        = some row := hrow
    have hkey : row.key = (hostColumn host, container.id) := table.keyed _ _ hrow
    have hhost : row.hostContainerId = hostColumn host := congrArg Prod.fst hkey
    have hid : row.dockerId = container.id := congrArg Prod.snd hkey
    have hchange := changeState_mergedRow hreads host container now'
    -- the management state is the one column that the statement leaves alone
    rw [WorkloadTable.upsertedRow, hget]
    constructor
    · refine ⟨⟨.present, rfl⟩, ?_, hreads.readable.management⟩
      obtain ⟨change, htext, -⟩ := dockerWorkloadChange_cases (some item) container
      exact ⟨change, hchange.trans htext⟩
    · simp only [WorkloadRow.view, DockerWorkloadDto.untimed, rememberedItem, hchange]
      simp [WorkloadTable.mergedRow, WorkloadTable.insertedRow, discoveredItem,
        WorkloadRow.container, hhost, hid, hreads.managementState, hostColumn]

/-- The body of the loop over the listed containers on both sides. -/
theorem Agree.upsert {store : MemoryInventory} {table : WorkloadTable} (h : Agree store table)
    (host : ContainerId) (container : DockerContainerInfo) (now now' : Timestamp) :
    ∃ change table', table.upsertDiscovered (discoveredItem host container now')
        = (.ok change, table') ∧
      Agree (rememberContainer host now store container) table' := by
  have hreads := h.upsertedRow host container now now'
  obtain ⟨change, htext, hchange⟩ :=
    dockerWorkloadChange_cases (store.get (host, container.id)) container
  have hstate : (table.upsertedRow (discoveredItem host container now')).changeState
      = change.text := hreads.changeState.trans htext
  refine ⟨change, table.put (table.upsertedRow (discoveredItem host container now')), ?_, ?_⟩
  · rw [WorkloadTable.upsertDiscovered, hstate, hchange]
  · rw [rememberContainer_eq]
    exact h.put hreads

/-- The loop over the listed containers never fails. -/
theorem Agree.upsertAll {store : MemoryInventory} {table : WorkloadTable} (h : Agree store table)
    (host : ContainerId) (containers : List DockerContainerInfo) (now now' : Timestamp) :
    ∃ table', upsertAll host now' containers table = (.ok (), table') ∧
      Agree (containers.foldl (rememberContainer host now) store) table' := by
  induction containers generalizing store table with
  | nil => exact ⟨table, rfl, h⟩
  | cons container containers ih =>
    obtain ⟨change, table', hupsert, hagree⟩ := h.upsert host container now now'
    obtain ⟨final, hrest, hfinal⟩ := ih hagree
    refine ⟨final, ?_, hfinal⟩
    rw [discoveredItem] at hupsert
    rw [Agreement.upsertAll, hupsert]
    exact hrest

/-- A row whose container was not listed, and its workload. -/
theorem ReadsAs.missing {row : WorkloadRow} {item : DockerWorkloadDto} (h : ReadsAs row item) :
    ReadsAs { row with presence := "missing", changeState := "missing" }
      { item with presence := "missing", changeState := "missing" } where
  readable := ⟨⟨.missing, rfl⟩, ⟨.missing, rfl⟩, h.readable.management⟩
  same := congrArg
    (fun view : DockerWorkloadDto => { view with presence := "missing", changeState := "missing" })
    h.same

theorem Agree.markMissing {store : MemoryInventory} {table : WorkloadTable}
    (h : Agree store table) (host : ContainerId) (seenIds : List String) :
    Agree (markMissingDockerWorkloads store host seenIds)
      (table.markMissingExcept host seenIds) := by
  constructor
  · intro key item hitem
    rw [markMissingDockerWorkloads, Table.get_mapValues, Option.map_eq_some_iff] at hitem
    obtain ⟨old, hold, rfl⟩ := hitem
    rw [← h.keyed key old hold]
    split <;> rfl
  · intro other id hnone
    rw [markMissingDockerWorkloads, Table.get_mapValues, Option.map_eq_none_iff] at hnone
    have hrow : table.rows.get (hostColumn other, id) = none := h.absent other id hnone
    rw [WorkloadTable.markMissingExcept, WorkloadTable.get, Table.get_mapValues, hrow]
    rfl
  · intro other id item hitem
    rw [markMissingDockerWorkloads, Table.get_mapValues, Option.map_eq_some_iff] at hitem
    obtain ⟨old, hold, rfl⟩ := hitem
    obtain ⟨row, hrow, hreads⟩ := h.present other id old hold
    have hkey : row.key = (hostColumn other, id) := table.keyed _ _ hrow
    have hhost : row.hostContainerId = hostColumn other := congrArg Prod.fst hkey
    have hid : row.dockerId = id := congrArg Prod.snd hkey
    -- the conditions of the two updates say the same
    have hsame : (row.hostContainerId = hostColumn host ∧ row.presence = "present" ∧
        row.dockerId ∉ seenIds) ↔ (other = host ∧ id ∉ seenIds ∧ old.presence = "present") := by
      rw [hhost, hid, hreads.presence]
      have hinj : hostColumn other = hostColumn host ↔ other = host :=
        ⟨hostColumn_inj, congrArg hostColumn⟩
      rw [hinj, and_comm (a := old.presence = "present")]
    rw [WorkloadTable.get] at hrow
    simp only [WorkloadTable.markMissingExcept, WorkloadTable.get, Table.get_mapValues, hrow,
      Option.map_some, Option.some.injEq, exists_eq_left', hsame]
    split
    case isTrue => exact hreads.missing
    case isFalse => exact hreads

/-! ### Lists -/

/-- Every row of the table is the one of a workload in memory. -/
theorem Agree.ofRow {store : MemoryInventory} {table : WorkloadTable} (h : Agree store table)
    {key : Int64 × String} {row : WorkloadRow} (hrow : table.get key = some row) :
    ∃ item, store.get (⟨key.1.toUInt64⟩, key.2) = some item ∧ ReadsAs row item := by
  have hkey : (hostColumn ⟨key.1.toUInt64⟩, key.2) = key :=
    Prod.ext (hostColumn_of_toUInt64 key.1) rfl
  cases hitem : store.get (⟨key.1.toUInt64⟩, key.2) with
  | none =>
    have habsent := h.absent _ _ hitem
    rw [hkey, hrow] at habsent
    cases habsent
  | some item =>
    obtain ⟨other, hother, hreads⟩ := h.present _ _ item hitem
    rw [hkey, hrow] at hother
    cases hother
    exact ⟨item, rfl, hreads⟩

/-- The key of a workload, as the table has it. -/
def columns (item : DockerWorkloadDto) : Int64 × String :=
  (hostColumn item.hostContainerId, item.container.id)

theorem columns_view (row : WorkloadRow) : columns row.view = row.key := by
  simp [columns, WorkloadRow.view, WorkloadRow.key, WorkloadRow.container, hostColumn]

/-- The rows of a host say what the workloads of the host in memory say. -/
theorem Agree.rows_perm {store : MemoryInventory} {table : WorkloadTable} (h : Agree store table)
    (host : ContainerId) :
    ((table.rows.values.filter fun row => row.hostContainerId = hostColumn host).map
        WorkloadRow.view).Perm ((listInMemory store host).map (·.untimed)) := by
  have hrows : (table.rows.values.map WorkloadRow.view).Nodup := by
    apply List.Nodup.of_map columns
    rw [List.map_map]
    exact Table.nodup_map_values fun key row hrow =>
      (columns_view row).trans (table.keyed key row hrow)
  have hitems : (store.values.map (·.untimed)).Nodup := by
    apply List.Nodup.of_map fun item => (item.hostContainerId, item.container.id)
    rw [List.map_map]
    exact Table.nodup_map_values h.keyed
  rw [listInMemory, List.perm_ext_iff_of_nodup (hrows.sublist (List.filter_sublist.map _))
    (hitems.sublist (List.filter_sublist.map _))]
  intro view
  simp only [List.mem_map, List.mem_filter, Table.mem_values, decide_eq_true_eq]
  constructor
  · rintro ⟨row, ⟨⟨key, hrow⟩, hhost⟩, rfl⟩
    obtain ⟨item, hitem, hreads⟩ := h.ofRow hrow
    refine ⟨item, ⟨⟨_, hitem⟩, hostColumn_inj (hreads.host.trans hhost)⟩, hreads.same.symm⟩
  · rintro ⟨item, ⟨⟨key, hitem⟩, rfl⟩, rfl⟩
    obtain ⟨row, hrow, hreads⟩ := h.present key.1 key.2 item hitem
    exact ⟨row, ⟨⟨_, hrow⟩, hreads.host.symm⟩, hreads.same⟩

/-- The list from the database can be read, and is the one in memory up to order and times. -/
theorem Agree.list {store : MemoryInventory} {table : WorkloadTable} (h : Agree store table)
    (host : ContainerId) :
    ∃ items, table.list host = .ok items ∧
      ((items.map DockerWorkloadDto.ofWorkload).map (·.untimed)).Perm
        ((listInMemory store host).map (·.untimed)) := by
  have hread : ∀ row ∈ (table.rows.values.filter fun row =>
      row.hostContainerId = hostColumn host).insertionSort (fun a b => a.name ≤ b.name),
      ∃ item, dockerWorkloadFromRow row = .ok item ∧
        (DockerWorkloadDto.ofWorkload item).untimed = row.view := by
    intro row hmem
    rw [List.mem_insertionSort, List.mem_filter, Table.mem_values] at hmem
    obtain ⟨⟨key, hrow⟩, -⟩ := hmem
    obtain ⟨item, -, hreads⟩ := h.ofRow hrow
    exact read_of_readable hreads.readable
  obtain ⟨items, hitems, hviews⟩ := mapM_of_forall hread
  refine ⟨items, hitems, ?_⟩
  rw [List.map_map]
  calc (items.map fun item => (DockerWorkloadDto.ofWorkload item).untimed)
      = _ := hviews
    List.Perm _ _ := (List.perm_insertionSort _ _).map _
    List.Perm _ _ := h.rows_perm host

/-! ### Inventories and answers -/

/-- Both inventories list the same workloads of every host. -/
def SameInventory (store : MemoryInventory) (table : WorkloadTable) : Prop :=
  ∀ host, ∃ items, table.list host = .ok items ∧
    ((items.map DockerWorkloadDto.ofWorkload).map (·.untimed)).Perm
      ((listInMemory store host).map (·.untimed))

/-- Both operations answer alike. -/
def SameAnswer : Except ApiError DockerAnswer → Except ApiError DockerAnswer → Prop
  | .error error, .error error' => error = error'
  | .ok (.workloads items), .ok (.workloads items') =>
    (items'.map (·.untimed)).Perm (items.map (·.untimed))
  | .ok (.workload item), .ok (.workload item') => item'.untimed = item.untimed
  | .ok .removed, .ok .removed => True
  | _, _ => False

/-- What an operation does on both sides. -/
def SameEffect (memory : Except ApiError DockerAnswer × MemoryInventory)
    (persisted : Except ApiError DockerAnswer × WorkloadTable) : Prop :=
  SameAnswer memory.1 persisted.1 ∧ Agree memory.2 persisted.2

section Operations

variable {store : MemoryInventory} {table : WorkloadTable} {now now' : Timestamp}

theorem Agree.discover (h : Agree store table) (host : ContainerId)
    (containers : List DockerContainerInfo) :
    SameEffect (applyMemory store now (.discover host containers))
      (applyPersisted table now' (.discover host containers)) := by
  obtain ⟨upserted, hupsert, hagree⟩ := h.upsertAll host containers now now'
  have hfinal := hagree.markMissing host (containers.map (·.id))
  obtain ⟨items, hitems, hperm⟩ := hfinal.list host
  have hpersisted : persistDockerInventory table host containers now' =
      (.ok (items.map .ofWorkload),
        upserted.markMissingExcept host (containers.map (·.id))) := by
    rw [persistDockerInventory, hupsert]
    dsimp only
    rw [hitems]
  rw [applyPersisted, hpersisted]
  exact ⟨hperm, hfinal⟩

/-- An adopted workload, as the database lists it. -/
theorem Agree.find (h : Agree store table) {host : ContainerId} {dockerId : String}
    {item : DockerWorkloadDto} (hitem : store.get (host, dockerId) = some item) :
    ∃ items found, table.list host = .ok items ∧
      (items.find? fun item => item.container.id = dockerId) = some found ∧
      (DockerWorkloadDto.ofWorkload found).untimed = item.untimed := by
  obtain ⟨items, hitems, hperm⟩ := h.list host
  obtain ⟨hhost, hid⟩ := Prod.ext_iff.mp (h.keyed _ item hitem)
  dsimp only at hhost hid
  -- the workload is listed in memory, so the database lists it too
  have hlisted : item.untimed ∈ (items.map DockerWorkloadDto.ofWorkload).map (·.untimed) := by
    rw [hperm.mem_iff]
    refine List.mem_map_of_mem (List.mem_filter.mpr ⟨Table.mem_values.mpr ⟨_, hitem⟩, ?_⟩)
    exact decide_eq_true hhost
  obtain ⟨dto, hdto, hsame⟩ := List.mem_map.mp hlisted
  obtain ⟨workload, hworkload, rfl⟩ := List.mem_map.mp hdto
  have hworkloadId : workload.container.id = dockerId :=
    (congrArg (fun dto : DockerWorkloadDto => dto.container.id) hsame).trans hid
  cases hfind : items.find? fun item => item.container.id = dockerId with
  | none =>
    have hmiss := List.find?_eq_none.mp hfind workload hworkload
    exact absurd (decide_eq_true hworkloadId) hmiss
  | some found =>
    refine ⟨items, found, hitems, hfind, ?_⟩
    -- what is found has the same key, and in memory a key has one workload
    have hfoundId : found.container.id = dockerId := by simpa using List.find?_some hfind
    have hfound : (DockerWorkloadDto.ofWorkload found).untimed ∈
        (listInMemory store host).map (·.untimed) :=
      hperm.mem_iff.mp
        (List.mem_map_of_mem (List.mem_map_of_mem (List.mem_of_find?_eq_some hfind)))
    obtain ⟨other, hother, hsameOther⟩ := List.mem_map.mp hfound
    obtain ⟨hmem, hotherHost⟩ := List.mem_filter.mp hother
    obtain ⟨key, hkey⟩ := Table.mem_values.mp hmem
    have hotherId : other.container.id = dockerId :=
      (congrArg (fun dto : DockerWorkloadDto => dto.container.id) hsameOther).trans hfoundId
    have hkeyEq : key = (host, dockerId) := by
      rw [← h.keyed key other hkey, of_decide_eq_true hotherHost, hotherId]
    rw [hkeyEq, hitem] at hkey
    cases hkey
    exact hsameOther.symm

theorem Agree.adopt (h : Agree store table) (containerId dockerId : String) :
    SameEffect (applyMemory store now (.adopt containerId dockerId))
      (applyPersisted table now' (.adopt containerId dockerId)) := by
  simp only [applyMemory, applyPersisted, adoptInMemory, adoptPersisted]
  cases hparse : parseContainerId containerId with
  | error error => exact ⟨rfl, h⟩
  | ok host =>
    dsimp only
    cases hitem : store.get (host, dockerId) with
    | none =>
      rw [WorkloadTable.adopt, h.absent host dockerId hitem]
      exact ⟨rfl, h⟩
    | some item =>
      obtain ⟨row, hrow, hreads⟩ := h.present host dockerId item hitem
      have hmanaged : ReadsAs { row with managementState := "managed" }
          { item with managementState := "managed" } := by
        refine ⟨⟨hreads.readable.presence, hreads.readable.change, ⟨.managed, rfl⟩⟩, ?_⟩
        exact congrArg (fun view : DockerWorkloadDto => { view with managementState := "managed" })
          hreads.same
      have hagree := h.put hmanaged
      rw [h.keyed _ item hitem] at hagree
      -- the database answers with what it lists afterwards
      obtain ⟨items, found, hitems, hfind, hsame⟩ := hagree.find (Table.get_put_self _ _ _)
      rw [WorkloadTable.adopt, hrow]
      dsimp only
      rw [hitems]
      dsimp only
      rw [hfind]
      exact ⟨hsame, hagree⟩

theorem Agree.remove (h : Agree store table) (containerId dockerId : String) (confirmed : Bool) :
    SameEffect (applyMemory store now (.remove containerId dockerId confirmed))
      (applyPersisted table now' (.remove containerId dockerId confirmed)) := by
  simp only [applyMemory, applyPersisted, removeInMemory, removePersisted]
  cases confirmed with
  | false => exact ⟨rfl, h⟩
  | true =>
    cases hparse : parseContainerId containerId with
    | error error => exact ⟨rfl, h⟩
    | ok host =>
      simp only [Bool.not_true, Bool.false_eq_true, if_false]
      cases hitem : store.get (host, dockerId) with
      | none =>
        rw [WorkloadTable.remove, h.absent host dockerId hitem]
        exact ⟨rfl, h⟩
      | some item =>
        obtain ⟨row, hrow, -⟩ := h.present host dockerId item hitem
        rw [WorkloadTable.remove, hrow]
        refine ⟨trivial, ?_, ?_, ?_⟩
        · intro key other hother
          rw [Table.get_remove] at hother
          split at hother
          · cases hother
          · exact h.keyed key other hother
        · intro other id hnone
          rw [WorkloadTable.get, Table.get_remove]
          split
          · rfl
          case isFalse hne =>
            rw [Table.get_remove, if_neg fun heq => hne (columns_eq_iff.mpr heq)] at hnone
            exact h.absent other id hnone
        · intro other id kept hkept
          rw [Table.get_remove] at hkept
          split at hkept
          · cases hkept
          case isFalse hne =>
            obtain ⟨keptRow, hkeptRow, hkeptReads⟩ := h.present other id kept hkept
            refine ⟨keptRow, ?_, hkeptReads⟩
            rw [WorkloadTable.get, Table.get_remove,
              if_neg fun heq => hne (columns_eq_iff.mp heq)]
            exact hkeptRow

/-- What one operation keeps. -/
theorem Agree.apply (h : Agree store table) (op : DockerOp) (now now' : Timestamp) :
    SameEffect (applyMemory store now op) (applyPersisted table now' op) := by
  cases op with
  | discover host containers => exact h.discover host containers
  | adopt containerId dockerId => exact h.adopt containerId dockerId
  | remove containerId dockerId confirmed => exact h.remove containerId dockerId confirmed

end Operations

/-! ### Runs -/

/-- The answers of a sequence of operations, each at its time, and the inventory after it. -/
def runMemory (store : MemoryInventory) :
    List (DockerOp × Timestamp) → List (Except ApiError DockerAnswer) × MemoryInventory
  | [] => ([], store)
  | (op, now) :: ops =>
    let (answer, store) := applyMemory store now op
    let (answers, store) := runMemory store ops
    (answer :: answers, store)

/-- The answers of a sequence of operations, and the table after it. -/
def runPersisted (table : WorkloadTable) :
    List (DockerOp × Timestamp) → List (Except ApiError DockerAnswer) × WorkloadTable
  | [] => ([], table)
  | (op, now) :: ops =>
    let (answer, table) := applyPersisted table now op
    let (answers, table) := runPersisted table ops
    (answer :: answers, table)

/-- What a sequence of operations keeps. -/
theorem Agree.run {store : MemoryInventory} {table : WorkloadTable} (h : Agree store table)
    (ops : List (DockerOp × Timestamp × Timestamp)) :
    List.Forall₂ SameAnswer (runMemory store (ops.map fun op => (op.1, op.2.1))).1
        (runPersisted table (ops.map fun op => (op.1, op.2.2))).1 ∧
      Agree (runMemory store (ops.map fun op => (op.1, op.2.1))).2
        (runPersisted table (ops.map fun op => (op.1, op.2.2))).2 := by
  induction ops generalizing store table with
  | nil => exact ⟨.nil, h⟩
  | cons op ops ih =>
    obtain ⟨hanswer, hagree⟩ := h.apply op.1 op.2.1 op.2.2
    obtain ⟨hanswers, hfinal⟩ := ih hagree
    exact ⟨.cons hanswer hanswers, hfinal⟩

/-- Starting empty, the two inventories answer every operation alike and list the same workloads
of every host afterwards. -/
theorem inventories_agree (ops : List (DockerOp × Timestamp × Timestamp)) :
    List.Forall₂ SameAnswer (runMemory ∅ (ops.map fun op => (op.1, op.2.1))).1
        (runPersisted .empty (ops.map fun op => (op.1, op.2.2))).1 ∧
      SameInventory (runMemory ∅ (ops.map fun op => (op.1, op.2.1))).2
        (runPersisted .empty (ops.map fun op => (op.1, op.2.2))).2 := by
  obtain ⟨hanswers, hagree⟩ := agree_empty.run ops
  exact ⟨hanswers, hagree.list⟩

/-- A container that disappears and returns stays managed on both sides. -/
example :
    let ops : List (DockerOp × Timestamp) := [
      (.discover ⟨1⟩ [⟨"a", "web", "nginx", "running", "Up", [], none, []⟩], 1),
      (.adopt "1" "a", 2), (.discover ⟨1⟩ [], 3),
      (.discover ⟨1⟩ [⟨"a", "web", "nginx", "running", "Up", [], none, []⟩], 4)]
    (listInMemory (runMemory ∅ ops).2 ⟨1⟩).map (fun item => (item.changeState, item.managementState))
      = [("changed", "managed")] := by
  decide +kernel

end Lxcup.Agreement
