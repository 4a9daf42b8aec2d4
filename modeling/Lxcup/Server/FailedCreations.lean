import Lxcup.Core.Scan
import Lxcup.Server.Executions
import Lxcup.Server.Upkeep

/-!
# Creations whose write fails

Schedules, update policies, plans and scans are created by four handlers of one shape: the request
is checked, the new object is put into the store in memory, and then it is written to the database.
When the write fails, the request is answered with a storage error and the object stays in the
store.

## Main definitions

* `ScanApi`, `startScan` — the handler that creates scans.
* `NoTrace` — a call that answers with a storage error leaves the store as it was.
* `checkSchedule` and the conditions of the four writes.

## Main results

* `createSchedule_failed`, `createUpdatePolicy_failed`, `createPlan_failed`, `startScan_failed` —
  what a failing write leaves behind.
* `checkSchedule_repeated` — the same schedule cannot be created again.
* `noTrace_iff` — no trace is left if and only if the write does not fail.
* `failed_schedule_stays` — an hourly check that was reported as failed is in the store.
-/

namespace Lxcup.Server

open Lxcup.Lib Lxcup.Core Lxcup.Ansible Lxcup.Persistence Lxcup.Execution

/-! ### Starting a scan -/

/-- The tables that scans are written to. -/
structure ScanTables where
  containers : List ContainerId
  scans : List Scan

/-- `ScanRepository::save`; `none` when a key is violated.  A new scan has no updates. -/
def ScanTables.saveScan (tables : ScanTables) (scan : Scan) : Option ScanTables :=
  if scan.containerId ∈ tables.containers ∧ scan.id ∉ tables.scans.map (·.id) then
    some { tables with scans := tables.scans ++ [scan] }
  else none

/-- What the handlers of scans work on; `repositories` is there in persistent mode. -/
structure ScanApi where
  containers : List ContainerId
  scans : List Scan
  repositories : Option ScanTables

/-- `start_scan`: the scan is put into the store first, then saved. -/
def startScan (api : ScanApi) (containerId : String) (newId : ScanId) (now : Timestamp)
    (dbFails : Bool) : Except ApiError Scan × ScanApi :=
  match parseContainerId containerId with
  | .error error => (.error error, api)
  | .ok containerId =>
    if containerId ∉ api.containers then (.error (.notFound "container not found"), api)
    else
      let scan := Scan.new containerId newId now
      let api := { api with scans := api.scans ++ [scan] }
      match api.repositories with
      | none => (.ok scan, api)
      | some tables =>
        match if dbFails then none else tables.saveScan scan with
        | none => (.error .storage, api)
        | some tables => (.ok scan, { api with repositories := some tables })

/-! ### What a failing write leaves behind -/

variable {H P D : Type}

/-- A call that answers with a storage error leaves what `view` shows as it was. -/
def NoTrace {σ τ α : Type} (view : σ → τ) (before : σ) (call : Except ApiError α × σ) : Prop :=
  call.1 = .error .storage → view call.2 = view before

/-- The checks of `create_schedule`. -/
def checkSchedule (state : ApiState H P D) (actorRole : ActorRole)
    (request : CreateScheduleRequest) (readBackupPassphrase : SecretId → Except ApiError Unit) :
    Except ApiError Unit := do
  requirePermission actorRole .configure
  if request.operation = "create_backup" ∧ actorRole ≠ .admin then
    throw (.forbidden "admin_required" "administrator access is required to schedule backups")
  validateScheduleFields request
  if request.operation = "create_backup" then
    match request.backupSecretRef with
    | none => throw (.badRequest "backup_secret_required" "select a backup-passphrase secret")
    | some secretRef => readBackupPassphrase secretRef
  validateScheduleResources request state.store

/-- The schedule passes the checks, and its row cannot be written. -/
def ScheduleWriteFails (state : ApiState H P D) (actorRole : ActorRole)
    (request : CreateScheduleRequest) (readBackupPassphrase : SecretId → Except ApiError Unit)
    (dbFails : Bool) : Prop :=
  checkSchedule state actorRole request readBackupPassphrase = .ok () ∧
    state.repositories.isSome = true ∧ dbFails = true

/-- The policy passes the checks, and its row cannot be written. -/
def PolicyWriteFails (state : ApiState H P D) (actorRole : ActorRole)
    (request : CreateUpdatePolicyRequest) (dbFails : Bool) : Prop :=
  checkUpdatePolicy state.store actorRole request = .ok () ∧
    state.repositories.isSome = true ∧ dbFails = true

/-- The plan can be built, and its rows cannot be written. -/
def PlanWriteFails (digest : CanonicalPlan → String) (api : ExecutionApi) (containerId : String)
    (request : CreatePlanRequest) (newId : UpdatePlanId) (now : Timestamp) (dbFails : Bool) :
    Prop :=
  ∃ id plan, parseContainerId containerId = .ok id ∧
    UpdatePlanner.build digest ⟨id, request.requestedPackages, request.dryRunChanges,
      request.distributionUpgrade⟩ newId now = .ok plan ∧
    ∃ tables, api.repositories = some tables ∧ (dbFails = true ∨ tables.savePlan plan = none)

/-- The container is there, and the row of the scan cannot be written. -/
def ScanWriteFails (api : ScanApi) (containerId : String) (newId : ScanId) (now : Timestamp)
    (dbFails : Bool) : Prop :=
  ∃ id, parseContainerId containerId = .ok id ∧ id ∈ api.containers ∧
    ∃ tables, api.repositories = some tables ∧
      (dbFails = true ∨ tables.saveScan (.new id newId now) = none)

section Schedules

variable {state : ApiState H P D} {actorRole : ActorRole} {request : CreateScheduleRequest}
  {readBackupPassphrase : SecretId → Except ApiError Unit} {now : Timestamp} {dbFails : Bool}

/-- The server with one more schedule in its store. -/
def withSchedule (state : ApiState H P D) (schedule : JobSchedule) : ApiState H P D :=
  { state with store := { state.store with schedules := state.store.schedules ++ [schedule] } }

/-- A request that is refused changes nothing. -/
theorem createSchedule_refused {error : ApiError}
    (h : checkSchedule state actorRole request readBackupPassphrase = .error error) :
    createSchedule state actorRole request readBackupPassphrase now dbFails
      = (.error error, state) := by
  unfold createSchedule
  dsimp only
  split
  · rename_i other hother
    have hsame : checkSchedule state actorRole request readBackupPassphrase = .error other := hother
    rw [h] at hsame
    cases hsame
    rfl
  · rename_i hok
    have hsame : checkSchedule state actorRole request readBackupPassphrase = .ok () := hok
    rw [h] at hsame
    cases hsame

/-- A request that passes the checks is stored, and then written. -/
theorem createSchedule_accepted
    (h : checkSchedule state actorRole request readBackupPassphrase = .ok ()) :
    createSchedule state actorRole request readBackupPassphrase now dbFails =
      match state.repositories with
      | none => (.ok (scheduleOf request now), withSchedule state (scheduleOf request now))
      | some db =>
        if dbFails then (.error .storage, withSchedule state (scheduleOf request now))
        else
          (.ok (scheduleOf request now), { withSchedule state (scheduleOf request now) with
            repositories := some (saveSchedule db (scheduleOf request now) now) }) := by
  unfold createSchedule
  dsimp only
  split
  · rename_i error herror
    have hsame : checkSchedule state actorRole request readBackupPassphrase = .error error := herror
    rw [h] at hsame
    cases hsame
  · rfl

/-- The schedule stays in the store. -/
theorem createSchedule_failed
    (h : ScheduleWriteFails state actorRole request readBackupPassphrase dbFails) :
    createSchedule state actorRole request readBackupPassphrase now dbFails
      = (.error .storage, withSchedule state (scheduleOf request now)) := by
  obtain ⟨hchecked, hdb, rfl⟩ := h
  obtain ⟨db, hdb⟩ := Option.isSome_iff_exists.mp hdb
  rw [createSchedule_accepted hchecked, hdb]
  rfl

/-- The schedule that stays blocks its id: the same request is refused from now on. -/
theorem checkSchedule_repeated
    (h : ScheduleWriteFails state actorRole request readBackupPassphrase dbFails) :
    checkSchedule (withSchedule state (scheduleOf request now)) actorRole request
        readBackupPassphrase
      = .error (.conflict "schedule_exists" "schedule id already exists") := by
  have hexists : validateScheduleResources request
      (withSchedule state (scheduleOf request now)).store = .error (.conflict "schedule_exists" "schedule id already exists") := by
    rw [validateScheduleResources, if_pos]
    simp [withSchedule, scheduleOf]
  have hchecked := h.1
  simp only [checkSchedule, bind, Except.bind, throw, throwThe, MonadExceptOf.throw]
    at hchecked ⊢
  rw [hexists]
  -- the checks before the last one do not look at the store
  split at hchecked
  · cases hchecked
  split at hchecked
  · cases hchecked
  rename_i hadmin
  rw [if_neg hadmin]
  split at hchecked
  · cases hchecked
  split at hchecked
  · rename_i hbackup
    rw [if_pos hbackup]
    split at hchecked
    · cases hchecked
    · split at hchecked
      · cases hchecked
      · rfl
  · rename_i hbackup
    rw [if_neg hbackup]

/-- Without a failing write there is a storage error only when the passphrase cannot be read, and
nothing has changed then. -/
theorem createSchedule_noTrace
    (h : ¬ ScheduleWriteFails state actorRole request readBackupPassphrase dbFails) :
    NoTrace (·.store) state
      (createSchedule state actorRole request readBackupPassphrase now dbFails) := by
  intro herror
  cases hchecked : checkSchedule state actorRole request readBackupPassphrase with
  | error error => rw [createSchedule_refused hchecked]
  | ok _ =>
    -- stored and written: the answer is no error
    rw [createSchedule_accepted hchecked] at herror
    cases hdb : state.repositories with
    | none => simp [hdb] at herror
    | some db =>
      have hdbFails : dbFails = false := by
        by_contra hfails
        exact h ⟨hchecked, by simp [hdb], by simpa using hfails⟩
      simp [hdb, hdbFails] at herror

end Schedules

section Policies

variable {state : ApiState H P D} {actorRole : ActorRole} {request : CreateUpdatePolicyRequest}
  {now : Timestamp} {dbFails : Bool}

/-- The policy stays in the store. -/
theorem createUpdatePolicy_failed (h : PolicyWriteFails state actorRole request dbFails) :
    createUpdatePolicy state actorRole request now dbFails
      = (.error .storage, { state with
          store := { state.store with
            updatePolicies := state.store.updatePolicies ++ [request.policy] } }) := by
  obtain ⟨hchecked, hdb, rfl⟩ := h
  obtain ⟨db, hdb⟩ := Option.isSome_iff_exists.mp hdb
  rw [createUpdatePolicy, hchecked, hdb]
  rfl

theorem createUpdatePolicy_noTrace (h : ¬ PolicyWriteFails state actorRole request dbFails) :
    NoTrace (·.store) state (createUpdatePolicy state actorRole request now dbFails) := by
  intro herror
  unfold createUpdatePolicy at herror ⊢
  cases hchecked : checkUpdatePolicy state.store actorRole request with
  | error error => rfl
  | ok _ =>
    rw [hchecked] at herror
    cases hdb : state.repositories with
    | none => simp [hdb] at herror
    | some db =>
      have hdbFails : dbFails = false := by
        by_contra hfails
        exact h ⟨hchecked, by simp [hdb], by simpa using hfails⟩
      simp [hdb, hdbFails] at herror

end Policies

/-- The statement fails, or the table refuses the row. -/
private theorem write_eq_none {α : Type} {dbFails : Bool} {written : Option α}
    (h : dbFails = true ∨ written = none) : (if dbFails then none else written) = none := by
  rcases h with rfl | rfl
  · rfl
  · exact ite_self none

section Plans

variable {digest : CanonicalPlan → String} {api : ExecutionApi} {containerId : String}
  {request : CreatePlanRequest} {newId : UpdatePlanId} {now : Timestamp} {dbFails : Bool}

/-- The plan stays in the store. -/
theorem createPlan_failed
    (h : PlanWriteFails digest api containerId request newId now dbFails) :
    ∃ plan, createPlan digest api containerId request newId now dbFails
      = (.error .storage, { api with
          store := { api.store with plans := api.store.plans ++ [plan] } }) := by
  obtain ⟨id, plan, hid, hplan, tables, htables, hfails⟩ := h
  refine ⟨plan, ?_⟩
  rw [createPlan, hid]
  dsimp only
  rw [hplan]
  dsimp only
  rw [writeTables, htables]
  dsimp only
  rw [write_eq_none hfails]

theorem createPlan_noTrace
    (h : ¬ PlanWriteFails digest api containerId request newId now dbFails) :
    NoTrace (·.store) api (createPlan digest api containerId request newId now dbFails) := by
  intro herror
  unfold createPlan at herror ⊢
  cases hid : parseContainerId containerId with
  | error error => rfl
  | ok id =>
    rw [hid] at herror
    dsimp only at herror ⊢
    cases hplan : UpdatePlanner.build digest ⟨id, request.requestedPackages,
        request.dryRunChanges, request.distributionUpgrade⟩ newId now with
    | error error => rfl
    | ok plan =>
      rw [hplan] at herror
      dsimp only [writeTables] at herror
      cases hdb : api.repositories with
      | none => simp [hdb] at herror
      | some tables =>
        have hdbFails : dbFails = false := by
          by_contra hfails
          exact h ⟨id, plan, hid, hplan, tables, hdb, .inl (by simpa using hfails)⟩
        cases hsave : tables.savePlan plan with
        | none => exact absurd ⟨id, plan, hid, hplan, tables, hdb, .inr hsave⟩ h
        | some tables' => simp [hdb, hdbFails, hsave] at herror

end Plans

section Scans

variable {api : ScanApi} {containerId : String} {newId : ScanId} {now : Timestamp} {dbFails : Bool}

/-- The scan stays in the store. -/
theorem startScan_failed (h : ScanWriteFails api containerId newId now dbFails) :
    ∃ scan, startScan api containerId newId now dbFails
      = (.error .storage, { api with scans := api.scans ++ [scan] }) := by
  obtain ⟨id, hid, hcontainer, tables, htables, hfails⟩ := h
  refine ⟨.new id newId now, ?_⟩
  rw [startScan, hid]
  dsimp only
  rw [if_neg (not_not.mpr hcontainer), htables]
  dsimp only
  rw [write_eq_none hfails]

theorem startScan_noTrace (h : ¬ ScanWriteFails api containerId newId now dbFails) :
    NoTrace (·.scans) api (startScan api containerId newId now dbFails) := by
  intro herror
  unfold startScan at herror ⊢
  cases hid : parseContainerId containerId with
  | error error => rfl
  | ok id =>
    rw [hid] at herror
    dsimp only at herror ⊢
    by_cases hcontainer : id ∈ api.containers
    · rw [if_neg (not_not.mpr hcontainer)] at herror
      cases hdb : api.repositories with
      | none => simp [hdb] at herror
      | some tables =>
        have hdbFails : dbFails = false := by
          by_contra hfails
          exact h ⟨id, hid, hcontainer, tables, hdb, .inl (by simpa using hfails)⟩
        cases hsave : tables.saveScan (.new id newId now) with
        | none => exact absurd ⟨id, hid, hcontainer, tables, hdb, .inr hsave⟩ h
        | some tables' => simp [hdb, hdbFails, hsave] at herror
    · rw [if_pos hcontainer]

end Scans

/-- A list with one more entry is another list. -/
private theorem append_single_ne {α : Type} (as : List α) (a : α) : as ++ [a] ≠ as := by
  intro h
  have hlength := congrArg List.length h
  simp at hlength

/-- **When a failed creation leaves no trace.**  For each of the four handlers, over any state and
any request: a storage error means that the store is as it was before, if and only if the write of
the new object does not fail. -/
theorem noTrace_iff (state : ApiState H P D) (actorRole : ActorRole)
    (schedule : CreateScheduleRequest) (readBackupPassphrase : SecretId → Except ApiError Unit)
    (policy : CreateUpdatePolicyRequest) (digest : CanonicalPlan → String) (api : ExecutionApi)
    (planContainer : String) (plan : CreatePlanRequest) (planId : UpdatePlanId) (scans : ScanApi)
    (scanContainer : String) (scanId : ScanId) (now : Timestamp) (dbFails : Bool) :
    (NoTrace (·.store) state
        (createSchedule state actorRole schedule readBackupPassphrase now dbFails) ↔
      ¬ ScheduleWriteFails state actorRole schedule readBackupPassphrase dbFails) ∧
    (NoTrace (·.store) state (createUpdatePolicy state actorRole policy now dbFails) ↔
      ¬ PolicyWriteFails state actorRole policy dbFails) ∧
    (NoTrace (·.store) api (createPlan digest api planContainer plan planId now dbFails) ↔
      ¬ PlanWriteFails digest api planContainer plan planId now dbFails) ∧
    (NoTrace (·.scans) scans (startScan scans scanContainer scanId now dbFails) ↔
      ¬ ScanWriteFails scans scanContainer scanId now dbFails) := by
  refine ⟨⟨fun htrace hfails => ?_, createSchedule_noTrace⟩,
    ⟨fun htrace hfails => ?_, createUpdatePolicy_noTrace⟩,
    ⟨fun htrace hfails => ?_, createPlan_noTrace⟩, ⟨fun htrace hfails => ?_, startScan_noTrace⟩⟩
  · rw [createSchedule_failed hfails] at htrace
    exact append_single_ne _ _ (congrArg ApiStore.schedules (htrace rfl))
  · rw [createUpdatePolicy_failed hfails] at htrace
    exact append_single_ne _ _ (congrArg ApiStore.updatePolicies (htrace rfl))
  · obtain ⟨built, hbuilt⟩ := createPlan_failed hfails
    rw [hbuilt] at htrace
    exact append_single_ne _ _ (congrArg ExecutionStore.plans (htrace rfl))
  · obtain ⟨scan, hscan⟩ := startScan_failed hfails
    rw [hscan] at htrace
    exact append_single_ne _ _ (htrace rfl)

/-! ### An hourly health check -/

theorem failed_schedule_stays :
    ¬ ∀ (state : ApiState Unit Unit Unit) (actorRole : ActorRole) (request : CreateScheduleRequest)
      (readBackupPassphrase : SecretId → Except ApiError Unit) (now : Timestamp) (dbFails : Bool),
      NoTrace (·.store) state
        (createSchedule state actorRole request readBackupPassphrase now dbFails) := by
  intro hall
  have htrace := hall (serverWithTarget ⟨⟨7⟩⟩) .admin (healthCheckSchedule ⟨⟨7⟩⟩) (fun _ => .ok ())
    0 true
  let call := createSchedule (serverWithTarget ⟨⟨7⟩⟩) .admin (healthCheckSchedule ⟨⟨7⟩⟩)
    (fun _ => .ok ()) 0 true
  have hanswer : call.1 = .error .storage := by decide +kernel
  have hstored : call.2.store.schedules.length = 1 := by decide +kernel
  have hsame : call.2.store = (serverWithTarget ⟨⟨7⟩⟩).store := htrace hanswer
  rw [hsame] at hstored
  exact absurd hstored (by decide)

end Lxcup.Server
