import Lxcup.Agent.Client
import Lxcup.Secrets.Store
import Lxcup.Server.Executions
import Lxcup.Server.Upkeep

/-!
# What the server does with credentials

The secrets of the store are used in several places: the clients of agents are built from them, and
targets, schedules and the registrations of agents refer to them.  When a secret is rotated,
revoked or deleted, all of these are looked through.

Every request is one step here.  What a request takes from outside is an argument: the clock, fresh
ids, the answers of agents and the failures of the database.

## Main definitions

* `RegisteredAgent`, `AgentApi` — the clients, and the state behind the requests.
* `registerAgent`, `revokeAgent`, `getAgentHealth`, `restoreRegisteredAgents`.
* `invalidateAgentsForSecret` — what depends on a secret is taken back.
* `rotateSecret`, `revokeSecret`, `deleteSecret`.

## Main results

* `registerAgent_agents`, `restoreRegisteredAgents_get`, `invalidateAgentsForSecret_get` — the
  clients after each of these.
* `changeSecret_ok` — what a change of a secret does once the store has accepted it.
-/

namespace Lxcup.Credentials

open Lxcup.Lib Lxcup.Core Lxcup.Agent Lxcup.Secrets Lxcup.Persistence
open Lxcup.Server (ApiState ApiStore ApiError requirePermission parseUuid parseContainerId
  disableSchedulesForTargets)

variable {H P D : Type}

/-- The client of an agent, and for the statements about it the secrets it was built from. -/
structure RegisteredAgent where
  config : AgentClientConfig
  tokenFrom : Option SecretId
  caFrom : Option SecretId
  deriving DecidableEq, Repr

/-- The token or the certificate of the client was the value of this secret. -/
def RegisteredAgent.builtFrom (agent : RegisteredAgent) (secretId : SecretId) : Bool :=
  agent.tokenFrom = some secretId || agent.caFrom = some secretId

/-- An entry of the log of changes. -/
structure SecretAuditEvent where
  secretId : SecretId
  action : String
  role : ActorRole
  occurredAt : Timestamp
  deriving DecidableEq, Repr

/-- The state behind the requests. -/
structure AgentApi (H P D : Type) where
  /-- Targets and schedules, and their tables in persistent mode. -/
  server : ApiState H P D
  containers : List ContainerId
  secrets : InMemorySecretStore
  secretAudit : List SecretAuditEvent
  agents : Table ContainerId RegisteredAgent
  /-- The rows of `agent_registrations`, in persistent mode. -/
  registrations : Table ContainerId AgentRegistration

/-- There is a database. -/
def AgentApi.persistent (api : AgentApi H P D) : Bool := api.server.repositories.isSome

/-! ### Agents -/

/-- `map_secret_error`. -/
def mapSecretError : SecretStoreError → ApiError
  | .missing => .dependency "agent_secret_missing" "the configured agent secret is missing"
  | .denied => .forbidden "agent_secret_denied" "the configured agent secret is not usable"
  | .invalid => .badRequest "agent_secret_invalid" "the configured agent secret is invalid"
  | .unavailable => .dependency "secret_store_unavailable" "the secret store is unavailable"

/-- A request to register an agent.  The token is accepted for development only. -/
structure RegisterAgentRequest where
  endpoint : String
  secretRef : Option SecretId
  caSecretRef : Option SecretId
  token : Option String

/-- The answer of an agent to a health check. -/
structure AgentHealth where
  agentId : String
  healthy : Bool
  deriving DecidableEq, Repr

/-- What a registration takes from outside. -/
structure RegistrationMoment where
  /-- `LXCUP_ALLOW_LEGACY_AGENT_TOKEN` is `true`. -/
  legacyTokens : Bool
  /-- The client can be built: its certificate is one. -/
  builds : Bool
  health : Option AgentHealth
  newId : AgentRegistrationId
  now : Timestamp
  saveFails : Bool

/-- The value of a secret, for a client. -/
def readSecret (secrets : InMemorySecretStore) (id : SecretId) : Except ApiError SecretValue :=
  (secrets.read id).mapError mapSecretError

/-- The token that an agent is registered with. -/
def registrationToken (secrets : InMemorySecretStore) (request : RegisterAgentRequest)
    (legacyTokens : Bool) : Except ApiError String :=
  match request.secretRef with
  | some secretRef => (readSecret secrets secretRef).map (·.value)
  | none =>
    match if legacyTokens then request.token else none with
    | some token => .ok token
    | none => .error (.badRequest "agent_secret_required"
        "agent registration requires a secret reference")

/-- The configuration with the certificate that a secret holds. -/
def withCaSecret (secrets : InMemorySecretStore) (config : AgentClientConfig) :
    Option SecretId → Except ApiError AgentClientConfig
  | none => .ok config
  | some caSecretRef =>
    (readSecret secrets caSecretRef).map fun ca => config.withRootCertificatePem ca.value

/-- `register_agent`, up to the agent that is put into the map. -/
def connectAgent (api : AgentApi H P D) (actorRole : ActorRole) (containerId : String)
    (request : RegisterAgentRequest) (moment : RegistrationMoment) :
    Except ApiError (ContainerId × RegisteredAgent × AgentHealth) := do
  requirePermission actorRole .configure
  let containerId ← parseContainerId containerId
  if !api.containers.contains containerId then
    throw (.notFound "container not found")
  let token ← registrationToken api.secrets request moment.legacyTokens
  let config ← (AgentClientConfig.new request.endpoint token).mapError fun _ =>
    .badRequest "invalid_agent_config" "agent endpoint or token is invalid"
  let config ← withCaSecret api.secrets config request.caSecretRef
  if !moment.builds then
    throw (.dependency "agent_client_error" "the agent client could not be created")
  match moment.health with
  | none => throw (.dependency "agent_unavailable" "the agent healthcheck failed")
  | some health => return (containerId, ⟨config, request.secretRef, request.caSecretRef⟩, health)

/-- What `register_agent` does once the agent is in the map: an agent with a secret is registered
for the next start as well. -/
def recordRegistration (api : AgentApi H P D) (containerId : ContainerId) (health : AgentHealth)
    (request : RegisterAgentRequest) (moment : RegistrationMoment) :
    Except ApiError AgentHealth × AgentApi H P D :=
  match request.secretRef with
  | none => (.ok health, api)
  | some secretRef =>
    match AgentRegistration.new containerId health.agentId request.endpoint secretRef
        request.caSecretRef moment.newId moment.now with
    | none =>
      (.error (.badRequest "invalid_agent_registration" "agent registration is invalid"), api)
    | some registration =>
      if !api.persistent then (.ok health, api)
      else if moment.saveFails then
        (.error (.dependency "persistence_unavailable"
          "agent registration could not be persisted"), api)
      else
        (.ok health, { api with
          registrations := api.registrations.put containerId registration })

/-- `register_agent`. -/
def registerAgent (api : AgentApi H P D) (actorRole : ActorRole) (containerId : String)
    (request : RegisterAgentRequest) (moment : RegistrationMoment) :
    Except ApiError AgentHealth × AgentApi H P D :=
  match connectAgent api actorRole containerId request moment with
  | .error error => (.error error, api)
  | .ok (containerId, agent, health) =>
    recordRegistration { api with agents := api.agents.put containerId agent } containerId health
      request moment

/-- The checks of `revoke_agent`. -/
def checkRevocation (api : AgentApi H P D) (actorRole : ActorRole) (containerId : String)
    (confirmed : Bool) : Except ApiError ContainerId := do
  requirePermission actorRole .destructive
  if !confirmed then
    throw (.badRequest "confirmation_required" "revoking an agent requires explicit confirmation")
  let containerId ← parseContainerId containerId
  if (api.agents.get containerId).isNone then
    throw (.notFound "agent not registered")
  return containerId

/-- `revoke_agent`. -/
def revokeAgent (api : AgentApi H P D) (actorRole : ActorRole) (containerId : String)
    (confirmed : Bool) : Except ApiError ContainerId × AgentApi H P D :=
  match checkRevocation api actorRole containerId confirmed with
  | .error error => (.error error, api)
  | .ok containerId =>
    (.ok containerId, { api with agents := api.agents.remove containerId })

/-- The row of a container is changed and saved. -/
def updateRegistration (api : AgentApi H P D) (containerId : ContainerId)
    (change : AgentRegistration → AgentRegistration) (saveFails : Bool) : AgentApi H P D :=
  match api.registrations.get containerId with
  | none => api
  | some registration =>
    if !api.persistent || saveFails then api
    else { api with registrations := api.registrations.put containerId (change registration) }

/-- `get_agent_health`; `health` is the answer of the agent, if there is one. -/
def getAgentHealth (api : AgentApi H P D) (containerId : String) (health : Option AgentHealth)
    (now : Timestamp) (saveFails : Bool) : Except ApiError AgentHealth × AgentApi H P D :=
  match parseContainerId containerId with
  | .error error => (.error error, api)
  | .ok containerId =>
    if (api.agents.get containerId).isNone then (.error (.notFound "agent not registered"), api)
    else
      match health with
      | none =>
        (.error (.dependency "agent_unavailable" "the agent healthcheck failed"),
          updateRegistration api containerId
            (·.recordUnreachable now "agent healthcheck failed") saveFails)
      | some health =>
        (.ok health, updateRegistration api containerId
          (·.recordHealth health.healthy now none) saveFails)

/-- The agent of a registration, if its secrets can be read and a client be built from them;
`builds` says from which configurations one can. -/
def restoredAgent (secrets : InMemorySecretStore) (builds : AgentClientConfig → Bool)
    (registration : AgentRegistration) : Option RegisteredAgent := do
  let secret ← (secrets.read registration.secretRef).toOption
  let config ← (AgentClientConfig.new registration.endpoint secret.value).toOption
  let config ← (withCaSecret secrets config registration.caSecretRef).toOption
  if builds config then
    some ⟨config, some registration.secretRef, registration.caSecretRef⟩
  else none

/-- One turn of the loop of `restore_registered_agents`. -/
def restoreAgent (secrets : InMemorySecretStore) (builds : AgentClientConfig → Bool)
    (agents : Table ContainerId RegisteredAgent) (registration : AgentRegistration) :
    Table ContainerId RegisteredAgent :=
  match restoredAgent secrets builds registration with
  | none => agents
  | some agent => agents.put registration.containerId agent

/-- `restore_registered_agents`. -/
def restoreRegisteredAgents (api : AgentApi H P D) (builds : AgentClientConfig → Bool)
    (listFails : Bool) : AgentApi H P D :=
  if !api.persistent || listFails then api
  else { api with
    agents := api.registrations.values.foldl (restoreAgent api.secrets builds) api.agents }

/-! ### Invalidation -/

/-- What fails while a secret is invalidated. -/
structure InvalidationFaults where
  listFails : Bool
  saveFails : ContainerId → Bool
  targetFails : TargetId → Bool
  schedulesFail : Bool

/-- The registration names the secret. -/
def refersToSecret (registration : AgentRegistration) (secretId : SecretId) : Bool :=
  registration.secretRef = secretId || registration.caSecretRef = some secretId

/-- One turn of the loop of `invalidate_registered_agents`. -/
def invalidateRegistration (now : Timestamp) (faults : InvalidationFaults)
    (api : AgentApi H P D) (registration : AgentRegistration) : AgentApi H P D :=
  { api with
    agents := api.agents.remove registration.containerId
    registrations :=
      if faults.saveFails registration.containerId then api.registrations
      else api.registrations.put registration.containerId (registration.recordUnreachable now
        "agent credentials changed; re-register or redeploy the agent") }

/-- `invalidate_registered_agents`. -/
def invalidateRegisteredAgents (api : AgentApi H P D) (secretId : SecretId) (now : Timestamp)
    (faults : InvalidationFaults) : AgentApi H P D :=
  if !api.persistent || faults.listFails then api
  else (api.registrations.values.filter (refersToSecret · secretId)).foldl
    (invalidateRegistration now faults) api

/-- The secret is one that the target refers to. -/
def targetRefersTo (target : Target) (secretId : SecretId) : Bool :=
  target.credentialSecretRef = some secretId || target.agentSecretRef = secretId
    || target.sshKnownHostsSecretRef = some secretId

/-- The agent of the target has to be deployed anew when the secret is changed. -/
def needsReset (secretId : SecretId) (target : Target) : Bool :=
  target.agentSecretRef = secretId && target.state ≠ .disabled

/-- `reset_agent_target_if_needed`. -/
def resetAgentTarget (secretId : SecretId) (now : Timestamp) (target : Target) : Target :=
  if needsReset secretId target then { target with state := .pending, updatedAt := now }
  else target

/-- What `reset_targets_for_secret` answers: the affected targets, and those that it changes, as
they are then. -/
structure ResetTargets where
  affected : List TargetId
  changed : List Target

/-- `reset_targets_for_secret`. -/
def resetTargetsForSecret (store : ApiStore H P D) (secretId : SecretId) (now : Timestamp) :
    ResetTargets × ApiStore H P D :=
  let affected := store.targets.filter (targetRefersTo · secretId)
  (⟨affected.map (·.id), (affected.filter (needsReset secretId)).map
      (resetAgentTarget secretId now)⟩,
    { store with
      targets := store.targets.map fun target =>
        if targetRefersTo target secretId then resetAgentTarget secretId now target
        else target })

/-- `TargetRepository::update`: a row that is there. -/
def updateTargetRow (rows : Table TargetId Target) (target : Target) : Table TargetId Target :=
  if (rows.get target.id).isSome then rows.put target.id target else rows

/-- `persist_changed_targets`. -/
def persistChangedTargets (server : ApiState H P D) (targets : List Target)
    (fails : TargetId → Bool) : ApiState H P D :=
  { server with
    repositories := server.repositories.map fun db =>
      { db with
        targets := targets.foldl (fun rows target =>
          if fails target.id then rows else updateTargetRow rows target) db.targets } }

/-- `invalidate_agents_for_secret`. -/
def invalidateAgentsForSecret (api : AgentApi H P D) (secretId : SecretId) (now : Timestamp)
    (faults : InvalidationFaults) : AgentApi H P D :=
  let api := invalidateRegisteredAgents api secretId now faults
  let (reset, store) := resetTargetsForSecret api.server.store secretId now
  let server := persistChangedTargets { api.server with store := store } reset.changed
    faults.targetFails
  { api with server := disableSchedulesForTargets server reset.affected now faults.schedulesFail }

/-! ### Secrets -/

/-- What the change of a secret takes from outside. -/
structure ChangeMoment where
  moment : Moment
  faults : InvalidationFaults
  auditFails : Bool

/-- A moment at which nothing fails. -/
def quietMoment : ChangeMoment where
  moment := ⟨⟨⟨0⟩⟩, ⟨List.replicate 24 0, rfl⟩, 1⟩
  faults := ⟨false, fun _ => false, fun _ => false, false⟩
  auditFails := false

/-- The id of a secret in the path of a request. -/
def parseSecretId (value : String) : Except ApiError SecretId :=
  (parseUuid value "secret id").map SecretId.mk

/-- `record_secret_audit`. -/
def recordSecretAudit (api : AgentApi H P D) (id : SecretId) (action : String) (role : ActorRole)
    (now : Timestamp) (fails : Bool) : Except ApiError Unit × AgentApi H P D :=
  if api.persistent && fails then (.error .storage, api)
  else (.ok (), { api with secretAudit := api.secretAudit ++ [⟨id, action, role, now⟩] })

/-- The checks before a secret is changed. -/
def checkSecretChange (actorRole : ActorRole) (permission : Permission) (message : String)
    (confirmed : Bool) (secretId : String) : Except ApiError SecretId := do
  requirePermission actorRole permission
  if !confirmed then
    throw (.badRequest "confirmation_required" message)
  parseSecretId secretId

/-- The store changes a secret; when it accepts the change, all that depends on the secret is
invalidated, and the change is logged. -/
def changeSecret (api : AgentApi H P D) (actorRole : ActorRole) (id : SecretId) (action : String)
    (change : InMemorySecretStore → SecretOutcome × InMemorySecretStore) (moment : ChangeMoment) :
    Except ApiError Unit × AgentApi H P D :=
  match change api.secrets with
  | (.error error, _) => (.error (mapSecretError error), api)
  | (.ok _, secrets) =>
    recordSecretAudit
      (invalidateAgentsForSecret { api with secrets } id moment.moment.now moment.faults) id action
      actorRole moment.moment.now moment.auditFails

/-- `rotate_secret`.  The jobs that bring a new token to its targets are not modelled. -/
def rotateSecret (api : AgentApi H P D) (actorRole : ActorRole) (secretId value : String)
    (confirmed : Bool) (moment : ChangeMoment) : Except ApiError Unit × AgentApi H P D :=
  match checkSecretChange actorRole .configure "rotating a secret requires explicit confirmation"
      confirmed secretId with
  | .error error => (.error error, api)
  | .ok id =>
    match SecretValue.new value with
    | .error _ => (.error (.badRequest "invalid_secret" "the secret value is invalid"), api)
    | .ok value =>
      match api.secrets.metadata id with
      | .error error => (.error (mapSecretError error), api)
      | .ok _ => changeSecret api actorRole id "rotated" (·.rotate id value moment.moment) moment

/-- `revoke_secret`. -/
def revokeSecret (api : AgentApi H P D) (actorRole : ActorRole) (secretId : String)
    (confirmed : Bool) (moment : ChangeMoment) : Except ApiError Unit × AgentApi H P D :=
  match checkSecretChange actorRole .destructive "revoking a secret requires explicit confirmation"
      confirmed secretId with
  | .error error => (.error error, api)
  | .ok id => changeSecret api actorRole id "revoked" (·.revoke id moment.moment) moment

/-- `delete_secret`. -/
def deleteSecret (api : AgentApi H P D) (actorRole : ActorRole) (secretId : String)
    (confirmed : Bool) (moment : ChangeMoment) : Except ApiError Unit × AgentApi H P D :=
  match checkSecretChange actorRole .destructive "deleting a secret requires explicit confirmation"
      confirmed secretId with
  | .error error => (.error error, api)
  | .ok id => changeSecret api actorRole id "deleted" (·.delete id) moment

/-! ### The clients after each of these -/

variable {api : AgentApi H P D}

/-- Recording a registration leaves the clients as they are. -/
theorem recordRegistration_agents (api : AgentApi H P D) (containerId : ContainerId)
    (health : AgentHealth) (request : RegisterAgentRequest) (moment : RegistrationMoment) :
    (recordRegistration api containerId health request moment).2.agents = api.agents := by
  unfold recordRegistration
  cases request.secretRef with
  | none => rfl
  | some secretRef =>
    dsimp only
    split
    case h_1 => rfl
    case h_2 => split_ifs <;> rfl

/-- An agent that is registered is put into the map, whatever becomes of its registration. -/
theorem registerAgent_agents {actorRole : ActorRole} {containerId : String}
    {request : RegisterAgentRequest} {moment : RegistrationMoment} {id : ContainerId}
    {agent : RegisteredAgent} {health : AgentHealth}
    (h : connectAgent api actorRole containerId request moment = .ok (id, agent, health)) :
    (registerAgent api actorRole containerId request moment).2.agents = api.agents.put id agent := by
  unfold registerAgent
  rw [h]
  exact recordRegistration_agents _ id health request moment

theorem restoreAgent_fold_get (secrets : InMemorySecretStore)
    (builds : AgentClientConfig → Bool) (registrations : List AgentRegistration)
    (agents : Table ContainerId RegisteredAgent) (containerId : ContainerId) :
    (registrations.foldl (restoreAgent secrets builds) agents).get containerId = none ↔
      agents.get containerId = none ∧ ∀ registration ∈ registrations,
        registration.containerId = containerId →
          restoredAgent secrets builds registration = none := by
  induction registrations generalizing agents with
  | nil => simp
  | cons registration rest ih =>
    rw [List.foldl_cons, ih, List.forall_mem_cons]
    unfold restoreAgent
    cases hrestored : restoredAgent secrets builds registration with
    | none => simp
    | some agent =>
      rw [Table.get_put]
      split
      case isTrue heq => simp [heq]
      case isFalse hne => simp [Ne.symm hne]

/-- **The clients after a start**: those whose registration could be restored. -/
theorem restoreRegisteredAgents_get (api : AgentApi H P D) (builds : AgentClientConfig → Bool)
    (listFails : Bool) (containerId : ContainerId) :
    (restoreRegisteredAgents api builds listFails).agents.get containerId = none ↔
      api.agents.get containerId = none ∧
        (api.persistent = true → listFails = false → ∀ registration ∈ api.registrations.values,
          registration.containerId = containerId →
            restoredAgent api.secrets builds registration = none) := by
  unfold restoreRegisteredAgents
  cases api.persistent <;> cases listFails <;> simp [restoreAgent_fold_get]

theorem invalidateRegistration_fold_get (now : Timestamp) (faults : InvalidationFaults)
    (registrations : List AgentRegistration) (api : AgentApi H P D) (containerId : ContainerId) :
    (registrations.foldl (invalidateRegistration now faults) api).agents.get containerId =
      if containerId ∈ registrations.map (·.containerId) then none
      else api.agents.get containerId := by
  induction registrations generalizing api with
  | nil => simp
  | cons registration rest ih =>
    rw [List.foldl_cons, ih]
    simp only [invalidateRegistration, Table.get_remove, List.map_cons, List.mem_cons]
    by_cases hrest : containerId ∈ rest.map (·.containerId)
    · simp [hrest]
    · simp [hrest]

/-- The invalidation of registrations touches neither targets nor schedules. -/
theorem invalidateRegistration_fold_server (now : Timestamp) (faults : InvalidationFaults)
    (registrations : List AgentRegistration) (api : AgentApi H P D) :
    (registrations.foldl (invalidateRegistration now faults) api).server = api.server := by
  induction registrations generalizing api with
  | nil => rfl
  | cons registration rest ih =>
    rw [List.foldl_cons, ih]
    rfl

@[simp] theorem invalidateRegisteredAgents_server (api : AgentApi H P D) (secretId : SecretId)
    (now : Timestamp) (faults : InvalidationFaults) :
    (invalidateRegisteredAgents api secretId now faults).server = api.server := by
  unfold invalidateRegisteredAgents
  split
  case isTrue => rfl
  case isFalse => exact invalidateRegistration_fold_server _ _ _ _

/-- The container has a registration that names the secret, and the invalidation sees it. -/
def Recorded (api : AgentApi H P D) (faults : InvalidationFaults) (secretId : SecretId)
    (containerId : ContainerId) : Prop :=
  api.persistent = true ∧ faults.listFails = false ∧
    ∃ registration ∈ api.registrations.values, registration.containerId = containerId ∧
      refersToSecret registration secretId = true

/-- **The clients after an invalidation**: those without a registration that names the secret. -/
theorem invalidateAgentsForSecret_get (api : AgentApi H P D) (secretId : SecretId)
    (now : Timestamp) (faults : InvalidationFaults) (containerId : ContainerId)
    (agent : RegisteredAgent) :
    (invalidateAgentsForSecret api secretId now faults).agents.get containerId = some agent ↔
      api.agents.get containerId = some agent ∧ ¬ Recorded api faults secretId containerId := by
  show (invalidateRegisteredAgents api secretId now faults).agents.get containerId = some agent ↔ _
  unfold invalidateRegisteredAgents Recorded
  split
  case isTrue hskip =>
    have hnot : ¬(api.persistent = true ∧ faults.listFails = false) := by
      intro ⟨hpersistent, hlists⟩
      simp [hpersistent, hlists] at hskip
    exact ⟨fun h => ⟨h, fun hrecorded => hnot ⟨hrecorded.1, hrecorded.2.1⟩⟩, fun h => h.1⟩
  case isFalse hgo =>
    simp only [Bool.or_eq_true, Bool.not_eq_true', not_or, Bool.not_eq_false,
      Bool.not_eq_true] at hgo
    rw [invalidateRegistration_fold_get]
    split
    case isTrue hnamed =>
      obtain ⟨registration, hkept, hid⟩ := List.mem_map.mp hnamed
      obtain ⟨hmem, hrefers⟩ := List.mem_filter.mp hkept
      constructor
      · intro h
        cases h
      · rintro ⟨-, hunrecorded⟩
        exact absurd ⟨hgo.1, hgo.2, registration, hmem, hid, hrefers⟩ hunrecorded
    case isFalse hunnamed =>
      refine ⟨fun h => ⟨h, ?_⟩, fun h => h.1⟩
      rintro ⟨-, -, registration, hmem, hid, hrefers⟩
      exact hunnamed (List.mem_map.mpr
        ⟨registration, List.mem_filter.mpr ⟨hmem, hrefers⟩, hid⟩)

/-- The log of changes is all that is written to it. -/
theorem recordSecretAudit_state (api : AgentApi H P D) (id : SecretId) (action : String)
    (role : ActorRole) (now : Timestamp) (fails : Bool) :
    ∃ secretAudit, (recordSecretAudit api id action role now fails).2 = { api with secretAudit } := by
  unfold recordSecretAudit
  split
  case isTrue => exact ⟨api.secretAudit, rfl⟩
  case isFalse => exact ⟨_, rfl⟩

/-- **A change that the store has accepted** is followed by the invalidation, also when the
request fails in the end because the change cannot be logged. -/
theorem changeSecret_ok {actorRole : ActorRole} {id : SecretId} {action : String}
    {change : InMemorySecretStore → SecretOutcome × InMemorySecretStore} {moment : ChangeMoment}
    {answer : SecretAnswer} {secrets : InMemorySecretStore}
    (h : change api.secrets = (.ok answer, secrets)) :
    ∃ secretAudit, (changeSecret api actorRole id action change moment).2 =
      { invalidateAgentsForSecret { api with secrets } id moment.moment.now moment.faults with
        secretAudit } := by
  unfold changeSecret
  rw [h]
  exact recordSecretAudit_state _ _ _ _ _ _

/-- A token that agents can have. -/
def plainToken : SecretValue := ⟨"token", by decide, by decide⟩

end Lxcup.Credentials
