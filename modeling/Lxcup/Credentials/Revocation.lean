import Lxcup.Credentials.Service
import Lxcup.Lib.Machine
import Lxcup.Lib.Outcome

/-!
# Revoked agents

An agent that was revoked is out of the map of clients.  But `revoke_agent` leaves its registration
in the database, from which the map is built at the next start; and `register_agent` puts a client
into the map before it knows whether the registration will be accepted.

## Main definitions

* `AgentHistory` — the state of the server, and which agents are revoked.
* `AgentAction`, `agentMachine` — requests, and starts of the server.
* `StaysRevoked` — a step that brings no revoked agent back.

## Main results

* `revoked_of_reach` — revoked agents stay out of the map as long as no step brings one back, and
  every other step does bring one back.
* `restart_restores` — a restart does.
-/

namespace Lxcup.Credentials

open Lxcup.Lib Lxcup.Core Lxcup.Agent Lxcup.Secrets
open Lxcup.Server (ApiState ApiError parseContainerId)

variable {H P D : Type}

/-- The state of the server, and the containers whose agent was revoked and not registered again
since. -/
structure AgentHistory (H P D : Type) where
  api : AgentApi H P D
  revoked : List ContainerId

/-- What all other requests may write: they do not use the map of clients, and registrations go
with their containers. -/
structure OtherAgentWrites (H P D : Type) where
  server : ApiState H P D
  containers : List ContainerId
  secrets : InMemorySecretStore
  secretAudit : List SecretAuditEvent
  /-- The containers that are deleted. -/
  deleted : List ContainerId

/-- The steps of the server, those from one life to the next among them. -/
inductive AgentAction (H P D : Type)
  | registerAgent (actorRole : ActorRole) (containerId : String) (request : RegisterAgentRequest)
      (moment : RegistrationMoment)
  | revokeAgent (actorRole : ActorRole) (containerId : String) (confirmed : Bool)
  | getAgentHealth (containerId : String) (health : Option AgentHealth) (now : Timestamp)
      (saveFails : Bool)
  | rotateSecret (actorRole : ActorRole) (secretId value : String) (confirmed : Bool)
      (moment : ChangeMoment)
  | revokeSecret (actorRole : ActorRole) (secretId : String) (confirmed : Bool)
      (moment : ChangeMoment)
  | deleteSecret (actorRole : ActorRole) (secretId : String) (confirmed : Bool)
      (moment : ChangeMoment)
  /-- The server starts again: the map is empty, and filled from the registrations. -/
  | restart (builds : AgentClientConfig → Bool) (listFails : Bool)
  | other (writes : OtherAgentWrites H P D)

/-- The state of the server after the writes of another request. -/
def OtherAgentWrites.write (writes : OtherAgentWrites H P D) (api : AgentApi H P D) :
    AgentApi H P D where
  server := writes.server
  containers := writes.containers
  secrets := writes.secrets
  secretAudit := writes.secretAudit
  agents := api.agents
  registrations := api.registrations.retain fun containerId _ => containerId ∉ writes.deleted

/-- An agent that is registered is not revoked any more. -/
def reinstated (containerId : String) (answer : Except ApiError AgentHealth)
    (revoked : List ContainerId) : List ContainerId :=
  match answer, parseContainerId containerId with
  | .ok _, .ok containerId => revoked.filter (· ≠ containerId)
  | _, _ => revoked

/-- An agent that is revoked is one of the revoked. -/
def withRevoked (answer : Except ApiError ContainerId) (revoked : List ContainerId) :
    List ContainerId :=
  match answer with
  | .ok containerId => containerId :: revoked
  | .error _ => revoked

/-- The state after a step.  The database is there throughout. -/
def agentStep (s : AgentHistory H P D) : AgentAction H P D → Option (AgentHistory H P D)
  | .registerAgent actorRole containerId request moment =>
    let (answer, api) := registerAgent s.api actorRole containerId request moment
    some ⟨api, reinstated containerId answer s.revoked⟩
  | .revokeAgent actorRole containerId confirmed =>
    let (answer, api) := revokeAgent s.api actorRole containerId confirmed
    some ⟨api, withRevoked answer s.revoked⟩
  | .getAgentHealth containerId health now saveFails =>
    some { s with api := (getAgentHealth s.api containerId health now saveFails).2 }
  | .rotateSecret actorRole secretId value confirmed moment =>
    some { s with api := (rotateSecret s.api actorRole secretId value confirmed moment).2 }
  | .revokeSecret actorRole secretId confirmed moment =>
    some { s with api := (revokeSecret s.api actorRole secretId confirmed moment).2 }
  | .deleteSecret actorRole secretId confirmed moment =>
    some { s with api := (deleteSecret s.api actorRole secretId confirmed moment).2 }
  | .restart builds listFails =>
    some { s with api := restoreRegisteredAgents { s.api with agents := ∅ } builds listFails }
  | .other writes =>
    if writes.server.repositories.isSome = s.api.persistent then
      some { s with api := writes.write s.api }
    else none

/-- The server in persistent mode, from its first start on. -/
def agentMachine : Machine (AgentHistory H P D) (AgentAction H P D) where
  init s := s.api.persistent = true ∧ s.api.agents = ∅ ∧ s.api.registrations = ∅ ∧ s.revoked = []
  step := agentStep

/-- No agent that is revoked has a client. -/
def AgentHistory.Revoked (s : AgentHistory H P D) : Prop :=
  ∀ containerId ∈ s.revoked, s.api.agents.get containerId = none

instance (s : AgentHistory H P D) : Decidable s.Revoked :=
  inferInstanceAs (Decidable (∀ containerId ∈ s.revoked, s.api.agents.get containerId = none))

/-- Once the agent is in the map, nothing fails any more. -/
def Recordable (api : AgentApi H P D) (containerId : ContainerId) (health : AgentHealth)
    (request : RegisterAgentRequest) (moment : RegistrationMoment) : Prop :=
  ∀ secretRef, request.secretRef = some secretRef →
    (AgentRegistration.new containerId health.agentId request.endpoint secretRef
      request.caSecretRef moment.newId moment.now).isSome = true ∧
    (api.persistent = true → moment.saveFails = false)

/-- **The step brings no revoked agent back**: at a start, no registration of a revoked agent can be
restored; and a registration of a revoked agent that gets as far as the map is recorded too. -/
def StaysRevoked (s : AgentHistory H P D) : AgentAction H P D → Prop
  | .registerAgent actorRole containerId request moment =>
    ∀ id agent health,
      connectAgent s.api actorRole containerId request moment = .ok (id, agent, health) →
        id ∈ s.revoked → Recordable s.api id health request moment
  | .restart builds listFails =>
    s.api.persistent = true → listFails = false →
      ∀ registration ∈ s.api.registrations.values, registration.containerId ∈ s.revoked →
        restoredAgent s.api.secrets builds registration = none
  | _ => True

/-! ### Registration -/

variable {api : AgentApi H P D} {actorRole : ActorRole} {containerId : String}
  {request : RegisterAgentRequest} {moment : RegistrationMoment} {id : ContainerId}
  {agent : RegisteredAgent} {health : AgentHealth}

/-- The container of an agent that is registered is the one of the path. -/
theorem parse_of_connectAgent
    (h : connectAgent api actorRole containerId request moment = .ok (id, agent, health)) :
    parseContainerId containerId = .ok id := by
  unfold connectAgent at h
  obtain ⟨_, -, h⟩ := bind_eq_ok.mp h
  obtain ⟨parsed, hparsed, h⟩ := bind_eq_ok.mp h
  dsimp only at h
  split at h
  case isTrue => cases h
  case isFalse =>
    obtain ⟨_, -, h⟩ := bind_eq_ok.mp h
    obtain ⟨_, -, h⟩ := bind_eq_ok.mp h
    obtain ⟨_, -, h⟩ := bind_eq_ok.mp h
    split at h
    case isTrue => cases h
    case isFalse =>
      cases hhealth : moment.health with
      | none =>
        rw [hhealth] at h
        cases h
      | some answer =>
        rw [hhealth] at h
        cases h
        exact hparsed

/-- A registration is recorded exactly if nothing fails any more. -/
theorem recordRegistration_isOk (api : AgentApi H P D) (id : ContainerId) (health : AgentHealth)
    (request : RegisterAgentRequest) (moment : RegistrationMoment) :
    (recordRegistration api id health request moment).1.isOk = true ↔
      Recordable api id health request moment := by
  unfold recordRegistration Recordable
  cases hsecret : request.secretRef with
  | none => simp [Except.isOk, Except.toBool]
  | some secretRef =>
    simp only [Option.some.injEq, forall_eq']
    cases hnew : AgentRegistration.new id health.agentId request.endpoint secretRef
        request.caSecretRef moment.newId moment.now with
    | none => simp [Except.isOk, Except.toBool]
    | some registration =>
      cases api.persistent <;> cases moment.saveFails <;> simp [Except.isOk, Except.toBool]

/-- The revoked agents without the one that is registered. -/
theorem reinstated_of_isOk {answer : Except ApiError AgentHealth} {revoked : List ContainerId}
    (hparsed : parseContainerId containerId = .ok id) (hok : answer.isOk = true) :
    reinstated containerId answer revoked = revoked.filter (· ≠ id) := by
  cases answer with
  | error error => cases hok
  | ok health => simp [reinstated, hparsed]

theorem reinstated_of_not_isOk {answer : Except ApiError AgentHealth} {revoked : List ContainerId}
    (hok : ¬ answer.isOk = true) : reinstated containerId answer revoked = revoked := by
  cases answer with
  | error error => rfl
  | ok health => exact absurd rfl hok

/-- A registration keeps the revoked agents out of the map, unless it puts one of them there and
then fails. -/
theorem revoked_registerAgent {s : AgentHistory H P D} (h : s.Revoked) (actorRole : ActorRole)
    (containerId : String) (request : RegisterAgentRequest) (moment : RegistrationMoment) :
    (AgentHistory.mk (registerAgent s.api actorRole containerId request moment).2
        (reinstated containerId (registerAgent s.api actorRole containerId request moment).1
          s.revoked)).Revoked ↔
      StaysRevoked s (.registerAgent actorRole containerId request moment) := by
  unfold AgentHistory.Revoked StaysRevoked
  dsimp only
  cases hconnect : connectAgent s.api actorRole containerId request moment with
  | error error =>
    have hrefused : registerAgent s.api actorRole containerId request moment
        = (.error error, s.api) := by
      simp [registerAgent, hconnect]
    rw [hrefused]
    exact iff_of_true h fun id agent health hok => by cases hok
  | ok connected =>
    obtain ⟨id, agent, health⟩ := connected
    have hagents := registerAgent_agents hconnect
    have hanswer : (registerAgent s.api actorRole containerId request moment).1 =
        (recordRegistration { s.api with agents := s.api.agents.put id agent } id health request
          moment).1 := by
      simp [registerAgent, hconnect]
    have hrecorded := recordRegistration_isOk
      { s.api with agents := s.api.agents.put id agent } id health request moment
    rw [hagents]
    by_cases hok : (registerAgent s.api actorRole containerId request moment).1.isOk = true
    · rw [reinstated_of_isOk (parse_of_connectAgent hconnect) hok]
      have hrecordable := hrecorded.mp (hanswer ▸ hok)
      refine iff_of_true (fun other hother => ?_) fun id' agent' health' heq _ => ?_
      · obtain ⟨hmem, hne⟩ := List.mem_filter.mp hother
        rw [Table.get_put_ne _ _ (by simpa using hne)]
        exact h other hmem
      · cases heq
        exact hrecordable
    · rw [reinstated_of_not_isOk hok]
      have hunrecordable : ¬ Recordable s.api id health request moment := fun hrecordable =>
        hok (hanswer ▸ hrecorded.mpr hrecordable)
      constructor
      · intro hout id' agent' health' heq hmem
        cases heq
        have hget := hout id hmem
        rw [Table.get_put_self] at hget
        cases hget
      · intro hstays other hmem
        have hne : other ≠ id := by
          rintro rfl
          exact hunrecordable (hstays other agent health rfl hmem)
        rw [Table.get_put_ne _ _ hne]
        exact h other hmem

/-! ### The other steps -/

/-- The map has no client that was not there before. -/
def Fewer (api api' : AgentApi H P D) : Prop :=
  ∀ id, api.agents.get id = none → api'.agents.get id = none

theorem Fewer.refl (api : AgentApi H P D) : Fewer api api := fun _ h => h

theorem fewer_getAgentHealth (api : AgentApi H P D) (containerId : String)
    (health : Option AgentHealth) (now : Timestamp) (saveFails : Bool) :
    Fewer api (getAgentHealth api containerId health now saveFails).2 := by
  have hupdate : ∀ id change, (updateRegistration api id change saveFails).agents = api.agents := by
    intro id change
    unfold updateRegistration
    cases api.registrations.get id with
    | none => rfl
    | some registration =>
      dsimp only
      split_ifs <;> rfl
  intro id hnone
  unfold getAgentHealth
  cases parseContainerId containerId with
  | error error => exact hnone
  | ok parsed =>
    dsimp only
    split_ifs
    · exact hnone
    · cases health with
      | none => exact (congrArg (Table.get · id) (hupdate parsed _)).trans hnone
      | some answer => exact (congrArg (Table.get · id) (hupdate parsed _)).trans hnone

theorem fewer_changeSecret (api : AgentApi H P D) (actorRole : ActorRole) (secretId : SecretId)
    (action : String) (change : InMemorySecretStore → SecretOutcome × InMemorySecretStore)
    (moment : ChangeMoment) :
    Fewer api (changeSecret api actorRole secretId action change moment).2 := by
  intro id hnone
  rcases hchange : change api.secrets with ⟨outcome, secrets⟩
  cases outcome with
  | error error => simpa [changeSecret, hchange] using hnone
  | ok answer =>
    obtain ⟨secretAudit, hstate⟩ := @changeSecret_ok _ _ _ api actorRole secretId action change
      moment answer secrets hchange
    rw [hstate]
    refine Option.eq_none_iff_forall_ne_some.mpr fun agent hget => ?_
    have hold := (invalidateAgentsForSecret_get _ _ _ _ _ _).mp hget
    rw [hnone] at hold
    cases hold.1

theorem fewer_rotateSecret (api : AgentApi H P D) (actorRole : ActorRole)
    (secretId value : String) (confirmed : Bool) (moment : ChangeMoment) :
    Fewer api (rotateSecret api actorRole secretId value confirmed moment).2 := by
  unfold rotateSecret
  split
  case h_1 => exact .refl api
  case h_2 =>
    split
    case h_1 => exact .refl api
    case h_2 =>
      split
      case h_1 => exact .refl api
      case h_2 => exact fewer_changeSecret api _ _ _ _ _

theorem fewer_revokeSecret (api : AgentApi H P D) (actorRole : ActorRole) (secretId : String)
    (confirmed : Bool) (moment : ChangeMoment) :
    Fewer api (revokeSecret api actorRole secretId confirmed moment).2 := by
  unfold revokeSecret
  split
  case h_1 => exact .refl api
  case h_2 => exact fewer_changeSecret api _ _ _ _ _

theorem fewer_deleteSecret (api : AgentApi H P D) (actorRole : ActorRole) (secretId : String)
    (confirmed : Bool) (moment : ChangeMoment) :
    Fewer api (deleteSecret api actorRole secretId confirmed moment).2 := by
  unfold deleteSecret
  split
  case h_1 => exact .refl api
  case h_2 => exact fewer_changeSecret api _ _ _ _ _

/-- Revoking keeps the revoked agents out of the map. -/
theorem revoked_revokeAgent {s : AgentHistory H P D} (h : s.Revoked) (actorRole : ActorRole)
    (containerId : String) (confirmed : Bool) :
    (AgentHistory.mk (revokeAgent s.api actorRole containerId confirmed).2
      (withRevoked (revokeAgent s.api actorRole containerId confirmed).1 s.revoked)).Revoked := by
  unfold revokeAgent
  cases checkRevocation s.api actorRole containerId confirmed with
  | error error => exact h
  | ok id =>
    intro other hmem
    show (s.api.agents.remove id).get other = none
    rw [Table.get_remove]
    split
    case isTrue => rfl
    case isFalse hne => exact h other ((List.mem_cons.mp hmem).resolve_left hne)

/-- At a start the revoked agents stay out of the map exactly if none can be restored. -/
theorem revoked_restart (s : AgentHistory H P D) (builds : AgentClientConfig → Bool)
    (listFails : Bool) :
    (AgentHistory.mk (restoreRegisteredAgents { s.api with agents := ∅ } builds listFails)
        s.revoked).Revoked ↔ StaysRevoked s (.restart builds listFails) := by
  unfold AgentHistory.Revoked StaysRevoked
  simp only [restoreRegisteredAgents_get]
  constructor
  · intro hout hpersistent hlists registration hregistration hmem
    exact (hout _ hmem).2 hpersistent hlists registration hregistration rfl
  · intro hstays id hmem
    refine ⟨Table.get_empty id, fun hpersistent hlists registration hregistration hid => ?_⟩
    exact hstays hpersistent hlists registration hregistration (hid ▸ hmem)

/-- What a step does to the agents that are revoked. -/
theorem revoked_iff_staysRevoked {s s' : AgentHistory H P D} {a : AgentAction H P D}
    (h : s.Revoked) (hs : agentMachine.step s a = some s') : s'.Revoked ↔ StaysRevoked s a := by
  cases a with
  | registerAgent actorRole containerId request moment =>
    cases hs
    exact revoked_registerAgent h actorRole containerId request moment
  | revokeAgent actorRole containerId confirmed =>
    cases hs
    exact iff_of_true (revoked_revokeAgent h actorRole containerId confirmed) trivial
  | getAgentHealth containerId health now saveFails =>
    cases hs
    exact iff_of_true
      (fun id hid => fewer_getAgentHealth s.api containerId health now saveFails id (h id hid))
      trivial
  | rotateSecret actorRole secretId value confirmed moment =>
    cases hs
    exact iff_of_true (fun id hid =>
      fewer_rotateSecret s.api actorRole secretId value confirmed moment id (h id hid)) trivial
  | revokeSecret actorRole secretId confirmed moment =>
    cases hs
    exact iff_of_true (fun id hid =>
      fewer_revokeSecret s.api actorRole secretId confirmed moment id (h id hid)) trivial
  | deleteSecret actorRole secretId confirmed moment =>
    cases hs
    exact iff_of_true (fun id hid =>
      fewer_deleteSecret s.api actorRole secretId confirmed moment id (h id hid)) trivial
  | restart builds listFails =>
    cases hs
    exact revoked_restart s builds listFails
  | other writes =>
    obtain ⟨-, hwritten⟩ := Option.ite_none_right_eq_some.mp hs
    cases hwritten
    exact iff_of_true h trivial

/-- **Revoked agents stay revoked** in every run none of whose steps brings one back, and each
other step does bring one back. -/
theorem revoked_of_reach (s : AgentHistory H P D) :
    (agentMachine.Reach StaysRevoked s → s.Revoked) ∧
      ∀ a s', s.Revoked → agentMachine.step s a = some s' → (s'.Revoked ↔ StaysRevoked s a) := by
  refine ⟨fun hreach => ?_, fun a s' h hs => revoked_iff_staysRevoked h hs⟩
  refine hreach.invariant ?_ ?_
  · rintro s ⟨-, -, -, hnone⟩ id hid
    rw [hnone] at hid
    cases hid
  · intro s a s' _ h hstays hs
    exact (revoked_iff_staysRevoked h hs).mpr hstays

/-- The first start of a server with one container, and a secret for its agent. -/
def firstStart : AgentHistory Unit Unit Unit where
  api :=
    { server :=
        { store := ⟨[], ∅, ∅, ∅, [], ∅, [], []⟩
          ansible := .default
          repositories := some ⟨∅, .empty, [], [], []⟩ }
      containers := [⟨101⟩]
      secrets := ⟨(∅ : Table SecretId SecretRecord).put ⟨⟨21⟩⟩
        ⟨⟨⟨⟨⟨21⟩⟩, "agent", .agentToken, .global, 0, 0⟩, .active⟩, plainToken⟩⟩
      secretAudit := []
      agents := ∅
      registrations := ∅ }
  revoked := []

/-- The agent of the container is registered and revoked, and the server starts again. -/
def revokeAndRestart : List (AgentAction Unit Unit Unit) :=
  [.registerAgent .admin "101" ⟨"https://agent", some ⟨⟨21⟩⟩, none, none⟩
      ⟨false, true, some ⟨"agent-1", true⟩, ⟨⟨31⟩⟩, 0, false⟩,
    .revokeAgent .admin "101" true,
    .restart (fun _ => true) false]

/-- The secret of the agent is revoked with it before the server starts again. -/
def revokeSecretAndRestart : List (AgentAction Unit Unit Unit) :=
  [.registerAgent .admin "101" ⟨"https://agent", some ⟨⟨21⟩⟩, none, none⟩
      ⟨false, true, some ⟨"agent-1", true⟩, ⟨⟨31⟩⟩, 0, false⟩,
    .revokeAgent .admin "101" true,
    .revokeSecret .admin "00000000-0000-0000-0000-000000000015" true quietMoment,
    .restart (fun _ => true) false]

theorem revoked_after_restart :
    ∃ s ∈ agentMachine.exec (agentMachine.Preserves AgentHistory.Revoked) firstStart
        revokeSecretAndRestart,
      s.Revoked ∧ s.revoked = [⟨101⟩] := by
  have hrun : ∃ s ∈ agentMachine.exec (agentMachine.Preserves AgentHistory.Revoked) firstStart
      revokeSecretAndRestart, s.revoked = [⟨101⟩] ∧ s.api.registrations.values.length = 1 := by
    decide +kernel
  obtain ⟨s, hexec, hrevoked, -⟩ := hrun
  refine ⟨s, hexec, (revoked_of_reach s).1 ?_, hrevoked⟩
  refine .exec_preserving (fun s a s' _ h hs h' => (revoked_iff_staysRevoked h hs).mp h')
    (.init ⟨rfl, rfl, rfl, rfl⟩) ?_ _ hexec
  intro id hid
  cases hid

/-- The agent is back after the restart. -/
theorem restart_restores :
    ¬ ∀ s : AgentHistory Unit Unit Unit, agentMachine.Reach Machine.Any s → s.Revoked := by
  intro hall
  have hrun : ∃ s ∈ agentMachine.exec Machine.Any firstStart revokeAndRestart, ¬ s.Revoked := by
    decide +kernel
  obtain ⟨s, hexec, hback⟩ := hrun
  exact hback (hall s (.exec (.init ⟨rfl, rfl, rfl, rfl⟩) _ hexec))

end Lxcup.Credentials
