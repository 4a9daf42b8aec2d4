import Lxcup.Credentials.Service

/-!
# What is left of a secret after it was changed

When a secret is rotated, revoked or deleted, the targets that refer to it are always taken care of.
The clients that were built from it are found through their registrations, though: without a
database, and for clients that are not registered, they are not found.  And the schedules are found
through their targets, so that a backup goes on with a passphrase that was taken back.

## Main definitions

* `SecretChange` — the three requests, with `SecretChange.Accepted` and `SecretChange.run`.
* `Invalidated`, `NeedsSecret`, `SecretChange.Complete` — nothing of the secret is left.

## Main results

* `resetTargetsForSecret_managed`, `disableSchedulesForTargets_enabled` — the targets and the
  schedules after an invalidation.
* `complete_iff` — when nothing of the secret is left.
* `secrets_outlive_changes` — a token in use after its rotation, and a backup with a revoked
  passphrase.
-/

namespace Lxcup.Credentials

open Lxcup.Lib Lxcup.Core Lxcup.Agent Lxcup.Secrets Lxcup.Persistence
open Lxcup.Server (ApiState ApiStore ApiError requirePermission disableSchedulesForTargets
  serverWithSchedule backupRequest)

variable {H P D : Type}

/-- The requests that change a secret. -/
inductive SecretChange
  | rotate (value : String)
  | revoke
  | delete
  deriving DecidableEq, Repr

namespace SecretChange

/-- The answer to the request, and the state after it. -/
def run (api : AgentApi H P D) (actorRole : ActorRole) (secretId : String) (confirmed : Bool)
    (moment : ChangeMoment) : SecretChange → Except ApiError Unit × AgentApi H P D
  | rotate value => rotateSecret api actorRole secretId value confirmed moment
  | revoke => revokeSecret api actorRole secretId confirmed moment
  | delete => deleteSecret api actorRole secretId confirmed moment

/-- The permission that the request needs. -/
def permission : SecretChange → Permission
  | rotate _ => .configure
  | revoke | delete => .destructive

/-- The store has the secret; a new value must be one, and the secret not be revoked. -/
def Possible (secrets : InMemorySecretStore) (id : SecretId) : SecretChange → Prop
  | rotate value =>
    value ≠ "" ∧ value.length ≤ 16384 ∧
      ∃ record, secrets.records.get id = some record ∧ record.metadata.status = .active
  | revoke | delete => ∃ record, secrets.records.get id = some record

/-- The request passes its checks, and the store accepts the change. -/
structure Accepted (change : SecretChange) (api : AgentApi H P D) (actorRole : ActorRole)
    (secretId : String) (confirmed : Bool) (id : SecretId) : Prop where
  granted : actorRole.grants change.permission = true
  confirmed : confirmed = true
  parsed : parseSecretId secretId = .ok id
  possible : change.Possible api.secrets id

/-- The secret is not to be used any more at all. -/
def withdraws : SecretChange → Bool
  | rotate _ => false
  | revoke | delete => true

end SecretChange

/-- No client was built from the secret, and no target that is managed trusts it. -/
structure Invalidated (api : AgentApi H P D) (secretId : SecretId) : Prop where
  clients : ∀ id agent, api.agents.get id = some agent → agent.builtFrom secretId = false
  targets : ∀ target ∈ api.server.store.targets,
    target.agentSecretRef = secretId → target.state ≠ .managed

/-- The schedule has a target that refers to the secret. -/
def NeedsThroughTarget (store : ApiStore H P D) (schedule : JobSchedule) (secretId : SecretId) :
    Prop :=
  ∃ target ∈ store.targets, target.id ∈ schedule.targetIds ∧
    targetRefersTo target secretId = true

/-- The schedule needs the secret, for a target or as the passphrase of a backup. -/
def NeedsSecret (store : ApiStore H P D) (schedule : JobSchedule) (secretId : SecretId) : Prop :=
  NeedsThroughTarget store schedule secretId ∨ schedule.backupSecretRef = some secretId

/-- **Nothing of the secret is left**: what was built from it is gone, and if it was withdrawn no
enabled schedule needs it. -/
structure SecretChange.Complete (change : SecretChange) (api : AgentApi H P D)
    (secretId : SecretId) : Prop extends Invalidated api secretId where
  schedules : change.withdraws = true → ∀ schedule ∈ api.server.store.schedules,
    schedule.enabled = true → ¬ NeedsSecret api.server.store schedule secretId

/-! ### Targets -/

@[simp] theorem resetAgentTarget_id (secretId : SecretId) (now : Timestamp) (target : Target) :
    (resetAgentTarget secretId now target).id = target.id := by
  unfold resetAgentTarget
  split <;> rfl

@[simp] theorem targetRefersTo_reset (secretId other : SecretId) (now : Timestamp)
    (target : Target) :
    targetRefersTo (resetAgentTarget secretId now target) other = targetRefersTo target other := by
  unfold resetAgentTarget
  split <;> rfl

@[simp] theorem resetAgentTarget_agentSecretRef (secretId : SecretId) (now : Timestamp)
    (target : Target) :
    (resetAgentTarget secretId now target).agentSecretRef = target.agentSecretRef := by
  unfold resetAgentTarget
  split <;> rfl

/-- A target whose agent uses the secret is not managed after it was reset. -/
theorem resetAgentTarget_state {secretId : SecretId} {target : Target} (now : Timestamp)
    (h : target.agentSecretRef = secretId) :
    (resetAgentTarget secretId now target).state ≠ .managed := by
  unfold resetAgentTarget needsReset
  cases hstate : target.state with
  | pending => simp [h]
  | managed => simp [h]
  | disabled => simp [h, hstate]

/-- **The targets after an invalidation**: none that trusts the secret is managed. -/
theorem resetTargetsForSecret_managed (store : ApiStore H P D) (secretId : SecretId)
    (now : Timestamp) :
    ∀ target ∈ (resetTargetsForSecret store secretId now).2.targets,
      target.agentSecretRef = secretId → target.state ≠ .managed := by
  intro target hmem href
  obtain ⟨before, -, rfl⟩ := List.mem_map.mp hmem
  split at href
  case isTrue hrefers =>
    rw [if_pos hrefers]
    rw [resetAgentTarget_agentSecretRef] at href
    exact resetAgentTarget_state now href
  case isFalse hrefers =>
    exact absurd (by simp [targetRefersTo, href]) hrefers

/-- The invalidation leaves every target with its references. -/
theorem needsThroughTarget_reset (store : ApiStore H P D) (secretId : SecretId) (now : Timestamp)
    (schedule : JobSchedule) :
    NeedsThroughTarget (resetTargetsForSecret store secretId now).2 schedule secretId ↔
      NeedsThroughTarget store schedule secretId := by
  unfold NeedsThroughTarget resetTargetsForSecret
  constructor
  · rintro ⟨target, hmem, hlisted, hrefers⟩
    obtain ⟨before, hbefore, rfl⟩ := List.mem_map.mp hmem
    refine ⟨before, hbefore, ?_⟩
    split at hlisted <;> simp_all
  · rintro ⟨target, hmem, hlisted, hrefers⟩
    refine ⟨_, List.mem_map.mpr ⟨target, hmem, rfl⟩, ?_⟩
    rw [if_pos hrefers, resetAgentTarget_id, targetRefersTo_reset]
    exact ⟨hlisted, hrefers⟩

/-- The affected targets are those that refer to the secret. -/
theorem mem_affected {store : ApiStore H P D} {secretId : SecretId} {now : Timestamp}
    {id : TargetId} :
    id ∈ (resetTargetsForSecret store secretId now).1.affected ↔
      ∃ target ∈ store.targets, target.id = id ∧ targetRefersTo target secretId = true := by
  simp only [resetTargetsForSecret, List.mem_map, List.mem_filter]
  constructor
  · rintro ⟨target, ⟨hmem, hrefers⟩, rfl⟩
    exact ⟨target, hmem, rfl, hrefers⟩
  · rintro ⟨target, hmem, rfl, hrefers⟩
    exact ⟨target, ⟨hmem, hrefers⟩, rfl⟩

/-! ### Schedules -/

/-- **The schedules after an invalidation**: those that were enabled before and have no affected
target are enabled still. -/
theorem disableSchedulesForTargets_enabled (server : ApiState H P D) (affected : List TargetId)
    (now : Timestamp) (dbFails : Bool) (schedule : JobSchedule) (henabled : schedule.enabled = true) :
    schedule ∈ (disableSchedulesForTargets server affected now dbFails).store.schedules ↔
      schedule ∈ server.store.schedules ∧ ∀ id ∈ schedule.targetIds, id ∉ affected := by
  unfold disableSchedulesForTargets
  simp only [List.mem_map]
  constructor
  · rintro ⟨before, hmem, rfl⟩
    split at henabled
    case isTrue => cases henabled
    case isFalse hunaffected =>
      rw [if_neg hunaffected]
      refine ⟨hmem, fun id hid haffected => hunaffected ?_⟩
      rw [henabled, Bool.and_true, List.any_eq_true]
      exact ⟨id, hid, by simpa using haffected⟩
  · rintro ⟨hmem, hunaffected⟩
    refine ⟨schedule, hmem, if_neg fun haffected => ?_⟩
    rw [henabled, Bool.and_true, List.any_eq_true] at haffected
    obtain ⟨id, hid, hlisted⟩ := haffected
    exact hunaffected id hid (by simpa using hlisted)

/-! ### The whole invalidation -/

/-- The store after an invalidation. -/
theorem invalidateAgentsForSecret_server (api : AgentApi H P D) (secretId : SecretId)
    (now : Timestamp) (faults : InvalidationFaults) :
    (invalidateAgentsForSecret api secretId now faults).server =
      disableSchedulesForTargets
        (persistChangedTargets
          { api.server with store := (resetTargetsForSecret api.server.store secretId now).2 }
          (resetTargetsForSecret api.server.store secretId now).1.changed faults.targetFails)
        (resetTargetsForSecret api.server.store secretId now).1.affected now
        faults.schedulesFail := by
  simp [invalidateAgentsForSecret]

/-- The clients that were built from the secret are found, each through a registration. -/
def ClientsRecorded (api : AgentApi H P D) (faults : InvalidationFaults) (secretId : SecretId) :
    Prop :=
  ∀ id agent, api.agents.get id = some agent → agent.builtFrom secretId = true →
    Recorded api faults secretId id

/-- The enabled schedules that back up with the secret have a target that refers to it as well. -/
def BackupsFound (api : AgentApi H P D) (secretId : SecretId) : Prop :=
  ∀ schedule ∈ api.server.store.schedules, schedule.enabled = true →
    schedule.backupSecretRef = some secretId →
      NeedsThroughTarget api.server.store schedule secretId

theorem invalidated_iff (api : AgentApi H P D) (secretId : SecretId) (now : Timestamp)
    (faults : InvalidationFaults) :
    Invalidated (invalidateAgentsForSecret api secretId now faults) secretId ↔
      ClientsRecorded api faults secretId := by
  constructor
  · intro h id agent hget hbuilt
    by_contra hunrecorded
    have hunbuilt := h.clients id agent
      ((invalidateAgentsForSecret_get api secretId now faults id agent).mpr ⟨hget, hunrecorded⟩)
    rw [hbuilt] at hunbuilt
    cases hunbuilt
  · intro hrecorded
    constructor
    · intro id agent hget
      obtain ⟨hbefore, hunrecorded⟩ :=
        (invalidateAgentsForSecret_get api secretId now faults id agent).mp hget
      exact Bool.eq_false_iff.mpr fun hbuilt => hunrecorded (hrecorded id agent hbefore hbuilt)
    · rw [invalidateAgentsForSecret_server]
      exact resetTargetsForSecret_managed api.server.store secretId now

/-- After an invalidation, an enabled schedule needs the secret only as the passphrase of a
backup. -/
theorem unneeded_iff (api : AgentApi H P D) (secretId : SecretId) (now : Timestamp)
    (faults : InvalidationFaults) :
    (∀ schedule ∈ (invalidateAgentsForSecret api secretId now faults).server.store.schedules,
      schedule.enabled = true →
        ¬ NeedsSecret (invalidateAgentsForSecret api secretId now faults).server.store schedule
          secretId) ↔ BackupsFound api secretId := by
  rw [invalidateAgentsForSecret_server]
  have hkept : ∀ schedule : JobSchedule, schedule.enabled = true →
      (schedule ∈ (disableSchedulesForTargets
        (persistChangedTargets
          { api.server with store := (resetTargetsForSecret api.server.store secretId now).2 }
          (resetTargetsForSecret api.server.store secretId now).1.changed faults.targetFails)
        (resetTargetsForSecret api.server.store secretId now).1.affected now
        faults.schedulesFail).store.schedules ↔
      schedule ∈ api.server.store.schedules ∧
        ¬ NeedsThroughTarget api.server.store schedule secretId) := by
    intro schedule henabled
    rw [disableSchedulesForTargets_enabled _ _ _ _ _ henabled]
    refine and_congr_right fun _ => ?_
    constructor
    · rintro hunaffected ⟨target, hmem, hlisted, hrefers⟩
      exact hunaffected target.id hlisted (mem_affected.mpr ⟨target, hmem, rfl, hrefers⟩)
    · intro hunneeded id hlisted haffected
      obtain ⟨target, hmem, rfl, hrefers⟩ := mem_affected.mp haffected
      exact hunneeded ⟨target, hmem, hlisted, hrefers⟩
  have hneeds := needsThroughTarget_reset api.server.store secretId now
  constructor
  · intro hunneeded schedule hmem henabled hbackup
    by_contra hnone
    exact hunneeded schedule ((hkept schedule henabled).mpr ⟨hmem, hnone⟩) henabled (.inr hbackup)
  · intro hfound schedule hmem henabled hneeded
    obtain ⟨hbefore, hnone⟩ := (hkept schedule henabled).mp hmem
    rcases hneeded with htarget | hbackup
    · exact hnone ((hneeds schedule).mp htarget)
    · exact hnone (hfound schedule hbefore henabled hbackup)

/-! ### The requests -/

theorem checkSecretChange_ok {actorRole : ActorRole} {permission : Permission} {message : String}
    {secretId : String} {id : SecretId} (hgranted : actorRole.grants permission = true)
    (hparsed : parseSecretId secretId = .ok id) :
    checkSecretChange actorRole permission message true secretId = .ok id := by
  simp [checkSecretChange, requirePermission, hgranted, hparsed, bind, Except.bind]

variable {change : SecretChange} {api : AgentApi H P D} {actorRole : ActorRole}
  {secretId : String} {confirmed : Bool} {id : SecretId}

/-- What an accepted request does: the store changes the secret, and all that depends on it is
invalidated. -/
theorem SecretChange.run_state (h : change.Accepted api actorRole secretId confirmed id)
    (moment : ChangeMoment) :
    ∃ secrets secretAudit, (change.run api actorRole secretId confirmed moment).2 =
      { invalidateAgentsForSecret { api with secrets } id moment.moment.now moment.faults with
        secretAudit } := by
  obtain ⟨hgranted, rfl, hparsed, hpossible⟩ := h
  cases change with
  | rotate value =>
    obtain ⟨hempty, hlong, record, hrecord, hactive⟩ := hpossible
    have hvalue : SecretValue.new value = .ok ⟨value, hempty, hlong⟩ := by
      simp [SecretValue.new, hempty, Nat.not_lt.mpr hlong]
    have hmetadata : api.secrets.metadata id = .ok record.metadata := by
      simp [InMemorySecretStore.metadata, hrecord]
    have hrotate : ∃ secrets, api.secrets.rotate id ⟨value, hempty, hlong⟩ moment.moment
        = (.ok .done, secrets) := by
      simp [InMemorySecretStore.rotate, InMemorySecretStore.update, hrecord, hactive]
    obtain ⟨secrets, hrotate⟩ := hrotate
    have hchecked : checkSecretChange actorRole .configure
        "rotating a secret requires explicit confirmation" true secretId = .ok id :=
      checkSecretChange_ok hgranted hparsed
    refine ⟨secrets, ?_⟩
    simp only [run, rotateSecret, hchecked, hvalue, hmetadata]
    exact @changeSecret_ok _ _ _ _ _ _ _ (·.rotate id _ moment.moment) _ _ _ hrotate
  | revoke =>
    obtain ⟨record, hrecord⟩ := hpossible
    have hrevoke : ∃ secrets, api.secrets.revoke id moment.moment = (.ok .done, secrets) := by
      simp [InMemorySecretStore.revoke, hrecord]
    obtain ⟨secrets, hrevoke⟩ := hrevoke
    have hchecked : checkSecretChange actorRole .destructive
        "revoking a secret requires explicit confirmation" true secretId = .ok id :=
      checkSecretChange_ok hgranted hparsed
    refine ⟨secrets, ?_⟩
    simp only [run, revokeSecret, hchecked]
    exact @changeSecret_ok _ _ _ _ _ _ _ (·.revoke id moment.moment) _ _ _ hrevoke
  | delete =>
    obtain ⟨record, hrecord⟩ := hpossible
    have hdelete : ∃ secrets, api.secrets.delete id = (.ok .done, secrets) := by
      simp [InMemorySecretStore.delete, hrecord]
    obtain ⟨secrets, hdelete⟩ := hdelete
    have hchecked : checkSecretChange actorRole .destructive
        "deleting a secret requires explicit confirmation" true secretId = .ok id :=
      checkSecretChange_ok hgranted hparsed
    refine ⟨secrets, ?_⟩
    simp only [run, deleteSecret, hchecked]
    exact @changeSecret_ok _ _ _ _ _ _ _ (·.delete id) _ _ _ hdelete

/-- **When nothing of a changed secret is left**: in persistent mode, if every client that was built
from it has a registration that names it, and, unless the secret was only rotated, every enabled
backup that has it as its passphrase has a target that refers to it too. -/
theorem complete_iff (h : change.Accepted api actorRole secretId confirmed id)
    (moment : ChangeMoment) :
    change.Complete (change.run api actorRole secretId confirmed moment).2 id ↔
      ClientsRecorded api moment.faults id ∧
        (change.withdraws = true → BackupsFound api id) := by
  obtain ⟨secrets, secretAudit, hstate⟩ := SecretChange.run_state h moment
  rw [hstate]
  have hinvalidated := invalidated_iff { api with secrets } id moment.moment.now moment.faults
  have hunneeded := unneeded_iff { api with secrets } id moment.moment.now moment.faults
  constructor
  · rintro ⟨⟨hclients, htargets⟩, hschedules⟩
    exact ⟨hinvalidated.mp ⟨hclients, htargets⟩, fun hwithdrawn =>
      hunneeded.mp (hschedules hwithdrawn)⟩
  · rintro ⟨hrecorded, hfound⟩
    obtain ⟨hclients, htargets⟩ := hinvalidated.mpr hrecorded
    exact ⟨⟨hclients, htargets⟩, fun hwithdrawn => hunneeded.mpr (hfound hwithdrawn)⟩

/-- A store with one secret. -/
def storeWithSecret (id : SecretId) (kind : SecretKind) (value : SecretValue) :
    InMemorySecretStore :=
  ⟨(∅ : Table SecretId SecretRecord).put id
    ⟨⟨⟨id, "secret", kind, .global, 0, 0⟩, .active⟩, value⟩⟩

/-- The text of the id of the token. -/
def tokenText : String := "00000000-0000-0000-0000-000000000015"

/-- The text of the id of the passphrase. -/
def passphraseText : String := "00000000-0000-0000-0000-00000000000d"

/-- A server with one container, whose agent was registered with a token. -/
def registeredServer (repositories : Option Database) : AgentApi Unit Unit Unit :=
  let api : AgentApi Unit Unit Unit :=
    { server :=
        { store := ⟨[], ∅, ∅, ∅, [], ∅, [], []⟩
          ansible := .default
          repositories }
      containers := [⟨101⟩]
      secrets := storeWithSecret ⟨⟨21⟩⟩ .agentToken plainToken
      secretAudit := []
      agents := ∅
      registrations := ∅ }
  (registerAgent api .admin "101" ⟨"https://agent", some ⟨⟨21⟩⟩, none, none⟩
    ⟨false, true, some ⟨"agent-1", true⟩, ⟨⟨31⟩⟩, 0, false⟩).2

/-- A server in persistent mode with a nightly backup and the passphrase for it. -/
def backupServer : AgentApi Unit Unit Unit where
  server := serverWithSchedule ⟨⟨7⟩⟩ backupRequest
  containers := []
  secrets := storeWithSecret ⟨⟨13⟩⟩ .backupPassphrase ⟨"passphrase", by decide, by decide⟩
  secretAudit := []
  agents := ∅
  registrations := ∅

/-- With a database, nothing of the token is left after its rotation. -/
theorem complete_rotation :
    (SecretChange.rotate "new").Complete
      ((SecretChange.rotate "new").run (registeredServer (some ⟨∅, .empty, [], [], []⟩)) .admin
        tokenText true quietMoment).2 ⟨⟨21⟩⟩ := by
  have haccepted : (SecretChange.rotate "new").Accepted
      (registeredServer (some ⟨∅, .empty, [], [], []⟩)) .admin tokenText true ⟨⟨21⟩⟩ :=
    ⟨rfl, rfl, by decide, by decide, by decide, _, rfl, rfl⟩
  refine (complete_iff haccepted quietMoment).mpr ⟨?_, ?_⟩
  · intro id agent hget _
    have hrecorded : ∃ registration ∈
        (registeredServer (some ⟨∅, .empty, [], [], []⟩)).registrations.values,
        registration.containerId = ⟨101⟩ ∧ refersToSecret registration ⟨⟨21⟩⟩ = true := by
      decide +kernel
    have hagents : (registeredServer (some ⟨∅, .empty, [], [], []⟩)).agents =
        (∅ : Table ContainerId RegisteredAgent).put ⟨101⟩
          ⟨⟨"https://agent", "token", 20, 2, 150, none, false⟩, some ⟨⟨21⟩⟩, none⟩ := by
      rfl
    rw [hagents] at hget
    rcases Table.get_put_cases hget with ⟨rfl, -⟩ | ⟨-, hnone⟩
    · exact ⟨rfl, rfl, hrecorded⟩
    · cases hnone
  · intro hwithdrawn
    cases hwithdrawn

/-- **The token is in use after its rotation, and the backup after its passphrase was revoked.** -/
theorem secrets_outlive_changes :
    ((SecretChange.rotate "new").Accepted (registeredServer none) .admin tokenText true
        ⟨⟨21⟩⟩ ∧
      ¬ (SecretChange.rotate "new").Complete
        ((SecretChange.rotate "new").run (registeredServer none) .admin tokenText true
          quietMoment).2 ⟨⟨21⟩⟩) ∧
    (SecretChange.revoke.Accepted backupServer .admin passphraseText true ⟨⟨13⟩⟩ ∧
      ¬ SecretChange.revoke.Complete
        (SecretChange.revoke.run backupServer .admin passphraseText true quietMoment).2
        ⟨⟨13⟩⟩) := by
  refine ⟨⟨⟨rfl, rfl, by decide, by decide, by decide, _, rfl, rfl⟩, fun h => ?_⟩,
    ⟨⟨rfl, rfl, by decide, _, rfl⟩, fun h => ?_⟩⟩
  · have hkept : ∃ agent ∈ ((SecretChange.rotate "new").run (registeredServer none) .admin tokenText
        true quietMoment).2.agents.get ⟨101⟩, agent.builtFrom ⟨⟨21⟩⟩ = true := by
      decide +kernel
    obtain ⟨agent, hget, hbuilt⟩ := hkept
    rw [h.clients ⟨101⟩ agent hget] at hbuilt
    cases hbuilt
  · have hkept : ∃ schedule ∈ (SecretChange.revoke.run backupServer .admin passphraseText true
        quietMoment).2.server.store.schedules,
        schedule.enabled = true ∧ schedule.backupSecretRef = some ⟨⟨13⟩⟩ := by
      decide +kernel
    obtain ⟨schedule, hmem, henabled, hbackup⟩ := hkept
    exact h.schedules rfl schedule hmem henabled (.inr hbackup)

end Lxcup.Credentials
