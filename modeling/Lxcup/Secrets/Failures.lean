import Lxcup.Secrets.Encrypted

/-!
# What a failed step leaves behind

A call on the encrypted store takes up to three steps on files.  When one of them fails, the call
gives an error; whether the directory is as before depends on the step.

## Main definitions

* `SecretCall.fileSteps` — the steps that a call takes.
* `Undone` — nothing is left of a failed call.
* `SecretCall.survives` — the failures of which nothing is left.

## Main results

* `EncryptedFileSecretStore.apply_skipped` — a failure of any other step is never noticed.
* `undone_iff` — nothing is left of a failed call exactly when the files were paired and the
  failure is one that the call survives.
* `paired_of_reach` — as long as calls survive their failures, the files stay paired.
-/

namespace Lxcup.Secrets

open Lxcup.Lib Lxcup.Core EncryptedFileSecretStore

variable {J : Type}

section

variable (json : MetadataJson J) (aead : Aead) (store : EncryptedFileSecretStore J)

/-- The steps on files that a call takes, in their order. -/
def SecretCall.fileSteps (moment : Moment) : SecretCall → List FileStep
  | .create request =>
    match request.stored moment with
    | .error _ => []
    | .ok _ => [.writeMetadata, .writeValue, .setPermissions]
  | .update id _ | .rotate id _ =>
    match store.readMetadata json id with
    | .error _ => []
    | .ok entry =>
      if entry.status ≠ .active then [] else [.writeValue, .setPermissions, .writeMetadata]
  | .revoke id =>
    match store.readMetadata json id with
    | .error _ => []
    | .ok _ => [.writeMetadata]
  | .delete id =>
    match store.readMetadata json id with
    | .error _ => []
    | .ok _ => [.removeValue, .removeMetadata]
  | .rewrap id =>
    match store.read json aead id with
    | .error _ => []
    | .ok _ => [.writeValue, .setPermissions]
  | _ => []

/-- The call gives an error, every secret answers as before, the files are paired, a backup can
be taken, and the call succeeds when it is made again. -/
structure Undone (moment : Moment) (fault : Fault) (call : SecretCall) : Prop where
  refused : ∃ error, (store.apply json aead (some fault) moment call).1 = .error error
  read : ∀ id, (store.apply json aead (some fault) moment call).2.read json aead id =
    store.read json aead id
  metadata : ∀ id, (store.apply json aead (some fault) moment call).2.readMetadata json id =
    store.readMetadata json id
  paired : (store.apply json aead (some fault) moment call).2.directory.Paired
  copied : (copyEncryptedSecrets
    (store.apply json aead (some fault) moment call).2.directory).isSome = true
  repeats : ∀ later, ∃ answer,
    ((store.apply json aead (some fault) moment call).2.apply json aead none later call).1 =
      .ok answer

/-- The failures of which nothing is left: those before anything is written, the one that is made
up for, and those of a call that writes the value which is there already. -/
def SecretCall.survives (step : FileStep) : SecretCall → Prop
  | .create _ => step ≠ .setPermissions
  | .update id value | .rotate id value =>
    step = .writeValue ∨ store.read json aead id = .ok value
  | .delete _ => step = .removeValue
  | _ => True

end

/-! ### Stores with the same files -/

variable {json : MetadataJson J} {aead : Aead} {store store' : EncryptedFileSecretStore J}

/-- The same keys, and the same files under every id. -/
structure SameFiles (store store' : EncryptedFileSecretStore J) : Prop where
  currentKey : store'.currentKey = store.currentKey
  previousKeys : store'.previousKeys = store.previousKeys
  metadataFiles : ∀ id, store'.directory.metadataFiles.get id = store.directory.metadataFiles.get id
  valueFiles : ∀ id, store'.directory.valueFiles.get id = store.directory.valueFiles.get id

theorem SameFiles.refl (store : EncryptedFileSecretStore J) : SameFiles store store :=
  ⟨rfl, rfl, fun _ => rfl, fun _ => rfl⟩

theorem SameFiles.readMetadata (h : SameFiles store store') (id : SecretId) :
    store'.readMetadata json id = store.readMetadata json id := by
  simp only [EncryptedFileSecretStore.readMetadata, h.metadataFiles]

theorem SameFiles.read (h : SameFiles store store') (id : SecretId) :
    store'.read json aead id = store.read json aead id := by
  simp only [EncryptedFileSecretStore.read, h.readMetadata, h.valueFiles, decrypt, h.currentKey,
    h.previousKeys]

theorem SameFiles.paired (h : SameFiles store store') :
    store'.directory.Paired ↔ store.directory.Paired := by
  simp only [SecretDirectory.Paired, h.metadataFiles, h.valueFiles]

/-! ### Calls that succeed -/

/-- Metadata is read from a file that is there. -/
theorem isSome_of_readMetadata {id : SecretId} {entry : StoredSecretMetadata}
    (h : store.readMetadata json id = .ok entry) :
    ∃ text, store.directory.metadataFiles.get id = some text ∧ json.fromSlice text = some entry := by
  unfold EncryptedFileSecretStore.readMetadata at h
  split at h
  case h_1 => cases h
  case h_2 text hget =>
    split at h
    case h_1 => cases h
    case h_2 entry' hreads => exact ⟨text, hget, Except.ok.inj h ▸ hreads⟩

/-- A value is read from an active secret whose file is there. -/
theorem of_read {id : SecretId} {value : SecretValue} (h : store.read json aead id = .ok value) :
    ∃ entry payload, store.readMetadata json id = .ok entry ∧ entry.status = .active ∧
      store.directory.valueFiles.get id = some payload ∧ store.decrypt aead payload = .ok value := by
  unfold EncryptedFileSecretStore.read at h
  split at h
  case h_1 => cases h
  case h_2 entry hread =>
    split at h
    case isTrue => cases h
    case isFalse hactive =>
      split at h
      case h_1 => cases h
      case h_2 payload hget => exact ⟨entry, payload, hread, not_not.mp hactive, hget, h⟩

/-- The value of a secret of a paired store. -/
theorem value_of_paired (hpaired : store.directory.Paired) {id : SecretId} {text : J}
    (htext : store.directory.metadataFiles.get id = some text) :
    ∃ payload, store.directory.valueFiles.get id = some payload := by
  have hboth := hpaired id
  rw [htext, Option.isSome_some] at hboth
  exact Option.isSome_iff_exists.mp hboth.symm

/-- A request that is accepted at one moment is accepted at any other. -/
theorem stored_ok {request : CreateSecret} {moment : Moment} {stored : StoredSecretMetadata}
    (h : request.stored moment = .ok stored) (later : Moment) :
    ∃ stored', request.stored later = .ok stored' := by
  unfold CreateSecret.stored SecretMetadata.new at h ⊢
  split at h
  case h_1 => cases h
  case h_2 metadata hmetadata =>
    split at hmetadata
    case isTrue => cases hmetadata
    case isFalse hblank =>
      split at hmetadata
      case isTrue => cases hmetadata
      case isFalse hlong => exact ⟨_, by rw [if_neg hblank, if_neg hlong]⟩

theorem update_ok {id : SecretId} {value : SecretValue} {moment : Moment}
    (hsteps : (SecretCall.update id value).fileSteps json aead store moment ≠ []) (later : Moment) :
    ∃ answer, (store.update json aead none id value later).1 = .ok answer := by
  simp only [SecretCall.fileSteps] at hsteps
  split at hsteps
  case h_1 => exact absurd rfl hsteps
  case h_2 entry hread =>
    split at hsteps
    case isTrue => exact absurd rfl hsteps
    case isFalse hactive =>
      obtain ⟨payload, text, -, -, heq⟩ := update_eq aead value later hread (not_not.mp hactive)
      exact ⟨.done, by simp [heq]⟩

/-- Only a deletion needs the files to be paired. -/
theorem delete_ok {id : SecretId} {moment : Moment} (hpaired : store.directory.Paired)
    (hsteps : (SecretCall.delete id).fileSteps json aead store moment ≠ []) :
    ∃ answer, (store.delete json none id).1 = .ok answer := by
  simp only [SecretCall.fileSteps] at hsteps
  split at hsteps
  case h_1 => exact absurd rfl hsteps
  case h_2 entry hread =>
    obtain ⟨text, htext, -⟩ := isSome_of_readMetadata hread
    obtain ⟨payload, hpayload⟩ := value_of_paired hpaired htext
    refine ⟨.done, ?_⟩
    simp only [EncryptedFileSecretStore.delete, hread, removeValue, removeMetadata, attempt_none,
      hpayload, htext]
    rfl

/-- **A call that has steps to take succeeds on paired files**, when none of them fails. -/
theorem apply_ok {call : SecretCall} {moment : Moment} (hpaired : store.directory.Paired)
    (hsteps : call.fileSteps json aead store moment ≠ []) (later : Moment) :
    ∃ answer, (store.apply json aead none later call).1 = .ok answer := by
  cases call with
  | create request =>
    simp only [SecretCall.fileSteps] at hsteps
    split at hsteps
    case h_1 => exact absurd rfl hsteps
    case h_2 stored hstored =>
      obtain ⟨stored', hstored'⟩ := stored_ok hstored later
      obtain ⟨text, payload, -, -, heq⟩ := create_eq json aead store hstored'
      exact ⟨.metadata stored', by simp [EncryptedFileSecretStore.apply, heq]⟩
  | update id value => exact update_ok hsteps later
  | rotate id value =>
    have hupdate : (SecretCall.update id value).fileSteps json aead store moment ≠ [] := hsteps
    exact update_ok hupdate later
  | revoke id =>
    simp only [SecretCall.fileSteps] at hsteps
    split at hsteps
    case h_1 => exact absurd rfl hsteps
    case h_2 entry hread =>
      obtain ⟨text, -, heq⟩ := revoke_eq later hread
      exact ⟨.done, by simp [EncryptedFileSecretStore.apply, heq]⟩
  | delete id => exact delete_ok hpaired hsteps
  | rewrap id =>
    simp only [SecretCall.fileSteps] at hsteps
    split at hsteps
    case h_1 => exact absurd rfl hsteps
    case h_2 value hread =>
      obtain ⟨payload, -, heq⟩ := writeEncrypted_eq aead store id value later.nonce
      refine ⟨.done, ?_⟩
      simp only [EncryptedFileSecretStore.apply, EncryptedFileSecretStore.rewrap, hread, heq,
        attempt_none]
      rfl
  | listMetadata => exact absurd rfl hsteps
  | read id => exact absurd rfl hsteps
  | metadata id => exact absurd rfl hsteps

/-! ### Calls that fail -/

/-- A failed write of a value that is read: the file has been written all the same. -/
theorem read_putValue {id : SecretId} {value : SecretValue} {entry : StoredSecretMetadata}
    {payload : List UInt8} (hread : store.readMetadata json id = .ok entry)
    (hactive : entry.status = .active) (hseals : Seals aead store.currentKey value payload) :
    (store.putValue id payload).read json aead id = .ok value := by
  have hread' : (store.putValue id payload).readMetadata json id = .ok entry := hread
  have hget : (store.putValue id payload).directory.valueFiles.get id = some payload :=
    Table.get_put_self _ _ _
  have hdecrypt : (store.putValue id payload).decrypt aead payload = .ok value :=
    decrypt_seal hseals List.mem_cons_self
  simp only [EncryptedFileSecretStore.read, hread', hactive, hget, hdecrypt, ne_eq,
    not_true_eq_false, if_false]

theorem read_putValue_ne {id other : SecretId} {payload : List UInt8} (hne : other ≠ id) :
    (store.putValue id payload).read json aead other = store.read json aead other := by
  have hget : (store.putValue id payload).directory.valueFiles.get other
      = store.directory.valueFiles.get other := Table.get_put_ne _ _ hne
  simp only [EncryptedFileSecretStore.read, hget]
  rfl

/-- A file that was there before changes nothing about the pairs. -/
theorem paired_putValue {id : SecretId} {payload old : List UInt8}
    (hget : store.directory.valueFiles.get id = some old) :
    (store.putValue id payload).directory.Paired ↔ store.directory.Paired := by
  have hvalues : ∀ other, ((store.putValue id payload).directory.valueFiles.get other).isSome =
      (store.directory.valueFiles.get other).isSome := by
    intro other
    simp only [putValue, Table.get_put]
    split
    case isTrue heq => rw [heq, hget]; rfl
    case isFalse => rfl
  simp only [SecretDirectory.Paired, hvalues]
  exact Iff.rfl

/-- What a failed call leaves behind: the same files, a new value of an active secret, or a file
without its partner. -/
inductive Aftermath (json : MetadataJson J) (aead : Aead) (store : EncryptedFileSecretStore J)
    (step : FileStep) (call : SecretCall) : EncryptedFileSecretStore J → Prop
  | same {store' : EncryptedFileSecretStore J} (files : SameFiles store store')
    (survives : call.survives json aead store step) : Aftermath json aead store step call store'
  | written {id : SecretId} {value : SecretValue} {entry : StoredSecretMetadata}
    {payload : List UInt8} (read : store.readMetadata json id = .ok entry)
    (active : entry.status = .active) (seals : Seals aead store.currentKey value payload)
    (survives : call.survives json aead store step ↔ store.read json aead id = .ok value) :
    Aftermath json aead store step call (store.putValue id payload)
  | torn {store' : EncryptedFileSecretStore J} (unpaired : ¬store'.directory.Paired)
    (lost : ¬call.survives json aead store step) : Aftermath json aead store step call store'

variable {moment : Moment} {fault : Fault}

/-- The id of a new secret is the fresh one. -/
theorem stored_id {request : CreateSecret} {stored : StoredSecretMetadata}
    (h : request.stored moment = .ok stored) : stored.metadata.id = moment.newId := by
  unfold CreateSecret.stored SecretMetadata.new at h
  split at h
  case h_1 => cases h
  case h_2 metadata hmetadata =>
    cases h
    split at hmetadata
    case isTrue => cases hmetadata
    case isFalse =>
      split at hmetadata
      case isTrue => cases hmetadata
      case isFalse =>
        cases hmetadata
        rfl

theorem failed_create {request : CreateSecret}
    (hfresh : (SecretCall.create request).fresh moment store = true)
    (hstep : fault.step ∈ (SecretCall.create request).fileSteps json aead store moment) :
    ∃ error store', store.apply json aead (some fault) moment (.create request) =
      (.error error, store') ∧ Aftermath json aead store fault.step (.create request) store' := by
  obtain ⟨step, kind⟩ := fault
  simp only [SecretCall.fileSteps] at hstep
  split at hstep
  case h_1 => cases hstep
  case h_2 stored hstored =>
    have hid := stored_id hstored
    simp only [SecretCall.fresh, Bool.and_eq_true, Option.isNone_iff_eq_none, ← hid] at hfresh
    obtain ⟨hmetadata, hvalue⟩ := hfresh
    obtain ⟨text, payload, -, -, hcreate⟩ := create_eq json aead store hstored
    simp only [EncryptedFileSecretStore.apply, hcreate]
    simp only [List.mem_cons, List.not_mem_nil, or_false] at hstep
    rcases hstep with rfl | rfl | rfl
    · exact ⟨_, store, rfl, .same (.refl store) (by simp [SecretCall.survives])⟩
    · -- the metadata is taken away again
      refine ⟨mapIoError kind, { store with directory := { store.directory with
          metadataFiles := (store.directory.metadataFiles.put stored.metadata.id text).remove
            stored.metadata.id } }, ?_, .same ⟨rfl, rfl, ?_, fun _ => rfl⟩
              (by simp [SecretCall.survives])⟩
      · simp [removeMetadata, EncryptedFileSecretStore.putMetadata, Table.get_put_self]
      · intro id
        simp only [Table.get_remove, Table.get_put]
        split
        case isTrue heq => rw [heq, hmetadata]
        case isFalse => rfl
    · -- so it is when the value has been written, whose file stays
      refine ⟨mapIoError kind, { store with directory :=
        { metadataFiles := (store.directory.metadataFiles.put stored.metadata.id text).remove
            stored.metadata.id
          valueFiles := store.directory.valueFiles.put stored.metadata.id payload } }, ?_,
            .torn ?_ (by simp [SecretCall.survives])⟩
      · simp [removeMetadata, EncryptedFileSecretStore.putMetadata, putValue, Table.get_put_self]
      · intro hpaired
        have hboth := hpaired stored.metadata.id
        simp [Table.get_remove] at hboth

theorem failed_update {id : SecretId} {value : SecretValue}
    (hstep : fault.step ∈ (SecretCall.update id value).fileSteps json aead store moment) :
    ∃ error store', store.update json aead (some fault) id value moment = (.error error, store') ∧
      Aftermath json aead store fault.step (.update id value) store' := by
  obtain ⟨step, kind⟩ := fault
  simp only [SecretCall.fileSteps] at hstep
  split at hstep
  case h_1 => cases hstep
  case h_2 entry hread =>
    split at hstep
    case isTrue => cases hstep
    case isFalse hactive =>
      have hactive := not_not.mp hactive
      obtain ⟨payload, text, hseals, -, hupdate⟩ := update_eq aead value moment hread hactive
      simp only [hupdate]
      simp only [List.mem_cons, List.not_mem_nil, or_false] at hstep
      rcases hstep with rfl | rfl | rfl
      · exact ⟨_, store, rfl, .same (.refl store) (.inl rfl)⟩
      all_goals
        refine ⟨_, store.putValue id payload, rfl, .written hread hactive hseals ?_⟩
        simp [SecretCall.survives]

theorem failed_revoke {id : SecretId}
    (hstep : fault.step ∈ (SecretCall.revoke id).fileSteps json aead store moment) :
    ∃ error store', store.revoke json (some fault) id moment = (.error error, store') ∧
      Aftermath json aead store fault.step (.revoke id) store' := by
  obtain ⟨step, kind⟩ := fault
  simp only [SecretCall.fileSteps] at hstep
  split at hstep
  case h_1 => cases hstep
  case h_2 entry hread =>
    obtain ⟨text, -, hrevoke⟩ := revoke_eq moment hread
    obtain rfl := List.mem_singleton.mp hstep
    simp only [hrevoke]
    exact ⟨_, store, rfl, .same (.refl store) trivial⟩

theorem failed_delete {id : SecretId}
    (hstep : fault.step ∈ (SecretCall.delete id).fileSteps json aead store moment) :
    ∃ error store', store.delete json (some fault) id = (.error error, store') ∧
      Aftermath json aead store fault.step (.delete id) store' := by
  obtain ⟨step, kind⟩ := fault
  simp only [SecretCall.fileSteps] at hstep
  split at hstep
  case h_1 => cases hstep
  case h_2 entry hread =>
    obtain ⟨text, htext, -⟩ := isSome_of_readMetadata hread
    simp only [EncryptedFileSecretStore.delete, hread]
    simp only [List.mem_cons, List.not_mem_nil, or_false] at hstep
    rcases hstep with rfl | rfl
    · exact ⟨_, store, rfl, .same (.refl store) rfl⟩
    · -- the value is gone, or has been all the time; the metadata stays
      have hlost : ¬(SecretCall.delete id).survives json aead store .removeMetadata := by
        simp [SecretCall.survives]
      cases hvalue : store.directory.valueFiles.get id with
      | none =>
        refine ⟨.missing, store, ?_, .torn ?_ hlost⟩
        · simp [removeValue, hvalue, mapIoError]
        · intro hpaired
          have hboth := hpaired id
          simp [htext, hvalue] at hboth
      | some payload =>
        refine ⟨mapIoError kind, { store with directory := { store.directory with
          valueFiles := store.directory.valueFiles.remove id } }, ?_, .torn ?_ hlost⟩
        · simp [removeValue, removeMetadata, hvalue]
          rfl
        · intro hpaired
          have hboth := hpaired id
          simp [Table.get_remove, htext] at hboth

theorem failed_rewrap {id : SecretId}
    (hstep : fault.step ∈ (SecretCall.rewrap id).fileSteps json aead store moment) :
    ∃ error store', store.rewrap json aead (some fault) id moment = (.error error, store') ∧
      Aftermath json aead store fault.step (.rewrap id) store' := by
  obtain ⟨step, kind⟩ := fault
  simp only [SecretCall.fileSteps] at hstep
  split at hstep
  case h_1 => cases hstep
  case h_2 value hread =>
    obtain ⟨payload, hseals, hwrite⟩ := writeEncrypted_eq aead store id value moment.nonce
    simp only [EncryptedFileSecretStore.rewrap, hread, hwrite]
    simp only [List.mem_cons, List.not_mem_nil, or_false] at hstep
    rcases hstep with rfl | rfl
    · exact ⟨_, store, rfl, .same (.refl store) trivial⟩
    · obtain ⟨entry, old, hmetadata, hactive, -, -⟩ := of_read hread
      exact ⟨_, store.putValue id payload, rfl,
        .written hmetadata hactive hseals (by simp [SecretCall.survives, hread])⟩

/-- **What a failed call leaves behind.** -/
theorem failed_call {call : SecretCall} (hfresh : call.fresh moment store = true)
    (hstep : fault.step ∈ call.fileSteps json aead store moment) :
    ∃ error store', store.apply json aead (some fault) moment call = (.error error, store') ∧
      Aftermath json aead store fault.step call store' := by
  cases call with
  | create request => exact failed_create hfresh hstep
  | update id value => exact failed_update hstep
  | rotate id value =>
    have hupdate : fault.step ∈ (SecretCall.update id value).fileSteps json aead store moment :=
      hstep
    obtain ⟨error, store', happly, haftermath⟩ := failed_update hupdate
    refine ⟨error, store', happly, ?_⟩
    cases haftermath with
    | same files survives => exact .same files survives
    | written read active seals survives => exact .written read active seals survives
    | torn unpaired lost => exact .torn unpaired lost
  | revoke id => exact failed_revoke hstep
  | delete id => exact failed_delete hstep
  | rewrap id => exact failed_rewrap hstep
  | listMetadata => cases hstep
  | read id => cases hstep
  | metadata id => cases hstep

/-- The steps of a call depend on what can be read only. -/
theorem fileSteps_congr (hmetadata : ∀ id, store'.readMetadata json id = store.readMetadata json id)
    (hread : ∀ id, store'.read json aead id = store.read json aead id) (call : SecretCall) :
    call.fileSteps json aead store' moment = call.fileSteps json aead store moment := by
  cases call <;> simp only [SecretCall.fileSteps, hmetadata, hread]

/-- When everything reads as before and the files are paired, nothing is left of a failure. -/
theorem undone_of_same {call : SecretCall} {error : SecretStoreError}
    (happly : store.apply json aead (some fault) moment call = (.error error, store'))
    (hsteps : fault.step ∈ call.fileSteps json aead store moment)
    (hmetadata : ∀ id, store'.readMetadata json id = store.readMetadata json id)
    (hread : ∀ id, store'.read json aead id = store.read json aead id)
    (hpaired : store'.directory.Paired) : Undone json aead store moment fault call where
  refused := ⟨error, by rw [happly]⟩
  read := by rwa [happly]
  metadata := by rwa [happly]
  paired := by rwa [happly]
  copied := by rwa [happly, copyEncryptedSecrets_isSome]
  repeats := by
    rw [happly]
    have hsteps' : call.fileSteps json aead store' moment ≠ [] := by
      rw [fileSteps_congr hmetadata hread]
      exact List.ne_nil_of_mem hsteps
    exact apply_ok hpaired hsteps'

/-- Nothing is left of a failure that a call on paired files survives. -/
theorem undone_of_survives {call : SecretCall} (hfresh : call.fresh moment store = true)
    (hstep : fault.step ∈ call.fileSteps json aead store moment) (hpaired : store.directory.Paired)
    (hsurvives : call.survives json aead store fault.step) :
    Undone json aead store moment fault call := by
  obtain ⟨error, store', happly, haftermath⟩ := failed_call hfresh hstep
  cases haftermath with
  | same files =>
    exact undone_of_same happly hstep files.readMetadata files.read (files.paired.mpr hpaired)
  | @written id value entry payload read active seals survives =>
    have hread := survives.mp hsurvives
    obtain ⟨_, old, -, -, hget, -⟩ := of_read hread
    refine undone_of_same happly hstep (fun _ => rfl) (fun other => ?_)
      ((paired_putValue hget).mpr hpaired)
    by_cases hother : other = id
    · rw [hother, read_putValue read active seals, hread]
    · exact read_putValue_ne hother
  | torn unpaired lost => exact absurd hsurvives lost

/-- **Nothing is left of a failed call exactly when the files were paired and the call survives the
failure.** -/
theorem undone_iff {call : SecretCall} (hfresh : call.fresh moment store = true)
    (hstep : fault.step ∈ call.fileSteps json aead store moment) :
    Undone json aead store moment fault call ↔
      store.directory.Paired ∧ call.survives json aead store fault.step := by
  constructor
  · intro h
    obtain ⟨error, store', happly, haftermath⟩ := failed_call hfresh hstep
    have hpaired := h.paired
    rw [happly] at hpaired
    cases haftermath with
    | same files survives => exact ⟨files.paired.mp hpaired, survives⟩
    | @written id value entry payload read active seals survives =>
      -- the value that is read now was the value before
      have hread := h.read id
      rw [happly, read_putValue read active seals] at hread
      obtain ⟨_, old, -, -, hget, -⟩ := of_read hread.symm
      exact ⟨(paired_putValue hget).mp hpaired, survives.mpr hread.symm⟩
    | torn unpaired lost => exact absurd hpaired unpaired
  · rintro ⟨hpaired, hsurvives⟩
    exact undone_of_survives hfresh hstep hpaired hsurvives

/-- The key of the tests, and no secrets. -/
def emptyStore : EncryptedFileSecretStore StoredSecretMetadata := ⟨repeatedKey 7, [], ⟨∅, ∅⟩⟩

/-- A new secret whose value cannot be written leaves nothing. -/
theorem undone_create :
    Undone plainJson keyedAead emptyStore (momentAt 1 10) ⟨.writeValue, .other⟩
      (.create connectionTest) :=
  (undone_iff (by decide +kernel) (by decide +kernel)).mpr
    ⟨fun _ => rfl, by simp [SecretCall.survives]⟩

/-- A new secret whose file cannot be made private leaves that file: no backup can be taken. -/
theorem permissions_leave_value :
    ¬Undone plainJson keyedAead emptyStore (momentAt 1 10) ⟨.setPermissions, .other⟩
      (.create connectionTest) := by
  intro h
  have hcopied := h.copied
  revert hcopied
  decide +kernel

/-! ### Runs -/

/-- Every failure that a call comes to is one that it survives. -/
def Survives (json : MetadataJson J) (aead : Aead) (store : EncryptedFileSecretStore J) :
    SecretAction → Prop
  | .call call moment (some fault) =>
    fault.step ∈ call.fileSteps json aead store moment → call.survives json aead store fault.step
  | _ => True

/-- A failure of a step that is not taken is not noticed. -/
theorem attempt_skipped {step : FileStep} (h : fault.step ≠ step) :
    attempt (some fault) step = .ok () := by
  simp only [attempt, if_neg h]

theorem update_skipped {id : SecretId} {value : SecretValue}
    (hskip : fault.step ∉ (SecretCall.update id value).fileSteps json aead store moment) :
    store.update json aead (some fault) id value moment =
      store.update json aead none id value moment := by
  simp only [SecretCall.fileSteps] at hskip
  split at hskip
  case h_1 error hread => simp only [EncryptedFileSecretStore.update, hread]
  case h_2 entry hread =>
    split at hskip
    case isTrue hrevoked => simp only [EncryptedFileSecretStore.update, hread, if_pos hrevoked]
    case isFalse hactive =>
      simp only [List.mem_cons, List.not_mem_nil, or_false, not_or] at hskip
      obtain ⟨hvalue, hpermissions, hmetadata⟩ := hskip
      obtain ⟨payload, text, -, -, hupdate⟩ := update_eq aead value moment hread (not_not.mp hactive)
      simp only [hupdate, attempt_none, attempt_skipped hvalue, attempt_skipped hpermissions,
        attempt_skipped hmetadata]

/-- **A failure of any other step is never noticed.** -/
theorem apply_skipped {call : SecretCall}
    (hskip : fault.step ∉ call.fileSteps json aead store moment) :
    store.apply json aead (some fault) moment call = store.apply json aead none moment call := by
  cases call with
  | create request =>
    simp only [SecretCall.fileSteps] at hskip
    split at hskip
    case h_1 error hstored =>
      simp only [EncryptedFileSecretStore.apply, EncryptedFileSecretStore.create, hstored]
    case h_2 stored hstored =>
      simp only [List.mem_cons, List.not_mem_nil, or_false, not_or] at hskip
      obtain ⟨hmetadata, hvalue, hpermissions⟩ := hskip
      obtain ⟨text, payload, -, -, hcreate⟩ := create_eq json aead store hstored
      simp only [EncryptedFileSecretStore.apply, hcreate, attempt_none, attempt_skipped hmetadata,
        attempt_skipped hvalue, attempt_skipped hpermissions]
  | update id value => exact update_skipped hskip
  | rotate id value => exact update_skipped hskip
  | revoke id =>
    simp only [SecretCall.fileSteps] at hskip
    split at hskip
    case h_1 error hread =>
      simp only [EncryptedFileSecretStore.apply, EncryptedFileSecretStore.revoke, hread]
    case h_2 entry hread =>
      obtain ⟨text, -, hrevoke⟩ := revoke_eq moment hread
      simp only [EncryptedFileSecretStore.apply, hrevoke, attempt_none,
        attempt_skipped fun h => hskip (List.mem_singleton.mpr h)]
  | delete id =>
    simp only [SecretCall.fileSteps] at hskip
    split at hskip
    case h_1 error hread =>
      simp only [EncryptedFileSecretStore.apply, EncryptedFileSecretStore.delete, hread]
    case h_2 entry hread =>
      simp only [List.mem_cons, List.not_mem_nil, or_false, not_or] at hskip
      obtain ⟨hvalue, hmetadata⟩ := hskip
      simp only [EncryptedFileSecretStore.apply, EncryptedFileSecretStore.delete, hread, removeValue,
        removeMetadata, attempt_none, attempt_skipped hvalue, attempt_skipped hmetadata]
  | rewrap id =>
    simp only [SecretCall.fileSteps] at hskip
    split at hskip
    case h_1 error hread =>
      simp only [EncryptedFileSecretStore.apply, EncryptedFileSecretStore.rewrap, hread]
    case h_2 value hread =>
      simp only [List.mem_cons, List.not_mem_nil, or_false, not_or] at hskip
      obtain ⟨hvalue, hpermissions⟩ := hskip
      obtain ⟨payload, -, hwrite⟩ := writeEncrypted_eq aead store id value moment.nonce
      simp only [EncryptedFileSecretStore.apply, EncryptedFileSecretStore.rewrap, hread, hwrite,
        attempt_none, attempt_skipped hvalue, attempt_skipped hpermissions]
  | listMetadata => rfl
  | read id => rfl
  | metadata id => rfl

/-- A file of metadata that was there before changes nothing about the pairs. -/
theorem paired_putMetadata {id : SecretId} {text old : J}
    (hget : store.directory.metadataFiles.get id = some old) :
    (store.putMetadata id text).directory.Paired ↔ store.directory.Paired := by
  have hmetadata : ∀ other, ((store.putMetadata id text).directory.metadataFiles.get other).isSome =
      (store.directory.metadataFiles.get other).isSome := by
    intro other
    simp only [putMetadata, Table.get_put]
    split
    case isTrue heq => rw [heq, hget]; rfl
    case isFalse => rfl
  simp only [SecretDirectory.Paired, hmetadata]
  exact Iff.rfl

/-- The metadata of a secret that can be read is in the file of its id. -/
theorem Named.readMetadata (hnamed : store.Named json) {id : SecretId}
    {entry : StoredSecretMetadata} (hread : store.readMetadata json id = .ok entry) :
    entry.metadata.id = id ∧ ∃ old, store.directory.metadataFiles.get id = some old := by
  obtain ⟨old, hold, hreads⟩ := isSome_of_readMetadata hread
  obtain ⟨entry', hreads', hid⟩ := hnamed id old hold
  obtain rfl := Option.some.inj (hreads.symm.trans hreads')
  exact ⟨hid, old, hold⟩

theorem paired_create (hpaired : store.directory.Paired) (request : CreateSecret) :
    (store.create json aead none request moment).2.directory.Paired := by
  cases hstored : request.stored moment with
  | error error => simpa only [EncryptedFileSecretStore.create, hstored] using hpaired
  | ok stored =>
    obtain ⟨text, payload, -, -, hcreate⟩ := create_eq json aead store hstored
    simp only [hcreate, attempt_none]
    intro id
    simp only [putMetadata, putValue, Table.get_put]
    split
    case isTrue => rfl
    case isFalse => exact hpaired id

theorem paired_update (hnamed : store.Named json) (hpaired : store.directory.Paired)
    (id : SecretId) (value : SecretValue) :
    (store.update json aead none id value moment).2.directory.Paired := by
  cases hread : store.readMetadata json id with
  | error error => simpa only [EncryptedFileSecretStore.update, hread] using hpaired
  | ok entry =>
    by_cases hactive : entry.status = .active
    · obtain ⟨payload, text, -, -, heq⟩ := update_eq aead value moment hread hactive
      obtain ⟨hid, old, hold⟩ := Named.readMetadata hnamed hread
      obtain ⟨payload', hvalue⟩ := value_of_paired hpaired hold
      have hwritten : (store.putValue id payload).directory.metadataFiles.get id = some old := hold
      simp only [heq, attempt_none]
      rw [hid]
      exact (paired_putMetadata hwritten).mpr ((paired_putValue hvalue).mpr hpaired)
    · simpa only [EncryptedFileSecretStore.update, hread, ne_eq, hactive, not_false_eq_true,
        if_true] using hpaired

theorem paired_revoke (hnamed : store.Named json) (hpaired : store.directory.Paired)
    (id : SecretId) : (store.revoke json none id moment).2.directory.Paired := by
  cases hread : store.readMetadata json id with
  | error error => simpa only [EncryptedFileSecretStore.revoke, hread] using hpaired
  | ok entry =>
    obtain ⟨text, -, hrevoke⟩ := revoke_eq moment hread
    obtain ⟨hid, old, hold⟩ := Named.readMetadata hnamed hread
    simp only [hrevoke, attempt_none]
    rw [hid]
    exact (paired_putMetadata hold).mpr hpaired

theorem paired_delete (hpaired : store.directory.Paired) (id : SecretId) :
    (store.delete json none id).2.directory.Paired := by
  cases hread : store.readMetadata json id with
  | error error => simpa only [EncryptedFileSecretStore.delete, hread] using hpaired
  | ok entry =>
    obtain ⟨text, htext, -⟩ := isSome_of_readMetadata hread
    obtain ⟨payload, hvalue⟩ := value_of_paired hpaired htext
    simp only [EncryptedFileSecretStore.delete, hread, removeValue, removeMetadata, attempt_none,
      hvalue, htext]
    intro other
    simp only [Table.get_remove]
    split
    case isTrue => rfl
    case isFalse => exact hpaired other

theorem paired_rewrap (hpaired : store.directory.Paired) (id : SecretId) :
    (store.rewrap json aead none id moment).2.directory.Paired := by
  cases hread : store.read json aead id with
  | error error => simpa only [EncryptedFileSecretStore.rewrap, hread] using hpaired
  | ok value =>
    obtain ⟨payload, -, hwrite⟩ := writeEncrypted_eq aead store id value moment.nonce
    obtain ⟨_, old, -, -, hget, -⟩ := of_read hread
    simp only [EncryptedFileSecretStore.rewrap, hread, hwrite, attempt_none]
    exact (paired_putValue hget).mpr hpaired

/-- A call of which no step fails keeps the files paired. -/
theorem paired_apply (hnamed : store.Named json) (hpaired : store.directory.Paired)
    (call : SecretCall) : (store.apply json aead none moment call).2.directory.Paired := by
  cases call with
  | create request => exact paired_create hpaired request
  | update id value => exact paired_update hnamed hpaired id value
  | rotate id value => exact paired_update hnamed hpaired id value
  | revoke id => exact paired_revoke hnamed hpaired id
  | delete id => exact paired_delete hpaired id
  | rewrap id => exact paired_rewrap hpaired id
  | listMetadata => exact hpaired
  | read id => exact hpaired
  | metadata id => exact hpaired

/-- **As long as calls survive their failures, the files stay paired.** -/
theorem paired_of_reach (h : (fileMachine json aead).Reach (Survives json aead) store) :
    store.directory.Paired := by
  refine h.invariant (I := fun store => store.directory.Paired) ?_ ?_
  · intro store hinit id
    rw [show store.directory = ⟨∅, ∅⟩ from hinit]
    rfl
  · intro store action store' hreach hpaired hsurvives hstep
    cases action with
    | call call moment fault =>
      simp only [fileMachine] at hstep
      split at hstep
      case isFalse => cases hstep
      case isTrue hfresh =>
        rw [← Option.some.inj hstep]
        cases fault with
        | none => exact paired_apply (named_of_reach hreach) hpaired call
        | some fault =>
          by_cases hcomes : fault.step ∈ call.fileSteps json aead store moment
          · exact (undone_of_survives hfresh hcomes hpaired (hsurvives hcomes)).paired
          · rw [apply_skipped hcomes]
            exact paired_apply (named_of_reach hreach) hpaired call
    | reopen currentKey previousKeys =>
      obtain rfl := Option.some.inj hstep
      exact hpaired

end Lxcup.Secrets
