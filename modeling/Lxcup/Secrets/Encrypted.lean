import Lxcup.Lib.Machine
import Lxcup.Lib.Utf8
import Lxcup.Secrets.Store

/-!
# The store in encrypted files

A secret is two files of a directory: what is known about it as JSON, and its value encrypted
under a master key.  A call takes up to three steps on files, and at most one of them fails.
The encryption and the JSON come with the laws that the store relies on.

## Main definitions

* `Aead`, `MetadataJson` — the parts that are taken from elsewhere, with their laws.
* `SecretDirectory`, `copyEncryptedSecrets` — the two files of each secret, and the copy of all
  of them for a backup.
* `FileStep`, `Fault`, `attempt` — the steps on files, and the one that fails.
* `EncryptedFileSecretStore` with the calls of a store, and `rewrap`;
  `EncryptedFileSecretStore.apply` — any of them.
* `fileMachine` — calls and reopenings, one after the other.

## Main results

* `EncryptedFileSecretStore.decrypt_seal` — a value is read back with a key that it was encrypted
  under, wherever the key stands.
* `copyEncryptedSecrets_isSome` — a backup is taken of paired files, and of no others.
* `named_of_reach` — the JSON of a secret is readable and has the id of its file.
-/

namespace Lxcup.Secrets

open Lxcup.Lib Lxcup.Core

/-! ### Encryption and JSON -/

/-- A 256-bit master key. -/
structure SecretMasterKey where
  bytes : Vector UInt8 32
  deriving DecidableEq

/-- Authenticated encryption. -/
structure Aead where
  encrypt : SecretMasterKey → Nonce → List UInt8 → Option (List UInt8)
  decrypt : SecretMasterKey → Nonce → List UInt8 → Option (List UInt8)
  /-- Texts are encrypted unless they are very long. -/
  encrypts : ∀ key nonce text, text.length < 2 ^ 38 - 64 → (encrypt key nonce text).isSome = true
  /-- The same key and nonce give the text back. -/
  opens : ∀ key nonce text ciphertext, encrypt key nonce text = some ciphertext →
    decrypt key nonce ciphertext = some text
  /-- Another key gives nothing. -/
  refuses : ∀ key other nonce text ciphertext, encrypt key nonce text = some ciphertext →
    other ≠ key → decrypt other nonce ciphertext = none
  /-- A ciphertext carries a tag. -/
  tagged : ∀ key nonce text ciphertext, encrypt key nonce text = some ciphertext →
    ciphertext ≠ []

/-- Entries as JSON. -/
structure MetadataJson (J : Type) where
  toVec : StoredSecretMetadata → Option J
  fromSlice : J → Option StoredSecretMetadata
  writes : ∀ entry, (toVec entry).isSome = true
  /-- An entry is read back. -/
  reads : ∀ entry text, toVec entry = some text → fromSlice text = some entry

/-! ### The directory -/

/-- The files `<uuid>.json` and `<uuid>.enc` of a directory. -/
structure SecretDirectory (J : Type) where
  metadataFiles : Table SecretId J
  valueFiles : Table SecretId (List UInt8)

/-- The two kinds of files. -/
inductive FileExtension
  | json | enc
  deriving DecidableEq, Repr, Inhabited

/-- The name of a file. -/
structure FileName where
  id : SecretId
  extension : FileExtension
  deriving DecidableEq, Repr

variable {J : Type}

namespace SecretDirectory

/-- The names of all files. -/
def names (directory : SecretDirectory J) : List FileName :=
  directory.metadataFiles.keys.map (⟨·, .json⟩) ++ directory.valueFiles.keys.map (⟨·, .enc⟩)

/-- Every secret has both of its files. -/
def Paired (directory : SecretDirectory J) : Prop :=
  ∀ id, (directory.metadataFiles.get id).isSome = (directory.valueFiles.get id).isSome

end SecretDirectory

/-- Collect the ids of the two kinds of files; a repeated one is an error. -/
def collectIds : List FileName → List SecretId → List SecretId →
    Option (List SecretId × List SecretId)
  | [], metadataIds, ciphertextIds => some (metadataIds, ciphertextIds)
  | name :: names, metadataIds, ciphertextIds =>
    match name.extension with
    | .json =>
      if name.id ∈ metadataIds then none
      else collectIds names (name.id :: metadataIds) ciphertextIds
    | .enc =>
      if name.id ∈ ciphertextIds then none
      else collectIds names metadataIds (name.id :: ciphertextIds)

/-- Copy the files of a store for a backup; a file without its partner makes the whole backup
unavailable. -/
def copyEncryptedSecrets (source : SecretDirectory J) : Option (SecretDirectory J) :=
  match collectIds source.names [] [] with
  | none => none
  | some (metadataIds, ciphertextIds) =>
    if metadataIds ⊆ ciphertextIds ∧ ciphertextIds ⊆ metadataIds then some source else none

/-! ### Steps on files -/

/-- The steps on files. -/
inductive FileStep
  | writeMetadata | writeValue | setPermissions | removeValue | removeMetadata
  deriving DecidableEq, Repr, Inhabited

/-- The kinds of failures that are told apart. -/
inductive IoErrorKind
  | notFound | permissionDenied | other
  deriving DecidableEq, Repr, Inhabited

def mapIoError : IoErrorKind → SecretStoreError
  | .notFound => .missing
  | .permissionDenied => .denied
  | .other => .unavailable

/-- The step of a call that fails, and how. -/
structure Fault where
  step : FileStep
  kind : IoErrorKind
  deriving DecidableEq, Repr

/-- Whether a step succeeds. -/
def attempt (fault : Option Fault) (step : FileStep) : Except SecretStoreError Unit :=
  match fault with
  | none => .ok ()
  | some fault => if fault.step = step then .error (mapIoError fault.kind) else .ok ()

@[simp] theorem attempt_none (step : FileStep) : attempt none step = .ok () := rfl

@[simp] theorem attempt_some (step step' : FileStep) (kind : IoErrorKind) :
    attempt (some ⟨step, kind⟩) step' =
      if step = step' then .error (mapIoError kind) else .ok () := rfl

/-! ### The store -/

/-- The beginning of an encrypted value. -/
def header : List UInt8 := utf8Bytes "LXCUPENC1"

/-- The provider that encrypts values into files. -/
structure EncryptedFileSecretStore (J : Type) where
  currentKey : SecretMasterKey
  previousKeys : List SecretMasterKey
  directory : SecretDirectory J

namespace EncryptedFileSecretStore

section

variable (json : MetadataJson J) (aead : Aead) (fault : Option Fault)
  (store : EncryptedFileSecretStore J)

/-- The store with a file of metadata written. -/
def putMetadata (id : SecretId) (text : J) : EncryptedFileSecretStore J :=
  { store with directory :=
      { store.directory with metadataFiles := store.directory.metadataFiles.put id text } }

/-- The store with the file of a value written. -/
def putValue (id : SecretId) (payload : List UInt8) : EncryptedFileSecretStore J :=
  { store with directory :=
      { store.directory with valueFiles := store.directory.valueFiles.put id payload } }

def readMetadata (id : SecretId) : Except SecretStoreError StoredSecretMetadata :=
  match store.directory.metadataFiles.get id with
  | none => .error (mapIoError .notFound)
  | some text =>
    match json.fromSlice text with
    | none => .error .invalid
    | some entry => .ok entry

def writeMetadata (entry : StoredSecretMetadata) :
    Except SecretStoreError Unit × EncryptedFileSecretStore J :=
  match json.toVec entry with
  | none => (.error .invalid, store)
  | some text =>
    match attempt fault .writeMetadata with
    | .error error => (.error error, store)
    | .ok () => (.ok (), store.putMetadata entry.metadata.id text)

/-- The file of a value is written, then made private. -/
def writeSecretBytes (id : SecretId) (payload : List UInt8) :
    Except SecretStoreError Unit × EncryptedFileSecretStore J :=
  match attempt fault .writeValue with
  | .error error => (.error error, store)
  | .ok () => (attempt fault .setPermissions, store.putValue id payload)

def writeEncrypted (id : SecretId) (value : SecretValue) (nonce : Nonce) :
    Except SecretStoreError Unit × EncryptedFileSecretStore J :=
  match aead.encrypt store.currentKey nonce (utf8Bytes value.value) with
  | none => (.error .unavailable, store)
  | some ciphertext => store.writeSecretBytes fault id (header ++ nonce.val ++ ciphertext)

/-- Remove the file of a value. -/
def removeValue (id : SecretId) : Except SecretStoreError Unit × EncryptedFileSecretStore J :=
  match attempt fault .removeValue with
  | .error error => (.error error, store)
  | .ok () =>
    match store.directory.valueFiles.get id with
    | none => (.error (mapIoError .notFound), store)
    | some _ =>
      (.ok (), { store with directory :=
        { store.directory with valueFiles := store.directory.valueFiles.remove id } })

/-- Remove the file of metadata. -/
def removeMetadata (id : SecretId) : Except SecretStoreError Unit × EncryptedFileSecretStore J :=
  match attempt fault .removeMetadata with
  | .error error => (.error error, store)
  | .ok () =>
    match store.directory.metadataFiles.get id with
    | none => (.error (mapIoError .notFound), store)
    | some _ =>
      (.ok (), { store with directory :=
        { store.directory with metadataFiles := store.directory.metadataFiles.remove id } })

/-- Try the keys one after the other. -/
def decryptWith (nonce : Nonce) (ciphertext : List UInt8) :
    List SecretMasterKey → Except SecretStoreError SecretValue
  | [] => .error .denied
  | key :: keys =>
    match aead.decrypt key nonce ciphertext with
    | none => decryptWith nonce ciphertext keys
    | some bytes =>
      match fromUtf8 bytes with
      | none => .error .invalid
      | some text =>
        match SecretValue.new text with
        | .error _ => .error .invalid
        | .ok value => .ok value

/-- The value in a file: the current key is tried first. -/
def decrypt (payload : List UInt8) : Except SecretStoreError SecretValue :=
  if hlong : header.isPrefixOf payload = true ∧ payload.length > header.length + 24 then
    decryptWith aead
      ⟨(payload.drop header.length).take 24, by
        rw [List.length_take, List.length_drop]
        omega⟩
      (payload.drop (header.length + 24)) (store.currentKey :: store.previousKeys)
  else .error .invalid

/-- The entries of all files of metadata. -/
def listMetadata : SecretOutcome :=
  match store.directory.metadataFiles.values.mapM json.fromSlice with
  | none => .error .invalid
  | some entries => .ok (.listed (sortByName entries))

/-- When the value cannot be written, the metadata is taken away again; whether that succeeds is
not looked at. -/
def create (request : CreateSecret) (moment : Moment) :
    SecretOutcome × EncryptedFileSecretStore J :=
  match request.stored moment with
  | .error error => (.error error, store)
  | .ok stored =>
    match store.writeMetadata json fault stored with
    | (.error error, store) => (.error error, store)
    | (.ok (), store) =>
      match store.writeEncrypted aead fault stored.metadata.id request.value moment.nonce with
      | (.error error, store) =>
        (.error error, (store.removeMetadata fault stored.metadata.id).2)
      | (.ok (), store) => (.ok (.metadata stored), store)

def read (id : SecretId) : Except SecretStoreError SecretValue :=
  match store.readMetadata json id with
  | .error error => .error error
  | .ok entry =>
    if entry.status ≠ .active then .error .denied
    else
      match store.directory.valueFiles.get id with
      | none => .error (mapIoError .notFound)
      | some payload => store.decrypt aead payload

/-- The value is written before the time of its change. -/
def update (id : SecretId) (value : SecretValue) (moment : Moment) :
    SecretOutcome × EncryptedFileSecretStore J :=
  match store.readMetadata json id with
  | .error error => (.error error, store)
  | .ok entry =>
    if entry.status ≠ .active then (.error .denied, store)
    else
      match store.writeEncrypted aead fault id value moment.nonce with
      | (.error error, store) => (.error error, store)
      | (.ok (), store) =>
        let written := store.writeMetadata json fault (entry.touch moment.now)
        (written.1.map fun _ => .done, written.2)

def rotate (id : SecretId) (value : SecretValue) (moment : Moment) :
    SecretOutcome × EncryptedFileSecretStore J :=
  store.update json aead fault id value moment

def revoke (id : SecretId) (moment : Moment) : SecretOutcome × EncryptedFileSecretStore J :=
  match store.readMetadata json id with
  | .error error => (.error error, store)
  | .ok entry =>
    let written := store.writeMetadata json fault (entry.revoke moment.now)
    (written.1.map fun _ => .done, written.2)

/-- The value is removed before the metadata. -/
def delete (id : SecretId) : SecretOutcome × EncryptedFileSecretStore J :=
  match store.readMetadata json id with
  | .error error => (.error error, store)
  | .ok _ =>
    match store.removeValue fault id with
    | (.error error, store) => (.error error, store)
    | (.ok (), store) =>
      let removed := store.removeMetadata fault id
      (removed.1.map fun _ => .done, removed.2)

/-- Encrypt a value anew, under the current key. -/
def rewrap (id : SecretId) (moment : Moment) : SecretOutcome × EncryptedFileSecretStore J :=
  match store.read json aead id with
  | .error error => (.error error, store)
  | .ok value =>
    let written := store.writeEncrypted aead fault id value moment.nonce
    (written.1.map fun _ => .done, written.2)

/-- The answer to a call, and the store after it. -/
def apply (moment : Moment) : SecretCall → SecretOutcome × EncryptedFileSecretStore J
  | .listMetadata => (store.listMetadata json, store)
  | .create request => store.create json aead fault request moment
  | .read id => ((store.read json aead id).map .value, store)
  | .metadata id => ((store.readMetadata json id).map .metadata, store)
  | .update id value => store.update json aead fault id value moment
  | .rotate id value => store.rotate json aead fault id value moment
  | .revoke id => store.revoke json fault id moment
  | .delete id => store.delete json fault id
  | .rewrap id => store.rewrap json aead fault id moment

end

end EncryptedFileSecretStore

/-! ### Backups -/

/-- Ids that are all different, and new, are collected. -/
theorem collectIds_json {ids : List SecretId} {names : List FileName}
    {metadataIds ciphertextIds : List SecretId} (hnodup : ids.Nodup)
    (hnew : ∀ id ∈ ids, id ∉ metadataIds) :
    collectIds (ids.map (⟨·, .json⟩) ++ names) metadataIds ciphertextIds =
      collectIds names (ids.reverse ++ metadataIds) ciphertextIds := by
  induction ids generalizing metadataIds with
  | nil => rfl
  | cons id ids ih =>
    obtain ⟨hid, hrest⟩ := List.nodup_cons.mp hnodup
    have hnext : ∀ other ∈ ids, other ∉ id :: metadataIds := by
      intro other hother hmem
      rcases List.mem_cons.mp hmem with rfl | hold
      · exact hid hother
      · exact hnew other (List.mem_cons_of_mem _ hother) hold
    simp only [List.map_cons, List.cons_append, collectIds, if_neg (hnew id List.mem_cons_self)]
    rw [ih hrest hnext, List.reverse_cons, List.append_assoc]
    rfl

theorem collectIds_enc {ids metadataIds ciphertextIds : List SecretId} (hnodup : ids.Nodup)
    (hnew : ∀ id ∈ ids, id ∉ ciphertextIds) :
    collectIds (ids.map (⟨·, .enc⟩)) metadataIds ciphertextIds =
      some (metadataIds, ids.reverse ++ ciphertextIds) := by
  induction ids generalizing ciphertextIds with
  | nil => rfl
  | cons id ids ih =>
    obtain ⟨hid, hrest⟩ := List.nodup_cons.mp hnodup
    have hnext : ∀ other ∈ ids, other ∉ id :: ciphertextIds := by
      intro other hother hmem
      rcases List.mem_cons.mp hmem with rfl | hold
      · exact hid hother
      · exact hnew other (List.mem_cons_of_mem _ hother) hold
    simp only [List.map_cons, collectIds, if_neg (hnew id List.mem_cons_self)]
    rw [ih hrest hnext, List.reverse_cons, List.append_assoc]
    rfl

theorem mem_keys_iff {ν : Type} {m : Table SecretId ν} {id : SecretId} :
    id ∈ m.keys ↔ (m.get id).isSome = true := by
  rw [← AList.mem_keys]
  exact (AList.lookup_isSome).symm

/-- **A backup is taken of paired files**, and of no others. -/
theorem copyEncryptedSecrets_isSome {directory : SecretDirectory J} :
    (copyEncryptedSecrets directory).isSome = true ↔ directory.Paired := by
  have hmetadata : directory.metadataFiles.keys.Nodup := directory.metadataFiles.nodupKeys
  have hvalues : directory.valueFiles.keys.Nodup := directory.valueFiles.nodupKeys
  have hcollect : collectIds directory.names [] [] =
      some (directory.metadataFiles.keys.reverse, directory.valueFiles.keys.reverse) := by
    rw [SecretDirectory.names, collectIds_json hmetadata fun _ _ => List.not_mem_nil,
      collectIds_enc hvalues fun _ _ => List.not_mem_nil, List.append_nil, List.append_nil]
  have hsame : (directory.metadataFiles.keys.reverse ⊆ directory.valueFiles.keys.reverse ∧
      directory.valueFiles.keys.reverse ⊆ directory.metadataFiles.keys.reverse) ↔
        directory.Paired := by
    simp only [List.subset_def, List.mem_reverse, mem_keys_iff]
    constructor
    · rintro ⟨hleft, hright⟩ id
      exact Bool.eq_iff_iff.mpr ⟨fun h => hleft h, fun h => hright h⟩
    · intro h
      exact ⟨fun {id} hid => h id ▸ hid, fun {id} hid => h id ▸ hid⟩
  rw [← hsame]
  simp only [copyEncryptedSecrets, hcollect]
  split
  case isTrue hboth => exact iff_of_true rfl hboth
  case isFalse hother => exact iff_of_false (by simp) hother

/-! ### Values -/

/-- The payload is the value, encrypted under the key. -/
def Seals (aead : Aead) (key : SecretMasterKey) (value : SecretValue) (payload : List UInt8) :
    Prop :=
  ∃ nonce ciphertext, aead.encrypt key nonce (utf8Bytes value.value) = some ciphertext ∧
    payload = header ++ nonce.val ++ ciphertext

/-- Every value can be encrypted: it is not long enough for a failure. -/
theorem Aead.encrypts_value (aead : Aead) (key : SecretMasterKey) (nonce : Nonce)
    (value : SecretValue) :
    ∃ ciphertext, aead.encrypt key nonce (utf8Bytes value.value) = some ciphertext := by
  refine Option.isSome_iff_exists.mp (aead.encrypts key nonce _ ?_)
  have hlength := length_utf8Bytes_le value.value
  have hbounded := value.bounded
  omega

namespace EncryptedFileSecretStore

variable {json : MetadataJson J} {aead : Aead} {store : EncryptedFileSecretStore J}

/-- The other keys fail, the key of the value opens it. -/
theorem decryptWith_seal {key : SecretMasterKey} {nonce : Nonce} {value : SecretValue}
    {ciphertext : List UInt8} {keys : List SecretMasterKey}
    (hseal : aead.encrypt key nonce (utf8Bytes value.value) = some ciphertext)
    (hkey : key ∈ keys) : decryptWith aead nonce ciphertext keys = .ok value := by
  induction keys with
  | nil => cases hkey
  | cons other keys ih =>
    by_cases hother : other = key
    · subst hother
      simp [decryptWith, aead.opens _ _ _ _ hseal]
    · have hrest : key ∈ keys := by
        rcases List.mem_cons.mp hkey with rfl | hrest
        · exact absurd rfl hother
        · exact hrest
      simp only [decryptWith, aead.refuses _ _ _ _ _ hseal hother]
      exact ih hrest

/-- **A value is read back** with the key that it was encrypted under, wherever the key stands. -/
theorem decrypt_seal {key : SecretMasterKey} {value : SecretValue} {payload : List UInt8}
    (hseal : Seals aead key value payload) (hkey : key ∈ store.currentKey :: store.previousKeys) :
    store.decrypt aead payload = .ok value := by
  obtain ⟨nonce, ciphertext, hencrypt, rfl⟩ := hseal
  have htag : 0 < ciphertext.length :=
    List.length_pos_iff.mpr (aead.tagged _ _ _ _ hencrypt)
  have hlong : header.isPrefixOf (header ++ nonce.val ++ ciphertext) = true ∧
      (header ++ nonce.val ++ ciphertext).length > header.length + 24 := by
    constructor
    · rw [List.isPrefixOf_iff_prefix, List.append_assoc]
      exact List.prefix_append _ _
    · simp only [List.length_append, nonce.property]
      omega
  have hnonce : ((header ++ nonce.val ++ ciphertext).drop header.length).take 24 = nonce.val := by
    rw [List.append_assoc, List.drop_left, List.take_left' nonce.property]
  have hciphertext : (header ++ nonce.val ++ ciphertext).drop (header.length + 24) = ciphertext := by
    rw [← List.drop_drop, List.append_assoc, List.drop_left, List.drop_left' nonce.property]
  have hopen := decryptWith_seal hencrypt hkey
  simp only [decrypt, dif_pos hlong, hciphertext]
  simpa only [hnonce] using hopen

/-! ### What the steps do -/

/-- Writing metadata, unless the step fails. -/
theorem writeMetadata_eq (json : MetadataJson J) (store : EncryptedFileSecretStore J)
    (entry : StoredSecretMetadata) :
    ∃ text, json.fromSlice text = some entry ∧ ∀ fault,
      store.writeMetadata json fault entry =
        match attempt fault .writeMetadata with
        | .error error => (.error error, store)
        | .ok () => (.ok (), store.putMetadata entry.metadata.id text) := by
  obtain ⟨text, htext⟩ := Option.isSome_iff_exists.mp (json.writes entry)
  refine ⟨text, json.reads _ _ htext, fun fault => ?_⟩
  simp only [writeMetadata, htext]

/-- Writing a value, unless one of the two steps fails. -/
theorem writeEncrypted_eq (aead : Aead) (store : EncryptedFileSecretStore J) (id : SecretId)
    (value : SecretValue) (nonce : Nonce) :
    ∃ payload, Seals aead store.currentKey value payload ∧ ∀ fault,
      store.writeEncrypted aead fault id value nonce =
        match attempt fault .writeValue with
        | .error error => (.error error, store)
        | .ok () => (attempt fault .setPermissions, store.putValue id payload) := by
  obtain ⟨ciphertext, hencrypt⟩ := aead.encrypts_value store.currentKey nonce value
  refine ⟨_, ⟨nonce, ciphertext, hencrypt, rfl⟩, fun fault => ?_⟩
  simp only [writeEncrypted, hencrypt, writeSecretBytes]

/-- A new secret: metadata, value, permissions. -/
theorem create_eq (json : MetadataJson J) (aead : Aead) (store : EncryptedFileSecretStore J)
    {request : CreateSecret} {moment : Moment} {stored : StoredSecretMetadata}
    (hstored : request.stored moment = .ok stored) :
    ∃ text payload, json.fromSlice text = some stored ∧
      Seals aead store.currentKey request.value payload ∧ ∀ fault,
      store.create json aead fault request moment =
        match attempt fault .writeMetadata with
        | .error error => (.error error, store)
        | .ok () =>
          let written := store.putMetadata stored.metadata.id text
          match attempt fault .writeValue with
          | .error error => (.error error, (written.removeMetadata fault stored.metadata.id).2)
          | .ok () =>
            let written := written.putValue stored.metadata.id payload
            match attempt fault .setPermissions with
            | .error error => (.error error, (written.removeMetadata fault stored.metadata.id).2)
            | .ok () => (.ok (.metadata stored), written) := by
  obtain ⟨text, hreads, hwrite⟩ := writeMetadata_eq json store stored
  obtain ⟨payload, hseals, hencrypt⟩ := writeEncrypted_eq aead
    (store.putMetadata stored.metadata.id text) stored.metadata.id request.value moment.nonce
  refine ⟨text, payload, hreads, hseals, fun fault => ?_⟩
  simp only [create, hstored, hwrite]
  cases attempt fault .writeMetadata with
  | error error => rfl
  | ok _ =>
    simp only [hencrypt]
    cases attempt fault .writeValue with
    | error error => rfl
    | ok _ => cases attempt fault .setPermissions <;> rfl

/-- A new value of an active secret: value, permissions, metadata. -/
theorem update_eq (aead : Aead) {id : SecretId} {entry : StoredSecretMetadata}
    (value : SecretValue) (moment : Moment) (hread : store.readMetadata json id = .ok entry)
    (hactive : entry.status = .active) :
    ∃ payload text, Seals aead store.currentKey value payload ∧
      json.fromSlice text = some (entry.touch moment.now) ∧ ∀ fault,
      store.update json aead fault id value moment =
        match attempt fault .writeValue with
        | .error error => (.error error, store)
        | .ok () =>
          let written := store.putValue id payload
          match attempt fault .setPermissions with
          | .error error => (.error error, written)
          | .ok () =>
            match attempt fault .writeMetadata with
            | .error error => (.error error, written)
            | .ok () => (.ok .done, written.putMetadata entry.metadata.id text) := by
  obtain ⟨payload, hseals, hencrypt⟩ := writeEncrypted_eq aead store id value moment.nonce
  obtain ⟨text, hreads, hwrite⟩ := writeMetadata_eq json (store.putValue id payload)
    (entry.touch moment.now)
  refine ⟨payload, text, hseals, hreads, fun fault => ?_⟩
  simp only [update, hread, hactive, ne_eq, not_true_eq_false, if_false, hencrypt]
  cases attempt fault .writeValue with
  | error error => rfl
  | ok _ =>
    cases attempt fault .setPermissions with
    | error error => rfl
    | ok _ =>
      simp only [hwrite]
      cases attempt fault .writeMetadata <;> rfl

/-- A revocation writes the metadata and nothing else. -/
theorem revoke_eq {id : SecretId} {entry : StoredSecretMetadata} (moment : Moment)
    (hread : store.readMetadata json id = .ok entry) :
    ∃ text, json.fromSlice text = some (entry.revoke moment.now) ∧ ∀ fault,
      store.revoke json fault id moment =
        match attempt fault .writeMetadata with
        | .error error => (.error error, store)
        | .ok () => (.ok .done, store.putMetadata entry.metadata.id text) := by
  obtain ⟨text, hreads, hwrite⟩ := writeMetadata_eq json store (entry.revoke moment.now)
  refine ⟨text, hreads, fun fault => ?_⟩
  simp only [revoke, hread, hwrite]
  cases attempt fault .writeMetadata <;> rfl

/-- The ways in which a directory ever changes: JSON is written under the id that it holds. -/
inductive FileMove (json : MetadataJson J) (store : EncryptedFileSecretStore J) :
    EncryptedFileSecretStore J → Prop
  | putMetadata {entry : StoredSecretMetadata} {text : J}
      (reads : json.fromSlice text = some entry) :
      FileMove json store (store.putMetadata entry.metadata.id text)
  | putValue {id : SecretId} {payload : List UInt8} : FileMove json store (store.putValue id payload)
  | dropMetadata {id : SecretId} : FileMove json store { store with directory :=
      { store.directory with metadataFiles := store.directory.metadataFiles.remove id } }
  | dropValue {id : SecretId} : FileMove json store { store with directory :=
      { store.directory with valueFiles := store.directory.valueFiles.remove id } }

open Relation

variable {fault : Option Fault}

theorem moves_writeMetadata (entry : StoredSecretMetadata) :
    ReflTransGen (FileMove json) store (store.writeMetadata json fault entry).2 := by
  obtain ⟨text, hreads, hwrite⟩ := writeMetadata_eq json store entry
  rw [hwrite]
  cases attempt fault .writeMetadata with
  | error error => exact .refl
  | ok _ => exact .single (.putMetadata hreads)

theorem moves_writeEncrypted (id : SecretId) (value : SecretValue) (nonce : Nonce) :
    ReflTransGen (FileMove json) store (store.writeEncrypted aead fault id value nonce).2 := by
  obtain ⟨payload, -, hwrite⟩ := writeEncrypted_eq aead store id value nonce
  rw [hwrite]
  cases attempt fault .writeValue with
  | error error => exact .refl
  | ok _ => exact .single .putValue

theorem moves_removeValue (id : SecretId) :
    ReflTransGen (FileMove json) store (store.removeValue fault id).2 := by
  unfold removeValue
  cases attempt fault .removeValue with
  | error error => exact .refl
  | ok _ =>
    cases store.directory.valueFiles.get id with
    | none => exact .refl
    | some payload => exact .single .dropValue

theorem moves_removeMetadata (id : SecretId) :
    ReflTransGen (FileMove json) store (store.removeMetadata fault id).2 := by
  unfold removeMetadata
  cases attempt fault .removeMetadata with
  | error error => exact .refl
  | ok _ =>
    cases store.directory.metadataFiles.get id with
    | none => exact .refl
    | some text => exact .single .dropMetadata

theorem moves_create (request : CreateSecret) (moment : Moment) :
    ReflTransGen (FileMove json) store (store.create json aead fault request moment).2 := by
  unfold create
  cases request.stored moment with
  | error error => exact .refl
  | ok stored =>
    have hmetadata := @moves_writeMetadata J json store fault stored
    rcases hwrite : store.writeMetadata json fault stored with ⟨error | _, written⟩
    · simpa [hwrite] using hmetadata
    · have hvalue := @moves_writeEncrypted J json aead written fault stored.metadata.id
        request.value moment.nonce
      rw [hwrite] at hmetadata
      rcases hencrypt : written.writeEncrypted aead fault stored.metadata.id request.value
        moment.nonce with ⟨error | _, sealed⟩
      · rw [hencrypt] at hvalue
        simpa [hwrite, hencrypt] using (hmetadata.trans hvalue).trans (moves_removeMetadata _)
      · rw [hencrypt] at hvalue
        simpa [hwrite, hencrypt] using hmetadata.trans hvalue

theorem moves_update (id : SecretId) (value : SecretValue) (moment : Moment) :
    ReflTransGen (FileMove json) store (store.update json aead fault id value moment).2 := by
  unfold update
  cases store.readMetadata json id with
  | error error => exact .refl
  | ok entry =>
    by_cases hactive : entry.status = .active
    · have hvalue := @moves_writeEncrypted J json aead store fault id value moment.nonce
      rcases hencrypt : store.writeEncrypted aead fault id value moment.nonce with
        ⟨error | _, sealed⟩
      · rw [hencrypt] at hvalue
        simpa [hactive, hencrypt] using hvalue
      · rw [hencrypt] at hvalue
        simpa [hactive, hencrypt] using hvalue.trans (moves_writeMetadata _)
    · simpa [hactive] using ReflTransGen.refl

/-- **Every call changes the directory by moves only**, whatever fails. -/
theorem moves_apply (call : SecretCall) (moment : Moment) :
    ReflTransGen (FileMove json) store (store.apply json aead fault moment call).2 := by
  cases call with
  | listMetadata => exact .refl
  | create request => exact moves_create request moment
  | read id => exact .refl
  | metadata id => exact .refl
  | update id value => exact moves_update id value moment
  | rotate id value => exact moves_update id value moment
  | revoke id =>
    simp only [apply, revoke]
    cases store.readMetadata json id with
    | error error => exact .refl
    | ok entry => exact moves_writeMetadata _
  | delete id =>
    simp only [apply, delete]
    cases store.readMetadata json id with
    | error error => exact .refl
    | ok entry =>
      have hvalue := @moves_removeValue J json store fault id
      rcases hremove : store.removeValue fault id with ⟨error | _, removed⟩
      · rw [hremove] at hvalue
        exact hvalue
      · rw [hremove] at hvalue
        exact hvalue.trans (moves_removeMetadata _)
  | rewrap id =>
    simp only [apply, rewrap]
    cases store.read json aead id with
    | error error => exact .refl
    | ok value => exact moves_writeEncrypted _ _ _

end EncryptedFileSecretStore

/-! ### Runs -/

/-- A new secret gets an id that no file has. -/
def SecretCall.fresh (call : SecretCall) (moment : Moment) (store : EncryptedFileSecretStore J) :
    Bool :=
  match call with
  | .create _ =>
    (store.directory.metadataFiles.get moment.newId).isNone &&
      (store.directory.valueFiles.get moment.newId).isNone
  | _ => true

/-- What happens to a directory: calls, of which a step may fail, and reopenings with other keys. -/
inductive SecretAction
  | call (call : SecretCall) (moment : Moment) (fault : Option Fault)
  | reopen (currentKey : SecretMasterKey) (previousKeys : List SecretMasterKey)

/-- The calls and reopenings of a directory, from an empty one. -/
def fileMachine (json : MetadataJson J) (aead : Aead) :
    Machine (EncryptedFileSecretStore J) SecretAction where
  init store := store.directory = ⟨∅, ∅⟩
  step store action :=
    match action with
    | .call call moment fault =>
      if call.fresh moment store then some (store.apply json aead fault moment call).2 else none
    | .reopen currentKey previousKeys =>
      some { store with currentKey := currentKey, previousKeys := previousKeys }

/-- The JSON of a secret is readable and has the id of its file. -/
def EncryptedFileSecretStore.Named (json : MetadataJson J) (store : EncryptedFileSecretStore J) :
    Prop :=
  ∀ id text, store.directory.metadataFiles.get id = some text →
    ∃ entry, json.fromSlice text = some entry ∧ entry.metadata.id = id

open EncryptedFileSecretStore

variable {json : MetadataJson J} {aead : Aead} {store store' : EncryptedFileSecretStore J}

theorem EncryptedFileSecretStore.Named.move (h : store.Named json)
    (hmove : FileMove json store store') : store'.Named json := by
  intro id text hget
  cases hmove with
  | putMetadata reads =>
    rcases Table.get_put_cases hget with ⟨rfl, rfl⟩ | ⟨-, hold⟩
    · exact ⟨_, reads, rfl⟩
    · exact h id text hold
  | putValue => exact h id text hget
  | @dropMetadata removed =>
    simp only [Table.get_remove] at hget
    split at hget
    case isTrue => cases hget
    case isFalse => exact h id text hget
  | dropValue => exact h id text hget

theorem EncryptedFileSecretStore.Named.moves (h : store.Named json)
    (hmoves : Relation.ReflTransGen (FileMove json) store store') : store'.Named json := by
  induction hmoves with
  | refl => exact h
  | tail _ hmove ih => exact ih.move hmove

/-- The metadata of every directory reached can be read. -/
theorem named_of_reach {ok : EncryptedFileSecretStore J → SecretAction → Prop}
    (h : (fileMachine json aead).Reach ok store) : store.Named json := by
  refine h.invariant (I := fun store => store.Named json) ?_ ?_
  · intro store hinit id text hget
    rw [show store.directory = ⟨∅, ∅⟩ from hinit] at hget
    cases hget
  · intro store action store' _ hnamed _ hstep
    cases action with
    | call call moment fault =>
      simp only [fileMachine] at hstep
      split at hstep
      case isTrue =>
        rw [← Option.some.inj hstep]
        exact hnamed.moves (moves_apply call moment)
      case isFalse => cases hstep
    | reopen currentKey previousKeys =>
      obtain rfl := Option.some.inj hstep
      exact hnamed

/-! ### An encryption and a JSON -/

/-- A ciphertext that begins with its key; nonces are not used. -/
def keyedAead : Aead where
  encrypt key _ text := some (key.bytes.toList ++ text)
  decrypt key _ ciphertext :=
    if key.bytes.toList.isPrefixOf ciphertext then some (ciphertext.drop 32) else none
  encrypts _ _ _ _ := rfl
  opens key nonce text ciphertext h := by
    obtain rfl := Option.some.inj h
    have hprefix : key.bytes.toList.isPrefixOf (key.bytes.toList ++ text) = true := by
      rw [List.isPrefixOf_iff_prefix]
      exact List.prefix_append _ _
    rw [if_pos hprefix, List.drop_left' key.bytes.length_toList]
  refuses key other nonce text ciphertext h hne := by
    obtain rfl := Option.some.inj h
    refine if_neg fun hprefix => hne ?_
    have hother := List.prefix_iff_eq_take.mp (List.isPrefixOf_iff_prefix.mp hprefix)
    rw [other.bytes.length_toList, List.take_left' key.bytes.length_toList] at hother
    have hbytes : other.bytes = key.bytes := Vector.toList_inj.mp hother
    cases other
    cases key
    exact congrArg SecretMasterKey.mk hbytes
  tagged key nonce text ciphertext h := by
    obtain rfl := Option.some.inj h
    intro hnil
    have hlength := congrArg List.length hnil
    rw [List.length_append, key.bytes.length_toList, List.length_nil] at hlength
    omega

/-- Entries as they are. -/
def plainJson : MetadataJson StoredSecretMetadata where
  toVec entry := some entry
  fromSlice entry := some entry
  writes _ := rfl
  reads _ _ h := h.symm

/-- The key that repeats a byte. -/
def repeatedKey (byte : UInt8) : SecretMasterKey := ⟨.replicate 32 byte⟩

/-- A secret for tests. -/
def connectionTest : CreateSecret where
  name := "connection-test"
  kind := .generic
  scope := .global
  value := ⟨"encrypted-secret", by decide, by decide⟩

/-- A moment with a fresh id. -/
def momentAt (id : BitVec 128) (now : Timestamp) : Moment where
  newId := ⟨⟨id⟩⟩
  nonce := ⟨.replicate 24 0, List.length_replicate⟩
  now := now

end Lxcup.Secrets
