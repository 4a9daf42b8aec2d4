import Lxcup.Lib.Lists
import Lxcup.Secrets.Encrypted

/-!
# The encrypted store answers like the one in memory

Two stores are given the same calls, each with its own clock; the directory is reopened under new
keys now and then.  What the directory holds is the content of the store in memory, with each
value under some key of the history.

## Main definitions

* `StoredSecretMetadata.untimed`, `SameOutcome` — answers that differ in their times only.
* `SideBySide`, `sideBySide` — the two stores and what happens to them.
* `HoldsRecord`, `SideBySide.Mirrors` — what the directory holds of the store in memory.

## Main results

* `SideBySide.Mirrors.sameOutcome` — mirrored stores give the same answers.
* `SideBySide.Mirrors.call` — every call keeps them mirrored.
* `sameOutcome_of_reach` — in every run, every call is answered alike.
-/

namespace Lxcup.Secrets

open Lxcup.Lib Lxcup.Core

/-! ### Answers without their times -/

/-- An entry without its times. -/
def StoredSecretMetadata.untimed (entry : StoredSecretMetadata) : StoredSecretMetadata :=
  { entry with metadata := { entry.metadata with
      createdAt := 0
      updatedAt := 0 } }

@[simp] theorem StoredSecretMetadata.untimed_status (entry : StoredSecretMetadata) :
    entry.untimed.status = entry.status := rfl

@[simp] theorem StoredSecretMetadata.untimed_id (entry : StoredSecretMetadata) :
    entry.untimed.metadata.id = entry.metadata.id := rfl

theorem StoredSecretMetadata.untimed_revoke {entry entry' : StoredSecretMetadata}
    (h : entry.untimed = entry'.untimed) (now now' : Timestamp) :
    (entry.revoke now).untimed = (entry'.revoke now').untimed := by
  simp only [untimed, StoredSecretMetadata.mk.injEq, SecretMetadata.mk.injEq] at h
  obtain ⟨⟨hid, hname, hkind, hscope, -, -⟩, -⟩ := h
  simp only [untimed, revoke, touch, hid, hname, hkind, hscope]

/-- Entries in the order of their names. -/
def SortedByName (entries : List StoredSecretMetadata) : Prop :=
  entries.Pairwise fun left right => left.metadata.name ≤ right.metadata.name

/-- The same answer, times aside; lists are the same up to the order of equal names. -/
inductive SameOutcome : SecretOutcome → SecretOutcome → Prop
  | error (error : SecretStoreError) : SameOutcome (.error error) (.error error)
  | done : SameOutcome (.ok .done) (.ok .done)
  | value (value : SecretValue) : SameOutcome (.ok (.value value)) (.ok (.value value))
  | metadata {entry entry' : StoredSecretMetadata} (same : entry.untimed = entry'.untimed) :
    SameOutcome (.ok (.metadata entry)) (.ok (.metadata entry'))
  | listed {entries entries' : List StoredSecretMetadata}
    (same : (entries.map (·.untimed)).Perm (entries'.map (·.untimed)))
    (sorted : SortedByName entries) (sorted' : SortedByName entries') :
    SameOutcome (.ok (.listed entries)) (.ok (.listed entries'))

theorem sortedByName_sortByName (entries : List StoredSecretMetadata) :
    SortedByName (sortByName entries) :=
  List.pairwise_insertionSort _ entries

theorem perm_sortByName (entries : List StoredSecretMetadata) :
    (sortByName entries).Perm entries :=
  List.perm_insertionSort _ entries

/-! ### Two stores -/

variable {J : Type}

/-- The two stores, with every key that has been current. -/
structure SideBySide (J : Type) where
  file : EncryptedFileSecretStore J
  memory : InMemorySecretStore
  used : List SecretMasterKey

/-- A call, with the clock of the store in memory, or a reopening of the directory. -/
inductive SideAction
  | call (call : SecretCall) (moment : Moment) (memoryNow : Timestamp)
  | reopen (currentKey : SecretMasterKey) (previousKeys : List SecretMasterKey)

/-- Calls of both stores without failures, and reopenings that know all keys of the history. -/
def sideBySide (json : MetadataJson J) (aead : Aead) : Machine (SideBySide J) SideAction where
  init s := s.file.directory = ⟨∅, ∅⟩ ∧ s.memory.records = ∅ ∧ s.used = [s.file.currentKey]
  step s action :=
    match action with
    | .call call moment memoryNow =>
      some { s with
        file := (s.file.apply json aead none moment call).2
        memory := (s.memory.apply { moment with now := memoryNow } call).2 }
    | .reopen currentKey previousKeys =>
      if s.used ⊆ previousKeys then
        some
          { s with
            file := { s.file with
              currentKey := currentKey
              previousKeys := previousKeys }
            used := currentKey :: s.used }
      else none

/-- The directory holds a record: its entry as JSON, its value under a key of the history. -/
structure HoldsRecord (json : MetadataJson J) (aead : Aead) (used : List SecretMasterKey)
    (directory : SecretDirectory J) (id : SecretId) (record : SecretRecord)
    (entry : StoredSecretMetadata) : Prop where
  stored : ∃ text, directory.metadataFiles.get id = some text ∧ json.fromSlice text = some entry
  same : entry.untimed = record.metadata.untimed
  named : entry.metadata.id = id
  value : ∃ payload key, directory.valueFiles.get id = some payload ∧ key ∈ used ∧
    Seals aead key record.value payload

/-- The directory holds the records of the store in memory, and no others. -/
structure SideBySide.Mirrors (json : MetadataJson J) (aead : Aead) (s : SideBySide J) : Prop where
  known : s.used ⊆ s.file.currentKey :: s.file.previousKeys
  current : s.file.currentKey ∈ s.used
  absent : ∀ id, s.memory.records.get id = none → s.file.directory.metadataFiles.get id = none
  present : ∀ id record, s.memory.records.get id = some record →
    ∃ entry, HoldsRecord json aead s.used s.file.directory id record entry

namespace SideBySide.Mirrors

variable {json : MetadataJson J} {aead : Aead} {s : SideBySide J}

open EncryptedFileSecretStore

/-! ### Looking things up -/

theorem readMetadata_absent (h : s.Mirrors json aead) {id : SecretId}
    (hget : s.memory.records.get id = none) : s.file.readMetadata json id = .error .missing := by
  simp only [readMetadata, h.absent id hget, mapIoError]

theorem readMetadata_present {used : List SecretMasterKey} {id : SecretId} {record : SecretRecord}
    {entry : StoredSecretMetadata}
    (hholds : HoldsRecord json aead used s.file.directory id record entry) :
    s.file.readMetadata json id = .ok entry := by
  obtain ⟨text, hget, hreads⟩ := hholds.stored
  simp only [readMetadata, hget, hreads]

theorem status_eq {used : List SecretMasterKey} {directory : SecretDirectory J} {id : SecretId}
    {record : SecretRecord} {entry : StoredSecretMetadata}
    (hholds : HoldsRecord json aead used directory id record entry) :
    entry.status = record.metadata.status := by
  have hstatus := congrArg StoredSecretMetadata.status hholds.same
  simpa using hstatus

/-- Both stores read the same value, or fail alike. -/
theorem read_eq (h : s.Mirrors json aead) (id : SecretId) :
    s.file.read json aead id = s.memory.read id := by
  cases hget : s.memory.records.get id with
  | none => simp only [EncryptedFileSecretStore.read, h.readMetadata_absent hget,
      InMemorySecretStore.read, hget]
  | some record =>
    obtain ⟨entry, hholds⟩ := h.present id record hget
    obtain ⟨payload, key, hvalue, hkey, hseals⟩ := hholds.value
    have hdecrypt := decrypt_seal hseals (h.known hkey)
    simp only [EncryptedFileSecretStore.read, readMetadata_present hholds, status_eq hholds, hvalue,
      hdecrypt, InMemorySecretStore.read, hget]

theorem metadata_same (h : s.Mirrors json aead) (id : SecretId) :
    SameOutcome ((s.file.readMetadata json id).map .metadata)
      ((s.memory.metadata id).map .metadata) := by
  cases hget : s.memory.records.get id with
  | none =>
    simp only [h.readMetadata_absent hget, InMemorySecretStore.metadata, hget]
    exact .error _
  | some record =>
    obtain ⟨entry, hholds⟩ := h.present id record hget
    simp only [readMetadata_present hholds, InMemorySecretStore.metadata, hget]
    exact .metadata hholds.same

/-! ### Listing everything -/

/-- The entries of readable files, one for each id. -/
theorem mapM_fromSlice {files : List (Σ _ : SecretId, J)}
    (h : ∀ file ∈ files, ∃ entry, json.fromSlice file.2 = some entry ∧ entry.metadata.id = file.1) :
    ∃ entries, (files.map fun file => file.2).mapM json.fromSlice = some entries ∧
      (entries.map (·.metadata.id)) = files.map (fun file => file.1) ∧
        ∀ entry, entry ∈ entries ↔ ∃ file ∈ files, json.fromSlice file.2 = some entry := by
  induction files with
  | nil => exact ⟨[], rfl, rfl, by simp⟩
  | cons file files ih =>
    obtain ⟨entry, hreads, hid⟩ := h file List.mem_cons_self
    obtain ⟨entries, hrest, hids, hmem⟩ := ih fun other hother => h other (List.mem_cons_of_mem _ hother)
    refine ⟨entry :: entries, ?_, ?_, ?_⟩
    · rw [List.map_cons, List.mapM_cons, hreads, hrest]
      rfl
    · rw [List.map_cons, List.map_cons, hid, hids]
    · intro other
      simp only [List.mem_cons, exists_eq_or_imp, hreads, Option.some.injEq, hmem]
      exact or_congr_left eq_comm

/-- Both stores list the same entries. -/
theorem listed_same (h : s.Mirrors json aead) :
    SameOutcome (s.file.listMetadata json) s.memory.listMetadata := by
  have hfiles : ∀ file ∈ s.file.directory.metadataFiles.entries, ∃ entry record,
      json.fromSlice file.2 = some entry ∧ entry.metadata.id = file.1 ∧
        s.memory.records.get file.1 = some record ∧ entry.untimed = record.metadata.untimed := by
    intro file hfile
    have hget := Table.get_eq_some_iff.mpr hfile
    cases hrecord : s.memory.records.get file.1 with
    | none =>
      rw [h.absent _ hrecord] at hget
      cases hget
    | some record =>
      obtain ⟨entry, hholds⟩ := h.present _ _ hrecord
      obtain ⟨text, htext, hreads⟩ := hholds.stored
      rw [hget] at htext
      exact ⟨entry, record, Option.some.inj htext ▸ hreads, hholds.named, rfl, hholds.same⟩
  obtain ⟨entries, hentries, hids, hmem⟩ := @mapM_fromSlice J json _ fun file hfile =>
    let ⟨entry, _, hreads, hid, _⟩ := hfiles file hfile
    ⟨entry, hreads, hid⟩
  -- both lists name every id once, so that they agree when they have the same members
  have hfileNodup : (entries.map (·.untimed)).Nodup := by
    refine List.Nodup.of_map (·.metadata.id) ?_
    rw [List.map_map]
    change (entries.map (·.metadata.id)).Nodup
    rw [hids]
    exact s.file.directory.metadataFiles.nodupKeys
  have hmemoryNodup : ((s.memory.records.values.map (·.metadata)).map (·.untimed)).Nodup := by
    refine List.Nodup.of_map (·.metadata.id) ?_
    rw [List.map_map, List.map_map]
    refine Table.nodup_map_values fun id record hrecord => ?_
    obtain ⟨entry, hholds⟩ := h.present id record hrecord
    have hid := congrArg (·.metadata.id) hholds.same
    simpa [hholds.named] using hid.symm
  have hperm : (entries.map (·.untimed)).Perm
      ((s.memory.records.values.map (·.metadata)).map (·.untimed)) := by
    refine (List.perm_ext_iff_of_nodup hfileNodup hmemoryNodup).mpr fun entry => ?_
    simp only [List.mem_map, hmem, Table.mem_values]
    constructor
    · rintro ⟨_, ⟨file, hfile, hreads⟩, rfl⟩
      obtain ⟨entry, record, hreads', -, hrecord, hsame⟩ := hfiles file hfile
      obtain rfl := Option.some.inj (hreads.symm.trans hreads')
      exact ⟨record.metadata, ⟨record, ⟨file.1, hrecord⟩, rfl⟩, hsame.symm⟩
    · rintro ⟨_, ⟨record, ⟨id, hrecord⟩, rfl⟩, rfl⟩
      obtain ⟨entry, hholds⟩ := h.present id record hrecord
      obtain ⟨text, htext, hreads⟩ := hholds.stored
      exact ⟨entry, ⟨⟨id, text⟩, Table.get_eq_some_iff.mp htext, hreads⟩, hholds.same⟩
  simp only [EncryptedFileSecretStore.listMetadata, Table.values, hentries,
    InMemorySecretStore.listMetadata]
  refine .listed ?_ (sortedByName_sortByName _) (sortedByName_sortByName _)
  exact (((perm_sortByName _).map _).trans hperm).trans ((perm_sortByName _).map _).symm

/-! ### Changing things -/

/-- Storing an entry and its value on both sides. -/
theorem put (h : s.Mirrors json aead) {id : SecretId} {record : SecretRecord}
    {entry : StoredSecretMetadata} {text : J} {payload : List UInt8}
    (hreads : json.fromSlice text = some entry) (hsame : entry.untimed = record.metadata.untimed)
    (hid : entry.metadata.id = id) (hseals : Seals aead s.file.currentKey record.value payload) :
    SideBySide.Mirrors json aead { s with
      file := (s.file.putValue id payload).putMetadata id text
      memory := ⟨s.memory.records.put id record⟩ } where
  known := h.known
  current := h.current
  absent := by
    intro other hother
    simp only [Table.get_put, putMetadata, putValue] at hother ⊢
    split at hother
    case isTrue => cases hother
    case isFalse hne =>
      rw [if_neg hne]
      exact h.absent other hother
  present := by
    intro other record' hother
    rcases Table.get_put_cases hother with ⟨rfl, rfl⟩ | ⟨hne, hold⟩
    · exact ⟨entry, ⟨text, Table.get_put_self _ _ _, hreads⟩, hsame, hid,
        payload, s.file.currentKey, Table.get_put_self _ _ _, h.current, hseals⟩
    · obtain ⟨entry', ⟨text', htext, hreads'⟩, hsame', hid', payload', key, hvalue, hkey, hseals'⟩ :=
        h.present other record' hold
      exact ⟨entry', ⟨text', (Table.get_put_ne _ _ hne).trans htext, hreads'⟩, hsame', hid',
        payload', key, (Table.get_put_ne _ _ hne).trans hvalue, hkey, hseals'⟩

/-- Storing an entry anew on both sides, the value stays. -/
theorem putMetadata (h : s.Mirrors json aead) {id : SecretId} {record : SecretRecord}
    {metadata entry : StoredSecretMetadata} {text : J}
    (hrecord : s.memory.records.get id = some record) (hreads : json.fromSlice text = some entry)
    (hsame : entry.untimed = metadata.untimed) (hid : entry.metadata.id = id) :
    SideBySide.Mirrors json aead { s with
      file := s.file.putMetadata id text
      memory := ⟨s.memory.records.put id { record with metadata := metadata }⟩ } where
  known := h.known
  current := h.current
  absent := by
    intro other hother
    simp only [Table.get_put, EncryptedFileSecretStore.putMetadata] at hother ⊢
    split at hother
    case isTrue => cases hother
    case isFalse hne =>
      rw [if_neg hne]
      exact h.absent other hother
  present := by
    intro other record' hother
    rcases Table.get_put_cases hother with ⟨rfl, rfl⟩ | ⟨hne, hold⟩
    · obtain ⟨before, hholds⟩ := h.present other record hrecord
      exact ⟨entry, ⟨text, Table.get_put_self _ _ _, hreads⟩, hsame, hid, hholds.value⟩
    · obtain ⟨entry', ⟨text', htext, hreads'⟩, hsame', hid', hvalue⟩ :=
        h.present other record' hold
      exact ⟨entry', ⟨text', (Table.get_put_ne _ _ hne).trans htext, hreads'⟩, hsame', hid', hvalue⟩

/-- Storing a value anew in the directory. -/
theorem putValue (h : s.Mirrors json aead) {id : SecretId} {record : SecretRecord}
    {payload : List UInt8} (hrecord : s.memory.records.get id = some record)
    (hseals : Seals aead s.file.currentKey record.value payload) :
    SideBySide.Mirrors json aead { s with file := s.file.putValue id payload } where
  known := h.known
  current := h.current
  absent := h.absent
  present := by
    intro other record' hother
    obtain ⟨entry, hstored, hsame, hid, payload', key, hvalue, hkey, hseals'⟩ :=
      h.present other record' hother
    by_cases hne : other = id
    · subst hne
      obtain rfl := Option.some.inj (hrecord.symm.trans hother)
      exact ⟨entry, hstored, hsame, hid, payload, s.file.currentKey, Table.get_put_self _ _ _,
        h.current, hseals⟩
    · exact ⟨entry, hstored, hsame, hid, payload', key, (Table.get_put_ne _ _ hne).trans hvalue,
        hkey, hseals'⟩

/-- Removing both files, and the record. -/
theorem remove (h : s.Mirrors json aead) (id : SecretId) :
    SideBySide.Mirrors json aead { s with
      file := { s.file with directory :=
        { metadataFiles := s.file.directory.metadataFiles.remove id
          valueFiles := s.file.directory.valueFiles.remove id } }
      memory := ⟨s.memory.records.remove id⟩ } where
  known := h.known
  current := h.current
  absent := by
    intro other hother
    simp only [Table.get_remove] at hother ⊢
    split at hother
    case isTrue heq => rw [if_pos heq]
    case isFalse hne =>
      rw [if_neg hne]
      exact h.absent other hother
  present := by
    intro other record hother
    simp only [Table.get_remove] at hother
    split at hother
    case isTrue => cases hother
    case isFalse hne =>
      obtain ⟨entry, ⟨text, htext, hreads⟩, hsame, hid, payload, key, hvalue, hkey, hseals⟩ :=
        h.present other record hother
      refine ⟨entry, ⟨text, ?_, hreads⟩, hsame, hid, payload, key, ?_, hkey, hseals⟩
      · simpa only [Table.get_remove, if_neg hne] using htext
      · simpa only [Table.get_remove, if_neg hne] using hvalue

/-! ### Calls -/

theorem stored_same (request : CreateSecret) (moment : Moment) (now : Timestamp) :
    (request.stored moment = .error .invalid ∧
        request.stored { moment with now := now } = .error .invalid) ∨
      ∃ stored stored', request.stored moment = .ok stored ∧
        request.stored { moment with now := now } = .ok stored' ∧
          stored.untimed = stored'.untimed ∧ stored.metadata.id = stored'.metadata.id := by
  by_cases hblank : trim request.name.toList = []
  · exact .inl ⟨by simp [CreateSecret.stored, SecretMetadata.new, hblank],
      by simp [CreateSecret.stored, SecretMetadata.new, hblank]⟩
  · by_cases hlong : request.name.length > 100
    · exact .inl ⟨by simp only [CreateSecret.stored, SecretMetadata.new, if_neg hblank, if_pos hlong],
        by simp only [CreateSecret.stored, SecretMetadata.new, if_neg hblank, if_pos hlong]⟩
    · refine .inr ⟨⟨⟨moment.newId, request.name, request.kind, request.scope, moment.now,
        moment.now⟩, .active⟩, ⟨⟨moment.newId, request.name, request.kind, request.scope, now, now⟩,
        .active⟩, ?_, ?_, rfl, rfl⟩
      all_goals
        simp only [CreateSecret.stored, SecretMetadata.new, if_neg hblank, if_neg hlong]

theorem create_same (h : s.Mirrors json aead) (request : CreateSecret) (moment : Moment)
    (now : Timestamp) :
    SameOutcome (s.file.create json aead none request moment).1
        (s.memory.create request { moment with now := now }).1 ∧
      SideBySide.Mirrors json aead { s with
        file := (s.file.create json aead none request moment).2
        memory := (s.memory.create request { moment with now := now }).2 } := by
  rcases stored_same request moment now with ⟨hfile, hmemory⟩ | ⟨stored, stored', hfile, hmemory,
    hsame, hid⟩
  · simp only [EncryptedFileSecretStore.create, hfile, InMemorySecretStore.create, hmemory]
    exact ⟨.error _, h⟩
  · obtain ⟨text, payload, hreads, hseals, hcreate⟩ := create_eq json aead s.file hfile
    simp only [hcreate, attempt_none, InMemorySecretStore.create, hmemory]
    rw [hid]
    exact ⟨.metadata hsame, h.put hreads hsame hid hseals⟩

theorem update_same (h : s.Mirrors json aead) (id : SecretId) (value : SecretValue)
    (moment : Moment) (now : Timestamp) :
    SameOutcome (s.file.update json aead none id value moment).1
        (s.memory.update id value { moment with now := now }).1 ∧
      SideBySide.Mirrors json aead { s with
        file := (s.file.update json aead none id value moment).2
        memory := (s.memory.update id value { moment with now := now }).2 } := by
  cases hget : s.memory.records.get id with
  | none =>
    simp only [EncryptedFileSecretStore.update, h.readMetadata_absent hget,
      InMemorySecretStore.update, hget]
    exact ⟨.error _, h⟩
  | some record =>
    obtain ⟨entry, hholds⟩ := h.present id record hget
    have hread := readMetadata_present hholds
    by_cases hactive : entry.status = .active
    · obtain ⟨payload, text, hseals, hreads, hupdate⟩ := update_eq aead value moment hread hactive
      have hrecord : record.metadata.status = .active := status_eq hholds ▸ hactive
      simp only [hupdate, attempt_none, InMemorySecretStore.update, hget, hrecord, ne_eq,
        not_true_eq_false, if_false]
      rw [hholds.named]
      exact ⟨.done, h.put hreads hholds.same
        hholds.named hseals⟩
    · have hrecord : ¬record.metadata.status = .active := status_eq hholds ▸ hactive
      simp only [EncryptedFileSecretStore.update, hread, ne_eq, hactive, not_false_eq_true, if_true,
        InMemorySecretStore.update, hget, hrecord]
      exact ⟨.error _, h⟩

theorem revoke_same (h : s.Mirrors json aead) (id : SecretId) (moment : Moment)
    (now : Timestamp) :
    SameOutcome (s.file.revoke json none id moment).1
        (s.memory.revoke id { moment with now := now }).1 ∧
      SideBySide.Mirrors json aead { s with
        file := (s.file.revoke json none id moment).2
        memory := (s.memory.revoke id { moment with now := now }).2 } := by
  cases hget : s.memory.records.get id with
  | none =>
    simp only [EncryptedFileSecretStore.revoke, h.readMetadata_absent hget,
      InMemorySecretStore.revoke, hget]
    exact ⟨.error _, h⟩
  | some record =>
    obtain ⟨entry, hholds⟩ := h.present id record hget
    obtain ⟨text, hreads, hrevoke⟩ := revoke_eq moment (readMetadata_present hholds)
    simp only [hrevoke, attempt_none, InMemorySecretStore.revoke, hget]
    rw [hholds.named]
    exact ⟨.done, h.putMetadata hget hreads
      (StoredSecretMetadata.untimed_revoke hholds.same moment.now now) hholds.named⟩

theorem delete_same (h : s.Mirrors json aead) (id : SecretId) :
    SameOutcome (s.file.delete json none id).1 (s.memory.delete id).1 ∧
      SideBySide.Mirrors json aead { s with
        file := (s.file.delete json none id).2
        memory := (s.memory.delete id).2 } := by
  cases hget : s.memory.records.get id with
  | none =>
    simp only [EncryptedFileSecretStore.delete, h.readMetadata_absent hget,
      InMemorySecretStore.delete, hget]
    exact ⟨.error _, h⟩
  | some record =>
    obtain ⟨entry, hholds⟩ := h.present id record hget
    obtain ⟨text, htext, -⟩ := hholds.stored
    obtain ⟨payload, key, hvalue, -, -⟩ := hholds.value
    simp only [EncryptedFileSecretStore.delete, readMetadata_present hholds, removeValue,
      removeMetadata, attempt_none, hvalue, htext, InMemorySecretStore.delete, hget]
    exact ⟨.done, h.remove id⟩

theorem rewrap_same (h : s.Mirrors json aead) (id : SecretId) (moment : Moment) :
    SameOutcome (s.file.rewrap json aead none id moment).1 ((s.memory.read id).map fun _ => .done) ∧
      SideBySide.Mirrors json aead { s with
        file := (s.file.rewrap json aead none id moment).2 } := by
  cases hread : s.memory.read id with
  | error error =>
    simp only [EncryptedFileSecretStore.rewrap, h.read_eq id, hread]
    exact ⟨.error _, h⟩
  | ok value =>
    obtain ⟨payload, hseals, hwrite⟩ := writeEncrypted_eq aead s.file id value moment.nonce
    simp only [EncryptedFileSecretStore.rewrap, h.read_eq id, hread, hwrite, attempt_none]
    refine ⟨.done, ?_⟩
    -- a value that is read is the one of the record
    cases hget : s.memory.records.get id with
    | none => simp [InMemorySecretStore.read, hget] at hread
    | some record =>
      simp only [InMemorySecretStore.read, hget] at hread
      split at hread
      case isTrue => cases hread
      case isFalse =>
        obtain rfl := Except.ok.inj hread
        exact h.putValue hget hseals

/-- **Mirrored stores answer every call alike and stay mirrored.** -/
theorem call (h : s.Mirrors json aead) (call : SecretCall) (moment : Moment) (now : Timestamp) :
    SameOutcome (s.file.apply json aead none moment call).1
        (s.memory.apply { moment with now := now } call).1 ∧
      SideBySide.Mirrors json aead { s with
        file := (s.file.apply json aead none moment call).2
        memory := (s.memory.apply { moment with now := now } call).2 } := by
  cases call with
  | listMetadata => exact ⟨h.listed_same, h⟩
  | create request => exact h.create_same request moment now
  | read id =>
    refine ⟨?_, h⟩
    simp only [EncryptedFileSecretStore.apply, InMemorySecretStore.apply, h.read_eq id]
    cases s.memory.read id with
    | error error => exact .error _
    | ok value => exact .value _
  | metadata id => exact ⟨h.metadata_same id, h⟩
  | update id value => exact h.update_same id value moment now
  | rotate id value => exact h.update_same id value moment now
  | revoke id => exact h.revoke_same id moment now
  | delete id => exact h.delete_same id
  | rewrap id => exact h.rewrap_same id moment

end SideBySide.Mirrors

/-! ### Runs -/

variable {json : MetadataJson J} {aead : Aead} {s : SideBySide J}

/-- The stores are mirrored in every run. -/
theorem mirrors_of_reach (h : (sideBySide json aead).Reach Machine.Any s) :
    s.Mirrors json aead := by
  refine h.invariant (I := fun s => s.Mirrors json aead) ?_ ?_
  · rintro s ⟨hdirectory, hrecords, hused⟩
    constructor
    · simp [hused]
    · simp [hused]
    · intro id _
      rw [hdirectory]
      rfl
    · intro id record hget
      rw [hrecords] at hget
      cases hget
  · intro s action s' _ hmirrors _ hstep
    cases action with
    | call call moment now =>
      obtain rfl := Option.some.inj hstep
      exact (hmirrors.call call moment now).2
    | reopen currentKey previousKeys =>
      simp only [sideBySide] at hstep
      split at hstep
      case isTrue hknown =>
        obtain rfl := Option.some.inj hstep
        constructor
        · exact List.cons_subset_cons currentKey hknown
        · exact List.mem_cons_self
        · exact hmirrors.absent
        · intro id record hget
          obtain ⟨entry, hstored, hsame, hid, payload, key, hvalue, hkey, hseals⟩ :=
            hmirrors.present id record hget
          exact ⟨entry, hstored, hsame, hid, payload, key, hvalue, List.mem_cons_of_mem _ hkey,
            hseals⟩
      case isFalse => cases hstep

/-- **Every call is answered alike**, after any calls and reopenings. -/
theorem sameOutcome_of_reach (h : (sideBySide json aead).Reach Machine.Any s) (call : SecretCall)
    (moment : Moment) (now : Timestamp) :
    SameOutcome (s.file.apply json aead none moment call).1
      (s.memory.apply { moment with now := now } call).1 :=
  ((mirrors_of_reach h).call call moment now).1

/-- Both stores are empty. -/
def emptyStores : SideBySide StoredSecretMetadata where
  file := ⟨repeatedKey 7, [], ⟨∅, ∅⟩⟩
  memory := ⟨∅⟩
  used := [repeatedKey 7]

/-- A secret is created, the directory is opened with a new key, and the secret gets a new value. -/
def keyRotation : List SideAction :=
  [.call (.create connectionTest) (momentAt 1 10) 11, .reopen (repeatedKey 8) [repeatedKey 7],
    .call (.rotate ⟨⟨1⟩⟩ ⟨"rotated", by decide, by decide⟩) (momentAt 2 20) 21,
    .reopen (repeatedKey 9) [repeatedKey 8, repeatedKey 7]]

/-- The new value is read in both stores. -/
theorem sameOutcome_keyRotation :
    ∃ s, (sideBySide plainJson keyedAead).Reach Machine.Any s ∧
      (s.file.read plainJson keyedAead ⟨⟨1⟩⟩).map (·.value) = .ok "rotated" ∧
      SameOutcome (s.file.apply plainJson keyedAead none (momentAt 3 30) (.read ⟨⟨1⟩⟩)).1
        (s.memory.apply { momentAt 3 30 with now := 31 } (.read ⟨⟨1⟩⟩)).1 := by
  have hrun : ∃ s ∈ (sideBySide plainJson keyedAead).exec Machine.Any emptyStores keyRotation,
      (s.file.read plainJson keyedAead ⟨⟨1⟩⟩).map (·.value) = .ok "rotated" := by
    decide +kernel
  obtain ⟨s, hexec, hread⟩ := hrun
  have hreach : (sideBySide plainJson keyedAead).Reach Machine.Any s :=
    .exec (.init ⟨rfl, rfl, rfl⟩) _ hexec
  exact ⟨s, hreach, hread, sameOutcome_of_reach hreach (.read ⟨⟨1⟩⟩) (momentAt 3 30) 31⟩

end Lxcup.Secrets
