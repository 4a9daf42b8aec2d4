import Lxcup.Core.Secret
import Lxcup.Lib.Table
import Mathlib.Data.List.Sort
import Mathlib.Data.String.Basic

/-!
# The interface of secret stores, and the store in memory

Providers answer the same calls; the store in memory is the one that tests and applications
measure the others by.  What a call takes from outside (the fresh id, the nonce, the clock) is
handed in with it.

## Main definitions

* `SecretStatus`, `StoredSecretMetadata`, `CreateSecret`, `SecretStoreError`.
* `SecretCall`, `SecretAnswer`, `Moment` — the calls, their answers and what they take from
  outside.
* `sortByName` — entries in the order in which they are listed.
* `InMemorySecretStore` with `listMetadata`, `create`, `read`, `metadata`, `update`, `revoke` and
  `delete`; `InMemorySecretStore.apply` — any of them.
-/

namespace Lxcup.Secrets

open Lxcup.Lib Lxcup.Core

/-- The status of a stored credential. -/
inductive SecretStatus
  | active | revoked
  deriving DecidableEq, Repr, Inhabited

/-- What providers give out about a secret. -/
structure StoredSecretMetadata where
  metadata : SecretMetadata
  status : SecretStatus
  deriving DecidableEq, Repr

/-- The input for a new secret. -/
structure CreateSecret where
  name : String
  kind : SecretKind
  scope : SecretScope
  value : SecretValue

/-- The stable categories of failures. -/
inductive SecretStoreError
  | missing | denied | invalid | unavailable
  deriving DecidableEq, Repr, Inhabited

/-- The text of a failure. -/
def SecretStoreError.text : SecretStoreError → String
  | missing => "secret is missing"
  | denied => "secret access is denied"
  | invalid => "secret request is invalid"
  | unavailable => "secret provider is unavailable"

/-- The bytes that randomize an encryption. -/
abbrev Nonce := { bytes : List UInt8 // bytes.length = 24 }

/-- What a call takes from outside: a fresh id, a nonce and the clock. -/
structure Moment where
  newId : SecretId
  nonce : Nonce
  now : Timestamp

/-- The calls of a store.  `rewrap` is not part of the interface; it encrypts a value anew. -/
inductive SecretCall
  | listMetadata
  | create (request : CreateSecret)
  | read (id : SecretId)
  | metadata (id : SecretId)
  | update (id : SecretId) (value : SecretValue)
  | rotate (id : SecretId) (value : SecretValue)
  | revoke (id : SecretId)
  | delete (id : SecretId)
  | rewrap (id : SecretId)

/-- The answers of a store. -/
inductive SecretAnswer
  | listed (entries : List StoredSecretMetadata)
  | metadata (entry : StoredSecretMetadata)
  | value (value : SecretValue)
  | done
  deriving DecidableEq

/-- The answer to a call, or its failure. -/
abbrev SecretOutcome := Except SecretStoreError SecretAnswer

/-- Entries sorted by name. -/
def sortByName (entries : List StoredSecretMetadata) : List StoredSecretMetadata :=
  entries.insertionSort fun left right => left.metadata.name ≤ right.metadata.name

/-- A secret that is new at the moment. -/
def CreateSecret.stored (request : CreateSecret) (moment : Moment) :
    Except SecretStoreError StoredSecretMetadata :=
  match SecretMetadata.new request.name request.kind request.scope moment.newId moment.now with
  | .error _ => .error .invalid
  | .ok metadata => .ok ⟨metadata, .active⟩

/-- The entry with a new time of its last change. -/
def StoredSecretMetadata.touch (entry : StoredSecretMetadata) (now : Timestamp) :
    StoredSecretMetadata :=
  { entry with metadata := { entry.metadata with updatedAt := now } }

/-- The entry of a revoked secret. -/
def StoredSecretMetadata.revoke (entry : StoredSecretMetadata) (now : Timestamp) :
    StoredSecretMetadata :=
  { entry.touch now with status := .revoked }

/-! ### The store in memory -/

/-- An entry with its value. -/
structure SecretRecord where
  metadata : StoredSecretMetadata
  value : SecretValue

/-- The deterministic provider. -/
structure InMemorySecretStore where
  records : Table SecretId SecretRecord

namespace InMemorySecretStore

variable (store : InMemorySecretStore)

def listMetadata : SecretOutcome :=
  .ok (.listed (sortByName (store.records.values.map (·.metadata))))

def create (request : CreateSecret) (moment : Moment) : SecretOutcome × InMemorySecretStore :=
  match request.stored moment with
  | .error error => (.error error, store)
  | .ok stored =>
    (.ok (.metadata stored), ⟨store.records.put stored.metadata.id ⟨stored, request.value⟩⟩)

def read (id : SecretId) : Except SecretStoreError SecretValue :=
  match store.records.get id with
  | none => .error .missing
  | some record =>
    if record.metadata.status ≠ .active then .error .denied else .ok record.value

def metadata (id : SecretId) : Except SecretStoreError StoredSecretMetadata :=
  match store.records.get id with
  | none => .error .missing
  | some record => .ok record.metadata

def update (id : SecretId) (value : SecretValue) (moment : Moment) :
    SecretOutcome × InMemorySecretStore :=
  match store.records.get id with
  | none => (.error .missing, store)
  | some record =>
    if record.metadata.status ≠ .active then (.error .denied, store)
    else (.ok .done, ⟨store.records.put id ⟨record.metadata.touch moment.now, value⟩⟩)

def rotate (id : SecretId) (value : SecretValue) (moment : Moment) :
    SecretOutcome × InMemorySecretStore :=
  store.update id value moment

def revoke (id : SecretId) (moment : Moment) : SecretOutcome × InMemorySecretStore :=
  match store.records.get id with
  | none => (.error .missing, store)
  | some record =>
    (.ok .done, ⟨store.records.put id { record with metadata := record.metadata.revoke moment.now }⟩)

def delete (id : SecretId) : SecretOutcome × InMemorySecretStore :=
  match store.records.get id with
  | none => (.error .missing, store)
  | some _ => (.ok .done, ⟨store.records.remove id⟩)

/-- The answer to a call, and the store after it.  Nothing is encrypted here, so that `rewrap`
only tells whether the value can be read. -/
def apply (moment : Moment) : SecretCall → SecretOutcome × InMemorySecretStore
  | .listMetadata => (store.listMetadata, store)
  | .create request => store.create request moment
  | .read id => ((store.read id).map .value, store)
  | .metadata id => ((store.metadata id).map .metadata, store)
  | .update id value => store.update id value moment
  | .rotate id value => store.rotate id value moment
  | .revoke id => store.revoke id moment
  | .delete id => store.delete id
  | .rewrap id => ((store.read id).map fun _ => .done, store)

end InMemorySecretStore

end Lxcup.Secrets
