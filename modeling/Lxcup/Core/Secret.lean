import Lxcup.Core.Resource

/-!
# Secrets

What is known about a stored credential, and the credential itself.

## Main definitions

* `SecretKind`, `SecretScope`, `SecretMetadata`, `SecretValue`.
* `SecretMetadata.new`, `SecretValue.new` — the checks on a name and on a value.
-/

namespace Lxcup.Core

open Lxcup.Lib

/-- What a credential is used for. -/
inductive SecretKind
  | sshPrivateKey | sshPassword | sshKnownHosts | winrmPassword | agentToken | backupPassphrase
  | generic
  deriving DecidableEq, Repr, Inhabited

/-- The resources that a credential may be used for. -/
inductive SecretScope
  | global
  | container (id : ContainerId)
  deriving DecidableEq, Repr, Inhabited

/-- What may be shown of a credential. -/
structure SecretMetadata where
  id : SecretId
  name : String
  kind : SecretKind
  scope : SecretScope
  createdAt : Timestamp
  updatedAt : Timestamp
  deriving DecidableEq, Repr

/-- `SecretMetadata::new`, with the fresh id and the time of the call. -/
def SecretMetadata.new (name : String) (kind : SecretKind) (scope : SecretScope)
    (newId : SecretId) (now : Timestamp) : Except DomainError SecretMetadata :=
  if trim name.toList = [] then .error (.emptyValue "secret name")
  else if name.length > 100 then .error (.invalidStateTransition "secret name is too long")
  else .ok ⟨newId, name, kind, scope, now, now⟩

/-- The material of a credential: not empty, and of bounded length. -/
structure SecretValue where
  value : String
  notEmpty : value ≠ ""
  bounded : value.length ≤ 16384
  deriving DecidableEq

/-- `SecretValue::new`. -/
def SecretValue.new (value : String) : Except DomainError SecretValue :=
  if hempty : value = "" then .error (.emptyValue "secret value")
  else if hlong : value.length > 16384 then
    .error (.invalidStateTransition "secret value is too long")
  else .ok ⟨value, hempty, Nat.le_of_not_gt hlong⟩

@[simp] theorem SecretValue.new_value (value : SecretValue) : new value.value = .ok value := by
  simp [new, value.notEmpty, Nat.not_lt.mpr value.bounded]

end Lxcup.Core
