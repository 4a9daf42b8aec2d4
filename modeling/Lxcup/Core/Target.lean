import Lxcup.Core.Ids

/-!
# Targets and enrollments

The managed machines: LXC containers, Linux servers and Windows servers alike, and the
enrollments through which discovered containers become targets.

## Main definitions

* `TargetKind`, `TargetTransport`, `TargetState`, `Target`.
* `TargetTransport.supports` — the transports of each kind of machine.
* `EnrollmentState`, `Enrollment`.
-/

namespace Lxcup.Core

/-- The kinds of managed machines. -/
inductive TargetKind
  | lxc | linuxServer | windowsServer
  deriving DecidableEq, Repr, Inhabited

/-- How a machine is reached. -/
inductive TargetTransport
  | ssh | winrm | agent
  deriving DecidableEq, Repr, Inhabited

/-- The transports a kind of machine has. -/
def TargetTransport.supports : TargetTransport → TargetKind → Bool
  | .ssh, .lxc | .ssh, .linuxServer => true
  | .winrm, .windowsServer | .agent, .windowsServer => true
  | _, _ => false

/-- Whether a machine is under management. -/
inductive TargetState
  | pending | managed | disabled
  deriving DecidableEq, Repr, Inhabited

/-- A managed machine. -/
structure Target where
  id : TargetId
  name : String
  kind : TargetKind
  address : String
  transport : TargetTransport
  sshUser : Option String
  credentialSecretRef : Option SecretId
  sshKnownHostsSecretRef : Option SecretId
  agentSecretRef : SecretId
  state : TargetState
  createdAt : Timestamp
  updatedAt : Timestamp
  deriving DecidableEq, Repr, Inhabited

namespace Target

/-- The secret that a workflow signs in with. -/
def workflowAuthSecretRef (target : Target) : Option SecretId :=
  if target.transport = .agent then some target.agentSecretRef else target.credentialSecretRef

/-- The secrets that a deployment of the agent needs. -/
def deploymentSecretRefs (target : Target) : List SecretId :=
  target.credentialSecretRef.toList ++ [target.agentSecretRef]

end Target

/-- The lifecycle of an enrollment. -/
inductive EnrollmentState
  | requested | discovering | installingAgent | registeringAgent | connected | failed | disabled
  deriving DecidableEq, Repr, Inhabited

/-- The enrollment of an existing container. -/
structure Enrollment where
  id : EnrollmentId
  containerId : ContainerId
  /-- The target that the container is managed as. -/
  targetId : Option TargetId
  state : EnrollmentState
  idempotencyKey : String
  failureReason : Option String
  createdAt : Timestamp
  updatedAt : Timestamp
  deriving DecidableEq, Repr, Inhabited

end Lxcup.Core
