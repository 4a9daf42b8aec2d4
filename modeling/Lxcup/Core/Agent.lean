import Lxcup.Core.Ids

/-!
# Registrations of agents

What is kept of the agent of a container over a restart of the controller: where the agent is, and
which secrets it is reached with.

## Main definitions

* `AgentConnectionState`, `AgentRegistration`.
* `secureEndpoint` — the endpoints that an agent may have.
* `AgentRegistration.new`, `AgentRegistration.recordHealth`, `AgentRegistration.recordUnreachable`.
-/

namespace Lxcup.Core

open Lxcup.Lib

/-- The id of a registration. -/
structure AgentRegistrationId where
  uuid : Uuid
  deriving DecidableEq, Repr, Inhabited

/-- What the last check of an agent met. -/
inductive AgentConnectionState
  | connected | degraded | unreachable
  deriving DecidableEq, Repr, Inhabited

/-- The agent of a container. -/
structure AgentRegistration where
  id : AgentRegistrationId
  containerId : ContainerId
  agentId : String
  endpoint : String
  secretRef : SecretId
  caSecretRef : Option SecretId
  state : AgentConnectionState
  lastCheckedAt : Option Timestamp
  lastError : Option String
  createdAt : Timestamp
  updatedAt : Timestamp
  deriving DecidableEq, Repr, Inhabited

/-- An endpoint that is encrypted, or on the machine itself. -/
def secureEndpoint (endpoint : String) : Bool :=
  "https://".toList.isPrefixOf endpoint.toList
    || "http://127.0.0.1".toList.isPrefixOf endpoint.toList
    || "http://localhost".toList.isPrefixOf endpoint.toList

/-- `trim_end_matches('/')`. -/
def trimEndSlashes (url : String) : String :=
  String.ofList (url.toList.reverse.dropWhile (· = '/')).reverse

namespace AgentRegistration

/-- `AgentRegistration::new`, with the fresh id.  Nobody looks at which of the checks fails. -/
def new (containerId : ContainerId) (agentId endpoint : String) (secretRef : SecretId)
    (caSecretRef : Option SecretId) (newId : AgentRegistrationId) (now : Timestamp) :
    Option AgentRegistration :=
  let agentId := String.ofList (trim agentId.toList)
  let endpoint := trimEndSlashes endpoint
  if agentId = "" ∨ agentId.utf8ByteSize > 200 then none
  else if !secureEndpoint endpoint then none
  else some
    { id := newId
      containerId
      agentId
      endpoint
      secretRef
      caSecretRef
      state := .connected
      lastCheckedAt := some now
      lastError := none
      createdAt := now
      updatedAt := now }

/-- The registration after an answer of the agent. -/
def recordHealth (registration : AgentRegistration) (healthy : Bool) (now : Timestamp)
    (error : Option String) : AgentRegistration :=
  { registration with
    state := if healthy then .connected else .degraded
    lastCheckedAt := some now
    lastError := error
    updatedAt := now }

/-- The registration after the agent was not reached. -/
def recordUnreachable (registration : AgentRegistration) (now : Timestamp) (error : String) :
    AgentRegistration :=
  { registration with
    state := .unreachable
    lastCheckedAt := some now
    lastError := some error
    updatedAt := now }

end AgentRegistration

end Lxcup.Core
