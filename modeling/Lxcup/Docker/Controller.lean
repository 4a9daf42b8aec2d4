import Lxcup.Docker.Commands
import Lxcup.Docker.ComposeUpdate
import Lxcup.Lib.Runs
import Lxcup.Credentials.Service

/-!
# Image updates from the controller

The controller's handler for an image update.  It asks the agent three things: the containers,
whether there is a newer image, and to apply it.  A request to the agent is sent again when it
ends without an answer or with a server error, so that the agent may work on an update several
times, also while an earlier attempt is still under way.

What an attempt meets is told by a run of the agent's handler that may be stopped anywhere, and by
how much of the answer comes back.

## Main definitions

* `Delivery` — what an attempt to send a request meets.
* `ControllerCall` with its answers.
* `sendRequest` — `AgentClient::request` with its retries.
* `applyTargetDockerImageUpdate` — the handler.
-/

namespace Lxcup.Docker

open Lxcup.Lib Lxcup.Core Lxcup.Agent Lxcup.Server Lxcup.Secrets Lxcup.Credentials

/-! ### Addresses -/

inductive IpAddr
  | v4 (bits : BitVec 32)
  | v6 (bits : BitVec 128)
  deriving DecidableEq, Repr

/-- `is_private_network_address`. -/
def isPrivateNetworkAddress : IpAddr → Bool
  | .v4 bits =>
    let (a, b) := ((bits >>> 24).toNat, (bits >>> 16).toNat % 256)
    -- `is_private`, `is_loopback` and `is_link_local`
    (a = 10 || (a = 172 && 16 ≤ b && b ≤ 31) || (a = 192 && b = 168)) || a = 127
      || (a = 169 && b = 254)
  | .v6 bits =>
    let segment : BitVec 16 := (bits >>> 112).setWidth 16
    bits = 1 || segment &&& 0xfe00 = 0xfc00 || segment &&& 0xffc0 = 0xfe80

/-! ### Requests to the agent -/

/-- How much of an answer comes back. -/
inductive Receipt
  | complete | cutShort | lost
  deriving DecidableEq, Repr

variable {parse : JsonParser}

/-- What an attempt to send a request meets.  A run of the agent's handler that is still waiting
for an answer of the host has been given up. -/
inductive Delivery (parse : JsonParser) (request : Request) : Type
  | unreached
  | reached (authorized : Bool) (platform : AgentPlatform) (exchanges : List HostExchange)
      (ending : Ending HostCall (Except DockerFailure request.Response × Unit))
      (run : (handle parse authorized platform request ()).Run exchanges ending)
      (receipt : Receipt)

/-- `AgentError`, with the code in the body of an error answer. -/
inductive AgentFailure
  | transport
  | unauthorized
  | invalidRequest
  | api (status : Nat) (error : Option String)
  | decode
  deriving DecidableEq, Repr

/-- What the client makes of an attempt. -/
def Delivery.result {request : Request} :
    Delivery parse request → Except AgentFailure request.Response
  | unreached => .error .transport
  | reached _ _ _ ending _ receipt =>
    match ending, receipt with
    | .calling _, _ | _, .lost => .error .transport
    | .returned (.ok response, _), .complete => .ok response
    | .returned (.ok _, _), .cutShort => .error .decode
    | .returned (.error e, _), receipt =>
      if e.status = 401 || e.status = 403 then .error .unauthorized
      else .error (.api e.status (if receipt = .complete then some e.error else none))

/-- The failures after which a request is sent again. -/
def AgentFailure.isRetried : AgentFailure → Bool
  | transport => true
  | api status _ => 500 ≤ status && status ≤ 599
  | _ => false

/-! ### The handler -/

/-- The details of the audit event. -/
structure UpdateDetails where
  targetId : TargetId
  dockerContainerId : String
  composeProject : String
  composeService : String
  previousImageId : Option String
  imageId : String
  actorRole : ActorRole
  deriving DecidableEq, Repr

/-- The effects of the handler. -/
inductive ControllerCall
  | findTarget (id : TargetId)
  | lookupHost (address : String)
  | readSecret (id : SecretId)
  /-- `AgentClient::new`. -/
  | buildClient
  /-- One attempt. -/
  | send (address : IpAddr) (request : Request)
  | appendAudit (details : UpdateDetails) (createdAt : Timestamp)
  | publish (containerId : String)
  | saveInventory (id : TargetId) (collectedAt : Timestamp) (containers : List DockerContainerInfo)

/-- What an effect answers. -/
abbrev ControllerCall.Answer (parse : JsonParser) : ControllerCall → Type
  | .findTarget _ => Option Target
  | .lookupHost _ => Option (List IpAddr)
  | .readSecret _ => Except SecretStoreError String
  | .send _ request => Delivery parse request
  | .publish _ => Unit
  | .buildClient | .appendAudit .. | .saveInventory .. => Bool

/-- A handler of the controller. -/
abbrev Controller (parse : JsonParser) (α : Type) : Type :=
  Process ControllerCall (ControllerCall.Answer parse) ApiError Unit α

/-- Call for an effect. -/
abbrev ask (e : ControllerCall) : Controller parse (e.Answer parse) := Process.call e

/-- `AgentClient::request`, with the number of the attempts that are left after this one. -/
def sendRequest (address : IpAddr) (request : Request) :
    Nat → Controller parse (Except AgentFailure request.Response)
  | 0 => do
    let delivery : Delivery parse request ← ask (.send address request)
    return delivery.result
  | retries + 1 => do
    let delivery : Delivery parse request ← ask (.send address request)
    match delivery.result with
    | .ok response => return .ok response
    | .error e => if e.isRetried then sendRequest address request retries else return .error e

/-- The checks of the client, before anything is sent. -/
def Request.isValid : Request → Bool
  | containers => true
  | lifecycle request => isSafeDockerContainerId request.containerId
  | imageUpdateCheck containerId => isSafeDockerContainerId containerId
  | imageUpdateApply request =>
    isSafeDockerContainerId request.containerId && isSafeImageId request.expectedRemoteImageId

/-- A request of the client, which tries it three times. -/
def clientRequest (address : IpAddr) (request : Request) :
    Controller parse (Except AgentFailure request.Response) :=
  if request.isValid then sendRequest address request 2 else return .error .invalidRequest

/-- `result.map_err(f)?` -/
def orFail {α β : Type} (f : β → ApiError) (result : Except β α) : Controller parse α :=
  Process.ofExcept (result.mapError f)

/-- `supports_linux_docker`. -/
def supportsLinuxDocker : TargetKind → Bool
  | .lxc | .linuxServer => true
  | .windowsServer => false

/-- `connected_linux_agent`, with `resolve_private_agent_address`. -/
def connectedLinuxAgent (targetId : TargetId) : Controller parse (Target × IpAddr) := do
  let found : Option Target ← ask (.findTarget targetId)
  let target ← .ofOption found (.notFound "target not found")
  .require (supportsLinuxDocker target.kind && target.state = .managed)
    (.conflict "target_not_ready" "Docker actions require a connected Linux target")
  let resolved : Option (List IpAddr) ← ask (.lookupHost target.address)
  let addresses ← .ofOption resolved
    (.badRequest "invalid_agent_address" "agent address is invalid")
  let address ← .ofOption (addresses.find? isPrivateNetworkAddress)
    (.badRequest "agent_address_not_private"
      "Docker discovery is restricted to private network addresses")
  let token : Except SecretStoreError String ← ask (.readSecret target.agentSecretRef)
  let token ← orFail mapSecretError token
  -- the address is a literal one, so that only the token can be refused
  .require (trim token.toList ≠ [])
    (.badRequest "invalid_agent_address" "agent address is invalid")
  let built : Bool ← ask .buildClient
  .require built (.dependency "agent_client_error" "the agent client could not be created")
  return (target, address)

/-- `compose_service`. -/
def composeService (labels : List String) : Option String :=
  labels.findSome? fun label =>
    ((stripPrefix "com.docker.compose.service=".toList label.toList).filter (· ≠ [])).map
      String.ofList

/-- `validate_fresh_image_update_check`. -/
def isFreshImageUpdateCheck (check : DockerImageUpdateResult) (expectedRemoteImageId : String) :
    Bool :=
  check.status = .updateAvailable && check.remoteImageId = some expectedRemoteImageId

/-- `map_docker_update_apply_error`. -/
def mapDockerUpdateApplyError (error : AgentFailure) : ApiError :=
  let remoteCode := match error with
    | .api _ error => error
    | _ => none
  let isAny := fun codes => remoteCode.any fun code => codes.contains code
  if isAny ["container_unavailable"] then .notFound "Docker container is no longer available"
  else if isAny ["compose_metadata_required"] then
    .conflict "compose_metadata_required"
      "image updates are supported only for Compose-managed containers"
  else if isAny ["compose_replicas_unsupported"] then
    .conflict "compose_replicas_unsupported"
      "only a single-replica Compose service can be updated"
  else if isAny ["compose_config_hash_required", "compose_config_changed"] then
    .conflict "compose_config_changed"
      "the Compose service configuration changed; rediscover and review it before updating"
  else if isAny ["compose_service_scope_changed"] then
    .conflict "compose_service_scope_changed" ("the Compose service now manages a different set of "
      ++ "containers; rediscover before updating")
  else if isAny ["image_update_check_stale", "pulled_image_digest_mismatch"] then
    .conflict "image_update_check_stale"
      "the remote image changed since it was checked; run the update check again"
  else .dependency "docker_update_apply_failed" "the Compose image update failed on the agent"

def agentUnreachable : ApiError :=
  .dependency "agent_unreachable" "the LXC agent could not be reached"

/-- The audit event of an update, in persistent mode.  That it cannot be stored is logged only. -/
def auditUpdate (persistent : Bool) (details : UpdateDetails) (createdAt : Timestamp) :
    Controller parse Unit :=
  if persistent then do
    let _ : Bool ← ask (.appendAudit details createdAt)
    return ()
  else return ()

/-- The event for the users who are looking on, and the inventory after the update. -/
def refreshInventory (targetId : TargetId) (address : IpAddr) (containerId : String) :
    Controller parse Unit := do
  let _ : Unit ← ask (.publish containerId)
  let refreshed ← clientRequest address .containers
  match refreshed with
  | .error _ => return ()
  | .ok discovery =>
    if !discovery.available then return ()
    else
      let _ : Bool ← ask (.saveInventory targetId discovery.collectedAt discovery.containers)
      return ()

/-- The checks of `apply_target_docker_image_update`, which end with the container at its
target. -/
def checkImageUpdate (actorRole : ActorRole) (targetId containerId : String) (confirmed : Bool)
    (expectedRemoteImageId : String) :
    Controller parse (TargetId × Target × IpAddr × DockerContainerInfo) := do
  .ofExcept (requirePermission actorRole .destructive)
  .require confirmed (.badRequest "confirmation_required"
    "Docker image updates require explicit confirmation")
  .require (isSafeDockerContainerId containerId && isSafeImageId expectedRemoteImageId)
    (.badRequest "invalid_update_request" "Docker image update request is invalid")
  let uuid ← .ofExcept (parseUuid targetId "target id")
  let (target, address) ← connectedLinuxAgent ⟨uuid⟩
  let discovery ← clientRequest address .containers
  let discovery ← orFail (fun _ => agentUnreachable) discovery
  let container ← .ofOption (discovery.containers.find? fun container => container.id = containerId)
    (.notFound "Docker container was not found in the latest inventory")
  .require (composeService container.labels).isSome (.conflict "compose_metadata_required"
    "image updates are supported only for Compose-managed containers")
  let check ← clientRequest address (.imageUpdateCheck containerId)
  let check ← orFail (fun _ => .dependency "docker_update_check_failed"
    "the agent could not check the image registry") check
  .require (isFreshImageUpdateCheck check expectedRemoteImageId)
    (.conflict "image_update_check_stale"
      "a current successful image update check is required before applying")
  return (⟨uuid⟩, target, address, container)

/-- The rest of it, from the answer of the agent on. -/
def finishUpdate (persistent : Bool) (actorRole : ActorRole) (containerId : String)
    (targetId : TargetId) (target : Target) (address : IpAddr) (container : DockerContainerInfo)
    (result : Except AgentFailure DockerImageUpdateApplyResult) :
    Controller parse (Target × DockerImageUpdateApplyResult) := do
  let result ← orFail mapDockerUpdateApplyError result
  auditUpdate persistent ⟨targetId, containerId, result.composeProject, result.composeService,
    container.imageId, result.imageId, actorRole⟩ result.completedAt
  refreshInventory targetId address containerId
  return (target, result)

/-- `apply_target_docker_image_update`. -/
def applyTargetDockerImageUpdate (persistent : Bool) (actorRole : ActorRole)
    (targetId containerId : String) (confirmed : Bool) (expectedRemoteImageId : String) :
    Controller parse (Target × DockerImageUpdateApplyResult) := do
  let (id, target, address, container) ←
    checkImageUpdate actorRole targetId containerId confirmed expectedRemoteImageId
  let result ← clientRequest address (.imageUpdateApply ⟨containerId, expectedRemoteImageId⟩)
  finishUpdate persistent actorRole containerId id target address container result

end Lxcup.Docker
