import Lxcup.Docker.Host

/-!
# The Docker handlers of the agent

What the agent does for the four requests about containers: list them, start or stop one, check
whether there is a newer image for one, and apply that image to its Compose service.  Every
handler is a process over the effects of the host.

## Main definitions

* `agentDockerContainers`, `agentDockerLifecycle`, `agentDockerImageUpdateCheck`,
  `agentDockerImageUpdateApply` — the handlers.
* `inspectComposeUpdateContainer`, `verifyRemoteUpdateImage`, `applyComposeImageUpdate` with its
  parts — the steps of an update.
-/

namespace Lxcup.Docker

open Lxcup.Lib Lxcup.Core Lxcup.Agent

variable (parse : JsonParser)

/-- Fields of a Go template. -/
def template (sep : String) (fields : List String) : String :=
  sep.intercalate (fields.map fun field => "\x7b\x7b" ++ field ++ "\x7d\x7d")

/-! ### The list of containers -/

/-- A container, as the agent lists it. -/
structure DockerContainerInfo where
  id : String
  name : String
  image : String
  state : String
  status : String
  ports : List String
  startedAt : Option String
  createdAt : Option String
  imageId : Option String
  restartCount : Option UInt64
  health : Option String
  oomKilled : Option Bool
  labels : List String
  deriving DecidableEq, Repr, Inhabited

/-- What a discovery answers. -/
structure DockerDiscovery where
  available : Bool
  reason : Option String
  collectedAt : Timestamp
  containers : List DockerContainerInfo
  deriving DecidableEq, Repr, Inhabited

/-- `docker_failure_reason`. -/
def dockerFailureReason (stderr : String) (spawnError : Option ErrorKind) : String :=
  if Apt.containsText "permission denied".toList (toAsciiLowercase stderr.toList) then
    "docker_permission_denied"
  else if spawnError = some .notFound then "docker_cli_unavailable"
  else "docker_unavailable"

/-- The reason when a command has not succeeded. -/
def failureReason : Except ErrorKind DockerCommandOutput → String
  | .ok output => dockerFailureReason output.stderr none
  | .error kind => dockerFailureReason "" (some kind)

/-- `sanitize_docker_labels`. -/
def sanitizeDockerLabels (labels : List Char) : List String :=
  ((splitOn ',' labels).map trim).filterMap fun label =>
    let name := toAsciiLowercase (((splitOnce '=' label).map (·.1)).getD label)
    if label = [] ∨ ["secret", "token", "password", "credential", "private_key"].any
        (fun term => Apt.containsText term.toList name) then none
    else some (String.ofList label)

/-- The container of a line. -/
def dockerContainer (line : List Char) : Option DockerContainerInfo :=
  match splitN '\t' 7 line with
  | id :: name :: image :: state :: status :: rest =>
    if isSafeDockerContainerId (String.ofList id) then
      some {
        id := String.ofList id
        name := String.ofList name
        image := String.ofList image
        state := String.ofList state
        status := String.ofList status
        ports := ((Apt.splitOnText ", ".toList 0 (rest[0]?.getD [])).filter (· ≠ [])).map
          String.ofList
        startedAt := none
        createdAt := none
        imageId := none
        restartCount := none
        health := none
        oomKilled := none
        labels := sanitizeDockerLabels (rest[1]?.getD []) }
    else none
  | _ => none

/-- `parse_docker_containers`. -/
def parseDockerContainers (output : String) : List DockerContainerInfo :=
  (lines output.toList).filterMap dockerContainer

/-- What an inspection adds to a container. -/
structure DockerInspectMetadata where
  createdAt : Option String
  imageId : Option String
  restartCount : Option UInt64
  health : Option String
  oomKilled : Option Bool
  startedAt : Option String
  deriving DecidableEq, Repr, Inhabited

/-- `safe_docker_timestamp`. -/
def safeDockerTimestamp (value : Option JsonValue) : Option String :=
  (value.bind JsonValue.asStr).filter fun text => text.toList ≠ [] && text.utf8ByteSize ≤ 64

/-- The metadata of one inspected container. -/
def inspectMetadata (entry : JsonValue) : Option (String × DockerInspectMetadata) :=
  match (entry.get "Id").bind JsonValue.asStr with
  | none => none
  | some id =>
    if isSafeDockerContainerId id then
      let state := entry.get "State"
      some (id, {
        createdAt := safeDockerTimestamp (entry.get "Created")
        imageId := ((entry.get "Image").bind JsonValue.asStr).filter isSafeImageId
        restartCount := (entry.get "RestartCount").bind JsonValue.asU64
        health := ((state.bind fun state => state.pointer ["Health", "Status"]).bind
          JsonValue.asStr).filter fun status => status ∈ ["starting", "healthy", "unhealthy"]
        oomKilled := (state.bind fun state => state.get "OOMKilled").bind JsonValue.asBool
        startedAt := safeDockerTimestamp (state.bind fun state => state.get "StartedAt") })
    else none

/-- `parse_docker_inspect_metadata`. -/
def parseDockerInspectMetadata (output : String) : List (String × DockerInspectMetadata) :=
  match parse output with
  | some (.array entries) => entries.filterMap inspectMetadata
  | _ => []

/-- The container with what was found out about it; of two entries the later one counts. -/
def withMetadata (metadata : List (String × DockerInspectMetadata))
    (container : DockerContainerInfo) : DockerContainerInfo :=
  match metadata.reverse.find? fun entry => entry.1 = container.id with
  | none => container
  | some (_, found) => { container with
      createdAt := found.createdAt
      imageId := found.imageId
      restartCount := found.restartCount
      health := found.health
      oomKilled := found.oomKilled
      startedAt := found.startedAt }

/-- A discovery without containers. -/
def unavailable (reason : String) : Handler DockerDiscovery := do
  let now : Timestamp ← perform .now
  return ⟨false, some reason, now, []⟩

/-- `agent_docker_containers`. -/
def agentDockerContainers (authorized : Bool) (platform : AgentPlatform) :
    Handler DockerDiscovery := do
  .require authorized ⟨401, "unauthorized"⟩
  if platform = .windows then unavailable "unsupported_platform"
  else
    let answer : Except ErrorKind DockerCommandOutput ← perform (.docker
      ["ps", "--all", "--no-trunc", "--format", template "\\t"
        [".ID", ".Names", ".Image", ".State", ".Status", ".Ports", ".Labels"]] none)
    match successText answer with
    | none => unavailable (failureReason answer)
    | some output =>
      let containers := parseDockerContainers output
      if containers = [] then
        let now : Timestamp ← perform .now
        return ⟨true, none, now, []⟩
      else
        let answer : Except ErrorKind DockerCommandOutput ←
          perform (.docker ("inspect" :: containers.map (·.id)) none)
        match successText answer with
        | none => unavailable (failureReason answer)
        | some inspect =>
          let now : Timestamp ← perform .now
          return ⟨true, none, now,
            containers.map (withMetadata (parseDockerInspectMetadata parse inspect))⟩

/-! ### Starting and stopping -/

inductive DockerLifecycleAction
  | start | stop | restart
  deriving DecidableEq, Repr, Inhabited

def DockerLifecycleAction.word : DockerLifecycleAction → String
  | .start => "start"
  | .stop => "stop"
  | .restart => "restart"

structure DockerLifecycleRequest where
  containerId : String
  action : DockerLifecycleAction
  deriving DecidableEq, Repr, Inhabited

structure DockerLifecycleResult where
  containerId : String
  action : DockerLifecycleAction
  completedAt : Timestamp
  deriving DecidableEq, Repr, Inhabited

/-- The checks that come first: the token, the platform and the id. -/
def admitted (authorized : Bool) (platform : AgentPlatform) : Handler Unit := do
  .require authorized ⟨401, "unauthorized"⟩
  .require (platform = .linux) ⟨501, "unsupported_platform"⟩

/-- `agent_docker_lifecycle`. -/
def agentDockerLifecycle (authorized : Bool) (platform : AgentPlatform)
    (request : DockerLifecycleRequest) : Handler DockerLifecycleResult := do
  admitted authorized platform
  .require (isSafeDockerContainerId request.containerId) ⟨400, "invalid_container_id"⟩
  let answer : Option (Except ErrorKind DockerCommandOutput) ←
    perform (.dockerWithin 30 [request.action.word, request.containerId] none)
  match answer with
  | none => .fail ⟨504, "docker_action_timeout"⟩
  | some (.error kind) => .fail ⟨503, failureReason (.error kind)⟩
  | some (.ok output) =>
    .require output.success ⟨400, failureReason (.ok output)⟩
    let now : Timestamp ← perform .now
    return ⟨request.containerId, request.action, now⟩

/-! ### Is there a newer image -/

inductive DockerImageUpdateStatus
  | current | updateAvailable | pinned | unknown
  deriving DecidableEq, Repr, Inhabited

structure DockerImageUpdateResult where
  containerId : String
  image : String
  currentImageId : Option String
  remoteImageId : Option String
  status : DockerImageUpdateStatus
  reason : Option String
  checkedAt : Timestamp
  deriving DecidableEq, Repr, Inhabited

/-- `image inspect` of the platform of an image. -/
def platformCall (imageId : String) : HostCall :=
  .docker ["image", "inspect", "--format", template "/" [".Os", ".Architecture"], imageId] none

/-- `manifest inspect`. -/
def manifestCall (image : String) : HostCall :=
  .dockerWithin 30 ["manifest", "inspect", "--verbose", image] none

/-- What a command has printed, without the white space around it. -/
def trimmed (text : String) : String := String.ofList (trim text.toList)

/-- The part of the check that asks the registry. -/
def checkRegistry (result : DockerImageUpdateResult) (currentImageId : String) :
    Handler DockerImageUpdateResult := do
  let answer : Except ErrorKind DockerCommandOutput ← perform (platformCall currentImageId)
  match successText answer with
  | none => return { result with reason := some "local_platform_unavailable" }
  | some architecture =>
    let answer : Option (Except ErrorKind DockerCommandOutput) ←
      perform (manifestCall result.image)
    match answer.bind successText with
    | none => return { result with reason := some "registry_unavailable_or_unauthorized" }
    | some manifest =>
      match parseRemoteImageConfigDigest parse manifest (trimmed architecture) with
      | none => return { result with reason := some "remote_platform_digest_unavailable" }
      | some remoteImageId =>
        return { result with
          status := if remoteImageId = currentImageId then .current else .updateAvailable
          remoteImageId := some remoteImageId }

/-- `agent_docker_image_update_check`. -/
def agentDockerImageUpdateCheck (authorized : Bool) (platform : AgentPlatform)
    (containerId : String) : Handler DockerImageUpdateResult := do
  admitted authorized platform
  .require (isSafeDockerContainerId containerId) ⟨400, "invalid_container_id"⟩
  let answer : Except ErrorKind DockerCommandOutput ← perform (.docker
    ["inspect", "--format", template "\\t" [".Config.Image", ".Image"], containerId] none)
  let inspect ← .ofOption (successText answer) ⟨404, "container_unavailable"⟩
  let fields ← .ofOption (splitOnce '\t' (trim inspect.toList))
    ⟨502, "container_metadata_unavailable"⟩
  let image := String.ofList (trim fields.1)
  let currentImageId := String.ofList (trim fields.2)
  .require (safeImageReference image && isSafeImageId currentImageId)
    ⟨502, "container_metadata_invalid"⟩
  let now : Timestamp ← perform .now
  let result : DockerImageUpdateResult :=
    ⟨containerId, image, some currentImageId, none, .unknown, none, now⟩
  if Apt.containsText "@sha256:".toList image.toList then
    return { result with status := .pinned, reason := some "digest_pinned" }
  else checkRegistry parse result currentImageId

/-! ### An update of a Compose service -/

/-- A service of a Compose project whose file is inside the directory of the project. -/
structure ComposeContext where
  project : String
  service : String
  workingDir : CanonicalPath
  configFile : CanonicalPath
  deriving DecidableEq, Repr, Inhabited

namespace ComposeContext

def args (compose : ComposeContext) (operation : List String) : List String :=
  ["compose", "--project-name", compose.project, "--project-directory", compose.workingDir.text,
    "--file", compose.configFile.text] ++ operation

/-- An operation on the project, in its directory. -/
def within (compose : ComposeContext) (seconds : Nat) (operation : List String) : HostCall :=
  .dockerWithin seconds (compose.args operation) (some compose.workingDir)

def configCall (compose : ComposeContext) : HostCall :=
  compose.within 30 ["config", "--hash", compose.service]

def pullCall (compose : ComposeContext) : HostCall :=
  compose.within 120 ["pull", compose.service]

def scopeCall (compose : ComposeContext) : HostCall :=
  compose.within 30 ["ps", "--all", "--quiet", compose.service]

def recreateCall (compose : ComposeContext) : HostCall :=
  compose.within 120 ["up", "--detach", "--no-deps", "--force-recreate", "--wait",
    "--wait-timeout", "120", compose.service]

/-- The list of the containers of the service, without a time limit. -/
def listCall (compose : ComposeContext) : HostCall :=
  .docker (compose.args ["ps", "--all", "--quiet", compose.service]) (some compose.workingDir)

end ComposeContext

/-- `validated_compose_context`; the two paths are read before the file system is asked. -/
def validatedComposeContext (labels : JsonValue) : Handler (Option ComposeContext) := do
  let label := fun name => (labels.get name).bind JsonValue.asStr
  match label "com.docker.compose.project", label "com.docker.compose.service",
    label "com.docker.compose.project.working_dir",
    label "com.docker.compose.project.config_files" with
  | some project, some service, some workingDir, some configFiles =>
    if !safeComposeIdentifier project || !safeComposeIdentifier service then return none
    else
      match splitOn ',' configFiles.toList with
      | [configFile] =>
        let root : Option CanonicalPath ← perform (.canonicalize workingDir)
        match root with
        | none => return none
        | some root =>
          let file : Option CanonicalPath ←
            perform (.canonicalize (String.ofList (trim configFile)))
          match file with
          | none => return none
          | some file =>
            let isDir : Bool ← perform (.isDir root)
            if !isDir then return none
            else
              let isFile : Bool ← perform (.isFile file)
              if !isFile || !file.startsWith root then return none
              else return some ⟨project, service, root, file⟩
      | _ => return none
  | _, _, _, _ => return none

/-- A container that may be updated. -/
structure InspectedDockerUpdateContainer where
  containerId : String
  image : String
  imageId : String
  compose : ComposeContext
  deriving DecidableEq, Repr, Inhabited

/-- `docker inspect` before an update. -/
def inspectCall (containerId : String) : HostCall :=
  .docker ["inspect", "--format",
    template "\t" [".Id", ".Config.Image", ".Image", "json .Config.Labels"], containerId] none

/-- The id, the image, its id and the labels of an inspected container. -/
def inspectedFields (containerId inspect : String) : Option (String × String × String × String) :=
  match (splitN '\t' 4 (trim inspect.toList)).map String.ofList with
  | [id, image, imageId, labels] =>
    if containerId.toList.isPrefixOf id.toList && isSafeImageId imageId
        && safeImageReference image then some (id, image, imageId, labels)
    else none
  | _ => none

/-- `inspect_compose_update_container`. -/
def inspectComposeUpdateContainer (containerId : String) :
    Handler InspectedDockerUpdateContainer := do
  let answer : Except ErrorKind DockerCommandOutput ← perform (inspectCall containerId)
  let inspect ← .ofOption (successText answer) ⟨404, "container_unavailable"⟩
  let (id, image, imageId, labels) ← .ofOption (inspectedFields containerId inspect)
    ⟨502, "container_metadata_invalid"⟩
  let labels ← .ofOption (parse labels) ⟨502, "compose_labels_invalid"⟩
  let compose ← validatedComposeContext labels
  let compose ← .ofOption compose ⟨409, "compose_metadata_required"⟩
  .require ((labels.get "com.docker.compose.container-number").bind JsonValue.asStr = some "1")
    ⟨409, "compose_replicas_unsupported"⟩
  let savedConfigHash ← .ofOption
    ((labels.get "com.docker.compose.config-hash").bind JsonValue.asStr)
    ⟨409, "compose_config_hash_required"⟩
  let configHash : Option (Except ErrorKind DockerCommandOutput) ← perform compose.configCall
  match configHash with
  | some (.ok output) =>
    .require (output.success && trimmed output.stdout = savedConfigHash)
      ⟨409, "compose_config_changed"⟩
    return ⟨id, image, imageId, compose⟩
  | _ => .fail ⟨502, "compose_config_inspection_failed"⟩

/-- `verify_remote_update_image`. -/
def verifyRemoteUpdateImage (container : InspectedDockerUpdateContainer)
    (expectedRemoteImageId : String) : Handler String := do
  let answer : Except ErrorKind DockerCommandOutput ← perform (platformCall container.imageId)
  let architecture ← .ofOption (successText answer) ⟨502, "local_platform_unavailable"⟩
  let answer : Option (Except ErrorKind DockerCommandOutput) ←
    perform (manifestCall container.image)
  let manifest ← .ofOption (answer.bind successText)
    ⟨502, "registry_unavailable_or_unauthorized"⟩
  let remoteImageId ← .ofOption
    (parseRemoteImageConfigDigest parse manifest (trimmed architecture))
    ⟨502, "remote_platform_digest_unavailable"⟩
  .require (remoteImageId = expectedRemoteImageId && remoteImageId ≠ container.imageId)
    ⟨409, "image_update_check_stale"⟩
  return remoteImageId

/-- `image inspect` of the image that a name stands for now. -/
def pulledImageCall (image : String) : HostCall :=
  .docker ["image", "inspect", "--format", template "" [".Id"], image] none

/-- `verify_pulled_image`. -/
def verifyPulledImage (container : InspectedDockerUpdateContainer) (remoteImageId : String) :
    Handler Unit := do
  let answer : Except ErrorKind DockerCommandOutput ← perform (pulledImageCall container.image)
  let pulled ← .ofOption (successText answer) ⟨502, "pulled_image_unavailable"⟩
  .require (trimmed pulled = remoteImageId) ⟨409, "pulled_image_digest_mismatch"⟩

/-- The ids that `docker compose ps --quiet` prints. -/
def listedIds (output : String) : List String :=
  (((lines output.toList).map trim).filter (· ≠ [])).map String.ofList

/-- `verify_compose_service_scope`. -/
def verifyComposeServiceScope (container : InspectedDockerUpdateContainer) : Handler Unit := do
  let answer : Option (Except ErrorKind DockerCommandOutput) ← perform container.compose.scopeCall
  match answer with
  | some (.ok output) =>
    match output.success, listedIds output.stdout with
    | true, [id] =>
      .require (container.containerId.toList.isPrefixOf id.toList)
        ⟨409, "compose_service_scope_changed"⟩
    | _, _ => .fail ⟨409, "compose_service_scope_changed"⟩
  | _ => .fail ⟨502, "compose_service_inspection_failed"⟩

/-- `recreate_compose_service`. -/
def recreateComposeService (container : InspectedDockerUpdateContainer) : Handler Unit := do
  let answer : Option (Except ErrorKind DockerCommandOutput) ←
    perform container.compose.recreateCall
  .require (answer.bind successText).isSome ⟨502, "compose_recreate_failed"⟩

structure ComposeServiceStatus where
  state : String
  health : Option String
  deriving DecidableEq, Repr, Inhabited

/-- `docker inspect` of the state of a container. -/
def statusCall (id : String) : HostCall :=
  .docker ["inspect", "--format", template "\t" [".State.Status", "if .State.Health"]
    ++ template "" [".State.Health.Status", "end"], id] none

/-- `inspect_updated_compose_service`. -/
def inspectUpdatedComposeService (compose : ComposeContext) : Handler ComposeServiceStatus := do
  let listing : Except ErrorKind DockerCommandOutput ← perform compose.listCall
  match listing with
  | .error _ => .fail ⟨502, "updated_service_inspection_failed"⟩
  | .ok output =>
    match output.success, listedIds output.stdout with
    | true, [id] =>
      .require (isSafeDockerContainerId id) ⟨502, "updated_service_scope_invalid"⟩
      let inspected : Except ErrorKind DockerCommandOutput ← perform (statusCall id)
      match inspected with
      | .error _ => .fail ⟨502, "updated_service_inspection_failed"⟩
      | .ok inspected =>
        match inspected.success,
          (splitOn '\t' (trim inspected.stdout.toList)).map fun field =>
            String.ofList (trim field) with
        | true, [state, health] =>
          .require (state = "running") ⟨502, "updated_service_not_running"⟩
          .require (health = "" || health = "healthy") ⟨502, "updated_service_unhealthy"⟩
          return ⟨state, if health = "" then none else some health⟩
        | _, _ => .fail ⟨502, "updated_service_not_running"⟩
    | _, _ => .fail ⟨502, "updated_service_scope_invalid"⟩

/-- `apply_compose_image_update`. -/
def applyComposeImageUpdate (container : InspectedDockerUpdateContainer) (remoteImageId : String) :
    Handler ComposeServiceStatus := do
  let pull : Option (Except ErrorKind DockerCommandOutput) ← perform container.compose.pullCall
  .require (pull.bind successText).isSome ⟨502, "compose_pull_failed"⟩
  verifyPulledImage container remoteImageId
  verifyComposeServiceScope container
  recreateComposeService container
  inspectUpdatedComposeService container.compose

structure DockerImageUpdateApplyRequest where
  containerId : String
  expectedRemoteImageId : String
  deriving DecidableEq, Repr, Inhabited

structure DockerImageUpdateApplyResult where
  containerId : String
  image : String
  composeProject : String
  composeService : String
  imageId : String
  serviceState : String
  healthStatus : Option String
  completedAt : Timestamp
  deriving DecidableEq, Repr, Inhabited

/-- `agent_docker_image_update_apply`. -/
def agentDockerImageUpdateApply (authorized : Bool) (platform : AgentPlatform)
    (request : DockerImageUpdateApplyRequest) : Handler DockerImageUpdateApplyResult := do
  admitted authorized platform
  .require (isSafeDockerContainerId request.containerId
    && isSafeImageId request.expectedRemoteImageId) ⟨400, "invalid_update_request"⟩
  let inspected ← inspectComposeUpdateContainer parse request.containerId
  let remoteImageId ← verifyRemoteUpdateImage parse inspected request.expectedRemoteImageId
  let status ← applyComposeImageUpdate inspected remoteImageId
  let now : Timestamp ← perform .now
  return ⟨request.containerId, inspected.image, inspected.compose.project,
    inspected.compose.service, remoteImageId, status.state, status.health, now⟩

end Lxcup.Docker
