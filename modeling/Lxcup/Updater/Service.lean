import Lxcup.Lib.Program
import Lxcup.Apt.Texts
import Lxcup.Updater.Artifacts

/-!
# The update of a Windows agent by itself

`update_agent_binary` runs as a process of its own, started by the agent that is to be replaced.
It downloads the new binary, verifies it, puts it beside the running one, points the Windows
service at it and starts the service.  When the new agent does not answer as the version that was
asked for, the service is pointed back.

Requests, files, the service manager and the health check are effects with arbitrary answers.

## Main definitions

* `UpdaterCall` with its answers.
* `downloadVerifiedWindowsArtifact`, `restartService`, `restoreService`, `waitServiceState`,
  `waitForAgentVersion`, `updateAgentBinary` — the functions of the source.
-/

namespace Lxcup.Updater

open Lxcup.Lib Lxcup.Core Lxcup.Agent

/-! ### Paths and addresses -/

/-- A path, as its components. -/
abbrev Path := List String

/-- `to_string_lossy`. -/
def Path.text (path : Path) : String := "\\".intercalate path

def installDirectory : Path := ["C:", "Program Files", "lxcup"]

/-- `versioned_agent_path`. -/
def versionedAgentPath (directory : Path) (version : String) : Path :=
  directory ++ ["lxcup-agent-" ++ version ++ ".exe"]

def stagedPath (version : String) : Path :=
  installDirectory ++ ["lxcup-agent-" ++ version ++ ".staged.exe"]

/-- `file_stem`: without the last dot and what is behind it, unless the dot comes first. -/
def fileStem (path : Path) : Option (List Char) :=
  path.getLast?.map fun name =>
    match splitOnce '.' name.toList.reverse with
    | some (_, stem) => if stem = [] then name.toList else stem.reverse
    | none => name.toList

/-- The version in the name of an agent's binary. -/
def agentVersionOf (path : Path) : Option String :=
  ((fileStem path).bind (stripPrefix "lxcup-agent-".toList)).map String.ofList

/-- An address, as `reqwest::Url` reads it. -/
structure Url where
  text : String
  scheme : String
  host : Option String
  /-- The host is the literal address of a loopback interface. -/
  loopback : Bool
  username : String
  password : Option String
  query : Option String
  fragment : Option String
  deriving DecidableEq, Repr

/-- `Url::parse`. -/
abbrev UrlParser := String → Option Url

/-- `validated_controller_url`. -/
def validatedControllerUrl (parse : UrlParser) (controller : String) : Except String Url :=
  match parse controller with
  | none => .error "controller URL is invalid"
  | some url =>
    let isLoopback := url.loopback || url.host = some "localhost"
    let secureTransport := url.scheme = "https" || (url.scheme = "http" && isLoopback)
    let hasCredentials := url.username ≠ "" || url.password.isSome
    let hasUrlSuffix := url.query.isSome || url.fragment.isSome
    if !secureTransport || hasCredentials || hasUrlSuffix then
      .error "controller URL must use validated HTTPS"
    else .ok url

/-- `trim_end_matches('/')`. -/
def trimEndSlashes (text : String) : String :=
  String.ofList (text.toList.reverse.dropWhile (· = '/')).reverse

/-! ### Effects -/

/-- What comes of the download of a manifest. -/
inductive ManifestAnswer
  | unavailable
  | invalid
  | ok (manifest : ArtifactManifest)
  deriving DecidableEq, Repr

/-- What comes of the download of a binary: the length that is announced, and the body unless it
breaks off. -/
structure BinaryAnswer where
  contentLength : Option Nat
  body : Option (List UInt8)
  deriving DecidableEq, Repr

/-- What comes of reading a file. -/
inductive FileAnswer
  | notOpened
  | notRead
  | contents (bytes : List UInt8)
  deriving DecidableEq, Repr

/-- How `sc.exe` ends. -/
inductive ScAnswer
  | notReached
  | failed
  | ok
  deriving DecidableEq, Repr

/-- The effects of the updater. -/
inductive UpdaterCall
  | buildClient
  | getManifest (url : String)
  | getBinary (url : String)
  | createDirAll (path : Path)
  | currentExe
  | write (path : Path) (bytes : List UInt8)
  | readFile (path : Path) (limit : Nat)
  | exists_ (path : Path)
  | removeFile (path : Path)
  | rename (source target : Path)
  | sc (args : List String)
  /-- `sc.exe query`. -/
  | query
  /-- A health check of the agent that is listening, which tells its version. -/
  | health (token : String)
  | sleep
  deriving DecidableEq, Repr

/-- What an effect answers. -/
abbrev UpdaterCall.Answer : UpdaterCall → Type
  | .buildClient | .createDirAll _ | .write .. | .exists_ _ | .removeFile _ | .rename .. => Bool
  | .getManifest _ => ManifestAnswer
  | .getBinary _ => Option BinaryAnswer
  | .currentExe => Option Path
  | .readFile .. => FileAnswer
  | .sc _ => ScAnswer
  | .query | .health _ => Option String
  | .sleep => Unit

/-- A function of the updater. -/
abbrev Update (α : Type) : Type := Process UpdaterCall UpdaterCall.Answer String Unit α

/-- Call for an effect. -/
abbrev perform (e : UpdaterCall) : Update e.Answer := Process.call e

/-! ### The download -/

variable (sha : Sha256) (parse : UrlParser)

/-- `download_verified_windows_artifact`. -/
def downloadVerifiedWindowsArtifact (base version : String) :
    Update (List UInt8 × String) := do
  let manifest : ManifestAnswer ← perform (.getManifest (base ++ "/manifest.json"))
  match manifest with
  | .unavailable => .fail "agent manifest could not be downloaded"
  | .invalid => .fail "agent manifest is invalid"
  | .ok manifest =>
    let expectedHash ← .ofExcept (windowsArtifactHash manifest version)
    let response : Option BinaryAnswer ← perform (.getBinary (base ++ "/windows-amd64.exe"))
    let response ← .ofOption response "Windows agent artifact could not be downloaded"
    .require (response.contentLength.all fun length => length ≤ maxAgentArtifactBytes)
      "Windows agent artifact exceeds the size limit"
    let bytes ← .ofOption response.body "Windows agent artifact could not be read"
    .ofExcept (verifyBinary sha expectedHash bytes)
    return (bytes, expectedHash)

/-- The checks of `validate_file` on what was read. -/
def verifyFile (expectedHash : String) (contents : List UInt8) : Except String Unit :=
  if contents.length > maxAgentArtifactBytes
      || !eqIgnoreAsciiCase (sha contents) expectedHash then
    .error "staged agent checksum does not match"
  else validateWindowsAmd64Pe contents

/-- `validate_file`. -/
def validateFile (path : Path) (expectedHash : String) : Update Unit := do
  let file : FileAnswer ← perform (.readFile path (maxAgentArtifactBytes + 1))
  match file with
  | .notOpened => .fail "staged agent could not be verified"
  | .notRead => .fail "staged agent could not be read"
  | .contents contents => .ofExcept (verifyFile sha expectedHash contents)

/-! ### The service -/

/-- `SERVICE_NAME`. -/
def serviceName : String := "lxcup-agent"

/-- `run_sc`. -/
def runSc (args : List String) : Update Unit := do
  let answer : ScAnswer ← perform (.sc args)
  match answer with
  | .notReached => .fail "Windows service manager could not be reached"
  | .failed => .fail "Windows service configuration or restart failed"
  | .ok => return ()

/-- The state is that of a line of `sc.exe query`. -/
def showsState (running : Bool) (text : String) : Bool :=
  let expected := if running then "4" else "1"
  (lines text.toList).any fun line =>
    Apt.containsText "STATE".toList line && (words line).any fun part =>
      (part.reverse.dropWhile (· = ':')).reverse = expected.toList

/-- `wait_service_state`, with the number of the looks that are left. -/
def waitServiceState (running : Bool) : Nat → Update Unit
  | 0 => .fail "Windows agent service did not reach the requested state"
  | n + 1 => do
    let text : Option String ← perform .query
    let text ← .ofOption text "Windows service state could not be checked"
    if showsState running text then return ()
    else
      let _ : Unit ← perform .sleep
      waitServiceState running n

/-- The configuration of the service for a binary. -/
def configArgs (binPath : String) : List String :=
  ["config", serviceName, "binPath=", binPath, "start=", "auto", "obj=", "LocalSystem"]

/-- `restore_service`. -/
def restoreService (previousPath : String) : Update Unit := do
  runSc (configArgs previousPath)
  runSc ["start", serviceName]

/-- The loop of `wait_for_agent_version`. -/
def awaitVersion (expected token : String) : Nat → Update Bool
  | 0 => return false
  | n + 1 => do
    let version : Option String ← perform (.health token)
    if version = some expected then return true
    else
      let _ : Unit ← perform .sleep
      awaitVersion expected token n

/-- `wait_for_agent_version`. -/
def waitForAgentVersion (path : Path) (token : String) (attempts : Nat) : Update Bool :=
  match agentVersionOf path with
  | none => return false
  | some expected => do
    let built : Bool ← perform .buildClient
    if built then awaitVersion expected token attempts else return false

/-- A path as the service manager takes it. -/
def quoted (path : Path) : String := "\"" ++ path.text ++ "\""

/-- The way back in `restart_service`. -/
def rollBack (previous : String) : Update Unit := do
  let _ ← (runSc ["stop", serviceName]).attempt
  let _ ← (waitServiceState false 30).attempt
  let rollback ← (restoreService previous).attempt
  match rollback with
  | .error _ => .fail "new agent failed health verification and service rollback failed"
  | .ok _ => .fail "new agent failed health verification; previous agent was restored"

/-- `restart_service`. -/
def restartService (currentPath nextPath : Path) (token : String) : Update Unit := do
  runSc ["stop", serviceName]
  waitServiceState false 30
  let changed ← (runSc (configArgs (quoted nextPath))).attempt
  match changed with
  | .error error =>
    let _ ← (restoreService (quoted currentPath)).attempt
    .fail error
  | .ok _ =>
    let startResult ← (runSc ["start", serviceName]).attempt
    match startResult with
    | .error _ => rollBack (quoted currentPath)
    | .ok _ =>
      let healthy ← waitForAgentVersion nextPath token 30
      if healthy then return () else rollBack (quoted currentPath)

/-- Make room for the new binary. -/
def removeStale (path : Path) : Update Unit := do
  let stale : Bool ← perform (.exists_ path)
  if !stale then return ()
  else
    let removed : Bool ← perform (.removeFile path)
    .require removed "stale staged agent could not be replaced"

/-- The second half of `update_agent_binary`, when another binary is running. -/
def replaceAgentBinary (currentPath nextPath stagedPath : Path) (bytes : List UInt8)
    (expectedHash token : String) : Update Unit := do
  let staged : Bool ← perform (.write stagedPath bytes)
  .require staged "verified agent could not be staged"
  let validated ← (validateFile sha stagedPath expectedHash).attempt
  match validated with
  | .error error =>
    let _ : Bool ← perform (.removeFile stagedPath)
    .fail error
  | .ok _ =>
    removeStale nextPath
    let activated : Bool ← perform (.rename stagedPath nextPath)
    .require activated "verified agent could not be activated"
    restartService currentPath nextPath token

/-- `update_agent_binary`. -/
def updateAgentBinary (controller token version : String) : Update Unit := do
  .require (validVersion version) "requested version is invalid"
  let controller ← .ofExcept (validatedControllerUrl parse controller)
  let base := trimEndSlashes controller.text ++ "/agent/" ++ version
  let built : Bool ← perform .buildClient
  .require built "could not create artifact client"
  let (bytes, expectedHash) ← downloadVerifiedWindowsArtifact sha base version
  let created : Bool ← perform (.createDirAll installDirectory)
  .require created "agent install directory is unavailable"
  let currentPath : Option Path ← perform .currentExe
  let currentPath ← .ofOption currentPath "current agent path is unavailable"
  let nextPath := versionedAgentPath installDirectory version
  if currentPath = nextPath then return ()
  else replaceAgentBinary sha currentPath nextPath (stagedPath version) bytes expectedHash token

end Lxcup.Updater
