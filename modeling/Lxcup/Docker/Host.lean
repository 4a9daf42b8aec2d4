import Lxcup.Lib.Program
import Lxcup.Apt.Texts

/-!
# Docker on a host, as the agent sees it

The agent works on containers through the `docker` command line.  Every command, every look at
the file system and the clock is an effect whose answer is arbitrary: Docker, the registry and
other programs of the host do what they like between two commands.

Texts that come back are checked before they are put on a command line again.

## Main definitions

* `HostCall` with its answers — what the handlers of the agent ask for.
* `CanonicalPath` — a path without symbolic links, which is absolute.
* `JsonValue` — a JSON document, as far as it is looked at.
* `isSafeDockerContainerId`, `safeImageReference`, `isSafeImageId`, `safeComposeIdentifier`.
* `parseRemoteImageConfigDigest` — the image that a registry offers for a platform.

## Main results

* `isOperand_of_safeDockerContainerId` and its likes — no checked text is taken for an option.
-/

namespace Lxcup.Docker

open Lxcup.Lib Lxcup.Core Lxcup.Agent

/-! ### Effects -/

/-- `std::io::ErrorKind`, as far as it is looked at. -/
inductive ErrorKind
  | notFound | other
  deriving DecidableEq, Repr, Inhabited

/-- What a command has answered; its texts are read by `from_utf8_lossy`. -/
structure DockerCommandOutput where
  success : Bool
  stdout : String
  stderr : String
  deriving DecidableEq, Repr, Inhabited

/-- What `canonicalize` answers: the names from the root directory on. -/
structure CanonicalPath where
  names : List String
  deriving DecidableEq, Repr, Inhabited

namespace CanonicalPath

/-- `to_string_lossy`. -/
def text (path : CanonicalPath) : String := "/" ++ "/".intercalate path.names

/-- `Path::starts_with`. -/
def startsWith (path root : CanonicalPath) : Bool := root.names.isPrefixOf path.names

end CanonicalPath

/-- The effects of the handlers. -/
inductive HostCall
  | docker (args : List String) (workingDirectory : Option CanonicalPath)
  /-- The same under `tokio::time::timeout`. -/
  | dockerWithin (seconds : Nat) (args : List String) (workingDirectory : Option CanonicalPath)
  | canonicalize (path : String)
  | isDir (path : CanonicalPath)
  | isFile (path : CanonicalPath)
  /-- `Utc::now()`. -/
  | now
  deriving DecidableEq, Repr, Inhabited

/-- What an effect answers; `none` is a command that took too long. -/
abbrev HostCall.Answer : HostCall → Type
  | .docker .. => Except ErrorKind DockerCommandOutput
  | .dockerWithin .. => Option (Except ErrorKind DockerCommandOutput)
  | .canonicalize _ => Option CanonicalPath
  | .isDir _ | .isFile _ => Bool
  | .now => Timestamp

/-- The command line of an effect. -/
def HostCall.args : HostCall → Option (List String)
  | .docker args _ | .dockerWithin _ args _ => some args
  | _ => none

/-- An error answer of the agent. -/
structure DockerFailure where
  status : Nat
  error : String
  deriving DecidableEq, Repr, Inhabited

/-- A handler of the agent. -/
abbrev Handler (α : Type) : Type := Process HostCall HostCall.Answer DockerFailure Unit α

/-- Call for an effect. -/
abbrev perform (e : HostCall) : Handler e.Answer := Process.call e

/-- `Ok(output) if output.success => output.stdout` -/
def successText : Except ErrorKind DockerCommandOutput → Option String
  | .ok output => if output.success then some output.stdout else none
  | .error _ => none

/-! ### Texts -/

/-- `is_ascii_hexdigit`. -/
def isAsciiHexdigit (c : Char) : Bool :=
  isAsciiDigit c || (65 ≤ c.toNat && c.toNat ≤ 70) || (97 ≤ c.toNat && c.toNat ≤ 102)

/-- `splitn(n, sep)`. -/
def splitN (sep : Char) : Nat → List Char → List (List Char)
  | 0, _ => []
  | 1, cs => [cs]
  | n + 2, cs =>
    match splitOnce sep cs with
    | some (part, rest) => part :: splitN sep (n + 1) rest
    | none => [cs]

/-- `is_safe_docker_container_id`, and `safe_docker_container_id`. -/
def isSafeDockerContainerId (value : String) : Bool :=
  12 ≤ value.utf8ByteSize && value.utf8ByteSize ≤ 64 && value.toList.all isAsciiHexdigit

/-- `is_safe_image_id`, and `safe_image_id`. -/
def isSafeImageId (value : String) : Bool :=
  match stripPrefix "sha256:".toList value.toList with
  | some digest => (String.ofList digest).utf8ByteSize = 64 && digest.all isAsciiHexdigit
  | none => false

/-- `safe_image_reference`. -/
def safeImageReference (value : String) : Bool :=
  value.toList ≠ [] && value.utf8ByteSize ≤ 255 && value.toList.head? ≠ some '-'
    && value.toList.all fun c => isAsciiAlphanumeric c || c ∈ "._/:@+-".toList

/-- `safe_compose_identifier`. -/
def safeComposeIdentifier (value : String) : Bool :=
  value.toList ≠ [] && value.utf8ByteSize ≤ 128 && value.toList.head? ≠ some '-'
    && value.toList.all fun c => isAsciiAlphanumeric c || c ∈ "_.-".toList

/-! ### Command lines -/

/-- A text that a command does not take for an option. -/
def IsOperand (value : String) : Prop := value.toList.head? ≠ some '-'

instance (value : String) : Decidable (IsOperand value) := inferInstanceAs (Decidable (_ ≠ _))

theorem isOperand_of_safeDockerContainerId {value : String}
    (h : isSafeDockerContainerId value = true) : IsOperand value := by
  simp only [isSafeDockerContainerId, Bool.and_eq_true, List.all_eq_true] at h
  intro hhead
  have hdash := h.2 '-' (List.mem_of_head? hhead)
  revert hdash
  decide

theorem isOperand_of_safeImageId {value : String} (h : isSafeImageId value = true) :
    IsOperand value := by
  unfold isSafeImageId at h
  split at h
  case h_1 digest hdigest =>
    rw [IsOperand, Apt.stripPrefix_eq_some.mp hdigest]
    simp
  case h_2 => exact absurd h (by simp)

theorem isOperand_of_safeImageReference {value : String} (h : safeImageReference value = true) :
    IsOperand value := by
  simp only [safeImageReference, Bool.and_eq_true, decide_eq_true_eq] at h
  exact h.1.2

theorem isOperand_of_safeComposeIdentifier {value : String}
    (h : safeComposeIdentifier value = true) : IsOperand value := by
  simp only [safeComposeIdentifier, Bool.and_eq_true, decide_eq_true_eq] at h
  exact h.1.2

theorem CanonicalPath.isOperand (path : CanonicalPath) : IsOperand path.text := by
  simp [IsOperand, text]

/-! ### JSON -/

/-- `serde_json::Value`, as far as it is looked at: of a number only what `as_u64` makes of it. -/
inductive JsonValue
  | null
  | bool (value : Bool)
  | number (value : Option UInt64)
  | string (value : String)
  | array (values : List JsonValue)
  | object (entries : List (String × JsonValue))
  deriving Repr, Inhabited

namespace JsonValue

/-- `get` with the name of an entry. -/
def get (name : String) : JsonValue → Option JsonValue
  | object entries => (entries.find? fun entry => entry.1 = name).map (·.2)
  | _ => none

def asStr : JsonValue → Option String
  | string value => some value
  | _ => none

def asU64 : JsonValue → Option UInt64
  | number value => value
  | _ => none

def asBool : JsonValue → Option Bool
  | bool value => some value
  | _ => none

/-- `pointer`, for names of entries. -/
def pointer : List String → JsonValue → Option JsonValue
  | [], value => some value
  | name :: names, value => (value.get name).bind (pointer names)

end JsonValue

/-- `serde_json::from_str`. -/
abbrev JsonParser := String → Option JsonValue

/-! ### What a registry offers -/

/-- The platform that an entry of a manifest is for. -/
def descriptorPlatform (entry : JsonValue) : Option JsonValue :=
  (entry.pointer ["Descriptor", "platform"]).orElse fun _ =>
    (entry.pointer ["descriptor", "platform"]).orElse fun _ =>
      (entry.get "Platform").orElse fun _ => entry.get "platform"

/-- An entry without a platform is for every one. -/
def platformMatches (entry : JsonValue) (platform : String) : Bool :=
  match descriptorPlatform entry with
  | none => true
  | some value =>
    ((value.get "os").bind JsonValue.asStr).getD "" ++ "/"
      ++ ((value.get "architecture").bind JsonValue.asStr).getD "" = platform

/-- The digest of the configuration in an entry, which is the id of the image. -/
def configDigest (entry : JsonValue) : Option String :=
  let manifest := ((entry.get "SchemaV2Manifest").orElse fun _ =>
    (entry.get "schema2Manifest").orElse fun _ => entry.get "manifest").getD entry
  ((manifest.pointer ["config", "digest"]).orElse fun _ =>
    manifest.pointer ["Config", "Digest"]).bind JsonValue.asStr

/-- The loop over the entries: one for the platform without a digest ends it. -/
def findConfigDigest (platform : String) : List JsonValue → Option String
  | [] => none
  | entry :: entries =>
    if !platformMatches entry platform then findConfigDigest platform entries
    else
      match configDigest entry with
      | none => none
      | some digest =>
        if isSafeImageId digest then some digest else findConfigDigest platform entries

/-- `parse_remote_image_config_digest`. -/
def parseRemoteImageConfigDigest (parse : JsonParser) (output platform : String) :
    Option String :=
  match parse output with
  | none => none
  | some (.array values) => findConfigDigest platform values
  | some value => findConfigDigest platform [value]

end Lxcup.Docker
