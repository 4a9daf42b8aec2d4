import Lxcup.Docker.Agent
import Lxcup.Lib.Recorded

/-!
# The commands that the agent runs

The ids, names and paths on a command line come from requests, from labels of containers and from
what Docker has answered before.  None of them decides what a command does: every command line is
one of a few shapes, in which fixed words stand at fixed places and no other word is an option.

## Main definitions

* `Shape.Fits` — a command line of a shape.
* `Request`, `handle` — the four requests, with what each may run.

## Main results

* `handle_runs_fixed_commands` — every command has a shape of its request, and no other options.
-/

namespace Lxcup.Docker

open Lxcup.Lib Lxcup.Core Lxcup.Agent

/-! ### Shapes -/

/-- The words of a command line; `none` stands for an operand. -/
abbrev Shape := List (Option String)

/-- The word is the fixed one, or an operand. -/
def WordFits : Option String → String → Prop
  | some word, arg => arg = word
  | none, arg => IsOperand arg

/-- The command line has the shape. -/
def Shape.Fits (shape : Shape) (args : List String) : Prop := List.Forall₂ WordFits shape args

/-- Fixed words. -/
def fixed (words : List String) : Shape := words.map some

/-- The words of a shape that are options. -/
def Shape.options (shape : Shape) : List String :=
  (shape.filterMap id).filter fun word => ¬IsOperand word

theorem fits_fixed (words : List String) : (fixed words).Fits words := by
  induction words with
  | nil => exact .nil
  | cons word words ih => exact .cons rfl ih

theorem fits_operands {args : List String} (h : ∀ arg ∈ args, IsOperand arg) :
    Shape.Fits (List.replicate args.length none) args := by
  induction args with
  | nil => exact .nil
  | cons arg args ih =>
    exact .cons (h arg List.mem_cons_self) (ih fun other hother => h other (.tail _ hother))

namespace Shape

variable {shape shape' : Shape} {args args' : List String}

theorem Fits.append (h : shape.Fits args) (h' : shape'.Fits args') :
    (shape ++ shape').Fits (args ++ args') :=
  List.rel_append h h'

/-- **The options on a command line are those of its shape.** -/
theorem Fits.options (h : shape.Fits args) :
    args.filter (fun arg => ¬IsOperand arg) = shape.options := by
  induction h with
  | nil => rfl
  | @cons word arg shape args hword _ ih =>
    cases word with
    | none =>
      have hoperand : IsOperand arg := hword
      rw [List.filter_cons_of_neg (by simpa using hoperand), ih]
      rfl
    | some word =>
      obtain rfl : arg = word := hword
      simp only [Shape.options, List.filterMap_cons, id_eq, List.filter_cons] at ih ⊢
      rw [ih]

end Shape

/-- `inspect` with a format, of something. -/
def inspectShape (command : List String) (format : String) : Shape :=
  fixed (command ++ ["inspect", "--format", format]) ++ [none]

/-- An operation on a service of a Compose project. -/
def composeShape (operation : List String) : Shape :=
  fixed ["compose", "--project-name"] ++ [none] ++ fixed ["--project-directory"] ++ [none]
    ++ fixed ["--file"] ++ [none] ++ fixed operation ++ [none]

/-! ### Requests -/

/-- A request to the agent. -/
inductive Request
  | containers
  | lifecycle (request : DockerLifecycleRequest)
  | imageUpdateCheck (containerId : String)
  | imageUpdateApply (request : DockerImageUpdateApplyRequest)
  deriving DecidableEq, Repr

/-- What the agent answers to it. -/
abbrev Request.Response : Request → Type
  | containers => DockerDiscovery
  | lifecycle _ => DockerLifecycleResult
  | imageUpdateCheck _ => DockerImageUpdateResult
  | imageUpdateApply _ => DockerImageUpdateApplyResult

/-- The handler of a request. -/
def handle (parse : JsonParser) (authorized : Bool) (platform : AgentPlatform) :
    (request : Request) → Handler request.Response
  | .containers => agentDockerContainers parse authorized platform
  | .lifecycle request => agentDockerLifecycle authorized platform request
  | .imageUpdateCheck containerId =>
    agentDockerImageUpdateCheck parse authorized platform containerId
  | .imageUpdateApply request => agentDockerImageUpdateApply parse authorized platform request

/-- The shapes that read the platform of an image, and what a registry offers for a name. -/
def registryShapes : List Shape :=
  [inspectShape ["image"] (template "/" [".Os", ".Architecture"]),
    fixed ["manifest", "inspect", "--verbose"] ++ [none]]

/-- The shapes of a request; `n` is how many containers are inspected. -/
def Request.shapes (n : Nat) : Request → List Shape
  | containers =>
    [fixed ["ps", "--all", "--no-trunc", "--format", template "\\t"
        [".ID", ".Names", ".Image", ".State", ".Status", ".Ports", ".Labels"]],
      fixed ["inspect"] ++ List.replicate n none]
  | lifecycle request => [fixed [request.action.word] ++ [none]]
  | imageUpdateCheck _ =>
    inspectShape [] (template "\\t" [".Config.Image", ".Image"]) :: registryShapes
  | imageUpdateApply _ =>
    inspectShape [] (template "\t" [".Id", ".Config.Image", ".Image", "json .Config.Labels"])
      :: inspectShape ["image"] (template "" [".Id"])
      :: inspectShape [] (template "\t" [".State.Status", "if .State.Health"]
          ++ template "" [".State.Health.Status", "end"])
      :: registryShapes
      ++ [["config", "--hash"], ["pull"], ["ps", "--all", "--quiet"],
          ["up", "--detach", "--no-deps", "--force-recreate", "--wait", "--wait-timeout",
            "120"]].map composeShape

/-- Every command of the effect has a shape of the request. -/
def Request.Allows (request : Request) (call : HostCall) : Prop :=
  ∀ args, call.args = some args → ∃ n, ∃ shape ∈ request.shapes n, shape.Fits args

/-! ### The commands of the handlers -/

/-- Every command of the process has a shape of the request, and what it returns meets `ok`. -/
def Keeps (request : Request) {α : Type} (ok : α → Prop) (p : Handler α) : Prop :=
  ∀ seen, Process.Only request.Allows (fun _ _ => True) (fun _ a => ok a) p seen

section Keeps

variable {request : Request} {α β : Type} {ok : α → Prop} {ok' : β → Prop}

theorem Keeps.bind {p : Handler α} {f : α → Handler β} (hp : Keeps request ok p)
    (hf : ∀ a, ok a → Keeps request ok' (f a)) : Keeps request ok' (p >>= f) :=
  fun seen => (hp seen).bind fun more a _ ha => hf a ha more

theorem Keeps.mono {ok' : α → Prop} {p : Handler α} (hp : Keeps request ok p)
    (h : ∀ a, ok a → ok' a) : Keeps request ok' p :=
  fun seen => (hp seen).mono fun _ => h

theorem keeps_pure {a : α} (h : ok a) : Keeps request ok (pure a) := fun _ => Process.only_pure h

theorem keeps_fail (e : DockerFailure) : Keeps request ok (Process.fail e) :=
  fun _ => Process.only_fail trivial

theorem keeps_perform {call : HostCall} (h : request.Allows call) :
    Keeps request (fun _ => True) (perform call) :=
  fun _ => (Process.only_call h).mono fun _ _ _ => trivial

theorem keeps_ofOption (o : Option α) (e : DockerFailure) :
    Keeps request (fun a => o = some a) (Process.ofOption o e) := by
  cases o with
  | none => exact keeps_fail e
  | some a => exact keeps_pure rfl

theorem keeps_require (cond : Bool) (e : DockerFailure) :
    Keeps request (fun _ => cond = true) (Process.require cond e) :=
  fun _ => Process.only_check trivial id

theorem allows_of_args_eq_none {call : HostCall} (h : call.args = none) : request.Allows call :=
  fun _ hargs => absurd hargs (by simp [h])

theorem allows_of_mem {call : HostCall} {args : List String} {shape : Shape} (n : Nat)
    (hargs : call.args = some args) (hmem : shape ∈ request.shapes n) (hfits : shape.Fits args) :
    request.Allows call := by
  intro args' hargs'
  obtain rfl := Option.some.inj (hargs.symm.trans hargs')
  exact ⟨n, shape, hmem, hfits⟩

theorem fits_operand (words : List String) {arg : String} (h : IsOperand arg) :
    Shape.Fits (fixed words ++ [none]) (words ++ [arg]) :=
  (fits_fixed words).append (.cons h .nil)

theorem fits_compose {compose : ComposeContext} (hproject : IsOperand compose.project)
    (hservice : IsOperand compose.service) (operation : List String) :
    (composeShape operation).Fits (compose.args (operation ++ [compose.service])) :=
  .cons rfl (.cons rfl (.cons hproject (.cons rfl (.cons compose.workingDir.isOperand
    (.cons rfl (.cons compose.configFile.isOperand (fits_operand _ hservice)))))))

end Keeps

/-- The ids of the listed containers are safe. -/
theorem safe_of_mem_parseDockerContainers {output : String} {container : DockerContainerInfo}
    (h : container ∈ parseDockerContainers output) :
    isSafeDockerContainerId container.id = true := by
  obtain ⟨line, -, hline⟩ := List.mem_filterMap.mp h
  unfold dockerContainer at hline
  split at hline
  case h_1 id name image state status rest heq =>
    split at hline
    case isTrue hsafe =>
      obtain rfl := Option.some.inj hline
      exact hsafe
    case isFalse => exact absurd hline (by simp)
  case h_2 => exact absurd hline (by simp)

variable {parse : JsonParser}

theorem keeps_unavailable {request : Request} (reason : String) :
    Keeps request (fun _ => True) (unavailable reason) :=
  (keeps_perform (allows_of_args_eq_none rfl)).bind fun _ _ => keeps_pure trivial

theorem keeps_containers (authorized : Bool) (platform : AgentPlatform) :
    Keeps .containers (fun _ => True) (agentDockerContainers parse authorized platform) := by
  refine (keeps_require _ _).bind fun _ _ => ?_
  split
  case isTrue => exact keeps_unavailable _
  refine (keeps_perform (allows_of_mem 0 rfl (.head _) (fits_fixed _))).bind fun answer _ => ?_
  split
  case h_1 => exact keeps_unavailable _
  case h_2 output _ =>
    dsimp only
    split
    case isTrue =>
      exact (keeps_perform (allows_of_args_eq_none rfl)).bind fun _ _ => keeps_pure trivial
    have hids : ∀ id ∈ (parseDockerContainers output).map (·.id), IsOperand id := by
      intro id hid
      obtain ⟨container, hcontainer, rfl⟩ := List.mem_map.mp hid
      exact isOperand_of_safeDockerContainerId (safe_of_mem_parseDockerContainers hcontainer)
    refine (keeps_perform (allows_of_mem _ rfl (.tail _ (.head _))
      ((fits_fixed ["inspect"]).append (fits_operands hids)))).bind fun answer _ => ?_
    split
    case h_1 => exact keeps_unavailable _
    case h_2 =>
      exact (keeps_perform (allows_of_args_eq_none rfl)).bind fun _ _ => keeps_pure trivial

theorem keeps_admitted {request : Request} (authorized : Bool) (platform : AgentPlatform) :
    Keeps request (fun _ => True) (admitted authorized platform) :=
  (keeps_require _ _).bind fun _ _ =>
    (keeps_require _ _).mono fun _ _ => trivial

theorem keeps_lifecycle (authorized : Bool) (platform : AgentPlatform)
    (request : DockerLifecycleRequest) :
    Keeps (.lifecycle request) (fun _ => True)
      (agentDockerLifecycle authorized platform request) := by
  refine (keeps_admitted _ _).bind fun _ _ => (keeps_require _ _).bind fun _ hid => ?_
  refine (keeps_perform (allows_of_mem 0 rfl (.head _) (fits_operand [_]
    (isOperand_of_safeDockerContainerId hid)))).bind fun answer _ => ?_
  split
  case h_1 => exact keeps_fail _
  case h_2 => exact keeps_fail _
  case h_3 =>
    exact (keeps_require _ _).bind fun _ _ =>
      (keeps_perform (allows_of_args_eq_none rfl)).bind fun _ _ => keeps_pure trivial

theorem keeps_platformCall {request : Request} {imageId : String}
    (hshapes : ∀ shape ∈ registryShapes, shape ∈ request.shapes 0)
    (h : isSafeImageId imageId = true) :
    Keeps request (fun _ => True) (perform (platformCall imageId)) :=
  keeps_perform (allows_of_mem 0 rfl (hshapes _ (.head _))
    (fits_operand _ (isOperand_of_safeImageId h)))

theorem keeps_manifestCall {request : Request} {image : String}
    (hshapes : ∀ shape ∈ registryShapes, shape ∈ request.shapes 0)
    (h : safeImageReference image = true) :
    Keeps request (fun _ => True) (perform (manifestCall image)) :=
  keeps_perform (allows_of_mem 0 rfl (hshapes _ (.tail _ (.head _)))
    (fits_operand _ (isOperand_of_safeImageReference h)))

theorem keeps_imageUpdateCheck (authorized : Bool) (platform : AgentPlatform)
    (containerId : String) :
    Keeps (.imageUpdateCheck containerId) (fun _ => True)
      (agentDockerImageUpdateCheck parse authorized platform containerId) := by
  have hshapes : ∀ shape ∈ registryShapes,
      shape ∈ (Request.imageUpdateCheck containerId).shapes 0 := fun _ h => .tail _ h
  refine (keeps_admitted _ _).bind fun _ _ => (keeps_require _ _).bind fun _ hid => ?_
  refine (keeps_perform (allows_of_mem 0 rfl (.head _)
    (fits_operand _ (isOperand_of_safeDockerContainerId hid)))).bind fun answer _ => ?_
  refine (keeps_ofOption _ _).bind fun inspect _ => (keeps_ofOption _ _).bind fun fields _ => ?_
  refine (keeps_require _ _).bind fun _ hsafe => ?_
  obtain ⟨himage, himageId⟩ := Bool.and_eq_true_iff.mp hsafe
  refine (keeps_perform (allows_of_args_eq_none rfl)).bind fun now _ => ?_
  dsimp only
  split
  case isTrue => exact keeps_pure trivial
  refine (keeps_platformCall hshapes himageId).bind fun answer _ => ?_
  split
  case h_1 => exact keeps_pure trivial
  refine (keeps_manifestCall hshapes himage).bind fun answer _ => ?_
  split
  case h_1 => exact keeps_pure trivial
  split
  case h_1 => exact keeps_pure trivial
  case h_2 => exact keeps_pure trivial

/-! ### The commands of an update -/

theorem keeps_validatedComposeContext {request : Request} (labels : JsonValue) :
    Keeps request (fun found => ∀ compose : ComposeContext, found = some compose →
      IsOperand compose.project ∧ IsOperand compose.service) (validatedComposeContext labels) := by
  unfold validatedComposeContext
  have hnone : Keeps request (fun found : Option ComposeContext => ∀ compose,
      found = some compose → IsOperand compose.project ∧ IsOperand compose.service) (pure none) :=
    keeps_pure fun compose h => absurd h (by simp)
  dsimp only
  split
  case h_2 => exact hnone
  case h_1 project service _ _ _ _ _ _ =>
    split
    case isTrue => exact hnone
    case isFalse hsafe =>
      obtain ⟨hproject, hservice⟩ :
          safeComposeIdentifier project = true ∧ safeComposeIdentifier service = true := by
        simpa using hsafe
      split
      case h_2 => exact hnone
      refine (keeps_perform (allows_of_args_eq_none rfl)).bind fun root _ => ?_
      split
      case h_1 => exact hnone
      refine (keeps_perform (allows_of_args_eq_none rfl)).bind fun file _ => ?_
      split
      case h_1 => exact hnone
      refine (keeps_perform (allows_of_args_eq_none rfl)).bind fun isDir _ => ?_
      split
      case isTrue => exact hnone
      refine (keeps_perform (allows_of_args_eq_none rfl)).bind fun isFile _ => ?_
      split
      case isTrue => exact hnone
      case isFalse =>
        refine keeps_pure fun compose h => ?_
        obtain rfl := Option.some.inj h
        exact ⟨isOperand_of_safeComposeIdentifier hproject,
          isOperand_of_safeComposeIdentifier hservice⟩

/-- A container whose texts may stand on a command line. -/
structure Plain (container : InspectedDockerUpdateContainer) : Prop where
  image : safeImageReference container.image = true
  imageId : isSafeImageId container.imageId = true
  project : IsOperand container.compose.project
  service : IsOperand container.compose.service

theorem safe_of_inspectedFields {containerId inspect id image imageId labels : String}
    (h : inspectedFields containerId inspect = some (id, image, imageId, labels)) :
    containerId.toList <+: id.toList ∧ isSafeImageId imageId = true
      ∧ safeImageReference image = true := by
  unfold inspectedFields at h
  split at h
  case h_2 => exact absurd h (by simp)
  case h_1 =>
    split at h
    case isFalse => exact absurd h (by simp)
    case isTrue hsafe =>
      obtain ⟨rfl, rfl, rfl, rfl⟩ : _ = id ∧ _ = image ∧ _ = imageId ∧ _ = labels := by
        simpa using h
      obtain ⟨hboth, himage⟩ := Bool.and_eq_true_iff.mp hsafe
      obtain ⟨hhash, himageId⟩ := Bool.and_eq_true_iff.mp hboth
      exact ⟨List.isPrefixOf_iff_prefix.mp hhash, himageId, himage⟩

section Apply

variable {request : DockerImageUpdateApplyRequest} {container : InspectedDockerUpdateContainer}

/-- An operation of an update on the service of a project. -/
theorem allows_compose {compose : ComposeContext} {call : HostCall} (operation : List String)
    (hproject : IsOperand compose.project) (hservice : IsOperand compose.service)
    (hargs : call.args = some (compose.args (operation ++ [compose.service])))
    (hmem : composeShape operation ∈ (Request.imageUpdateApply request).shapes 0) :
    (Request.imageUpdateApply request).Allows call :=
  allows_of_mem 0 hargs hmem (fits_compose hproject hservice operation)

theorem keeps_inspectComposeUpdateContainer {containerId : String}
    (hid : isSafeDockerContainerId containerId = true) :
    Keeps (.imageUpdateApply request) Plain
      (inspectComposeUpdateContainer parse containerId) := by
  refine (keeps_perform (allows_of_mem 0 rfl (.head _)
    (fits_operand _ (isOperand_of_safeDockerContainerId hid)))).bind fun answer _ => ?_
  refine (keeps_ofOption _ _).bind fun inspect _ => ?_
  refine (keeps_ofOption _ _).bind fun fields hfields => ?_
  obtain ⟨id, image, imageId, text⟩ := fields
  obtain ⟨-, himageId, himage⟩ := safe_of_inspectedFields hfields
  refine (keeps_ofOption _ _).bind fun labels _ => ?_
  refine (keeps_validatedComposeContext labels).bind fun found hfound => ?_
  refine (keeps_ofOption _ _).bind fun compose hcompose => ?_
  obtain ⟨hproject, hservice⟩ := hfound compose hcompose
  refine (keeps_require _ _).bind fun _ _ => (keeps_ofOption _ _).bind fun hash _ => ?_
  refine (keeps_perform (allows_compose ["config", "--hash"] hproject hservice rfl
    (by simp [Request.shapes]))).bind fun answer _ => ?_
  obtain _ | _ | output := answer
  · exact keeps_fail _
  · exact keeps_fail _
  · exact (keeps_require _ _).bind fun _ _ =>
      keeps_pure ⟨himage, himageId, hproject, hservice⟩

theorem keeps_verifyRemoteUpdateImage (h : Plain container) (expected : String) :
    Keeps (.imageUpdateApply request) (fun _ => True)
      (verifyRemoteUpdateImage parse container expected) := by
  have hshapes : ∀ shape ∈ registryShapes,
      shape ∈ (Request.imageUpdateApply request).shapes 0 := by
    intro shape hshape
    simp only [Request.shapes, List.mem_cons, List.cons_append, List.mem_append]
    exact Or.inr (Or.inr (Or.inr (Or.inl hshape)))
  refine (keeps_platformCall hshapes h.imageId).bind fun answer _ => ?_
  refine (keeps_ofOption _ _).bind fun architecture _ => ?_
  refine (keeps_manifestCall hshapes h.image).bind fun answer _ => ?_
  exact (keeps_ofOption _ _).bind fun _ _ => (keeps_ofOption _ _).bind fun _ _ =>
    (keeps_require _ _).bind fun _ _ => keeps_pure trivial

theorem keeps_inspectUpdatedComposeService (h : Plain container) :
    Keeps (.imageUpdateApply request) (fun _ => True)
      (inspectUpdatedComposeService container.compose) := by
  refine (keeps_perform (allows_compose ["ps", "--all", "--quiet"] h.project
    h.service rfl (by simp [Request.shapes]))).bind fun listing _ => ?_
  split
  case h_1 => exact keeps_fail _
  split
  case h_2 => exact keeps_fail _
  refine (keeps_require _ _).bind fun _ hid => ?_
  refine (keeps_perform (allows_of_mem 0 rfl (.tail _ (.tail _ (.head _)))
    (fits_operand _ (isOperand_of_safeDockerContainerId hid)))).bind fun inspected _ => ?_
  split
  case h_1 => exact keeps_fail _
  split
  case h_2 => exact keeps_fail _
  exact (keeps_require _ _).bind fun _ _ => (keeps_require _ _).bind fun _ _ => keeps_pure trivial

theorem keeps_applyComposeImageUpdate (h : Plain container) (remoteImageId : String) :
    Keeps (.imageUpdateApply request) (fun _ => True)
      (applyComposeImageUpdate container remoteImageId) := by
  refine (keeps_perform (allows_compose ["pull"] h.project h.service rfl
    (by simp [Request.shapes]))).bind fun pull _ => (keeps_require _ _).bind fun _ _ => ?_
  have hpulled : Keeps (.imageUpdateApply request) (fun _ => True)
      (verifyPulledImage container remoteImageId) :=
    (keeps_perform (allows_of_mem 0 rfl (.tail _ (.head _))
      (fits_operand _ (isOperand_of_safeImageReference h.image)))).bind fun answer _ =>
        (keeps_ofOption _ _).bind fun pulled _ =>
          (keeps_require _ _).mono fun _ _ => trivial
  have hscope : Keeps (.imageUpdateApply request) (fun _ => True)
      (verifyComposeServiceScope container) := by
    refine (keeps_perform (allows_compose ["ps", "--all", "--quiet"] h.project
      h.service rfl (by simp [Request.shapes]))).bind fun answer _ => ?_
    obtain _ | _ | output := answer
    · exact keeps_fail _
    · exact keeps_fail _
    dsimp only
    split
    case h_2 => exact keeps_fail _
    exact (keeps_require _ _).mono fun _ _ => trivial
  have hrecreate : Keeps (.imageUpdateApply request) (fun _ => True)
      (recreateComposeService container) :=
    (keeps_perform (allows_compose ["up", "--detach", "--no-deps",
      "--force-recreate", "--wait", "--wait-timeout", "120"] h.project h.service rfl
      (by simp [Request.shapes]))).bind fun answer _ =>
        (keeps_require _ _).mono fun _ _ => trivial
  exact hpulled.bind fun _ _ => hscope.bind fun _ _ => hrecreate.bind fun _ _ =>
    keeps_inspectUpdatedComposeService h

end Apply

theorem keeps_imageUpdateApply (authorized : Bool) (platform : AgentPlatform)
    (request : DockerImageUpdateApplyRequest) :
    Keeps (.imageUpdateApply request) (fun _ => True)
      (agentDockerImageUpdateApply parse authorized platform request) := by
  refine (keeps_admitted _ _).bind fun _ _ => (keeps_require _ _).bind fun _ hsafe => ?_
  obtain ⟨hid, -⟩ := Bool.and_eq_true_iff.mp hsafe
  refine (keeps_inspectComposeUpdateContainer hid).bind fun container hplain => ?_
  refine (keeps_verifyRemoteUpdateImage hplain _).bind fun remoteImageId _ => ?_
  refine (keeps_applyComposeImageUpdate hplain _).bind fun status _ => ?_
  exact (keeps_perform (allows_of_args_eq_none rfl)).bind fun _ _ => keeps_pure trivial

theorem keeps_handle (authorized : Bool) (platform : AgentPlatform) (request : Request) :
    Keeps request (fun _ => True) (handle parse authorized platform request) := by
  cases request with
  | containers => exact keeps_containers authorized platform
  | lifecycle request => exact keeps_lifecycle authorized platform request
  | imageUpdateCheck containerId => exact keeps_imageUpdateCheck authorized platform containerId
  | imageUpdateApply request => exact keeps_imageUpdateApply authorized platform request

/-- Without the token, or on another platform, no command runs. -/
theorem handle_refuses {authorized : Bool} {platform : AgentPlatform}
    (h : ¬(authorized = true ∧ platform = .linux)) (request : Request) :
    (handle parse authorized platform request).Ensures record (fun _ call => call.args = none)
      (fun _ _ _ => True) (fun _ _ _ => True) () [] := by
  cases authorized with
  | false => cases request <;> exact trivial
  | true =>
    obtain rfl : platform = .windows := by
      cases platform with
      | linux => exact absurd ⟨rfl, rfl⟩ h
      | windows => rfl
    cases request with
    | containers => exact ⟨rfl, fun _ => trivial⟩
    | lifecycle | imageUpdateCheck | imageUpdateApply => exact trivial

/-- **The commands of the agent are fixed.**  Whatever is requested, and whatever Docker, the
registry and the file system answer: a command runs only for a request with the token of an agent
on Linux, it has one of the shapes of the request, and its options are those of the shape. -/
theorem handle_runs_fixed_commands (parse : JsonParser) (authorized : Bool)
    (platform : AgentPlatform) (request : Request) :
    (handle parse authorized platform request).Ensures record
      (fun _ call => ∀ args, call.args = some args →
        authorized = true ∧ platform = .linux ∧ ∃ n, ∃ shape ∈ request.shapes n,
          shape.Fits args ∧ args.filter (fun arg => ¬IsOperand arg) = shape.options)
      (fun _ _ _ => True) (fun _ _ _ => True) () [] := by
  by_cases h : authorized = true ∧ platform = .linux
  · refine ((keeps_handle authorized platform request [] []).mono (fun _ _ _ _ => trivial)
      fun _ _ _ _ => trivial).mono_pre fun _ call hallows args hargs => ?_
    obtain ⟨n, shape, hshape, hfits⟩ := hallows.1 args hargs
    exact ⟨h.1, h.2, n, shape, hshape, hfits, hfits.options⟩
  · refine (handle_refuses h request).mono_pre fun _ call hnone args hargs => ?_
    exact absurd hargs (by simp [hnone])

end Lxcup.Docker
