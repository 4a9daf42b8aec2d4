import Lxcup.Docker.Agent
import Lxcup.Lib.Recorded

/-!
# What an image update has checked

An update recreates a Compose service.  Between any two commands the host may change, so that
every check only tells what was so when it was made.  What holds of every run, wherever it is
stopped: the command that recreates the service is called once at most, and at that moment the
checks of the container, of the image that the caller has confirmed, and of the containers of the
service have all been answered, the last two after the new image was pulled.

An error tells whether the recreation was begun.  What came of it is open after
`compose_recreate_failed`, which is also the answer when Docker could not be started or took too
long; the errors behind it tell that the command had succeeded.  A success tells that the only
container of the service runs and is healthy: what a service without a health check prints is cut
by `trim` to one field, so that its update ends with an error although the service was recreated.

## Main definitions

* `Inspected`, `Offered`, `Pulled`, `InScope` — what the steps of an update have found.
* `Confirmed` — all of that.
* `Updated` — what a success tells.
* `lateErrors`, `recreateFailed` — the errors of an update from the recreation on.
* `Failed` — what an error tells.

## Main results

* `imageUpdate_confirmed` — what holds of every call of an update, and of its end.
-/

namespace Lxcup.Docker

open Lxcup.Lib Lxcup.Core Lxcup.Agent

/-! ### What has been found -/

/-- An exchange with the host. -/
abbrev HostExchange := Exchange HostCall HostCall.Answer

/-- What a command has printed, if it has succeeded in time. -/
def printed : (call : HostCall) → call.Answer → Option String
  | .docker .., answer => successText answer
  | .dockerWithin .., answer => answer.bind successText
  | _, _ => none

/-- The command has succeeded, and printed the text. -/
def Answered (seen : List HostExchange) (call : HostCall) (text : String) : Prop :=
  ∃ answer, ⟨call, answer⟩ ∈ seen ∧ printed call answer = some text

theorem Answered.mono {seen seen' : List HostExchange} {call : HostCall} {text : String}
    (h : Answered seen call text) (hle : seen <+: seen') : Answered seen' call text := by
  obtain ⟨answer, hmem, hprinted⟩ := h
  exact ⟨answer, hle.subset hmem, hprinted⟩

/-- The text of a label. -/
def label (labels : JsonValue) (name : String) : Option String :=
  (labels.get name).bind JsonValue.asStr

/-- The container that was asked for belongs to the only replica of a service of a Compose
project, whose configuration is that of its labels. -/
structure Inspected (parse : JsonParser) (containerId : String)
    (container : InspectedDockerUpdateContainer) (seen : List HostExchange) : Prop where
  labels : ∃ inspect text labels hash config,
    Answered seen (inspectCall containerId) inspect
      ∧ inspectedFields containerId inspect
        = some (container.containerId, container.image, container.imageId, text)
      ∧ parse text = some labels
      ∧ label labels "com.docker.compose.project" = some container.compose.project
      ∧ label labels "com.docker.compose.service" = some container.compose.service
      ∧ label labels "com.docker.compose.container-number" = some "1"
      ∧ label labels "com.docker.compose.config-hash" = some hash
      ∧ Answered seen container.compose.configCall config ∧ trimmed config = hash
  inside : container.compose.configFile.startsWith container.compose.workingDir = true

theorem Inspected.mono {parse : JsonParser} {containerId : String}
    {container : InspectedDockerUpdateContainer} {seen seen' : List HostExchange}
    (h : Inspected parse containerId container seen) (hle : seen <+: seen') :
    Inspected parse containerId container seen' := by
  obtain ⟨⟨inspect, text, labels, hash, config, hinspect, hfields, hparse, hproject, hservice,
    hnumber, hhash, hconfig, hsame⟩, hinside⟩ := h
  exact ⟨⟨inspect, text, labels, hash, config, hinspect.mono hle, hfields, hparse, hproject,
    hservice, hnumber, hhash, hconfig.mono hle, hsame⟩, hinside⟩

/-- The registry offers the image for the platform of the container, and it is not the one that
the container has. -/
structure Offered (parse : JsonParser) (container : InspectedDockerUpdateContainer)
    (imageId : String) (seen : List HostExchange) : Prop where
  offer : ∃ architecture manifest, Answered seen (platformCall container.imageId) architecture
    ∧ Answered seen (manifestCall container.image) manifest
    ∧ parseRemoteImageConfigDigest parse manifest (trimmed architecture) = some imageId
  newer : imageId ≠ container.imageId

theorem Offered.mono {parse : JsonParser} {container : InspectedDockerUpdateContainer}
    {imageId : String} {seen seen' : List HostExchange} (h : Offered parse container imageId seen)
    (hle : seen <+: seen') : Offered parse container imageId seen' := by
  obtain ⟨⟨architecture, manifest, hplatform, hmanifest, hdigest⟩, hnewer⟩ := h
  exact ⟨⟨architecture, manifest, hplatform.mono hle, hmanifest.mono hle, hdigest⟩, hnewer⟩

/-- The image was pulled; since then its name was found to stand for it, and the container to be
the only one of its service. -/
def Pulled (container : InspectedDockerUpdateContainer) (imageId : String)
    (seen : List HostExchange) : Prop :=
  ∃ before answer after, seen = before ++ ⟨container.compose.pullCall, answer⟩ :: after
    ∧ (printed container.compose.pullCall answer).isSome
    ∧ (∃ pulled, Answered after (pulledImageCall container.image) pulled
      ∧ trimmed pulled = imageId)
    ∧ ∃ listing id, Answered after container.compose.scopeCall listing ∧ listedIds listing = [id]
      ∧ container.containerId.toList <+: id.toList

/-- What has been checked when the recreation is begun. -/
structure Confirmed (parse : JsonParser) (request : DockerImageUpdateApplyRequest)
    (container : InspectedDockerUpdateContainer) (seen : List HostExchange) : Prop where
  inspected : Inspected parse request.containerId container seen
  offered : Offered parse container request.expectedRemoteImageId seen
  pulled : Pulled container request.expectedRemoteImageId seen

/-- The call recreates a service. -/
def Recreates (call : HostCall) : Prop := ∃ compose, call = ComposeContext.recreateCall compose

/-- The call pulls the image of a service. -/
def Pulls (call : HostCall) : Prop := ∃ compose, call = ComposeContext.pullCall compose

/-- The call neither pulls nor recreates. -/
def OnlyReads (call : HostCall) : Prop := ¬Recreates call ∧ ¬Pulls call

/-- Nothing was pulled and no recreation begun. -/
abbrev Quiet (seen : List HostExchange) : Prop := All OnlyReads seen

theorem not_recreates_of_args {call : HostCall} {args : List String} (hargs : call.args = some args)
    (h : args[0]? ≠ some "compose" ∨ args[7]? ≠ some "up") : ¬Recreates call := by
  rintro ⟨compose, rfl⟩
  obtain rfl := Option.some.inj hargs
  simp [ComposeContext.args] at h

theorem not_pulls_of_args {call : HostCall} {args : List String} (hargs : call.args = some args)
    (h : args[0]? ≠ some "compose" ∨ args[7]? ≠ some "pull") : ¬Pulls call := by
  rintro ⟨compose, rfl⟩
  obtain rfl := Option.some.inj hargs
  simp [ComposeContext.args] at h

/-- A command that only reads; what it has printed is known from then on. -/
theorem reads_command {err : DockerFailure → Prop} {seen : List HostExchange} {call : HostCall}
    {args : List String} (hargs : call.args = some args)
    (h : args[0]? ≠ some "compose" ∨ (args[7]? ≠ some "up" ∧ args[7]? ≠ some "pull")) :
    Process.Only OnlyReads (fun _ e => err e) (fun more answer => ∀ text,
      printed call answer = some text → Answered more call text) (perform call) seen :=
  (Process.only_call ⟨not_recreates_of_args hargs (h.imp_right (·.1)),
    not_pulls_of_args hargs (h.imp_right (·.2))⟩).mono
      fun _ answer hmem _ htext => ⟨answer, hmem, htext⟩

/-! ### The steps of an update -/

/-- The errors of an update whose recreation was begun. -/
def lateErrors : List DockerFailure :=
  ["compose_recreate_failed", "updated_service_inspection_failed", "updated_service_scope_invalid",
    "updated_service_not_running", "updated_service_unhealthy"].map fun error => ⟨502, error⟩

/-- The error of a recreation that has failed, was not started or took too long. -/
def recreateFailed : DockerFailure := ⟨502, "compose_recreate_failed"⟩

/-- The error is one of an update that has begun the recreation. -/
def Late (e : DockerFailure) : Prop := e ∈ lateErrors

instance (e : DockerFailure) : Decidable (Late e) := inferInstanceAs (Decidable (_ ∈ _))

/-- The error is one of an update that has not come to the recreation. -/
def Early (e : DockerFailure) : Prop := ¬Late e

instance (e : DockerFailure) : Decidable (Early e) := inferInstanceAs (Decidable (¬_))

/-- A part of an update that only reads. -/
abbrev Reads {α : Type} (err : DockerFailure → Prop) (ok : List HostExchange → α → Prop)
    (p : Handler α) (seen : List HostExchange) : Prop :=
  Process.Only OnlyReads (fun _ e => err e) ok p seen

variable {parse : JsonParser} {seen : List HostExchange}

/-- The Compose project that the labels name. -/
structure FromLabels (labels : JsonValue) (compose : ComposeContext) : Prop where
  project : label labels "com.docker.compose.project" = some compose.project
  service : label labels "com.docker.compose.service" = some compose.service
  inside : compose.configFile.startsWith compose.workingDir = true

theorem reads_validatedComposeContext (labels : JsonValue) :
    Reads Early (fun _ found => ∀ compose, found = some compose → FromLabels labels compose)
      (validatedComposeContext labels) seen := by
  unfold validatedComposeContext
  have hnone : ∀ {more : List HostExchange}, Reads Early (fun _ (found : Option ComposeContext) =>
      ∀ compose, found = some compose → FromLabels labels compose) (pure none) more :=
    Process.only_pure fun compose h => absurd h (by simp)
  have hcall : ∀ {call : HostCall}, call.args = none → OnlyReads call := by
    intro call hargs
    constructor <;> (rintro ⟨compose, rfl⟩; exact absurd hargs (by exact nofun))
  dsimp only
  split
  case h_2 => exact hnone
  case h_1 project service _ _ hproject hservice _ _ =>
    split
    case isTrue => exact hnone
    split
    case h_2 => exact hnone
    refine (Process.only_call (hcall rfl)).bind fun _ root _ _ => ?_
    split
    case h_1 => exact hnone
    refine (Process.only_call (hcall rfl)).bind fun _ file _ _ => ?_
    split
    case h_1 => exact hnone
    refine (Process.only_call (hcall rfl)).bind fun _ isDir _ _ => ?_
    split
    case isTrue => exact hnone
    refine (Process.only_call (hcall rfl)).bind fun _ isFile _ _ => ?_
    split
    case isTrue => exact hnone
    case isFalse hinside =>
      refine Process.only_pure fun compose h => ?_
      obtain rfl := Option.some.inj h
      exact ⟨hproject, hservice, by simp at hinside; exact hinside.2⟩

theorem reads_inspectComposeUpdateContainer (containerId : String) :
    Reads Early (fun more container => Inspected parse containerId container more)
      (inspectComposeUpdateContainer parse containerId) seen := by
  refine (reads_command rfl (.inl (by simp))).bind fun s₁ answer _ hinspect => ?_
  refine Process.only_ofOption (by decide) fun inspect hprinted => ?_
  refine Process.only_ofOption (by decide) fun fields hfields => ?_
  obtain ⟨id, image, imageId, text⟩ := fields
  refine Process.only_ofOption (by decide) fun labels hlabels => ?_
  refine (reads_validatedComposeContext labels).bind fun s₂ found hle₂ hfound => ?_
  refine Process.only_ofOption (by decide) fun compose hcompose => ?_
  refine Process.only_require (by decide) fun hnumber => ?_
  refine Process.only_ofOption (by decide) fun hash hhash => ?_
  refine (reads_command rfl (.inr (by constructor <;> simp [ComposeContext.args]))).bind
    fun s₃ answer hle₃ hconfig => ?_
  obtain _ | _ | output := answer
  · exact Process.only_fail (by decide)
  · exact Process.only_fail (by decide)
  refine Process.only_require (by decide) fun hsame => Process.only_pure ?_
  obtain ⟨hsuccess, hsame⟩ := Bool.and_eq_true_iff.mp hsame
  have hcontext := hfound compose hcompose
  have hconfig : Answered s₃ compose.configCall output.stdout :=
    hconfig output.stdout (by simp [printed, ComposeContext.configCall, ComposeContext.within,
      successText, hsuccess])
  exact ⟨⟨inspect, text, labels, hash, output.stdout,
    (hinspect inspect hprinted).mono (hle₂.trans hle₃), hfields, hlabels, hcontext.project,
    hcontext.service, of_decide_eq_true hnumber, hhash, hconfig, by simpa using hsame⟩,
    hcontext.inside⟩

theorem reads_verifyRemoteUpdateImage (container : InspectedDockerUpdateContainer)
    (expected : String) :
    Reads Early (fun more imageId => imageId = expected ∧ Offered parse container imageId more)
      (verifyRemoteUpdateImage parse container expected) seen := by
  refine (reads_command rfl (.inl (by simp))).bind fun s₁ answer _ hplatform => ?_
  refine Process.only_ofOption (by decide) fun architecture harchitecture => ?_
  refine (reads_command rfl (.inl (by simp))).bind fun s₂ answer hle₂ hmanifest => ?_
  refine Process.only_ofOption (by decide) fun manifest hoffer => ?_
  refine Process.only_ofOption (by decide) fun imageId hdigest => ?_
  refine Process.only_require (by decide) fun hfresh => Process.only_pure ?_
  obtain ⟨hexpected, hnewer⟩ := Bool.and_eq_true_iff.mp hfresh
  exact ⟨by simpa using hexpected, ⟨architecture, manifest,
    (hplatform architecture harchitecture).mono hle₂, hmanifest manifest hoffer, hdigest⟩,
    by simpa using hnewer⟩

theorem reads_verifyPulledImage (container : InspectedDockerUpdateContainer) (imageId : String) :
    Reads Early (fun more _ => ∃ pulled, Answered more (pulledImageCall container.image) pulled
      ∧ trimmed pulled = imageId) (verifyPulledImage container imageId) seen := by
  refine (reads_command rfl (.inl (by simp))).bind fun s₁ answer _ hpulled => ?_
  refine Process.only_ofOption (by decide) fun pulled hprinted => ?_
  exact Process.only_check (by decide) fun hsame =>
    ⟨pulled, hpulled pulled hprinted, of_decide_eq_true hsame⟩

theorem reads_verifyComposeServiceScope (container : InspectedDockerUpdateContainer) :
    Reads Early (fun more _ => ∃ listing id, Answered more container.compose.scopeCall listing
      ∧ listedIds listing = [id] ∧ container.containerId.toList <+: id.toList)
      (verifyComposeServiceScope container) seen := by
  refine (reads_command rfl (.inr (by constructor <;> simp [ComposeContext.args]))).bind
    fun s₁ answer _ hscope => ?_
  obtain _ | _ | output := answer
  · exact Process.only_fail (by decide)
  · exact Process.only_fail (by decide)
  dsimp only
  split
  case h_2 => exact Process.only_fail (by decide)
  case h_1 id hsuccess hids =>
    refine Process.only_check (by decide) fun hprefix =>
      ⟨output.stdout, id, hscope output.stdout ?_, hids, List.isPrefixOf_iff_prefix.mp hprefix⟩
    simp [printed, ComposeContext.scopeCall, ComposeContext.within, successText, hsuccess]

/-! ### The state of the updated service -/

theorem not_isWhitespace_of_getLast?_trim {c : Char} {cs : List Char}
    (h : (trim cs).getLast? = some c) : isWhitespace c = false := by
  rw [trim, List.getLast?_reverse] at h
  have hhead := List.head?_dropWhile_not isWhitespace (cs.dropWhile isWhitespace).reverse
  rw [h] at hhead
  exact hhead

/-- The last field of a trimmed text is not blank, unless there is no other. -/
theorem trim_getLast_splitOn_ne {sep : Char} (hsep : isWhitespace sep = true)
    {cs first last : List Char} (h : splitOn sep (trim cs) = [first, last]) : trim last ≠ [] := by
  have hjoin : trim cs = first ++ sep :: last := by
    rw [← Apt.intercalate_splitOn sep (trim cs), h]
    simp
  have hend : (trim cs).getLast? = (sep :: last).getLast? := by
    rw [hjoin, List.getLast?_append_cons]
  intro hblank
  have hall : ∀ c ∈ sep :: last, isWhitespace c = true := by
    intro c hc
    obtain rfl | hc := List.mem_cons.mp hc
    · exact hsep
    · exact Bool.eq_true_of_not_eq_false fun hne => trim_ne_nil hc hne hblank
  have hlast := List.getLast?_eq_some_getLast (List.cons_ne_nil sep last)
  have hspace := hall _ (List.mem_of_getLast? hlast)
  rw [not_isWhitespace_of_getLast?_trim (hend.trans hlast)] at hspace
  exact absurd hspace (by simp)

/-- What is printed for a service without a health check has one field. -/
example : (splitOn '\t' (trim "running\t\n".toList)).map trim = ["running".toList] := by decide

/-- The service has one container, which runs and is healthy. -/
def Healthy (compose : ComposeContext) (seen : List HostExchange) : Prop :=
  ∃ listing id status, Answered seen compose.listCall listing ∧ listedIds listing = [id]
    ∧ Answered seen (statusCall id) status
    ∧ (splitOn '\t' (trim status.toList)).map trim = ["running".toList, "healthy".toList]

theorem reads_inspectUpdatedComposeService (compose : ComposeContext) :
    Reads (fun e => Late e ∧ e ≠ recreateFailed)
      (fun more status => status = ⟨"running", some "healthy"⟩ ∧ Healthy compose more)
      (inspectUpdatedComposeService compose) seen := by
  refine (reads_command rfl (.inr (by constructor <;> simp [ComposeContext.args]))).bind
    fun s₁ listing _ hlisting => ?_
  obtain _ | listing := listing
  · exact Process.only_fail (by decide)
  dsimp only
  split
  case h_2 => exact Process.only_fail (by decide)
  case h_1 id hsuccess hids =>
    refine Process.only_require (by decide) fun _ => ?_
    refine (reads_command rfl (.inl (by simp))).bind fun s₂ inspected hle hinspected => ?_
    obtain _ | inspected := inspected
    · exact Process.only_fail (by decide)
    dsimp only
    split
    case h_2 => exact Process.only_fail (by decide)
    case h_1 state health hinspect hfields =>
      refine Process.only_require (by decide) fun hrunning => ?_
      refine Process.only_require (by decide) fun hhealthy => Process.only_pure ?_
      obtain ⟨first, rest, hsplit, hfirst, hrest⟩ := List.map_eq_cons_iff.mp hfields
      obtain ⟨last, tail, rfl, hlast, htail⟩ := List.map_eq_cons_iff.mp hrest
      obtain rfl := List.map_eq_nil_iff.mp htail
      obtain rfl : state = "running" := of_decide_eq_true hrunning
      have hne : trim last ≠ [] := trim_getLast_splitOn_ne (by decide) hsplit
      have hstate : health = "healthy" := by
        obtain all_nil | hhealthy := Bool.or_eq_true_iff.mp hhealthy
        · rw [← hlast, decide_eq_true_eq] at all_nil
          exact absurd (String.ofList_eq_empty_iff.mp all_nil) hne
        · exact of_decide_eq_true hhealthy
      subst hstate
      refine ⟨by simp, listing.stdout, id, inspected.stdout, ?_, hids, ?_, ?_⟩
      · exact (hlisting listing.stdout
          (by simp [printed, ComposeContext.listCall, successText, hsuccess])).mono hle
      · exact hinspected inspected.stdout (by simp [printed, statusCall, successText, hinspect])
      · rw [hsplit, List.map_cons, List.map_cons, ← hfirst, ← hlast]
        simp

/-! ### A whole update -/

/-- When an update may pull, and when it may recreate the service. -/
def Permits (parse : JsonParser) (request : DockerImageUpdateApplyRequest)
    (seen : List HostExchange) (call : HostCall) : Prop :=
  (Pulls call → Quiet seen ∧ ∃ container, call = container.compose.pullCall
    ∧ Inspected parse request.containerId container seen
    ∧ Offered parse container request.expectedRemoteImageId seen)
  ∧ (Recreates call → (∀ exchange ∈ seen, ¬Recreates exchange.1)
    ∧ ∃ container, call = container.compose.recreateCall
      ∧ Confirmed parse request container seen)

/-- The service was recreated after all checks, and is healthy now. -/
def Recreated (parse : JsonParser) (request : DockerImageUpdateApplyRequest)
    (container : InspectedDockerUpdateContainer) (seen : List HostExchange) : Prop :=
  ∃ before answer after, seen = before ++ ⟨container.compose.recreateCall, answer⟩ :: after
    ∧ Confirmed parse request container before ∧ (printed _ answer).isSome
    ∧ Quiet after ∧ Healthy container.compose after

/-- What a success tells. -/
def Updated (parse : JsonParser) (request : DockerImageUpdateApplyRequest)
    (seen : List HostExchange) (result : DockerImageUpdateApplyResult) : Prop :=
  ∃ container, Recreated parse request container seen
    ∧ result = ⟨request.containerId, container.image, container.compose.project,
        container.compose.service, request.expectedRemoteImageId, "running", some "healthy",
        result.completedAt⟩

/-- What an error tells: whether the recreation was begun, and of the errors behind
`recreateFailed` that its command has succeeded. -/
structure Failed (seen : List HostExchange) (e : DockerFailure) : Prop where
  begun : Late e ↔ ∃ exchange ∈ seen, Recreates exchange.1
  succeeded : Late e → e ≠ recreateFailed →
    ∃ exchange ∈ seen, Recreates exchange.1 ∧ (printed exchange.1 exchange.2).isSome

section Update

variable {request : DockerImageUpdateApplyRequest} {container : InspectedDockerUpdateContainer}

theorem permits_of_onlyReads {seen : List HostExchange} {call : HostCall} (h : OnlyReads call) :
    Permits parse request seen call :=
  ⟨fun hpulls => absurd hpulls h.2, fun hrecreates => absurd hrecreates h.1⟩

theorem not_recreates_of_quiet (h : Quiet seen) : ¬∃ exchange ∈ seen, Recreates exchange.1 := by
  rintro ⟨exchange, hmem, hrecreates⟩
  exact (h exchange hmem).1 hrecreates

theorem Failed.early {e : DockerFailure} (h : Early e)
    (hseen : ¬∃ exchange ∈ seen, Recreates exchange.1) : Failed seen e where
  begun := ⟨fun hlate => absurd hlate h, fun hrecreates => absurd hrecreates hseen⟩
  succeeded hlate _ := absurd hlate h

theorem Failed.late {e : DockerFailure} (h : Late e) {exchange : HostExchange}
    (hmem : exchange ∈ seen) (hrecreates : Recreates exchange.1)
    (hsuccess : e ≠ recreateFailed → (printed exchange.1 exchange.2).isSome) : Failed seen e where
  begun := ⟨fun _ => ⟨exchange, hmem, hrecreates⟩, fun _ => h⟩
  succeeded _ hne := ⟨exchange, hmem, hrecreates, hsuccess hne⟩

/-- From the command that recreates the service on. -/
theorem ensures_recreate (hconfirmed : Confirmed parse request container seen)
    (huntouched : ¬∃ exchange ∈ seen, Recreates exchange.1) :
    (recreateComposeService container >>= fun _ =>
      inspectUpdatedComposeService container.compose).Ensures record (Permits parse request)
        (fun s _ status => status = ⟨"running", some "healthy"⟩
          ∧ Recreated parse request container s)
        (fun s _ e => Failed s e) () seen := by
  have hpermits : Permits parse request seen container.compose.recreateCall := by
    constructor
    · intro hpulls
      exact absurd hpulls (not_pulls_of_args rfl (.inr (by simp [ComposeContext.args])))
    · exact fun _ => ⟨fun exchange hmem hrec => huntouched ⟨exchange, hmem, hrec⟩, container, rfl,
        hconfirmed⟩
  have hlate : ∀ answer after e, Late e →
      (e ≠ recreateFailed → (printed container.compose.recreateCall answer).isSome) →
        Failed (seen ++ ⟨container.compose.recreateCall, answer⟩ :: after) e := by
    intro answer after e he hsuccess
    exact Failed.late he (List.mem_append_right seen List.mem_cons_self) ⟨_, rfl⟩ hsuccess
  refine Process.ensures_bind.mpr (Process.ensures_call_bind hpermits fun answer => ?_)
  refine Process.ensures_check (hlate answer [] _ (by decide) fun hne => absurd rfl hne)
    fun hsuccess => ?_
  have hreads : Reads _ _ _ [] := reads_inspectUpdatedComposeService container.compose
  have hreads := hreads (seen ++ [⟨container.compose.recreateCall, answer⟩])
  rw [List.append_nil] at hreads
  refine (hreads.mono ?_ ?_).mono_pre fun _ _ h => permits_of_onlyReads h.1
  · rintro _ ⟨⟩ status ⟨after, rfl, -, hquiet, rfl, hhealthy⟩
    exact ⟨rfl, seen, answer, after, List.append_assoc .., hconfirmed, hsuccess,
      hquiet all_nil, hhealthy⟩
  · rintro _ ⟨⟩ e ⟨after, rfl, -, -, he⟩
    rw [List.append_assoc]
    exact hlate answer after e he.1 fun _ => hsuccess

/-- From the pull on. -/
theorem ensures_applyComposeImageUpdate (hquiet : Quiet seen)
    (hinspected : Inspected parse request.containerId container seen)
    (hoffered : Offered parse container request.expectedRemoteImageId seen) :
    (applyComposeImageUpdate container request.expectedRemoteImageId).Ensures record
      (Permits parse request)
      (fun s _ status => status = ⟨"running", some "healthy"⟩
        ∧ Recreated parse request container s)
      (fun s _ e => Failed s e) () seen := by
  have hpermits : Permits parse request seen container.compose.pullCall := by
    constructor
    · exact fun _ => ⟨hquiet, container, rfl, hinspected, hoffered⟩
    · intro hrecreates
      exact absurd hrecreates (not_recreates_of_args rfl (.inr (by simp [ComposeContext.args])))
  refine Process.ensures_call_bind hpermits fun answer => ?_
  have huntouched : ∀ more : List HostExchange, Quiet more → ¬∃ exchange ∈ seen ++
      [⟨container.compose.pullCall, answer⟩] ++ more, Recreates exchange.1 := by
    rintro more hmore ⟨exchange, hmem, hrecreates⟩
    obtain hmem | hmem := List.mem_append.mp hmem
    · obtain hmem | hmem := List.mem_append.mp hmem
      · exact (hquiet exchange hmem).1 hrecreates
      · obtain rfl := List.mem_singleton.mp hmem
        exact not_recreates_of_args rfl (.inr (by simp [ComposeContext.args])) hrecreates
    · exact (hmore exchange hmem).1 hrecreates
  have hpre : ∀ (more : List HostExchange) (call : HostCall), Quiet more → OnlyReads call →
      Permits parse request (seen ++ [⟨container.compose.pullCall, answer⟩] ++ more) call :=
    fun _ _ _ => permits_of_onlyReads
  have hfail : ∀ (more : List HostExchange) (e : DockerFailure), Quiet more → Early e →
      Failed (seen ++ [⟨container.compose.pullCall, answer⟩] ++ more) e :=
    fun more e hmore he => Failed.early he (huntouched more hmore)
  refine Process.ensures_bind.mpr (Process.ensures_check ?_ fun hsuccess => ?_)
  · simpa using hfail [] ⟨502, "compose_pull_failed"⟩ all_nil (by decide)
  rw [← List.append_nil (seen ++ _)]
  refine (reads_verifyPulledImage container request.expectedRemoteImageId).ensures_bind all_nil
    hpre hfail fun more₁ _ _ hquiet₁ hpulled => ?_
  refine (reads_verifyComposeServiceScope container).ensures_bind hquiet₁ hpre hfail
    fun more₂ _ hle hquiet₂ hscope => ?_
  obtain ⟨pulled, hanswer, hsame⟩ := hpulled
  have hprefix : seen <+: seen ++ [⟨container.compose.pullCall, answer⟩] ++ more₂ := by
    rw [List.append_assoc]
    exact List.prefix_append seen _
  refine ensures_recreate ⟨?_, ?_, ?_⟩ (huntouched more₂ hquiet₂)
  · exact hinspected.mono hprefix
  · exact hoffered.mono hprefix
  · exact ⟨seen, answer, more₂, by simp, hsuccess, ⟨pulled, hanswer.mono hle, hsame⟩, hscope⟩

theorem reads_admitted (authorized : Bool) (platform : AgentPlatform) :
    Reads Early (fun _ _ => True) (admitted authorized platform) seen :=
  Process.only_require (by decide) fun _ => Process.only_check (by decide) fun _ => trivial

/-- What is so before every call of an update, and at its end. -/
theorem ensures_agentDockerImageUpdateApply (parse : JsonParser) (authorized : Bool)
    (platform : AgentPlatform) (request : DockerImageUpdateApplyRequest) :
    (agentDockerImageUpdateApply parse authorized platform request).Ensures record
      (Permits parse request) (fun seen _ result => Updated parse request seen result)
      (fun seen _ e => Failed seen e) () [] := by
  have hpre : ∀ (more : List HostExchange) (call : HostCall), Quiet more → OnlyReads call →
      Permits parse request ([] ++ more) call :=
    fun _ _ _ => permits_of_onlyReads
  have hfail : ∀ (more : List HostExchange) (e : DockerFailure), Quiet more → Early e →
      Failed ([] ++ more) e :=
    fun more e hmore he => Failed.early he (not_recreates_of_quiet hmore)
  have hsafe : ∀ cond : Bool, ∀ more, Reads Early (fun _ _ => True)
      (Process.require cond ⟨400, "invalid_update_request"⟩) more :=
    fun cond more => Process.only_check (by decide) fun _ => trivial
  change (admitted authorized platform >>= fun _ => _).Ensures _ _ _ _ () ([] ++ [])
  refine (reads_admitted authorized platform).ensures_bind all_nil hpre hfail
    fun more _ _ hquiet _ => ?_
  refine (hsafe _ _).ensures_bind hquiet hpre hfail fun more _ _ hquiet _ => ?_
  refine (reads_inspectComposeUpdateContainer request.containerId).ensures_bind hquiet
    hpre hfail fun more container _ hquiet hinspected => ?_
  refine (reads_verifyRemoteUpdateImage container request.expectedRemoteImageId).ensures_bind hquiet
    hpre hfail fun more imageId hle hquiet hoffered => ?_
  obtain ⟨rfl, hoffered⟩ := hoffered
  refine Process.ensures_bind.mpr
    ((ensures_applyComposeImageUpdate hquiet (hinspected.mono hle) hoffered).mono ?_
      fun _ _ _ h => h)
  rintro _ ⟨⟩ status ⟨rfl, before, answer, after, rfl, hconfirmed, hsuccess, hafter, hhealthy⟩
  have hnow : OnlyReads .now := ⟨nofun, nofun⟩
  refine Process.ensures_call_bind (permits_of_onlyReads hnow) fun now => ?_
  refine ⟨container, ⟨before, answer, after ++ [⟨.now, now⟩], by simp, hconfirmed, hsuccess,
    hafter.concat hnow now, ?_⟩, rfl⟩
  obtain ⟨listing, id, status, hlisting, hids, hstatus, hfields⟩ := hhealthy
  exact ⟨listing, id, status, hlisting.mono (List.prefix_append after _), hids,
    hstatus.mono (List.prefix_append after _), hfields⟩

end Update

/-- **An update is confirmed.**  Whatever the host answers, and wherever the run is stopped: an
image is pulled at most once, for the container that was asked for and an image that the registry
offers for it; the recreation of a service is begun at most once, when all checks have been
answered for the image that the caller has confirmed; a success tells that the service was
recreated and is healthy; and an error tells whether the recreation was begun. -/
theorem imageUpdate_confirmed (parse : JsonParser) (authorized : Bool) (platform : AgentPlatform)
    (request : DockerImageUpdateApplyRequest) :
    (agentDockerImageUpdateApply parse authorized platform request).Ensures record
      (Permits parse request) (fun seen _ result => Updated parse request seen result)
      (fun seen _ e => Failed seen e) () [] :=
  ensures_agentDockerImageUpdateApply parse authorized platform request

end Lxcup.Docker
