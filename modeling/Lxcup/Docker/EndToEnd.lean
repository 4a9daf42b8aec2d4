import Lxcup.Docker.Controller

/-!
# An image update from end to end

What a request for an image update at the controller does on the host, over all attempts: each of
them is a run of the agent's handler, and what holds of those runs carries over.

A success tells the truth.  An error does not always: when the first attempt recreates the service
and its answer is lost, or the service is unhealthy, the request is sent again, and the second
attempt no longer finds the container.  With one attempt, an error other than
`docker_update_apply_failed` tells that no recreation was begun.

## Main definitions

* `Delivery.Touched` — the attempt has begun to recreate a service.
* `attempts` — the attempts at an update.
* `Connected` — the target of the request, with the address its agent is reached at.
* `Justified` — what has to be so before an attempt.

## Main results

* `Delivery.updated_of_ok`, `Delivery.not_touched_of_api` — what an answer tells of its attempt.
* `applyTargetDockerImageUpdate_endToEnd` — what holds of every call of the controller, and of its
  answer.
-/

namespace Lxcup.Docker

open Lxcup.Lib Lxcup.Core Lxcup.Agent Lxcup.Server Lxcup.Secrets Lxcup.Credentials

variable {parse : JsonParser} {request : Request}

/-! ### One attempt -/

/-- The calls of an attempt, the one without an answer included. -/
def Delivery.calls : Delivery parse request → List HostCall
  | unreached => []
  | reached _ _ exchanges ending _ _ => exchanges.map (·.1) ++ ending.calls

/-- The attempt has begun to recreate a service. -/
def Delivery.Touched (delivery : Delivery parse request) : Prop :=
  ∃ call ∈ delivery.calls, Recreates call

section Attempt

variable {update : DockerImageUpdateApplyRequest}
  {delivery : Delivery parse (.imageUpdateApply update)}

/-- What holds where a run of the agent's handler is. -/
theorem endsIn_of_run {authorized : Bool} {platform : AgentPlatform}
    {exchanges : List HostExchange}
    {ending : Ending HostCall (Except DockerFailure DockerImageUpdateApplyResult × Unit)}
    (run : (agentDockerImageUpdateApply parse authorized platform update ()).Run exchanges ending) :
    match ending with
    | .returned (.ok result, _) => Updated parse update exchanges result
    | .returned (.error e, _) => Failed exchanges e
    | .calling call => Permits parse update exchanges call := by
  have hends := (ensures_agentDockerImageUpdateApply parse authorized platform update).of_run run
  rw [show (record : List HostExchange → _) = fun seen e r => seen ++ [⟨e, r⟩] from rfl,
    Program.observeAll_append, List.nil_append] at hends
  obtain ⟨_ | _, _⟩ | _ := ending <;> exact hends

/-- **An answer of success is true.** -/
theorem Delivery.updated_of_ok {result : DockerImageUpdateApplyResult}
    (h : delivery.result = .ok result) :
    ∃ authorized platform exchanges run,
      delivery = .reached authorized platform exchanges (.returned (.ok result, ())) run .complete
        ∧ Updated parse update exchanges result := by
  cases delivery with
  | unreached => exact absurd h nofun
  | reached authorized platform exchanges ending run receipt =>
    obtain ⟨_ | result', _⟩ | _ := ending
    · cases receipt <;> simp only [Delivery.result] at h
      all_goals first | (split at h <;> exact absurd h nofun) | exact absurd h nofun
    · cases receipt with
      | complete =>
        obtain rfl : result' = result := Except.ok.inj h
        exact ⟨authorized, platform, exchanges, run, rfl, endsIn_of_run run⟩
      | cutShort | lost => exact absurd h nofun
    · exact absurd h nofun

theorem status_of_late {e : DockerFailure} (h : Late e) : e.status = 502 := by
  obtain ⟨error, -, rfl⟩ := List.mem_map.mp h
  rfl

/-- **An error does not hide an update**: it is one after which the request is sent again, or an
answer of success that was cut short. -/
theorem Delivery.isRetried_of_touched {e : AgentFailure} (h : delivery.Touched)
    (he : delivery.result = .error e) : e.isRetried = true ∨ e = .decode := by
  cases delivery with
  | unreached =>
    obtain ⟨call, hcall, -⟩ := h
    exact absurd hcall List.not_mem_nil
  | reached authorized platform exchanges ending run receipt =>
    obtain ⟨failure | _, _⟩ | _ := ending
    · have hlate : Late failure := by
        obtain ⟨call, hcall, hrecreates⟩ := h
        rw [Delivery.calls, Ending.calls, List.append_nil] at hcall
        obtain ⟨exchange, hexchange, rfl⟩ := List.mem_map.mp hcall
        exact (endsIn_of_run run).begun.mpr ⟨exchange, hexchange, hrecreates⟩
      have hstatus := status_of_late hlate
      cases receipt <;> simp [Delivery.result, hstatus] at he <;> subst he <;> exact .inl rfl
    · cases receipt with
      | complete => cases he
      | cutShort => exact .inr (Except.error.inj he).symm
      | lost => exact .inl ((Except.error.inj he) ▸ rfl)
    · obtain rfl := Except.error.inj he
      exact .inl rfl

end Attempt

/-! ### Several attempts -/

/-- An exchange of the controller. -/
abbrev ControllerExchange (parse : JsonParser) : Type :=
  Exchange ControllerCall (ControllerCall.Answer parse)

/-- Attempts at one request. -/
def sends (address : IpAddr) (deliveries : List (Delivery parse request)) :
    List (ControllerExchange parse) :=
  deliveries.map fun delivery => ⟨.send address request, delivery⟩

/-- **A request is tried again only after a failure that allows it**, and the last attempt tells
what comes of it. -/
theorem ensures_sendRequest {address : IpAddr}
    {pre : List (ControllerExchange parse) → ControllerCall → Prop}
    {ok : List (ControllerExchange parse) → Unit → Except AgentFailure request.Response → Prop}
    {err : List (ControllerExchange parse) → Unit → ApiError → Prop} (n : Nat)
    {seen : List (ControllerExchange parse)}
    (hpre : ∀ before : List (Delivery parse request), before.length ≤ n →
      pre (seen ++ sends address before) (.send address request))
    (hok : ∀ (before : List (Delivery parse request)) (last : Delivery parse request),
      before.length ≤ n →
      (∀ delivery ∈ before, ∃ e, delivery.result = .error e ∧ e.isRetried = true) →
        (before.length < n → ∀ e, last.result = .error e → e.isRetried = false) →
          ok (seen ++ sends address (before ++ [last])) () last.result) :
    (sendRequest address request n).Ensures record pre ok err () seen := by
  induction n generalizing seen with
  | zero =>
    refine Process.ensures_call_bind (by simpa [sends] using hpre [] le_rfl) fun delivery => ?_
    exact hok [] delivery le_rfl (by simp) (by simp)
  | succ n ih =>
    refine Process.ensures_call_bind (by simpa [sends] using hpre [] (Nat.zero_le _))
      fun delivery => ?_
    have hlast := hok [] delivery (Nat.zero_le _) (by simp)
    split
    case h_1 response hresult =>
      rw [hresult] at hlast
      exact hlast fun _ e he => absurd he nofun
    case h_2 e hresult =>
      rw [hresult] at hlast
      split
      case isFalse hretried =>
        refine hlast fun _ e' he => ?_
        obtain rfl := Except.error.inj he
        exact Bool.eq_false_of_not_eq_true hretried
      case isTrue hretried =>
        refine ih (fun before hlength => ?_) fun before last hlength hbefore hlast => ?_
        · simpa [sends] using hpre (delivery :: before) (Nat.succ_le_succ hlength)
        · have hcons := hok (delivery :: before) last (Nat.succ_le_succ hlength) (by
            intro other hother
            obtain rfl | hother := List.mem_cons.mp hother
            · exact ⟨e, hresult, hretried⟩
            · exact hbefore other hother) (fun hlt => hlast (Nat.lt_of_succ_lt_succ hlt))
          simpa [sends] using hcons

/-! ### Before an update -/

/-- The attempts at an update. -/
def attempts (seen : List (ControllerExchange parse)) :
    List ((update : DockerImageUpdateApplyRequest) × Delivery parse (.imageUpdateApply update)) :=
  seen.filterMap fun
    | ⟨.send _ (.imageUpdateApply update), delivery⟩ => some ⟨update, delivery⟩
    | _ => none

/-- The call changes nothing on the host, and tells of no change. -/
def Prepares : ControllerCall → Prop
  | .send _ (.imageUpdateApply _) | .send _ (.lifecycle _) | .appendAudit .. => False
  | _ => True

theorem attempts_append (seen more : List (ControllerExchange parse)) :
    attempts (seen ++ more) = attempts seen ++ attempts more :=
  List.filterMap_append

theorem attempts_of_prepares {seen : List (ControllerExchange parse)} (h : All Prepares seen) :
    attempts seen = [] := by
  refine List.filterMap_eq_nil_iff.mpr fun exchange hmem => ?_
  have hkind := h exchange hmem
  obtain ⟨call, answer⟩ := exchange
  cases call with
  | send address request =>
    cases request with
    | imageUpdateApply update => exact absurd hkind id
    | containers | lifecycle | imageUpdateCheck => rfl
  | findTarget | lookupHost | readSecret | buildClient | publish | saveInventory => rfl
  | appendAudit => exact absurd hkind id

theorem attempts_sends {address : IpAddr} {update : DockerImageUpdateApplyRequest}
    (deliveries : List (Delivery parse (.imageUpdateApply update))) :
    attempts (sends address deliveries) = deliveries.map fun delivery => ⟨update, delivery⟩ := by
  induction deliveries with
  | nil => rfl
  | cons delivery deliveries ih => exact congrArg (⟨update, delivery⟩ :: ·) ih

section Prepares

variable {seen : List (ControllerExchange parse)} {err : ApiError → Prop}

/-- The id is that of a connected target, and the address is the first private one that the name
of its host stands for.  The secret of its agent was read. -/
structure Connected (id : TargetId) (target : Target) (address : IpAddr)
    (seen : List (ControllerExchange parse)) : Prop where
  found : ⟨.findTarget id, some target⟩ ∈ seen
  kind : supportsLinuxDocker target.kind = true
  managed : target.state = .managed
  resolved : ∃ addresses, ⟨.lookupHost target.address, some addresses⟩ ∈ seen
    ∧ addresses.find? isPrivateNetworkAddress = some address
  isPrivate : isPrivateNetworkAddress address = true
  secret : ∃ token, ⟨.readSecret target.agentSecretRef, .ok token⟩ ∈ seen
    ∧ trim token.toList ≠ []

theorem Connected.mono {id : TargetId} {target : Target} {address : IpAddr}
    {seen seen' : List (ControllerExchange parse)} (h : Connected id target address seen)
    (hle : seen <+: seen') : Connected id target address seen' := by
  obtain ⟨addresses, hresolved, haddress⟩ := h.resolved
  obtain ⟨token, hsecret, htoken⟩ := h.secret
  exact ⟨hle.subset h.found, h.kind, h.managed, ⟨addresses, hle.subset hresolved, haddress⟩,
    h.isPrivate, token, hle.subset hsecret, htoken⟩

theorem only_orFail (herr : ∀ e, err e) {α β γ : Type} {f : β → ApiError} {result : Except β α}
    {k : α → Controller parse γ} {ok : List (ControllerExchange parse) → γ → Prop}
    (h : ∀ a, result = .ok a → Process.Only Prepares (fun _ e => err e) ok (k a) seen) :
    Process.Only Prepares (fun _ e => err e) ok (orFail f result >>= k) seen := by
  cases result with
  | error e => exact Process.only_fail (herr _)
  | ok a => exact h a rfl

theorem only_connectedLinuxAgent (herr : ∀ e, err e) (targetId : TargetId) :
    Process.Only Prepares (fun _ e => err e) (fun more (found : Target × IpAddr) =>
      Connected targetId found.1 found.2 more)
      (connectedLinuxAgent targetId : Controller parse _) seen := by
  refine (Process.only_call (by trivial)).bind fun s₁ found _ hfound => ?_
  refine Process.only_ofOption (herr _) fun target htarget => ?_
  refine Process.only_require (herr _) fun hready => ?_
  refine (Process.only_call (by trivial)).bind fun s₂ resolved hle₂ hresolved => ?_
  refine Process.only_ofOption (herr _) fun addresses haddresses => ?_
  refine Process.only_ofOption (herr _) fun address haddress => ?_
  refine (Process.only_call (by trivial)).bind fun s₃ answer hle₃ hsecret => ?_
  refine only_orFail herr fun token htoken => Process.only_require (herr _) fun hblank => ?_
  refine (Process.only_call (by trivial)).bind fun s₄ built hle₄ _ => ?_
  refine Process.only_require (herr _) fun _ => Process.only_pure ?_
  obtain ⟨hkind, hmanaged⟩ := Bool.and_eq_true_iff.mp hready
  obtain rfl : found = some target := htarget
  obtain rfl : resolved = some addresses := haddresses
  have hread : answer = .ok token := by
    cases answer with
    | error e => cases htoken
    | ok text => exact congrArg Except.ok (Except.ok.inj htoken)
  subst hread
  exact ⟨(hle₂.trans (hle₃.trans hle₄)).subset hfound, hkind, of_decide_eq_true hmanaged,
    ⟨addresses, (hle₃.trans hle₄).subset hresolved, haddress⟩, List.find?_some haddress,
    token, hle₄.subset hsecret, by simpa using hblank⟩

/-- The agent has answered the request. -/
def AnsweredBy (address : IpAddr) (request : Request) (response : request.Response)
    (seen : List (ControllerExchange parse)) : Prop :=
  ∃ delivery, ⟨.send address request, delivery⟩ ∈ seen ∧ delivery.result = .ok response

theorem only_sendRequest {address : IpAddr} (h : Prepares (.send address request)) (n : Nat) :
    Process.Only Prepares (fun _ e => err e) (fun more result => ∀ response, result = .ok response →
      AnsweredBy address request response more)
      (sendRequest address request n : Controller parse _) seen := by
  induction n generalizing seen with
  | zero =>
    refine (Process.only_call h).bind fun s₁ delivery _ hmem => Process.only_pure ?_
    exact fun response hresponse => ⟨delivery, hmem, hresponse⟩
  | succ n ih =>
    refine (Process.only_call h).bind fun s₁ delivery _ hmem => ?_
    split
    case h_1 response hresult =>
      refine Process.only_pure fun response' heq => ?_
      obtain rfl := Except.ok.inj heq
      exact ⟨delivery, hmem, hresult⟩
    case h_2 e _ =>
      split
      case isTrue => exact ih
      case isFalse => exact Process.only_pure fun _ heq => absurd heq nofun

theorem only_clientRequest (request : Request) {address : IpAddr}
    (h : Prepares (.send address request)) :
    Process.Only Prepares (fun _ e => err e) (fun more result => ∀ response, result = .ok response →
      AnsweredBy address request response more)
      (clientRequest address request : Controller parse _) seen := by
  unfold clientRequest
  split
  case isTrue => exact only_sendRequest h 2
  case isFalse => exact Process.only_pure fun _ heq => absurd heq nofun

end Prepares

/-! ### The whole request -/

/-- What has to be so before an attempt at an update of a container of the target `targetId`. -/
structure Justified (actorRole : ActorRole) (targetId : String) (confirmed : Bool)
    (containerId imageId : String) (address : IpAddr) (seen : List (ControllerExchange parse)) :
    Prop where
  granted : actorRole.grants .destructive = true
  confirmed : confirmed = true
  /-- The agent is that of the target that was asked for. -/
  connected : ∃ uuid target, parseUuid targetId "target id" = .ok uuid
    ∧ Connected ⟨uuid⟩ target address seen
  /-- The container belongs to a Compose service. -/
  listed : ∃ discovery container, AnsweredBy address .containers discovery seen
    ∧ container ∈ discovery.containers ∧ container.id = containerId
    ∧ (composeService container.labels).isSome
  /-- The image is the one that the agent has just found. -/
  checked : ∃ check, AnsweredBy address (.imageUpdateCheck containerId) check seen
    ∧ check.status = .updateAvailable ∧ check.remoteImageId = some imageId

theorem AnsweredBy.mono {address : IpAddr} {response : request.Response}
    {seen seen' : List (ControllerExchange parse)} (h : AnsweredBy address request response seen)
    (hle : seen <+: seen') : AnsweredBy address request response seen' := by
  obtain ⟨delivery, hmem, hresult⟩ := h
  exact ⟨delivery, hle.subset hmem, hresult⟩

theorem Justified.mono {actorRole : ActorRole} {targetId : String} {confirmed : Bool}
    {containerId imageId : String} {address : IpAddr}
    {seen seen' : List (ControllerExchange parse)}
    (h : Justified actorRole targetId confirmed containerId imageId address seen)
    (hle : seen <+: seen') :
    Justified actorRole targetId confirmed containerId imageId address seen' := by
  obtain ⟨hgranted, hconfirmed, ⟨uuid, target, hparse, hconnected⟩,
    ⟨discovery, container, hlisted, hcontainer⟩, check, hchecked, hcheck⟩ := h
  exact ⟨hgranted, hconfirmed, ⟨uuid, target, hparse, hconnected.mono hle⟩,
    ⟨discovery, container, hlisted.mono hle, hcontainer⟩, check, hchecked.mono hle, hcheck⟩

/-- What the controller may do: at most three attempts, each of them justified, and an audit event
for an update that has succeeded. -/
def Allows (actorRole : ActorRole) (targetId : String) (confirmed : Bool)
    (containerId imageId : String) (seen : List (ControllerExchange parse)) :
    ControllerCall → Prop
  | .send address (.imageUpdateApply update) => update = ⟨containerId, imageId⟩
    ∧ (attempts seen).length < 3
    ∧ Justified actorRole targetId confirmed containerId imageId address seen
  | .send _ (.lifecycle _) => False
  | .appendAudit details _ => parseUuid targetId "target id" = .ok details.targetId.uuid
    ∧ details.dockerContainerId = containerId
    ∧ details.imageId = imageId ∧ details.actorRole = actorRole
    ∧ ∃ attempt ∈ attempts seen, ∃ result, attempt.2.result = .ok result
  | _ => True

/-- What a success of the controller tells.  With a database an audit event was called for; that it
could not be stored is logged only. -/
def Succeeded (persistent : Bool) (actorRole : ActorRole) (targetId containerId imageId : String)
    (seen : List (ControllerExchange parse)) (result : DockerImageUpdateApplyResult) : Prop :=
  (attempts seen).length ≤ 3
    ∧ (∃ delivery, ⟨⟨containerId, imageId⟩, delivery⟩ ∈ attempts seen
      ∧ delivery.result = .ok result ∧ ∃ authorized platform exchanges run,
        delivery = .reached authorized platform exchanges (.returned (.ok result, ())) run .complete
          ∧ Updated parse ⟨containerId, imageId⟩ exchanges result)
    ∧ (persistent = true → ∃ details at_ stored, ⟨.appendAudit details at_, stored⟩ ∈ seen
      ∧ parseUuid targetId "target id" = .ok details.targetId.uuid
      ∧ details.dockerContainerId = containerId ∧ details.imageId = result.imageId
      ∧ details.composeProject = result.composeProject
      ∧ details.composeService = result.composeService ∧ details.actorRole = actorRole)

/-- What an error of the controller tells: if there was one attempt only, it shows in the error that
a recreation was begun. -/
def NotHidden (seen : List (ControllerExchange parse)) (e : ApiError) : Prop :=
  (attempts seen).length ≤ 3 ∧ ∀ attempt, attempts seen = [attempt] → attempt.2.Touched →
    e.code = "docker_update_apply_failed"

section Whole

variable {actorRole : ActorRole} {targetId : String} {confirmed : Bool}
  {containerId imageId : String}

theorem allows_of_prepares {seen : List (ControllerExchange parse)} {call : ControllerCall}
    (h : Prepares call) : Allows actorRole targetId confirmed containerId imageId seen call := by
  cases call with
  | send address request =>
    cases request with
    | imageUpdateApply | lifecycle => exact absurd h id
    | containers | imageUpdateCheck => trivial
  | findTarget | lookupHost | readSecret | buildClient | publish | saveInventory => trivial
  | appendAudit => exact absurd h id

theorem only_refreshInventory (err : ApiError → Prop) (targetId : TargetId) (address : IpAddr)
    (containerId : String) {seen : List (ControllerExchange parse)} :
    Process.Only Prepares (fun _ e => err e) (fun _ _ => True)
      (refreshInventory targetId address containerId : Controller parse Unit) seen := by
  refine (Process.only_call (by trivial)).bind fun _ _ _ _ => ?_
  refine (only_clientRequest .containers (by trivial)).bind fun _ refreshed _ _ => ?_
  split
  case h_1 => exact Process.only_pure trivial
  case h_2 =>
    split
    case isTrue => exact Process.only_pure trivial
    case isFalse =>
      exact (Process.only_call (by trivial)).bind fun _ _ _ _ => Process.only_pure trivial

/-- The audit event of an update that has succeeded. -/
theorem ensures_auditUpdate {persistent : Bool} {details : UpdateDetails} {createdAt : Timestamp}
    {seen : List (ControllerExchange parse)}
    {err : List (ControllerExchange parse) → Unit → ApiError → Prop}
    (hallows : Allows actorRole targetId confirmed containerId imageId seen
      (.appendAudit details createdAt)) :
    (auditUpdate persistent details createdAt : Controller parse Unit).Ensures record
      (Allows actorRole targetId confirmed containerId imageId)
      (fun s _ _ => seen <+: s ∧ attempts s = attempts seen ∧ (persistent = true →
        ∃ stored, ⟨.appendAudit details createdAt, stored⟩ ∈ s)) err () seen := by
  unfold auditUpdate
  split
  case isFalse hnone => exact ⟨List.prefix_rfl, rfl, fun h => absurd h hnone⟩
  case isTrue =>
    refine Process.ensures_call_bind hallows fun stored => ⟨List.prefix_append seen _, ?_, fun _ =>
      ⟨stored, List.mem_append_right seen List.mem_cons_self⟩⟩
    rw [attempts_append]
    exact List.append_nil _

/-- From the answer of the agent on. -/
theorem ensures_finishUpdate {persistent : Bool} {uuid : Uuid} {target : Target}
    {address : IpAddr} {container : DockerContainerInfo} {seen : List (ControllerExchange parse)}
    {last : Delivery parse (.imageUpdateApply ⟨containerId, imageId⟩)}
    {before : List (Delivery parse (.imageUpdateApply ⟨containerId, imageId⟩))}
    (hid : parseUuid targetId "target id" = .ok uuid)
    (hattempts : attempts seen = (before ++ [last]).map fun delivery => ⟨_, delivery⟩)
    (hlength : before.length ≤ 2)
    (hlast : before.length < 2 → ∀ e, last.result = .error e → e.isRetried = false) :
    (finishUpdate persistent actorRole containerId ⟨uuid⟩ target address container last.result :
      Controller parse _).Ensures record
      (Allows actorRole targetId confirmed containerId imageId)
      (fun s _ answer => Succeeded persistent actorRole targetId containerId imageId s answer.2)
      (fun s _ e => NotHidden s e) () seen := by
  have hthree : (attempts seen).length ≤ 3 := by
    rw [hattempts, List.length_map, List.length_append, List.length_singleton]
    exact Nat.succ_le_succ hlength
  unfold finishUpdate
  cases hresult : last.result with
  | error e =>
    refine ⟨hthree, fun attempt hone htouched => ?_⟩
    obtain rfl : before = [] := by
      have hlength := congrArg List.length (hattempts.symm.trans hone)
      simpa using hlength
    obtain rfl : ⟨_, last⟩ = attempt := by simpa using hattempts.symm.trans hone
    obtain hretried | rfl := Delivery.isRetried_of_touched htouched hresult
    · exact absurd hretried (by simp [hlast (by simp) e hresult])
    · rfl
  | ok result =>
    obtain ⟨authorized, platform, exchanges, run, heq, hupdated⟩ := last.updated_of_ok hresult
    have himage : result.imageId = imageId := by
      obtain ⟨container, -, hfields⟩ := hupdated
      rw [hfields]
    have hmem : ⟨⟨containerId, imageId⟩, last⟩ ∈ attempts seen := by
      rw [hattempts]
      simp
    have hallows : Allows actorRole targetId confirmed containerId imageId seen (.appendAudit
        ⟨⟨uuid⟩, containerId, result.composeProject, result.composeService, container.imageId,
          result.imageId, actorRole⟩ result.completedAt) :=
      ⟨hid, rfl, himage, rfl, ⟨_, last⟩, hmem, result, hresult⟩
    refine Process.ensures_bind.mpr ?_
    change (auditUpdate persistent _ _ >>= fun _ => _).Ensures _ _ _ _ () seen
    refine Process.ensures_bind.mpr ((ensures_auditUpdate hallows).mono ?_ fun _ _ _ h => h)
    rintro s₁ ⟨⟩ ⟨⟩ ⟨hle, hsame, haudit⟩
    rw [← List.append_nil s₁]
    refine (only_refreshInventory (fun _ => False) ⟨uuid⟩ address containerId).ensures_bind
      all_nil (fun _ _ _ => allows_of_prepares) (fun _ _ _ h => absurd h id)
      fun more _ _ hmore _ => ?_
    have hstill : attempts (s₁ ++ more) = attempts seen := by
      rw [attempts_append, attempts_of_prepares hmore, List.append_nil, hsame]
    refine ⟨hstill ▸ hthree, ⟨last, hstill ▸ hmem, hresult, authorized, platform, exchanges, run,
      heq, hupdated⟩, fun hpersistent => ?_⟩
    obtain ⟨stored, hstored⟩ := haudit hpersistent
    exact ⟨_, _, stored, List.mem_append_left more hstored, hid, rfl, rfl, rfl, rfl, rfl⟩

theorem only_checkImageUpdate {err : ApiError → Prop} (herr : ∀ e, err e) (targetId : String)
    {seen : List (ControllerExchange parse)} :
    Process.Only Prepares (fun _ e => err e) (fun more found =>
      parseUuid targetId "target id" = .ok found.1.uuid
        ∧ Justified actorRole targetId confirmed containerId imageId found.2.2.1 more)
      (checkImageUpdate actorRole targetId containerId confirmed imageId : Controller parse _)
      seen := by
  refine Process.only_ofExcept (fun e _ => herr e) fun _ hgranted => ?_
  refine Process.only_require (herr _) fun hconfirmed => ?_
  refine Process.only_require (herr _) fun _ => ?_
  refine Process.only_ofExcept (fun e _ => herr e) fun uuid hparse => ?_
  refine (only_connectedLinuxAgent herr _).bind fun s₁ found _ hconnected => ?_
  obtain ⟨target, address⟩ := found
  refine (only_clientRequest .containers trivial).bind
    fun s₂ listing hle₂ hlisted => ?_
  refine only_orFail herr fun discovery hdiscovery => ?_
  refine Process.only_ofOption (herr _) fun container hcontainer => ?_
  refine Process.only_require (herr _) fun hcompose => ?_
  refine (only_clientRequest (.imageUpdateCheck containerId) trivial).bind
    fun s₃ checking hle₃ hchecked => ?_
  refine only_orFail herr fun check hcheck => Process.only_require (herr _) fun hfresh =>
    Process.only_pure ?_
  obtain ⟨hstatus, hremote⟩ := Bool.and_eq_true_iff.mp hfresh
  have hgranted : actorRole.grants .destructive = true := by
    unfold requirePermission at hgranted
    split at hgranted
    case isTrue h => exact h
    case isFalse => exact absurd hgranted nofun
  exact ⟨hparse, hgranted, hconfirmed,
    ⟨uuid, target, hparse, hconnected.mono (hle₂.trans hle₃)⟩,
    ⟨discovery, container, (hlisted discovery hdiscovery).mono hle₃,
      List.mem_of_find?_eq_some hcontainer, by simpa using List.find?_some hcontainer, hcompose⟩,
    check, hchecked check hcheck, of_decide_eq_true hstatus, of_decide_eq_true hremote⟩

/-- **An image update from end to end.**  Whatever the database, the network, the agent's host and
its Docker answer, and wherever an attempt is stopped: the controller starts an update at most
three times, for a role that may destroy, a confirmed request, the target that was asked for if it
is a connected one, at a private address of its host, a Compose container that its agent has just
listed, and the image that the agent has just found; it tells of success only when the service was
recreated with that image after all checks of the agent and is healthy, and with a database it has
called for an audit event of that; and an error after a single attempt does not hide that a
recreation was begun. -/
theorem applyTargetDockerImageUpdate_endToEnd (parse : JsonParser) (persistent : Bool)
    (actorRole : ActorRole) (targetId containerId : String) (confirmed : Bool) (imageId : String) :
    (applyTargetDockerImageUpdate persistent actorRole targetId containerId confirmed imageId :
      Controller parse _).Ensures record (Allows actorRole targetId confirmed containerId imageId)
      (fun s _ answer => Succeeded persistent actorRole targetId containerId imageId s answer.2)
      (fun s _ e => NotHidden s e) () [] := by
  have hfail : ∀ (more : List (ControllerExchange parse)) (e : ApiError), All Prepares more →
      True → NotHidden ([] ++ more) e := by
    intro more e hmore _
    rw [List.nil_append, NotHidden, attempts_of_prepares hmore]
    exact ⟨Nat.zero_le _, fun _ h => absurd h nofun⟩
  change (checkImageUpdate actorRole targetId containerId confirmed imageId >>= fun _ => _).Ensures
    _ _ _ _ () ([] ++ [])
  refine (only_checkImageUpdate (fun _ => trivial) targetId).ensures_bind all_nil
    (fun _ _ _ => allows_of_prepares) hfail fun more found _ hmore hfound => ?_
  obtain ⟨hid, hjustified⟩ := hfound
  obtain ⟨id, target, address, container⟩ := found
  refine Process.ensures_bind.mpr ?_
  unfold clientRequest
  split
  case isFalse => exact hfail more _ hmore trivial
  case isTrue =>
    have hcount : ∀ deliveries : List (Delivery parse (.imageUpdateApply ⟨containerId, imageId⟩)),
        attempts ([] ++ more ++ sends address deliveries)
          = deliveries.map fun delivery => ⟨_, delivery⟩ := by
      intro deliveries
      rw [attempts_append, List.nil_append, attempts_of_prepares hmore, attempts_sends]
      rfl
    refine ensures_sendRequest 2 (fun before hlength => ⟨rfl, ?_, ?_⟩)
      fun before last hlength _ hlast => ensures_finishUpdate hid (hcount _) hlength hlast
    · rw [hcount, List.length_map]
      exact Nat.lt_succ_of_le hlength
    · exact hjustified.mono (List.prefix_append more _)

end Whole

end Lxcup.Docker
