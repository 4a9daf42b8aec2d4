import Lxcup.Lib.Recorded
import Lxcup.Updater.Service

/-!
# An update is verified or rolled back

What holds of every run of the updater, whatever the controller, the disk, the service manager and
the new agent answer, and wherever the run is stopped.

Only the staged file and the file of the new version are ever changed, and only when the running
binary is another one.  The service is left alone until the staged file was read back with the
checksum of the manifest and has become the file of the new version.  It is pointed to that file or
to the binary that is running, and to nothing else.  A success tells that the agent that answers has
the new version; an error tells that the service is not pointed to the new file any more, unless it
says that the way back has failed.

## Main definitions

* `ChangesFile`, `configured` — the files that a call changes, and the binary of the service.
* `Installed` — the new binary was verified and put in its place.
* `Permits`, `Succeeded`, `RolledBack` — what holds of the calls and at the end.

## Main results

* `agentVersionOf_versionedAgentPath` — the version in the name of the new file is the one that was
  asked for.
* `updateAgentBinary_safe` — what holds of every run.
-/

namespace Lxcup.Updater

open Lxcup.Lib Lxcup.Core Lxcup.Agent

/-! ### Names of files -/

theorem fileStem_concat_exe (directory : Path) (name : String) (h : name.toList ≠ []) :
    fileStem (directory ++ [name ++ ".exe"]) = some name.toList := by
  have hsplit : splitOnce '.' (name ++ ".exe").toList.reverse
      = some ("exe".toList, name.toList.reverse) := by
    rw [String.toList_append, List.reverse_append]
    exact Apt.splitOnce_append (a := "exe".toList) (by decide) name.toList.reverse
  rw [fileStem, List.getLast?_concat, Option.map_some, hsplit]
  dsimp only
  rw [if_neg (by simpa using h), List.reverse_reverse]

/-- **The new agent is expected to have the version that was asked for.** -/
theorem agentVersionOf_versionedAgentPath (directory : Path) (version : String) :
    agentVersionOf (versionedAgentPath directory version) = some version := by
  have hname : ("lxcup-agent-" ++ version).toList ≠ [] := by simp
  rw [agentVersionOf, versionedAgentPath, fileStem_concat_exe directory _ hname, Option.bind_some,
    String.toList_append, stripPrefix_append, Option.map_some, String.ofList_toList]

/-! ### What calls do -/

/-- An exchange of the updater. -/
abbrev UpdaterExchange := Exchange UpdaterCall UpdaterCall.Answer

/-- The files that a call may change. -/
def UpdaterCall.changes : UpdaterCall → List Path
  | write path _ | removeFile path => [path]
  | rename source target => [source, target]
  | _ => []

/-- The binary in a configuration of the service. -/
def configuredPath : List String → Option String
  | ["config", _, _, path, _, _, _, _] => some path
  | _ => none

/-- The binary that the service is pointed to after an exchange. -/
def configure (path : Option String) : UpdaterExchange → Option String
  | ⟨.sc args, .ok⟩ => (configuredPath args).orElse fun _ => path
  | _ => path

/-- The binary that the service was pointed to last. -/
def configuredFrom (path : Option String) (seen : List UpdaterExchange) : Option String :=
  seen.foldl configure path

abbrev configured (seen : List UpdaterExchange) : Option String := configuredFrom none seen

theorem configured_append (seen more : List UpdaterExchange) :
    configured (seen ++ more) = configuredFrom (configured seen) more :=
  List.foldl_append

theorem configured_concat (seen : List UpdaterExchange) (exchange : UpdaterExchange) :
    configured (seen ++ [exchange]) = configure (configured seen) exchange :=
  configured_append seen [exchange]

/-- The call is one to the service manager. -/
def UpdaterCall.IsSc : UpdaterCall → Prop
  | sc _ => True
  | _ => False

theorem configured_of_not_isSc {seen : List UpdaterExchange}
    (h : All (fun call => ¬call.IsSc) seen) : configured seen = none := by
  unfold configured configuredFrom
  induction seen with
  | nil => rfl
  | cons exchange seen ih =>
    have hfirst := h exchange List.mem_cons_self
    obtain ⟨call, answer⟩ := exchange
    cases call with
    | sc args => exact absurd trivial hfirst
    | _ => exact ih fun other hother => h other (.tail _ hother)

/-! ### The service -/

/-- What the restart calls for; the service is pointed to one of two binaries. -/
def ServiceCall (currentPath nextPath : Path) : UpdaterCall → Prop
  | .sc args => args ∈ [["stop", serviceName], ["start", serviceName],
      configArgs (quoted nextPath), configArgs (quoted currentPath)]
  | .query | .sleep | .health _ | .buildClient => True
  | _ => False

/-- The text of an update whose service could not be pointed back. -/
def rollbackFailed : String :=
  "new agent failed health verification and service rollback failed"

/-- The text of an update that was taken back. -/
def previousRestored : String :=
  "new agent failed health verification; previous agent was restored"

section Service

variable {currentPath nextPath : Path} {seen : List UpdaterExchange}

/-- A part of the restart. -/
abbrev Restarts (currentPath nextPath : Path) {α : Type}
    (err : List UpdaterExchange → String → Prop) (ok : List UpdaterExchange → α → Prop)
    (p : Update α) (seen : List UpdaterExchange) : Prop :=
  Process.Only (ServiceCall currentPath nextPath) err ok p seen

variable {path : Option String}

theorem restarts_runSc {args : List String} (h : ServiceCall currentPath nextPath (.sc args))
    (hpath : configured seen = path) :
    Restarts currentPath nextPath (fun more e => configured more = path ∧ e ≠ previousRestored)
      (fun more _ => configured more = (configuredPath args).orElse fun _ => path)
      (runSc args) seen := by
  refine (Process.only_call_eq h).bind ?_
  rintro _ answer - rfl
  cases answer with
  | notReached | failed =>
    exact Process.only_fail ⟨(configured_concat seen _).trans hpath, by decide⟩
  | ok =>
    refine Process.only_pure ?_
    rw [configured_concat, hpath]
    rfl

theorem restarts_waitServiceState (running : Bool) (n : Nat) (hpath : configured seen = path) :
    Restarts currentPath nextPath (fun more e => configured more = path ∧ e ≠ previousRestored)
      (fun more _ => configured more = path) (waitServiceState running n) seen := by
  induction n generalizing seen with
  | zero => exact Process.only_fail ⟨hpath, by decide⟩
  | succ n ih =>
    refine (Process.only_call_eq (by trivial)).bind ?_
    rintro _ text - rfl
    have hquery : configured (seen ++ [⟨.query, text⟩]) = path :=
      (configured_concat seen _).trans hpath
    refine Process.only_ofOption ⟨hquery, by decide⟩ fun text' _ => ?_
    split
    case isTrue => exact Process.only_pure hquery
    case isFalse =>
      refine (Process.only_call_eq (by trivial)).bind ?_
      rintro _ ⟨⟩ - rfl
      exact ih ((configured_concat _ _).trans hquery)

/-- The agent that is listening has told its version last. -/
def AnswersAs (version : String) (seen : List UpdaterExchange) : Prop :=
  ∃ before token, seen = before ++ [⟨.health token, some version⟩]

theorem restarts_awaitVersion (expected token : String) (n : Nat)
    (hpath : configured seen = path) :
    Restarts currentPath nextPath (fun _ _ => False)
      (fun more healthy => configured more = path ∧ (healthy = true → AnswersAs expected more))
      (awaitVersion expected token n) seen := by
  induction n generalizing seen with
  | zero => exact Process.only_pure ⟨hpath, fun h => absurd h (by simp)⟩
  | succ n ih =>
    refine (Process.only_call_eq (by trivial)).bind ?_
    rintro _ version - rfl
    have hhealth : configured (seen ++ [⟨.health token, version⟩]) = path :=
      (configured_concat seen _).trans hpath
    split
    case isTrue hversion =>
      subst hversion
      exact Process.only_pure ⟨hhealth, fun _ => ⟨seen, token, rfl⟩⟩
    case isFalse =>
      refine (Process.only_call_eq (by trivial)).bind ?_
      rintro _ ⟨⟩ - rfl
      exact ih ((configured_concat _ _).trans hhealth)

theorem restarts_waitForAgentVersion (directory : Path) (version token : String) (n : Nat)
    (hpath : configured seen = path) :
    Restarts currentPath nextPath (fun _ _ => False)
      (fun more healthy => configured more = path ∧ (healthy = true → AnswersAs version more))
      (waitForAgentVersion (versionedAgentPath directory version) token n) seen := by
  rw [waitForAgentVersion, agentVersionOf_versionedAgentPath]
  refine (Process.only_call_eq (by trivial)).bind ?_
  rintro _ built - rfl
  have hbuilt : configured (seen ++ [⟨.buildClient, built⟩]) = path :=
    (configured_concat seen _).trans hpath
  split
  case isTrue => exact restarts_awaitVersion version token n hbuilt
  case isFalse => exact Process.only_pure ⟨hbuilt, fun h => absurd h (by simp)⟩

/-- The way back to the running binary, from any configuration. -/
theorem restarts_restoreService (hpath : configured seen = path) :
    Restarts currentPath nextPath
      (fun more _ => configured more = path ∨ configured more = some (quoted currentPath))
      (fun more _ => configured more = some (quoted currentPath))
      (restoreService (quoted currentPath)) seen := by
  refine Process.Only.bind
    ((restarts_runSc (by simp [ServiceCall]) hpath).mono_err fun _ _ h => .inl h.1) ?_
  rintro more ⟨⟩ - hmore
  exact (restarts_runSc (by simp [ServiceCall]) hmore).mono_err fun _ _ h => .inr h.1

/-- What a step finds out is not asked for, and what it leaves does not depend on that. -/
theorem Restarts.ignored {α : Type} {err : List UpdaterExchange → String → Prop} {p : Update α}
    (hp : Restarts currentPath nextPath
      (fun more e => configured more = path ∧ e ≠ previousRestored)
      (fun more _ => configured more = path) p seen) :
    Restarts currentPath nextPath err (fun more _ => configured more = path) p.attempt seen :=
  Process.Only.attempt hp (fun _ _ _ h => h) fun _ _ _ h => h.1

theorem restarts_rollBack (hpath : configured seen = path) :
    Restarts currentPath nextPath
      (fun more e => e = rollbackFailed
        ∨ e = previousRestored ∧ configured more = some (quoted currentPath))
      (fun _ _ => False) (rollBack (quoted currentPath)) seen := by
  refine Process.Only.bind (Restarts.ignored (restarts_runSc (by simp [ServiceCall]) hpath)) ?_
  intro stopped _ _ hstopped
  refine Process.Only.bind (Restarts.ignored (restarts_waitServiceState false 30 hstopped)) ?_
  intro waited _ _ hwaited
  have hback : Restarts currentPath nextPath
      (fun more e => e = rollbackFailed
        ∨ e = previousRestored ∧ configured more = some (quoted currentPath))
      (fun more result => ∀ a, result = .ok a → configured more = some (quoted currentPath))
      (restoreService (quoted currentPath)).attempt waited :=
    Process.Only.attempt (restarts_restoreService hwaited) (fun _ _ _ h _ _ => h)
      fun _ _ _ _ _ h => absurd h (by simp)
  refine hback.bind ?_
  intro restored result _ hrestored
  cases result with
  | error _ => exact Process.only_fail (.inl rfl)
  | ok a => exact Process.only_fail (.inr ⟨rfl, hrestored a rfl⟩)

/-- Where the service is pointed to when an update fails. -/
def NotPointed (currentPath : Path) (seen : List UpdaterExchange) (e : String) : Prop :=
  e = rollbackFailed ∨ configured seen = some (quoted currentPath)
    ∨ configured seen = none ∧ e ≠ previousRestored

theorem restarts_restartService (directory : Path) (version token : String) :
    Restarts currentPath (versionedAgentPath directory version) (NotPointed currentPath)
      (fun more _ => configured more = some (quoted (versionedAgentPath directory version))
        ∧ AnswersAs version more)
      (restartService currentPath (versionedAgentPath directory version) token) [] := by
  have hback : ∀ {seen path}, configured seen = path →
      Restarts currentPath (versionedAgentPath directory version) (NotPointed currentPath)
        (fun more _ => configured more = some (quoted (versionedAgentPath directory version))
          ∧ AnswersAs version more) (rollBack (quoted currentPath)) seen := by
    intro seen path hpath
    refine ((restarts_rollBack hpath).mono_err ?_).mono fun _ _ => False.elim
    rintro more e (h | ⟨-, h⟩)
    · exact .inl h
    · exact .inr (.inl h)
  have hempty : configured [] = none := rfl
  refine Process.Only.bind
    ((restarts_runSc (by simp [ServiceCall]) hempty).mono_err fun _ _ h => .inr (.inr h)) ?_
  rintro stopped ⟨⟩ - hstopped
  refine Process.Only.bind
    ((restarts_waitServiceState false 30 hstopped).mono_err fun _ _ h => .inr (.inr h)) ?_
  rintro waited ⟨⟩ - hwaited
  have hchange : Restarts currentPath (versionedAgentPath directory version)
      (NotPointed currentPath)
      (fun more result =>
        (∀ a, result = .ok a →
          configured more = some (quoted (versionedAgentPath directory version)))
        ∧ ∀ e, result = .error e → configured more = none ∧ e ≠ previousRestored)
      (runSc (configArgs (quoted (versionedAgentPath directory version)))).attempt waited :=
    Process.Only.attempt (restarts_runSc (by simp [ServiceCall]) hwaited)
      (fun _ _ _ h => ⟨fun _ _ => h, by simp⟩)
      fun _ _ _ h => ⟨by simp, fun _ he => Except.error.inj he ▸ h⟩
  refine hchange.bind ?_
  intro changed result _ ⟨hok, herr⟩
  cases result with
  | error e =>
    obtain ⟨hnone, he⟩ := herr e rfl
    have hrestore : Restarts currentPath (versionedAgentPath directory version)
        (NotPointed currentPath)
        (fun more _ => configured more = none ∨ configured more = some (quoted currentPath))
        (restoreService (quoted currentPath)).attempt changed :=
      Process.Only.attempt (restarts_restoreService hnone) (fun _ _ _ => .inr) fun _ _ _ h => h
    refine hrestore.bind ?_
    rintro restored _ - (h | h)
    · exact Process.only_fail (.inr (.inr ⟨h, he⟩))
    · exact Process.only_fail (.inr (.inl h))
  | ok a =>
    refine Process.Only.bind
      (Restarts.ignored (restarts_runSc (by simp [ServiceCall]) (hok a rfl))) ?_
    intro started startResult _ hstarted
    cases startResult with
    | error _ => exact hback hstarted
    | ok _ =>
      refine Process.Only.bind
        ((restarts_waitForAgentVersion directory version token 30 hstarted).mono_err
          fun _ _ => False.elim) ?_
      rintro answered healthy - ⟨hpath, hanswers⟩
      split
      case isTrue hhealthy => exact Process.only_pure ⟨hpath, hanswers hhealthy⟩
      case isFalse => exact hback hpath

end Service

/-! ### The whole update -/

section Update

variable (sha : Sha256) (parse : UrlParser) (controller version : String)

/-- The new binary, where the service is to find it. -/
def nextPath : Path := versionedAgentPath installDirectory version

/-- The staged file was read back with the checksum that a manifest of the controller has for the
version, and has become the file of the new version without another change. -/
def Verified (seen : List UpdaterExchange) : Prop :=
  ∃ url manifest hash before limit contents between,
    ⟨.getManifest url, .ok manifest⟩ ∈ before
    ∧ windowsArtifactHash manifest version = .ok hash
    ∧ verifyFile sha hash contents = .ok ()
    ∧ seen = before ++ [⟨.readFile (stagedPath version) limit, .contents contents⟩] ++ between
        ++ [⟨.rename (stagedPath version) (nextPath version), true⟩]
    ∧ All (fun call => stagedPath version ∉ call.changes) between

/-- The new binary was verified and put in its place, and no file has changed since. -/
def Installed (seen : List UpdaterExchange) : Prop :=
  ∃ before after, seen = before ++ after ∧ Verified sha version before
    ∧ All (fun call => call.changes = []) after

/-- The running binary is another one than the new one. -/
def Replaces (currentPath : Path) (seen : List UpdaterExchange) : Prop :=
  ⟨.currentExe, some currentPath⟩ ∈ seen ∧ currentPath ≠ nextPath version

/-- The address of an artifact at the controller that was asked for, which is a safe one. -/
def OfController (name url : String) : Prop :=
  ∃ address, validatedControllerUrl parse controller = .ok address
    ∧ url = trimEndSlashes address.text ++ "/agent/" ++ version ++ name

/-- What has to be so before a call. -/
structure Permits (seen : List UpdaterExchange) (call : UpdaterCall) : Prop where
  /-- The version may be put into addresses and names of files. -/
  valid : validVersion version = true
  manifest : ∀ url, call = .getManifest url →
    OfController parse controller version "/manifest.json" url
  binary : ∀ url, call = .getBinary url →
    OfController parse controller version "/windows-amd64.exe" url
  /-- The files that are changed are the new ones, and neither is the running binary's. -/
  files : ∀ path ∈ call.changes,
    (path = stagedPath version ∨ path = nextPath version)
      ∧ ∃ currentPath, Replaces version currentPath seen
  /-- The service is left alone until the new binary is verified and in its place. -/
  service : call.IsSc → Installed sha version seen
    ∧ ∃ currentPath, Replaces version currentPath seen
      ∧ ServiceCall currentPath (nextPath version) call

/-- What holds when the update succeeds. -/
def Succeeded (seen : List UpdaterExchange) : Prop :=
  (⟨.currentExe, some (nextPath version)⟩ ∈ seen ∧ All (fun call => call.changes = []) seen
      ∧ All (fun call => ¬call.IsSc) seen)
    ∨ Installed sha version seen ∧ configured seen = some (quoted (nextPath version))
      ∧ AnswersAs version seen

/-- What holds when it fails. -/
def RolledBack (seen : List UpdaterExchange) (e : String) : Prop :=
  e = rollbackFailed
    ∨ (∃ currentPath, Replaces version currentPath seen
        ∧ configured seen = some (quoted currentPath))
    ∨ configured seen = none ∧ e ≠ previousRestored

/-- What is called before the new binary is staged. -/
structure Downloads (call : UpdaterCall) : Prop where
  changes : call.changes = []
  notSc : ¬call.IsSc
  manifest : ∀ url, call = .getManifest url →
    OfController parse controller version "/manifest.json" url
  binary : ∀ url, call = .getBinary url →
    OfController parse controller version "/windows-amd64.exe" url

variable {sha parse controller version}

theorem Downloads.permits {call : UpdaterCall} (h : Downloads parse controller version call)
    (hvalid : validVersion version = true) (seen : List UpdaterExchange) :
    Permits sha parse controller version seen call where
  valid := hvalid
  manifest := h.manifest
  binary := h.binary
  files := by simp [h.changes]
  service hsc := absurd hsc h.notSc

theorem not_restored_of_windowsArtifactHash {manifest : ArtifactManifest} {e : String}
    (h : windowsArtifactHash manifest version = .error e) : e ≠ previousRestored := by
  unfold windowsArtifactHash at h
  split at h
  case isTrue => cases h; decide
  case isFalse =>
    split at h
    case h_1 => cases h; decide
    case h_2 => split at h <;> cases h; decide

theorem not_restored_of_validateWindowsAmd64Pe {bytes : List UInt8} {e : String}
    (h : validateWindowsAmd64Pe bytes = .error e) : e ≠ previousRestored := by
  unfold validateWindowsAmd64Pe at h
  split at h
  case isTrue => cases h; decide
  case isFalse =>
    dsimp only at h
    split at h
    case h_1 => cases h; decide
    case h_2 => split at h <;> cases h; decide

theorem not_restored_of_verifyBinary {hash : String} {bytes : List UInt8} {e : String}
    (h : verifyBinary sha hash bytes = .error e) : e ≠ previousRestored := by
  unfold verifyBinary at h
  split at h
  case isTrue => cases h; decide
  case isFalse =>
    split at h
    case isTrue => cases h; decide
    case isFalse => exact not_restored_of_validateWindowsAmd64Pe h

theorem not_restored_of_verifyFile {hash : String} {bytes : List UInt8} {e : String}
    (h : verifyFile sha hash bytes = .error e) : e ≠ previousRestored := by
  unfold verifyFile at h
  split at h
  case isTrue => cases h; decide
  case isFalse => exact not_restored_of_validateWindowsAmd64Pe h

theorem not_restored_of_validatedControllerUrl {e : String}
    (h : validatedControllerUrl parse controller = .error e) : e ≠ previousRestored := by
  unfold validatedControllerUrl at h
  split at h
  case h_1 => cases h; decide
  case h_2 =>
    dsimp only at h
    split at h <;> cases h
    decide

theorem only_downloadVerifiedWindowsArtifact {address : Url} {seen : List UpdaterExchange}
    (haddress : validatedControllerUrl parse controller = .ok address) :
    Process.Only (Downloads parse controller version) (fun _ e => e ≠ previousRestored)
      (fun more result => ∃ url manifest, ⟨.getManifest url, .ok manifest⟩ ∈ more
        ∧ windowsArtifactHash manifest version = .ok result.2)
      (downloadVerifiedWindowsArtifact sha
        (trimEndSlashes address.text ++ "/agent/" ++ version) version) seen := by
  have hmanifest : Downloads parse controller version
      (.getManifest (trimEndSlashes address.text ++ "/agent/" ++ version ++ "/manifest.json")) :=
    ⟨rfl, id, fun _ h => ⟨address, haddress, (UpdaterCall.getManifest.inj h).symm⟩, nofun⟩
  have hbinary : Downloads parse controller version
      (.getBinary (trimEndSlashes address.text ++ "/agent/" ++ version ++ "/windows-amd64.exe")) :=
    ⟨rfl, id, nofun, fun _ h => ⟨address, haddress, (UpdaterCall.getBinary.inj h).symm⟩⟩
  refine (Process.only_call hmanifest).bind ?_
  intro more answer _ hanswer
  cases answer with
  | unavailable | invalid => exact Process.only_fail (by decide)
  | ok manifest =>
    refine Process.only_ofExcept (fun e => not_restored_of_windowsArtifactHash) fun hash hhash => ?_
    refine (Process.only_call hbinary).bind ?_
    intro more' response hle _
    refine Process.only_ofOption (by decide) fun response _ => ?_
    refine Process.only_require (by decide) fun _ => ?_
    refine Process.only_ofOption (by decide) fun bytes _ => ?_
    refine Process.only_ofExcept (fun e => not_restored_of_verifyBinary) fun _ _ => ?_
    exact Process.only_pure ⟨_, manifest, hle.subset hanswer, hhash⟩

theorem stagedPath_ne_nextPath : stagedPath version ≠ nextPath version := by
  intro h
  have hname := List.append_cancel_left h
  obtain ⟨htext, -⟩ := List.cons.inj hname
  have hlength := congrArg String.length htext
  rw [String.length_append, String.length_append _ ".exe", Nat.add_left_cancel_iff] at hlength
  exact absurd hlength (by decide)

/-- What is called to put the staged binary in its place; the staged file itself is moved last. -/
def MakesRoom (version : String) (call : UpdaterCall) : Prop :=
  call = .exists_ (nextPath version) ∨ call = .removeFile (nextPath version)

theorem only_removeStale {seen : List UpdaterExchange} :
    Process.Only (MakesRoom version) (fun _ e => e ≠ previousRestored) (fun _ _ => True)
      (removeStale (nextPath version)) seen := by
  refine (Process.only_call (.inl rfl)).bind ?_
  intro more stale _ _
  split
  case isTrue => exact Process.only_pure trivial
  case isFalse =>
    refine (Process.only_call (.inr rfl)).bind ?_
    intro more' removed _ _
    exact Process.only_check (by decide) fun _ => trivial

theorem MakesRoom.notSc {call : UpdaterCall} (h : MakesRoom version call) : ¬call.IsSc := by
  obtain rfl | rfl := h <;> exact id

theorem MakesRoom.staged {call : UpdaterCall} (h : MakesRoom version call) :
    stagedPath version ∉ call.changes := by
  obtain rfl | rfl := h
  · exact List.not_mem_nil
  · exact fun hmem => stagedPath_ne_nextPath (List.mem_singleton.mp hmem)

/-- A call to the files of the new binary, when another one is running. -/
theorem permits_of_files {currentPath : Path} {seen : List UpdaterExchange} {call : UpdaterCall}
    (hvalid : validVersion version = true) (hreplaces : Replaces version currentPath seen)
    (hfiles : ∀ path ∈ call.changes, path = stagedPath version ∨ path = nextPath version)
    (hsc : ¬call.IsSc) (hmanifest : ∀ url, call ≠ .getManifest url)
    (hbinary : ∀ url, call ≠ .getBinary url) : Permits sha parse controller version seen call where
  valid := hvalid
  manifest url h := absurd h (hmanifest url)
  binary url h := absurd h (hbinary url)
  files path hpath := ⟨hfiles path hpath, currentPath, hreplaces⟩
  service h := absurd h hsc

theorem MakesRoom.permits {currentPath : Path} {seen : List UpdaterExchange} {call : UpdaterCall}
    (h : MakesRoom version call) (hvalid : validVersion version = true)
    (hreplaces : Replaces version currentPath seen) :
    Permits sha parse controller version seen call := by
  refine permits_of_files hvalid hreplaces ?_ h.notSc ?_ ?_
  · intro path hpath
    obtain rfl | rfl := h
    · exact absurd hpath List.not_mem_nil
    · exact .inr (List.mem_singleton.mp hpath)
  · obtain rfl | rfl := h <;> nofun
  · obtain rfl | rfl := h <;> nofun

theorem ServiceCall.changes {currentPath next : Path} {call : UpdaterCall}
    (h : ServiceCall currentPath next call) : call.changes = [] := by
  cases call <;> first | rfl | exact h.elim

theorem ServiceCall.permits {currentPath : Path} {base more : List UpdaterExchange}
    {call : UpdaterCall} (h : ServiceCall currentPath (nextPath version) call)
    (hvalid : validVersion version = true) (hreplaces : Replaces version currentPath base)
    (hverified : Verified sha version base)
    (hmore : All (ServiceCall currentPath (nextPath version)) more) :
    Permits sha parse controller version (base ++ more) call where
  valid := hvalid
  manifest url hurl := by
    subst hurl
    exact h.elim
  binary url hurl := by
    subst hurl
    exact h.elim
  files path hpath := by
    rw [h.changes] at hpath
    exact absurd hpath List.not_mem_nil
  service _ := by
    refine ⟨⟨base, more, rfl, hverified, fun exchange hmem => (hmore exchange hmem).changes⟩, ?_⟩
    exact ⟨currentPath, ⟨List.mem_append_left more hreplaces.1, hreplaces.2⟩, h⟩

/-- A failure before the service is touched. -/
theorem rolledBack_of_early {seen : List UpdaterExchange} {e : String}
    (hsc : All (fun call => ¬call.IsSc) seen) (he : e ≠ previousRestored) :
    RolledBack version seen e :=
  .inr (.inr ⟨configured_of_not_isSc hsc, he⟩)

/-- The service is restarted for the new binary, which is in its place. -/
theorem ensures_restartService {currentPath : Path} {base : List UpdaterExchange} {token : String}
    (hvalid : validVersion version = true) (hreplaces : Replaces version currentPath base)
    (hverified : Verified sha version base) (hsc : All (fun call => ¬call.IsSc) base) :
    (restartService currentPath (nextPath version) token).Ensures record
      (Permits sha parse controller version) (fun seen _ _ => Succeeded sha version seen)
      (fun seen _ e => RolledBack version seen e) () base := by
  have hnone := configured_of_not_isSc hsc
  have hpath : ∀ more, configured (base ++ more) = configured more := fun more => by
    rw [configured_append, hnone]
  have hbase : base ++ [] = base := List.append_nil base
  rw [← hbase]
  refine (restarts_restartService installDirectory version token).ensures all_nil ?_ ?_ ?_
  · exact fun more call hmore hcall => ServiceCall.permits hcall hvalid hreplaces hverified hmore
  · intro more e _ he
    rw [RolledBack, hpath]
    obtain he | he | he := he
    · exact .inl he
    · exact .inr (.inl ⟨currentPath, ⟨List.mem_append_left more hreplaces.1, hreplaces.2⟩, he⟩)
    · exact .inr (.inr he)
  · rintro more ⟨⟩ hmore ⟨hconfigured, before, answering, rfl⟩
    refine .inr ⟨⟨base, _, rfl, hverified, fun exchange hmem => (hmore exchange hmem).changes⟩,
      (hpath _).trans hconfigured, base ++ before, answering, (List.append_assoc ..).symm⟩

/-- The files are replaced, with the checksum of a manifest that was downloaded. -/
theorem ensures_replaceAgentBinary {currentPath : Path} {base : List UpdaterExchange}
    {bytes : List UInt8} {hash token url : String} {manifest : ArtifactManifest}
    (hvalid : validVersion version = true) (hreplaces : Replaces version currentPath base)
    (hmanifest : ⟨.getManifest url, .ok manifest⟩ ∈ base)
    (hhash : windowsArtifactHash manifest version = .ok hash)
    (hsc : All (fun call => ¬call.IsSc) base) :
    (replaceAgentBinary sha currentPath (nextPath version) (stagedPath version) bytes hash
      token).Ensures record (Permits sha parse controller version)
      (fun seen _ _ => Succeeded sha version seen) (fun seen _ e => RolledBack version seen e) ()
      base := by
  have hafter : ∀ more, Replaces version currentPath (base ++ more) :=
    fun more => ⟨List.mem_append_left more hreplaces.1, hreplaces.2⟩
  have hstaged : ∀ path ∈ [stagedPath version],
      path = stagedPath version ∨ path = nextPath version :=
    fun path hmem => .inl (List.mem_singleton.mp hmem)
  refine Process.ensures_call_bind (permits_of_files hvalid hreplaces hstaged id nofun nofun)
    fun written => ?_
  replace hsc := hsc.concat id written
  refine Process.ensures_bind.mpr ((Process.ensures_require _ _).mpr ?_)
  split
  case isFalse => exact rolledBack_of_early hsc (by decide)
  case isTrue =>
  -- the staged file is read back
  have hread : Permits sha parse controller version (base ++ [⟨.write (stagedPath version) bytes,
      written⟩]) (.readFile (stagedPath version) (maxAgentArtifactBytes + 1)) :=
    permits_of_files hvalid (hafter _) nofun id nofun nofun
  refine Process.ensures_bind.mpr (Process.ensures_attempt.mpr ?_)
  refine Process.ensures_call_bind hread fun file => ?_
  replace hsc := hsc.concat id file
  -- a file that is not verified is removed
  have hremove : ∀ e, e ≠ previousRestored →
      (perform (.removeFile (stagedPath version)) >>= fun _ => Process.fail e).Ensures record
        (Permits sha parse controller version) (fun seen _ (_ : Unit) => Succeeded sha version seen)
        (fun seen _ e => RolledBack version seen e) ()
        (base ++ [⟨.write (stagedPath version) bytes, written⟩]
          ++ [⟨.readFile (stagedPath version) (maxAgentArtifactBytes + 1), file⟩]) := by
    intro e he
    rw [List.append_assoc] at hsc ⊢
    exact Process.ensures_call_bind
      (permits_of_files hvalid (hafter _) hstaged id nofun nofun) fun removed =>
        rolledBack_of_early (hsc.concat id removed) he
  cases file with
  | notOpened => exact hremove _ (by decide)
  | notRead => exact hremove _ (by decide)
  | contents contents =>
    refine (Process.ensures_ofExcept _).mpr ?_
    split
    case h_2 e he => exact hremove e (not_restored_of_verifyFile he)
    case h_1 hverify =>
    -- the new file is put in its place
    rw [← List.append_nil (base ++ _ ++ _)]
    refine only_removeStale.ensures_bind all_nil (fun room call _ hcall => ?_)
      (fun room e hroom he => ?_) fun room _ _ hroom _ => ?_
    · rw [List.append_assoc, List.append_assoc]
      exact hcall.permits hvalid (hafter _)
    · exact rolledBack_of_early (hsc.append fun exchange hmem => (hroom exchange hmem).notSc) he
    replace hsc := hsc.append fun exchange hmem => (hroom exchange hmem).notSc
    have hrename : Permits sha parse controller version (base
        ++ [⟨.write (stagedPath version) bytes, written⟩]
        ++ [⟨.readFile (stagedPath version) (maxAgentArtifactBytes + 1), .contents contents⟩]
        ++ room) (.rename (stagedPath version) (nextPath version)) := by
      rw [List.append_assoc, List.append_assoc]
      exact permits_of_files hvalid (hafter _) (by simp [UpdaterCall.changes]) id nofun nofun
    refine Process.ensures_call_bind hrename fun activated => ?_
    replace hsc := hsc.concat id activated
    refine Process.ensures_bind.mpr ((Process.ensures_require _ _).mpr ?_)
    split
    case isFalse => exact rolledBack_of_early hsc (by decide)
    case isTrue hactivated =>
      subst hactivated
      refine ensures_restartService hvalid ?_ ?_ hsc
      · rw [List.append_assoc, List.append_assoc, List.append_assoc]
        exact hafter _
      · exact ⟨url, manifest, hash, _, _, contents, room, List.mem_append_left _ hmanifest, hhash,
          hverify, rfl, fun exchange hmem => (hroom exchange hmem).staged⟩

/-- **An update is verified or rolled back.**  Only the new files are changed, and only when another
binary is running; the service is left alone until the new binary was verified and is in its place;
a success tells that the agent that answers has the new version, or that it is the one that is
running; after an error the service is not pointed to the new binary, or the error says that the
way back has failed. -/
theorem updateAgentBinary_safe (sha : Sha256) (parse : UrlParser)
    (controller token version : String) :
    (updateAgentBinary sha parse controller token version).Ensures record
      (Permits sha parse controller version) (fun seen _ _ => Succeeded sha version seen)
      (fun seen _ e => RolledBack version seen e) () [] := by
  refine Process.ensures_bind.mpr ((Process.ensures_require _ _).mpr ?_)
  split
  case isFalse => exact rolledBack_of_early all_nil (by decide)
  case isTrue hvalid =>
  refine Process.ensures_bind.mpr ((Process.ensures_ofExcept _).mpr ?_)
  split
  case h_2 e he => exact rolledBack_of_early all_nil (not_restored_of_validatedControllerUrl he)
  case h_1 address haddress =>
  have hpre : ∀ (more : List UpdaterExchange) (call : UpdaterCall),
      All (Downloads parse controller version) more → Downloads parse controller version call →
      Permits sha parse controller version ([] ++ more) call :=
    fun more call _ hcall => hcall.permits hvalid more
  have hfail : ∀ (more : List UpdaterExchange) (e : String),
      All (Downloads parse controller version) more → e ≠ previousRestored →
      RolledBack version ([] ++ more) e :=
    fun more e hmore he => rolledBack_of_early (fun exchange hmem => (hmore exchange hmem).notSc) he
  have hchecks : ∀ (cond : Bool) (e : String) (more : List UpdaterExchange), e ≠ previousRestored →
      Process.Only (Downloads parse controller version) (fun _ e => e ≠ previousRestored)
        (fun _ _ => True) (Process.require cond e) more :=
    fun cond e more he => Process.only_check he fun _ => trivial
  have hcalls : ∀ (call : UpdaterCall) (more : List UpdaterExchange), call.changes = [] →
      ¬call.IsSc → (∀ url, call ≠ .getManifest url) → (∀ url, call ≠ .getBinary url) →
      Process.Only (Downloads parse controller version) (fun _ e => e ≠ previousRestored)
        (fun more answer => ⟨call, answer⟩ ∈ more) (perform call) more :=
    fun call more hfiles hsc hmanifest hbinary => Process.only_call
      ⟨hfiles, hsc, fun url h => absurd h (hmanifest url), fun url h => absurd h (hbinary url)⟩
  -- what is read and downloaded
  change (perform .buildClient >>= fun _ => _).Ensures _ _ _ _ () ([] ++ [])
  refine (hcalls .buildClient [] rfl id nofun nofun).ensures_bind all_nil hpre hfail
    fun more _ _ hmore _ => ?_
  refine (hchecks _ _ _ (by decide)).ensures_bind hmore hpre hfail fun more _ _ hmore _ => ?_
  refine (only_downloadVerifiedWindowsArtifact haddress).ensures_bind hmore hpre hfail
    fun more result _ hmore hmanifest => ?_
  obtain ⟨bytes, hash⟩ := result
  obtain ⟨url, manifest, hmanifest, hhash⟩ := hmanifest
  refine (hcalls (.createDirAll _) _ rfl id nofun nofun).ensures_bind hmore hpre hfail
    fun more _ hle hmore _ => ?_
  replace hmanifest := hle.subset hmanifest
  refine (hchecks _ _ _ (by decide)).ensures_bind hmore hpre hfail fun more _ hle hmore _ => ?_
  replace hmanifest := hle.subset hmanifest
  refine (hcalls .currentExe _ rfl id nofun nofun).ensures_bind hmore hpre hfail
    fun more current hle hmore hcurrent => ?_
  replace hmanifest := hle.subset hmanifest
  have hnotSc : All (fun call => ¬call.IsSc) more :=
    fun exchange hmem => (hmore exchange hmem).notSc
  change Process.Ensures _ _ _ _ _ () more
  refine Process.ensures_bind.mpr ((Process.ensures_ofOption _ _).mpr ⟨?_, ?_⟩)
  case refine_2 =>
    intro _
    exact rolledBack_of_early hnotSc (by decide)
  rintro currentPath rfl
  dsimp only
  split
  case isTrue hsame =>
    obtain rfl : currentPath = nextPath version := hsame
    exact .inl ⟨hcurrent, fun exchange hmem => (hmore exchange hmem).changes, hnotSc⟩
  case isFalse hother =>
    have hreplaces : Replaces version currentPath more := ⟨hcurrent, hother⟩
    exact ensures_replaceAgentBinary hvalid hreplaces hmanifest hhash hnotSc

end Update

end Lxcup.Updater
