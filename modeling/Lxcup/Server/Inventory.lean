import Lxcup.Apt.Output
import Lxcup.Server.Api

/-!
# Scanning a container for updates

`run_scan` has the agent of a container list its upgradable packages and builds the scan
from the response.  The listing goes through three stages in three crates: the agent
normalises it to records of several lines, cuts its output to one line of at most 240
characters (`safeDetail`), and the server reads records of several lines.  The second
stage joins the lines that the third one needs, so that no listing with a package gets
through.

## Main definitions

* `AptLine`, `aptListing` — well-formed lines of `apt list --upgradable`, and its output.
* `runScan` — the request handler.
* `ScanLists` — the scan succeeded with exactly the listed updates.

## Main results

* `scanLists_iff` — the scan of a listing has exactly the listed updates if and only if the
  listing is empty.
* `one_package_not_listed` — a listing with one package makes the scan fail.
-/

namespace Lxcup.Server

open Lxcup.Lib Lxcup.Core Lxcup.Agent Lxcup.Apt

/-! ### Listings -/

/-- Not empty and without white space. -/
def isWord (text : String) : Bool := text.toList ≠ [] && text.toList.all (!isWhitespace ·)

/-- The characters of Debian package names. -/
def isPackageChar (c : Char) : Bool :=
  isAsciiDigit c || (97 ≤ c.toNat && c.toNat ≤ 122) || c ∈ "+-.".toList

/-- A well-formed line `name/suite version arch [upgradable from: version]`. -/
structure AptLine where
  name : PackageName
  suite : String
  candidate : PackageVersion
  arch : String
  installed : PackageVersion
  nameChars : name.value.toList.all isPackageChar = true
  suiteWord : isWord suite = true
  candidateWord : isWord candidate.value = true
  archWord : isWord arch = true
  installedWord : isWord installed.value = true
  installedClosed : ']' ∉ installed.value.toList

namespace AptLine

/-- The line as `apt` prints it. -/
def text (line : AptLine) : String :=
  line.name.value ++ "/" ++ line.suite ++ " " ++ line.candidate.value ++ " " ++ line.arch
    ++ " [upgradable from: " ++ line.installed.value ++ "]"

/-- The update a line stands for: updates of a security suite are security updates. -/
def update (line : AptLine) : AvailableUpdate where
  package := line.name
  installedVersion := line.installed
  candidateVersion := line.candidate
  classification :=
    if (splitAtText "security".toList line.suite.toList).isSome then .security else .normal
  held := false

end AptLine

/-- The output of `apt list --upgradable`: a heading, which may be missing, and the lines. -/
def aptListing (heading : Bool) (lines : List AptLine) : String :=
  String.ofList ((if heading then "Listing...\n".toList else [])
    ++ lines.flatMap fun line => line.text.toList ++ ['\n'])

/-! ### The handler -/

/-- Replace the scans with an id by another. -/
def putScan (scans : List Scan) (id : ScanId) (scan : Scan) : List Scan :=
  scans.map fun other => if other.id = id then scan else other

/-- The scan that a response of the agent makes of a running scan. -/
def finishScan (scan : Scan) (response : AgentCommandResponse) (newId : ScanId)
    (now : Timestamp) : Except ApiError Scan :=
  if response.success then
    match buildScan scan.containerId
        ⟨response.stdout, response.stderr, some response.exitCode⟩ newId now with
    | .ok (result, _) => .ok { result with id := scan.id }
    | .error _ =>
      match scan.transitionTo .failed now with
      | some scan => .ok scan
      | none => .error (.badRequest "scan_failed" "the agent returned invalid scan data")
  else
    match scan.transitionTo .failed now with
    | some scan => .ok scan
    | none => .error (.badRequest "scan_failed" "the agent scan failed")

/-- `run_scan`: the scans of the store after the request, and its answer.  `agents` are the
containers with a registered agent, `response` is what the agent answers, if it does; the
store is the same before and after the call of the agent. -/
def runScan (scans : List Scan) (agents : List ContainerId) (id : ScanId)
    (response : Option AgentCommandResponse) (newId : ScanId) (now : Timestamp) :
    List Scan × Except ApiError Scan :=
  match scans.find? fun scan => scan.id = id with
  | none => (scans, .error (.notFound "scan not found"))
  | some scan =>
    match scan.transitionTo .running now with
    | none => (scans, .error (.badRequest "scan_not_runnable" "scan is not runnable"))
    | some running =>
      -- the scan is running from here on, also when the agent is not there
      let scans := putScan scans id running
      if running.containerId ∉ agents then
        (scans, .error (.dependency "agent_unavailable"
          "no agent is registered for this container"))
      else
        match response with
        | none => (scans, .error (.dependency "agent_request_failed"
            "the agent scan request failed"))
        | some response =>
          match finishScan running response newId now with
          | .error error => (scans, .error error)
          | .ok scan => (putScan scans id scan, .ok scan)

/-! ### The pipeline -/

/-- What the agent answers to the scan command when `apt` ends with the given listing. -/
def scanResponse (round : Round) (listing stderr : String) : AgentCommandResponse :=
  commandResponse round
    (runLocalCommand .linux .scan [] (.exited (some 0) listing stderr))

/-- The scan succeeded and its updates are exactly those of the lines, in order. -/
def ScanLists (lines : List AptLine) (scan : Scan) : Prop :=
  scan.status = .succeeded ∧ scan.updates = lines.map AptLine.update

theorem scanResponse_stdout (round : Round) (listing stderr : String) :
    (scanResponse round listing stderr).stdout = safeDetail (normalizeAptList listing) := rfl

/-- What is left of an output is a single line. -/
theorem not_mem_safeDetail (value : String) : '\n' ∉ (safeDetail value).toList := by
  rw [safeDetail, String.toList_ofList]
  intro hmem
  obtain ⟨c, -, hc⟩ := List.mem_map.mp (List.mem_of_mem_take hmem)
  split at hc
  · exact absurd hc (by decide)
  · rename_i hline
    exact hline (.inr hc)

/-- Every record of a listing begins with the `Package` field. -/
theorem aptEntry_eq_some {line entry : List Char} (h : aptEntry line = some entry) :
    ∃ rest, entry = "Package: ".toList ++ rest := by
  unfold aptEntry at h
  dsimp only at h
  split at h
  · cases h
  · simp only [Option.bind_eq_bind, Option.bind_eq_some_iff, pure, Option.some.injEq] at h
    obtain ⟨⟨package, -⟩, -, candidate, -, ⟨-, rest⟩, -, rfl⟩ := h
    simp only [List.append_assoc]
    exact ⟨_, rfl⟩

/-- A normalised listing is empty or begins with the `Package` field. -/
theorem normalizeAptList_cases (listing : String) :
    normalizeAptList listing = "" ∨
      ∃ rest, (normalizeAptList listing).toList = "Package: ".toList ++ rest := by
  unfold normalizeAptList
  cases hentries : (lines listing.toList).filterMap aptEntry with
  | nil => exact .inl rfl
  | cons entry entries =>
    have hmem : entry ∈ (lines listing.toList).filterMap aptEntry := by
      rw [hentries]
      exact List.mem_cons_self
    obtain ⟨line, -, hentry⟩ := List.mem_filterMap.mp hmem
    obtain ⟨rest, rfl⟩ := aptEntry_eq_some hentry
    right
    rw [String.toList_ofList]
    cases entries with
    | nil => exact ⟨rest, by simp [List.intercalate]⟩
    | cons entry' entries =>
      refine ⟨rest ++ ("\n\n".toList ++ "\n\n".toList.intercalate (entry' :: entries)), ?_⟩
      simp [List.intercalate, List.intersperse]

/-- The first field of an output survives its being cut. -/
theorem safeDetail_of_package {value : String} {rest : List Char}
    (h : value.toList = "Package: ".toList ++ rest) :
    ∃ rest', '\n' ∉ rest' ∧ safeDetail value = String.ofList ("Package:".toList ++ rest') := by
  have hcut : ∃ rest', (safeDetail value).toList = "Package:".toList ++ rest' := by
    rw [safeDetail, String.toList_ofList, h]
    exact ⟨_, rfl⟩
  obtain ⟨rest', hrest'⟩ := hcut
  have hline := not_mem_safeDetail value
  rw [hrest', List.mem_append, not_or] at hline
  refine ⟨rest', hline.2, ?_⟩
  rw [← hrest', String.ofList_toList]

/-- What the server reads in the cut output: nothing or no record. -/
theorem parseOutput_safeDetail (listing : String) :
    parseOutput (safeDetail (normalizeAptList listing)) = .ok [] ∨
      ∃ error, parseOutput (safeDetail (normalizeAptList listing)) = .error error := by
  rcases normalizeAptList_cases listing with hempty | ⟨rest, hrest⟩
  · left
    rw [hempty]
    decide
  · right
    obtain ⟨rest', hline, hcut⟩ := safeDetail_of_package hrest
    rw [hcut]
    exact parseOutput_of_one_line hline

/-- A scan that succeeds has no updates, and one of an empty listing succeeds. -/
theorem finishScan_scanResponse {scan : Scan} (hrunning : scan.status = .running) (round : Round)
    (listing stderr : String) (newId : ScanId) (now : Timestamp) :
    ∃ scan', finishScan scan (scanResponse round listing stderr) newId now = .ok scan' ∧
      (scan'.status = .succeeded → scan'.updates = []) ∧
      (normalizeAptList listing = "" → scan'.status = .succeeded) := by
  have hsuccess : (scanResponse round listing stderr).success = true := rfl
  have hcode : (scanResponse round listing stderr).exitCode = 0 := rfl
  have hfails : scan.transitionTo .failed now
      = some { scan with status := .failed, completedAt := some now } := by
    simp [Scan.transitionTo, hrunning, ScanStatus.canTransitionTo]
  simp only [finishScan, hsuccess, if_true, buildScan, hcode, scanResponse_stdout, ne_eq,
    not_true_eq_false, if_false, bind, Except.bind, pure, Except.pure]
  rcases parseOutput_safeDetail listing with hnothing | ⟨error, herror⟩
  · rw [hnothing]
    exact ⟨_, rfl, fun _ => rfl, fun _ => rfl⟩
  · rw [herror]
    dsimp only
    rw [hfails]
    refine ⟨_, rfl, (fun h => by cases h), fun hempty => ?_⟩
    have hnothing : parseOutput (safeDetail "") = .ok [] := by decide
    rw [hempty, hnothing] at herror
    cases herror

/-- The answer to a request for a pending scan of a container with an agent. -/
theorem runScan_pending {scans : List Scan} {agents : List ContainerId} {id : ScanId}
    {scan : Scan} (hscan : scans.find? (fun scan => scan.id = id) = some scan)
    (hpending : scan.status = .pending) (hagent : scan.containerId ∈ agents)
    (response : AgentCommandResponse) (newId : ScanId) (now : Timestamp) :
    (runScan scans agents id (some response) newId now).2
      = finishScan { scan with status := .running } response newId now := by
  have hrunning : scan.transitionTo .running now = some { scan with status := .running } := by
    simp [Scan.transitionTo, hpending, ScanStatus.canTransitionTo]
  simp only [runScan, hscan, hrunning, hagent, not_true_eq_false, if_false]
  split
  · rename_i herror
    exact herror.symm
  · rename_i hok
    exact hok.symm

theorem normalizeAptList_heading (heading : Bool) :
    normalizeAptList (aptListing heading []) = "" := by
  cases heading <;> decide

/-- **A scan has exactly the listed updates if and only if nothing is listed.** -/
theorem scanLists_iff {scans : List Scan} {agents : List ContainerId} {id : ScanId} {scan : Scan}
    (hscan : scans.find? (fun scan => scan.id = id) = some scan)
    (hpending : scan.status = .pending) (hagent : scan.containerId ∈ agents)
    (heading : Bool) (lines : List AptLine) (stderr : String) (round : Round) (newId : ScanId)
    (now : Timestamp) :
    (∃ scan', (runScan scans agents id
        (some (scanResponse round (aptListing heading lines) stderr)) newId now).2 = .ok scan' ∧
      ScanLists lines scan') ↔ lines = [] := by
  rw [runScan_pending hscan hpending hagent]
  obtain ⟨scan', hfinish, hupdates, hsucceeds⟩ :=
    @finishScan_scanResponse { scan with status := .running } rfl round (aptListing heading lines)
      stderr newId now
  rw [hfinish]
  constructor
  · rintro ⟨_, heq, hstatus, hlists⟩
    obtain rfl := Except.ok.inj heq
    rw [hupdates hstatus] at hlists
    exact List.map_eq_nil_iff.mp hlists.symm
  · rintro rfl
    have hstatus := hsucceeds (normalizeAptList_heading heading)
    exact ⟨scan', rfl, hstatus, hupdates hstatus⟩

/-- A pending scan of container 101. -/
def pendingScan : Scan := .new ⟨101⟩ ⟨⟨1⟩⟩ 0

/-- `openssl/stable-security 3.1 amd64 [upgradable from: 3.0]`. -/
def opensslLine : AptLine where
  name := ⟨"openssl", by decide, by decide⟩
  suite := "stable-security"
  candidate := ⟨"3.1", by decide⟩
  arch := "amd64"
  installed := ⟨"3.0", by decide⟩
  nameChars := by decide
  suiteWord := by decide
  candidateWord := by decide
  archWord := by decide
  installedWord := by decide
  installedClosed := by decide

/-- The scan of a listing without packages, and the one of a listing of one. -/
theorem scanLists_nothing_and_openssl :
    (∃ scan', (runScan [pendingScan] [⟨101⟩] ⟨⟨1⟩⟩
        (some (scanResponse default (aptListing true []) "")) ⟨⟨2⟩⟩ 5).2 = .ok scan' ∧
      ScanLists [] scan') ∧
    ¬ ∃ scan', (runScan [pendingScan] [⟨101⟩] ⟨⟨1⟩⟩
        (some (scanResponse default (aptListing true [opensslLine]) "")) ⟨⟨2⟩⟩ 5).2 = .ok scan' ∧
      ScanLists [opensslLine] scan' := by
  have hiff := fun lines => @scanLists_iff [pendingScan] [⟨101⟩] ⟨⟨1⟩⟩ pendingScan (by decide) rfl
    (by decide) true lines "" default ⟨⟨2⟩⟩ 5
  exact ⟨(hiff []).mpr rfl, mt (hiff [opensslLine]).mp (List.cons_ne_nil _ _)⟩

theorem one_package_not_listed :
    ¬ ∃ scan', (runScan [pendingScan] [⟨101⟩] ⟨⟨1⟩⟩
        (some (scanResponse default (aptListing true [opensslLine]) "")) ⟨⟨2⟩⟩ 5).2 = .ok scan' ∧
      ScanLists [opensslLine] scan' := by
  rw [@runScan_pending [pendingScan] [⟨101⟩] ⟨⟨1⟩⟩ pendingScan (by decide) rfl (by decide)]
  obtain ⟨scan', hfinish, hupdates, -⟩ :=
    @finishScan_scanResponse { pendingScan with status := .running } rfl default
      (aptListing true [opensslLine]) "" ⟨⟨2⟩⟩ 5
  rw [hfinish]
  rintro ⟨_, heq, hstatus, hlists⟩
  obtain rfl := Except.ok.inj heq
  rw [hupdates hstatus] at hlists
  cases hlists

end Lxcup.Server
