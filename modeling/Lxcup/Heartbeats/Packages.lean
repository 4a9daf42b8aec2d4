import Lxcup.Agent.Heartbeat
import Lxcup.Core.Scan
import Lxcup.Server.Api

/-!
# Accepting the package inventory of a heartbeat

A Windows agent lists the packages of its host and sends the list with its heartbeats.  The server
checks every package again, on its own terms, and discards those that fail.  The two checks have
their own grammars of ids, limits of size, rules for candidates and sets of names that were seen,
and nothing of what the one lets through is discarded by the other.

## Main definitions

* `InstalledPackage`, `PackageInventorySnapshot` — what the server keeps of a package and a host.
* `sanitizeAgentPackage`, `sanitizeAgentPackageInventory` — the checks of the server.
* `InstalledPackage.reported` — the package as an agent reports it.

## Main results

* `sanitize_installedPackage` — a package that the agent has listed is kept as it is.
* `sanitize_installedPackages` — the loops of the two sides agree.
* `windows_inventory_accepted` — an inventory of a Windows agent crosses over as it is.
-/

namespace Lxcup.Heartbeats

open Lxcup.Lib Lxcup.Core Lxcup.Agent Lxcup.Server

/-! ### The checks of the server -/

/-- A package installed on a target. -/
structure InstalledPackage where
  name : PackageName
  version : PackageVersion
  candidateVersion : Option PackageVersion
  architecture : Option String
  source : Option String
  deriving DecidableEq

/-- The packages of a target at a time. -/
structure PackageInventorySnapshot where
  targetId : TargetId
  collectedAt : Timestamp
  packages : List InstalledPackage
  deriving DecidableEq

/-- `safe_identifier`: every source has its own ids. -/
def safeIdentifier (package : AgentInstalledPackage) : Bool :=
  match package.source with
  | some "winget" => safeWingetId package.name
  | some "msstore" => safeMsstoreId package.name
  | some "arp" => safeReadOnlyWindowsPackageId package.name "arp"
  | some "msix" => safeReadOnlyWindowsPackageId package.name "msix"
  | _ => false

/-- The candidate that is kept; the inner option is `None` where a version is refused. -/
def keptCandidate (package : AgentInstalledPackage) : Option (Option PackageVersion) :=
  if package.source = some "winget" ∨ package.source = some "msstore" then
    match package.candidateVersion with
    | none => some none
    | some value => (PackageVersion.new value).map some
  else some none

/-- `sanitize_agent_package`: the names that were seen afterwards, and the package. -/
def sanitizeAgentPackage (names : List (List Char)) (package : AgentInstalledPackage) :
    List (List Char) × Option InstalledPackage :=
  let key := toAsciiLowercase package.name.toList
  if !safeIdentifier package || package.name.utf8ByteSize > 128
      || !boundedText 128 package.installedVersion
      || !package.candidateVersion.all (boundedText 128) || names.contains key then
    (names, none)
  else
    (key :: names, do
      let name ← PackageName.new package.name
      let version ← PackageVersion.new package.installedVersion
      let candidateVersion ← keptCandidate package
      return ⟨name, version, candidateVersion, package.architecture, package.source⟩)

/-- The loop over the packages. -/
def sanitizeAgentPackages : List (List Char) → List AgentInstalledPackage → List InstalledPackage
  | _, [] => []
  | names, package :: packages =>
    let (names, kept) := sanitizeAgentPackage names package
    kept.toList ++ sanitizeAgentPackages names packages

/-- `sanitize_agent_package_inventory`, at the time `now`. -/
def sanitizeAgentPackageInventory (now : Timestamp) (heartbeat : AgentHeartbeat)
    (targetKind : TargetKind) : Except ApiError (Option PackageInventorySnapshot) :=
  match heartbeat.packageInventory with
  | none => .ok none
  | some inventory =>
    if targetKind ≠ .windowsServer ∨ heartbeat.info.platform ≠ .windows then
      .error (.badRequest "agent_inventory_platform_mismatch"
        "package inventory does not match the registered Windows target")
    else if inventory.packages.length > 50000 ∨ inventory.collectedAt > now + 5 * second
        ∨ inventory.collectedAt < now - 3600 * second then
      .error (.badRequest "agent_inventory_invalid"
        "Windows package inventory is invalid or too old")
    else
      let packages := sanitizeAgentPackages [] inventory.packages
      if packages = [] ∧ inventory.packages ≠ [] then .ok none
      else .ok (some ⟨⟨heartbeat.targetId⟩, inventory.collectedAt, packages⟩)

/-- The package as an agent reports it. -/
def InstalledPackage.reported (package : InstalledPackage) : AgentInstalledPackage where
  name := package.name.value
  installedVersion := package.version.value
  candidateVersion := package.candidateVersion.map (·.value)
  architecture := package.architecture
  source := package.source

/-! ### Ids -/

theorem isWhitespace_of_isAsciiAlphanumeric {c : Char} (h : isAsciiAlphanumeric c = true) :
    isWhitespace c = false := by
  simp only [isAsciiAlphanumeric, isAsciiDigit, Bool.or_eq_true, Bool.and_eq_true,
    decide_eq_true_eq] at h
  simp [isWhitespace]
  omega

/-- Letters, digits and marks are no white space. -/
theorem isWhitespace_of_all {marks cs : List Char} (hmarks : marks.all (!isWhitespace ·) = true)
    (h : cs.all (fun c => isAsciiAlphanumeric c || c ∈ marks) = true) :
    ∀ c ∈ cs, isWhitespace c = false := by
  intro c hc
  have hsafe := List.all_eq_true.mp h c hc
  rw [Bool.or_eq_true, decide_eq_true_eq] at hsafe
  rcases hsafe with halnum | hmark
  · exact isWhitespace_of_isAsciiAlphanumeric halnum
  · simpa using List.all_eq_true.mp hmarks c hmark

/-- White space has no case. -/
theorem toLower_of_isWhitespace {c : Char} (h : isWhitespace c = true) : c.toLower = c := by
  unfold Char.toLower
  rw [dif_neg]
  rintro ⟨hlow, hhigh⟩
  have hrange : 65 ≤ c.toNat ∧ c.toNat ≤ 90 := ⟨UInt32.le_iff_toNat_le.mp hlow,
    UInt32.le_iff_toNat_le.mp hhigh⟩
  simp [isWhitespace] at h
  omega

/-- A text that differs from another one without white space in case only has none. -/
theorem isWhitespace_of_toAsciiLowercase {cs ds : List Char}
    (hds : ∀ d ∈ toAsciiLowercase ds, isWhitespace d = false)
    (h : toAsciiLowercase cs = toAsciiLowercase ds) : ∀ c ∈ cs, isWhitespace c = false := by
  intro c hc
  have hlower : c.toLower ∈ toAsciiLowercase ds := h ▸ List.mem_map_of_mem hc
  by_contra hblank
  rw [Bool.not_eq_false] at hblank
  rw [toLower_of_isWhitespace hblank] at hlower
  rw [hds c hlower] at hblank
  cases hblank

/-- An id that the server can keep as a name. -/
def IsName (id : String) : Prop :=
  id.toList ≠ [] ∧ id.utf8ByteSize ≤ 128 ∧ ∀ c ∈ id.toList, isWhitespace c = false

theorem isName_of_safeWingetId {id : String} (h : safeWingetId id = true) : IsName id := by
  have hsafe := safePackage_of_safeWingetId h
  simp only [safePackage, Bool.and_eq_true, decide_eq_true_eq] at hsafe
  exact ⟨hsafe.1.1.1, hsafe.1.1.2, isWhitespace_of_all (by decide) hsafe.1.2⟩

theorem isName_of_safeMsstoreId {id : String} (h : safeMsstoreId id = true) : IsName id := by
  simp only [safeMsstoreId, Bool.and_eq_true, decide_eq_true_eq] at h
  obtain ⟨⟨hsize, hhead⟩, hall⟩ := h
  refine ⟨fun hnil => ?_, hsize, isWhitespace_of_all (by decide) hall⟩
  rw [hnil] at hhead
  cases hhead

/-- Ids of packages from elsewhere: the prefix may be written in any case. -/
theorem isName_of_safeReadOnly {id source : String}
    (h : safeReadOnlyWindowsPackageId id source = true) : IsName id := by
  unfold safeReadOnlyWindowsPackageId at h
  generalize hpre : (if source = "arp" then "ARP\\".toList
    else if source = "msix" then "MSIX\\".toList else []) = pre at h
  have hblank : ∀ d ∈ toAsciiLowercase pre, isWhitespace d = false := by
    rw [← any_isWhitespace_eq_false, ← hpre]
    split
    · decide
    · split <;> decide
  simp only [Bool.and_eq_true, decide_eq_true_eq] at h
  obtain ⟨⟨⟨⟨-, hsize⟩, hprefix⟩, hrest⟩, hlength⟩ := h
  refine ⟨fun hnil => ?_, hsize, fun c hc => ?_⟩
  · rw [hnil] at hlength
    cases hlength
  · rw [← List.take_append_drop pre.length id.toList, List.mem_append] at hc
    rcases hc with hc | hc
    · exact isWhitespace_of_toAsciiLowercase hblank hprefix c hc
    · exact isWhitespace_of_all (by decide) hrest c hc

theorem IsName.new {id : String} (h : IsName id) : ∃ name, PackageName.new id = some name ∧
    name.value = id := by
  obtain ⟨hne, -, hchars⟩ := h
  obtain ⟨c, cs, hcs⟩ := List.exists_cons_of_ne_nil hne
  have htrim : trim id.toList ≠ [] :=
    trim_ne_nil (hcs ▸ List.mem_cons_self) (hchars c (hcs ▸ List.mem_cons_self))
  have hany : id.toList.any isWhitespace = false := any_isWhitespace_eq_false.mpr hchars
  exact ⟨⟨id, htrim, hany⟩, dif_pos ⟨htrim, hany⟩, rfl⟩

theorem new_of_boundedText {limit : Nat} {value : String} (h : boundedText limit value = true) :
    ∃ version, PackageVersion.new value = some version ∧ version.value = value := by
  rw [boundedText, Bool.and_eq_true, decide_eq_true_eq] at h
  exact ⟨⟨value, h.1⟩, dif_pos h.1, rfl⟩

/-! ### The two sides -/

/-- **The source that the agent finds is one whose ids the server accepts**, and a candidate comes
from a package source. -/
theorem windowsPackageSource_spec {package : WinGetPackage} {id source : String}
    {candidate : Option String} (h : windowsPackageSource package id = some (source, candidate)) :
    IsName id ∧ (∀ version architecture,
      safeIdentifier ⟨id, version, candidate, architecture, some source⟩ = true) ∧
      (source = "winget" ∨ source = "msstore" ∨ candidate = none) := by
  unfold windowsPackageSource at h
  dsimp only at h
  split at h
  · rename_i hwinget
    obtain ⟨rfl, rfl⟩ := Prod.mk.inj (Option.some.inj h)
    exact ⟨isName_of_safeWingetId hwinget.2, fun _ _ => hwinget.2, .inl rfl⟩
  · split at h
    · rename_i hmsstore
      obtain ⟨rfl, rfl⟩ := Prod.mk.inj (Option.some.inj h)
      exact ⟨isName_of_safeMsstoreId hmsstore.2, fun _ _ => hmsstore.2, .inr (.inl rfl)⟩
    · split at h
      · rename_i harp
        obtain ⟨rfl, rfl⟩ := Prod.mk.inj (Option.some.inj h)
        exact ⟨isName_of_safeReadOnly harp, fun _ _ => harp, .inr (.inr rfl)⟩
      · split at h
        · rename_i hmsix
          obtain ⟨rfl, rfl⟩ := Prod.mk.inj (Option.some.inj h)
          exact ⟨isName_of_safeReadOnly hmsix, fun _ _ => hmsix, .inr (.inr rfl)⟩
        · cases h

/-- A candidate that the agent has listed is kept. -/
theorem keptCandidate_spec {package : AgentInstalledPackage}
    (hbounded : package.candidateVersion.all (boundedText 128) = true)
    (hsource : package.source = some "winget" ∨ package.source = some "msstore" ∨
      package.candidateVersion = none) :
    ∃ candidate, keptCandidate package = some candidate ∧
      candidate.map (·.value) = package.candidateVersion := by
  unfold keptCandidate
  cases hcandidate : package.candidateVersion with
  | none => exact ⟨none, by split <;> rfl, rfl⟩
  | some value =>
    rw [hcandidate] at hbounded
    obtain ⟨version, hnew, hvalue⟩ := new_of_boundedText hbounded
    have hpackages : package.source = some "winget" ∨ package.source = some "msstore" := by
      rw [hcandidate] at hsource
      rcases hsource with hwinget | hmsstore | hnone
      · exact .inl hwinget
      · exact .inr hmsstore
      · cases hnone
    refine ⟨some version, ?_, by rw [Option.map_some, hvalue]⟩
    rw [if_pos hpackages]
    dsimp only
    rw [hnew, Option.map_some]

/-- **A package that the agent has listed is kept by the server as it is.** -/
theorem sanitize_installedPackage {seenIds : List (List Char)} {entry : WinGetPackage}
    {package : AgentInstalledPackage} (h : installedPackage seenIds entry = some package) :
    ∃ kept, sanitizeAgentPackage seenIds package
        = (toAsciiLowercase package.name.toList :: seenIds, some kept) ∧
      kept.reported = package := by
  unfold installedPackage at h
  split at h
  · rename_i id name version _ _ _
    split at h
    · cases h
    · rename_i source candidate hsource
      split at h
      · rename_i hchecks
        obtain rfl := Option.some.inj h
        obtain ⟨hname, hidentifier, hcandidate⟩ := windowsPackageSource_spec hsource
        simp only [Bool.and_eq_true, Bool.not_eq_true'] at hchecks
        obtain ⟨⟨⟨-, hversion⟩, hbounded⟩, hseen⟩ := hchecks
        obtain ⟨keptName, hnewName, hkeptName⟩ := hname.new
        obtain ⟨keptVersion, hnewVersion, hkeptVersion⟩ := new_of_boundedText hversion
        obtain ⟨kept, hkept, hkeptCandidate⟩ := @keptCandidate_spec
          ⟨id, version, candidate, none, some source⟩ hbounded (by simpa using hcandidate)
        have hsize : decide (id.utf8ByteSize > 128) = false :=
          decide_eq_false (Nat.not_lt.mpr hname.2.1)
        refine ⟨⟨keptName, keptVersion, kept, none, some source⟩, ?_, ?_⟩
        · unfold sanitizeAgentPackage
          simp only [hidentifier, hsize, hversion, hbounded, hseen, Bool.not_true, Bool.or_false,
            Bool.false_eq_true, if_false, hnewName, hnewVersion, hkept, Option.bind_eq_bind,
            Option.bind_some, pure]
        · simp only [InstalledPackage.reported, hkeptName, hkeptVersion, hkeptCandidate]
      · cases h
  · cases h

/-- **The loops of the two sides agree**, from the names seen so far. -/
theorem sanitize_installedPackages (seenIds : List (List Char))
    (entries : List (Option WinGetPackage)) :
    (sanitizeAgentPackages seenIds (installedPackages seenIds entries)).map
      InstalledPackage.reported = installedPackages seenIds entries := by
  induction entries generalizing seenIds with
  | nil => rfl
  | cons entry entries ih =>
    rw [installedPackages]
    cases hentry : entry.bind (installedPackage seenIds) with
    | none => exact ih seenIds
    | some package =>
      obtain ⟨listed, -, hlisted⟩ := Option.bind_eq_some_iff.mp hentry
      obtain ⟨kept, hkept, hreported⟩ := sanitize_installedPackage hlisted
      dsimp only
      rw [sanitizeAgentPackages, hkept]
      simp only [Option.toList_some, List.singleton_append, List.map_cons, hreported, ih]

theorem length_installedPackages_le (seenIds : List (List Char))
    (entries : List (Option WinGetPackage)) :
    (installedPackages seenIds entries).length ≤ entries.length := by
  induction entries generalizing seenIds with
  | nil => exact Nat.le_refl 0
  | cons entry entries ih =>
    rw [installedPackages]
    split
    · exact (ih seenIds).trans (Nat.le_succ _)
    · exact Nat.succ_le_succ (ih _)

/-- What an agent lists comes from entries that are not too many. -/
theorem parseWindowsPackagesJson_ok {read : JsonReader} {output : String}
    {packages : List AgentInstalledPackage}
    (h : parseWindowsPackagesJson read output = .ok packages) :
    ∃ entries, packages = installedPackages [] entries ∧ packages.length ≤ 50000 := by
  unfold parseWindowsPackagesJson at h
  split at h
  · cases h
  · rename_i entries _
    split at h
    · cases h
    · rename_i hcount
      dsimp only at h
      split at h
      · cases h
      · obtain rfl := Except.ok.inj h
        have hlength := length_installedPackages_le [] entries
        exact ⟨entries, rfl, hlength.trans (Nat.not_lt.mp hcount)⟩

/-- **An inventory of a Windows agent crosses over as it is**: nothing is discarded, and names,
versions, candidates and sources are those of the agent. -/
theorem windows_inventory_accepted {read : JsonReader} {output : String}
    {packages : List AgentInstalledPackage}
    (hparse : parseWindowsPackagesJson read output = .ok packages) {heartbeat : AgentHeartbeat}
    {collectedAt now : Timestamp}
    (hinventory : heartbeat.packageInventory = some ⟨collectedAt, packages⟩)
    (hplatform : heartbeat.info.platform = .windows)
    (hearliest : now - 3600 * second ≤ collectedAt) (hlatest : collectedAt ≤ now + 5 * second) :
    ∃ snapshot, sanitizeAgentPackageInventory now heartbeat .windowsServer = .ok (some snapshot) ∧
      snapshot.targetId = ⟨heartbeat.targetId⟩ ∧ snapshot.collectedAt = collectedAt ∧
      snapshot.packages.map InstalledPackage.reported = packages := by
  obtain ⟨entries, rfl, hlength⟩ := parseWindowsPackagesJson_ok hparse
  have hkept := sanitize_installedPackages [] entries
  have hnotMany : ¬ (installedPackages [] entries).length > 50000 := not_lt.mpr hlength
  have hnotLate : ¬ collectedAt > now + 5 * second := not_lt.mpr hlatest
  have hnotEarly : ¬ collectedAt < now - 3600 * second := not_lt.mpr hearliest
  have hsome : ¬ (sanitizeAgentPackages [] (installedPackages [] entries) = [] ∧
      installedPackages [] entries ≠ []) := by
    rintro ⟨hnil, hne⟩
    rw [hnil] at hkept
    exact hne hkept.symm
  refine ⟨⟨⟨heartbeat.targetId⟩, collectedAt, _⟩, ?_, rfl, rfl, hkept⟩
  unfold sanitizeAgentPackageInventory
  rw [hinventory]
  simp only [hplatform, ne_eq, not_true_eq_false, or_self, if_false, hnotMany, hnotLate,
    hnotEarly, if_neg hsome]

/-- A listing of two packages, one with an update, and what a reader makes of it. -/
def listing : String :=
  "[\x7b\"id\":\"7zip.7zip\",\"name\":\"7-Zip\",\"version\":\"24.08\","
    ++ "\"candidate_version\":\"24.09\",\"source\":\"winget\"\x7d,"
    ++ "\x7b\"id\":\"Git.Git\",\"name\":\"Git\",\"version\":\"2.46.0\","
    ++ "\"source\":\"winget\"\x7d]"

def listingReader : JsonReader := fun text =>
  if text = listing then
    some [some ⟨some "7zip.7zip", some "7-Zip", some "24.08", some "24.09", some "winget"⟩,
      some ⟨some "Git.Git", some "Git", some "2.46.0", none, some "winget"⟩]
  else none

def listedPackages : List AgentInstalledPackage :=
  [⟨"7zip.7zip", "24.08", some "24.09", none, some "winget"⟩,
    ⟨"Git.Git", "2.46.0", none, none, some "winget"⟩]

def listingHeartbeat : AgentHeartbeat where
  targetId := ⟨1⟩
  info := ⟨"agent", .windows, "host", "0.6.0", "1"⟩
  sentAt := 5
  telemetry := default
  packageInventory := some ⟨3, listedPackages⟩

theorem listing_accepted :
    ∃ snapshot, sanitizeAgentPackageInventory 5 listingHeartbeat .windowsServer
        = .ok (some snapshot) ∧
      snapshot.targetId = ⟨⟨1⟩⟩ ∧ snapshot.collectedAt = 3 ∧
      snapshot.packages.map InstalledPackage.reported = listedPackages :=
  @windows_inventory_accepted listingReader listing _ (by decide +kernel) _ _ _ rfl rfl
    (by decide) (by decide)

end Lxcup.Heartbeats
