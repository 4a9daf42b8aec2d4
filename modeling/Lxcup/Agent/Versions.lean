import Lxcup.Agent.Command
import Lxcup.Apt.Texts

/-!
# The checks of an agent's version

An update of a Windows agent names the version to go to, and the version is checked four times: when
the job is submitted, when the agent claims it, by the agent before it starts, and by the updater.
Three of the checks take a release of three numbers and a prerelease part behind a hyphen.  The one
at the claim splits the whole text at its dots and knows no prerelease part.

## Main definitions

* `validWindowsAgentVersion`, `validVersion` — the check of a submission and of the updater, beside
  `validAgentVersion` and `safeAgentVersion`.
* `Prerelease` — the versions with a prerelease part.

## Main results

* `validWindowsAgentVersion_eq`, `validVersion_eq` — three of the checks are the same.
* `safeAgentVersion_iff` — what they accept beside the check at the claim.
* `version_checks_agree_iff` — the texts for which all four give the same answer.
-/

namespace Lxcup.Agent

open Lxcup.Lib Lxcup.Apt

/-! ### The checks -/

/-- The release and the prerelease part of a version, which may be empty. -/
def versionParts (version : String) : List Char × List Char :=
  (splitOnce '-' version.toList).getD (version.toList, [])

/-- A character of a prerelease part. -/
def isPrereleaseChar (c : Char) : Bool := isAsciiAlphanumeric c || c = '.' || c = '-'

/-- Three numbers with dots between them. -/
def isRelease (release : List Char) : Bool :=
  (splitOn '.' release).length = 3 && (splitOn '.' release).all isNumeric

/-- `valid_windows_agent_version`, the check of a submission. -/
def validWindowsAgentVersion (version : String) : Bool :=
  let (release, prerelease) := versionParts version
  version.utf8ByteSize ≤ 50 && isRelease release
    && (prerelease = [] || prerelease.all isPrereleaseChar)

/-- `valid_version`, the check of the updater. -/
def validVersion (value : String) : Bool :=
  let (release, prerelease) := versionParts value
  value.utf8ByteSize ≤ 50 && isRelease release
    && (prerelease = [] || prerelease.all isPrereleaseChar)

/-- A version with a prerelease part, which may be empty. -/
structure Prerelease (version : String) (release prerelease : List Char) : Prop where
  parts : version.toList = release ++ '-' :: prerelease
  release : isRelease release = true
  prerelease : ∀ c ∈ prerelease, isPrereleaseChar c = true
  short : version.utf8ByteSize ≤ 50

variable {version : String}

theorem isNumeric_dash {part : List Char} (h : isNumeric part = true) : '-' ∉ part := by
  intro hmem
  rw [isNumeric, Bool.and_eq_true, List.all_eq_true] at h
  exact absurd (h.2 '-' hmem) (by decide)

/-- There is no hyphen in a release. -/
theorem isRelease_dash {release : List Char} (h : isRelease release = true) : '-' ∉ release := by
  rw [isRelease, Bool.and_eq_true, List.all_eq_true] at h
  have hoccurs := @infix_intercalate_singleton Char '.' ['-'] (by decide) (by decide)
    (splitOn '.' release)
  rw [intercalate_splitOn, List.singleton_infix_iff] at hoccurs
  rw [hoccurs]
  rintro ⟨part, hpart, hmem⟩
  exact isNumeric_dash (h.2 part hpart) ((List.singleton_infix_iff _ _).mp hmem)

/-! ### Three checks are the same -/

theorem validWindowsAgentVersion_eq (version : String) :
    validWindowsAgentVersion version = safeAgentVersion version := by
  have hnil : ∀ cs : List Char, (decide (cs = []) || cs.all isPrereleaseChar) =
      cs.all isPrereleaseChar := by
    intro cs
    cases cs <;> simp
  simp only [validWindowsAgentVersion, hnil]
  simp only [versionParts, safeAgentVersion, isRelease, Bool.and_assoc]
  rfl

theorem validVersion_eq (version : String) : validVersion version = safeAgentVersion version :=
  validWindowsAgentVersion_eq version

/-! ### The check at the claim -/

theorem versionParts_of_notMem (h : '-' ∉ version.toList) :
    versionParts version = (version.toList, []) := by
  rw [versionParts, splitOnce_of_notMem h, Option.getD_none]

theorem versionParts_of_append {release prerelease : List Char}
    (h : version.toList = release ++ '-' :: prerelease) (hdash : '-' ∉ release) :
    versionParts version = (release, prerelease) := by
  rw [versionParts, h, splitOnce_append hdash, Option.getD_some]

theorem safeAgentVersion_eq_true : safeAgentVersion version = true ↔
    isRelease (versionParts version).1 = true ∧ version.utf8ByteSize ≤ 50 ∧
      ∀ c ∈ (versionParts version).2, isPrereleaseChar c = true := by
  rw [← validVersion_eq, validVersion]
  simp only [Bool.and_eq_true, Bool.or_eq_true, decide_eq_true_eq, List.all_eq_true]
  constructor
  · rintro ⟨⟨hshort, hrelease⟩, hnil | hall⟩
    · exact ⟨hrelease, hshort, by simp [hnil]⟩
    · exact ⟨hrelease, hshort, hall⟩
  · rintro ⟨hrelease, hshort, hall⟩
    exact ⟨⟨hshort, hrelease⟩, .inr hall⟩

theorem validAgentVersion_eq_true : validAgentVersion version = true ↔
    isRelease version.toList = true ∧ version.utf8ByteSize ≤ 50 := by
  rw [validAgentVersion, ← isRelease, Bool.and_eq_true, decide_eq_true_eq]

/-- A version with a prerelease part is refused at the claim. -/
theorem Prerelease.validAgentVersion {release prerelease : List Char}
    (h : Prerelease version release prerelease) : ¬ validAgentVersion version = true := by
  rw [validAgentVersion_eq_true]
  rintro ⟨hrelease, -⟩
  refine isRelease_dash hrelease ?_
  rw [h.parts]
  exact List.mem_append_right _ List.mem_cons_self

/-- The other checks accept what is accepted at the claim, and a prerelease part. -/
theorem safeAgentVersion_iff : safeAgentVersion version = true ↔
    validAgentVersion version = true ∨ ∃ release prerelease,
      Prerelease version release prerelease := by
  rw [safeAgentVersion_eq_true, validAgentVersion_eq_true]
  constructor
  · rintro ⟨hrelease, hshort, hall⟩
    by_cases hdash : '-' ∈ version.toList
    · -- the release ends at the first hyphen
      obtain ⟨release, prerelease, hparts, hfirst⟩ := List.eq_append_cons_of_mem hdash
      rw [versionParts_of_append hparts hfirst] at hrelease hall
      exact .inr ⟨release, prerelease, hparts, hrelease, hall, hshort⟩
    · rw [versionParts_of_notMem hdash] at hrelease
      exact .inl ⟨hrelease, hshort⟩
  · rintro (⟨hrelease, hshort⟩ | ⟨release, prerelease, h⟩)
    · rw [versionParts_of_notMem (isRelease_dash hrelease)]
      exact ⟨hrelease, hshort, by simp⟩
    · rw [versionParts_of_append h.parts (isRelease_dash h.release)]
      exact ⟨h.release, h.short, h.prerelease⟩

/-- The four checks give the same answer for exactly the texts that are not a version with a
prerelease part. -/
theorem version_checks_agree_iff (version : String) :
    (validWindowsAgentVersion version = validAgentVersion version ∧
      safeAgentVersion version = validAgentVersion version ∧
      validVersion version = validAgentVersion version) ↔
        ¬ ∃ release prerelease, Prerelease version release prerelease := by
  rw [validWindowsAgentVersion_eq, validVersion_eq, and_self, and_self]
  constructor
  · rintro hsame ⟨release, prerelease, h⟩
    have hsafe : safeAgentVersion version = true :=
      safeAgentVersion_iff.mpr (.inr ⟨release, prerelease, h⟩)
    exact h.validAgentVersion (hsame ▸ hsafe)
  · intro hnone
    rw [Bool.eq_iff_iff, safeAgentVersion_iff, or_iff_left hnone]

/-- The check at a claim refuses a release candidate, and the other three accept it. -/
theorem version_checks_candidate :
    validWindowsAgentVersion "1.2.3-rc1" = true ∧ safeAgentVersion "1.2.3-rc1" = true ∧
      validVersion "1.2.3-rc1" = true ∧ validAgentVersion "1.2.3-rc1" = false := by
  decide

end Lxcup.Agent
