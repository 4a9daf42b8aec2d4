import Lxcup.Core.Plan
import Lxcup.Lib.Codes
import Lxcup.Lib.Lists
import Lxcup.Lib.Utf8
import Mathlib.Data.List.Perm.Basic

/-!
# The hash of a plan

The hash that a plan is confirmed and checked again with is taken of its content in canonical
order.  The order of the changes is by all of their fields, so that two lists with the same
changes are sorted into the same list, and the canonical form has every field, so that different
changes stay different.

The JSON writer and SHA-256 are not part of the program.  They are arguments, and assumed to be
injective.

## Main definitions

* `planDigest` — the digits of the hash of the JSON of a canonical plan.
* `CanonicalPackageChange.keyOrder` — the order of the changes.
* `CanonicalPlan.json` — the JSON of a canonical plan, as a compact JSON writer has it.

## Main results

* `canonicalRepresentation_eq_iff` — plans have one canonical form if and only if they have the
  same container, requested packages and changes.
* `calculateHash_eq_iff` — and so for their hashes.
-/

namespace Lxcup.Core

open Lxcup.Lib

/-! ### The order of the changes -/

namespace CanonicalPackageChange

/-- The comparison of the sort keys. -/
def keyOrder : CanonicalPackageChange → CanonicalPackageChange → Ordering :=
  compareLex (compareLex (compareLex (compareOn package) (compareOn fromVersion))
    (compareOn toVersion)) (compareOn (·.kind.rank))

theorem before_eq (left right : CanonicalPackageChange) :
    left.before right = (keyOrder left right).isLE := rfl

instance : Std.TransCmp keyOrder := by
  unfold keyOrder
  infer_instance

theorem rank_injective : Function.Injective PackageChangeKind.rank := by
  intro a b h
  cases a <;> cases b <;> first | rfl | cases h

/-- **A sort key has all fields of a change.** -/
theorem keyOrder_eq_iff {left right : CanonicalPackageChange} :
    keyOrder left right = .eq ↔ left = right := by
  obtain ⟨package, fromVersion, toVersion, kind⟩ := left
  obtain ⟨package', fromVersion', toVersion', kind'⟩ := right
  simp only [keyOrder, compareLex, compareOn, Ordering.then_eq_eq,
    Std.LawfulEqCmp.compare_eq_iff_eq, mk.injEq, rank_injective.eq_iff, and_assoc]

instance : Std.Total fun left right : CanonicalPackageChange => left.before right = true where
  total left right := by
    simp only [before_eq]
    cases hcompare : keyOrder left right with
    | lt => exact .inl rfl
    | eq => exact .inl rfl
    | gt =>
      rw [Std.OrientedCmp.gt_iff_lt] at hcompare
      rw [hcompare]
      exact .inr rfl

instance : IsTrans CanonicalPackageChange fun left right => left.before right = true where
  trans _ _ _ hab hbc := @Std.TransCmp.isLE_trans _ keyOrder _ _ _ _ hab hbc

instance : Std.Antisymm fun left right : CanonicalPackageChange => left.before right = true where
  antisymm _ _ hab hba :=
    keyOrder_eq_iff.mp (@Std.OrientedCmp.isLE_antisymm _ keyOrder _ _ _ hab hba)

end CanonicalPackageChange

/-! ### Canonical plans -/

theorem PackageName.value_injective : Function.Injective PackageName.value := by
  rintro ⟨value, _, _⟩ ⟨value', _, _⟩ h
  cases h
  rfl

theorem PackageVersion.value_injective : Function.Injective PackageVersion.value := by
  rintro ⟨value, _⟩ ⟨value', _⟩ h
  cases h
  rfl

/-- A change with plain texts. -/
def ResolvedPackageChange.canonical (change : ResolvedPackageChange) : CanonicalPackageChange :=
  ⟨change.package.value, change.fromVersion.map (·.value), change.toVersion.map (·.value),
    change.kind⟩

theorem ResolvedPackageChange.canonical_injective :
    Function.Injective ResolvedPackageChange.canonical := by
  rintro ⟨package, fromVersion, toVersion, kind⟩ ⟨package', fromVersion', toVersion', kind'⟩ h
  obtain ⟨hpackage, hfrom, hto, hkind⟩ := CanonicalPackageChange.mk.inj h
  rw [ResolvedPackageChange.mk.injEq]
  exact ⟨PackageName.value_injective hpackage,
    Option.map_injective PackageVersion.value_injective hfrom,
    Option.map_injective PackageVersion.value_injective hto, hkind⟩

namespace UpdatePlan

theorem requestedPackages_canonical_eq_iff {plan other : UpdatePlan} :
    plan.canonicalRepresentation.requestedPackages
        = other.canonicalRepresentation.requestedPackages
      ↔ plan.requestedPackages.Perm other.requestedPackages := by
  simp only [canonicalRepresentation]
  rw [insertionSort_eq_iff_perm, List.map_perm_map_iff PackageName.value_injective]

theorem resolvedChanges_canonical_eq_iff {plan other : UpdatePlan} :
    plan.canonicalRepresentation.resolvedChanges = other.canonicalRepresentation.resolvedChanges
      ↔ plan.resolvedChanges.Perm other.resolvedChanges := by
  have hchanges : ∀ plan : UpdatePlan, plan.canonicalRepresentation.resolvedChanges
      = (plan.resolvedChanges.map ResolvedPackageChange.canonical).insertionSort
        fun left right => left.before right = true := fun _ => rfl
  rw [hchanges, hchanges, insertionSort_eq_iff_perm,
    List.map_perm_map_iff ResolvedPackageChange.canonical_injective]

/-- **The canonical form of a plan is its content without the order.** -/
theorem canonicalRepresentation_eq_iff {plan other : UpdatePlan} :
    plan.canonicalRepresentation = other.canonicalRepresentation
      ↔ plan.containerId = other.containerId
        ∧ plan.requestedPackages.Perm other.requestedPackages
        ∧ plan.resolvedChanges.Perm other.resolvedChanges := by
  have hcontainer : plan.canonicalRepresentation.containerId
      = other.canonicalRepresentation.containerId ↔ plan.containerId = other.containerId :=
    ⟨fun h => congrArg ContainerId.mk h, fun h => congrArg ContainerId.value h⟩
  rw [← requestedPackages_canonical_eq_iff, ← resolvedChanges_canonical_eq_iff, ← hcontainer]
  generalize plan.canonicalRepresentation = canonical
  generalize other.canonicalRepresentation = canonical'
  cases canonical
  cases canonical'
  rw [CanonicalPlan.mk.injEq]

end UpdatePlan

/-! ### The hash -/

section

-- `serde_json::to_vec`, and the bytes of the SHA-256 digest
variable (toVec : CanonicalPlan → List UInt8) (sha256 : List UInt8 → List UInt8)

/-- The digest of the bytes of a canonical plan, in lower-case hexadecimal digits. -/
def planDigest (canonical : CanonicalPlan) : String :=
  String.ofList ((sha256 (toVec canonical)).flatMap hexByte)

variable {toVec sha256}

theorem planDigest_injective (htoVec : Function.Injective toVec)
    (hsha256 : Function.Injective sha256) : Function.Injective (planDigest toVec sha256) := by
  intro canonical other h
  exact htoVec (hsha256 (flatMap_hexByte_injective (String.ofList_injective h)))

/-- **Two plans have the same hash if and only if they have the same container, the same requested
packages and the same changes**, each as often, in whatever order. -/
theorem calculateHash_eq_iff (htoVec : Function.Injective toVec)
    (hsha256 : Function.Injective sha256) (plan other : UpdatePlan) :
    plan.calculateHash (planDigest toVec sha256) = other.calculateHash (planDigest toVec sha256)
      ↔ plan.containerId = other.containerId
        ∧ plan.requestedPackages.Perm other.requestedPackages
        ∧ plan.resolvedChanges.Perm other.resolvedChanges := by
  rw [← UpdatePlan.canonicalRepresentation_eq_iff]
  exact (planDigest_injective htoVec hsha256).eq_iff

end

/-! ### The JSON of a plan -/

/-- The name of a kind. -/
def PackageChangeKind.name : PackageChangeKind → String
  | install => "Install"
  | upgrade => "Upgrade"
  | remove => "Remove"
  | downgrade => "Downgrade"

theorem PackageChangeKind.name_injective : Function.Injective PackageChangeKind.name := by
  intro a b h
  cases a <;> cases b <;> first | rfl | exact absurd h (by decide)

/-- The JSON of a change. -/
def CanonicalPackageChange.json (change : CanonicalPackageChange) : List Char :=
  ("\x7b\"package\":".toList ++ (jsonString change.package ++ ",\"from_version\":".toList))
    ++ (jsonOption jsonString change.fromVersion
      ++ ((",\"to_version\":".toList ++ (jsonOption jsonString change.toVersion
          ++ ",\"kind\":".toList))
        ++ ([] ++ (jsonString change.kind.name ++ ['\x7d']))))

/-- The JSON of a canonical plan. -/
def CanonicalPlan.json (plan : CanonicalPlan) : List Char :=
  ("\x7b\"container_id\":".toList
      ++ ((jsonNumber plan.containerId.toNat ++ [',']) ++ "\"requested_packages\":".toList))
    ++ (jsonArray jsonString plan.requestedPackages
      ++ (",\"resolved_changes\":".toList
        ++ (jsonArray CanonicalPackageChange.json plan.resolvedChanges ++ ['\x7d'])))

theorem selfDelimiting_version : SelfDelimiting (jsonOption jsonString) :=
  selfDelimiting_jsonOption selfDelimiting_jsonString fun _ _ _ h => by cases h

theorem selfDelimiting_change : SelfDelimiting CanonicalPackageChange.json := by
  have hparts : Function.Injective fun change : CanonicalPackageChange =>
      (change.package, change.fromVersion, change.toVersion, change.kind.name) := by
    rintro ⟨package, fromVersion, toVersion, kind⟩ ⟨package', fromVersion', toVersion', kind'⟩ h
    simp only [Prod.mk.injEq, PackageChangeKind.name_injective.eq_iff] at h
    rw [CanonicalPackageChange.mk.injEq]
    exact h
  have hkind := selfDelimiting_jsonString.between [] ['\x7d']
  have hto := selfDelimiting_version.between ",\"to_version\":".toList ",\"kind\":".toList
  have hpackage := selfDelimiting_jsonString.between "\x7b\"package\":".toList
    ",\"from_version\":".toList
  have hchange := (hpackage.pair (selfDelimiting_version.pair (hto.pair hkind))).comp hparts
  dsimp only at hchange
  unfold CanonicalPackageChange.json
  exact hchange

/-- **Different canonical plans have different JSON texts.** -/
theorem CanonicalPlan.json_injective : Function.Injective CanonicalPlan.json := by
  have hparts : Function.Injective fun plan : CanonicalPlan =>
      (plan.containerId.toNat, plan.requestedPackages, plan.resolvedChanges) := by
    rintro ⟨containerId, packages, changes⟩ ⟨containerId', packages', changes'⟩ h
    simp only [Prod.mk.injEq, UInt64.toNat_inj] at h
    rw [CanonicalPlan.mk.injEq]
    exact h
  have hcontainer := (@selfDelimiting_jsonNumber ',' (by decide)).between
    "\x7b\"container_id\":".toList "\"requested_packages\":".toList
  have hpackages : SelfDelimiting (jsonArray jsonString) :=
    selfDelimiting_jsonArray selfDelimiting_jsonString fun _ _ _ h => by cases h
  have hchanges := (selfDelimiting_jsonArray selfDelimiting_change fun _ _ _ h => by
    cases h).between ",\"resolved_changes\":".toList ['\x7d']
  exact ((hcontainer.pair (hpackages.pair hchanges)).comp hparts).injective

/-- The bytes of the JSON of a canonical plan. -/
def CanonicalPlan.toVec (plan : CanonicalPlan) : List UInt8 := utf8Bytes (String.ofList plan.json)

theorem CanonicalPlan.toVec_injective : Function.Injective CanonicalPlan.toVec := by
  intro a b h
  have htext := congrArg fromUtf8 h
  rw [CanonicalPlan.toVec, CanonicalPlan.toVec, fromUtf8_utf8Bytes, fromUtf8_utf8Bytes] at htext
  exact CanonicalPlan.json_injective (String.ofList_injective (Option.some.inj htext))

/-! ### Two plans with one hash -/

/-- An upgrade of a package. -/
def upgradeOf (package : PackageName) (fromVersion toVersion : PackageVersion) :
    ResolvedPackageChange :=
  ⟨package, some fromVersion, some toVersion, .upgrade⟩

def zlibUpgrade : ResolvedPackageChange :=
  upgradeOf ⟨"zlib1g", by decide, by decide⟩ ⟨"1.3-1", by decide⟩ ⟨"1.3-2", by decide⟩

def libcUpgrade : ResolvedPackageChange :=
  upgradeOf ⟨"libc6", by decide, by decide⟩ ⟨"2.41-8", by decide⟩ ⟨"2.41-9", by decide⟩

/-- A plan for two upgrades. -/
def zlibFirst : UpdatePlan where
  id := ⟨⟨1⟩⟩
  containerId := ⟨101⟩
  requestedPackages := [zlibUpgrade.package, libcUpgrade.package]
  resolvedChanges := [zlibUpgrade, libcUpgrade]
  status := .draft
  createdAt := 0
  planHash := none

/-- The same upgrades in another order, in a later plan that is ready. -/
def libcFirst : UpdatePlan :=
  { zlibFirst with
    id := ⟨⟨2⟩⟩
    requestedPackages := [libcUpgrade.package, zlibUpgrade.package]
    resolvedChanges := [libcUpgrade, zlibUpgrade]
    status := .ready
    createdAt := 5 }

/-- The SHA-256 digest of the JSON of these plans. -/
def upgradesDigest : List UInt8 :=
  [87, 26, 43, 188, 8, 69, 135, 76, 137, 101, 182, 130, 129, 47, 138, 7,
    38, 180, 111, 248, 158, 93, 144, 97, 84, 237, 36, 72, 173, 114, 28, 220]

/-- A function without collisions that has the digest of these plans. -/
def upgradesSha256 (bytes : List UInt8) : List UInt8 :=
  if bytes = zlibFirst.canonicalRepresentation.toVec then upgradesDigest
  else List.replicate 33 0 ++ bytes

theorem upgradesSha256_injective : Function.Injective upgradesSha256 := by
  have hlonger : ∀ bytes, upgradesDigest ≠ List.replicate 33 0 ++ bytes := by
    intro bytes h
    have hlength := congrArg List.length h
    rw [List.length_append, List.length_replicate] at hlength
    have hdigest : upgradesDigest.length = 32 := rfl
    omega
  intro a b h
  unfold upgradesSha256 at h
  split at h
  · rename_i ha
    split at h
    · rename_i hb
      rw [ha, hb]
    · exact absurd h (hlonger b)
  · split at h
    · exact absurd h.symm (hlonger a)
    · exact List.append_cancel_left h

/-- The hash of a plan, where these plans have the one they really have. -/
def upgradesHash (plan : UpdatePlan) : String :=
  plan.calculateHash (planDigest CanonicalPlan.toVec upgradesSha256)

theorem upgradesHash_eq :
    upgradesHash zlibFirst
        = "571a2bbc0845874c8965b682812f8a0726b46ff89e5d906154ed2448ad721cdc"
      ∧ upgradesHash zlibFirst = upgradesHash libcFirst := by
  refine ⟨?_, (calculateHash_eq_iff CanonicalPlan.toVec_injective upgradesSha256_injective
    zlibFirst libcFirst).mpr ⟨rfl, by decide, by decide⟩⟩
  have hdigest : upgradesSha256 zlibFirst.canonicalRepresentation.toVec = upgradesDigest :=
    if_pos rfl
  rw [upgradesHash, UpdatePlan.calculateHash, planDigest, hdigest]
  decide

end Lxcup.Core
