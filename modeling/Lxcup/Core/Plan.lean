import Lxcup.Core.Resource
import Lxcup.Core.Scan
import Mathlib.Data.List.Sort
import Mathlib.Data.String.Basic

/-!
# Update plans

A plan of package changes for a container: what was asked for, what it resolves to, and the
status the plan goes through before it may be carried out.  Two plans have the same content
when their canonical forms have the same hash; the hash function is an argument.

## Main definitions

* `PackageName.check`, `PackageVersion.check` — the texts of a request, with the reason of a refusal.
* `PlanStatus`, `PackageChangeKind`, `ResolvedPackageChange`, `UpdatePlan`.
* `UpdatePlan.new`, `UpdatePlan.transitionTo`.
* `UpdatePlan.canonicalRepresentation`, `UpdatePlan.calculateHash`, `UpdatePlan.hasSameContentAs`.

## Main results

* `UpdatePlan.hasSameContentAs_of_content` — plans with the same container, packages and
  changes have the same content.
-/

namespace Lxcup.Core

open Lxcup.Lib

/-- `PackageName::new` with the reason of a refusal. -/
def PackageName.check (value : String) : Except DomainError PackageName :=
  match PackageName.new value with
  | some name => .ok name
  | none =>
    .error (if trim value.toList = [] then .emptyValue "package name" else .invalidPackageName)

/-- `PackageVersion::new` with the reason of a refusal. -/
def PackageVersion.check (value : String) : Except DomainError PackageVersion :=
  match PackageVersion.new value with
  | some version => .ok version
  | none => .error (.emptyValue "package version")

@[simp] theorem PackageName.check_value (name : PackageName) : check name.value = .ok name := by
  simp [check, new, name.notBlank, name.noWhitespace]

@[simp] theorem PackageVersion.check_value (version : PackageVersion) :
    check version.value = .ok version := by
  simp [check, new, version.notBlank]

/-- The id of an update plan. -/
structure UpdatePlanId where
  uuid : Uuid
  deriving DecidableEq, Repr, Inhabited

/-- The lifecycle of an update plan. -/
inductive PlanStatus
  | draft | blocked | ready | confirmed | invalidated
  deriving DecidableEq, Repr, Inhabited

/-- The edges of the lifecycle. -/
def PlanStatus.canTransitionTo : PlanStatus → PlanStatus → Bool
  | draft, blocked | draft, ready | draft, invalidated => true
  | blocked, draft | blocked, invalidated => true
  | ready, confirmed | ready, invalidated => true
  | confirmed, invalidated => true
  | _, _ => false

/-- Only a ready plan can be confirmed. -/
theorem PlanStatus.canTransitionTo_confirmed {status : PlanStatus} :
    status.canTransitionTo .confirmed = true ↔ status = .ready := by
  cases status <;> decide

/-- The kind of a resolved change. -/
inductive PackageChangeKind
  | install | upgrade | remove | downgrade
  deriving DecidableEq, Repr, Inhabited

/-- The place of a kind in the canonical order. -/
def PackageChangeKind.rank : PackageChangeKind → Nat
  | install => 0
  | upgrade => 1
  | remove => 2
  | downgrade => 3

/-- A concrete change of a package, from a dry run. -/
structure ResolvedPackageChange where
  package : PackageName
  fromVersion : Option PackageVersion
  toVersion : Option PackageVersion
  kind : PackageChangeKind
  deriving DecidableEq

/-- A change with plain texts, as it is hashed. -/
structure CanonicalPackageChange where
  package : String
  fromVersion : Option String
  toVersion : Option String
  kind : PackageChangeKind
  deriving DecidableEq, Repr

namespace CanonicalPackageChange

/-- The order of the changes: by package, versions and kind, a missing version first. -/
def before (left right : CanonicalPackageChange) : Bool :=
  (((compare left.package right.package).then
    (compare left.fromVersion right.fromVersion)).then
    (compare left.toVersion right.toVersion)).then
    (compare left.kind.rank right.kind.rank) |>.isLE

end CanonicalPackageChange

/-- What the hash of a plan is taken of. -/
structure CanonicalPlan where
  containerId : UInt64
  requestedPackages : List String
  resolvedChanges : List CanonicalPackageChange
  deriving DecidableEq, Repr

/-- A resolved plan for a controlled execution. -/
structure UpdatePlan where
  id : UpdatePlanId
  containerId : ContainerId
  requestedPackages : List PackageName
  resolvedChanges : List ResolvedPackageChange
  status : PlanStatus
  createdAt : Timestamp
  planHash : Option String
  deriving DecidableEq

namespace UpdatePlan

/-- `UpdatePlan::new`, with the fresh id and the time of the call. -/
def new (containerId : ContainerId) (requestedPackages : List PackageName)
    (resolvedChanges : List ResolvedPackageChange) (newId : UpdatePlanId) (now : Timestamp) :
    Except DomainError UpdatePlan :=
  if requestedPackages = [] then .error (.emptyValue "requested packages")
  else .ok ⟨newId, containerId, requestedPackages, resolvedChanges, .draft, now, none⟩

/-- Take an edge of the lifecycle. -/
def transitionTo (plan : UpdatePlan) (next : PlanStatus) : Except DomainError UpdatePlan :=
  if plan.status.canTransitionTo next then .ok { plan with status := next }
  else .error (.invalidStateTransition "update plan status")

/-- The content of a plan in canonical order. -/
def canonicalRepresentation (plan : UpdatePlan) : CanonicalPlan where
  containerId := plan.containerId.value
  requestedPackages := (plan.requestedPackages.map (·.value)).insertionSort (· ≤ ·)
  resolvedChanges :=
    (plan.resolvedChanges.map fun change =>
      ⟨change.package.value, change.fromVersion.map (·.value), change.toVersion.map (·.value),
        change.kind⟩).insertionSort fun left right => left.before right = true

section

-- SHA-256 over the JSON of the canonical plan, in hexadecimal digits
variable (digest : CanonicalPlan → String)

def calculateHash (plan : UpdatePlan) : String := digest plan.canonicalRepresentation

def refreshHash (plan : UpdatePlan) : UpdatePlan :=
  { plan with planHash := some (plan.calculateHash digest) }

/-- Compare two plans without their ids, statuses and times. -/
def hasSameContentAs (plan other : UpdatePlan) : Bool :=
  plan.calculateHash digest = other.calculateHash digest

end

/-- Confirming succeeds for ready plans, and for no others. -/
theorem transitionTo_confirmed (plan : UpdatePlan) :
    plan.transitionTo .confirmed =
      if plan.status = .ready then .ok { plan with status := .confirmed }
      else .error (.invalidStateTransition "update plan status") := by
  simp only [transitionTo, PlanStatus.canTransitionTo_confirmed]

/-- **Plans with the same container, packages and changes have the same content.** -/
theorem hasSameContentAs_of_content {digest : CanonicalPlan → String} {plan other : UpdatePlan}
    (hcontainer : plan.containerId = other.containerId)
    (hpackages : plan.requestedPackages = other.requestedPackages)
    (hchanges : plan.resolvedChanges = other.resolvedChanges) :
    plan.hasSameContentAs digest other = true := by
  have hcanonical : plan.canonicalRepresentation = other.canonicalRepresentation := by
    simp only [canonicalRepresentation, hcontainer, hpackages, hchanges]
  simp only [hasSameContentAs, calculateHash, hcanonical, decide_true]

end UpdatePlan

end Lxcup.Core
