import Lxcup.Core.Plan

/-!
# The update planner

Plans are built from the dry run of an agent, and revalidated against a fresh one before
they are carried out.

## Main definitions

* `DryRunChange`, `PlannerInput`, `PlannerError`, `Revalidation`.
* `UpdatePlanner.build`, `UpdatePlanner.revalidate`.
* `PlannerInput.ofPlan` — the input that a plan itself would be built from.

## Main results

* `UpdatePlanner.build_ok` — the content and the status of a plan that is built.
* `UpdatePlanner.revalidate_ofPlan` — a plan is unchanged against its own content, unless
  nothing was requested.
-/

namespace Lxcup.Execution

open Lxcup.Lib Lxcup.Core

/-- A normalized result of a dry run. -/
structure DryRunChange where
  package : String
  fromVersion : Option String
  toVersion : Option String
  kind : PackageChangeKind
  held : Bool
  authenticated : Bool
  deriving DecidableEq, Repr

/-- What the planner works on. -/
structure PlannerInput where
  containerId : ContainerId
  requestedPackages : List String
  dryRunChanges : List DryRunChange
  distributionUpgrade : Bool
  deriving DecidableEq, Repr

/-- Why the planner refuses an input. -/
inductive PlannerError
  | domain (error : DomainError)
  | heldPackage (package : String)
  | unauthenticatedPackage (package : String)
  deriving DecidableEq, Repr, Inhabited

/-- The result of validating a plan against a fresh dry run. -/
inductive Revalidation
  | unchanged | changed
  deriving DecidableEq, Repr, Inhabited

/-- An error of the domain as one of the planner. -/
def ofDomain {α : Type} : Except DomainError α → Except PlannerError α
  | .ok value => .ok value
  | .error error => .error (.domain error)

@[simp] theorem ofDomain_ok {α : Type} (value : α) : ofDomain (.ok value) = .ok value := rfl

/-- A version that may be missing. -/
def checkVersion : Option String → Except DomainError (Option PackageVersion)
  | none => .ok none
  | some value => (PackageVersion.check value).map some

@[simp] theorem checkVersion_value (version : Option PackageVersion) :
    checkVersion (version.map (·.value)) = .ok version := by
  cases version <;> simp [checkVersion, Except.map]

/-- Held and unauthenticated packages are refused before anything else is looked at. -/
def normalizeChange (change : DryRunChange) : Except PlannerError ResolvedPackageChange := do
  if change.held then throw (.heldPackage change.package)
  if !change.authenticated then throw (.unauthenticatedPackage change.package)
  let package ← ofDomain (PackageName.check change.package)
  let fromVersion ← ofDomain (checkVersion change.fromVersion)
  let toVersion ← ofDomain (checkVersion change.toVersion)
  return ⟨package, fromVersion, toVersion, change.kind⟩

/-- Changes that no plan may carry out unattended. -/
def isUnsafeChange (change : ResolvedPackageChange) : Bool :=
  change.kind = .remove || change.kind = .downgrade

namespace UpdatePlanner

-- the hash of a canonical plan
variable (digest : CanonicalPlan → String)

/-- Build a plan, blocked or ready, with the fresh id and the time of the call. -/
def build (input : PlannerInput) (newId : UpdatePlanId) (now : Timestamp) :
    Except PlannerError UpdatePlan := do
  let requestedPackages ← ofDomain (input.requestedPackages.mapM PackageName.check)
  let resolvedChanges ← input.dryRunChanges.mapM normalizeChange
  let plan ← ofDomain (UpdatePlan.new input.containerId requestedPackages resolvedChanges newId now)
  let blocked := input.distributionUpgrade || plan.resolvedChanges.any isUnsafeChange
  let plan ← ofDomain (plan.transitionTo (if blocked then .blocked else .ready))
  return plan.refreshHash digest

/-- Rebuild the current content, and invalidate the old plan if it has changed.  The id and
the time of the rebuilt plan are not looked at. -/
def revalidate (confirmedPlan : UpdatePlan) (current : PlannerInput) :
    Except PlannerError (Revalidation × UpdatePlan) := do
  let fresh ← build digest current confirmedPlan.id confirmedPlan.createdAt
  if confirmedPlan.hasSameContentAs digest fresh then return (.unchanged, confirmedPlan)
  let confirmedPlan ← ofDomain (confirmedPlan.transitionTo .invalidated)
  return (.changed, confirmedPlan)

end UpdatePlanner

/-- The input that a plan itself would be built from. -/
def PlannerInput.ofPlan (plan : UpdatePlan) : PlannerInput where
  containerId := plan.containerId
  requestedPackages := plan.requestedPackages.map (·.value)
  dryRunChanges := plan.resolvedChanges.map fun change =>
    { package := change.package.value
      fromVersion := change.fromVersion.map (·.value)
      toVersion := change.toVersion.map (·.value)
      kind := change.kind
      held := false
      authenticated := true }
  distributionUpgrade := false

/-! ### The planner on the content of a plan -/

/-- Checks that pass on every value of a list give the list back. -/
theorem mapM_check {α β ε : Type} {check : β → Except ε α} {value : α → β}
    (h : ∀ a, check (value a) = .ok a) (as : List α) :
    (as.map value).mapM check = .ok as := by
  induction as with
  | nil => rfl
  | cons a as ih =>
    rw [List.map_cons, List.mapM_cons, h a, ih]
    rfl

namespace UpdatePlanner

variable {digest : CanonicalPlan → String}

/-- **What is built**: the content of the input, ready unless something in it is unsafe. -/
theorem build_ok {input : PlannerInput} {newId : UpdatePlanId} {now : Timestamp}
    {plan : UpdatePlan} (h : build digest input newId now = .ok plan) :
    plan.id = newId ∧ plan.containerId = input.containerId ∧ plan.requestedPackages ≠ [] ∧
      plan.status = if input.distributionUpgrade || plan.resolvedChanges.any isUnsafeChange
        then .blocked else .ready := by
  unfold build at h
  cases hpackages : input.requestedPackages.mapM PackageName.check with
  | error error => simp [hpackages, ofDomain, bind, Except.bind] at h
  | ok packages =>
  cases hchanges : input.dryRunChanges.mapM normalizeChange with
  | error error => simp [hpackages, hchanges, ofDomain, bind, Except.bind] at h
  | ok changes =>
  by_cases hempty : packages = []
  · simp [hpackages, hchanges, hempty, ofDomain, UpdatePlan.new, bind, Except.bind] at h
  · simp only [hpackages, hchanges, ofDomain_ok, UpdatePlan.new, if_neg hempty, bind,
      Except.bind] at h
    by_cases hblocked : (input.distributionUpgrade || changes.any isUnsafeChange) = true
    all_goals
      simp only [hblocked, if_true, if_false, Bool.false_eq_true, UpdatePlan.transitionTo,
        PlanStatus.canTransitionTo, ofDomain_ok, pure, Except.pure, Except.ok.injEq] at h
      subst h
      simp [UpdatePlan.refreshHash, hempty, hblocked]

/-- The content of a plan is built again, unless nothing was requested. -/
theorem build_ofPlan (plan : UpdatePlan) (newId : UpdatePlanId) (now : Timestamp) :
    build digest (.ofPlan plan) newId now =
      if plan.requestedPackages = [] then .error (.domain (.emptyValue "requested packages"))
      else .ok (UpdatePlan.refreshHash digest
        ⟨newId, plan.containerId, plan.requestedPackages, plan.resolvedChanges,
          if plan.resolvedChanges.any isUnsafeChange then .blocked else .ready, now, none⟩) := by
  have hpackages : (plan.requestedPackages.map (·.value)).mapM PackageName.check
      = .ok plan.requestedPackages := mapM_check PackageName.check_value _
  have hchanges : (PlannerInput.ofPlan plan).dryRunChanges.mapM normalizeChange
      = .ok plan.resolvedChanges := by
    refine mapM_check (fun change => ?_) _
    simp [normalizeChange, bind, Except.bind, pure, Except.pure]
  simp only [build, hchanges]
  simp only [PlannerInput.ofPlan, hpackages, ofDomain_ok, bind, Except.bind, UpdatePlan.new,
    Bool.false_or]
  by_cases hempty : plan.requestedPackages = []
  · simp [hempty, ofDomain]
  · by_cases hunsafe : plan.resolvedChanges.any isUnsafeChange = true
    · simp [hempty, hunsafe, ofDomain, UpdatePlan.transitionTo, PlanStatus.canTransitionTo, pure,
        Except.pure]
    · simp [hempty, hunsafe, ofDomain, UpdatePlan.transitionTo, PlanStatus.canTransitionTo, pure,
        Except.pure]

/-- **A plan is unchanged against its own content**, unless nothing was requested. -/
theorem revalidate_ofPlan {plan plan' : UpdatePlan}
    (hcontainer : plan.containerId = plan'.containerId)
    (hpackages : plan.requestedPackages = plan'.requestedPackages)
    (hchanges : plan.resolvedChanges = plan'.resolvedChanges) :
    revalidate digest plan (.ofPlan plan') =
      if plan'.requestedPackages = [] then .error (.domain (.emptyValue "requested packages"))
      else .ok (.unchanged, plan) := by
  simp only [revalidate, build_ofPlan]
  by_cases hempty : plan'.requestedPackages = []
  · simp [hempty, bind, Except.bind]
  · simp only [if_neg hempty, bind, Except.bind]
    rw [if_pos]
    · rfl
    · exact UpdatePlan.hasSameContentAs_of_content hcontainer hpackages hchanges

/-- A plan that is found unchanged is the plan itself. -/
theorem revalidate_unchanged {plan plan' : UpdatePlan} {current : PlannerInput}
    (h : revalidate digest plan current = .ok (.unchanged, plan')) : plan' = plan := by
  simp only [revalidate, bind, Except.bind] at h
  split at h
  case h_1 => cases h
  case h_2 fresh hfresh =>
    split at h
    case isTrue =>
      cases h
      rfl
    case isFalse =>
      split at h
      case h_1 => cases h
      case h_2 => cases h

end UpdatePlanner

end Lxcup.Execution
