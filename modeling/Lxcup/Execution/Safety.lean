import Lxcup.Execution.Coordinator
import Lxcup.Lib.Outcome

/-!
# What is looked at before an execution starts

A confirmed plan is carried out when a fresh plan, built from the current input, has the same
hash.  The hash is taken of the content alone; whether the planner blocks the fresh plan is not
looked at.

## Main definitions

* `PlannerInput.isBlocked` — the inputs that the planner blocks.
* `PlannerInput.Resolves` — the packages and changes of an input that the planner accepts.
* `SafeStart` — an execution is created only for a fresh plan that is ready and has the content
  of the confirmed one.
* `Admitted` — a request that nothing is said against, up to the comparison of the hashes.

## Main results

* `UpdatePlanner.build_eq_ok` — when a plan is built, and which one.
* `start_created` — when an execution is created.
* `safeStart_iff` — starting is safe, unless the planner blocks the current input of an admitted
  request.
-/

namespace Lxcup.Execution

open Lxcup.Lib Lxcup.Core

/-! ### When a plan is built -/

/-- The planner blocks distribution upgrades, removals and downgrades. -/
def PlannerInput.isBlocked (input : PlannerInput) : Bool :=
  input.distributionUpgrade ||
    input.dryRunChanges.any fun change => change.kind = .remove || change.kind = .downgrade

/-- Every name and version passes, no package is held or unauthenticated, and something is
requested. -/
structure PlannerInput.Resolves (input : PlannerInput) (packages : List PackageName)
    (changes : List ResolvedPackageChange) : Prop where
  names : input.requestedPackages.mapM PackageName.check = .ok packages
  resolved : input.dryRunChanges.mapM normalizeChange = .ok changes
  requested : packages ≠ []

/-- A change keeps its kind. -/
theorem normalizeChange_kind {change : DryRunChange} {resolved : ResolvedPackageChange}
    (h : normalizeChange change = .ok resolved) : resolved.kind = change.kind := by
  unfold normalizeChange at h
  by_cases hheld : change.held = true
  · simp [hheld, bind, Except.bind, throw, throwThe, MonadExceptOf.throw] at h
  by_cases hauthenticated : change.authenticated = true
  · simp only [hheld, hauthenticated, Bool.not_true, Bool.false_eq_true, if_false] at h
    obtain ⟨package, -, h⟩ := bind_eq_ok.mp h
    obtain ⟨fromVersion, -, h⟩ := bind_eq_ok.mp h
    obtain ⟨toVersion, -, h⟩ := bind_eq_ok.mp h
    cases h
    rfl
  · simp [hheld, hauthenticated, bind, Except.bind, throw, throwThe, MonadExceptOf.throw] at h

variable {digest : CanonicalPlan → String} {input : PlannerInput} {packages : List PackageName}
  {changes : List ResolvedPackageChange}

/-- The changes of a plan are unsafe when those of the dry run are. -/
theorem PlannerInput.Resolves.isBlocked_eq (h : input.Resolves packages changes) :
    (input.distributionUpgrade || changes.any isUnsafeChange) = input.isBlocked := by
  have hkinds : changes.map (·.kind) = input.dryRunChanges.map (·.kind) :=
    map_of_mapM (fun _ _ => normalizeChange_kind) h.resolved
  have hany : changes.any isUnsafeChange
      = (changes.map (·.kind)).any fun kind => kind = .remove || kind = .downgrade := by
    rw [List.any_map]
    rfl
  rw [hany, hkinds, List.any_map]
  rfl

namespace UpdatePlanner

/-- **When a plan is built, and which one**: blocked or ready, as the input says. -/
theorem build_eq_ok {newId : UpdatePlanId} {now : Timestamp} {plan : UpdatePlan} :
    build digest input newId now = .ok plan ↔
      ∃ packages changes, input.Resolves packages changes ∧
        plan = UpdatePlan.refreshHash digest ⟨newId, input.containerId, packages, changes,
          if input.isBlocked then .blocked else .ready, now, none⟩ := by
  constructor
  · intro h
    unfold build at h
    obtain ⟨packages, hnames, h⟩ := bind_eq_ok.mp h
    obtain ⟨changes, hresolved, h⟩ := bind_eq_ok.mp h
    have hnames : input.requestedPackages.mapM PackageName.check = .ok packages := by
      cases hcheck : input.requestedPackages.mapM PackageName.check with
      | error error => simp [hcheck, ofDomain] at hnames
      | ok packages' => simpa [hcheck, ofDomain] using hnames
    by_cases hempty : packages = []
    · simp [UpdatePlan.new, hempty, ofDomain, bind, Except.bind] at h
    · have hresolves : input.Resolves packages changes := ⟨hnames, hresolved, hempty⟩
      refine ⟨packages, changes, hresolves, ?_⟩
      simp only [UpdatePlan.new, if_neg hempty, ofDomain_ok, bind, Except.bind,
        hresolves.isBlocked_eq] at h
      by_cases hblocked : input.isBlocked = true
      all_goals
        simp only [hblocked, if_true, if_false, Bool.false_eq_true, UpdatePlan.transitionTo,
          PlanStatus.canTransitionTo, ofDomain_ok, pure, Except.pure, Except.ok.injEq] at h ⊢
        exact h.symm
  · rintro ⟨packages, changes, h, rfl⟩
    simp only [build, h.names, h.resolved, ofDomain_ok, UpdatePlan.new, if_neg h.requested, bind,
      Except.bind, h.isBlocked_eq]
    by_cases hblocked : input.isBlocked = true
    all_goals
      simp only [hblocked, if_true, if_false, Bool.false_eq_true, UpdatePlan.transitionTo,
        PlanStatus.canTransitionTo, ofDomain_ok, pure, Except.pure]

/-- A plan is unchanged when a fresh plan is built and has the same hash. -/
theorem revalidate_eq_unchanged {plan plan' : UpdatePlan} :
    revalidate digest plan input = .ok (.unchanged, plan') ↔
      plan' = plan ∧ ∃ fresh, build digest input plan.id plan.createdAt = .ok fresh ∧
        plan.hasSameContentAs digest fresh = true := by
  constructor
  · intro h
    refine ⟨revalidate_unchanged h, ?_⟩
    obtain ⟨fresh, hfresh, h⟩ := bind_eq_ok.mp h
    refine ⟨fresh, hfresh, ?_⟩
    by_cases hsame : plan.hasSameContentAs digest fresh = true
    · exact hsame
    · simp only [hsame, Bool.false_eq_true, if_false] at h
      obtain ⟨invalid, -, h⟩ := bind_eq_ok.mp h
      cases h
  · rintro ⟨rfl, fresh, hfresh, hsame⟩
    simp only [revalidate, hfresh, hsame, bind, Except.bind, if_true]
    rfl

end UpdatePlanner

/-! ### When an execution is created -/

variable {c : ExecutionCoordinator} {request : ExecutionRequest}

/-- Actor and key are given, the key is new, the plan is confirmed, and the content that the
current input resolves to has the hash of the plan. -/
structure Admitted (digest : CanonicalPlan → String) (c : ExecutionCoordinator)
    (request : ExecutionRequest) : Prop where
  actor : trim request.actor.toList ≠ []
  key : trim request.idempotencyKey.toList ≠ []
  unused : c.idempotency.get request.idempotencyKey = none
  confirmed : request.plan.status = .confirmed
  same : ∃ packages changes, request.currentPlanInput.Resolves packages changes ∧
    request.plan.calculateHash digest =
      UpdatePlan.calculateHash digest { request.plan with
        containerId := request.currentPlanInput.containerId
        requestedPackages := packages
        resolvedChanges := changes }

/-- **An execution is created for the admitted requests**, and for no others. -/
theorem start_created {newId : ExecutionId} {now : Timestamp} :
    (∃ execution c', c.start digest request newId now = .ok (.created execution, c')) ↔
      Admitted digest c request := by
  constructor
  · rintro ⟨execution, c', h⟩
    unfold ExecutionCoordinator.start at h
    split at h
    case isTrue => cases h
    case isFalse hidentity =>
    obtain ⟨hactor, hkey⟩ := not_or.mp hidentity
    cases hunused : c.idempotency.get request.idempotencyKey with
    | some existing => simp [hunused] at h
    | none =>
    simp only [hunused] at h
    split at h
    case isTrue => cases h
    case isFalse hconfirmed =>
    cases hrevalidate : UpdatePlanner.revalidate digest request.plan request.currentPlanInput with
    | error error => simp [hrevalidate] at h
    | ok outcome =>
    obtain ⟨revalidation, plan⟩ := outcome
    cases revalidation with
    | changed => simp [hrevalidate] at h
    | unchanged =>
      obtain ⟨-, fresh, hfresh, hsame⟩ := UpdatePlanner.revalidate_eq_unchanged.mp hrevalidate
      obtain ⟨packages, changes, hresolves, rfl⟩ := UpdatePlanner.build_eq_ok.mp hfresh
      exact ⟨hactor, hkey, hunused, not_not.mp hconfirmed, packages, changes, hresolves,
        of_decide_eq_true hsame⟩
  · rintro ⟨hactor, hkey, hunused, hconfirmed, packages, changes, hresolves, hsame⟩
    have hunchanged : UpdatePlanner.revalidate digest request.plan request.currentPlanInput
        = .ok (.unchanged, request.plan) :=
      UpdatePlanner.revalidate_eq_unchanged.mpr
        ⟨rfl, _, UpdatePlanner.build_eq_ok.mpr ⟨packages, changes, hresolves, rfl⟩,
          decide_eq_true hsame⟩
    refine ⟨.new request.plan.id newId,
      c.enqueue request.plan request.actor request.idempotencyKey newId now, ?_⟩
    simp only [ExecutionCoordinator.start, hactor, hkey, hunused, hconfirmed, hunchanged, or_self,
      if_false, ne_eq, not_true_eq_false]

/-- An execution is created only if a fresh plan can be built from the current input, is ready
and has the content of the confirmed plan. -/
def SafeStart (digest : CanonicalPlan → String) (c : ExecutionCoordinator)
    (request : ExecutionRequest) : Prop :=
  ∀ newId now execution c', c.start digest request newId now = .ok (.created execution, c') →
    ∀ planId builtAt, ∃ fresh,
      UpdatePlanner.build digest request.currentPlanInput planId builtAt = .ok fresh ∧
        fresh.status = .ready ∧ request.plan.hasSameContentAs digest fresh = true

/-- Nothing looks at whether the fresh plan is blocked. -/
theorem not_safeStart (hblocked : request.currentPlanInput.isBlocked = true)
    (hadmitted : Admitted digest c request) : ¬SafeStart digest c request := by
  intro hsafe
  obtain ⟨execution, c', hstart⟩ := (@start_created digest c request ⟨⟨0⟩⟩ 0).mpr hadmitted
  obtain ⟨fresh, hfresh, hready, -⟩ := hsafe _ _ _ _ hstart ⟨⟨0⟩⟩ 0
  obtain ⟨packages, changes, -, rfl⟩ := UpdatePlanner.build_eq_ok.mp hfresh
  simp [UpdatePlan.refreshHash, hblocked] at hready

/-- **Starting is safe, unless the planner blocks the current input of an admitted request**: the
content that is compared does not say whether a plan is blocked. -/
theorem safeStart_iff (digest : CanonicalPlan → String) (c : ExecutionCoordinator)
    (request : ExecutionRequest) :
    SafeStart digest c request ↔
      ¬(request.currentPlanInput.isBlocked = true ∧ Admitted digest c request) := by
  constructor
  · rintro hsafe ⟨hblocked, hadmitted⟩
    exact not_safeStart hblocked hadmitted hsafe
  · intro hopen newId now execution c' hstart planId builtAt
    have hadmitted := start_created.mp ⟨execution, c', hstart⟩
    have hready : request.currentPlanInput.isBlocked ≠ true := fun h => hopen ⟨h, hadmitted⟩
    obtain ⟨packages, changes, hresolves, hsame⟩ := hadmitted.same
    refine ⟨_, UpdatePlanner.build_eq_ok.mpr ⟨packages, changes, hresolves, rfl⟩, ?_, ?_⟩
    · simp [UpdatePlan.refreshHash, hready]
    · exact decide_eq_true hsame

/-- The plan for `openssl` is confirmed; what it takes is a distribution upgrade by now. -/
def opensslUpgrade : ExecutionRequest where
  plan := opensslPlan
  currentPlanInput := { PlannerInput.ofPlan opensslPlan with distributionUpgrade := true }
  actor := "api"
  idempotencyKey := "key"

/-- The distribution upgrade is blocked by the planner and carried out all the same. -/
theorem opensslUpgrade_starts : ¬SafeStart opensslDigest .default opensslUpgrade := by
  refine not_safeStart rfl ⟨by decide, by decide, by decide, rfl, opensslPlan.requestedPackages, [],
    ⟨?_, rfl, by decide⟩, rfl⟩
  exact mapM_check PackageName.check_value opensslPlan.requestedPackages

end Lxcup.Execution
