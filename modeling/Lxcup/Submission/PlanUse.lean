import Lxcup.Submission.Durability

/-!
# A plan is applied once

Whether a plan was applied before is read off the listed jobs; the job that applies it is
made several accesses later, and in persistent mode listed later still.  Two requests that
name the same plan may both pass the check before either is listed, and then both are
accepted.

In the runs in which a request for a plan is checked only while no other one is between its
check and its job, no such job is lost on its way to the table, and no target is deleted under
such a request, all accepted applications of a plan are the same job.

## Main definitions

* `OneApplication` — the accepted applications of a plan are one job.
* `OneAtATime` — the condition on the steps.
* `Live`, `Exclusive` — the applications of a plan that there are, and the invariant.

## Main results

* `oneApplication_of_oneAtATime` — the property, in every state of every such run.
* `plan_applied_twice` — two requests pass the check one after the other and are both accepted.
-/

namespace Lxcup.Submission

open Lxcup.Lib Lxcup.Core Lxcup.Ansible Lxcup.Persistence Lxcup.Server

/-- All accepted applications of a plan are the same job. -/
def OneApplication (s : Service) : Prop :=
  ∀ planId, ∀ entry ∈ s.accepted, ∀ entry' ∈ s.accepted, usesPlan planId entry.2 = true →
    usesPlan planId entry'.2 = true → entry.2.id = entry'.2.id

/-- The call is a request to apply the plan. -/
def namesPlan (planId : AnsibleJobId) : Call → Bool
  | .create _ request => request.operation = .updatePackages && request.mode = .apply
    && request.approvedPlanJobId = some planId
  | _ => false

/-- The phases between the check of a plan and the end of the job's way to the table. -/
def Phase.checked : Phase → Bool
  | .validated _ | .keyUnused _ | .notActive _ | .unresolved _ | .unblocked _ | .free _
  | .created _ => true
  | _ => false

/-- The phases from the loading of a plan on. -/
def Phase.loaded : Phase → Bool
  | .planMatched .. => true
  | phase => phase.checked

/-- The request is for the target and has loaded a plan. -/
def appliesTo (targetId : TargetId) (p : Process) : Bool :=
  match p.call with
  | .create _ request => request.operation = .updatePackages && request.mode = .apply
    && resourceOf request = .target targetId && p.phase.loaded
  | _ => false

/-- What the next access of a process must not do. -/
def oneAtATime (s : Service) (input : Input) (p : Process) : Bool :=
  match p.phase with
  | .planMatched _ _ planId =>
    !s.processes.any fun _ other => namesPlan planId other.call && other.phase.checked
  | .created job => !(job.operation = .updatePackages && job.mode = .apply)
    || !s.insertFails job input.fails
  | _ => true

/-- A request for a plan is checked only while no other one is between its check and its job, its
job is not lost on the way to the table, and its target is not deleted. -/
def OneAtATime (s : Service) : ServiceAction → Prop
  | .advance n input => ∀ p ∈ s.processes.get n, oneAtATime s input p = true
  | .deleteTarget id => s.processes.any (fun _ p => appliesTo id p) = false
  | _ => True

instance (s : Service) : (action : ServiceAction) → Decidable (OneAtATime s action)
  | .advance n input =>
    inferInstanceAs (Decidable (∀ p ∈ s.processes.get n, oneAtATime s input p = true))
  | .deleteTarget id =>
    inferInstanceAs (Decidable (s.processes.any (fun _ p => appliesTo id p) = false))
  | .arrive .. | .coordinate _ | .progress .. | .putTarget _ | .putContainer ..
  | .createUpdatePolicy _ | .ensureDefaultUpdatePolicy | .deleteUpdatePolicy _ => isTrue trivial

/-! ### Which calls make applications -/

variable {s s' : Service}

/-- A request that applies a plan, by its key. -/
theorem namesPlan_of_checked {role : ActorRole} {request : CreateAnsibleJobRequest}
    {planId : AnsibleJobId} (hchecked : PackageChecked s request)
    (hoperation : request.operation = .updatePackages) (hmode : request.mode = .apply)
    (hkey : startsWith request.idempotencyKey (applyKeyPrefix planId) = true) :
    namesPlan planId (.create role request) = true := by
  obtain ⟨policyId, -, hkind⟩ := hchecked hoperation
  rcases hkind with ⟨hother, -⟩ | ⟨applied, ⟨-, happroved, happlied⟩, -⟩
  · rw [hmode] at hother
    cases hother
  · rw [applyKeyPrefix_inj happlied hkey] at happroved
    simp [namesPlan, hoperation, hmode, happroved]

/-- The key of a reconciliation is not that of an application. -/
theorem not_startsWith_applyKeyPrefix (sourceId planId : AnsibleJobId) :
    startsWith (reconcileIdempotencyKey sourceId) (applyKeyPrefix planId) = false := by
  rw [← Bool.not_eq_true, startsWith_iff]
  intro hkey
  have hpre : reconcileKeyPrefix.toList <+: (reconcileIdempotencyKey sourceId).toList := by
    rw [reconcileIdempotencyKey, String.toList_append]
    exact List.prefix_append _ _
  have happly : "package-apply:".toList <+: (reconcileIdempotencyKey sourceId).toList := by
    refine List.IsPrefix.trans ?_ hkey
    simp only [applyKeyPrefix, String.toList_append, List.append_assoc]
    exact List.prefix_append _ _
  rcases List.prefix_or_prefix_of_prefix hpre happly with hshort | hshort
  · exact absurd hshort (by decide)
  · exact absurd hshort (by decide)

theorem usesPlan_iff {planId : AnsibleJobId} {job : AnsibleJob} :
    usesPlan planId job = true ↔ job.operation = .updatePackages ∧ job.mode = .apply ∧
      startsWith job.idempotencyKey (applyKeyPrefix planId) = true := by
  simp [usesPlan, and_assoc]

/-- **Applications of a plan are made for requests that name it.** -/
theorem namesPlan_of_makes {call : Call} {job : AnsibleJob} {planId : AnsibleJobId}
    (h : Makes s call job) (huses : usesPlan planId job = true) :
    namesPlan planId call = true ∧ ∃ role request, call = .create role request ∧
      job.target = resourceOf request := by
  obtain ⟨hoperation, hmode, hkey⟩ := usesPlan_iff.mp huses
  cases call with
  | create role request =>
    obtain ⟨⟨hop, hmo, -, hke, hta⟩, hchecked⟩ := h
    exact ⟨namesPlan_of_checked hchecked (hop.symm.trans hoperation) (hmo.symm.trans hmode)
      (hke ▸ hkey), role, request, rfl, hta⟩
  | reconcile role sourceId =>
    have hreconcile := h.1
    rw [hmode] at hreconcile
    cases hreconcile
  | produce producer => exact absurd ⟨hoperation, hmode⟩ h.2.2

/-- The job that a call has on its way is its own, or a reconciliation. -/
theorem namesPlan_of_created (h : Sound s) {call : Call} {job : AnsibleJob}
    {planId : AnsibleJobId} (hbound : Bound s call (.created job))
    (huses : usesPlan planId job = true) :
    namesPlan planId call = true ∧ ∃ role request, call = .create role request ∧
      job.target = resourceOf request := by
  cases call with
  | create role request =>
    obtain ⟨-, -, hmakes⟩ := h.made _ _ _ hbound
    exact namesPlan_of_makes hmakes huses
  | reconcile role sourceId =>
    obtain ⟨-, -, hkey⟩ := usesPlan_iff.mp huses
    rw [hbound.2.1, not_startsWith_applyKeyPrefix] at hkey
    cases hkey
  | produce producer =>
    obtain ⟨-, -, hmakes⟩ := h.made _ _ _ hbound
    exact @namesPlan_of_makes s _ _ _ hmakes huses

/-! ### The invariant -/

/-- The job of the id is an application of the plan, in the coordinator or listed. -/
def Live (s : Service) (planId id : AnsibleJobId) : Prop :=
  ∃ job, (s.held id = some job ∨ s.stored id = some job) ∧ usesPlan planId job = true

/-- The plan went with its target. -/
def PlanGone (s : Service) (planId : AnsibleJobId) : Prop :=
  s.stored planId = none ∧ ∃ call plan target, s.made.get planId = some (call, plan) ∧
    target ∈ s.deletedTargets ∧ plan.target = .target target

/-- The plan is listed, and is one for the resource. -/
def PlanThere (s : Service) (planId : AnsibleJobId) (target : ResourceTarget) : Prop :=
  ∃ plan, s.stored planId = some plan ∧ plan.target = target

/-- A plan has one application at most, and a request that has been checked has none but its
own. -/
structure Exclusive (s : Service) : Prop where
  planThere : ∀ planId id job, (s.held id = some job ∨ s.stored id = some job) →
    usesPlan planId job = true → PlanThere s planId job.target
  unique : ∀ planId id id', Live s planId id → Live s planId id' → id = id'
  accepted : ∀ planId, ∀ entry ∈ s.accepted, usesPlan planId entry.2 = true →
    Live s planId entry.2.id ∨ PlanGone s planId
  one : OneApplication s
  loaded : ∀ n p planId role request, s.processes.get n = some p →
    p.call = .create role request → namesPlan planId p.call = true → p.phase.loaded = true →
      PlanThere s planId (resourceOf request)
  own : ∀ n p planId, s.processes.get n = some p → namesPlan planId p.call = true →
    p.phase.checked = true → ∀ id, Live s planId id → ∃ job, p.phase = .created job ∧ job.id = id
  alone : ∀ n n' p p' planId, s.processes.get n = some p → s.processes.get n' = some p' →
    namesPlan planId p.call = true → namesPlan planId p'.call = true →
    p.phase.checked = true → p'.phase.checked = true → n = n'
  backed : ∀ planId id job, s.held id = some job → usesPlan planId job = true →
    (s.stored id).isSome = true ∨ OnItsWay s id

/-- A request that comes past its check has found no application listed. -/
private theorem read_checked {call : Call} {now : Timestamp} {phase phase' : Phase}
    {planId : AnsibleJobId} (hbound : Bound s call phase)
    (hread : s.read call now phase = some phase') (hnames : namesPlan planId call = true)
    (hchecked : phase'.checked = true) :
    phase.checked = true ∨ (∃ resolved policy, phase = .planMatched resolved policy planId) ∧
      s.jobList.any (usesPlan planId) = false := by
  cases call with
  | reconcile role sourceId => cases hnames
  | produce producer => cases hnames
  | create role request =>
    simp only [namesPlan, Bool.and_eq_true, decide_eq_true_eq] at hnames
    obtain ⟨⟨hoperation, hmode⟩, happroved⟩ := hnames
    cases phase with
    | arrived =>
      simp only [Service.read, Phase.readsStore, if_true, Service.readStore] at hread
      split at hread <;> (cases hread; cases hchecked)
    | resolved resolved =>
      simp only [Service.read, Phase.readsStore, if_true, Service.readStore] at hread
      split at hread <;> (cases hread; cases hchecked)
    | windowsChecked resolved =>
      simp only [Service.read, Phase.readsStore, if_true, Service.readStore] at hread
      split at hread
      · cases hread
        cases hchecked
      · rename_i hpolicy
        rcases checkPolicy_ok hpolicy with ⟨hother, -⟩ | ⟨_, _, -, -, -, hnone⟩
        · exact absurd hoperation hother
        · cases hnone
      · cases hread
        cases hchecked
    | policyLoaded resolved policy =>
      simp only [Service.read, Phase.readsStore, if_true, Service.readStore] at hread
      split at hread
      · split at hread
        · cases hread
          cases hchecked
        · rename_i hpackages
          rcases checkPackages_ok hpackages with ⟨hplan, -⟩ | ⟨_, -, hsome, -⟩
          · rw [hmode] at hplan
            cases hplan
          · cases hsome
        · cases hread
          cases hchecked
      · cases hread
    | planNamed resolved policy named =>
      simp only [Service.read, Phase.readsStore, Bool.false_eq_true, if_false,
        Service.readJobs] at hread
      split at hread
      · cases hread
        cases hchecked
      · split at hread <;> (cases hread; cases hchecked)
    | planMatched resolved policy named =>
      obtain ⟨-, -, ⟨-, hnamed, -⟩, -⟩ := hbound
      obtain rfl := Option.some.inj (happroved.symm.trans hnamed)
      simp only [Service.read, Phase.readsStore, Bool.false_eq_true, if_false,
        Service.readJobs] at hread
      split at hread
      · cases hread
        cases hchecked
      · rename_i hunused
        exact .inr ⟨⟨resolved, policy, rfl⟩, by simpa using hunused⟩
    | validated asked => exact .inl rfl
    | keyUnused asked => exact .inl rfl
    | notActive asked => exact .inl rfl
    | unresolved asked => exact .inl rfl
    | unblocked asked => exact .inl rfl
    | _ => cases hread

/-- Only the loading of a plan leads to its check. -/
private theorem read_planMatched {role : ActorRole} {request : CreateAnsibleJobRequest}
    {now : Timestamp} {phase : Phase} {resolved : ResolvedTarget} {policy : UpdatePolicy}
    {planId : AnsibleJobId}
    (hread : s.read (.create role request) now phase = some (.planMatched resolved policy planId)) :
    phase = .planNamed resolved policy planId ∧ ∃ plan, s.findJob planId = some plan ∧
      planMatchesRequest plan request resolved.target policy.id = true := by
  have hvalidated : ∀ resolved', s.validatedPhase role request resolved'
      ≠ .planMatched resolved policy planId := by
    intro resolved'
    unfold Service.validatedPhase
    split <;> simp
  simp only [Service.read] at hread
  split at hread
  · unfold Service.readStore at hread
    repeat' split at hread
    all_goals first
      | exact absurd (Option.some.inj hread) (hvalidated _)
      | cases hread
  · generalize hphase' : Phase.planMatched resolved policy planId = phase' at hread
    cases jobsRead_of_readJobs hread with
    | planFound found sound =>
      obtain ⟨rfl, rfl, rfl⟩ := Phase.planMatched.inj hphase'
      exact ⟨rfl, _, found, sound⟩
    | planUnused => exact absurd hphase'.symm (hvalidated _)
    | _ => cases hphase'

theorem Phase.loaded_of_checked {phase : Phase} (h : phase.checked = true) :
    phase.loaded = true := by
  cases phase <;> first | exact h | rfl

/-- A request that has a plan loaded has found it. -/
private theorem read_loaded {role : ActorRole} {request : CreateAnsibleJobRequest}
    {now : Timestamp} {phase phase' : Phase} {planId : AnsibleJobId}
    (hbound : Bound s (.create role request) phase)
    (hread : s.read (.create role request) now phase = some phase')
    (hnames : namesPlan planId (.create role request) = true) (hloaded : phase'.loaded = true) :
    phase.loaded = true ∨ PlanThere s planId (resourceOf request) := by
  by_cases hchecked : phase'.checked = true
  · rcases read_checked hbound hread hnames hchecked with hbefore | ⟨⟨_, _, rfl⟩, -⟩
    · exact .inl (Phase.loaded_of_checked hbefore)
    · exact .inl rfl
  · have happroved : request.approvedPlanJobId = some planId := by
      simp only [namesPlan, Bool.and_eq_true, decide_eq_true_eq] at hnames
      exact hnames.2
    cases phase' with
    | planMatched resolved policy matched =>
      obtain ⟨rfl, plan, hplan, hmatches⟩ := read_planMatched hread
      obtain ⟨htarget, -, -, hnamed, -⟩ := hbound
      obtain rfl := Option.some.inj (happroved.symm.trans hnamed)
      simp only [planMatchesRequest, Bool.and_eq_true, decide_eq_true_eq] at hmatches
      exact .inr ⟨base plan, by simp [Service.stored, hplan], hmatches.1.1.2.trans htarget⟩
    | _ => exact absurd hloaded hchecked

/-! ### Steps that leave the jobs alone -/

theorem Live.of_eq {planId id : AnsibleJobId} (hheld : s'.held = s.held)
    (hstored : s'.stored = s.stored) : Live s' planId id ↔ Live s planId id := by
  unfold Live
  rw [hheld, hstored]

/-- A job that is accepted and live is the one application. -/
private theorem Exclusive.one_of_live (h : Exclusive s) {planId : AnsibleJobId}
    {entry : CreateAnsibleJobRequest × AnsibleJob} {id : AnsibleJobId} (hentry : entry ∈ s.accepted)
    (huses : usesPlan planId entry.2 = true) (hlive : Live s planId id) : entry.2.id = id := by
  rcases h.accepted planId entry hentry huses with hother | ⟨hgone, -⟩
  · exact h.unique planId _ _ hother hlive
  · obtain ⟨job, hjob, hjobUses⟩ := hlive
    obtain ⟨plan, hplan, -⟩ := h.planThere planId id job hjob hjobUses
    rw [hgone] at hplan
    cases hplan

/-- The processes after a step of one of them. -/
private theorem get_withProcess {n m : Nat} {p' q : Process} (hprocesses : s'.processes = s.processes)
    (h : (s'.withProcess n p').processes.get m = some q) :
    (m = n ∧ q = p') ∨ (m ≠ n ∧ s.processes.get m = some q) := by
  change (s'.processes.put n p').get m = some q at h
  rw [Table.get_put, hprocesses] at h
  split at h
  case isTrue heq => exact .inl ⟨heq, (Option.some.inj h).symm⟩
  case isFalse hne => exact .inr ⟨hne, h⟩

/-- What is asked of the process that takes a step without a change of the jobs. -/
private structure Settled (s : Service) (n : Nat) (p p' : Process) : Prop where
  call : p'.call = p.call
  /-- It has loaded its plan before, or the plan is there. -/
  loaded : ∀ planId role request, p.call = .create role request →
    namesPlan planId p.call = true → p'.phase.loaded = true →
      p.phase.loaded = true ∨ PlanThere s planId (resourceOf request)
  /-- It was checked before, or there is nothing to be found. -/
  checked : ∀ planId, namesPlan planId p.call = true → p'.phase.checked = true →
    p.phase.checked = true ∨ (∀ id, ¬ Live s planId id) ∧
      ∀ m q, s.processes.get m = some q → namesPlan planId q.call = true →
        q.phase.checked = false
  /-- The job it has on its way is listed. -/
  way : ∀ planId job found, p.phase = .created job → s.held job.id = some found →
    usesPlan planId found = true → (s.stored job.id).isSome = true
  keeps : ∀ job, p.phase = .created job → p'.phase.checked = false

/-- The process that takes the step is the only one that is checked for its plan. -/
private theorem Exclusive.sole (h : Exclusive s) {n m : Nat} {p p' q : Process}
    (found : s.processes.get n = some p) (hp' : Settled s n p p')
    (hq : s.processes.get m = some q) {planId : AnsibleJobId}
    (hnames : namesPlan planId p'.call = true) (hnames' : namesPlan planId q.call = true)
    (hchecked : p'.phase.checked = true) (hchecked' : q.phase.checked = true) : n = m := by
  rw [hp'.call] at hnames
  rcases hp'.checked planId hnames hchecked with hbefore | ⟨-, hfree⟩
  · exact h.alone n m p q planId found hq hnames hnames' hbefore hchecked'
  · rw [hfree m q hq hnames'] at hchecked'
    cases hchecked'

private theorem Exclusive.still (h : Exclusive s) {n : Nat} {p p' : Process}
    (found : s.processes.get n = some p) (hp' : Settled s n p p')
    (hprocesses : s'.processes = s.processes) (hheld : s'.held = s.held)
    (hstored : s'.stored = s.stored) (hmade : s'.made = s.made)
    (hdeleted : s'.deletedTargets = s.deletedTargets)
    (haccepted : ∀ entry ∈ s'.accepted, entry ∈ s.accepted ∨
      ∀ planId, usesPlan planId entry.2 = true → Live s planId entry.2.id) :
    Exclusive (s'.withProcess n p') := by
  have hlive : ∀ planId id, Live (s'.withProcess n p') planId id ↔ Live s planId id :=
    fun planId id => Live.of_eq hheld hstored
  have hthere : ∀ planId target, PlanThere s planId target →
      PlanThere (s'.withProcess n p') planId target := by
    rintro planId target ⟨plan, hplan, htarget⟩
    refine ⟨plan, ?_, htarget⟩
    change s'.stored planId = some plan
    rw [hstored]
    exact hplan
  have hlives : ∀ entry ∈ s'.accepted, ∀ planId, usesPlan planId entry.2 = true →
      Live s planId entry.2.id ∨ PlanGone s planId := by
    intro entry hentry planId huses
    rcases haccepted entry hentry with hold | hnew
    · exact h.accepted planId entry hold huses
    · exact .inl (hnew planId huses)
  refine {
    planThere := ?_, unique := ?_, accepted := ?_, one := ?_, loaded := ?_, own := ?_, alone := ?_,
    backed := ?_ }
  · intro planId id job hjob huses
    refine hthere planId job.target (h.planThere planId id job ?_ huses)
    rw [← hheld, ← hstored]
    exact hjob
  · intro planId id id' hid hid'
    exact h.unique planId id id' ((hlive planId id).mp hid) ((hlive planId id').mp hid')
  · intro planId entry hentry huses
    rcases hlives entry hentry planId huses with hl | ⟨hgone, call, plan, target, hplan, hmem, htarget⟩
    · exact .inl ((hlive _ _).mpr hl)
    · refine .inr ⟨?_, call, plan, target, ?_, ?_, htarget⟩
      · change s'.stored planId = none
        rw [hstored]
        exact hgone
      · change s'.made.get planId = _
        rw [hmade]
        exact hplan
      · change target ∈ s'.deletedTargets
        rw [hdeleted]
        exact hmem
  · intro planId entry hentry entry' hentry' huses huses'
    rcases haccepted entry hentry with hold | hnew
    · rcases haccepted entry' hentry' with hold' | hnew'
      · exact h.one planId entry hold entry' hold' huses huses'
      · exact h.one_of_live hold huses (hnew' planId huses')
    · rcases haccepted entry' hentry' with hold' | hnew'
      · exact (h.one_of_live hold' huses' (hnew planId huses)).symm
      · exact h.unique planId _ _ (hnew planId huses) (hnew' planId huses')
  · intro m q planId role request hq hcall hnames hloaded
    rcases get_withProcess hprocesses hq with ⟨rfl, rfl⟩ | ⟨-, hq⟩
    · rw [hp'.call] at hcall hnames
      rcases hp'.loaded planId role request hcall hnames hloaded with hbefore | hplan
      · exact hthere _ _ (h.loaded m p planId role request found hcall hnames hbefore)
      · exact hthere _ _ hplan
    · exact hthere _ _ (h.loaded m q planId role request hq hcall hnames hloaded)
  · intro m q planId hq hnames hchecked id hid
    have hid' := (hlive planId id).mp hid
    rcases get_withProcess hprocesses hq with ⟨rfl, rfl⟩ | ⟨-, hq⟩
    · rw [hp'.call] at hnames
      rcases hp'.checked planId hnames hchecked with hbefore | ⟨hnone, -⟩
      · obtain ⟨job, hcreated, -⟩ := h.own m p planId found hnames hbefore id hid'
        rw [hp'.keeps job hcreated] at hchecked
        cases hchecked
      · exact absurd hid' (hnone id)
    · exact h.own m q planId hq hnames hchecked id hid'
  · intro m m' q q' planId hq hq' hnames hnames' hchecked hchecked'
    rcases get_withProcess hprocesses hq with ⟨rfl, rfl⟩ | ⟨-, hold⟩
    · rcases get_withProcess hprocesses hq' with ⟨rfl, rfl⟩ | ⟨-, hold'⟩
      · rfl
      · exact h.sole found hp' hold' hnames hnames' hchecked hchecked'
    · rcases get_withProcess hprocesses hq' with ⟨rfl, rfl⟩ | ⟨-, hold'⟩
      · exact (h.sole found hp' hold hnames' hnames hchecked' hchecked).symm
      · exact h.alone m m' q q' planId hold hold' hnames hnames' hchecked hchecked'
  · intro planId id job hjob huses
    have hjob' : s.held id = some job := by
      rw [← hheld]
      exact hjob
    change (s'.stored id).isSome = true ∨ _
    rw [hstored]
    rcases h.backed planId id job hjob' huses with hrow | hway
    · exact .inl hrow
    · by_cases hown : ∃ created, p.phase = .created created ∧ created.id = id
      · obtain ⟨created, hcreated, rfl⟩ := hown
        exact .inl (hp'.way planId created job hcreated hjob' huses)
      · right
        refine hway.withProcess hprocesses (fun q hq => Option.some.inj (hq.symm.trans found)) ?_
        intro created hcreated hid
        exact hown ⟨created, hcreated, hid⟩

/-! ### The steps that make and insert jobs -/

/-- A job is new among the jobs of the service, as the coordinator makes it or as it is inserted:
what it takes for the invariant to go on. -/
private structure Joins (s s' : Service) (n : Nat) (p p' : Process) (job : AnsibleJob) : Prop where
  call : p'.call = p.call
  processes : s'.processes = s.processes
  deletedTargets : s'.deletedTargets = s.deletedTargets
  made : ∀ id entry, s.made.get id = some entry → s'.made.get id = some entry
  /-- The job is the only news. -/
  held : ∀ id found, s'.held id = some found → s.held id = some found ∨ (id = job.id ∧ found = base job)
  stored : ∀ id found, s'.stored id = some found →
    s.stored id = some found ∨ (id = job.id ∧ found = base job)
  heldStays : ∀ id found, s.held id = some found → s'.held id = some found
  storedStays : ∀ id found, s.stored id = some found → s'.stored id = some found
  /-- A plan that went with its target does not come back. -/
  gone : ∀ planId, PlanGone s planId → planId ≠ job.id
  /-- An application is one of the request, which has been checked. -/
  uses : ∀ planId, usesPlan planId job = true → namesPlan planId p.call = true ∧
    p.phase.checked = true ∧ ∃ role request, p.call = .create role request ∧
      job.target = resourceOf request
  /-- Only this job can have been on its way. -/
  way : ∀ created, p.phase = .created created → created.id = job.id
  /-- The job is on its way now, or it is listed. -/
  arrives : p'.phase = .created job ∨ (p'.phase.checked = false ∧ s'.stored job.id = some (base job))
  loaded : ∀ planId, namesPlan planId p.call = true → p'.phase.loaded = true →
    p.phase.loaded = true
  checked : ∀ planId, namesPlan planId p.call = true → p'.phase.checked = true →
    p.phase.checked = true
  accepted : ∀ entry ∈ s'.accepted, entry ∈ s.accepted ∨
    entry.2 = job ∧ s'.stored job.id = some (base job)

section

variable {n : Nat} {p p' : Process} {job : AnsibleJob} {planId : AnsibleJobId}

private theorem Joins.live (hj : Joins s s' n p p' job) {id : AnsibleJobId}
    (hlive : Live (s'.withProcess n p') planId id) :
    Live s planId id ∨ (id = job.id ∧ usesPlan planId job = true) := by
  obtain ⟨other, hother, huses⟩ := hlive
  rcases hother with hother | hother
  · rcases hj.held id other hother with hold | ⟨hid, rfl⟩
    · exact .inl ⟨other, .inl hold, huses⟩
    · exact .inr ⟨hid, huses⟩
  · rcases hj.stored id other hother with hold | ⟨hid, rfl⟩
    · exact .inl ⟨other, .inr hold, huses⟩
    · exact .inr ⟨hid, huses⟩

private theorem Joins.stays (hj : Joins s s' n p p' job) {id : AnsibleJobId}
    (hlive : Live s planId id) : Live (s'.withProcess n p') planId id := by
  obtain ⟨other, hother, huses⟩ := hlive
  rcases hother with hother | hother
  · exact ⟨other, .inl (hj.heldStays id other hother), huses⟩
  · exact ⟨other, .inr (hj.storedStays id other hother), huses⟩

private theorem Joins.planThere (hj : Joins s s' n p p' job) {target : ResourceTarget}
    (hthere : PlanThere s planId target) : PlanThere (s'.withProcess n p') planId target := by
  obtain ⟨plan, hplan, htarget⟩ := hthere
  exact ⟨plan, hj.storedStays planId plan hplan, htarget⟩

/-- A plan that went with its target is still gone. -/
private theorem Joins.planGone (hj : Joins s s' n p p' job) (hgone : PlanGone s planId) :
    PlanGone (s'.withProcess n p') planId := by
  have hne := hj.gone planId hgone
  obtain ⟨hnone, call, plan, target, hmade, hdeleted, htarget⟩ := hgone
  refine ⟨?_, call, plan, target, hj.made _ _ hmade, ?_, htarget⟩
  · cases hstored : (s'.withProcess n p').stored planId with
    | none => rfl
    | some plan =>
      rcases hj.stored planId plan hstored with hplan | ⟨heq, -⟩
      · rw [hnone] at hplan
        cases hplan
      · exact absurd heq hne
  · change target ∈ s'.deletedTargets
    rw [hj.deletedTargets]
    exact hdeleted

/-- A process past its check was past it before. -/
private theorem Joins.checkedBefore (hj : Joins s s' n p p' job)
    (found : s.processes.get n = some p) {m : Nat} {q : Process}
    (hq : (s'.withProcess n p').processes.get m = some q) (hnames : namesPlan planId q.call = true)
    (hchecked : q.phase.checked = true) : ∃ before, s.processes.get m = some before ∧
      namesPlan planId before.call = true ∧ before.phase.checked = true := by
  rcases get_withProcess hj.processes hq with ⟨rfl, rfl⟩ | ⟨-, hq⟩
  · rw [hj.call] at hnames
    exact ⟨p, found, hnames, hj.checked planId hnames hchecked⟩
  · exact ⟨q, hq, hnames, hchecked⟩

/-- The plan that the job applies is there. -/
private theorem Exclusive.planOf (h : Exclusive s) (found : s.processes.get n = some p)
    (hj : Joins s s' n p p' job) (huses : usesPlan planId job = true) :
    PlanThere s planId job.target := by
  obtain ⟨hnames, hchecked, role, request, hcall, htarget⟩ := hj.uses planId huses
  rw [htarget]
  exact h.loaded n p planId role request found hcall hnames (Phase.loaded_of_checked hchecked)

/-- An older application of its plan is the job, on its way. -/
private theorem Exclusive.liveOf (h : Exclusive s) (found : s.processes.get n = some p)
    (hj : Joins s s' n p p' job) (huses : usesPlan planId job = true) {id : AnsibleJobId}
    (hid : Live s planId id) : id = job.id := by
  obtain ⟨hnames, hchecked, -⟩ := hj.uses planId huses
  obtain ⟨created, hcreated, rfl⟩ := h.own n p planId found hnames hchecked id hid
  exact hj.way created hcreated

/-- An older application that was accepted is the job. -/
private theorem Exclusive.acceptedOf (h : Exclusive s) (found : s.processes.get n = some p)
    (hj : Joins s s' n p p' job) (huses : usesPlan planId job = true) :
    ∀ entry ∈ s.accepted, usesPlan planId entry.2 = true → entry.2.id = job.id := by
  intro entry hentry hother
  rcases h.accepted planId entry hentry hother with hlive | ⟨hgone, -⟩
  · exact h.liveOf found hj huses hlive
  · obtain ⟨plan, hplan, -⟩ := h.planOf found hj huses
    rw [hgone] at hplan
    cases hplan

/-- The job that arrives is on its way, or it is listed. -/
private theorem Joins.backed (hj : Joins s s' n p p' job) :
    ((s'.withProcess n p').stored job.id).isSome = true ∨
      OnItsWay (s'.withProcess n p') job.id := by
  rcases hj.arrives with hcreated | ⟨-, hrow⟩
  · exact .inr ⟨n, p', job, Table.get_put_self .., hcreated, rfl⟩
  · left
    change (s'.stored job.id).isSome = true
    rw [hrow]
    rfl

private theorem Exclusive.joins (h : Exclusive s) (found : s.processes.get n = some p)
    (hj : Joins s s' n p p' job) : Exclusive (s'.withProcess n p') := by
  refine {
    planThere := ?_, unique := ?_, accepted := ?_, one := ?_, loaded := ?_, own := ?_, alone := ?_,
    backed := ?_ }
  · intro planId id other hother huses
    have hcases : (s.held id = some other ∨ s.stored id = some other) ∨ other = base job := by
      rcases hother with hother | hother
      · rcases hj.held id other hother with hold | ⟨-, heq⟩
        · exact .inl (.inl hold)
        · exact .inr heq
      · rcases hj.stored id other hother with hold | ⟨-, heq⟩
        · exact .inl (.inr hold)
        · exact .inr heq
    rcases hcases with hold | rfl
    · exact hj.planThere (h.planThere planId id other hold huses)
    · have hplan : PlanThere s planId job.target := h.planOf found hj huses
      exact hj.planThere hplan
  · intro planId id id' hid hid'
    rcases hj.live hid with hl | ⟨rfl, huses⟩
    · rcases hj.live hid' with hl' | ⟨rfl, huses'⟩
      · exact h.unique planId id id' hl hl'
      · exact h.liveOf found hj huses' hl
    · rcases hj.live hid' with hl' | ⟨rfl, -⟩
      · exact (h.liveOf found hj huses hl').symm
      · rfl
  · intro planId entry hentry huses
    rcases hj.accepted entry hentry with hmem | ⟨heq, hrow⟩
    · exact (h.accepted planId entry hmem huses).imp hj.stays hj.planGone
    · rw [heq] at huses ⊢
      exact .inl ⟨base job, .inr hrow, huses⟩
  · intro planId entry hentry entry' hentry' huses huses'
    rcases hj.accepted entry hentry with hmem | ⟨heq, -⟩
    · rcases hj.accepted entry' hentry' with hmem' | ⟨heq', -⟩
      · exact h.one planId entry hmem entry' hmem' huses huses'
      · rw [heq'] at huses' ⊢
        exact h.acceptedOf found hj huses' entry hmem huses
    · rw [heq] at huses ⊢
      rcases hj.accepted entry' hentry' with hmem' | ⟨heq', -⟩
      · exact (h.acceptedOf found hj huses entry' hmem' huses').symm
      · rw [heq']
  · intro m q planId role request hq hcall hnames hloaded
    rcases get_withProcess hj.processes hq with ⟨rfl, rfl⟩ | ⟨-, hbefore⟩
    · rw [hj.call] at hcall hnames
      exact hj.planThere (h.loaded m p planId role request found hcall hnames
        (hj.loaded planId hnames hloaded))
    · exact hj.planThere (h.loaded m q planId role request hbefore hcall hnames hloaded)
  · intro m q planId hq hnames hchecked id hid
    rcases get_withProcess hj.processes hq with ⟨rfl, rfl⟩ | ⟨hne, hbefore⟩
    · rcases hj.arrives with hcreated | ⟨hnot, -⟩
      · refine ⟨job, hcreated, ?_⟩
        rcases hj.live hid with hl | ⟨rfl, -⟩
        · -- an older application is the one it had on its way
          rw [hj.call] at hnames
          obtain ⟨created, hbefore, rfl⟩ :=
            h.own m p planId found hnames (hj.checked planId hnames hchecked) id hl
          exact (hj.way created hbefore).symm
        · rfl
      · rw [hnot] at hchecked
        cases hchecked
    · rcases hj.live hid with hl | ⟨rfl, huses⟩
      · exact h.own m q planId hbefore hnames hchecked id hl
      · obtain ⟨hnames', hchecked', -⟩ := hj.uses planId huses
        exact absurd (h.alone m n q p planId hbefore found hnames hnames' hchecked hchecked') hne
  · intro m m' q q' planId hq hq' hnames hnames' hchecked hchecked'
    obtain ⟨q₀, hq₀, hn₀, hc₀⟩ := hj.checkedBefore found hq hnames hchecked
    obtain ⟨q₁, hq₁, hn₁, hc₁⟩ := hj.checkedBefore found hq' hnames' hchecked'
    exact h.alone m m' q₀ q₁ planId hq₀ hq₁ hn₀ hn₁ hc₀ hc₁
  · intro planId id other hother huses
    by_cases hid : id = job.id
    · rw [hid]
      exact hj.backed
    · rcases hj.held id other hother with hold | ⟨heq, -⟩
      · rcases h.backed planId id other hold huses with hrow | hway
        · obtain ⟨row, hrow⟩ := Option.isSome_iff_exists.mp hrow
          left
          change (s'.stored id).isSome = true
          rw [hj.storedStays id row hrow]
          rfl
        · right
          refine hway.withProcess hj.processes
            (fun q hq => Option.some.inj (hq.symm.trans found)) ?_
          intro created hcreated hcreatedId
          exact hid (hcreatedId.symm.trans (hj.way created hcreated))
      · exact absurd heq hid

end

/-- A call that names a plan is a request. -/
private theorem create_of_namesPlan {planId : AnsibleJobId} {call : Call}
    (h : namesPlan planId call = true) : ∃ role request, call = .create role request := by
  cases call with
  | create role request => exact ⟨role, request, rfl⟩
  | reconcile role sourceId => cases h
  | produce producer => cases h

/-- A request submits a request. -/
private theorem free_of_origin {planId : AnsibleJobId} {call : Call} {input : Input}
    {phase : Phase} {job : AnsibleJob} (hbound : Bound s call phase)
    (origin : Origin input phase job) (hnames : namesPlan planId call = true) :
    phase.checked = true := by
  obtain ⟨role, request, rfl⟩ := create_of_namesPlan hnames
  cases origin with
  | request accepts => rfl
  | source => exact hbound.elim

private theorem joins_made (hsound : Sound s) {n : Nat} {input : Input} {call : Call}
    {phase : Phase} {job : AnsibleJob} {locks : Table ResourceTarget AnsibleJobId}
    {seen reads : List StoreView} (hbound : Bound s call phase)
    (hfresh : s.made.get input.newId = none) (origin : Origin input phase job)
    (access : Access s call input phase (s.withMade locks call job input.now)
      ((s.registered locks job input.now).afterCreated call job).2) :
    Joins s (s.withMade locks call job input.now) n ⟨call, phase, seen⟩
      ⟨call, ((s.registered locks job input.now).afterCreated call job).2, reads⟩ job := by
  have hfresh' : s.made.get job.id = none := origin.job.1 ▸ hfresh
  have hframe := access.frame
  have hheldNew : ∀ id found, s.held id = some found → id ≠ job.id := by
    rintro id found hfound rfl
    obtain ⟨call, hmade⟩ := hsound.held _ _ hfound
    rw [hfresh'] at hmade
    cases hmade
  have hstoredNew : ∀ id found, s.stored id = some found → id ≠ job.id := by
    rintro id found hfound rfl
    obtain ⟨call, hmade⟩ := hsound.stored _ _ hfound
    rw [hfresh'] at hmade
    cases hmade
  have hphase := (s.registered locks job input.now).afterCreated_cases call job
  refine {
    call := rfl, processes := hframe.processes, deletedTargets := hframe.deletedTargets,
    made := (access.extends hfresh).made, held := ?_, stored := ?_, heldStays := ?_,
    storedStays := ?_, gone := ?_, uses := ?_, way := ?_, arrives := ?_, loaded := ?_,
    checked := ?_, accepted := ?_ }
  · intro id found hfound
    rw [Service.withMade_held] at hfound
    split at hfound
    case isTrue heq => exact .inr ⟨heq, (Option.some.inj hfound).symm⟩
    case isFalse => exact .inl hfound
  · intro id found hfound
    rw [Service.withMade_stored] at hfound
    split at hfound
    · exact .inl hfound
    · split at hfound
      case isTrue heq => exact .inr ⟨heq, (Option.some.inj hfound).symm⟩
      case isFalse => exact .inl hfound
  · intro id found hfound
    rw [Service.withMade_held, if_neg (hheldNew id found hfound)]
    exact hfound
  · intro id found hfound
    rw [Service.withMade_stored, if_neg (hstoredNew id found hfound), ite_self]
    exact hfound
  · rintro planId ⟨-, call, plan, target, hmade, -⟩ rfl
    rw [hfresh'] at hmade
    cases hmade
  · intro planId huses
    obtain ⟨hnames, hcall⟩ := namesPlan_of_makes (hbound.makes origin) huses
    exact ⟨hnames, free_of_origin hbound origin hnames, hcall⟩
  · rintro created rfl
    cases origin
  · rcases hphase with ⟨-, -, heq⟩ | ⟨hnone, -, heq⟩
    · exact .inl heq
    · right
      have hnone' : s.database = none := hnone
      refine ⟨?_, ?_⟩
      · dsimp only
        rw [heq]
        rfl
      · rw [Service.withMade_stored, hnone', if_neg (by simp), if_pos rfl]
  · intro planId hnames _
    exact Phase.loaded_of_checked (free_of_origin hbound origin hnames)
  · intro planId hnames _
    exact free_of_origin hbound origin hnames
  · intro entry hentry
    rcases (Service.mem_withMade_accepted ..).mp hentry with hold | ⟨hnone, -, -, heq⟩
    · exact .inl hold
    · refine .inr ⟨heq, ?_⟩
      rw [Service.withMade_stored, hnone, if_neg (by simp), if_pos rfl]

private theorem joins_inserted (hsound : Sound s) {n : Nat} {call : Call} {job : AnsibleJob}
    {db : JobDatabase} {jobs : JobTable} {phase' : Phase} {seen reads : List StoreView}
    (hbound : Bound s call (.created job)) (persistent : s.database = some db)
    (row : JobTable.save db.targets db.jobs job = .ok jobs)
    (next : phase' = .saved job ∨
      (phase' = .answered (.ok (202, job)) ∧ ∃ producer, call = .produce producer)) :
    Joins s ((s.withRow db jobs).accept call job) n ⟨call, .created job, seen⟩
      ⟨call, phase', reads⟩ job := by
  have hstored : ∀ id, ((s.withRow db jobs).accept call job).stored id
      = if id = job.id then some (base job) else s.stored id := by
    intro id
    rw [Service.accept_stored]
    exact Service.withRow_stored persistent row id
  have hphase : phase'.checked = false ∧ phase'.loaded = false := by
    rcases next with rfl | ⟨rfl, -⟩
    · exact ⟨rfl, rfl⟩
    · exact ⟨rfl, rfl⟩
  refine {
    call := rfl, processes := Service.accept_processes .., deletedTargets :=
      Service.accept_deletedTargets .., made := ?_, held := ?_, stored := ?_, heldStays := ?_,
    storedStays := ?_, gone := ?_, uses := ?_, way := ?_, arrives := ?_, loaded := ?_,
    checked := ?_, accepted := ?_ }
  · intro id entry hentry
    rw [Service.accept_made]
    exact hentry
  · intro id found hfound
    rw [Service.accept_held] at hfound
    exact .inl hfound
  · intro id found hfound
    rw [hstored] at hfound
    split at hfound
    case isTrue heq => exact .inr ⟨heq, (Option.some.inj hfound).symm⟩
    case isFalse => exact .inl hfound
  · intro id found hfound
    rw [Service.accept_held]
    exact hfound
  · intro id found hfound
    have hne : id ≠ job.id := by
      rintro rfl
      rw [Service.stored_database persistent, (JobTable.save_ok row).1] at hfound
      cases hfound
    rw [hstored, if_neg hne]
    exact hfound
  · rintro planId ⟨-, made, plan, target, hmade, hdeleted, htarget⟩ rfl
    -- its target has no row
    obtain ⟨_, hknown⟩ := (hbound.checked_created hsound).1
    rw [hknown] at hmade
    have hplan : base job = plan := (Prod.mk.inj (Option.some.inj hmade)).2
    have htarget' : job.target = .target target := by
      rw [← hplan] at htarget
      exact htarget
    have hthere := JobTable.targetMissing_of_save row
    rw [htarget', JobTable.targetMissing] at hthere
    exact hsound.store.rows db persistent target (by simpa using hthere) hdeleted
  · intro planId huses
    obtain ⟨hnames, hcall⟩ := namesPlan_of_created hsound hbound huses
    exact ⟨hnames, rfl, hcall⟩
  · intro created hcreated
    obtain rfl := Phase.created.inj hcreated
    rfl
  · right
    refine ⟨hphase.1, ?_⟩
    rw [hstored, if_pos rfl]
  · intro planId _ hloaded
    rw [hphase.2] at hloaded
    cases hloaded
  · intro planId _ hchecked
    rw [hphase.1] at hchecked
    cases hchecked
  · intro entry hentry
    rcases Service.mem_accept.mp hentry with hold | ⟨-, -, heq⟩
    · exact .inl hold
    · refine .inr ⟨heq, ?_⟩
      rw [hstored, if_pos rfl]

/-! ### Every step keeps the invariant -/

/-- A process that is done with its plan. -/
private theorem Settled.of_unchecked {n : Nat} {p p' : Process} (hcall : p'.call = p.call)
    (hloaded : p'.phase.loaded = false)
    (way : ∀ planId job found, p.phase = .created job → s.held job.id = some found →
      usesPlan planId found = true → (s.stored job.id).isSome = true) : Settled s n p p' := by
  have hchecked : p'.phase.checked = false := by
    cases hphase : p'.phase.checked with
    | false => rfl
    | true =>
      rw [Phase.loaded_of_checked hphase] at hloaded
      cases hloaded
  refine ⟨hcall, ?_, ?_, way, fun _ _ => hchecked⟩
  · intro planId role request _ _ h
    rw [hloaded] at h
    cases h
  · intro planId _ h
    rw [hchecked] at h
    cases h

/-- A call that names no plan. -/
private theorem Settled.of_unnamed {n : Nat} {p p' : Process} (hcall : p'.call = p.call)
    (hnames : ∀ planId, namesPlan planId p.call = false)
    (hphase : ∀ job, p.phase ≠ .created job) : Settled s n p p' := by
  refine ⟨hcall, ?_, ?_, fun _ job _ h => absurd h (hphase job), fun job h => absurd h (hphase job)⟩
  · intro planId role request _ h
    rw [hnames] at h
    cases h
  · intro planId h
    rw [hnames] at h
    cases h

private theorem Settled.read (h : Exclusive s) (hsound : Sound s) {n : Nat} {input : Input}
    {p : Process} {phase' : Phase} {reads : List StoreView} (hbound : Bound s p.call p.phase)
    (hread : s.read p.call input.now p.phase = some phase')
    (hok : oneAtATime s input p = true) :
    Settled s n p { p with phase := phase', reads := reads } := by
  have hphase : ∀ job, p.phase ≠ .created job := by
    intro job hcreated
    rw [hcreated, Service.read_of_written rfl] at hread
    cases hread
  refine ⟨rfl, ?_, ?_, fun _ job _ hcreated => absurd hcreated (hphase job),
    fun job hcreated => absurd hcreated (hphase job)⟩
  · intro planId role request hcall hnames hloaded
    rw [hcall] at hbound hread hnames
    exact read_loaded hbound hread hnames hloaded
  · intro planId hnames hchecked
    rcases read_checked hbound hread hnames hchecked with hbefore | ⟨⟨resolved, policy, hp⟩, hnone⟩
    · exact .inl hbefore
    · right
      have hfree : ∀ m q, s.processes.get m = some q → namesPlan planId q.call = true →
          q.phase.checked = false := by
        intro m q hq hq'
        simp only [oneAtATime, hp, Bool.not_eq_true', Table.any_eq_false] at hok
        simpa [hq'] using hok m q hq
      have hlisted : ∀ id job, s.stored id = some job → usesPlan planId job = false := by
        intro id job hjob
        rw [← Bool.not_eq_true]
        intro huses
        have hany := Service.jobList_any_usesPlan.mpr ⟨id, job, hjob, huses⟩
        rw [hnone] at hany
        cases hany
      refine ⟨?_, hfree⟩
      rintro id ⟨job, hheld | hrow, huses⟩
      · rcases h.backed planId id job hheld huses with hrow | ⟨m, q, created, hq, hcreated, rfl⟩
        · obtain ⟨row, hrow⟩ := Option.isSome_iff_exists.mp hrow
          obtain ⟨call, hmade⟩ := hsound.held id job hheld
          obtain ⟨call', hmade'⟩ := hsound.stored id row hrow
          rw [hmade] at hmade'
          have heq : job = row := (Prod.mk.inj (Option.some.inj hmade')).2
          rw [heq, hlisted id row hrow] at huses
          cases huses
        · -- a request that has it on its way names the plan
          have hcreatedBound := hsound.bound m q hq
          rw [hcreated] at hcreatedBound
          obtain ⟨_, hknown⟩ := (hcreatedBound.checked_created hsound).1
          obtain ⟨_, hmade⟩ := hsound.held created.id job hheld
          rw [hknown] at hmade
          have heq : base created = job := (Prod.mk.inj (Option.some.inj hmade)).2
          rw [← heq] at huses
          obtain ⟨hq', -⟩ := namesPlan_of_created hsound hcreatedBound huses
          have hnot := hfree m q hq hq'
          rw [hcreated] at hnot
          cases hnot
      · rw [hlisted id job hrow] at huses
        cases huses

/-- An insert that is refused is not that of an application. -/
private theorem way_of_refused (hsound : Sound s) {input : Input} {p : Process}
    (hbound : Bound s p.call p.phase)
    (lost : ∀ job, p.phase = .created job → s.insertFails job input.fails = true)
    (hok : oneAtATime s input p = true) :
    ∀ planId job found, p.phase = .created job → s.held job.id = some found →
      usesPlan planId found = true → (s.stored job.id).isSome = true := by
  intro planId job found hcreated hheld huses
  rw [hcreated] at hbound
  obtain ⟨_, hknown⟩ := (hbound.checked_created hsound).1
  obtain ⟨_, hmade⟩ := hsound.held job.id found hheld
  rw [hknown] at hmade
  have heq : base job = found := (Prod.mk.inj (Option.some.inj hmade)).2
  rw [← heq] at huses
  obtain ⟨hoperation, hmode, -⟩ := usesPlan_iff.mp huses
  have hoperation' : job.operation = .updatePackages := hoperation
  have hmode' : job.mode = .apply := hmode
  simp [oneAtATime, hcreated, lost job hcreated, hoperation', hmode'] at hok

private theorem appendPhase_loaded (job : AnsibleJob) (events : List JobEvent) :
    (Service.appendPhase job events).loaded = false := by
  cases events <;> rfl

private theorem Exclusive.advance (h : Exclusive s) (hsound : Sound s) {n : Nat} {input : Input}
    {p : Process} {phase : Phase} {reads : List StoreView} (found : s.processes.get n = some p)
    (hfresh : s.made.get input.newId = none) (access : Access s p.call input p.phase s' phase)
    (hok : oneAtATime s input p = true) :
    Exclusive (s'.withProcess n { p with phase := phase, reads := reads }) := by
  have hbound := hsound.bound n p found
  have hframe := access.frame
  obtain ⟨call, before, seen⟩ := p
  dsimp only at access hbound
  -- the job of an answer is live when it is an application
  have haccept : ∀ {job : AnsibleJob}, (s.held job.id = some (base job) ∨
      s.stored job.id = some (base job)) → ∀ entry ∈ (s.accept call job).accepted,
        entry ∈ s.accepted ∨ ∀ planId, usesPlan planId entry.2 = true →
          Live s planId entry.2.id := by
    intro job hjob entry hentry
    rcases Service.mem_accept.mp hentry with hold | ⟨-, -, heq⟩
    · exact .inl hold
    · right
      intro planId huses
      rw [heq] at huses ⊢
      exact ⟨base job, hjob, huses⟩
  cases access with
  | read next open' =>
    exact h.still found (Settled.read h hsound hbound next hok) rfl rfl rfl rfl rfl
      fun entry hentry => .inl hentry
  | refused lost =>
    exact h.still found (.of_unchecked rfl rfl (way_of_refused hsound hbound lost hok)) rfl rfl rfl
      rfl rfl fun entry hentry => .inl hentry
  | @found _ _ asked db job isCreate persistent row =>
    obtain ⟨-, -, -, hrow⟩ := hsound.known_of_key persistent row
    refine h.still found (.of_unchecked rfl rfl fun _ _ _ hcreated => by cases hcreated)
      hframe.processes (Service.accept_held ..) (Service.accept_stored ..) (Service.accept_made ..)
      hframe.deletedTargets (haccept (.inr ?_))
    rw [Service.stored_database persistent, hrow]
    rfl
  | foundSource isReconcile persistent row =>
    exact h.still found (.of_unchecked rfl rfl fun _ _ _ hcreated => by cases hcreated) rfl rfl rfl
      rfl rfl fun entry hentry => .inl hentry
  | made origin unused locked =>
    exact h.joins found (joins_made hsound hbound hfresh origin (.made origin unused locked))
  | @duplicate asked id job entry known =>
    obtain ⟨-, -, -, rfl⟩ := hsound.known_of_entry entry known
    refine h.still found (.of_unchecked rfl rfl fun _ _ _ hcreated => by cases hcreated)
      hframe.processes (Service.accept_held ..) (Service.accept_stored ..) (Service.accept_made ..)
      hframe.deletedTargets (haccept (.inl ?_))
    rw [Service.held, known]
    rfl
  | duplicateSource entry known =>
    refine h.still found (.of_unnamed rfl (fun planId => ?_) (by simp)) rfl rfl rfl
      rfl rfl fun entry hentry => .inl hentry
    cases call with
    | create role request => exact hbound.elim
    | reconcile role sourceId => rfl
    | produce producer => rfl
  | inserted persistent row next =>
    exact h.joins found (joins_inserted hsound hbound persistent row next)
  | listed known =>
    exact h.still found (.of_unchecked rfl (appendPhase_loaded _ _)
      fun _ _ _ hcreated => by cases hcreated) rfl rfl rfl rfl rfl fun entry hentry => .inl hentry
  | appended persistent row =>
    exact h.still found (.of_unchecked rfl (appendPhase_loaded _ _)
      fun _ _ _ hcreated => by cases hcreated) rfl rfl
      (Service.appendEvent_stored persistent row).1 rfl rfl fun entry hentry => .inl hentry

private theorem Exclusive.quiet (h : Exclusive s) (hquiet : Quiet s s') : Exclusive s' := by
  have hlive : ∀ planId id, Live s' planId id ↔ Live s planId id :=
    fun planId id => Live.of_eq hquiet.held hquiet.stored
  refine {
    planThere := ?_, unique := ?_, accepted := ?_, one := ?_, loaded := ?_, own := ?_, alone := ?_,
    backed := ?_ }
  · rw [hquiet.held, hquiet.stored]
    unfold PlanThere
    rw [hquiet.stored]
    exact h.planThere
  · intro planId id id' hid hid'
    exact h.unique planId id id' ((hlive _ _).mp hid) ((hlive _ _).mp hid')
  · rw [hquiet.accepted]
    intro planId entry hentry huses
    rcases h.accepted planId entry hentry huses with hl | hg
    · exact .inl ((hlive _ _).mpr hl)
    · right
      unfold PlanGone
      rw [hquiet.stored, hquiet.made, hquiet.deletedTargets]
      exact hg
  · unfold OneApplication
    rw [hquiet.accepted]
    exact h.one
  · rw [hquiet.processes]
    unfold PlanThere
    rw [hquiet.stored]
    exact h.loaded
  · rw [hquiet.processes]
    intro n p planId hp hnames hchecked id hid
    exact h.own n p planId hp hnames hchecked id ((hlive _ _).mp hid)
  · rw [hquiet.processes]
    exact h.alone
  · rw [hquiet.held, hquiet.stored]
    unfold OnItsWay
    rw [hquiet.processes]
    exact h.backed

private theorem Exclusive.arrive (h : Exclusive s) {n : Nat} {call : Call}
    (unused : s.processes.get n = none) :
    Exclusive (s.withProcess n ⟨call, .arrived, []⟩) := by
  have hget : ∀ {m q}, (s.withProcess n ⟨call, .arrived, []⟩).processes.get m = some q →
      q.phase.loaded = true → s.processes.get m = some q := by
    intro m q hq hloaded
    rcases get_withProcess rfl hq with ⟨-, rfl⟩ | ⟨-, hq⟩
    · cases hloaded
    · exact hq
  refine {
    planThere := h.planThere, unique := h.unique, accepted := h.accepted, one := h.one,
    loaded := ?_, own := ?_, alone := ?_, backed := ?_ }
  · intro m q planId role request hq hcall hnames hloaded
    exact h.loaded m q planId role request (hget hq hloaded) hcall hnames hloaded
  · intro m q planId hq hnames hchecked
    exact h.own m q planId (hget hq (Phase.loaded_of_checked hchecked)) hnames hchecked
  · intro m m' q q' planId hq hq' hnames hnames' hchecked hchecked'
    exact h.alone m m' q q' planId (hget hq (Phase.loaded_of_checked hchecked))
      (hget hq' (Phase.loaded_of_checked hchecked')) hnames hnames' hchecked hchecked'
  · intro planId id job hheld huses
    rcases h.backed planId id job hheld huses with hrow | ⟨m, q, created, hq, hcreated, hid⟩
    · exact .inl hrow
    · refine .inr ⟨m, q, created, ?_, hcreated, hid⟩
      have hne : m ≠ n := by
        rintro rfl
        rw [unused] at hq
        cases hq
      change (s.processes.put n _).get m = some q
      rw [Table.get_put_ne _ _ hne]
      exact hq

private theorem Exclusive.delete (h : Exclusive s) (hsound : Sound s) {targetId : TargetId}
    (hok : s.processes.any (fun _ p => appliesTo targetId p) = false) :
    Exclusive (s.withoutTarget targetId) := by
  have hheld : ∀ {id job}, (s.withoutTarget targetId).held id = some job ↔
      s.held id = some job ∧ job.target ≠ .target targetId :=
    fun {id job} => Service.withoutTarget_held hsound.wellKept
  have hstored : ∀ {id job}, (s.withoutTarget targetId).stored id = some job ↔
      s.stored id = some job ∧ job.target ≠ .target targetId :=
    fun {id job} => Service.withoutTarget_stored hsound.wellKept
  have hlive : ∀ {planId id}, Live (s.withoutTarget targetId) planId id → Live s planId id := by
    rintro planId id ⟨job, hjob | hjob, huses⟩
    · exact ⟨job, .inl (hheld.mp hjob).1, huses⟩
    · exact ⟨job, .inr (hstored.mp hjob).1, huses⟩
  have hthere : ∀ {planId target}, PlanThere s planId target → target ≠ .target targetId →
      PlanThere (s.withoutTarget targetId) planId target := by
    rintro planId target ⟨plan, hplan, htarget⟩ hne
    exact ⟨plan, hstored.mpr ⟨hplan, htarget ▸ hne⟩, htarget⟩
  refine {
    planThere := ?_, unique := ?_, accepted := ?_, one := h.one, loaded := ?_, own := ?_,
    alone := h.alone, backed := ?_ }
  · intro planId id job hjob huses
    rcases hjob with hjob | hjob
    · obtain ⟨hold, hne⟩ := hheld.mp hjob
      exact hthere (h.planThere planId id job (.inl hold) huses) hne
    · obtain ⟨hold, hne⟩ := hstored.mp hjob
      exact hthere (h.planThere planId id job (.inr hold) huses) hne
  · intro planId id id' hid hid'
    exact h.unique planId id id' (hlive hid) (hlive hid')
  · intro planId entry hentry huses
    rcases h.accepted planId entry hentry huses with ⟨job, hjob, hjobUses⟩ | hg
    · obtain ⟨plan, hplan, htarget⟩ := h.planThere planId _ job hjob hjobUses
      by_cases hgone : job.target = .target targetId
      · -- the plan is for the same target and goes with it
        right
        obtain ⟨call, hmade⟩ := hsound.stored planId plan hplan
        refine ⟨?_, call, plan, targetId, hmade, ?_, htarget.trans hgone⟩
        · cases hafter : (s.withoutTarget targetId).stored planId with
          | none => rfl
          | some other =>
            obtain ⟨hother, hne⟩ := hstored.mp hafter
            obtain rfl := Option.some.inj (hplan.symm.trans hother)
            exact absurd (htarget.trans hgone) hne
        · exact List.mem_append_right _ (List.mem_singleton_self _)
      · left
        rcases hjob with hjob | hjob
        · exact ⟨job, .inl (hheld.mpr ⟨hjob, hgone⟩), hjobUses⟩
        · exact ⟨job, .inr (hstored.mpr ⟨hjob, hgone⟩), hjobUses⟩
    · obtain ⟨hnone, call, plan, target, hmade, hmem, htarget⟩ := hg
      refine .inr ⟨?_, call, plan, target, hmade, List.mem_append_left _ hmem, htarget⟩
      cases hafter : (s.withoutTarget targetId).stored planId with
      | none => rfl
      | some other =>
        rw [(hstored.mp hafter).1] at hnone
        cases hnone
  · intro n p planId role request hp hcall hnames hloaded
    refine hthere (h.loaded n p planId role request hp hcall hnames hloaded) fun htarget => ?_
    have hnot := Table.any_eq_false.mp hok n p hp
    rw [hcall] at hnames
    simp only [namesPlan, Bool.and_eq_true, decide_eq_true_eq] at hnames
    simp [appliesTo, hcall, hnames.1.1, hnames.1.2, htarget, hloaded] at hnot
  · intro n p planId hp hnames hchecked id hid
    exact h.own n p planId hp hnames hchecked id (hlive hid)
  · intro planId id job hjob huses
    obtain ⟨hold, hne⟩ := hheld.mp hjob
    rcases h.backed planId id job hold huses with hrow | hway
    · obtain ⟨row, hrow⟩ := Option.isSome_iff_exists.mp hrow
      obtain rfl := hsound.same_target hold hrow
      left
      rw [hstored.mpr ⟨hrow, hne⟩]
      rfl
    · exact .inr hway

theorem exclusive_of_oneAtATime (h : serviceMachine.Reach OneAtATime s) : Exclusive s := by
  refine h.invariant (I := Exclusive) ?_ ?_
  · rintro s ⟨configured, persistent, rfl⟩
    have hsound := sound_fresh configured persistent
    have hnone : ∀ id job, ¬ ((Service.fresh configured persistent).held id = some job ∨
        (Service.fresh configured persistent).stored id = some job) := by
      rintro id job (hjob | hjob)
      · obtain ⟨_, hmade⟩ := hsound.held id job hjob
        simp [Service.fresh] at hmade
      · obtain ⟨_, hmade⟩ := hsound.stored id job hjob
        simp [Service.fresh] at hmade
    exact {
      planThere := fun _ id job hjob => absurd hjob (hnone id job)
      unique := by
        rintro _ id _ ⟨job, hjob, _⟩
        exact absurd hjob (hnone id job)
      accepted := fun _ entry hentry => by simp [Service.fresh] at hentry
      one := fun _ entry hentry => by simp [Service.fresh] at hentry
      loaded := fun n p _ _ _ hp => by simp [Service.fresh] at hp
      own := fun n p _ hp => by simp [Service.fresh] at hp
      alone := fun n _ p _ _ hp => by simp [Service.fresh] at hp
      backed := fun _ id job hjob => absurd (.inl hjob) (hnone id job) }
  · intro s action s' hreach hexclusive hok hstep
    have hsound := sound_of_reach hreach
    cases step_cases hstep with
    | arrive unused => exact hexclusive.arrive unused
    | @advance n input p _ phase found fresh access =>
      exact hexclusive.advance hsound found fresh access (hok p found)
    | quiet other hquiet => exact hexclusive.quiet hquiet
    | delete idle => exact hexclusive.delete hsound hok

/-- **The accepted applications of a plan are one job**, in every state of every run in which the
requests for a plan take their turns. -/
theorem oneApplication_of_oneAtATime (h : serviceMachine.Reach OneAtATime s) : OneApplication s :=
  (exclusive_of_oneAtATime h).one

/-- A plan under the policy `weekly` was carried out without a database. -/
def plannedOnce : List ServiceAction :=
  setUp ["weekly"] ++ sends 1 7 ⟨⟨1⟩⟩ (planUnder "weekly" "package-plan:weekly:x") ++
    goesThrough ⟨⟨1⟩⟩ [.checking, .planned, .succeeded]

/-- A request to apply it, up to a number of steps. -/
def appliesOnce (n count : Nat) (newId : AnsibleJobId) (suffix : String) : List ServiceAction :=
  sends n count newId (applyUnder "weekly" (applyKey suffix) ⟨⟨1⟩⟩)

theorem second_application_refused :
    ∃ s, serviceMachine.Reach OneAtATime s ∧
      (∃ entry ∈ s.accepted, usesPlan ⟨⟨1⟩⟩ entry.2 = true) ∧
      (answeredJob s 2).isSome = true ∧ (answeredJob s 3).isSome = false ∧ OneApplication s := by
  have hrun : ∃ s ∈ serviceMachine.exec OneAtATime (sampleService false)
      (plannedOnce ++ appliesOnce 2 9 ⟨⟨2⟩⟩ "x" ++ appliesOnce 3 6 ⟨⟨3⟩⟩ "y"),
      (∃ entry ∈ s.accepted, usesPlan ⟨⟨1⟩⟩ entry.2 = true) ∧
      (answeredJob s 2).isSome = true ∧ (answeredJob s 3).isSome = false := by
    decide +kernel
  obtain ⟨s, hexec, hentry, hfirst, hsecond⟩ := hrun
  have hreach : serviceMachine.Reach OneAtATime s := .exec (.init ⟨_, _, rfl⟩) _ hexec
  exact ⟨s, hreach, hentry, hfirst, hsecond, oneApplication_of_oneAtATime hreach⟩

/-- Two requests pass the check one after the other, and both are accepted. -/
theorem plan_applied_twice :
    ¬ ∀ s, serviceMachine.Reach Machine.Any s → OneApplication s := by
  intro hall
  have hrun : ∃ s ∈ serviceMachine.exec Machine.Any (sampleService false)
      (plannedOnce ++ appliesOnce 2 6 ⟨⟨2⟩⟩ "x" ++ appliesOnce 3 6 ⟨⟨2⟩⟩ "y" ++
        advances 2 3 ⟨⟨2⟩⟩ ++ advances 3 3 ⟨⟨3⟩⟩),
      ∃ entry ∈ s.accepted, ∃ entry' ∈ s.accepted, usesPlan ⟨⟨1⟩⟩ entry.2 = true ∧
        usesPlan ⟨⟨1⟩⟩ entry'.2 = true ∧ entry.2.id ≠ entry'.2.id := by
    decide +kernel
  obtain ⟨s, hexec, entry, hentry, entry', hentry', huses, huses', hne⟩ := hrun
  exact hne (hall s (.exec (.init ⟨_, _, rfl⟩) _ hexec) ⟨⟨1⟩⟩ entry hentry entry' hentry' huses
    huses')

end Lxcup.Submission
