import Lxcup.Submission.Steps

/-!
# Where jobs come from

Every job of the coordinator and of the database was made by the coordinator for one call, and
what a call has found out by the time it submits is recorded in the phases it goes through.
This file states both as one invariant of all runs, with database errors and in any
interleaving, and derives what the properties of single claims rest on.

## Main definitions

* `PlanBound` — the plan that an application names was accepted as a plan for the same target
  and packages, under a key that begins like those of the policy.
* `PackageChecked` — a package update has a policy, and a key that fits the policy or the plan.
* `Makes` — the job that a call makes.
* `Bound` — what a call has found out, by its phase.
* `Sound` — the invariant.

## Main results

* `sound_of_reach` — the invariant holds in every state of every run.
* `Sound.unique` — two jobs of one target and key are the same.
-/

namespace Lxcup.Submission

open Lxcup.Lib Lxcup.Core Lxcup.Ansible Lxcup.Persistence Lxcup.Server

/-! ### What is known of a request -/

/-- The resource a request names. -/
def resourceOf (request : CreateAnsibleJobRequest) : ResourceTarget :=
  match request.targetId with
  | some id => .target id
  | none => .container ⟨request.containerId⟩

theorem resolveAnsibleTarget_ok {view : StoreView} {request : CreateAnsibleJobRequest}
    {resolved : ResolvedTarget} (h : resolveAnsibleTarget view request = .ok resolved) :
    resolved.target = resourceOf request := by
  unfold resolveAnsibleTarget at h
  unfold resourceOf
  cases htarget : request.targetId with
  | some id =>
    simp only [htarget] at h
    split at h
    · cases h
    · rw [← Except.ok.inj h]
  | none =>
    simp only [htarget] at h
    split at h
    · cases h
    · split at h
      · cases h
      · rw [← Except.ok.inj h]

/-- The plan was accepted as a plan for the target and packages of the request, under a policy
that there is, and its key begins like those of the given policy. -/
def PlanBound (s : Service) (policyId : String) (request : CreateAnsibleJobRequest)
    (planId : AnsibleJobId) : Prop :=
  ∃ planRequest plan, (planRequest, plan) ∈ s.accepted ∧ plan.id = planId ∧
    planRequest.operation = .updatePackages ∧ planRequest.mode = .plan ∧
    resourceOf planRequest = resourceOf request ∧ planRequest.parameters = request.parameters ∧
    startsWith planRequest.idempotencyKey (planKeyPrefix policyId) = true ∧
    ∃ ownPolicyId, planRequest.policyId = some ownPolicyId ∧ ownPolicyId ∈ s.policyIds ∧
      startsWith planRequest.idempotencyKey (planKeyPrefix ownPolicyId) = true

/-- The request is a package update under a policy that there is. -/
def Governed (s : Service) (request : CreateAnsibleJobRequest) (policyId : String) : Prop :=
  request.operation = .updatePackages ∧ request.policyId = some policyId ∧ policyId ∈ s.policyIds

/-- The request is an application of the plan, by its key. -/
def Applies (request : CreateAnsibleJobRequest) (planId : AnsibleJobId) : Prop :=
  request.mode = .apply ∧ request.approvedPlanJobId = some planId ∧
    startsWith request.idempotencyKey (applyKeyPrefix planId) = true

/-- A package update is a plan under its policy, or the application of a plan. -/
def PackageChecked (s : Service) (request : CreateAnsibleJobRequest) : Prop :=
  request.operation = .updatePackages → ∃ policyId, Governed s request policyId ∧
    ((request.mode = .plan ∧
        startsWith request.idempotencyKey (planKeyPrefix policyId) = true) ∨
      ∃ planId, Applies request planId ∧ PlanBound s policyId request planId)

/-- What the coordinator is asked is what the request asks. -/
def Asks (request : CreateAnsibleJobRequest) (asked : AnsibleJobRequest) : Prop :=
  asked.operation = request.operation ∧ asked.mode = request.mode ∧
    asked.parameters = request.parameters ∧ asked.idempotencyKey = request.idempotencyKey ∧
    asked.target = resourceOf request

/-- The job is the one the request asks for. -/
def OrderedBy (request : CreateAnsibleJobRequest) (job : AnsibleJob) : Prop :=
  job.operation = request.operation ∧ job.mode = request.mode ∧
    job.parameters = request.parameters ∧ job.idempotencyKey = request.idempotencyKey ∧
    job.target = resourceOf request

/-- A key and a mode of the server's own jobs. -/
def ServersOwn (key : String) (operation : AnsibleOperation) (mode : ExecutionMode) : Prop :=
  isProducerKey key ∧ mode ≠ .reconcile ∧ ¬ (operation = .updatePackages ∧ mode = .apply)

/-- The job is one that was made, but for its progress. -/
def Known (s : Service) (job : AnsibleJob) : Prop :=
  ∃ call, s.made.get job.id = some (call, base job)

/-- The resource is the one of the job of the id. -/
def TargetOf (s : Service) (id : AnsibleJobId) (target : ResourceTarget) : Prop :=
  ∃ call job, s.made.get id = some (call, job) ∧ job.target = target

/-- The job that a call makes. -/
def Makes (s : Service) : Call → AnsibleJob → Prop
  | .create _ request, job => OrderedBy request job ∧ PackageChecked s request
  | .reconcile _ sourceId, job => job.mode = .reconcile ∧
    job.idempotencyKey = reconcileIdempotencyKey sourceId ∧ TargetOf s sourceId job.target
  | .produce _, job => ServersOwn job.idempotencyKey job.operation job.mode

/-- The job of a reconciliation, as far as its key and target tell. -/
def ReconciliationJob (s : Service) (sourceId : AnsibleJobId) (job : AnsibleJob) : Prop :=
  Known s job ∧ job.idempotencyKey = reconcileIdempotencyKey sourceId ∧
    TargetOf s sourceId job.target

/-- What a call has found out, by its phase. -/
def Bound (s : Service) : Call → Phase → Prop
  | .create _ request, .resolved resolved | .create _ request, .windowsChecked resolved =>
    resolved.target = resourceOf request
  | .create _ request, .policyLoaded resolved policy =>
    resolved.target = resourceOf request ∧ Governed s request policy.id
  | .create _ request, .planNamed resolved policy planId =>
    resolved.target = resourceOf request ∧ Governed s request policy.id ∧ Applies request planId
  | .create _ request, .planMatched resolved policy planId =>
    resolved.target = resourceOf request ∧ Governed s request policy.id ∧
      Applies request planId ∧ PlanBound s policy.id request planId
  | .create _ request, .validated asked | .create _ request, .keyUnused asked
  | .create _ request, .notActive asked | .create _ request, .unresolved asked
  | .create _ request, .unblocked asked | .create _ request, .free asked =>
    Asks request asked ∧ PackageChecked s request
  | .create role request, .created job | .create role request, .saved job
  | .create role request, .appending job _ =>
    s.made.get job.id = some (.create role request, base job)
  | .create _ request, .answered (.ok (_, job)) =>
    Known s job ∧ job.target = resourceOf request ∧
      job.idempotencyKey = request.idempotencyKey ∧ PackageChecked s request
  | .reconcile _ sourceId, .sourceLoaded source | .reconcile _ sourceId, .sourceUnused source
  | .reconcile _ sourceId, .sourceFree source => source.id = sourceId ∧ Known s source
  | .reconcile _ sourceId, .created job | .reconcile _ sourceId, .saved job
  | .reconcile _ sourceId, .appending job _ | .reconcile _ sourceId, .answered (.ok (_, job)) =>
    ReconciliationJob s sourceId job
  | .produce _, .free asked => ServersOwn asked.idempotencyKey asked.operation asked.mode
  | .produce producer, .created job | .produce producer, .saved job
  | .produce producer, .appending job _ => s.made.get job.id = some (.produce producer, base job)
  -- a call submits what it is for
  | .create .., .sourceFree _ | .produce _, .sourceFree _ | .reconcile .., .free _ => False
  | _, _ => True

/-! ### What is known stays known -/

variable {s s' : Service}

theorem PlanBound.mono {policyId : String} {request : CreateAnsibleJobRequest}
    {planId : AnsibleJobId} (h : PlanBound s policyId request planId) (he : Extends s s') :
    PlanBound s' policyId request planId := by
  obtain ⟨planRequest, plan, hmem, hid, hoperation, hmode, htarget, hparameters, hkey, own, howns,
    hlisted, hown⟩ := h
  exact ⟨planRequest, plan, he.accepted hmem, hid, hoperation, hmode, htarget, hparameters, hkey,
    own, howns, he.policyIds hlisted, hown⟩

theorem Governed.mono {request : CreateAnsibleJobRequest} {policyId : String}
    (h : Governed s request policyId) (he : Extends s s') : Governed s' request policyId :=
  ⟨h.1, h.2.1, he.policyIds h.2.2⟩

theorem PackageChecked.mono {request : CreateAnsibleJobRequest} (h : PackageChecked s request)
    (he : Extends s s') : PackageChecked s' request := by
  intro hoperation
  obtain ⟨policyId, hgoverned, hkind⟩ := h hoperation
  refine ⟨policyId, hgoverned.mono he, ?_⟩
  rcases hkind with hplan | ⟨planId, happlies, hbound⟩
  · exact .inl hplan
  · exact .inr ⟨planId, happlies, hbound.mono he⟩

theorem Known.mono {job : AnsibleJob} (h : Known s job) (he : Extends s s') : Known s' job := by
  obtain ⟨call, hmade⟩ := h
  exact ⟨call, he.made _ _ hmade⟩

theorem TargetOf.mono {id : AnsibleJobId} {target : ResourceTarget} (h : TargetOf s id target)
    (he : Extends s s') : TargetOf s' id target := by
  obtain ⟨call, job, hmade, htarget⟩ := h
  exact ⟨call, job, he.made _ _ hmade, htarget⟩

theorem Makes.mono {call : Call} {job : AnsibleJob} (h : Makes s call job) (he : Extends s s') :
    Makes s' call job := by
  cases call with
  | create role request => exact ⟨h.1, h.2.mono he⟩
  | reconcile role sourceId => exact ⟨h.1, h.2.1, h.2.2.mono he⟩
  | produce producer => exact h

theorem ReconciliationJob.mono {sourceId : AnsibleJobId} {job : AnsibleJob}
    (h : ReconciliationJob s sourceId job) (he : Extends s s') :
    ReconciliationJob s' sourceId job :=
  ⟨h.1.mono he, h.2.1, h.2.2.mono he⟩

theorem Bound.mono {call : Call} {phase : Phase} (h : Bound s call phase) (he : Extends s s') :
    Bound s' call phase := by
  cases call with
  | create role request =>
    cases phase with
    | policyLoaded resolved policy => exact ⟨h.1, h.2.mono he⟩
    | planNamed resolved policy planId => exact ⟨h.1, h.2.1.mono he, h.2.2⟩
    | planMatched resolved policy planId =>
      exact ⟨h.1, h.2.1.mono he, h.2.2.1, h.2.2.2.mono he⟩
    | validated asked => exact ⟨h.1, h.2.mono he⟩
    | keyUnused asked => exact ⟨h.1, h.2.mono he⟩
    | notActive asked => exact ⟨h.1, h.2.mono he⟩
    | unresolved asked => exact ⟨h.1, h.2.mono he⟩
    | unblocked asked => exact ⟨h.1, h.2.mono he⟩
    | free asked => exact ⟨h.1, h.2.mono he⟩
    | created job => exact he.made _ _ h
    | saved job => exact he.made _ _ h
    | appending job events => exact he.made _ _ h
    | answered answer =>
      cases answer with
      | error e => exact trivial
      | ok found => exact ⟨h.1.mono he, h.2.1, h.2.2.1, h.2.2.2.mono he⟩
    | _ => exact h
  | reconcile role sourceId =>
    cases phase with
    | sourceLoaded source => exact ⟨h.1, h.2.mono he⟩
    | sourceUnused source => exact ⟨h.1, h.2.mono he⟩
    | sourceFree source => exact ⟨h.1, h.2.mono he⟩
    | created job => exact ReconciliationJob.mono h he
    | saved job => exact ReconciliationJob.mono h he
    | appending job events => exact ReconciliationJob.mono h he
    | answered answer =>
      cases answer with
      | error e => exact trivial
      | ok found => exact ReconciliationJob.mono h he
    | free asked => exact h
    | _ => exact trivial
  | produce producer =>
    cases phase with
    | free asked => exact h
    | sourceFree source => exact h
    | created job => exact he.made _ _ h
    | saved job => exact he.made _ _ h
    | appending job events => exact he.made _ _ h
    | _ => exact trivial

/-! ### The invariant -/

/-- The store has only what the history knows. -/
structure StoreKnown (s : Service) : Prop where
  policies : ∀ policy ∈ s.store.updatePolicies, policy.id ∈ s.policyIds
  targets : ∀ target ∈ s.store.targets, target.id ∉ s.deletedTargets
  rows : ∀ db, s.database = some db → ∀ id, (db.targets.get id).isSome = true →
    id ∉ s.deletedTargets

/-- Every job was made, and is known by what it was made for. -/
structure Sound (s : Service) : Prop where
  store : StoreKnown s
  wellKept : WellKept s.coordinator
  labelled : Labelled s.coordinator
  held : ∀ id job, s.held id = some job → ∃ call, s.made.get id = some (call, job)
  stored : ∀ id job, s.stored id = some job → ∃ call, s.made.get id = some (call, job)
  made : ∀ id call job, s.made.get id = some (call, job) →
    job.id = id ∧ base job = job ∧ Makes s call job
  /-- The coordinator forgets jobs with their targets only. -/
  remembered : ∀ id call job, s.made.get id = some (call, job) →
    s.held id = some job ∨ ∃ target ∈ s.deletedTargets, job.target = .target target
  /-- Rows go with their targets. -/
  rowTargets : s.database.isSome = true → ∀ id job, s.stored id = some job →
    ∀ target ∈ s.deletedTargets, job.target ≠ .target target
  /-- A plan that is listed was accepted. -/
  listed : ∀ id job, s.stored id = some job →
    startsWith job.idempotencyKey "package-plan:" = true → ∀ role request,
      s.made.get id = some (.create role request, job) →
        ∃ accepted, (request, accepted) ∈ s.accepted ∧ accepted.id = id
  accepted : ∀ request job, (request, job) ∈ s.accepted → PackageChecked s request ∧ Known s job
  bound : ∀ n p, s.processes.get n = some p → Bound s p.call p.phase
  events : ∀ n p job events, s.processes.get n = some p → p.phase = .appending job events →
    ∀ event ∈ events, event.jobId = job.id

/-- A job that the coordinator holds is known. -/
theorem Sound.known_of_held (h : Sound s) {id : AnsibleJobId} {job : AnsibleJob}
    (hjob : s.coordinator.jobs.get id = some job) : Known s job := by
  obtain ⟨call, hmade⟩ := h.held id (base job) (by simp [Service.held, hjob])
  have hid := h.wellKept.keyed id job hjob
  exact ⟨call, hid ▸ hmade⟩

/-- A row is known. -/
theorem Sound.known_of_row (h : Sound s) {db : JobDatabase} (hdb : s.database = some db)
    {id : AnsibleJobId} {job : AnsibleJob} (hjob : db.jobs.get id = some job) : Known s job := by
  obtain ⟨call, hmade⟩ := h.stored id (base job) (by simp [Service.stored_database hdb, hjob])
  exact ⟨call, JobTable.get_id hjob ▸ hmade⟩

/-- A job that is found by its id is known. -/
theorem Sound.known_of_findJob (h : Sound s) {id : AnsibleJobId} {job : AnsibleJob}
    (hjob : s.findJob id = some job) : Known s job ∧ job.id = id := by
  unfold Service.findJob at hjob
  cases hdb : s.database with
  | none =>
    simp only [hdb] at hjob
    exact ⟨h.known_of_held hjob, h.wellKept.keyed id job hjob⟩
  | some db =>
    simp only [hdb] at hjob
    exact ⟨h.known_of_row hdb hjob, JobTable.get_id hjob⟩

/-- The row that is found by a target and a key is known, and has them. -/
theorem Sound.known_of_key (h : Sound s) {db : JobDatabase} (hdb : s.database = some db)
    {target : ResourceTarget} {key : String} {job : AnsibleJob}
    (hjob : db.findByIdempotencyKey target key = some job) :
    Known s job ∧ job.target = target ∧ job.idempotencyKey = key ∧
      db.jobs.get job.id = some job := by
  have hmem := List.mem_of_find?_eq_some hjob
  have hboth := List.find?_some hjob
  simp only [Bool.and_eq_true, decide_eq_true_eq] at hboth
  obtain ⟨id, hrow⟩ := JobTable.mem_list.mp hmem
  have hid := JobTable.get_id hrow
  exact ⟨h.known_of_row hdb hrow, hboth.1, hboth.2, hid ▸ hrow⟩

/-- The key of a target in the index is that of a known job. -/
theorem Sound.known_of_entry (h : Sound s) {target : ResourceTarget} {key : String}
    {id : AnsibleJobId} {job : AnsibleJob}
    (hentry : s.coordinator.idempotency.get (target, key) = some id)
    (hjob : s.coordinator.jobs.get id = some job) :
    Known s job ∧ job.target = target ∧ job.idempotencyKey = key ∧ job.id = id := by
  obtain ⟨indexed, hindexed, htarget, hkey⟩ := h.wellKept.indexed _ _ _ hentry
  obtain rfl := Option.some.inj (hindexed.symm.trans hjob)
  exact ⟨h.known_of_held hjob, htarget, hkey, h.wellKept.keyed id indexed hjob⟩

/-- The key of a job is in the index, unless its target was deleted. -/
theorem Sound.indexed (h : Sound s) {id : AnsibleJobId} {call : Call} {job : AnsibleJob}
    (hmade : s.made.get id = some (call, job))
    (hthere : ∀ target ∈ s.deletedTargets, job.target ≠ .target target) :
    s.coordinator.idempotency.get (job.target, job.idempotencyKey) = some id := by
  rcases h.remembered id call job hmade with hheld | ⟨target, hmem, hdeleted⟩
  · obtain ⟨found, hfound, rfl⟩ := Option.map_eq_some_iff.mp hheld
    exact h.wellKept.inIndex id found hfound
  · exact absurd hdeleted (hthere target hmem)

/-- **Two jobs of one target and key are the same**, unless the target was deleted. -/
theorem Sound.unique (h : Sound s) {id id' : AnsibleJobId} {call call' : Call}
    {job job' : AnsibleJob} (hmade : s.made.get id = some (call, job))
    (hmade' : s.made.get id' = some (call', job')) (htarget : job.target = job'.target)
    (hkey : job.idempotencyKey = job'.idempotencyKey)
    (hthere : ∀ target ∈ s.deletedTargets, job.target ≠ .target target) : id = id' := by
  have hfirst := h.indexed hmade hthere
  have hsecond := h.indexed hmade' (fun target hmem => htarget ▸ hthere target hmem)
  rw [htarget, hkey] at hfirst
  exact Option.some.inj (hfirst.symm.trans hsecond)

/-! ### What a call finds out -/

/-- A plan that matches was accepted as a plan. -/
theorem Sound.planBound (h : Sound s) {request : CreateAnsibleJobRequest}
    {target : ResourceTarget} {policyId : String} {planId : AnsibleJobId} {plan : AnsibleJob}
    (htarget : target = resourceOf request) (hfound : s.findJob planId = some plan)
    (hmatches : planMatchesRequest plan request target policyId = true) :
    PlanBound s policyId request planId := by
  simp only [planMatchesRequest, Bool.and_eq_true, decide_eq_true_eq] at hmatches
  obtain ⟨⟨⟨⟨⟨hoperation, hmode⟩, -⟩, hsame⟩, hparameters⟩, hkey⟩ := hmatches
  obtain ⟨⟨call, hmade⟩, hid⟩ := h.known_of_findJob hfound
  rw [hid] at hmade
  obtain ⟨-, -, hmakes⟩ := h.made planId call (base plan) hmade
  have hplan : startsWith plan.idempotencyKey "package-plan:" = true := by
    rw [startsWith_iff] at hkey ⊢
    refine List.IsPrefix.trans ?_ hkey
    simp only [planKeyPrefix, String.toList_append, List.append_assoc]
    exact List.prefix_append _ _
  cases call with
  | create role planRequest =>
    -- the only path on which a job with such a key is made
    obtain ⟨⟨hop, hmo, hpa, hke, hta⟩, hchecked⟩ := hmakes
    have hstored : s.stored planId = some (base plan) := by simp [Service.stored, hfound]
    obtain ⟨accepted, hmem, haccepted⟩ :=
      h.listed planId (base plan) hstored hplan role planRequest hmade
    have hplanOperation : planRequest.operation = .updatePackages := hop.symm.trans hoperation
    have hplanMode : planRequest.mode = .plan := hmo.symm.trans hmode
    have hplanKey : planRequest.idempotencyKey = plan.idempotencyKey := hke.symm
    obtain ⟨own, ⟨-, howns, hlisted⟩, hkind⟩ := hchecked hplanOperation
    have hown : startsWith planRequest.idempotencyKey (planKeyPrefix own) = true := by
      rcases hkind with ⟨-, hown⟩ | ⟨planId', ⟨happly, -⟩, -⟩
      · exact hown
      · rw [hplanMode] at happly
        cases happly
    refine ⟨planRequest, accepted, hmem, haccepted, hplanOperation, hplanMode, ?_, ?_, ?_, own,
      howns, hlisted, hown⟩
    · rw [← htarget, ← hsame]
      exact hta.symm
    · rw [← hparameters]
      exact hpa.symm
    · rw [hplanKey]
      exact hkey
  | reconcile role sourceId =>
    have hreconcile : plan.mode = .reconcile := hmakes.1
    rw [hmode] at hreconcile
    cases hreconcile
  | produce producer =>
    have hother := @not_startsWith_of_isProducerKey _ "package-plan:" hmakes.1 (by decide)
    have hsamekey : (base plan).idempotencyKey = plan.idempotencyKey := rfl
    rw [hsamekey, hplan] at hother
    cases hother

/-- The end of the checks of a request. -/
private theorem Bound.validatedPhase {role : ActorRole} {request : CreateAnsibleJobRequest}
    {resolved : ResolvedTarget} (htarget : resolved.target = resourceOf request)
    (hchecked : PackageChecked s request) :
    Bound s (.create role request) (s.validatedPhase role request resolved) := by
  unfold Service.validatedPhase
  split
  · exact trivial
  · exact ⟨⟨rfl, rfl, rfl, rfl, htarget⟩, hchecked⟩

private theorem Bound.readStore (h : Sound s) {role : ActorRole}
    {request : CreateAnsibleJobRequest} {now : Timestamp} {phase phase' : Phase}
    (hbound : Bound s (.create role request) phase)
    (hread : s.readStore role request now phase = some phase') :
    Bound s (.create role request) phase' := by
  cases phase with
  | arrived =>
    simp only [Service.readStore] at hread
    split at hread
    · obtain rfl := Option.some.inj hread
      exact trivial
    · rename_i resolved hresolved
      obtain rfl := Option.some.inj hread
      exact resolveAnsibleTarget_ok hresolved
  | resolved resolved =>
    simp only [Service.readStore] at hread
    split at hread
    · obtain rfl := Option.some.inj hread
      exact trivial
    · obtain rfl := Option.some.inj hread
      exact hbound
  | windowsChecked resolved =>
    simp only [Service.readStore] at hread
    split at hread
    · obtain rfl := Option.some.inj hread
      exact trivial
    · rename_i hpolicy
      obtain rfl := Option.some.inj hread
      refine Bound.validatedPhase hbound fun hoperation => ?_
      rcases checkPolicy_ok hpolicy with ⟨hother, -⟩ | ⟨_, _, -, -, -, hnone⟩
      · exact absurd hoperation hother
      · cases hnone
    · rename_i policy hpolicy
      obtain rfl := Option.some.inj hread
      rcases checkPolicy_ok hpolicy with ⟨-, hnone⟩ | ⟨_, found, hoperation, -, hview, hsome⟩
      · cases hnone
      · obtain rfl := Option.some.inj hsome
        obtain ⟨hid, hmem⟩ := view_policy hview
        exact ⟨hbound, hoperation, hid, h.store.policies policy hmem⟩
  | policyLoaded resolved policy =>
    obtain ⟨htarget, hgoverned⟩ := hbound
    simp only [Service.readStore] at hread
    split at hread
    · split at hread
      · obtain rfl := Option.some.inj hread
        exact trivial
      · rename_i hpackages
        obtain rfl := Option.some.inj hread
        refine Bound.validatedPhase htarget fun _ => ⟨policy.id, hgoverned, .inl ?_⟩
        rcases checkPackages_ok hpackages with ⟨hmode, -, hkey⟩ | ⟨_, -, hsome, -⟩
        · exact ⟨hmode, hkey⟩
        · cases hsome
      · rename_i planId hpackages
        obtain rfl := Option.some.inj hread
        rcases checkPackages_ok hpackages with ⟨-, hnone, -⟩ | ⟨named, hmode, hsome, happroved, hkey⟩
        · cases hnone
        · obtain rfl := Option.some.inj hsome
          exact ⟨htarget, hgoverned, hmode, happroved, hkey⟩
    · cases hread
  | _ => cases hread

private theorem Bound.readJobs (h : Sound s) {role : ActorRole}
    {request : CreateAnsibleJobRequest} {phase phase' : Phase}
    (hbound : Bound s (.create role request) phase)
    (hread : s.readJobs role request phase = some phase')
    (hopen : ∀ found, phase' ≠ .answered (.ok found)) : Bound s (.create role request) phase' := by
  cases jobsRead_of_readJobs hread with
  | refused => exact trivial
  | planFound found sound =>
    obtain ⟨htarget, hgoverned, happlies⟩ := hbound
    exact ⟨htarget, hgoverned, happlies, h.planBound htarget found sound⟩
  | @planUnused resolved policy planId unused =>
    obtain ⟨htarget, hgoverned, happlies, hplan⟩ := hbound
    exact Bound.validatedPhase htarget fun _ =>
      ⟨policy.id, hgoverned, .inr ⟨planId, happlies, hplan⟩⟩
  | known => exact absurd rfl (hopen _)
  | inMemory => exact hbound
  | unknown => exact hbound
  | idle => exact hbound
  | unreconciled => exact hbound
  | reconciled => exact hbound
  | free => exact hbound

private theorem Bound.readSource (h : Sound s) {role : ActorRole} {sourceId : AnsibleJobId}
    {phase phase' : Phase} (hbound : Bound s (.reconcile role sourceId) phase)
    (hread : s.readSource role sourceId phase = some phase')
    (hopen : ∀ found, phase' ≠ .answered (.ok found)) :
    Bound s (.reconcile role sourceId) phase' := by
  cases phase with
  | arrived =>
    simp only [Service.readSource] at hread
    split at hread
    · obtain rfl := Option.some.inj hread
      exact trivial
    · rename_i source hsource
      split at hread
      · obtain rfl := Option.some.inj hread
        exact trivial
      · split at hread
        · obtain rfl := Option.some.inj hread
          exact trivial
        · obtain rfl := Option.some.inj hread
          obtain ⟨hknown, hid⟩ := h.known_of_findJob hsource
          exact ⟨hid, hknown⟩
  | sourceLoaded source =>
    simp only [Service.readSource] at hread
    split at hread
    · obtain rfl := Option.some.inj hread
      exact hbound
    · split at hread
      · obtain rfl := Option.some.inj hread
        exact absurd rfl (hopen _)
      · obtain rfl := Option.some.inj hread
        exact hbound
  | sourceUnused source =>
    simp only [Service.readSource] at hread
    split at hread
    · obtain rfl := Option.some.inj hread
      exact trivial
    · obtain rfl := Option.some.inj hread
      exact hbound
  | _ => cases hread

/-- What a call knows after it has read. -/
theorem Bound.read (h : Sound s) {call : Call} {now : Timestamp} {phase phase' : Phase}
    (hbound : Bound s call phase) (hread : s.read call now phase = some phase')
    (hopen : ∀ found, phase' ≠ .answered (.ok found)) : Bound s call phase' := by
  cases call with
  | create role request =>
    simp only [Service.read] at hread
    split at hread
    · exact hbound.readStore h hread
    · exact hbound.readJobs h hread hopen
  | reconcile role sourceId => exact hbound.readSource h hread hopen
  | produce producer =>
    simp only [Service.read] at hread
    split at hread
    · obtain ⟨asked, hasked, rfl⟩ := Option.map_eq_some_iff.mp hread
      obtain ⟨_, -, -, hkey, hmode, happly⟩ := Producer.request_some hasked
      exact ⟨hkey, hmode, happly⟩
    · cases hread

/-! ### Every access of a call keeps the invariant -/

theorem Sound.accept (h : Sound s) {call : Call} {job : AnsibleJob}
    (hchecked : ∀ role request, call = .create role request → PackageChecked s request)
    (hknown : Known s job) : Sound (s.accept call job) := by
  have he : Extends s (s.accept call job) := (Extends.refl s).accept call job
  refine {
    store := ⟨?_, ?_, ?_⟩, wellKept := ?_, labelled := ?_, held := ?_, stored := ?_, made := ?_,
    remembered := ?_, rowTargets := ?_, listed := ?_, accepted := ?_, bound := ?_, events := ?_ }
  · rw [Service.accept_policyIds, Service.accept_eq]
    exact h.store.policies
  · rw [Service.accept_deletedTargets, Service.accept_eq]
    exact h.store.targets
  · rw [Service.accept_deletedTargets, Service.accept_database]
    exact h.store.rows
  · rw [Service.accept_coordinator]
    exact h.wellKept
  · rw [Service.accept_coordinator]
    exact h.labelled
  · rw [Service.accept_held, Service.accept_made]
    exact h.held
  · rw [Service.accept_stored, Service.accept_made]
    exact h.stored
  · rw [Service.accept_made]
    intro id call' job' hmade
    obtain ⟨hid, hbase, hmakes⟩ := h.made id call' job' hmade
    exact ⟨hid, hbase, hmakes.mono he⟩
  · rw [Service.accept_made, Service.accept_held, Service.accept_deletedTargets]
    exact h.remembered
  · rw [Service.accept_database, Service.accept_stored, Service.accept_deletedTargets]
    exact h.rowTargets
  · rw [Service.accept_stored, Service.accept_made]
    intro id job' hstored hkey role request hmade
    obtain ⟨accepted, hmem, hid⟩ := h.listed id job' hstored hkey role request hmade
    exact ⟨accepted, he.accepted hmem, hid⟩
  · intro request job' hmem
    rcases Service.mem_accept.mp hmem with hold | ⟨role, hcall, rfl⟩
    · obtain ⟨hchecked', hknown'⟩ := h.accepted request job' hold
      exact ⟨hchecked'.mono he, hknown'.mono he⟩
    · exact ⟨(hchecked role request hcall).mono he, hknown.mono he⟩
  · rw [Service.accept_processes]
    intro n p hp
    exact (h.bound n p hp).mono he
  · rw [Service.accept_processes]
    exact h.events

/-- The job that is made for a call. -/
theorem Bound.makes {call : Call} {input : Input} {phase : Phase} {job : AnsibleJob}
    (h : Bound s call phase) (horigin : Origin input phase job) : Makes s call job := by
  cases horigin with
  | @request asked accepts =>
    cases call with
    | create role request =>
      obtain ⟨⟨hoperation, hmode, hparameters, hkey, htarget⟩, hchecked⟩ := h
      exact ⟨⟨hoperation, hmode, hparameters, hkey, htarget⟩, hchecked⟩
    | reconcile role sourceId => exact h.elim
    | produce producer => exact h
  | @source source =>
    cases call with
    | create role request => exact h.elim
    | reconcile role sourceId =>
      obtain ⟨rfl, call, hmade⟩ := h
      exact ⟨rfl, rfl, call, base source, hmade, rfl⟩
    | produce producer => exact h.elim

/-- What a call knows when its job is made. -/
private theorem Bound.afterMade {call : Call} {phase : Phase} {job : AnsibleJob} {input : Input}
    (h : Bound s call phase) (horigin : Origin input phase job) (he : Extends s s')
    (hmade : s'.made.get job.id = some (call, job)) :
    Bound s' call (.created job) ∧ Bound s' call (.answered (.ok (202, job))) := by
  have hmakes := (h.makes horigin).mono he
  have hmade' : s'.made.get job.id = some (call, base job) := by
    rw [horigin.job.2.1]
    exact hmade
  have hknown : Known s' job := ⟨call, hmade'⟩
  cases call with
  | create role request =>
    obtain ⟨⟨-, -, -, hkey, htarget⟩, hchecked⟩ := hmakes
    exact ⟨hmade', hknown, htarget, hkey, hchecked⟩
  | reconcile role sourceId =>
    obtain ⟨-, hkey, htarget⟩ := hmakes
    exact ⟨⟨hknown, hkey, htarget⟩, hknown, hkey, htarget⟩
  | produce producer => exact ⟨hmade', trivial⟩

/-- No job is known under an id that has not been used. -/
private theorem Sound.unknown (h : Sound s) {id : AnsibleJobId} (hfresh : s.made.get id = none) :
    s.held id = none ∧ s.stored id = none := by
  constructor
  · cases hheld : s.held id with
    | none => rfl
    | some job =>
      obtain ⟨_, hmade⟩ := h.held id job hheld
      rw [hfresh] at hmade
      cases hmade
  · cases hstored : s.stored id with
    | none => rfl
    | some job =>
      obtain ⟨_, hmade⟩ := h.stored id job hstored
      rw [hfresh] at hmade
      cases hmade

private theorem Sound.withMade (h : Sound s) {call : Call} {input : Input} {phase : Phase}
    {job : AnsibleJob} {locks : Table ResourceTarget AnsibleJobId} (hbound : Bound s call phase)
    (hfresh : s.made.get input.newId = none) (origin : Origin input phase job)
    (unused : s.coordinator.idempotency.get (job.target, job.idempotencyKey) = none)
    (locked : ∀ target id, locks.get target = some id →
      (target = job.target ∧ id = job.id) ∨ s.coordinator.activeTargets.get target = some id) :
    Sound (s.withMade locks call job input.now) := by
  have haccess : Access s call input phase (s.withMade locks call job input.now) _ :=
    .made origin unused locked
  have he := haccess.extends hfresh
  have hframe := haccess.frame
  obtain ⟨hid, hbase, hqueued⟩ := origin.job
  have hfresh' : s.made.get job.id = none := hid ▸ hfresh
  have hmade : (s.withMade locks call job input.now).made.get job.id = some (call, job) := by
    rw [Service.withMade_made, Table.get_put_self]
  obtain ⟨hheld, hrow⟩ := h.unknown hfresh'
  have hnew : s.coordinator.jobs.get job.id = none := Option.map_eq_none_iff.mp hheld
  have hmakes := (hbound.makes origin).mono he
  refine {
    store := ⟨?_, ?_, ?_⟩, wellKept := ?_, labelled := ?_, held := ?_, stored := ?_, made := ?_,
    remembered := ?_, rowTargets := ?_, listed := ?_, accepted := ?_, bound := ?_, events := ?_ }
  · rw [hframe.store, hframe.policyIds]
    exact h.store.policies
  · rw [hframe.store, hframe.deletedTargets]
    exact h.store.targets
  · rw [hframe.deletedTargets, Service.withMade_database]
    exact h.store.rows
  · rw [Service.withMade_coordinator]
    exact h.wellKept.register hnew hqueued unused locked
  · rw [Service.withMade_coordinator]
    exact Labelled.register (h.labelled.of_events rfl) job input.now
  · intro id job' hheld
    rw [Service.withMade_held] at hheld
    split at hheld
    case isTrue heq =>
      obtain rfl := Option.some.inj hheld
      exact ⟨call, by rw [heq, hmade, hbase]⟩
    case isFalse =>
      obtain ⟨call', hcall'⟩ := h.held id job' hheld
      exact ⟨call', he.made _ _ hcall'⟩
  · intro id job' hstored
    rw [Service.withMade_stored] at hstored
    split at hstored
    · obtain ⟨call', hcall'⟩ := h.stored id job' hstored
      exact ⟨call', he.made _ _ hcall'⟩
    · split at hstored
      case isTrue heq =>
        obtain rfl := Option.some.inj hstored
        exact ⟨call, by rw [heq, hmade, hbase]⟩
      case isFalse =>
        obtain ⟨call', hcall'⟩ := h.stored id job' hstored
        exact ⟨call', he.made _ _ hcall'⟩
  · intro id call' job' hmade'
    rw [Service.withMade_made] at hmade'
    rcases Table.get_put_cases hmade' with ⟨rfl, heq⟩ | ⟨-, hold⟩
    · obtain ⟨rfl, rfl⟩ := Prod.mk.inj heq
      exact ⟨rfl, hbase, hmakes⟩
    · obtain ⟨hid', hbase', hmakes'⟩ := h.made id call' job' hold
      exact ⟨hid', hbase', hmakes'.mono he⟩
  · intro id call' job' hmade'
    rw [Service.withMade_made] at hmade'
    rw [Service.withMade_held, hframe.deletedTargets]
    rcases Table.get_put_cases hmade' with ⟨hid', heq⟩ | ⟨hne, hold⟩
    · obtain ⟨rfl, rfl⟩ := Prod.mk.inj heq
      left
      rw [if_pos hid', hbase]
    · rw [if_neg hne]
      exact h.remembered id call' job' hold
  · intro hdb id job' hstored
    rw [Service.withMade_database] at hdb
    rw [Service.withMade_stored, if_pos hdb] at hstored
    rw [hframe.deletedTargets]
    exact h.rowTargets hdb id job' hstored
  · intro id job' hstored hkey role request hmade'
    rw [Service.withMade_stored] at hstored
    rw [Service.withMade_made] at hmade'
    rcases Table.get_put_cases hmade' with ⟨hid', heq⟩ | ⟨hne, hold⟩
    · obtain ⟨rfl, rfl⟩ := Prod.mk.inj heq
      rw [hid'] at hstored
      split at hstored
      · rw [hrow] at hstored
        cases hstored
      · rename_i hmemory
        refine ⟨job', (Service.mem_withMade_accepted ..).mpr (.inr ⟨?_, role, rfl, rfl⟩), hid'.symm⟩
        simpa using hmemory
    · rw [if_neg hne, ite_self] at hstored
      obtain ⟨accepted, hmem, hid'⟩ := h.listed id job' hstored hkey role request hold
      exact ⟨accepted, he.accepted hmem, hid'⟩
  · intro request job' hmem
    rcases (Service.mem_withMade_accepted ..).mp hmem with hold | ⟨-, role, rfl, rfl⟩
    · obtain ⟨hchecked, hknown⟩ := h.accepted request job' hold
      exact ⟨hchecked.mono he, hknown.mono he⟩
    · exact ⟨hmakes.2, _, by rw [hmade, hbase]⟩
  · rw [hframe.processes]
    intro n p hp
    exact (h.bound n p hp).mono he
  · rw [hframe.processes]
    exact h.events

private theorem Sound.withRow (h : Sound s) {db : JobDatabase} {jobs : JobTable}
    {job : AnsibleJob} (hdb : s.database = some db)
    (hsave : JobTable.save db.targets db.jobs job = .ok jobs) (hknown : Known s job)
    (haccepted : startsWith job.idempotencyKey "package-plan:" = true → ∀ role request,
      s.made.get job.id = some (.create role request, base job) →
        ∃ accepted, (request, accepted) ∈ s.accepted ∧ accepted.id = job.id) :
    Sound (s.withRow db jobs) := by
  have he : Extends s (s.withRow db jobs) :=
    ⟨fun _ _ h => h, fun _ h => h, fun _ h => h, fun _ h => h⟩
  refine {
    store := ⟨h.store.policies, h.store.targets, ?_⟩, wellKept := h.wellKept,
    labelled := h.labelled, held := h.held, stored := ?_, made := ?_,
    remembered := h.remembered, rowTargets := ?_, listed := ?_, accepted := ?_, bound := ?_,
    events := h.events }
  · intro db' hdb' id hrow
    obtain rfl := Option.some.inj hdb'
    exact h.store.rows db hdb id hrow
  · intro id job' hstored
    rw [Service.withRow_stored hdb hsave] at hstored
    split at hstored
    case isTrue heq =>
      obtain rfl := Option.some.inj hstored
      rw [heq]
      exact hknown
    case isFalse => exact h.stored id job' hstored
  · intro id call job' hmade
    obtain ⟨hid, hbase, hmakes⟩ := h.made id call job' hmade
    exact ⟨hid, hbase, hmakes.mono he⟩
  · intro _ id job' hstored target htarget heq
    rw [Service.withRow_stored hdb hsave] at hstored
    split at hstored
    case isTrue =>
      -- the target of an inserted job has a row
      obtain rfl := Option.some.inj hstored
      have hthere := JobTable.targetMissing_of_save hsave
      have htarget' : job.target = .target target := heq
      rw [htarget', JobTable.targetMissing] at hthere
      exact h.store.rows db hdb target (by simpa using hthere) htarget
    case isFalse => exact h.rowTargets (by simp [hdb]) id job' hstored target htarget heq
  · intro id job' hstored hkey role request hmade
    rw [Service.withRow_stored hdb hsave] at hstored
    split at hstored
    case isTrue heq =>
      obtain rfl := Option.some.inj hstored
      obtain ⟨accepted, hmem, hid⟩ := haccepted hkey role request (heq ▸ hmade)
      exact ⟨accepted, hmem, hid.trans heq.symm⟩
    case isFalse => exact h.listed id job' hstored hkey role request hmade
  · intro request job' hmem
    obtain ⟨hchecked, hknown'⟩ := h.accepted request job' hmem
    exact ⟨hchecked.mono he, hknown'.mono he⟩
  · intro n p hp
    exact (h.bound n p hp).mono he

private theorem Sound.appended (h : Sound s) {db db' : JobDatabase} {event : JobEvent}
    (hdb : s.database = some db) (happend : db.appendEvent event = .ok db') :
    Sound { s with database := some db' } := by
  have he : Extends s { s with database := some db' } :=
    ⟨fun _ _ h => h, fun _ h => h, fun _ h => h, fun _ h => h⟩
  have htargets : db'.targets = db.targets := by
    unfold JobDatabase.appendEvent at happend
    dsimp only at happend
    split at happend
    · cases happend
    · rw [← Except.ok.inj happend]
  obtain ⟨hstored, -⟩ := Service.appendEvent_stored hdb happend
  refine {
    store := ⟨h.store.policies, h.store.targets, ?_⟩, wellKept := h.wellKept,
    labelled := h.labelled, held := h.held, stored := ?_, made := ?_,
    remembered := h.remembered, rowTargets := ?_, listed := ?_, accepted := ?_, bound := ?_,
    events := h.events }
  · intro db'' hdb'' id hrow
    obtain rfl := Option.some.inj hdb''
    rw [htargets] at hrow
    exact h.store.rows db hdb id hrow
  · rw [hstored]
    exact h.stored
  · intro id call job' hmade
    obtain ⟨hid, hbase, hmakes⟩ := h.made id call job' hmade
    exact ⟨hid, hbase, hmakes.mono he⟩
  · rw [hstored]
    intro _
    exact h.rowTargets (by simp [hdb])
  · rw [hstored]
    exact h.listed
  · intro request job' hmem
    obtain ⟨hchecked, hknown⟩ := h.accepted request job' hmem
    exact ⟨hchecked.mono he, hknown.mono he⟩
  · intro n p hp
    exact (h.bound n p hp).mono he

/-- The phases in which a job is written are alike, and the answer follows from them. -/
private theorem Bound.appendPhase (h : Sound s) {call : Call} {job : AnsibleJob}
    (hbound : Bound s call (.saved job)) (events : List JobEvent) :
    Bound s call (Service.appendPhase job events) := by
  cases events with
  | cons event events => cases call <;> exact hbound
  | nil =>
    cases call with
    | create role request =>
      have hmade : s.made.get job.id = some (.create role request, base job) := hbound
      obtain ⟨-, -, ⟨-, -, -, hkey, htarget⟩, hchecked⟩ := h.made _ _ _ hmade
      exact ⟨⟨_, hmade⟩, htarget, hkey, hchecked⟩
    | reconcile role sourceId => exact hbound
    | produce producer => exact trivial

/-- The events that are left to insert are about the job. -/
private theorem events_appendPhase {job : AnsibleJob} {events : List JobEvent}
    (hevents : ∀ event ∈ events, event.jobId = job.id) :
    ∀ job' events', Service.appendPhase job events = .appending job' events' →
      ∀ event ∈ events', event.jobId = job'.id := by
  intro job' events' hphase
  cases events with
  | nil => cases hphase
  | cons event events =>
    obtain ⟨rfl, rfl⟩ := Phase.appending.inj hphase
    exact hevents

/-- The request of a job that is inserted was checked. -/
theorem Bound.checked_created (h : Sound s) {call : Call} {job : AnsibleJob}
    (hbound : Bound s call (.created job)) :
    Known s job ∧ (∀ role request, call = .create role request → PackageChecked s request) ∧
      ∀ role request, startsWith job.idempotencyKey "package-plan:" = true →
        s.made.get job.id = some (.create role request, base job) →
          call = .create role request := by
  cases call with
  | create role request =>
    have hmade : s.made.get job.id = some (.create role request, base job) := hbound
    obtain ⟨-, -, -, hchecked⟩ := h.made _ _ _ hmade
    refine ⟨⟨_, hmade⟩, ?_, ?_⟩
    · intro role' request' hcall
      obtain ⟨rfl, rfl⟩ := Call.create.inj hcall
      exact hchecked
    · intro role' request' _ hmade'
      rw [hmade] at hmade'
      exact (Prod.mk.inj (Option.some.inj hmade')).1
  | reconcile role sourceId =>
    refine ⟨hbound.1, fun _ _ hcall => (by cases hcall), fun role' request' hkey _ => ?_⟩
    -- a reconciliation has no key of a plan
    rw [hbound.2.1, startsWith_iff] at hkey
    have hpre : reconcileKeyPrefix.toList <+: (reconcileIdempotencyKey sourceId).toList := by
      rw [reconcileIdempotencyKey, String.toList_append]
      exact List.prefix_append _ _
    rcases List.prefix_or_prefix_of_prefix hpre hkey with hshort | hshort
    · exact absurd hshort (by decide)
    · exact absurd hshort (by decide)
  | produce producer =>
    have hmade : s.made.get job.id = some (.produce producer, base job) := hbound
    refine ⟨⟨_, hmade⟩, fun _ _ hcall => (by cases hcall), fun role' request' _ hmade' => ?_⟩
    rw [hmade] at hmade'
    cases (Prod.mk.inj (Option.some.inj hmade')).1

/-- **Every access of a call keeps the invariant**, and what the call knows is true of the phase
it comes to. -/
theorem Sound.access (h : Sound s) {call : Call} {input : Input} {phase phase' : Phase}
    (hbound : Bound s call phase)
    (hevents : ∀ job events, phase = .appending job events →
      ∀ event ∈ events, event.jobId = job.id)
    (hfresh : s.made.get input.newId = none) (haccess : Access s call input phase s' phase') :
    Sound s' ∧ Bound s' call phase' ∧ ∀ job events, phase' = .appending job events →
      ∀ event ∈ events, event.jobId = job.id := by
  have he := haccess.extends hfresh
  cases haccess with
  | read next open' =>
    refine ⟨h, hbound.read h next open', fun job events hphase => ?_⟩
    have hwritten := Service.read_written next
    rw [hphase] at hwritten
    cases hwritten
  | refused lost => exact ⟨h, (by cases call <;> exact trivial), fun _ _ hphase => by cases hphase⟩
  | @found role request asked db job isCreate persistent row =>
    subst isCreate
    obtain ⟨⟨-, -, -, hkey, htarget⟩, hchecked⟩ := hbound
    obtain ⟨hknown, hrowTarget, hrowKey, -⟩ := h.known_of_key persistent row
    refine ⟨h.accept ?_ hknown, ⟨hknown.mono he, hrowTarget.trans htarget, hrowKey.trans hkey,
      hchecked.mono he⟩, fun _ _ hphase => by cases hphase⟩
    intro role' request' hcall
    obtain ⟨rfl, rfl⟩ := Call.create.inj hcall
    exact hchecked
  | @foundSource role sourceId source db job isReconcile persistent row =>
    subst isReconcile
    obtain ⟨rfl, call, hmade⟩ := hbound
    obtain ⟨hknown, hrowTarget, hrowKey, -⟩ := h.known_of_key persistent row
    exact ⟨h, ⟨hknown, hrowKey, call, base source, hmade, hrowTarget.symm⟩,
      fun _ _ hphase => by cases hphase⟩
  | @made _ job locks origin unused locked =>
    have hmade : (s.withMade locks call job input.now).made.get job.id = some (call, job) := by
      rw [Service.withMade_made, Table.get_put_self]
    obtain ⟨hcreated, hanswered⟩ := hbound.afterMade origin he hmade
    refine ⟨h.withMade hbound hfresh origin unused locked, ?_, ?_⟩
    · rcases (s.registered locks job input.now).afterCreated_cases call job with
        ⟨-, -, hphase⟩ | ⟨-, -, hphase⟩
      · rw [hphase]
        exact hcreated
      · rw [hphase]
        exact hanswered
    · rcases (s.registered locks job input.now).afterCreated_cases call job with
        ⟨-, -, hphase⟩ | ⟨-, -, hphase⟩
      · rw [hphase]
        exact fun _ _ hphase => by cases hphase
      · rw [hphase]
        exact fun _ _ hphase => by cases hphase
  | @duplicate asked id job entry known =>
    obtain ⟨hknown, htarget, hkey, -⟩ := h.known_of_entry entry known
    refine ⟨h.accept ?_ hknown, ?_, fun _ _ hphase => by cases hphase⟩
    · rintro role request rfl
      exact hbound.2
    · cases call with
      | create role request =>
        obtain ⟨⟨-, -, -, haskedKey, haskedTarget⟩, hchecked⟩ := hbound
        exact ⟨hknown.mono he, htarget.trans haskedTarget, hkey.trans haskedKey, hchecked.mono he⟩
      | reconcile role sourceId => exact hbound.elim
      | produce producer => exact trivial
  | @duplicateSource source id job entry known =>
    obtain ⟨hknown, htarget, hkey, -⟩ := h.known_of_entry entry known
    have hjob : ∀ role sourceId, call = .reconcile role sourceId →
        ReconciliationJob s sourceId job := by
      rintro role sourceId rfl
      obtain ⟨rfl, made, hmade⟩ := hbound
      exact ⟨hknown, hkey, made, base source, hmade, htarget.symm⟩
    refine ⟨h, ?_, ?_⟩
    · cases call with
      | create role request => exact hbound.elim
      | reconcile role sourceId =>
        split
        · exact hjob role sourceId rfl
        · exact hjob role sourceId rfl
      | produce producer => exact hbound.elim
    · split
      · exact fun _ _ hphase => by cases hphase
      · exact fun _ _ hphase => by cases hphase
  | @inserted job db jobs _ persistent row next =>
    obtain ⟨hknown, hchecked, hown⟩ := hbound.checked_created h
    have haccept := h.accept hchecked hknown
    have hswap : (s.withRow db jobs).accept call job = (s.accept call job).withRow db jobs := by
      cases call <;> rfl
    refine ⟨?_, ?_, ?_⟩
    · rw [hswap]
      have he' := (Extends.refl s).accept call job
      refine haccept.withRow (by rw [Service.accept_database]; exact persistent) row
        (hknown.mono he') fun hkey role request hmade => ?_
      rw [Service.accept_made] at hmade
      exact ⟨job, Service.mem_accept.mpr (.inr ⟨role, hown role request hkey hmade, rfl⟩), rfl⟩
    · rcases next with rfl | ⟨rfl, producer, rfl⟩
      · have hsaved := hbound.mono he
        cases call <;> exact hsaved
      · exact trivial
    · rcases next with rfl | ⟨rfl, -⟩
      · exact fun _ _ hphase => by cases hphase
      · exact fun _ _ hphase => by cases hphase
  | @listed job known found =>
    exact ⟨h, hbound.appendPhase h _, events_appendPhase fun event hevent =>
      h.labelled job.id event hevent⟩
  | @appended job event events db db' persistent row =>
    have hsound := h.appended persistent row
    have hsaved : Bound s call (.saved job) := by
      cases call <;> exact hbound
    refine ⟨hsound, Bound.appendPhase hsound (hsaved.mono he) events, events_appendPhase ?_⟩
    exact fun other hother => hevents job (event :: events) rfl other (List.mem_cons_of_mem _ hother)

/-! ### Every step keeps the invariant -/

/-- A process takes up a phase. -/
theorem Sound.withProcess (h : Sound s) {n : Nat} {p : Process} (hbound : Bound s p.call p.phase)
    (hevents : ∀ job events, p.phase = .appending job events →
      ∀ event ∈ events, event.jobId = job.id) : Sound (s.withProcess n p) where
  store := ⟨h.store.policies, h.store.targets, h.store.rows⟩
  wellKept := h.wellKept
  labelled := h.labelled
  held := h.held
  stored := h.stored
  made id call job hmade := by
    obtain ⟨hid, hbase, hmakes⟩ := h.made id call job hmade
    exact ⟨hid, hbase, hmakes.mono ⟨fun _ _ h => h, fun _ h => h, fun _ h => h, fun _ h => h⟩⟩
  remembered := h.remembered
  rowTargets := h.rowTargets
  listed := h.listed
  accepted request job hmem := by
    obtain ⟨hchecked, hknown⟩ := h.accepted request job hmem
    exact ⟨hchecked, hknown⟩
  bound m q hq := by
    have he : Extends s (s.withProcess n p) :=
      ⟨fun _ _ h => h, fun _ h => h, fun _ h => h, fun _ h => h⟩
    rcases Table.get_put_cases hq with ⟨-, rfl⟩ | ⟨-, hold⟩
    · exact hbound.mono he
    · exact (h.bound m q hold).mono he
  events m q job events hq := by
    rcases Table.get_put_cases hq with ⟨-, rfl⟩ | ⟨-, hold⟩
    · exact hevents job events
    · exact h.events m q job events hold

private theorem Sound.quiet (h : Sound s) (hquiet : Quiet s s') (hstore : StoreKnown s') :
    Sound s' := by
  have he : Extends s s' := by
    refine ⟨fun id entry hentry => ?_, ?_, hquiet.policyIds, ?_⟩
    · rw [hquiet.made]
      exact hentry
    · rw [hquiet.accepted]
      exact fun _ h => h
    · rw [hquiet.deletedTargets]
      exact fun _ h => h
  refine {
    store := hstore, wellKept := hquiet.wellKept h.wellKept,
    labelled := hquiet.labelled h.labelled, held := ?_, stored := ?_, made := ?_,
    remembered := ?_, rowTargets := ?_, listed := ?_, accepted := ?_, bound := ?_, events := ?_ }
  · rw [hquiet.held, hquiet.made]
    exact h.held
  · rw [hquiet.stored, hquiet.made]
    exact h.stored
  · rw [hquiet.made]
    intro id call job hmade
    obtain ⟨hid, hbase, hmakes⟩ := h.made id call job hmade
    exact ⟨hid, hbase, hmakes.mono he⟩
  · rw [hquiet.made, hquiet.held, hquiet.deletedTargets]
    exact h.remembered
  · rw [hquiet.persistent, hquiet.stored, hquiet.deletedTargets]
    exact h.rowTargets
  · rw [hquiet.stored, hquiet.made, hquiet.accepted]
    exact h.listed
  · rw [hquiet.accepted]
    intro request job hmem
    obtain ⟨hchecked, hknown⟩ := h.accepted request job hmem
    exact ⟨hchecked.mono he, hknown.mono he⟩
  · rw [hquiet.processes]
    intro n p hp
    exact (h.bound n p hp).mono he
  · rw [hquiet.processes]
    exact h.events

private theorem StoreKnown.withoutTarget (h : StoreKnown s) (targetId : TargetId) :
    StoreKnown (s.withoutTarget targetId) where
  policies policy hpolicy := by
    simp only [Service.withoutTarget, Service.storeWithout, List.mem_filter, List.mem_map]
      at hpolicy
    obtain ⟨⟨other, hother, rfl⟩, -⟩ := hpolicy
    exact h.policies other hother
  targets target htarget hdeleted := by
    simp only [Service.withoutTarget, Service.storeWithout, List.mem_filter, decide_eq_true_eq]
      at htarget
    rcases List.mem_append.mp hdeleted with hold | hnew
    · exact h.targets target htarget.1 hold
    · exact htarget.2 (List.mem_singleton.mp hnew)
  rows db hdb id hrow hdeleted := by
    simp only [Service.withoutTarget, Option.map_eq_some_iff] at hdb
    obtain ⟨old, hold, rfl⟩ := hdb
    simp only [JobDatabase.withoutTarget, Table.get_remove] at hrow
    split at hrow
    · cases hrow
    · rename_i hne
      rcases List.mem_append.mp hdeleted with hold' | hnew
      · exact h.rows old hold id hrow hold'
      · exact hne (List.mem_singleton.mp hnew)

private theorem Sound.withoutTarget (h : Sound s) {targetId : TargetId}
    (hidle : s.coordinator.targetHasActiveJobs targetId = false) :
    Sound (s.withoutTarget targetId) := by
  have he : Extends s (s.withoutTarget targetId) :=
    ⟨fun _ _ h => h, fun _ h => h, fun _ h => h, List.subset_append_left _ _⟩
  refine {
    store := h.store.withoutTarget targetId, wellKept := h.wellKept.remove hidle,
    labelled := h.labelled.withoutJobsOf targetId, held := ?_, stored := ?_, made := ?_,
    remembered := ?_, rowTargets := ?_, listed := ?_, accepted := ?_, bound := ?_,
    events := h.events }
  · intro id job hheld
    exact h.held id job ((Service.withoutTarget_held h.wellKept).mp hheld).1
  · intro id job hstored
    exact h.stored id job ((Service.withoutTarget_stored h.wellKept).mp hstored).1
  · intro id call job hmade
    obtain ⟨hid, hbase, hmakes⟩ := h.made id call job hmade
    exact ⟨hid, hbase, hmakes.mono he⟩
  · intro id call job hmade
    rcases h.remembered id call job hmade with hheld | ⟨target, hmem, htarget⟩
    · by_cases hgone : job.target = .target targetId
      · exact .inr ⟨targetId, List.mem_append_right _ (List.mem_singleton_self _), hgone⟩
      · exact .inl ((Service.withoutTarget_held h.wellKept).mpr ⟨hheld, hgone⟩)
    · exact .inr ⟨target, List.mem_append_left _ hmem, htarget⟩
  · intro hdb id job hstored target hdeleted
    obtain ⟨hstored, hstays⟩ := (Service.withoutTarget_stored h.wellKept).mp hstored
    have hdb' : s.database.isSome = true := by
      simpa [Service.withoutTarget] using hdb
    rcases List.mem_append.mp hdeleted with hold | hnew
    · exact h.rowTargets hdb' id job hstored target hold
    · rw [List.mem_singleton.mp hnew]
      exact hstays
  · intro id job hstored hkey role request hmade
    exact h.listed id job ((Service.withoutTarget_stored h.wellKept).mp hstored).1 hkey role request
      hmade
  · intro request job hmem
    obtain ⟨hchecked, hknown⟩ := h.accepted request job hmem
    exact ⟨hchecked.mono he, hknown.mono he⟩
  · intro n p hp
    exact (h.bound n p hp).mono he

/-- A policy that is added is known with its id. -/
private theorem known_append {policies : List UpdatePolicy} {ids : List String}
    (h : ∀ policy ∈ policies, policy.id ∈ ids) {added : UpdatePolicy} :
    ∀ policy ∈ policies ++ [added], policy.id ∈ ids ++ [added.id] := by
  intro policy hpolicy
  rcases List.mem_append.mp hpolicy with hold | hnew
  · exact List.mem_append_left _ (h policy hold)
  · rw [List.mem_singleton.mp hnew]
    exact List.mem_append_right _ (List.mem_singleton_self _)

/-- Targets and policies that come are known to the history. -/
theorem StoreKnown.step (h : StoreKnown s) {action : ServiceAction}
    (hstep : s.step action = some s') : StoreKnown s' := by
  cases action with
  | arrive n call =>
    obtain ⟨-, rfl⟩ := Service.arrive_some hstep
    exact ⟨h.policies, h.targets, h.rows⟩
  | advance n input =>
    cases step_cases hstep with
    | advance found fresh access =>
      have hframe := access.frame
      refine ⟨?_, ?_, ?_⟩
      · rw [Service.withProcess, hframe.store, hframe.policyIds]
        exact h.policies
      · rw [Service.withProcess, hframe.store, hframe.deletedTargets]
        exact h.targets
      · intro db hdb id hrow
        rw [Service.withProcess] at hdb ⊢
        dsimp only at hdb ⊢
        have htargets := hframe.targets
        rw [hdb] at htargets
        obtain ⟨old, hold, hsame⟩ := Option.map_eq_some_iff.mp htargets.symm
        rw [hframe.deletedTargets]
        rw [← hsame] at hrow
        exact h.rows old hold id hrow
    | quiet other hquiet => exact absurd rfl (other n input)
  | coordinate op =>
    obtain ⟨-, -, rfl⟩ := Service.coordinate_some hstep
    exact ⟨h.policies, h.targets, h.rows⟩
  | progress id path now =>
    obtain ⟨db, hdb, job, -, job', -, jobs, -, rfl⟩ := Service.progress_some hstep
    refine ⟨h.policies, h.targets, fun db' hdb' id hrow => ?_⟩
    obtain rfl := Option.some.inj hdb'
    exact h.rows db hdb id hrow
  | putTarget target =>
    obtain ⟨hnew, rfl⟩ := Service.putTarget_some hstep
    refine ⟨h.policies, ?_, ?_⟩
    · intro other hother
      rcases List.mem_append.mp hother with hold | hput
      · exact h.targets other (List.mem_filter.mp hold).1
      · rw [List.mem_singleton.mp hput]
        exact hnew
    · intro db hdb id hrow
      obtain ⟨old, hold, rfl⟩ := Option.map_eq_some_iff.mp hdb
      simp only [Table.get_put] at hrow
      split at hrow
      case isTrue heq =>
        rw [heq]
        exact hnew
      case isFalse => exact h.rows old hold id hrow
  | putContainer id state =>
    obtain rfl := Option.some.inj hstep
    exact ⟨h.policies, h.targets, h.rows⟩
  | createUpdatePolicy request =>
    obtain rfl := Service.createUpdatePolicy_some hstep
    exact ⟨known_append h.policies, h.targets, h.rows⟩
  | ensureDefaultUpdatePolicy =>
    obtain rfl := Option.some.inj hstep
    refine ⟨known_append fun policy hpolicy => ?_, h.targets, h.rows⟩
    exact h.policies policy (List.mem_filter.mp hpolicy).1
  | deleteUpdatePolicy id =>
    obtain rfl := Option.some.inj hstep
    exact ⟨fun policy hpolicy => h.policies policy (List.mem_filter.mp hpolicy).1, h.targets, h.rows⟩
  | deleteTarget id =>
    obtain ⟨-, rfl⟩ := Service.deleteTarget_some hstep
    exact h.withoutTarget id

theorem sound_fresh (configured : Except ApiError (List SecretId)) (persistent : Bool) :
    Sound (.fresh configured persistent) := by
  have hheld : ∀ id, (Service.fresh configured persistent).held id = none := by
    intro id
    simp [Service.held, Service.fresh, AnsibleJobCoordinator.default]
  have hstored : ∀ id, (Service.fresh configured persistent).stored id = none := by
    intro id
    cases persistent with
    | true => simp [Service.stored, Service.findJob, Service.fresh]
    | false => simp [Service.stored, Service.findJob, Service.fresh, AnsibleJobCoordinator.default]
  exact {
    store := ⟨by simp [Service.fresh], by simp [Service.fresh], by simp [Service.fresh]⟩
    wellKept := wellKept_default
    labelled := labelled_default
    held := fun id job h => by simp [hheld] at h
    stored := fun id job h => by simp [hstored] at h
    made := fun id call job h => by simp [Service.fresh] at h
    remembered := fun id call job h => by simp [Service.fresh] at h
    rowTargets := fun _ id job h => by simp [hstored] at h
    listed := fun id job h => by simp [hstored] at h
    accepted := fun request job h => by simp [Service.fresh] at h
    bound := fun n p h => by simp [Service.fresh] at h
    events := fun n p job events h => by simp [Service.fresh] at h }

/-- **Every step keeps the invariant.** -/
theorem Sound.step (h : Sound s) {action : ServiceAction} (hstep : s.step action = some s') :
    Sound s' := by
  have hstore := h.store.step hstep
  cases step_cases hstep with
  | @arrive n call unused =>
    refine h.withProcess ?_ fun _ _ hphase => by cases hphase
    cases call <;> exact trivial
  | @advance n input p _ phase found fresh access =>
    obtain ⟨hsound, hbound, hevents⟩ := h.access (h.bound n p found)
      (fun job events => h.events n p job events found) fresh access
    exact hsound.withProcess hbound hevents
  | quiet other hquiet => exact h.quiet hquiet hstore
  | delete idle => exact h.withoutTarget idle

/-- **The invariant holds in every state of every run.** -/
theorem sound_of_reach {ok : Service → ServiceAction → Prop} (h : serviceMachine.Reach ok s) :
    Sound s := by
  refine h.invariant (I := Sound) ?_ ?_
  · rintro s ⟨configured, persistent, rfl⟩
    exact sound_fresh configured persistent
  · intro s action s' _ hsound _ hstep
    exact hsound.step hstep

end Lxcup.Submission
