import Lxcup.Submission.PlanUse

/-!
# Sending an accepted request again

A request that was accepted is sent once more, in any later state of the service, while what it
reads of the store is unchanged and the maintenance window of its policy is open.  The lookup of
its key comes after the checks on package updates, and without a database after the check on
active jobs as well; both may refuse what was accepted before.

The answer names the job of the first submission exactly when these checks pass: the plan of an
application is still there and matches, no application of it is listed, and the table has the
key or no job of the target is active.

## Main definitions

* `Service.answerNow` — the answer to a call that runs without interruption.
* `Passes` — the checks that depend on the store only.
* `ReturnsJob` — the request is answered with success and the job of an id.
* `AcceptedUnchanged` — the request was accepted, and the store shows it the same still.
* `Resendable` — the condition on the state.

## Main results

* `seen_of_reach` — what an accepted request has read of the store lets it pass.
* `returnsJob_iff` — the request is answered with its job if and only if the state meets the
  condition.
* `application_sent_again_refused` — an application is refused when it is sent again.
-/

namespace Lxcup.Submission

open Lxcup.Lib Lxcup.Core Lxcup.Ansible Lxcup.Persistence Lxcup.Server

/-! ### A call without interruption -/

/-- The answer to a call that runs without interruption from a phase, if it takes no more than the
given number of accesses. -/
def Service.answerNow (s : Service) (call : Call) (input : Input) : Nat → Phase → Option Answer
  | _, .answered answer => some answer
  | 0, _ => none
  | count + 1, phase =>
    match s.next call input phase with
    | none => none
    | some (s', phase') => s'.answerNow call input count phase'

/-- A request that is sent without interruption; sixteen accesses are enough for every path. -/
def Service.createAnsibleJob (s : Service) (role : ActorRole) (request : CreateAnsibleJobRequest)
    (input : Input) : Option Answer :=
  s.answerNow (.create role request) input 16 .arrived

/-- The answer is one of success, with the job of the id. -/
def ReturnsJob (answer : Option Answer) (id : AnsibleJobId) : Prop :=
  ∃ status job, answer = some (.ok (status, job)) ∧ job.id = id

/-! ### What a request has seen of the store -/

/-- The checks of a request up to the policy, on one view of the store. -/
def PassesTarget (request : CreateAnsibleJobRequest) (view : StoreView) (resolved : ResolvedTarget) :
    Prop :=
  resolveAnsibleTarget view request = .ok resolved ∧
    validateWindowsAgentOperation view resolved.target request.operation request.parameters
      = .ok ()

/-- The checks of a package update on its policy, on one view of the store. -/
def PassesPolicy (request : CreateAnsibleJobRequest) (view : StoreView) (resolved : ResolvedTarget)
    (policy : UpdatePolicy) (plan : Option AnsibleJobId) : Prop :=
  checkPolicy view request resolved.target = .ok (some policy) ∧ ∃ targetId now,
    resolved.target = .target targetId ∧ checkPackages view request targetId policy now = .ok plan

/-- The checks that depend on the store only. -/
def Passes (configured : Except ApiError (List SecretId)) (request : CreateAnsibleJobRequest)
    (view : StoreView) : Prop :=
  ∃ resolved secretRefs, PassesTarget request view resolved ∧
    resolveJobSecretRefs configured request.operation resolved.secretRef = .ok secretRefs ∧
    (checkPolicy view request resolved.target = .ok none ∨
      ∃ policy plan, PassesPolicy request view resolved policy plan)

/-- What a request has passed by the time of a phase, if all its readings were the view. -/
def Seen (configured : Except ApiError (List SecretId)) (request : CreateAnsibleJobRequest)
    (view : StoreView) : Phase → Prop
  | .resolved resolved => resolveAnsibleTarget view request = .ok resolved
  | .windowsChecked resolved => PassesTarget request view resolved
  | .policyLoaded resolved policy => PassesTarget request view resolved ∧
    checkPolicy view request resolved.target = .ok (some policy)
  | .planNamed resolved policy planId | .planMatched resolved policy planId =>
    PassesTarget request view resolved ∧ PassesPolicy request view resolved policy (some planId)
  | .validated _ | .keyUnused _ | .notActive _ | .unresolved _ | .unblocked _ | .free _
  | .created _ | .saved _ | .appending .. | .answered (.ok _) => Passes configured request view
  | _ => True

/-- Every request has passed what its phase says. -/
def SeenBy (s : Service) (p : Process) : Prop :=
  ∀ role request view, p.call = .create role request → (∀ seen ∈ p.reads, seen = view) →
    Seen s.configured request view p.phase

variable {s s' : Service}

private theorem seen_validatedPhase {role : ActorRole} {request : CreateAnsibleJobRequest}
    {view : StoreView} {resolved : ResolvedTarget} (htarget : PassesTarget request view resolved)
    (hpolicy : checkPolicy view request resolved.target = .ok none ∨
      ∃ policy plan, PassesPolicy request view resolved policy plan) :
    Seen s.configured request view (s.validatedPhase role request resolved) := by
  unfold Service.validatedPhase
  split
  · exact trivial
  · rename_i secretRefs hsecrets
    exact ⟨resolved, secretRefs, htarget, hsecrets, hpolicy⟩

/-- A reading of the store, on top of earlier ones with the same result. -/
private theorem seen_readStore {role : ActorRole} {request : CreateAnsibleJobRequest}
    {now : Timestamp} {phase phase' : Phase}
    (h : Seen s.configured request (s.store.view request) phase)
    (hread : s.readStore role request now phase = some phase') :
    Seen s.configured request (s.store.view request) phase' := by
  cases phase with
  | arrived =>
    simp only [Service.readStore] at hread
    split at hread
    · obtain rfl := Option.some.inj hread
      exact trivial
    · rename_i resolved hresolved
      obtain rfl := Option.some.inj hread
      exact hresolved
  | resolved resolved =>
    simp only [Service.readStore] at hread
    split at hread
    · obtain rfl := Option.some.inj hread
      exact trivial
    · rename_i hwindows
      obtain rfl := Option.some.inj hread
      exact ⟨h, hwindows⟩
  | windowsChecked resolved =>
    simp only [Service.readStore] at hread
    split at hread
    · obtain rfl := Option.some.inj hread
      exact trivial
    · rename_i hpolicy
      obtain rfl := Option.some.inj hread
      exact seen_validatedPhase h (.inl hpolicy)
    · rename_i policy hpolicy
      obtain rfl := Option.some.inj hread
      exact ⟨h, hpolicy⟩
  | policyLoaded resolved policy =>
    obtain ⟨htarget, hpolicy⟩ := h
    simp only [Service.readStore] at hread
    split at hread
    · rename_i targetId hresolved
      split at hread
      · obtain rfl := Option.some.inj hread
        exact trivial
      · rename_i hpackages
        obtain rfl := Option.some.inj hread
        exact seen_validatedPhase htarget
          (.inr ⟨policy, none, hpolicy, targetId, now, hresolved, hpackages⟩)
      · rename_i planId hpackages
        obtain rfl := Option.some.inj hread
        exact ⟨htarget, hpolicy, targetId, now, hresolved, hpackages⟩
    · cases hread
  | _ => cases hread

private theorem seen_readJobs {role : ActorRole} {request : CreateAnsibleJobRequest}
    {view : StoreView} {phase phase' : Phase} (h : Seen s.configured request view phase)
    (hread : s.readJobs role request phase = some phase') :
    Seen s.configured request view phase' := by
  cases jobsRead_of_readJobs hread with
  | refused => exact trivial
  | planFound => exact h
  | @planUnused resolved policy planId unused =>
    obtain ⟨htarget, hpolicy⟩ := h
    exact seen_validatedPhase htarget (.inr ⟨policy, some planId, hpolicy⟩)
  | known => exact h
  | inMemory => exact h
  | unknown => exact h
  | idle => exact h
  | unreconciled => exact h
  | reconciled => exact h
  | free => exact h

private theorem seen_appendPhase {request : CreateAnsibleJobRequest} {view : StoreView}
    (h : Passes s.configured request view) (job : AnsibleJob) (events : List JobEvent) :
    Seen s.configured request view (Service.appendPhase job events) := by
  cases events <;> exact h

/-- What a request knows after its next access. -/
theorem SeenBy.access {p : Process} {input : Input} {phase : Phase} (h : SeenBy s p)
    (hbound : Bound s p.call p.phase) (access : Access s p.call input p.phase s' phase) :
    SeenBy s' { p with phase := phase, reads := p.readsAfter s.store } := by
  rintro role request view hcall hreads
  dsimp only at hcall hreads
  rw [access.frame.configured]
  obtain ⟨call, before, seen⟩ := p
  obtain rfl : call = .create role request := hcall
  -- the readings so far were the view as well
  have hbefore : Seen s.configured request view before := by
    refine h role request view rfl fun other hother => hreads other ?_
    simp only [Process.readsAfter]
    split
    · exact List.mem_append_left _ hother
    · exact hother
  dsimp only at access
  cases access with
  | read next open' =>
    simp only [Service.read] at next
    split at next
    · rename_i hstore
      have hview : s.store.view request = view := by
        refine hreads _ ?_
        simp only [Process.readsAfter, hstore, if_true]
        exact List.mem_append_right _ (List.mem_singleton_self _)
      subst hview
      exact seen_readStore hbefore next
    · exact seen_readJobs hbefore next
  | refused lost => exact trivial
  | found isCreate persistent row => exact hbefore
  | foundSource isReconcile persistent row => cases isReconcile
  | @made _ job locks origin unused locked =>
    have hpasses : Passes s.configured request view := by
      cases origin with
      | request accepts => exact hbefore
      | source => exact hbound.elim
    rcases (s.registered locks job input.now).afterCreated_cases (.create role request) job with
      ⟨-, -, hphase⟩ | ⟨-, -, hphase⟩
    · dsimp only
      rw [hphase]
      exact hpasses
    · dsimp only
      rw [hphase]
      exact hpasses
  | duplicate entry known => exact hbefore
  | duplicateSource entry known => exact hbound.elim
  | inserted persistent row next =>
    rcases next with rfl | ⟨rfl, -⟩
    · exact hbefore
    · exact hbefore
  | listed known => exact seen_appendPhase hbefore _ _
  | appended persistent row => exact seen_appendPhase hbefore _ _

/-- **What a request has read of the store lets it pass**, in every state of every run. -/
theorem seen_of_reach {ok : Service → ServiceAction → Prop} (h : serviceMachine.Reach ok s) :
    ∀ n p, s.processes.get n = some p → SeenBy s p := by
  refine h.invariant (I := fun s => ∀ n p, s.processes.get n = some p → SeenBy s p) ?_ ?_
  · rintro s ⟨configured, persistent, rfl⟩ n p hp
    simp [Service.fresh] at hp
  · intro s action s' hreach hseen _ hstep
    have hsound := sound_of_reach hreach
    cases step_cases hstep with
    | @arrive n call unused =>
      intro m q hq
      change (s.processes.put n _).get m = some q at hq
      rw [Table.get_put] at hq
      split at hq
      · obtain rfl := Option.some.inj hq
        exact fun role request view _ _ => trivial
      · exact hseen m q hq
    | @advance n input p s'' phase found fresh access =>
      intro m q hq
      have hframe := access.frame
      change (s''.processes.put n _).get m = some q at hq
      rw [Table.get_put, hframe.processes] at hq
      split at hq
      · obtain rfl := Option.some.inj hq
        have hnow := (hseen n p found).access (hsound.bound n p found) access
        intro role request view hcall hreads
        exact hnow role request view hcall hreads
      · intro role request view hcall hreads
        change Seen s''.configured request view q.phase
        rw [hframe.configured]
        exact hseen m q hq role request view hcall hreads
    | quiet other hquiet =>
      rw [hquiet.processes]
      intro n p hp role request view hcall hreads
      rw [hquiet.configured]
      exact hseen n p hp role request view hcall hreads
    | delete idle => exact hseen

/-! ### The condition -/

/-- The maintenance window of the policy that a request sees is open. -/
def WindowOpen (request : CreateAnsibleJobRequest) (view : StoreView) (now : Timestamp) : Prop :=
  ∀ policy target, view.policy = some policy → request.targetId = some target →
    ∀ package ∈ requestedPackages request, policy.allows target package .high now = true

/-- The plan of an application is there and matches, and no application of it is listed. -/
def PlanUnused (s : Service) (request : CreateAnsibleJobRequest) : Prop :=
  request.operation = .updatePackages → request.mode = .apply →
    ∃ planId plan policyId, request.approvedPlanJobId = some planId ∧
      request.policyId = some policyId ∧ s.findJob planId = some plan ∧
      planMatchesRequest plan request (resourceOf request) policyId = true ∧
      s.jobList.any (usesPlan planId) = false

/-- The table has a job under the key of the request. -/
def KeyInTable (s : Service) (request : CreateAnsibleJobRequest) : Prop :=
  ∃ db, s.database = some db ∧
    (db.findByIdempotencyKey (resourceOf request) request.idempotencyKey).isSome = true

/-- No job of the target is active. -/
def TargetIdle (s : Service) (target : ResourceTarget) : Prop :=
  ∀ job ∈ s.jobList, job.target = target → isActiveJobStatus job.status = false

/-- What a state must have for an accepted request to be sent again. -/
def Resendable (s : Service) (request : CreateAnsibleJobRequest) : Prop :=
  PlanUnused s request ∧ (KeyInTable s request ∨ TargetIdle s (resourceOf request))

/-- A request was accepted with a job, and has seen of the store what is there now. -/
def AcceptedUnchanged (s : Service) (role : ActorRole) (request : CreateAnsibleJobRequest)
    (job : AnsibleJob) : Prop :=
  ∃ n p status, s.processes.get n = some p ∧ p.call = .create role request ∧
    p.phase = .answered (.ok (status, job)) ∧ ∀ seen ∈ p.reads, seen = s.store.view request

/-! ### One access after the other -/

variable {role : ActorRole} {request : CreateAnsibleJobRequest} {input : Input}

/-- A reading of a request, when the database answers. -/
private theorem next_of_read {phase phase' : Phase} (hfails : input.fails = false)
    (hread : s.read (.create role request) input.now phase = some phase') :
    s.next (.create role request) input phase
      = some (s.answer (.create role request) phase') := by
  have hanswers : s.readFails (.create role request) phase input.fails = false := by
    simp [Service.readFails, hfails]
  cases phase with
  | free asked => cases hread
  | sourceFree source => cases hread
  | created job => cases hread
  | saved job => cases hread
  | appending job events => cases hread
  | answered answer => cases hread
  | _ => simp only [Service.next, hanswers, hread, Option.map_some, Bool.false_eq_true, if_false]

/-- A call goes on after a reading that does not answer with a job. -/
private theorem answerNow_of_read {phase phase' : Phase} {count : Nat}
    (hfails : input.fails = false)
    (hread : s.read (.create role request) input.now phase = some phase')
    (hopen : ∀ found, phase' ≠ .answered (.ok found)) :
    s.answerNow (.create role request) input (count + 1) phase
      = s.answerNow (.create role request) input count phase' := by
  have hnext := next_of_read hfails hread
  have hanswer : s.answer (.create role request) phase' = (s, phase') := by
    cases phase' with
    | answered answer =>
      cases answer with
      | error e => rfl
      | ok found => exact absurd rfl (hopen found)
    | _ => rfl
  rw [hanswer] at hnext
  cases phase with
  | answered answer => cases hnext
  | _ => simp only [Service.answerNow, hnext]

/-- A call that is refused returns no job. -/
private theorem not_returnsJob_of_read {phase : Phase} {error : ApiError} {count : Nat}
    {id : AnsibleJobId} (hfails : input.fails = false)
    (hread : s.read (.create role request) input.now phase = some (.answered (.error error))) :
    ¬ ReturnsJob (s.answerNow (.create role request) input (count + 1) phase) id := by
  rw [answerNow_of_read hfails hread (by simp)]
  rintro ⟨status, job, hanswer, -⟩
  cases count <;> cases hanswer

/-! ### The way to the key -/

/-- While the window is open, the time does not matter. -/
private theorem checkPackages_of_window {view : StoreView} {targetId : TargetId}
    {policy : UpdatePolicy} {now now' : Timestamp} {plan : Option AnsibleJobId}
    (h : checkPackages view request targetId policy now = .ok plan)
    (hopen : ∀ package ∈ requestedPackages request,
      policy.allows targetId package .high now' = true) :
    checkPackages view request targetId policy now' = .ok plan := by
  have hallowed : ((requestedPackages request).any fun package =>
      !policy.allows targetId package .high now') = false := by
    simpa using hopen
  simp only [checkPackages, bind, Except.bind] at h ⊢
  cases hplatform : validatePlatformPackageIds view (requestedPackages request) with
  | error e =>
    rw [hplatform] at h
    cases h
  | ok _ =>
    rw [hplatform] at h
    cases hpolicy : validatePolicyAllowsPackages policy targetId (requestedPackages request) with
    | error e =>
      rw [hpolicy] at h
      cases h
    | ok _ =>
      rw [hpolicy] at h
      cases hmode : request.mode with
      | apply =>
        -- the only check that reads the time
        simp only [hmode, checkApply] at h ⊢
        cases hplan : request.approvedPlanJobId with
        | none =>
          rw [hplan] at h
          cases h
        | some planId =>
          simp only [hplan, hallowed, Bool.false_eq_true, if_false] at h ⊢
          split at h
          · cases h
          · split at h
            · cases h
            · rename_i hkey _
              rw [if_neg hkey]
              exact h
      | plan =>
        simp only [hmode] at h ⊢
        exact h
      | check =>
        simp only [hmode] at h
        cases h
      | reconcile =>
        simp only [hmode] at h
        cases h

/-- The end of the checks on a request that passes them. -/
private theorem validatedPhase_of_secretRefs {resolved : ResolvedTarget} {secretRefs : List SecretId}
    (h : resolveJobSecretRefs s.configured request.operation resolved.secretRef = .ok secretRefs) :
    s.validatedPhase role request resolved
      = .validated (request.jobRequest resolved secretRefs role) := by
  simp only [Service.validatedPhase, h]

/-- From a plan that is loaded, a request comes to the key exactly when the plan is unused. -/
private theorem answerNow_planNamed {resolved : ResolvedTarget} {policy : UpdatePolicy}
    {planId : AnsibleJobId} {asked : AnsibleJobRequest} {count : Nat} {id : AnsibleJobId}
    (hfails : input.fails = false) (htarget : resolved.target = resourceOf request)
    (hvalidated : s.validatedPhase role request resolved = .validated asked) :
    ReturnsJob (s.answerNow (.create role request) input (count + 2)
        (.planNamed resolved policy planId)) id ↔
      (∃ plan, s.findJob planId = some plan ∧
        planMatchesRequest plan request (resourceOf request) policy.id = true ∧
        s.jobList.any (usesPlan planId) = false) ∧
      ReturnsJob (s.answerNow (.create role request) input count (.validated asked)) id := by
  have hnamed : s.read (.create role request) input.now (.planNamed resolved policy planId)
      = s.readJobs role request (.planNamed resolved policy planId) := rfl
  have hmatched : s.read (.create role request) input.now (.planMatched resolved policy planId)
      = s.readJobs role request (.planMatched resolved policy planId) := rfl
  simp only [Service.readJobs, htarget, hvalidated] at hnamed hmatched
  cases hfound : s.findJob planId with
  | none =>
    simp only [hfound] at hnamed
    refine iff_of_false (not_returnsJob_of_read hfails hnamed) ?_
    rintro ⟨⟨plan, hplan, -⟩, -⟩
    cases hplan
  | some plan =>
    simp only [hfound] at hnamed
    by_cases hmatches : planMatchesRequest plan request (resourceOf request) policy.id = true
    · rw [if_pos hmatches] at hnamed
      rw [answerNow_of_read hfails hnamed (by simp)]
      cases hused : s.jobList.any (usesPlan planId) with
      | true =>
        simp only [hused, if_true] at hmatched
        refine iff_of_false (not_returnsJob_of_read hfails hmatched) ?_
        rintro ⟨⟨-, -, -, hunused⟩, -⟩
        cases hunused
      | false =>
        simp only [hused, Bool.false_eq_true, if_false] at hmatched
        rw [answerNow_of_read hfails hmatched (by simp)]
        exact ⟨fun h => ⟨⟨plan, rfl, hmatches, rfl⟩, h⟩, fun h => h.2⟩
    · rw [if_neg hmatches] at hnamed
      refine iff_of_false (not_returnsJob_of_read hfails hnamed) ?_
      rintro ⟨⟨other, hother, hmatches', -⟩, -⟩
      obtain rfl := Option.some.inj hother
      exact hmatches hmatches'

/-! ### From the key on -/

theorem findActiveTargetJob_eq_none {jobs : List AnsibleJob} {target : ResourceTarget} :
    findActiveTargetJob jobs target none = none ↔
      ∀ job ∈ jobs, job.target = target → isActiveJobStatus job.status = false := by
  unfold findActiveTargetJob
  split
  · rename_i hnone
    simp only [List.filter_eq_nil_iff, Bool.and_eq_true, decide_eq_true_eq, not_and,
      Bool.not_eq_true] at hnone
    exact iff_of_true rfl fun job hjob htarget => hnone job hjob ⟨htarget, by simp⟩
  · rename_i job rest hsome
    refine iff_of_false (by simp) fun hidle => ?_
    have hmem : job ∈ jobs.filter _ := hsome ▸ List.mem_cons_self
    simp only [List.mem_filter, Bool.and_eq_true, decide_eq_true_eq] at hmem
    rw [hidle job hmem.1 hmem.2.1.1] at hmem
    exact Bool.false_ne_true hmem.2.2

/-- With a database, an idle target is one that `has_active_target` does not find. -/
private theorem targetIdle_iff {db : JobDatabase} (hdb : s.database = some db)
    {target : ResourceTarget} : TargetIdle s target ↔ db.hasActiveTarget target = false := by
  simp only [TargetIdle, Service.jobList, hdb, JobDatabase.hasActiveTarget, JobTable.any_eq_false,
    JobTable.mem_list, Bool.and_eq_false_imp, decide_eq_true_eq]
  constructor
  · intro h id job hjob
    exact h job ⟨id, hjob⟩
  · intro h job hmem
    obtain ⟨id, hjob⟩ := hmem
    exact h id job hjob

/-- A job that waits for its reconciliation is active. -/
private theorem hasReconciliationRequiredTarget_of_idle {db : JobDatabase} {target : ResourceTarget}
    (h : db.hasActiveTarget target = false) :
    db.hasReconciliationRequiredTarget target = false := by
  simp only [JobDatabase.hasActiveTarget, JobDatabase.hasReconciliationRequiredTarget,
    JobTable.any_eq_false, Bool.and_eq_false_imp, decide_eq_true_eq] at h ⊢
  intro id job hjob htarget
  have hidle := h id job hjob htarget
  simp only [isActiveJobStatus, Bool.or_eq_false_iff] at hidle
  exact hidle.2

/-- The key of the request is free, or is that of the job. -/
private theorem answerNow_unblocked {asked : AnsibleJobRequest} {count : Nat} {id : AnsibleJobId}
    {job : AnsibleJob} (hfails : input.fails = false)
    (hentry : s.coordinator.idempotency.get (asked.target, asked.idempotencyKey) = some id)
    (hjob : s.coordinator.jobs.get id = some job) (hid : job.id = id) :
    ReturnsJob (s.answerNow (.create role request) input (count + 2) (.unblocked asked)) id ↔
      TargetIdle s asked.target := by
  have hread : s.read (.create role request) input.now (.unblocked asked)
      = s.readJobs role request (.unblocked asked) := rfl
  simp only [Service.readJobs] at hread
  rw [TargetIdle, ← findActiveTargetJob_eq_none]
  cases hfound : findActiveTargetJob s.jobList asked.target none with
  | some blocking =>
    rw [hfound] at hread
    exact iff_of_false (not_returnsJob_of_read hfails hread) (by simp)
  | none =>
    rw [hfound] at hread
    rw [answerNow_of_read hfails hread (by simp)]
    have hnext : s.next (.create role request) input (.free asked)
        = some (s.accept (.create role request) job, .answered (.ok (200, job))) := by
      simp only [Service.next, Service.submit, AnsibleJobCoordinator.submit, hentry, hjob]
    refine iff_of_true ⟨200, job, ?_, hid⟩ rfl
    simp only [Service.answerNow, hnext]

/-- The job of the request: its key is known, and its target was not deleted. -/
private structure JobOf (s : Service) (request : CreateAnsibleJobRequest) (job : AnsibleJob) :
    Prop where
  known : Known s job
  target : job.target = resourceOf request
  key : job.idempotencyKey = request.idempotencyKey
  there : ∀ target ∈ s.deletedTargets, job.target ≠ .target target

/-- The coordinator answers with the job of the request. -/
private theorem JobOf.entry {job : AnsibleJob} (h : JobOf s request job) (hsound : Sound s) :
    s.coordinator.idempotency.get (resourceOf request, request.idempotencyKey) = some job.id ∧
      ∃ held, s.coordinator.jobs.get job.id = some held ∧ held.id = job.id := by
  obtain ⟨call, hmade⟩ := h.known
  have hentry := hsound.indexed hmade h.there
  obtain ⟨held, hheld, -, -⟩ := hsound.wellKept.indexed _ _ _ hentry
  refine ⟨?_, held, hheld, hsound.wellKept.keyed _ held hheld⟩
  rw [← h.target, ← h.key]
  exact hentry

/-- The row of the key is the job of the request. -/
private theorem JobOf.row {job row : AnsibleJob} (h : JobOf s request job) (hsound : Sound s)
    {db : JobDatabase} (hdb : s.database = some db)
    (hrow : db.findByIdempotencyKey (resourceOf request) request.idempotencyKey = some row) :
    row.id = job.id := by
  obtain ⟨⟨call, hmade⟩, htarget, hkey, -⟩ := hsound.known_of_key hdb hrow
  obtain ⟨call', hmade'⟩ := h.known
  have hsame : (base job).target = (base row).target := h.target.trans htarget.symm
  exact (hsound.unique hmade' hmade hsame (h.key.trans hkey.symm) h.there).symm

/-- From the lookup of its key on, a request is answered with its job exactly when the table has
the key or the target is idle. -/
private theorem answerNow_validated {asked : AnsibleJobRequest} {job : AnsibleJob} {count : Nat}
    (h : JobOf s request job) (hsound : Sound s) (hfails : input.fails = false)
    (htarget : asked.target = resourceOf request)
    (hkey : asked.idempotencyKey = request.idempotencyKey) :
    ReturnsJob (s.answerNow (.create role request) input (count + 5) (.validated asked)) job.id ↔
      KeyInTable s request ∨ TargetIdle s (resourceOf request) := by
  obtain ⟨hentry, held, hheld, hid⟩ := h.entry hsound
  rw [← htarget, ← hkey] at hentry
  have hread : s.read (.create role request) input.now (.validated asked)
      = s.readJobs role request (.validated asked) := rfl
  simp only [Service.readJobs, htarget, hkey] at hread
  cases hdb : s.database with
  | none =>
    simp only [hdb] at hread
    have hnot : ¬ KeyInTable s request := by
      rintro ⟨db, hsome, -⟩
      rw [hdb] at hsome
      cases hsome
    rw [answerNow_of_read hfails hread (by simp), answerNow_unblocked hfails hentry hheld hid,
      htarget]
    simp only [hnot, false_or]
  | some db =>
    simp only [hdb] at hread
    cases hrow : db.findByIdempotencyKey (resourceOf request) request.idempotencyKey with
    | some row =>
      rw [hrow] at hread
      have hnext := next_of_read hfails hread
      refine iff_of_true ⟨200, row, ?_, h.row hsound hdb hrow⟩ (.inl ⟨db, hdb, by rw [hrow]; rfl⟩)
      simp only [Service.answerNow, hnext, Service.answer]
    | none =>
      rw [hrow] at hread
      rw [answerNow_of_read hfails hread (by simp)]
      have hnot : ¬ KeyInTable s request := by
        rintro ⟨db', hsome, hfound⟩
        rw [hdb] at hsome
        obtain rfl := Option.some.inj hsome
        rw [hrow] at hfound
        cases hfound
      have hidle : TargetIdle s (resourceOf request) ↔
          db.hasActiveTarget asked.target = false := by
        rw [htarget]
        exact targetIdle_iff hdb
      have hunused : s.read (.create role request) input.now (.keyUnused asked)
          = s.readJobs role request (.keyUnused asked) := rfl
      have hnotActive : s.read (.create role request) input.now (.notActive asked)
          = s.readJobs role request (.notActive asked) := rfl
      simp only [Service.readJobs, hdb, Option.bind_some] at hunused hnotActive
      simp only [hnot, false_or]
      cases hactive : db.hasActiveTarget asked.target with
      | true =>
        rw [hactive, if_pos rfl] at hunused
        refine iff_of_false (not_returnsJob_of_read hfails hunused) ?_
        rw [hidle, hactive]
        simp
      | false =>
        have hnone := hasReconciliationRequiredTarget_of_idle hactive
        simp only [hactive, hnone, Bool.false_eq_true, if_false] at hunused hnotActive
        rw [answerNow_of_read hfails hunused (by simp),
          answerNow_of_read hfails hnotActive (by simp),
          answerNow_unblocked hfails hentry hheld hid, htarget]

/-! ### The whole way -/

private theorem targetId_of_resourceOf {targetId : TargetId}
    (h : resourceOf request = .target targetId) : request.targetId = some targetId := by
  unfold resourceOf at h
  split at h
  · rename_i id hid
    obtain rfl := ResourceTarget.target.inj h
    exact hid
  · cases h

/-- A request that passes the checks on the store comes to the key, if its plan is unused. -/
private theorem answerNow_arrived {job : AnsibleJob} (h : JobOf s request job) (hsound : Sound s)
    (hfails : input.fails = false) (hpasses : Passes s.configured request (s.store.view request))
    (hopen : WindowOpen request (s.store.view request) input.now) :
    ReturnsJob (s.createAnsibleJob role request input) job.id ↔ Resendable s request := by
  obtain ⟨resolved, secretRefs, ⟨hresolved, hwindows⟩, hsecrets, hpolicy⟩ := hpasses
  have htarget := resolveAnsibleTarget_ok hresolved
  have hvalidated := @validatedPhase_of_secretRefs s role request resolved secretRefs hsecrets
  have harrived : s.read (.create role request) input.now .arrived
      = s.readStore role request input.now .arrived := rfl
  have hsecond : s.read (.create role request) input.now (.resolved resolved)
      = s.readStore role request input.now (.resolved resolved) := rfl
  have hthird : s.read (.create role request) input.now (.windowsChecked resolved)
      = s.readStore role request input.now (.windowsChecked resolved) := rfl
  simp only [Service.readStore, hresolved] at harrived
  simp only [Service.readStore, hwindows] at hsecond
  simp only [Service.readStore] at hthird
  rw [Service.createAnsibleJob, answerNow_of_read hfails harrived (by simp),
    answerNow_of_read hfails hsecond (by simp)]
  rcases hpolicy with hnone | ⟨policy, plan, hpolicy, targetId, now, hregistered, hpackages⟩
  · -- no package update
    have hother : request.operation ≠ .updatePackages := by
      rcases checkPolicy_ok hnone with ⟨hother, -⟩ | ⟨_, _, _, _, _, hsome⟩
      · exact hother
      · cases hsome
    rw [hnone] at hthird
    dsimp only at hthird
    rw [hvalidated] at hthird
    rw [answerNow_of_read hfails hthird (by simp),
      answerNow_validated h hsound hfails htarget rfl]
    exact ⟨fun hkey => ⟨fun hoperation => absurd hoperation hother, hkey⟩, fun hre => hre.2⟩
  · rw [hpolicy] at hthird
    rw [answerNow_of_read hfails hthird (by simp)]
    obtain ⟨hoperation, hview⟩ : request.operation = .updatePackages ∧
        (s.store.view request).policy = some policy := by
      rcases checkPolicy_ok hpolicy with ⟨-, hnone⟩ | ⟨_, found, hoperation, -, hview, hsame⟩
      · cases hnone
      · exact ⟨hoperation, hview.trans hsame.symm⟩
    have hnow := checkPackages_of_window hpackages
      (hopen policy targetId hview (targetId_of_resourceOf (htarget.symm.trans hregistered)))
    have hfourth : s.read (.create role request) input.now (.policyLoaded resolved policy)
        = s.readStore role request input.now (.policyLoaded resolved policy) := rfl
    simp only [Service.readStore, hregistered, hnow] at hfourth
    rcases checkPackages_ok hpackages with ⟨hmode, rfl, -⟩ | ⟨planId, hmode, rfl, hplan, -⟩
    · -- a plan
      dsimp only at hfourth
      rw [hvalidated] at hfourth
      rw [answerNow_of_read hfails hfourth (by simp),
        answerNow_validated h hsound hfails htarget rfl]
      refine ⟨fun hkey => ⟨fun _ happly => ?_, hkey⟩, fun hre => hre.2⟩
      rw [hmode] at happly
      cases happly
    · -- an application
      rw [answerNow_of_read hfails hfourth (by simp), answerNow_planNamed hfails htarget hvalidated,
        answerNow_validated h hsound hfails htarget rfl]
      refine and_congr_left fun _ => ⟨?_, fun hunused => ?_⟩
      · rintro ⟨plan, hfound, hmatches, hnone⟩ _ _
        exact ⟨planId, plan, policy.id, hplan, (view_policy hview).1, hfound, hmatches, hnone⟩
      · obtain ⟨planId', plan, policyId, hplan', hpolicyId, hfound, hmatches, hnone⟩ :=
          hunused hoperation hmode
        obtain rfl := Option.some.inj (hplan.symm.trans hplan')
        obtain rfl := Option.some.inj ((view_policy hview).1.symm.trans hpolicyId)
        exact ⟨plan, hfound, hmatches, hnone⟩

/-- The target of a request that sees it was not deleted. -/
private theorem Sound.there_of_passes (hsound : Sound s) {resolved : ResolvedTarget}
    (h : resolveAnsibleTarget (s.store.view request) request = .ok resolved) :
    ∀ target ∈ s.deletedTargets, resourceOf request ≠ .target target := by
  intro target hdeleted hsame
  have htargetId := targetId_of_resourceOf hsame
  simp only [resolveAnsibleTarget, htargetId] at h
  split at h
  · cases h
  · rename_i found hfound
    simp only [WorkflowStore.view, htargetId, Option.bind_some] at hfound
    have hid := List.find?_some hfound
    rw [decide_eq_true_eq] at hid
    exact hsound.store.targets found (List.mem_of_find?_eq_some hfound) (hid ▸ hdeleted)

/-- **A request that was accepted is answered with its job when it is sent again if and only if**
the plan it applies is still unused, and the table has its key or its target is idle. -/
theorem returnsJob_iff (h : serviceMachine.Reach Machine.Any s) {job : AnsibleJob}
    (haccepted : AcceptedUnchanged s role request job)
    (hopen : WindowOpen request (s.store.view request) input.now) (hfails : input.fails = false) :
    ReturnsJob (s.createAnsibleJob role request input) job.id ↔ Resendable s request := by
  obtain ⟨n, p, status, hp, hcall, hanswered, hsame⟩ := haccepted
  have hsound := sound_of_reach h
  have hpasses := seen_of_reach h n p hp role request _ hcall hsame
  have hbound := hsound.bound n p hp
  rw [hanswered] at hpasses
  rw [hcall, hanswered] at hbound
  obtain ⟨hknown, htarget, hkey, -⟩ := hbound
  have hjob : JobOf s request job := by
    obtain ⟨resolved, _, ⟨hresolved, -⟩, -, -⟩ := hpasses
    refine ⟨hknown, htarget, hkey, ?_⟩
    rw [htarget]
    exact hsound.there_of_passes hresolved
  exact answerNow_arrived hjob hsound hfails hpasses hopen

private theorem acceptedUnchanged_of_answeredJob {n : Nat} {p : Process} {job : AnsibleJob}
    (hp : s.processes.get n = some p) (hcall : p.call = .create role request)
    (hjob : answeredJob s n = some job) (hsame : ∀ seen ∈ p.reads, seen = s.store.view request) :
    AcceptedUnchanged s role request job := by
  obtain ⟨p', status, hp', hphase⟩ := phase_of_answeredJob hjob
  obtain rfl := Option.some.inj (hp'.symm.trans hp)
  exact ⟨n, p', status, hp, hcall, hphase, hsame⟩

/-- A health check is sent again while its job is active; the table has the key. -/
theorem health_check_sent_again :
    ∃ s job, serviceMachine.Reach Machine.Any s ∧
      AcceptedUnchanged s .admin (healthCheckUnder "key") job ∧
      ReturnsJob (s.createAnsibleJob .admin (healthCheckUnder "key") ⟨0, ⟨⟨3⟩⟩, false⟩) job.id := by
  have hrun : ∃ s ∈ serviceMachine.exec Machine.Any (sampleService true)
      (setUp [] ++ sends 1 8 ⟨⟨1⟩⟩ (healthCheckUnder "key") ++ advances 1 3 ⟨⟨2⟩⟩ ++
        [.progress ⟨⟨1⟩⟩ [.checking] 0]),
      (∃ p ∈ s.processes.get 1, p.call = .create .admin (healthCheckUnder "key") ∧
        (∀ seen ∈ p.reads, seen = s.store.view (healthCheckUnder "key")) ∧
        ∃ job ∈ answeredJob s 1, job.id = ⟨⟨1⟩⟩) ∧
      ∃ db ∈ s.database, (db.findByIdempotencyKey (.target ⟨⟨7⟩⟩) "key").isSome = true := by
    decide +kernel
  obtain ⟨s, hexec, ⟨p, hp, hcall, hsame, job, hjob, -⟩, db, hdb, hrow⟩ := hrun
  have hreach : serviceMachine.Reach Machine.Any s := .exec (.init ⟨_, _, rfl⟩) _ hexec
  have haccepted := acceptedUnchanged_of_answeredJob hp hcall hjob hsame
  refine ⟨s, job, hreach, haccepted, (returnsJob_iff hreach haccepted ?_ rfl).mpr ⟨?_, ?_⟩⟩
  · intro policy target hpolicy
    cases hpolicy
  · intro hoperation
    cases hoperation
  · exact .inl ⟨db, hdb, hrow⟩

/-- The application of a plan is sent again after it has succeeded; it is refused. -/
theorem application_sent_again_refused :
    ¬ ∀ s role request input job, serviceMachine.Reach Machine.Any s →
      AcceptedUnchanged s role request job →
      WindowOpen request (s.store.view request) input.now → input.fails = false →
      ReturnsJob (s.createAnsibleJob role request input) job.id := by
  intro hall
  have hrun : ∃ s ∈ serviceMachine.exec Machine.Any (sampleService false)
      (plannedOnce ++ appliesOnce 2 9 ⟨⟨2⟩⟩ "x" ++
        goesThrough ⟨⟨2⟩⟩ [.checking, .planned, .applying, .succeeded]),
      ∃ p ∈ s.processes.get 2,
        p.call = .create .admin (applyUnder "weekly" (applyKey "x") ⟨⟨1⟩⟩) ∧
        (∀ seen ∈ p.reads, seen = s.store.view (applyUnder "weekly" (applyKey "x") ⟨⟨1⟩⟩)) ∧
        (∃ job ∈ answeredJob s 2, job.id = ⟨⟨2⟩⟩) ∧
        (s.store.view (applyUnder "weekly" (applyKey "x") ⟨⟨1⟩⟩)).policy
          = some (openPolicy "weekly").policy ∧
        s.createAnsibleJob .admin (applyUnder "weekly" (applyKey "x") ⟨⟨1⟩⟩) ⟨0, ⟨⟨3⟩⟩, false⟩
          = some (.error (.conflict "package_plan_already_used"
            "this plan already has an apply attempt; create a fresh plan before resuming")) := by
    decide +kernel
  obtain ⟨s, hexec, p, hp, hcall, hsame, ⟨job, hjob, -⟩, hpolicy, hrefused⟩ := hrun
  have haccepted := acceptedUnchanged_of_answeredJob hp hcall hjob hsame
  obtain ⟨status, found, hfound, -⟩ := hall s _ _ ⟨0, ⟨⟨3⟩⟩, false⟩ job
    (.exec (.init ⟨_, _, rfl⟩) _ hexec) haccepted (by
      intro policy target hseen htarget
      obtain rfl := Option.some.inj (hpolicy.symm.trans hseen)
      obtain rfl := Option.some.inj htarget
      decide) rfl
  rw [hrefused] at hfound
  cases hfound

end Lxcup.Submission
