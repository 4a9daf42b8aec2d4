import Lxcup.Apt.Texts
import Lxcup.Submission.Provenance

/-!
# The policy that is shown with a plan

The jobs are listed for the interface, which offers those plans for an application that show the
policy it asks about.  A job has no field for its policy; it is read off the key, between
`package-plan:` and the last colon.  The check of a new plan asks for a key that begins with
`package-plan:`, the id of the policy and a colon, and leaves the rest of the key to the client.

A policy id may have colons, and so may the rest.  The policy that is shown is the one the plan was
accepted under if the rest has none.

## Main definitions

* `AnsibleJobDto.ofJob`, `Service.listAnsibleJobs` — what is shown of the jobs.
* `AcceptedPlan` — a plan that was accepted under a policy.

## Main results

* `keepsKeys_of_reach` — a job has the key of every request it was returned for.
* `updatePolicyId_iff` — what is read back from a key.
* `displayedPolicy_iff` — which plans show their policy.
* `plan_shows_other_policy` — a plan under `weekly` that shows `weekly:a`.
-/

namespace Lxcup.Submission

open Lxcup.Lib Lxcup.Core Lxcup.Ansible Lxcup.Agent Lxcup.Apt Lxcup.Persistence Lxcup.Server

/-! ### What is shown -/

/-- The parts of a text before and after the last occurrence of a character. -/
def rsplitOnce (sep : Char) (cs : List Char) : Option (List Char × List Char) :=
  (splitOnce sep cs.reverse).map fun parts => (parts.2.reverse, parts.1.reverse)

/-- A job as it is shown. -/
structure AnsibleJobDto where
  id : AnsibleJobId
  operation : AnsibleOperation
  playbook : String
  playbookVersion : String
  target : ResourceTarget
  mode : ExecutionMode
  status : AnsibleJobStatus
  packageNames : Option (List String)
  updatePolicyId : Option String
  approvedPlanJobId : Option AnsibleJobId
  reconcilesJobId : Option AnsibleJobId
  createdAt : Timestamp
  updatedAt : Timestamp
  deriving DecidableEq, Repr

/-- `AnsibleJobDto::from`. -/
def AnsibleJobDto.ofJob (job : AnsibleJob) : AnsibleJobDto :=
  let key := job.idempotencyKey.toList
  let packageNames := match job.parameters with
    | .updatePackages packages => some packages
    | _ => none
  let updatePolicyId := ((stripPrefix "package-plan:".toList key).bind (rsplitOnce ':')).map
    fun parts => String.ofList parts.1
  let approvedPlanJobId := (((stripPrefix "package-apply:".toList key).bind (splitOnce ':')).bind
    fun parts => Uuid.parseStr parts.1).map AnsibleJobId.mk
  { id := job.id, operation := job.operation, playbook := job.playbook
    playbookVersion := job.playbookVersion, target := job.target, mode := job.mode
    status := job.status, packageNames, updatePolicyId, approvedPlanJobId
    reconcilesJobId := reconciliationSourceJobId job.idempotencyKey
    createdAt := job.createdAt, updatedAt := job.updatedAt }

/-- `list_ansible_jobs`. -/
def Service.listAnsibleJobs (s : Service) : List AnsibleJobDto := s.jobList.map AnsibleJobDto.ofJob

/-- The request for a plan was accepted with the job, under the policy. -/
structure AcceptedPlan (s : Service) (request : CreateAnsibleJobRequest) (job : AnsibleJob)
    (policyId : String) : Prop where
  accepted : (request, job) ∈ s.accepted
  operation : request.operation = .updatePackages
  mode : request.mode = .plan
  policy : request.policyId = some policyId

/-! ### Reading the key -/

/-- The last occurrence of a separator. -/
theorem rsplitOnce_eq_some {sep : Char} {cs a b : List Char} :
    rsplitOnce sep cs = some (a, b) ↔ cs = a ++ sep :: b ∧ sep ∉ b := by
  have hback : cs.reverse = b.reverse ++ sep :: a.reverse ↔ cs = a ++ sep :: b := by
    rw [← List.reverse_inj]
    simp
  have hmem : sep ∉ b.reverse ↔ sep ∉ b := not_congr List.mem_reverse
  rw [← hback, ← hmem, ← splitOnce_eq_some, rsplitOnce, Option.map_eq_some_iff]
  constructor
  · rintro ⟨⟨front, back⟩, hparts, heq⟩
    obtain ⟨rfl, rfl⟩ := Prod.mk.inj heq
    rwa [List.reverse_reverse, List.reverse_reverse]
  · intro hparts
    exact ⟨_, hparts, by rw [List.reverse_reverse, List.reverse_reverse]⟩

/-- The policy that is shown ends at the last colon of the key. -/
theorem updatePolicyId_eq_some {job : AnsibleJob} {shown : String} :
    (AnsibleJobDto.ofJob job).updatePolicyId = some shown ↔
      ∃ suffix, job.idempotencyKey.toList = (planKeyPrefix shown).toList ++ suffix ∧
        ':' ∉ suffix := by
  have hpre : (planKeyPrefix shown).toList = "package-plan:".toList ++ (shown.toList ++ [':']) := by
    simp [planKeyPrefix]
  simp only [AnsibleJobDto.ofJob, Option.map_eq_some_iff, Option.bind_eq_some_iff, Prod.exists,
    stripPrefix_eq_some, rsplitOnce_eq_some, hpre]
  constructor
  · rintro ⟨front, suffix, ⟨value, hkey, rfl, hplain⟩, rfl⟩
    refine ⟨suffix, ?_, hplain⟩
    rw [hkey, @String.toList_ofList front, List.append_assoc, List.append_assoc,
      List.singleton_append]
  · rintro ⟨suffix, hkey, hplain⟩
    refine ⟨shown.toList, suffix, ⟨shown.toList ++ ':' :: suffix, ?_, rfl, hplain⟩,
      String.ofList_toList⟩
    rw [hkey, List.append_assoc, List.append_assoc, List.singleton_append]

/-- The policy that the key begins with is shown, if the rest has no colon. -/
theorem updatePolicyId_iff {job : AnsibleJob} {policyId : String} {suffix : List Char}
    (hkey : job.idempotencyKey.toList = (planKeyPrefix policyId).toList ++ suffix) :
    (AnsibleJobDto.ofJob job).updatePolicyId = some policyId ↔ ':' ∉ suffix := by
  rw [updatePolicyId_eq_some]
  constructor
  · rintro ⟨other, hother, hplain⟩
    rwa [← List.append_cancel_left (hkey.symm.trans hother)] at hplain
  · intro hplain
    exact ⟨suffix, hkey, hplain⟩

/-! ### The keys of the jobs -/

/-- A job has the key of every request that it was returned for. -/
def KeepsKeys (s : Service) : Prop :=
  ∀ request job, (request, job) ∈ s.accepted → job.idempotencyKey = request.idempotencyKey

variable {s s' : Service}

/-- A job is noted with a request of its key. -/
theorem KeepsKeys.accept (h : KeepsKeys s) {call : Call} {job : AnsibleJob}
    (hkey : ∀ role request, call = .create role request →
      job.idempotencyKey = request.idempotencyKey) : KeepsKeys (s.accept call job) := by
  intro request job' hmem
  rcases Service.mem_accept.mp hmem with hold | ⟨role, hcall, rfl⟩
  · exact h request job' hold
  · exact hkey role request hcall

/-- Every access of a call keeps the keys. -/
theorem KeepsKeys.access (h : KeepsKeys s) (hsound : Sound s) {call : Call} {input : Input}
    {phase phase' : Phase} (hbound : Bound s call phase)
    (access : Access s call input phase s' phase') : KeepsKeys s' := by
  cases access with
  | read next open' => exact h
  | refused lost => exact h
  | @found role request asked db job isCreate persistent row =>
    subst isCreate
    obtain ⟨-, -, -, hasked, -⟩ := hbound.1
    obtain ⟨-, -, hrow, -⟩ := hsound.known_of_key persistent row
    refine h.accept fun role' request' hcall => ?_
    obtain ⟨rfl, rfl⟩ := Call.create.inj hcall
    exact hrow.trans hasked
  | foundSource isReconcile persistent row => exact h
  | @made _ job locks origin unused locked =>
    intro request job' hmem
    rcases (Service.mem_withMade_accepted ..).mp hmem with hold | ⟨-, role, rfl, rfl⟩
    · exact h request job' hold
    · obtain ⟨⟨-, -, -, hkey, -⟩, -⟩ := hbound.makes origin
      exact hkey
  | @duplicate asked id job entry known =>
    obtain ⟨-, -, hrow, -⟩ := hsound.known_of_entry entry known
    refine h.accept fun role request hcall => ?_
    subst hcall
    obtain ⟨-, -, -, hasked, -⟩ := hbound.1
    exact hrow.trans hasked
  | duplicateSource entry known => exact h
  | @inserted job db jobs _ persistent row next =>
    refine KeepsKeys.accept (s := s.withRow db jobs) h fun role request hcall => ?_
    subst hcall
    have hmade : s.made.get job.id = some (.create role request, base job) := hbound
    obtain ⟨-, -, ⟨-, -, -, hkey, -⟩, -⟩ := hsound.made _ _ _ hmade
    exact hkey
  | listed found => exact h
  | appended persistent row => exact h

/-- **A job has the key of every request it was returned for**, in every state of every run. -/
theorem keepsKeys_of_reach {ok : Service → ServiceAction → Prop} (h : serviceMachine.Reach ok s) :
    KeepsKeys s := by
  refine h.invariant (I := KeepsKeys) ?_ ?_
  · rintro s ⟨configured, persistent, rfl⟩ request job hmem
    cases hmem
  · intro s action s' hreach hkeys _ hstep
    have hsound := sound_of_reach hreach
    cases step_cases hstep with
    | arrive unused => exact hkeys
    | advance found fresh access =>
      have hafter := hkeys.access hsound (hsound.bound _ _ found) access
      exact hafter
    | quiet other hquiet =>
      intro request job hmem
      rw [hquiet.accepted] at hmem
      exact hkeys request job hmem
    | delete idle => exact hkeys

/-- A listed job is the one that was accepted under its id, but for its progress. -/
theorem base_of_listed (h : Sound s) {job listed : AnsibleJob} (hknown : Known s job)
    (hlisted : listed ∈ s.jobList) (hid : listed.id = job.id) : base listed = base job := by
  obtain ⟨id, hfound⟩ := Service.mem_jobList.mp hlisted
  obtain ⟨⟨call, hmade⟩, -⟩ := h.known_of_findJob hfound
  obtain ⟨call', hmade'⟩ := hknown
  rw [hid, hmade'] at hmade
  exact (Prod.mk.inj (Option.some_inj.mp hmade)).2.symm

/-! ### The policy that is shown -/

/-- The key of a plan that was accepted begins as its policy asks. -/
theorem AcceptedPlan.key (h : Sound s) {request : CreateAnsibleJobRequest} {job : AnsibleJob}
    {policyId : String} (hplan : AcceptedPlan s request job policyId) :
    (planKeyPrefix policyId).toList <+: request.idempotencyKey.toList := by
  obtain ⟨governing, ⟨-, hgoverning, -⟩, hkind⟩ :=
    (h.accepted request job hplan.accepted).1 hplan.operation
  obtain rfl := Option.some_inj.mp (hgoverning.symm.trans hplan.policy)
  rcases hkind with ⟨-, hkey⟩ | ⟨planId, ⟨happly, -⟩, -⟩
  · exact startsWith_iff.mp hkey
  · rw [hplan.mode] at happly
    cases happly

/-- **The policy that is shown with a plan is the one it was accepted under, if and only if its key
has no colon behind the id of the policy**: in the answer to the request, and in every listing. -/
theorem displayedPolicy_iff (h : serviceMachine.Reach Machine.Any s)
    {request : CreateAnsibleJobRequest} {job : AnsibleJob} {policyId : String}
    (hplan : AcceptedPlan s request job policyId) :
    ∃ suffix, request.idempotencyKey.toList = (planKeyPrefix policyId).toList ++ suffix ∧
      ((AnsibleJobDto.ofJob job).updatePolicyId = some policyId ↔ ':' ∉ suffix) ∧
      ∀ dto ∈ s.listAnsibleJobs, dto.id = job.id →
        (dto.updatePolicyId = some policyId ↔ ':' ∉ suffix) := by
  have hsound := sound_of_reach h
  obtain ⟨suffix, hbegins⟩ := hplan.key hsound
  have hkey := keepsKeys_of_reach h request job hplan.accepted
  refine ⟨suffix, hbegins.symm, updatePolicyId_iff ?_, fun dto hdto hid => ?_⟩
  · rw [hkey, hbegins]
  · obtain ⟨listed, hlisted, rfl⟩ := List.mem_map.mp hdto
    have hknown := (hsound.accepted request job hplan.accepted).2
    have hbase := base_of_listed hsound hknown hlisted hid
    refine updatePolicyId_iff ?_
    rw [(order_of_base hbase).2, hkey, hbegins]

/-- A plan of the sample target under the policy `weekly`. -/
def plansWeekly (key : String) : List ServiceAction :=
  setUp ["weekly"] ++ sends 1 7 ⟨⟨1⟩⟩ (planUnder "weekly" key)

theorem plan_shows_its_policy :
    ∃ s, serviceMachine.Reach Machine.Any s ∧ ∃ entry ∈ s.accepted,
      AcceptedPlan s entry.1 entry.2 "weekly" ∧
        (AnsibleJobDto.ofJob entry.2).updatePolicyId = some "weekly" := by
  have hrun : ∃ s ∈ serviceMachine.exec Machine.Any (sampleService false)
      (plansWeekly "package-plan:weekly:x"), ∃ entry ∈ s.accepted,
        entry.1 = planUnder "weekly" "package-plan:weekly:x" := by
    decide +kernel
  obtain ⟨s, hexec, ⟨request, job⟩, hmem, hrequest⟩ := hrun
  obtain rfl : request = planUnder "weekly" "package-plan:weekly:x" := hrequest
  have hreach : serviceMachine.Reach Machine.Any s := .exec (.init ⟨_, _, rfl⟩) _ hexec
  have hplan : AcceptedPlan s (planUnder "weekly" "package-plan:weekly:x") job "weekly" :=
    ⟨hmem, rfl, rfl, rfl⟩
  obtain ⟨suffix, hkey, hshown, -⟩ := displayedPolicy_iff hreach hplan
  have hx : (planUnder "weekly" "package-plan:weekly:x").idempotencyKey.toList
      = (planKeyPrefix "weekly").toList ++ ['x'] := by decide
  obtain rfl : suffix = ['x'] := List.append_cancel_left (hkey.symm.trans hx)
  exact ⟨s, hreach, _, hmem, hplan, hshown.mpr (by decide)⟩

/-- A plan under the policy `weekly` is shown under `weekly:a`. -/
theorem plan_shows_other_policy :
    ¬ ∀ s, serviceMachine.Reach Machine.Any s → ∀ request job policyId,
      AcceptedPlan s request job policyId →
        (AnsibleJobDto.ofJob job).updatePolicyId = some policyId := by
  intro hall
  have hrun : ∃ s ∈ serviceMachine.exec Machine.Any (sampleService false)
      (plansWeekly "package-plan:weekly:a:b"), ∃ entry ∈ s.accepted,
        entry.1 = planUnder "weekly" "package-plan:weekly:a:b" ∧
          (AnsibleJobDto.ofJob entry.2).updatePolicyId = some "weekly:a" := by
    decide +kernel
  obtain ⟨s, hexec, ⟨request, job⟩, hmem, hrequest, hshown⟩ := hrun
  obtain rfl : request = planUnder "weekly" "package-plan:weekly:a:b" := hrequest
  have hweekly := hall s (.exec (.init ⟨_, _, rfl⟩) _ hexec) _ job "weekly" ⟨hmem, rfl, rfl, rfl⟩
  rw [hshown] at hweekly
  exact absurd hweekly (by decide)

end Lxcup.Submission
