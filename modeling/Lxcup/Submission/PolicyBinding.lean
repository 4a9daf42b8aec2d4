import Lxcup.Submission.Provenance

/-!
# Applications are bound to the policy of their plan

An application of a package plan names a policy and a plan.  That the plan was made under
the same policy is read off its key, which begins with `package-plan:`, the id of the policy and
a colon.  A policy id may itself contain colons, so a key may begin like the keys of two
policies; the binding holds in the runs in which no id of a policy begins with another one and
a colon.

## Main definitions

* `BoundToPolicy` — the plan of every application was accepted under its policy, for its target
  and packages.
* `KeepsIdsApart` — the condition on new policies.

## Main results

* `boundToPolicy_of_keepsIdsApart` — the binding, in every state of every such run.
* `plan_of_another_policy_applied` — with the policies `a` and `a:b` a plan of the one is
  applied under the other.
-/

namespace Lxcup.Submission

open Lxcup.Lib Lxcup.Core Lxcup.Ansible Lxcup.Persistence Lxcup.Server

/-- The plan was accepted as a plan under the policy, for the target and packages of the
request. -/
def PlannedUnder (s : Service) (policyId : String) (request : CreateAnsibleJobRequest)
    (planId : AnsibleJobId) : Prop :=
  ∃ entry ∈ s.accepted, entry.2.id = planId ∧ entry.1.operation = .updatePackages ∧
    entry.1.mode = .plan ∧ entry.1.policyId = some policyId ∧
    resourceOf entry.1 = resourceOf request ∧ entry.1.parameters = request.parameters

instance (s : Service) (policyId : String) (request : CreateAnsibleJobRequest)
    (planId : AnsibleJobId) : Decidable (PlannedUnder s policyId request planId) :=
  List.decidableBEx _ _

/-- Every application that was accepted has a plan under its policy. -/
def BoundToPolicy (s : Service) : Prop :=
  ∀ request job, (request, job) ∈ s.accepted → request.operation = .updatePackages →
    request.mode = .apply → ∀ policyId planId, request.policyId = some policyId →
      request.approvedPlanJobId = some planId → PlannedUnder s policyId request planId

/-- A new policy id neither begins with one there has been and a colon nor the other way
round. -/
def idStaysApart (s : Service) (id : String) : Bool :=
  s.policyIds.all fun other => !policyIdsClash id other

/-- The ids of policies stay apart. -/
def KeepsIdsApart (s : Service) : ServiceAction → Prop
  | .createUpdatePolicy request => idStaysApart s request.id = true
  | .ensureDefaultUpdatePolicy => idStaysApart s standardUpdatePolicyId = true
  | _ => True

instance (s : Service) : (action : ServiceAction) → Decidable (KeepsIdsApart s action)
  | .createUpdatePolicy request => inferInstanceAs (Decidable (idStaysApart s request.id = true))
  | .ensureDefaultUpdatePolicy =>
    inferInstanceAs (Decidable (idStaysApart s standardUpdatePolicyId = true))
  | .arrive .. | .advance .. | .coordinate _ | .progress .. | .putTarget _ | .putContainer ..
  | .deleteUpdatePolicy _ | .deleteTarget _ => isTrue trivial

/-- No two of the ids clash. -/
def Apart (ids : List String) : Prop := ∀ a ∈ ids, ∀ b ∈ ids, policyIdsClash a b = false

theorem policyIdsClash_comm (a b : String) : policyIdsClash a b = policyIdsClash b a := by
  unfold policyIdsClash
  rw [Bool.or_comm]

theorem policyIdsClash_self (a : String) : policyIdsClash a a = false := by
  have hlonger : startsWith a (a ++ ":") = false := by
    rw [← Bool.not_eq_true, startsWith_iff]
    intro hpre
    have hlength := hpre.length_le
    rw [String.toList_append, List.length_append] at hlength
    have hcolon : ":".toList.length = 1 := rfl
    omega
  rw [policyIdsClash, hlonger]
  rfl

/-- A new id that stays apart from the others. -/
theorem Apart.append {s : Service} {id : String} (h : Apart s.policyIds)
    (hid : idStaysApart s id = true) : Apart (s.policyIds ++ [id]) := by
  have hnew : ∀ other ∈ s.policyIds, policyIdsClash id other = false := by
    intro other hother
    have happart := List.all_eq_true.mp hid other hother
    simpa using happart
  intro a ha b hb
  rcases List.mem_append.mp ha with ha | ha
  · rcases List.mem_append.mp hb with hb | hb
    · exact h a ha b hb
    · rw [List.mem_singleton.mp hb, policyIdsClash_comm]
      exact hnew a ha
  · rw [List.mem_singleton.mp ha]
    rcases List.mem_append.mp hb with hb | hb
    · exact hnew b hb
    · rw [List.mem_singleton.mp hb]
      exact policyIdsClash_self id

/-- Ids come with policies only. -/
theorem Apart.step {s s' : Service} {action : ServiceAction} (h : Apart s.policyIds)
    (hok : KeepsIdsApart s action) (hstep : s.step action = some s') : Apart s'.policyIds := by
  cases action with
  | createUpdatePolicy request =>
    obtain rfl := Service.createUpdatePolicy_some hstep
    exact h.append hok
  | ensureDefaultUpdatePolicy =>
    obtain rfl := Option.some.inj hstep
    exact h.append hok
  | arrive n call =>
    obtain ⟨-, rfl⟩ := Service.arrive_some hstep
    exact h
  | advance n input =>
    cases step_cases hstep with
    | advance found fresh access =>
      rw [Service.withProcess, access.frame.policyIds]
      exact h
    | quiet other hquiet => exact absurd rfl (other n input)
  | coordinate op =>
    obtain ⟨-, -, rfl⟩ := Service.coordinate_some hstep
    exact h
  | progress id path now =>
    obtain ⟨_, -, _, -, _, -, _, -, rfl⟩ := Service.progress_some hstep
    exact h
  | putTarget target =>
    obtain ⟨-, rfl⟩ := Service.putTarget_some hstep
    exact h
  | putContainer id state =>
    obtain rfl := Option.some.inj hstep
    exact h
  | deleteUpdatePolicy id =>
    obtain rfl := Option.some.inj hstep
    exact h
  | deleteTarget id =>
    obtain ⟨-, rfl⟩ := Service.deleteTarget_some hstep
    exact h

/-- The plan of a checked application was accepted under its policy, if the ids are apart. -/
theorem PackageChecked.plannedUnder {s : Service} {request : CreateAnsibleJobRequest}
    {policyId : String} {planId : AnsibleJobId} (h : PackageChecked s request)
    (hids : Apart s.policyIds) (hoperation : request.operation = .updatePackages)
    (hmode : request.mode = .apply) (hpolicy : request.policyId = some policyId)
    (hplan : request.approvedPlanJobId = some planId) :
    PlannedUnder s policyId request planId := by
  obtain ⟨governing, ⟨-, hgoverning, hlisted⟩, hkind⟩ := h hoperation
  obtain rfl := Option.some.inj (hgoverning.symm.trans hpolicy)
  rcases hkind with ⟨hother, -⟩ | ⟨applied, ⟨-, happlied, -⟩, hbound⟩
  · rw [hmode] at hother
    cases hother
  · obtain rfl := Option.some.inj (happlied.symm.trans hplan)
    obtain ⟨planRequest, plan, hmem, hid, hplanOperation, hplanMode, htarget, hparameters, hkey,
      own, howns, hownListed, hownKey⟩ := hbound
    -- the key begins like those of both policies
    have hsame := planKeyPrefix_inj hownKey hkey (hids own hownListed governing hlisted)
    rw [hsame] at howns
    exact ⟨(planRequest, plan), hmem, hid, hplanOperation, hplanMode, howns, htarget, hparameters⟩

/-- **Every application was accepted with a plan under its own policy**, in every run in which
the ids of policies stay apart. -/
theorem boundToPolicy_of_keepsIdsApart {s : Service} (h : serviceMachine.Reach KeepsIdsApart s) :
    BoundToPolicy s := by
  have hids : Apart s.policyIds := by
    refine h.invariant (I := fun s => Apart s.policyIds) ?_ ?_
    · rintro s ⟨configured, persistent, rfl⟩ a ha
      cases ha
    · intro s action s' _ happart hok hstep
      exact happart.step hok hstep
  intro request job hmem hoperation hmode policyId planId hpolicy hplan
  exact ((sound_of_reach h).accepted request job hmem).1.plannedUnder hids hoperation hmode hpolicy
    hplan

/-- A plan under one policy is carried out, and applied under another. -/
def appliedUnder (planPolicy applyPolicy planKey : String) : List ServiceAction :=
  sends 1 7 ⟨⟨1⟩⟩ (planUnder planPolicy planKey) ++
    goesThrough ⟨⟨1⟩⟩ [.checking, .planned, .succeeded] ++
    sends 2 9 ⟨⟨2⟩⟩ (applyUnder applyPolicy (applyKey "x") ⟨⟨1⟩⟩)

theorem plan_applied_under_its_policy :
    ∃ s, serviceMachine.Reach KeepsIdsApart s ∧ s.accepted.length = 2 ∧
      PlannedUnder s "weekly" (applyUnder "weekly" (applyKey "x") ⟨⟨1⟩⟩) ⟨⟨1⟩⟩ := by
  have hrun : ∃ s ∈ serviceMachine.exec KeepsIdsApart (sampleService false)
      (setUp ["weekly", "nightly"] ++ appliedUnder "weekly" "weekly" "package-plan:weekly:x"),
      s.accepted.length = 2 ∧ ∃ entry ∈ s.accepted,
        entry.1 = applyUnder "weekly" (applyKey "x") ⟨⟨1⟩⟩ := by
    decide +kernel
  obtain ⟨s, hexec, hlength, ⟨request, job⟩, hmem, hrequest⟩ := hrun
  have hreach : serviceMachine.Reach KeepsIdsApart s := .exec (.init ⟨_, _, rfl⟩) _ hexec
  obtain rfl : request = applyUnder "weekly" (applyKey "x") ⟨⟨1⟩⟩ := hrequest
  exact ⟨s, hreach, hlength,
    boundToPolicy_of_keepsIdsApart hreach _ job hmem rfl rfl "weekly" ⟨⟨1⟩⟩ rfl rfl⟩

/-- A plan under the policy `a:b` has a key that begins like those of the policy `a`. -/
theorem plan_of_another_policy_applied :
    ¬ ∀ s, serviceMachine.Reach Machine.Any s → BoundToPolicy s := by
  intro hall
  have hrun : ∃ s ∈ serviceMachine.exec Machine.Any (sampleService false)
      (setUp ["a", "a:b"] ++ appliedUnder "a:b" "a" "package-plan:a:b:x"),
      ∃ entry ∈ s.accepted, entry.1 = applyUnder "a" (applyKey "x") ⟨⟨1⟩⟩ ∧
        ¬ PlannedUnder s "a" (applyUnder "a" (applyKey "x") ⟨⟨1⟩⟩) ⟨⟨1⟩⟩ := by
    decide +kernel
  obtain ⟨s, hexec, ⟨request, job⟩, hmem, hrequest, hnot⟩ := hrun
  obtain rfl : request = applyUnder "a" (applyKey "x") ⟨⟨1⟩⟩ := hrequest
  exact hnot (hall s (.exec (.init ⟨_, _, rfl⟩) _ hexec) _ job hmem rfl rfl "a" ⟨⟨1⟩⟩ rfl rfl)

end Lxcup.Submission
