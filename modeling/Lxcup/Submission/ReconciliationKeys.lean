import Lxcup.Submission.Durability

/-!
# Reconciliations and the keys of requests

The reconciliation of a job is submitted under a key that is made from the id of the job, in the
same namespace of targets and keys as ordinary requests.  A request may use such a key first; the
reconciliation is then answered with the job of that request, and no reconciliation exists.

In the runs in which requests leave these keys alone, an answer of success leaves a
reconciliation of the source in the table, or in the coordinator without a database.

## Main definitions

* `isReconcileKey` — the key is that of the reconciliation of some job.
* `LeavesReconciliation` — a step that answers a reconciliation with a job leaves a
  reconciliation of the source.
* `LeavesKeysAlone` — the condition on requests.

## Main results

* `leavesReconciliation_of_leavesKeysAlone` — the property, at every step of every such run.
* `reconciliation_key_taken` — a health check takes the key, and the reconciliation is answered
  with it.
-/

namespace Lxcup.Submission

open Lxcup.Lib Lxcup.Core Lxcup.Ansible Lxcup.Persistence Lxcup.Server

/-- The key is that of the reconciliation of some job. -/
def isReconcileKey (key : String) : Bool :=
  match reconciliationSourceJobId key with
  | some id => key = reconcileIdempotencyKey id
  | none => false

theorem isReconcileKey_key (id : AnsibleJobId) :
    isReconcileKey (reconcileIdempotencyKey id) = true := by
  simp [isReconcileKey, reconciliationSourceJobId_key]

/-- The listed jobs have a reconciliation of the source. -/
def HasReconciliation (s : Service) (sourceId : AnsibleJobId) : Prop :=
  ∃ id job, s.findJob id = some job ∧ job.mode = .reconcile ∧
    job.idempotencyKey = reconcileIdempotencyKey sourceId ∧ TargetOf s sourceId job.target

/-- A step that answers a reconciliation with a job leaves a reconciliation of the source. -/
def LeavesReconciliation (s : Service) (action : ServiceAction) (s' : Service) : Prop :=
  ∀ n input p p' role sourceId status job, action = .advance n input →
    s.processes.get n = some p → p.call = .reconcile role sourceId →
    s'.processes.get n = some p' → p'.phase = .answered (.ok (status, job)) →
    HasReconciliation s' sourceId

/-- No request has the key of a reconciliation. -/
def LeavesKeysAlone (_ : Service) : ServiceAction → Prop
  | .arrive _ (.create _ request) => isReconcileKey request.idempotencyKey = false
  | _ => True

instance (s : Service) : (action : ServiceAction) → Decidable (LeavesKeysAlone s action)
  | .arrive _ (.create _ request) =>
    inferInstanceAs (Decidable (isReconcileKey request.idempotencyKey = false))
  | .arrive _ (.reconcile ..) | .arrive _ (.produce _) | .advance .. | .coordinate _
  | .progress .. | .putTarget _ | .putContainer .. | .createUpdatePolicy _
  | .ensureDefaultUpdatePolicy | .deleteUpdatePolicy _ | .deleteTarget _ => isTrue trivial

/-- Neither the requests under way nor those of the jobs there have been have such a key. -/
structure KeysAlone (s : Service) : Prop where
  processes : ∀ n p role request, s.processes.get n = some p → p.call = .create role request →
    isReconcileKey request.idempotencyKey = false
  made : ∀ id role request job, s.made.get id = some (.create role request, job) →
    isReconcileKey request.idempotencyKey = false

/-- Jobs are made for the calls that are under way. -/
private theorem made_of_access {s s' : Service} {call : Call} {input : Input} {phase phase' : Phase}
    (access : Access s call input phase s' phase') {id : AnsibleJobId} {call' : Call}
    {job : AnsibleJob} (h : s'.made.get id = some (call', job)) :
    s.made.get id = some (call', job) ∨ call' = call := by
  cases access with
  | read next open' => exact .inl h
  | refused lost => exact .inl h
  | found isCreate persistent row =>
    rw [Service.accept_made] at h
    exact .inl h
  | foundSource isReconcile persistent row => exact .inl h
  | made origin unused locked =>
    rw [Service.withMade_made, Table.get_put] at h
    split at h
    · exact .inr (Prod.mk.inj (Option.some.inj h)).1.symm
    · exact .inl h
  | duplicate entry known =>
    rw [Service.accept_made] at h
    exact .inl h
  | duplicateSource entry known => exact .inl h
  | inserted persistent row next =>
    rw [Service.accept_made] at h
    exact .inl h
  | listed known => exact .inl h
  | appended persistent row => exact .inl h

/-- Keys come with requests only. -/
theorem KeysAlone.step {s s' : Service} {action : ServiceAction} (h : KeysAlone s)
    (hok : LeavesKeysAlone s action) (hstep : s.step action = some s') : KeysAlone s' := by
  cases step_cases hstep with
  | @arrive n call unused =>
    refine ⟨fun m q role request hq hcall => ?_, h.made⟩
    change (s.processes.put n _).get m = some q at hq
    rw [Table.get_put] at hq
    split at hq
    · obtain rfl := Option.some.inj hq
      have hcall' : call = .create role request := hcall
      subst hcall'
      exact hok
    · exact h.processes m q role request hq hcall
  | @advance n input p s'' phase found fresh access =>
    constructor
    · intro m q role request hq hcall
      change (s''.processes.put n _).get m = some q at hq
      rw [Table.get_put, access.frame.processes] at hq
      split at hq
      · obtain rfl := Option.some.inj hq
        exact h.processes n p role request found hcall
      · exact h.processes m q role request hq hcall
    · intro id role request job hmade
      rcases made_of_access access hmade with hold | hcall
      · exact h.made id role request job hold
      · exact h.processes n p role request found hcall.symm
  | quiet other hquiet =>
    constructor
    · rw [hquiet.processes]
      exact h.processes
    · rw [hquiet.made]
      exact h.made
  | delete idle => exact ⟨h.processes, h.made⟩

/-- A job with the key of a reconciliation is one. -/
theorem KeysAlone.mode_eq {s : Service} (h : KeysAlone s) (hsound : Sound s) {job : AnsibleJob}
    {sourceId : AnsibleJobId} (hknown : Known s job)
    (hkey : job.idempotencyKey = reconcileIdempotencyKey sourceId) : job.mode = .reconcile := by
  obtain ⟨call, hmade⟩ := hknown
  obtain ⟨-, -, hmakes⟩ := hsound.made _ _ _ hmade
  cases call with
  | create role request =>
    have halone := h.made _ _ _ _ hmade
    have hsame : job.idempotencyKey = request.idempotencyKey := hmakes.1.2.2.2.1
    rw [← hsame, hkey, isReconcileKey_key] at halone
    cases halone
  | reconcile role sourceId' => exact hmakes.1
  | produce producer =>
    have hother := @not_startsWith_of_isProducerKey _ reconcileKeyPrefix hmakes.1 (by decide)
    have hsame : (base job).idempotencyKey = reconcileIdempotencyKey sourceId := hkey
    rw [hsame, reconcileIdempotencyKey, startsWith_append] at hother
    cases hother

/-- The answer of a reconciliation names a job that is listed. -/
private theorem stored_of_reconciliation {s s' : Service} {role : ActorRole}
    {sourceId : AnsibleJobId} {input : Input} {phase : Phase} {status : Nat} {job : AnsibleJob}
    (hsound : Sound s) (hbound : Bound s (.reconcile role sourceId) phase)
    (hevents : ∀ job events, phase = .appending job events →
      ∀ event ∈ events, event.jobId = job.id)
    (access : Access s (.reconcile role sourceId) input phase s' (.answered (.ok (status, job)))) :
    (s'.stored job.id).isSome = true := by
  rcases stored_or_known hsound (fun _ => Call.noConfusion) hevents access with
    hstored | ⟨id, hknown, ⟨asked, rfl, -⟩ | ⟨source, rfl, rfl, hmemory, entry⟩⟩
  · exact hstored
  · exact hbound.elim
  · obtain ⟨-, -, -, rfl⟩ := hsound.known_of_entry entry hknown
    rw [Service.stored_memory hmemory, Service.held, hknown]
    rfl

theorem keysAlone_of_leavesKeysAlone {s : Service} (h : serviceMachine.Reach LeavesKeysAlone s) :
    KeysAlone s := by
  refine h.invariant (I := KeysAlone) ?_ ?_
  · rintro s ⟨configured, persistent, rfl⟩
    exact ⟨fun n p role request hp => by simp [Service.fresh] at hp,
      fun id role request job hmade => by simp [Service.fresh] at hmade⟩
  · intro s action s' _ halone hok hstep
    exact halone.step hok hstep

/-- **An answer of success leaves a reconciliation of the source**, at every step of every run in
which requests leave the keys of reconciliations alone. -/
theorem leavesReconciliation_of_leavesKeysAlone {s s' : Service} {action : ServiceAction}
    (h : serviceMachine.Reach LeavesKeysAlone s) (hok : LeavesKeysAlone s action)
    (hstep : s.step action = some s') : LeavesReconciliation s action s' := by
  rintro n input p p' role sourceId status job rfl hp hcall hp' hphase
  have hsound := sound_of_reach h
  have hsound' := hsound.step hstep
  have halone' := (keysAlone_of_leavesKeysAlone h).step hok hstep
  have hbound' := hsound'.bound n p' hp'
  cases step_cases hstep with
  | quiet other hquiet => exact absurd rfl (other n input)
  | @advance _ _ q s'' phase found fresh access =>
    obtain rfl := Option.some.inj (found.symm.trans hp)
    have hput : (s''.processes.put n _).get n = some p' := hp'
    rw [Table.get_put_self] at hput
    obtain rfl := Option.some.inj hput
    obtain ⟨call, before, seen⟩ := q
    obtain rfl : call = .reconcile role sourceId := hcall
    obtain rfl : phase = .answered (.ok (status, job)) := hphase
    have hstored := stored_of_reconciliation hsound (hsound.bound n _ found)
      (fun job events => hsound.events n _ job events found) access
    obtain ⟨hknown, hkey, htarget⟩ := hbound'
    -- the listed job is the one that is answered, but for its progress
    obtain ⟨row, hrow⟩ := Option.isSome_iff_exists.mp hstored
    obtain ⟨listed, hlisted, rfl⟩ := Option.map_eq_some_iff.mp hrow
    obtain ⟨call, hmade⟩ := hsound'.stored job.id (base listed) hrow
    obtain ⟨call', hmade'⟩ := hknown
    rw [hmade'] at hmade
    have hbase : base job = base listed := (Prod.mk.inj (Option.some.inj hmade)).2
    obtain ⟨hsameTarget, hsameKey⟩ := order_of_base hbase
    have hmode := halone'.mode_eq hsound' ⟨call', hmade'⟩ hkey
    have hsameMode : (base job).mode = (base listed).mode := by rw [hbase]
    exact ⟨job.id, listed, hlisted, hsameMode ▸ hmode, hsameKey ▸ hkey, hsameTarget ▸ htarget⟩

/-- A repair is interrupted and its reconciliation is asked for, up to the submission; other
steps may come after the repair is queued. -/
def interruptedRepair (others : List ServiceAction) : List ServiceAction :=
  setUp [] ++ sends 1 6 ⟨⟨1⟩⟩ (repairUnder "repair") ++ others ++
    goesThrough ⟨⟨1⟩⟩ [.checking, .planned, .applying, .reconcileRequired] ++
    .arrive 3 (.reconcile .admin ⟨⟨1⟩⟩) :: advances 3 3 ⟨⟨3⟩⟩

theorem interrupted_repair_reconciled :
    ∃ s s', serviceMachine.Reach LeavesKeysAlone s ∧
      s.step (.advance 3 ⟨0, ⟨⟨3⟩⟩, false⟩) = some s' ∧ HasReconciliation s' ⟨⟨1⟩⟩ := by
  have hrun : ∃ s ∈ serviceMachine.exec LeavesKeysAlone (sampleService false)
      (interruptedRepair []),
      LeavesKeysAlone s (.advance 3 ⟨0, ⟨⟨3⟩⟩, false⟩) ∧
      (∃ p ∈ s.processes.get 3, p.call = .reconcile .admin ⟨⟨1⟩⟩) ∧
      ∃ s' ∈ s.step (.advance 3 ⟨0, ⟨⟨3⟩⟩, false⟩), (answeredJob s' 3).isSome = true := by
    decide +kernel
  obtain ⟨s, hexec, hok, ⟨p, hp, hcall⟩, s', hstep, hanswered⟩ := hrun
  have hreach : serviceMachine.Reach LeavesKeysAlone s := .exec (.init ⟨_, _, rfl⟩) _ hexec
  obtain ⟨job, hjob⟩ := Option.isSome_iff_exists.mp hanswered
  obtain ⟨p', status, hp', hphase⟩ := phase_of_answeredJob hjob
  exact ⟨s, s', hreach, hstep, leavesReconciliation_of_leavesKeysAlone hreach hok hstep 3 _ p p'
    .admin ⟨⟨1⟩⟩ status job rfl hp hcall hp' hphase⟩

/-- A health check has the key of the reconciliation, which is answered with it. -/
theorem reconciliation_key_taken :
    ¬ ∀ s action s', serviceMachine.Reach Machine.Any s → s.step action = some s' →
      LeavesReconciliation s action s' := by
  intro hall
  have hrun : ∃ s ∈ serviceMachine.exec Machine.Any (sampleService false)
      (interruptedRepair
        (sends 2 6 ⟨⟨2⟩⟩ (healthCheckUnder (reconcileIdempotencyKey ⟨⟨1⟩⟩)))),
      (∃ p ∈ s.processes.get 3, p.call = .reconcile .admin ⟨⟨1⟩⟩) ∧
      ∃ s' ∈ s.step (.advance 3 ⟨0, ⟨⟨3⟩⟩, false⟩), (answeredJob s' 3).isSome = true ∧
        ∀ job ∈ s'.jobList, job.mode ≠ .reconcile := by
    decide +kernel
  obtain ⟨s, hexec, ⟨p, hp, hcall⟩, s', hstep, hanswered, hnone⟩ := hrun
  obtain ⟨job, hjob⟩ := Option.isSome_iff_exists.mp hanswered
  obtain ⟨p', status, hp', hphase⟩ := phase_of_answeredJob hjob
  obtain ⟨id, found, hfound, hmode, -⟩ := hall s _ s' (.exec (.init ⟨_, _, rfl⟩) _ hexec) hstep 3 _
    p p' .admin ⟨⟨1⟩⟩ status job rfl hp hcall hp' hphase
  exact hnone found (Service.mem_jobList.mpr ⟨id, hfound⟩) hmode

end Lxcup.Submission
