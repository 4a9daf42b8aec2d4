import Lxcup.Persistence.Cascade
import Lxcup.Submission.Steps

/-!
# When a target is busy

In persistent mode the jobs of the database make progress and end, and the coordinator of the
server does not hear of it: it holds the jobs that the server has made, all of them queued.  But
`submit_persisted_reconciliation` also takes the lock of the target in memory, and nothing gives it
back.  Since `delete_target` asks the coordinator first, a target is busy from its first
reconciliation on, whatever becomes of the job.

## Main definitions

* `CoordinatorStep` — everything a step does to the coordinator in persistent mode.
* `Service.Reconciled` — the server has made a reconciliation of a job of the target.
* `ActiveInDatabase`, `BusyOnlyIfActive` — what a refused deletion should mean.

## Main results

* `locksKept_of_reach` — the lock of a target tells of all its reconciliations.
* `busyOnlyIfActive_iff` — when `delete_target` is right to answer that the target is busy.
* `busy_after_reconciliation` — a target that stays busy after its reconciliation has ended.
-/

namespace Lxcup.Submission

open Lxcup.Lib Lxcup.Core Lxcup.Ansible Lxcup.Persistence Lxcup.Server

/-! ### The coordinator in persistent mode -/

/-- Everything a step does to the coordinator in persistent mode. -/
inductive CoordinatorStep (s s' : Service) : Prop
  | keep (coordinator : s'.coordinator = s.coordinator) (made : s'.made = s.made)
  /-- A job is made for a request, and no lock is taken. -/
  | request {call : Call} {request : AnsibleJobRequest} {newId : AnsibleJobId} {now : Timestamp}
      (accepts : AnsibleJob.Accepts request) (fresh : s.made.get newId = none)
      (coordinator : s'.coordinator
        = s.coordinator.register (AnsibleJob.queuedFor request newId now) now)
      (made : s'.made = s.made.put newId (call, AnsibleJob.queuedFor request newId now))
  /-- A reconciliation is made and takes the lock. -/
  | source {call : Call} {source : AnsibleJob} {newId : AnsibleJobId} {now : Timestamp}
      (fresh : s.made.get newId = none)
      (coordinator : s'.coordinator = (s.coordinator.lock source.target newId).register
        (AnsibleJobCoordinator.reconciliationOf source newId now) now)
      (made : s'.made
        = s.made.put newId (call, AnsibleJobCoordinator.reconciliationOf source newId now))
  /-- The jobs of an idle target are removed. -/
  | delete {targetId : TargetId}
      (idle : s.coordinator.targetHasActiveJobs targetId = false)
      (coordinator : s'.coordinator = s.coordinator.withoutJobsOf targetId)
      (made : s'.made = s.made)

theorem coordinatorStep_of_submit {s : Service} {call : Call} {input : Input}
    {request : AnsibleJobRequest} (hfresh : s.made.get input.newId = none) :
    CoordinatorStep s (s.submit call request input).1 := by
  unfold Service.submit AnsibleJobCoordinator.submit
  dsimp only
  cases s.coordinator.idempotency.get (request.target, request.idempotencyKey) with
  | some id =>
    dsimp only
    cases s.coordinator.jobs.get id with
    | some job => exact .keep (Service.accept_coordinator ..) (Service.accept_made ..)
    | none => exact .keep rfl rfl
  | none =>
    dsimp only
    cases hjob : AnsibleJob.fromRequest request input.newId input.now with
    | error e => exact .keep rfl rfl
    | ok job =>
      obtain ⟨haccepts, rfl⟩ := AnsibleJob.fromRequest_ok.mp hjob
      exact .request haccepts hfresh
        (s.withMade_coordinator s.coordinator.activeTargets call _ input.now)
        (s.withMade_made s.coordinator.activeTargets call _ input.now)

theorem coordinatorStep_of_submitSource {s : Service} {call : Call} {input : Input}
    {source : AnsibleJob} (hfresh : s.made.get input.newId = none) :
    CoordinatorStep s (s.submitSource call source input).1 := by
  unfold Service.submitSource AnsibleJobCoordinator.submitReconciliationWithLock
  dsimp only
  by_cases hsource : source.canBeReconciled = true
  · simp only [hsource, Bool.not_true, Bool.false_eq_true, if_false]
    cases s.coordinator.idempotency.get (source.target, reconcileIdempotencyKey source.id) with
    | some id =>
      dsimp only
      cases s.coordinator.jobs.get id with
      | some job => exact .keep rfl rfl
      | none => exact .keep rfl rfl
    | none =>
      dsimp only
      by_cases hlock : (s.database.isNone &&
          s.coordinator.lockedByOther source.target source.id) = true
      · simp only [if_pos hlock]
        exact .keep rfl rfl
      · simp only [if_neg hlock]
        exact .source hfresh
          (s.withMade_coordinator (s.coordinator.activeTargets.put source.target input.newId)
            call (AnsibleJobCoordinator.reconciliationOf source input.newId input.now) input.now)
          (s.withMade_made (s.coordinator.activeTargets.put source.target input.newId) call
            (AnsibleJobCoordinator.reconciliationOf source input.newId input.now) input.now)
  · simp only [hsource, Bool.not_false, if_true]
    exact .keep rfl rfl

/-- The other accesses do not change the coordinator. -/
theorem Access.coordinator {s s' : Service} {call : Call} {input : Input} {phase phase' : Phase}
    (h : Access s call input phase s' phase') (hfree : ∀ request, phase ≠ .free request)
    (hsource : ∀ source, phase ≠ .sourceFree source) :
    s'.coordinator = s.coordinator ∧ s'.made = s.made := by
  cases h with
  | read next open' => exact ⟨rfl, rfl⟩
  | refused lost => exact ⟨rfl, rfl⟩
  | found isCreate persistent row => exact ⟨Service.accept_coordinator .., Service.accept_made ..⟩
  | foundSource isReconcile persistent row => exact ⟨rfl, rfl⟩
  | made origin unused locked =>
    cases origin with
    | @request request accepts => exact absurd rfl (hfree request)
    | @source source => exact absurd rfl (hsource source)
  | duplicate entry known => exact ⟨Service.accept_coordinator .., Service.accept_made ..⟩
  | duplicateSource entry known => exact ⟨rfl, rfl⟩
  | inserted persistent row next =>
    exact ⟨Service.accept_coordinator .., Service.accept_made ..⟩
  | listed found => exact ⟨rfl, rfl⟩
  | appended persistent row => exact ⟨rfl, rfl⟩

theorem coordinatorStep_of_next {s s' : Service} {call : Call} {input : Input}
    {phase phase' : Phase} (h : s.next call input phase = some (s', phase'))
    (hfresh : s.made.get input.newId = none) : CoordinatorStep s s' := by
  by_cases hfree : ∃ request, phase = .free request
  · obtain ⟨request, rfl⟩ := hfree
    have hstep := @coordinatorStep_of_submit s call input request hfresh
    rw [Option.some.inj h] at hstep
    exact hstep
  by_cases hsource : ∃ source, phase = .sourceFree source
  · obtain ⟨source, rfl⟩ := hsource
    have hstep := @coordinatorStep_of_submitSource s call input source hfresh
    rw [Option.some.inj h] at hstep
    exact hstep
  · obtain ⟨hcoordinator, hmade⟩ := (Service.access_of_next h).coordinator
      (fun request heq => hfree ⟨request, heq⟩) (fun source heq => hsource ⟨source, heq⟩)
    exact .keep hcoordinator hmade

/-- **Everything a step does to the coordinator in persistent mode.** -/
theorem coordinatorStep_of_step {s s' : Service} {action : ServiceAction}
    (h : s.step action = some s') (hpersistent : s.database.isSome = true) :
    CoordinatorStep s s' := by
  cases action with
  | arrive n call =>
    obtain ⟨-, rfl⟩ := Service.arrive_some h
    exact .keep rfl rfl
  | advance n input =>
    obtain ⟨p, s'', phase, -, hfresh, hnext, rfl⟩ := Service.advance_some h
    have hstep := coordinatorStep_of_next hnext hfresh
    cases hstep with
    | keep coordinator made => exact .keep coordinator made
    | request accepts fresh coordinator made => exact .request accepts fresh coordinator made
    | source fresh coordinator made => exact .source fresh coordinator made
    | delete idle coordinator made => exact .delete idle coordinator made
  | coordinate op =>
    -- only without a database
    obtain ⟨hmemory, -, -⟩ := Service.coordinate_some h
    simp [hmemory] at hpersistent
  | progress id path now =>
    obtain ⟨db, -, job, -, job', -, jobs, -, rfl⟩ := Service.progress_some h
    exact .keep rfl rfl
  | putTarget target =>
    obtain ⟨-, rfl⟩ := Service.putTarget_some h
    exact .keep rfl rfl
  | putContainer id state =>
    obtain rfl := Option.some.inj h
    exact .keep rfl rfl
  | createUpdatePolicy request =>
    obtain rfl := Service.createUpdatePolicy_some h
    exact .keep rfl rfl
  | ensureDefaultUpdatePolicy =>
    obtain rfl := Option.some.inj h
    exact .keep rfl rfl
  | deleteUpdatePolicy id =>
    obtain rfl := Option.some.inj h
    exact .keep rfl rfl
  | deleteTarget id =>
    obtain ⟨hidle, rfl⟩ := Service.deleteTarget_some h
    exact .delete hidle rfl rfl

/-! ### Locks and reconciliations -/

/-- The server has made a reconciliation of a job of the target. -/
def Service.Reconciled (s : Service) (target : ResourceTarget) : Prop :=
  ∃ id call job, s.made.get id = some (call, job) ∧ job.target = target ∧ job.mode = .reconcile

/-- All jobs of the coordinator are queued, and a target is locked exactly if it was reconciled. -/
structure LocksKept (s : Service) : Prop where
  queued : ∀ id job, s.coordinator.jobs.get id = some job → job.status = .queued
  locked : ∀ target, (s.coordinator.activeTargets.get target).isSome = true ↔ s.Reconciled target

/-- One more job is made. -/
theorem reconciled_put {s s' : Service} {call : Call} {newId : AnsibleJobId} {job : AnsibleJob}
    (hmade : s'.made = s.made.put newId (call, job)) (hfresh : s.made.get newId = none)
    (target : ResourceTarget) :
    s'.Reconciled target ↔ s.Reconciled target ∨ (job.target = target ∧ job.mode = .reconcile) := by
  unfold Service.Reconciled
  rw [hmade]
  constructor
  · rintro ⟨id, call', job', hentry, htarget, hmode⟩
    rcases Table.get_put_cases hentry with ⟨-, heq⟩ | ⟨-, hold⟩
    · obtain ⟨rfl, rfl⟩ := Prod.mk.inj heq
      exact .inr ⟨htarget, hmode⟩
    · exact .inl ⟨id, call', job', hold, htarget, hmode⟩
  · rintro (⟨id, call', job', hentry, htarget, hmode⟩ | ⟨htarget, hmode⟩)
    · have hne : id ≠ newId := by
        rintro rfl
        rw [hfresh] at hentry
        cases hentry
      exact ⟨id, call', job', (Table.get_put_ne _ _ hne).trans hentry, htarget, hmode⟩
    · exact ⟨newId, call, job, Table.get_put_self .., htarget, hmode⟩

/-- A job that is registered is queued, as the others are. -/
theorem queued_register {c : AnsibleJobCoordinator} {job : AnsibleJob} {now : Timestamp}
    (h : ∀ id job, c.jobs.get id = some job → job.status = .queued) (hjob : job.status = .queued)
    (id : AnsibleJobId) (job' : AnsibleJob)
    (hfound : (c.register job now).jobs.get id = some job') : job'.status = .queued := by
  rcases Table.get_put_cases hfound with ⟨-, rfl⟩ | ⟨-, hold⟩
  · exact hjob
  · exact h id job' hold

theorem LocksKept.step {s s' : Service} (h : LocksKept s) (hstep : CoordinatorStep s s') :
    LocksKept s' := by
  cases hstep with
  | keep coordinator made =>
    constructor
    · rw [coordinator]
      exact h.queued
    · intro target
      unfold Service.Reconciled
      rw [coordinator, made]
      exact h.locked target
  | @request call request newId now accepts fresh coordinator made =>
    constructor
    · rw [coordinator]
      exact queued_register h.queued rfl
    · intro target
      have hmode : request.mode ≠ .reconcile := by
        intro hreconcile
        have hsupported := accepts.mode
        rw [hreconcile, AnsibleOperation.not_supportsMode_reconcile] at hsupported
        cases hsupported
      rw [reconciled_put made fresh, coordinator, ← h.locked target]
      constructor
      · exact .inl
      · rintro (hlocked | ⟨-, hreconcile⟩)
        · exact hlocked
        · exact absurd hreconcile hmode
  | @source call source newId now fresh coordinator made =>
    constructor
    · rw [coordinator]
      exact queued_register h.queued rfl
    · intro target
      rw [reconciled_put made fresh, coordinator, ← h.locked target]
      change ((s.coordinator.activeTargets.put source.target newId).get target).isSome = true ↔ _
      rw [Table.get_put]
      split
      case isTrue heq => exact iff_of_true rfl (.inr ⟨heq.symm, rfl⟩)
      case isFalse hne =>
        constructor
        · exact .inl
        · rintro (hlocked | ⟨heq, -⟩)
          · exact hlocked
          · exact absurd heq.symm hne
  | delete idle coordinator made =>
    constructor
    · rw [coordinator]
      intro id job hfound
      simp only [AnsibleJobCoordinator.withoutJobsOf, Table.get_retain,
        Option.filter_eq_some_iff] at hfound
      exact h.queued id job hfound.1
    · intro target
      unfold Service.Reconciled
      rw [coordinator, made]
      exact h.locked target

/-- **The lock of a target tells of all its reconciliations**, in every run in persistent mode. -/
theorem locksKept_of_reach {s : Service} (h : serviceMachine.Reach Machine.Any s)
    (hpersistent : s.database.isSome = true) : LocksKept s := by
  refine h.invariant (I := fun s => s.database.isSome = true → LocksKept s) ?_ ?_ hpersistent
  · rintro s ⟨configured, persistent, rfl⟩ -
    constructor
    · intro id job hfound
      cases hfound
    · intro target
      refine iff_of_false (by simp [Service.fresh, AnsibleJobCoordinator.default]) ?_
      rintro ⟨id, call, job, hentry, -⟩
      cases hentry
  · intro s action s' _ ih _ hstep hpersistent'
    have hmode := (step_cases hstep).persistent.symm.trans hpersistent'
    exact (ih hmode).step (coordinatorStep_of_step hstep hmode)

/-! ### Deletions -/

variable {H P D : Type}

/-- The state that `delete_target` works on: coordinator, targets and jobs are those of the
service, the rest is any. -/
def Service.apiState (s : Service) (rest : ApiStore H P D) (schedules : List ScheduleRow)
    (updatePolicies : List PolicyRow) (auditEvents : List TargetDeletedEvent) :
    ApiState H P D where
  store := { rest with targets := s.store.targets }
  ansible := s.coordinator
  repositories := s.database.map fun db =>
    ⟨db.targets, db.jobs, schedules, updatePolicies, auditEvents⟩

/-- The database holds a job of the target that is checking, planned, applying or waiting for its
reconciliation. -/
def ActiveInDatabase (state : ApiState H P D) (targetId : TargetId) : Prop :=
  ∃ db ∈ state.repositories, ∃ id job, db.ansibleJobs.get id = some job ∧
    job.target = .target targetId ∧
    job.status ∈ [.checking, .planned, .applying, .reconcileRequired]

/-- `delete_target` answers that a target is busy only if the database holds an active job of the
target. -/
def BusyOnlyIfActive (state : ApiState H P D) (targetId : TargetId) : Prop :=
  ∀ actorRole target confirmed now dbFails error,
    Uuid.parseStr target.toList = some targetId.uuid →
    deleteTarget state actorRole target confirmed now dbFails = .error error →
    error.code = "target_busy" → ActiveInDatabase state targetId

theorem blocksDeletion_iff {status : AnsibleJobStatus} :
    Database.blocksDeletion status = true ↔
      status ∈ [.checking, .planned, .applying, .reconcileRequired] := by
  cases status <;> decide

/-- The database refuses a deletion because of an active job. -/
theorem active_of_targetBusy {db : Database} {targetId : TargetId} {actorRole : String}
    {now : Timestamp} {fails : Bool}
    (h : db.deleteWithRelatedData targetId actorRole now fails = .error .targetBusy) :
    ∃ id job, db.ansibleJobs.get id = some job ∧ job.target = .target targetId ∧
      job.status ∈ [.checking, .planned, .applying, .reconcileRequired] := by
  unfold Database.deleteWithRelatedData at h
  split at h
  · cases h
  split at h
  · cases h
  split at h
  case isTrue hany =>
    obtain ⟨id, job, hjob, hactive⟩ := JobTable.any_eq_true.mp hany
    rw [Bool.and_eq_true, decide_eq_true_eq] at hactive
    exact ⟨id, job, hjob, hactive.1, blocksDeletion_iff.mp hactive.2⟩
  case isFalse => cases h

/-- A deletion is refused as busy by the coordinator or by the database. -/
theorem busy_of_deleteTarget {state : ApiState H P D} {actorRole : ActorRole} {target : String}
    {uuid : Uuid} {confirmed dbFails : Bool} {now : Timestamp} {error : ApiError}
    (huuid : Uuid.parseStr target.toList = some uuid)
    (h : deleteTarget state actorRole target confirmed now dbFails = .error error)
    (hcode : error.code = "target_busy") :
    state.ansible.targetHasActiveJobs ⟨uuid⟩ = true ∨ ActiveInDatabase state ⟨uuid⟩ := by
  by_contra hneither
  rw [not_or, Bool.not_eq_true] at hneither
  obtain ⟨hidle, hinactive⟩ := hneither
  have hremove : state.ansible.removeTargetJobs ⟨uuid⟩
      = .ok (state.ansible.withoutJobsOf ⟨uuid⟩) := by
    simp only [AnsibleJobCoordinator.removeTargetJobs, hidle]
    rfl
  simp only [deleteTarget, parseUuid, huuid, bind, Except.bind, pure, Except.pure, throw,
    throwThe, MonadExceptOf.throw, hidle, hremove] at h
  split at h
  case h_1 hpermission =>
    obtain rfl := Except.error.inj h
    unfold requirePermission at hpermission
    split at hpermission
    · cases hpermission
    · obtain rfl := Except.error.inj hpermission
      exact absurd hcode (by decide)
  split at h
  · obtain rfl := Except.error.inj h
    exact absurd hcode (by decide)
  rw [if_neg (by decide)] at h
  split at h
  · obtain rfl := Except.error.inj h
    exact absurd hcode (by decide)
  cases hrepo : state.repositories with
  | none =>
    rw [hrepo] at h
    cases h
  | some db =>
    rw [hrepo] at h
    dsimp only at h
    cases hdelete : db.deleteWithRelatedData ⟨uuid⟩ (deleteTarget.roleName actorRole) now
        dbFails with
    | ok result =>
      obtain ⟨found, db'⟩ := result
      cases found with
      | true =>
        rw [hdelete] at h
        cases h
      | false =>
        rw [hdelete] at h
        obtain rfl := Except.error.inj h
        exact absurd hcode (by decide)
    | error refusal =>
      by_cases hbusy : refusal = .targetBusy
      · rw [hbusy] at hdelete
        exact hinactive ⟨db, hrepo, active_of_targetBusy hdelete⟩
      · have hstorage : error = .storage := by
          cases refusal <;> simp_all
        rw [hstorage] at hcode
        exact absurd hcode (by decide)

/-- A confirmed deletion by an administrator is refused while the coordinator has work. -/
theorem deleteTarget_busy {state : ApiState H P D} {targetId : TargetId} (now : Timestamp)
    (dbFails : Bool) (h : state.ansible.targetHasActiveJobs targetId = true) :
    deleteTarget state .admin (targetText targetId) true now dbFails
      = .error targetBusyError := by
  have huuid : Uuid.parseStr (targetText targetId).toList = some targetId.uuid := by
    simpa [targetText] using Uuid.parseStr_toText targetId.uuid
  simp only [deleteTarget, parseUuid, huuid, bind, Except.bind, pure, Except.pure, throw,
    throwThe, MonadExceptOf.throw, h, if_true]
  rfl

/-- **When `delete_target` is right that a target is busy**, in every state that the server
reaches in persistent mode: if it has made no reconciliation of a job of the target, or the
database still holds an active one. -/
theorem busyOnlyIfActive_iff {s : Service} (h : serviceMachine.Reach Machine.Any s)
    (hpersistent : s.database.isSome = true) (rest : ApiStore H P D)
    (schedules : List ScheduleRow) (updatePolicies : List PolicyRow)
    (auditEvents : List TargetDeletedEvent) (targetId : TargetId) :
    BusyOnlyIfActive (s.apiState rest schedules updatePolicies auditEvents) targetId ↔
      (s.Reconciled (.target targetId) →
        ActiveInDatabase (s.apiState rest schedules updatePolicies auditEvents) targetId) := by
  obtain ⟨hqueued, hlocked⟩ := locksKept_of_reach h hpersistent
  constructor
  · intro hbusy hreconciled
    have hactive : s.coordinator.targetHasActiveJobs targetId = true := by
      simp only [AnsibleJobCoordinator.targetHasActiveJobs, (hlocked _).mpr hreconciled,
        Bool.true_or]
    refine hbusy .admin (targetText targetId) true 0 false targetBusyError ?_
      (deleteTarget_busy 0 false hactive) rfl
    simpa [targetText] using Uuid.parseStr_toText targetId.uuid
  · intro hreconciled actorRole target confirmed now dbFails error huuid hdelete hcode
    rcases busy_of_deleteTarget huuid hdelete hcode with hactive | hactive
    · -- the jobs are queued, so it is the lock
      have hlock : (s.coordinator.activeTargets.get (.target targetId)).isSome = true := by
        by_contra hunlocked
        change s.coordinator.targetHasActiveJobs targetId = true at hactive
        simp only [AnsibleJobCoordinator.targetHasActiveJobs, Bool.or_eq_true] at hactive
        rcases hactive with hlock | hjobs
        · exact hunlocked hlock
        · obtain ⟨job, hjob, hunfinished⟩ := List.any_eq_true.mp hjobs
          obtain ⟨id, hfound⟩ := Table.mem_values.mp hjob
          rw [hqueued id job hfound] at hunfinished
          simp [AnsibleJobStatus.isActive] at hunfinished
      exact hreconciled ((hlocked _).mp hlock)
    · exact hactive

/-- A repair is interrupted in persistent mode and its reconciliation is queued. -/
def repairReconciled : List ServiceAction :=
  setUp [] ++ sends 1 8 ⟨⟨1⟩⟩ (repairUnder "repair") ++ advances 1 3 ⟨⟨2⟩⟩ ++
    [.progress ⟨⟨1⟩⟩ [.checking, .planned, .applying, .reconcileRequired] 0,
      .arrive 3 (.reconcile .admin ⟨⟨1⟩⟩)] ++
    advances 3 4 ⟨⟨3⟩⟩ ++ advances 3 3 ⟨⟨4⟩⟩

/-- A store with no collections but the targets. -/
def emptyStore : ApiStore Unit Unit Unit := ⟨[], ∅, ∅, ∅, [], ∅, [], []⟩

theorem busy_while_reconciled :
    ∃ s, serviceMachine.Reach Machine.Any s ∧ s.database.isSome = true ∧
      s.Reconciled (.target ⟨⟨7⟩⟩) ∧ BusyOnlyIfActive (s.apiState emptyStore [] [] []) ⟨⟨7⟩⟩ := by
  have hrun : ∃ s ∈ serviceMachine.exec Machine.Any (sampleService true) repairReconciled,
      (∃ entry ∈ s.made.get ⟨⟨3⟩⟩, entry.2.target = .target ⟨⟨7⟩⟩ ∧ entry.2.mode = .reconcile) ∧
      ∃ db ∈ s.database, ∃ job ∈ db.jobs.get ⟨⟨1⟩⟩, job.target = .target ⟨⟨7⟩⟩ ∧
        job.status = .reconcileRequired := by
    decide +kernel
  obtain ⟨s, hexec, ⟨entry, hentry, hmade⟩, db, hdb, job, hjob, htarget, hstatus⟩ := hrun
  have hreach : serviceMachine.Reach Machine.Any s := .exec (.init ⟨_, _, rfl⟩) _ hexec
  have hpersistent : s.database.isSome = true := Option.isSome_of_mem hdb
  refine ⟨s, hreach, hpersistent, ⟨⟨⟨3⟩⟩, entry.1, entry.2, hentry, hmade⟩,
    (busyOnlyIfActive_iff hreach hpersistent _ _ _ _ _).mpr fun _ => ?_⟩
  have hrow : (s.apiState emptyStore [] [] []).repositories
      = some ⟨db.targets, db.jobs, [], [], []⟩ := by
    rw [Service.apiState, Option.mem_def.mp hdb]
    rfl
  refine ⟨_, hrow, ⟨⟨1⟩⟩, job, hjob, htarget, ?_⟩
  rw [hstatus]
  decide

theorem busy_after_reconciliation :
    ¬ ∀ s targetId, serviceMachine.Reach Machine.Any s → s.database.isSome = true →
      BusyOnlyIfActive (s.apiState emptyStore [] [] []) targetId := by
  intro hall
  have hrun : ∃ s ∈ serviceMachine.exec Machine.Any (sampleService true)
      (repairReconciled ++ [.progress ⟨⟨3⟩⟩ [.checking, .planned, .applying, .succeeded] 0,
        .progress ⟨⟨1⟩⟩ [.succeeded] 0]),
      s.coordinator.targetHasActiveJobs ⟨⟨7⟩⟩ = true ∧
      ∃ db ∈ s.database, db.jobs.list.all (fun job => job.status = .succeeded) = true := by
    decide +kernel
  obtain ⟨s, hexec, hbusy, db, hdb, hdone⟩ := hrun
  have hreach : serviceMachine.Reach Machine.Any s := .exec (.init ⟨_, _, rfl⟩) _ hexec
  have huuid : Uuid.parseStr (targetText ⟨⟨7⟩⟩).toList = some ⟨7⟩ := by
    simpa [targetText] using Uuid.parseStr_toText ⟨7⟩
  obtain ⟨rows, hrows, id, job, hjob, -, hactive⟩ := hall s ⟨⟨7⟩⟩ hreach
    (Option.isSome_of_mem hdb) .admin _ true 0 false _ huuid (deleteTarget_busy 0 false hbusy) rfl
  simp only [Service.apiState, Option.mem_def.mp hdb, Option.map_some, Option.mem_def,
    Option.some.injEq] at hrows
  subst hrows
  have hsucceeded := List.all_eq_true.mp hdone job (JobTable.mem_list.mpr ⟨id, hjob⟩)
  rw [of_decide_eq_true hsucceeded] at hactive
  exact absurd hactive (by decide)

end Lxcup.Submission
