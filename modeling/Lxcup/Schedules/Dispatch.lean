import Lxcup.Schedules.Keys
import Lxcup.Submission.Service

/-!
# Dispatching scheduled runs

`dispatch_scheduled_target` checks the target, makes the request, submits it to the coordinator and
inserts the job that the coordinator has made.  A slot is dispatched again when the server was
restarted before the schedule had advanced, and the coordinator has forgotten everything then.  The
table has not, and takes no second job of a target with one key.

Besides the dispatches there are the steps of everything else that has jobs or targets: calls of
the coordinator, inserts and changes of other jobs, and targets that come and go with their jobs.
The id of a target that was deleted is not used again.

The events of a job, which are written behind it, and the text of a failure are left out.

## Main definitions

* `DispatchInput`, `DispatchAnswer`, `DispatchState.dispatch`.
* `DispatchRecord` — a job that was inserted, with its schedule, target and slot.
* `DispatchAction`, `dispatchMachine`.

## Main results

* `created_iff` — when a dispatch makes a job.
* `recorded_of_reach` — no run has two jobs, across all restarts.
* `created_congr` — what other schedules dispatch does not matter for a run.
* `keyFree_exec` — where the key of a run comes from.
* `scheduledJobs_keyed` — keys of schedules, and what follows from them.
-/

namespace Lxcup.Schedules

open Lxcup.Lib Lxcup.Core Lxcup.Ansible Lxcup.Persistence Lxcup.Server Lxcup.Submission

/-- The schedule and the target of a dispatch, and what it gets from outside. -/
structure DispatchInput where
  store : WorkflowStore
  schedule : JobSchedule
  targetId : TargetId
  now : Timestamp
  newId : AnsibleJobId
  /-- `triggered`, by the last report of the agent. -/
  thresholdMet : Bool
  /-- `has_active_target` fails, which counts as no. -/
  lookupFails : Bool
  insertFails : Bool
  deriving DecidableEq, Repr

/-- The answer to a dispatch. -/
inductive DispatchAnswer
  | created (job : AnsibleJob)
  | duplicate (job : AnsibleJob)
  | refused
  deriving DecidableEq, Repr

/-- A job that was inserted for a run. -/
structure DispatchRecord where
  scheduleId : String
  targetId : TargetId
  slot : Timestamp
  jobId : AnsibleJobId
  deriving DecidableEq, Repr

/-- The schedule, the target and the second of a run. -/
def DispatchRecord.run (record : DispatchRecord) : String × TargetId × Int :=
  (record.scheduleId, record.targetId, record.slot / 1000000000)

/-- The coordinator, the tables, and the history. -/
structure DispatchState where
  coordinator : AnsibleJobCoordinator
  targets : Table TargetId Target
  jobs : JobTable
  created : List DispatchRecord
  deletedTargets : List TargetId

/-! ### Steps -/

/-- `has_active_target`. -/
def hasActiveTarget (jobs : JobTable) (target : ResourceTarget) : Bool :=
  jobs.any fun job => job.target = target && isActiveJobStatus job.status

/-- `scheduled_target`. -/
def scheduledTarget (jobs : JobTable) (input : DispatchInput) : Option Target :=
  (input.store.managedTarget (.target input.targetId)).filter fun _ =>
    !(!input.lookupFails && hasActiveTarget jobs (.target input.targetId))
      && (input.schedule.threshold.isNone || input.thresholdMet)

/-- The request of a dispatch, if the target and the schedule are in order. -/
def dispatchRequest (jobs : JobTable) (input : DispatchInput) : Option AnsibleJobRequest :=
  (scheduledTarget jobs input).bind fun target =>
    scheduledJobRequest input.store input.schedule target input.now

namespace DispatchState

/-- `dispatch_scheduled_target`. -/
def dispatch (s : DispatchState) (input : DispatchInput) : DispatchState × DispatchAnswer :=
  match dispatchRequest s.jobs input with
  | none => (s, .refused)
  | some request =>
    match s.coordinator.submit request input.newId input.now with
    | .error _ => (s, .refused)
    | .ok (.duplicate job, coordinator) => ({ s with coordinator }, .duplicate job)
    | .ok (.created job, coordinator) =>
      match JobTable.save s.targets s.jobs job with
      -- the coordinator keeps the job
      | .error _ => ({ s with coordinator }, .refused)
      | .ok jobs =>
        if input.insertFails then ({ s with coordinator }, .refused)
        else
          ({ s with
              coordinator
              jobs
              created := s.created ++
                [⟨input.schedule.id, input.targetId, input.schedule.nextRunAt, job.id⟩] },
            .created job)

/-- Several dispatches, one after the other. -/
def dispatchAll (s : DispatchState) (inputs : List DispatchInput) : DispatchState :=
  inputs.foldl (fun s input => (s.dispatch input).1) s

end DispatchState

/-- The steps. -/
inductive DispatchAction
  | dispatch (input : DispatchInput)
  | restart
  | coordinate (op : CoordinatorOp)
  /-- A job of somebody else. -/
  | insert (job : AnsibleJob)
  | progress (id : AnsibleJobId) (status : AnsibleJobStatus) (now : Timestamp)
  | register (target : Target)
  | delete (id : TargetId)

/-- The state after a step. -/
def DispatchState.step (s : DispatchState) : DispatchAction → Option DispatchState
  | .dispatch input => some (s.dispatch input).1
  | .restart => some { s with coordinator := .default }
  | .coordinate op => some { s with coordinator := op.run s.coordinator }
  | .insert job =>
    match JobTable.save s.targets s.jobs job with
    | .error _ => none
    | .ok jobs => some { s with jobs }
  | .progress id status now =>
    (s.jobs.get id).bind fun job =>
      match s.jobs.update { job with status, updatedAt := now } with
      | .error _ => none
      | .ok jobs => some { s with jobs }
  | .register target =>
    if target.id ∈ s.deletedTargets then none
    else some { s with targets := s.targets.put target.id target }
  | .delete id =>
    some { s with
      targets := s.targets.remove id
      jobs := s.jobs.retain fun job => job.target ≠ .target id
      deletedTargets := s.deletedTargets ++ [id] }

/-- The dispatches, from any tables and any coordinator on. -/
def dispatchMachine : Machine DispatchState DispatchAction where
  init s := s.created = [] ∧ s.deletedTargets = []
  step := DispatchState.step

variable {s s' : DispatchState} {input other : DispatchInput} {job : AnsibleJob}
  {request : AnsibleJobRequest}

/-! ### What a dispatch does -/

/-- The target and the key of a request that is dispatched. -/
theorem dispatchRequest_some {jobs : JobTable} (h : dispatchRequest jobs input = some request) :
    request.target = .target input.targetId ∧
      request.idempotencyKey
        = scheduleKey input.schedule.id input.targetId input.schedule.nextRunAt := by
  obtain ⟨target, htarget, hrequest⟩ := Option.bind_eq_some_iff.mp h
  obtain ⟨hmanaged, -⟩ := Option.filter_eq_some_iff.mp htarget
  have hfound := List.find?_some hmanaged
  simp only [Bool.and_eq_true, decide_eq_true_eq] at hfound
  obtain ⟨-, -, -, hrequested⟩ := scheduledJobRequest_some hrequest
  have hkey := key_of_scheduledJobRequest hrequest
  rw [hfound.1] at hrequested hkey
  exact ⟨hrequested, hkey⟩

/-- When the coordinator makes a job: the key is not in the index, and the request is accepted. -/
theorem submit_created_iff {c : AnsibleJobCoordinator} {newId : AnsibleJobId} {now : Timestamp} :
    (∃ c', c.submit request newId now = .ok (.created job, c')) ↔
      c.idempotency.get (request.target, request.idempotencyKey) = none ∧
        AnsibleJob.fromRequest request newId now = .ok job := by
  cases hindex : c.idempotency.get (request.target, request.idempotencyKey) with
  | some existingId =>
    cases hjob : c.jobs.get existingId <;> simp [AnsibleJobCoordinator.submit, hindex, hjob]
  | none =>
    cases hjob : AnsibleJob.fromRequest request newId now <;>
      simp [AnsibleJobCoordinator.submit, hindex, hjob]

/-- A job that the coordinator has made is in the index, and nothing else is new there. -/
theorem idempotency_of_submit {c c' : AnsibleJobCoordinator} {newId : AnsibleJobId}
    {now : Timestamp} (h : c.submit request newId now = .ok (.created job, c')) :
    c'.idempotency = c.idempotency.put (request.target, request.idempotencyKey) job.id := by
  unfold AnsibleJobCoordinator.submit at h
  dsimp only at h
  split at h
  · split at h <;> cases h
  · split at h
    · cases h
    · cases h
      rfl

/-- A duplicate changes nothing. -/
theorem eq_of_submit_duplicate {c c' : AnsibleJobCoordinator} {newId : AnsibleJobId}
    {now : Timestamp} (h : c.submit request newId now = .ok (.duplicate job, c')) : c' = c := by
  unfold AnsibleJobCoordinator.submit at h
  dsimp only at h
  split at h
  · split at h
    · cases h
      rfl
    · cases h
  · split at h <;> cases h

/-- A queued job can be inserted. -/
structure Insertable (s : DispatchState) (job : AnsibleJob) : Prop where
  idFree : s.jobs.get job.id = none
  keyFree : ∀ id row, s.jobs.get id = some row →
    ¬(row.target = job.target ∧ row.idempotencyKey = job.idempotencyKey)
  target : JobTable.targetMissing s.targets job.target = false

theorem save_ok_iff_of_queued (hqueued : job.status = .queued) {jobs : JobTable} :
    JobTable.save s.targets s.jobs job = .ok jobs ↔ Insertable s job ∧ jobs = s.jobs.put job := by
  constructor
  · intro h
    obtain ⟨hid, -, hjobs⟩ := JobTable.save_ok h
    exact ⟨⟨hid, JobTable.keyFree_of_save h, JobTable.targetMissing_of_save h⟩, hjobs⟩
  · rintro ⟨⟨hid, hkey, htarget⟩, rfl⟩
    have hconflict : s.jobs.activeConflict job = false := by
      rw [JobTable.activeConflict, hqueued]
      rfl
    have hkeyTaken : (s.jobs.any fun other =>
        other.target = job.target && other.idempotencyKey = job.idempotencyKey) = false :=
      JobTable.any_eq_false.mpr fun id row hrow => by simpa using hkey id row hrow
    unfold JobTable.save
    dsimp only
    rw [hid, hkeyTaken, htarget, hconflict]
    rfl

/-- The state after a job was made and inserted. -/
def DispatchState.inserted (s : DispatchState) (input : DispatchInput) (job : AnsibleJob)
    (coordinator : AnsibleJobCoordinator) : DispatchState :=
  { s with
    coordinator
    jobs := s.jobs.put job
    created := s.created ++
      [⟨input.schedule.id, input.targetId, input.schedule.nextRunAt, job.id⟩] }

/-- **Everything a dispatch can do.** -/
inductive Dispatched (s : DispatchState) (input : DispatchInput) :
    DispatchState × DispatchAnswer → Prop
  | nothing {answer : DispatchAnswer} (hanswer : ∀ job, answer ≠ .created job) :
    Dispatched s input (s, answer)
  /-- The coordinator has made a job, and it was not inserted. -/
  | lost {job : AnsibleJob} {request : AnsibleJobRequest} {coordinator : AnsibleJobCoordinator}
    (hrequest : dispatchRequest s.jobs input = some request)
    (hsubmit : s.coordinator.submit request input.newId input.now = .ok (.created job, coordinator))
    (hlost : ¬(Insertable s job ∧ input.insertFails = false)) :
    Dispatched s input ({ s with coordinator }, .refused)
  | created {job : AnsibleJob} {request : AnsibleJobRequest} {coordinator : AnsibleJobCoordinator}
    (hrequest : dispatchRequest s.jobs input = some request)
    (hsubmit : s.coordinator.submit request input.newId input.now = .ok (.created job, coordinator))
    (hinsert : Insertable s job) (hstored : input.insertFails = false) :
    Dispatched s input (s.inserted input job coordinator, .created job)

/-- A job that was just made is queued, and asked for like this. -/
theorem made_of_submit {c c' : AnsibleJobCoordinator} {newId : AnsibleJobId} {now : Timestamp}
    (h : c.submit request newId now = .ok (.created job, c')) :
    job.status = .queued ∧ job.id = newId ∧ job.target = request.target ∧
      job.idempotencyKey = request.idempotencyKey := by
  obtain ⟨-, hjob⟩ := submit_created_iff.mp ⟨c', h⟩
  obtain ⟨-, rfl⟩ := AnsibleJob.fromRequest_ok.mp hjob
  exact ⟨rfl, rfl, rfl, rfl⟩

theorem dispatched_dispatch (s : DispatchState) (input : DispatchInput) :
    Dispatched s input (s.dispatch input) := by
  unfold DispatchState.dispatch
  cases hrequest : dispatchRequest s.jobs input with
  | none => exact .nothing (by simp)
  | some request =>
    dsimp only
    split
    · exact .nothing (by simp)
    · rename_i job coordinator hsubmit
      rw [eq_of_submit_duplicate hsubmit]
      exact .nothing (by simp)
    · rename_i job coordinator hsubmit
      have hqueued := (made_of_submit hsubmit).1
      split
      · rename_i error hsave
        refine .lost hrequest hsubmit fun hstored => ?_
        rw [(save_ok_iff_of_queued hqueued).mpr ⟨hstored.1, rfl⟩] at hsave
        cases hsave
      · rename_i jobs hsave
        obtain ⟨hinsert, rfl⟩ := (save_ok_iff_of_queued hqueued).mp hsave
        split
        · rename_i hfails
          exact .lost hrequest hsubmit fun hstored => absurd hfails (by simp [hstored.2])
        · rename_i hstored
          exact .created hrequest hsubmit hinsert (Bool.eq_false_iff.mpr hstored)

/-- **When a dispatch makes a job.** -/
theorem created_iff :
    (s.dispatch input).2 = .created job ↔ ∃ request,
      dispatchRequest s.jobs input = some request ∧
      s.coordinator.idempotency.get (request.target, request.idempotencyKey) = none ∧
      AnsibleJob.fromRequest request input.newId input.now = .ok job ∧
      Insertable s job ∧ input.insertFails = false := by
  constructor
  · intro hanswer
    have hdispatched := dispatched_dispatch s input
    generalize s.dispatch input = result at hdispatched hanswer
    cases hdispatched with
    | nothing hother => exact absurd hanswer (hother job)
    | lost => cases hanswer
    | created hrequest hsubmit hinsert hstored =>
      cases hanswer
      obtain ⟨hindex, hjob⟩ := submit_created_iff.mp ⟨_, hsubmit⟩
      exact ⟨_, hrequest, hindex, hjob, hinsert, hstored⟩
  · rintro ⟨request, hrequest, hindex, hjob, hinsert, hstored⟩
    obtain ⟨c, hsubmit⟩ := submit_created_iff.mpr ⟨hindex, hjob⟩
    have hsave := (save_ok_iff_of_queued (made_of_submit hsubmit).1).mpr ⟨hinsert, rfl⟩
    unfold DispatchState.dispatch
    simp [hrequest, hsubmit, hsave, hstored]

/-! ### No run has two jobs -/

/-- The key of a run. -/
def DispatchRecord.key (record : DispatchRecord) : ResourceTarget × String :=
  (.target record.targetId, scheduleKey record.scheduleId record.targetId record.slot)

/-- What is known of the jobs that were inserted: they are still there, or their target is gone for
ever; and no two of them have one key. -/
structure Recorded (s : DispatchState) : Prop where
  kept : ∀ record ∈ s.created,
    (∃ id row, s.jobs.get id = some row ∧ (row.target, row.idempotencyKey) = record.key) ∨
      (s.targets.get record.targetId = none ∧ record.targetId ∈ s.deletedTargets)
  distinct : (s.created.map DispatchRecord.key).Nodup

/-- Rows keep their targets and keys, and no target comes back. -/
theorem Recorded.of_kept (h : Recorded s) (hcreated : s'.created = s.created)
    (hjobs : ∀ id row, s.jobs.get id = some row → ∃ row', s'.jobs.get id = some row' ∧
      row'.target = row.target ∧ row'.idempotencyKey = row.idempotencyKey)
    (htargets : ∀ id ∈ s.deletedTargets, s.targets.get id = none → s'.targets.get id = none)
    (hdeleted : ∀ id ∈ s.deletedTargets, id ∈ s'.deletedTargets) : Recorded s' where
  kept := by
    rw [hcreated]
    intro record hrecord
    rcases h.kept record hrecord with ⟨id, row, hrow, hkey⟩ | ⟨htarget, hgone⟩
    · obtain ⟨row', hrow', htarget, hkey'⟩ := hjobs id row hrow
      exact .inl ⟨id, row', hrow', by rw [htarget, hkey', hkey]⟩
    · exact .inr ⟨htargets _ hgone htarget, hdeleted _ hgone⟩
  distinct := by
    rw [hcreated]
    exact h.distinct

/-- The coordinator has no part in it. -/
theorem Recorded.withCoordinator (h : Recorded s) (coordinator : AnsibleJobCoordinator) :
    Recorded { s with coordinator } :=
  h.of_kept rfl (fun _ row hrow => ⟨row, hrow, rfl, rfl⟩) (fun _ _ hgone => hgone)
    fun _ hdeleted => hdeleted

/-- A row that is new leaves the others. -/
theorem get_put_of_free {jobs : JobTable} (hfree : jobs.get job.id = none) {id : AnsibleJobId}
    {row : AnsibleJob} (hrow : jobs.get id = some row) : (jobs.put job).get id = some row := by
  have hne : id ≠ job.id := by
    rintro rfl
    rw [hfree] at hrow
    cases hrow
  rw [JobTable.get_put_ne _ _ hne, hrow]

theorem recorded_dispatch (h : Recorded s) : Recorded (s.dispatch input).1 := by
  have hdispatched := dispatched_dispatch s input
  generalize s.dispatch input = result at hdispatched
  cases hdispatched with
  | nothing => exact h
  | lost => exact h.withCoordinator _
  | @created job request coordinator hrequest hsubmit hinsert hstored =>
    obtain ⟨-, -, htarget, hkey⟩ := made_of_submit hsubmit
    obtain ⟨hrequested, hscheduled⟩ := dispatchRequest_some hrequest
    have hjobKey : (job.target, job.idempotencyKey) = DispatchRecord.key
        ⟨input.schedule.id, input.targetId, input.schedule.nextRunAt, job.id⟩ := by
      rw [htarget, hkey, hrequested, hscheduled]
      rfl
    constructor
    · intro record hrecord
      rcases List.mem_append.mp hrecord with hold | hnew
      · rcases h.kept record hold with ⟨id, row, hrow, hrowKey⟩ | hgone
        · exact .inl ⟨id, row, get_put_of_free hinsert.idFree hrow, hrowKey⟩
        · exact .inr hgone
      · rw [List.mem_singleton] at hnew
        subst hnew
        exact .inl ⟨job.id, job, JobTable.get_put_self .., hjobKey⟩
    · show ((s.created ++ [_]).map DispatchRecord.key).Nodup
      rw [List.map_append, List.map_singleton, List.nodup_append]
      refine ⟨h.distinct, List.nodup_singleton _, ?_⟩
      intro key hmem key' hmem' heq
      rw [List.mem_singleton] at hmem'
      obtain ⟨record, hrecord, rfl⟩ := List.mem_map.mp hmem
      subst hmem'
      rcases h.kept record hrecord with ⟨id, row, hrow, hrowKey⟩ | ⟨hgone, -⟩
      · -- the row of the earlier job has the key
        rw [heq, ← hjobKey] at hrowKey
        exact hinsert.keyFree id row hrow (Prod.mk.inj hrowKey)
      · -- the target of the earlier job is gone
        have hsame : record.targetId = input.targetId :=
          ResourceTarget.target.inj (congrArg Prod.fst heq)
        have hmissing := hinsert.target
        rw [htarget, hrequested, ← hsame] at hmissing
        simp [JobTable.targetMissing, hgone] at hmissing

/-- A job that is written with another status keeps its target and its key. -/
theorem get_of_update {jobs jobs' : JobTable} {status : AnsibleJobStatus} {now : Timestamp}
    (hjob : jobs.get job.id = some job)
    (h : jobs.update { job with status, updatedAt := now } = .ok jobs') {id : AnsibleJobId}
    {row : AnsibleJob} (hrow : jobs.get id = some row) :
    ∃ row', jobs'.get id = some row' ∧ row'.target = row.target ∧
      row'.idempotencyKey = row.idempotencyKey := by
  rcases JobTable.update_ok h with ⟨-, rfl⟩ | ⟨-, -, rfl⟩
  · exact ⟨row, hrow, rfl, rfl⟩
  · rw [JobTable.get_put]
    split
    · rename_i hsame
      have hsame : id = job.id := hsame
      rw [hsame, hjob] at hrow
      cases hrow
      exact ⟨_, rfl, rfl, rfl⟩
    · exact ⟨row, hrow, rfl, rfl⟩

/-- A target is deleted with its jobs. -/
theorem recorded_delete (h : Recorded s) (id : TargetId) :
    Recorded { s with
      targets := s.targets.remove id
      jobs := s.jobs.retain fun job => job.target ≠ .target id
      deletedTargets := s.deletedTargets ++ [id] } where
  kept := by
    intro record hrecord
    by_cases hsame : record.targetId = id
    · refine .inr ⟨?_, List.mem_append_right _ (List.mem_singleton.mpr hsame)⟩
      show (s.targets.remove id).get record.targetId = none
      rw [Table.get_remove, if_pos hsame]
    · rcases h.kept record hrecord with ⟨id', row, hrow, hkey⟩ | ⟨hgone, hdeleted⟩
      · have hkept : row.target ≠ .target id := by
          intro htarget
          have hrecorded := congrArg Prod.fst hkey
          rw [show (row.target, row.idempotencyKey).1 = row.target from rfl, htarget] at hrecorded
          exact hsame (ResourceTarget.target.inj hrecorded).symm
        refine .inl ⟨id', row, ?_, hkey⟩
        show (s.jobs.retain _).get id' = some row
        rw [JobTable.get_retain, hrow]
        simp [Option.filter, hkept]
      · refine .inr ⟨?_, List.mem_append_left _ hdeleted⟩
        show (s.targets.remove id).get record.targetId = none
        rw [Table.get_remove, if_neg hsame, hgone]
  distinct := h.distinct

theorem recorded_step {action : DispatchAction} (h : Recorded s) (hs : s.step action = some s') :
    Recorded s' := by
  cases action with
  | dispatch input =>
    cases hs
    exact recorded_dispatch h
  | restart =>
    cases hs
    exact h.withCoordinator _
  | coordinate op =>
    cases hs
    exact h.withCoordinator _
  | insert job =>
    simp only [DispatchState.step] at hs
    split at hs
    · cases hs
    · rename_i jobs hsaved
      cases hs
      obtain ⟨hfree, -, rfl⟩ := JobTable.save_ok hsaved
      exact h.of_kept rfl (fun _ row hrow => ⟨row, get_put_of_free hfree hrow, rfl, rfl⟩)
        (fun _ _ h => h) fun _ h => h
  | progress id status now =>
    obtain ⟨job, hjob, hs⟩ := Option.bind_eq_some_iff.mp hs
    split at hs
    · cases hs
    · rename_i jobs hupdated
      cases hs
      have hid : job.id = id := JobTable.get_id hjob
      subst hid
      exact h.of_kept rfl (fun _ row hrow => get_of_update hjob hupdated hrow) (fun _ _ h => h)
        fun _ h => h
  | register target =>
    simp only [DispatchState.step] at hs
    split at hs
    · cases hs
    · rename_i hnew
      cases hs
      refine h.of_kept rfl (fun _ row hrow => ⟨row, hrow, rfl, rfl⟩) (fun id hid hgone => ?_)
        fun _ h => h
      have hne : id ≠ target.id := by
        rintro rfl
        exact hnew hid
      show (s.targets.put target.id target).get id = none
      rw [Table.get_put_ne _ _ hne, hgone]
  | delete id =>
    cases hs
    exact recorded_delete h id

/-- **No run of a schedule has two jobs**, whatever else happens, across all restarts. -/
theorem recorded_of_reach (h : dispatchMachine.Reach Machine.Any s) : Recorded s := by
  refine h.invariant ?_ ?_
  · rintro s ⟨hcreated, -⟩
    constructor
    · rw [hcreated]
      exact fun _ hrecord => absurd hrecord List.not_mem_nil
    · rw [hcreated]
      exact List.nodup_nil
  · exact fun s action s' _ h _ hs => recorded_step h hs

/-- A key of a run is that of its schedule, target and second. -/
theorem nodup_runs (h : Recorded s) : (s.created.map DispatchRecord.run).Nodup := by
  have hkeys : DispatchRecord.key = (fun run : String × TargetId × Int =>
      (ResourceTarget.target run.2.1,
        scheduleKey run.1 run.2.1 (run.2.2 * 1000000000))) ∘ DispatchRecord.run := by
    funext record
    have hsecond : record.slot / 1000000000 * 1000000000 / 1000000000
        = record.slot / 1000000000 := Int.mul_ediv_cancel _ (by decide)
    simp only [DispatchRecord.key, DispatchRecord.run, Function.comp_apply, scheduleKey, hsecond]
  have hdistinct := h.distinct
  rw [hkeys, ← List.map_map] at hdistinct
  exact List.Nodup.of_map _ hdistinct

/-! ### Other schedules do not matter -/

/-- The two states are the same for a dispatch. -/
structure AlikeFor (input : DispatchInput) (s t : DispatchState) : Prop where
  active : ∀ target, hasActiveTarget t.jobs target = hasActiveTarget s.jobs target
  index : ∀ key, key = (ResourceTarget.target input.targetId,
      scheduleKey input.schedule.id input.targetId input.schedule.nextRunAt) →
    t.coordinator.idempotency.get key = s.coordinator.idempotency.get key
  insertable : ∀ job : AnsibleJob, job.id = input.newId → job.target = .target input.targetId →
    job.idempotencyKey = scheduleKey input.schedule.id input.targetId input.schedule.nextRunAt →
      (Insertable t job ↔ Insertable s job)

theorem AlikeFor.refl : AlikeFor input s s :=
  ⟨fun _ => rfl, fun _ _ => rfl, fun _ _ _ _ => Iff.rfl⟩

theorem AlikeFor.trans {t u : DispatchState} (h : AlikeFor input s t) (h' : AlikeFor input t u) :
    AlikeFor input s u where
  active target := (h'.active target).trans (h.active target)
  index key hkey := (h'.index key hkey).trans (h.index key hkey)
  insertable job hid htarget hkey :=
    (h'.insertable job hid htarget hkey).trans (h.insertable job hid htarget hkey)

/-- In two such states the dispatch makes the same job, or none. -/
theorem created_congr {t : DispatchState} (h : AlikeFor input s t) :
    (t.dispatch input).2 = .created job ↔ (s.dispatch input).2 = .created job := by
  have hrequest : dispatchRequest t.jobs input = dispatchRequest s.jobs input := by
    simp only [dispatchRequest, scheduledTarget, h.active]
  rw [created_iff, created_iff, hrequest]
  refine exists_congr fun request => and_congr_right fun hsome => ?_
  obtain ⟨htarget, hkey⟩ := dispatchRequest_some hsome
  rw [h.index _ (by rw [htarget, hkey])]
  refine and_congr_right fun _ => and_congr_right fun hjob => and_congr_left fun _ => ?_
  obtain ⟨-, rfl⟩ := AnsibleJob.fromRequest_ok.mp hjob
  exact h.insertable _ rfl htarget hkey

/-- A queued job that is inserted makes no target busy. -/
theorem hasActiveTarget_put {jobs : JobTable} (hqueued : job.status = .queued)
    (hfree : jobs.get job.id = none) (target : ResourceTarget) :
    hasActiveTarget (jobs.put job) target = hasActiveTarget jobs target := by
  unfold hasActiveTarget
  rw [Bool.eq_iff_iff, JobTable.any_eq_true, JobTable.any_eq_true]
  constructor
  · rintro ⟨id, row, hrow, hactive⟩
    rw [JobTable.get_put] at hrow
    split at hrow
    · cases hrow
      simp [isActiveJobStatus, AnsibleJobStatus.isActive, hqueued] at hactive
    · exact ⟨id, row, hrow, hactive⟩
  · rintro ⟨id, row, hrow, hactive⟩
    exact ⟨id, row, get_put_of_free hfree hrow, hactive⟩

/-- A job that is inserted is in the way of one with its id or its key only. -/
theorem insertable_inserted {made : AnsibleJob} {coordinator : AnsibleJobCoordinator}
    (hinsert : Insertable s made) (hid : job.id ≠ made.id)
    (hkey : ¬(made.target = job.target ∧ made.idempotencyKey = job.idempotencyKey)) :
    Insertable (s.inserted input made coordinator) job ↔ Insertable s job := by
  have hget : ∀ {id row}, s.jobs.get id = some row →
      (s.jobs.put made).get id = some row := get_put_of_free hinsert.idFree
  constructor
  · intro h
    refine ⟨?_, fun id row hrow => h.keyFree id row (hget hrow), h.target⟩
    rw [← JobTable.get_put_ne s.jobs made hid]
    exact h.idFree
  · intro h
    refine ⟨?_, fun id row hrow => ?_, h.target⟩
    · show (s.jobs.put made).get job.id = none
      rw [JobTable.get_put_ne _ _ hid, h.idFree]
    · have hrow : (s.jobs.put made).get id = some row := hrow
      rw [JobTable.get_put] at hrow
      split at hrow
      · cases hrow
        exact hkey
      · exact h.keyFree id row hrow

/-- The dispatch of another schedule, which gets another id for its job. -/
structure OtherSchedule (input other : DispatchInput) : Prop where
  schedule : other.schedule.id ≠ input.schedule.id
  slot : InCalendar other.schedule.nextRunAt
  newId : other.newId ≠ input.newId

/-- **The dispatch of another schedule** leaves everything as it is for a dispatch. -/
theorem alikeFor_dispatch (hslot : InCalendar input.schedule.nextRunAt)
    (h : OtherSchedule input other) : AlikeFor input s (s.dispatch other).1 := by
  have hkeys : ∀ {target : ResourceTarget} {key : String}, target = .target other.targetId →
      key = scheduleKey other.schedule.id other.targetId other.schedule.nextRunAt →
      (target, key) ≠ (.target input.targetId,
        scheduleKey input.schedule.id input.targetId input.schedule.nextRunAt) := by
    rintro target key rfl rfl heq
    obtain ⟨htarget, hkey⟩ := Prod.mk.inj heq
    rw [ResourceTarget.target.inj htarget] at hkey
    exact h.schedule (scheduleKey_inj h.slot hslot hkey).1
  have hdispatched := dispatched_dispatch s other
  generalize s.dispatch other = result at hdispatched
  cases hdispatched with
  | nothing => exact .refl
  | lost hrequest hsubmit =>
    obtain ⟨htarget, hkey⟩ := dispatchRequest_some hrequest
    refine ⟨fun _ => rfl, ?_, fun _ _ _ _ => ⟨fun h => ⟨h.1, h.2, h.3⟩, fun h => ⟨h.1, h.2, h.3⟩⟩⟩
    rintro key rfl
    show Table.get _ _ = _
    rw [idempotency_of_submit hsubmit, Table.get_put_ne _ _ (hkeys htarget hkey).symm]
  | @created job request coordinator hrequest hsubmit hinsert hstored =>
    obtain ⟨htarget, hkey⟩ := dispatchRequest_some hrequest
    obtain ⟨hqueued, hid, hjobTarget, hjobKey⟩ := made_of_submit hsubmit
    constructor
    · exact hasActiveTarget_put hqueued hinsert.idFree
    · rintro key rfl
      show Table.get coordinator.idempotency _ = _
      rw [idempotency_of_submit hsubmit, Table.get_put_ne _ _ (hkeys htarget hkey).symm]
    · intro other' hid' htarget' hkey'
      refine insertable_inserted hinsert ?_ ?_
      · rw [hid', hid]
        exact h.newId.symm
      · rw [htarget', hkey']
        rintro ⟨htarget'', hkey''⟩
        exact hkeys (hjobTarget.trans htarget) (hjobKey.trans hkey) (by rw [htarget'', hkey''])

/-- The dispatches of other schedules, one after the other. -/
theorem alikeFor_dispatches (hslot : InCalendar input.schedule.nextRunAt)
    {others : List DispatchInput} (h : ∀ other ∈ others, OtherSchedule input other) :
    AlikeFor input s (s.dispatchAll others) := by
  induction others generalizing s with
  | nil => exact .refl
  | cons other others ih =>
    have hfirst : AlikeFor input s (s.dispatch other).1 :=
      alikeFor_dispatch hslot (h other List.mem_cons_self)
    exact hfirst.trans (ih fun other' hmem => h other' (List.mem_cons_of_mem _ hmem))

/-! ### Where a key comes from -/

/-- The target and the key of the job that a dispatch asks for. -/
def DispatchInput.key (input : DispatchInput) : ResourceTarget × String :=
  (.target input.targetId, scheduleKey input.schedule.id input.targetId input.schedule.nextRunAt)

/-- No job is known under the key, to the coordinator and in the table. -/
structure KeyFree (s : DispatchState) (key : ResourceTarget × String) : Prop where
  index : s.coordinator.idempotency.get key = none
  rows : ∀ id row, s.jobs.get id = some row → (row.target, row.idempotencyKey) ≠ key

/-- The call asks for a job with the key. -/
def asksForKey (key : ResourceTarget × String) : CoordinatorOp → Prop
  | .submit request _ _ => (request.target, request.idempotencyKey) = key
  | .submitReconciliation source _ _ | .submitPersistedReconciliation source _ _ =>
    (source.target, reconcileIdempotencyKey source.id) = key
  | _ => False

/-- **The step is none for the run**: no dispatch of its schedule, target and second, and no job of
somebody else with its key. -/
def SparesRun (input : DispatchInput) : DispatchAction → Prop
  | .dispatch other => InCalendar other.schedule.nextRunAt ∧
      ¬(other.schedule.id = input.schedule.id ∧ other.targetId = input.targetId ∧
        other.schedule.nextRunAt / 1000000000 = input.schedule.nextRunAt / 1000000000)
  | .coordinate op => ¬ asksForKey input.key op
  | .insert job => (job.target, job.idempotencyKey) ≠ input.key
  | .restart | .progress .. | .register _ | .delete _ => True

/-- All that a dispatch needs besides its key. -/
structure Ready (s : DispatchState) (input : DispatchInput) (job : AnsibleJob) : Prop where
  asked : ∃ request, dispatchRequest s.jobs input = some request ∧
    AnsibleJob.fromRequest request input.newId input.now = .ok job
  idFree : s.jobs.get input.newId = none
  target : JobTable.targetMissing s.targets (.target input.targetId) = false
  stored : input.insertFails = false

theorem created_iff_ready (hfree : KeyFree s input.key) :
    (s.dispatch input).2 = .created job ↔ Ready s input job := by
  rw [created_iff]
  constructor
  · rintro ⟨request, hrequest, -, hjob, hinsert, hstored⟩
    obtain ⟨htarget, -⟩ := dispatchRequest_some hrequest
    obtain ⟨-, rfl⟩ := AnsibleJob.fromRequest_ok.mp hjob
    refine ⟨⟨request, hrequest, hjob⟩, hinsert.idFree, ?_, hstored⟩
    rw [← htarget]
    exact hinsert.target
  · rintro ⟨⟨request, hrequest, hjob⟩, hid, htarget, hstored⟩
    obtain ⟨hrequested, hkey⟩ := dispatchRequest_some hrequest
    have hindex := hfree.index
    rw [DispatchInput.key, ← hkey, ← hrequested] at hindex
    refine ⟨request, hrequest, hindex, hjob, ?_, hstored⟩
    obtain ⟨-, rfl⟩ := AnsibleJob.fromRequest_ok.mp hjob
    refine ⟨hid, fun id row hrow hsame => hfree.rows id row hrow ?_, ?_⟩
    · rw [hsame.1, hsame.2, DispatchInput.key, ← hkey, ← hrequested]
      rfl
    · show JobTable.targetMissing s.targets request.target = false
      rw [hrequested]
      exact htarget

/-- Another run has another key. -/
theorem key_ne_of_spares (hslot : InCalendar input.schedule.nextRunAt)
    (hspares : SparesRun input (.dispatch other)) : other.key ≠ input.key := by
  intro heq
  obtain ⟨htarget, hkey⟩ := Prod.mk.inj heq
  have hsame : other.targetId = input.targetId := ResourceTarget.target.inj htarget
  rw [hsame] at hkey
  obtain ⟨hschedule, hsecond⟩ := scheduleKey_inj hspares.1 hslot hkey
  exact hspares.2 ⟨hschedule, hsame, hsecond⟩

/-- A call of the coordinator takes up no key but the one of the job that it asks for. -/
theorem index_free_run {c : AnsibleJobCoordinator} {key : ResourceTarget × String}
    {op : CoordinatorOp} (hfree : c.idempotency.get key = none) (hother : ¬ asksForKey key op) :
    (op.run c).idempotency.get key = none := by
  have hchange := CoordinatorOp.change_run op c
  generalize op.run c = c' at hchange
  cases hchange with
  | keep => exact hfree
  | record => exact hfree
  | queue =>
    exact (Table.get_put_ne _ _ fun heq => hother heq.symm).trans hfree
  | reconcile hcall =>
    show Table.get (Table.put _ _ _) _ = none
    rw [Table.get_put_ne]
    · exact hfree
    · rintro rfl
      rcases hcall with ⟨rfl, -⟩ | rfl
      · exact hother rfl
      · exact hother rfl
  | move =>
    rw [AnsibleJobCoordinator.moved_idempotency]
    exact hfree
  | remove =>
    show Table.get (Table.retain _ _) _ = none
    rw [Table.get_retain, hfree]
    rfl

/-- Keys that are free stay free in rows that keep their targets and keys. -/
theorem rows_free_of_kept {jobs jobs' : JobTable} {key : ResourceTarget × String}
    (hfree : ∀ id row, jobs.get id = some row → (row.target, row.idempotencyKey) ≠ key)
    (hkept : ∀ id row, jobs'.get id = some row → ∃ id' row', jobs.get id' = some row' ∧
      row'.target = row.target ∧ row'.idempotencyKey = row.idempotencyKey)
    (id : AnsibleJobId) (row : AnsibleJob) (hrow : jobs'.get id = some row) :
    (row.target, row.idempotencyKey) ≠ key := by
  obtain ⟨id', row', hrow', htarget, hkey⟩ := hkept id row hrow
  rw [← htarget, ← hkey]
  exact hfree id' row' hrow'

theorem keyFree_step {action : DispatchAction} (hslot : InCalendar input.schedule.nextRunAt)
    (hfree : KeyFree s input.key) (hspares : SparesRun input action)
    (hs : s.step action = some s') : KeyFree s' input.key := by
  cases action with
  | dispatch other =>
    cases hs
    have hne := key_ne_of_spares hslot hspares
    have hdispatched := dispatched_dispatch s other
    generalize s.dispatch other = result at hdispatched
    cases hdispatched with
    | nothing => exact hfree
    | lost hrequest hsubmit =>
      obtain ⟨htarget, hkey⟩ := dispatchRequest_some hrequest
      refine ⟨?_, hfree.rows⟩
      show Table.get _ _ = _
      rw [idempotency_of_submit hsubmit, htarget, hkey]
      exact (Table.get_put_ne _ _ hne.symm).trans hfree.index
    | @created job request coordinator hrequest hsubmit hinsert hstored =>
      obtain ⟨htarget, hkey⟩ := dispatchRequest_some hrequest
      obtain ⟨-, -, hjobTarget, hjobKey⟩ := made_of_submit hsubmit
      constructor
      · show Table.get coordinator.idempotency _ = _
        rw [idempotency_of_submit hsubmit, htarget, hkey]
        exact (Table.get_put_ne _ _ hne.symm).trans hfree.index
      · intro id row hrow
        have hrow : (s.jobs.put job).get id = some row := hrow
        rw [JobTable.get_put] at hrow
        split at hrow
        · cases hrow
          rw [hjobTarget, hjobKey, htarget, hkey]
          exact hne
        · exact hfree.rows id row hrow
  | restart =>
    cases hs
    exact ⟨Table.get_empty _, hfree.rows⟩
  | coordinate op =>
    cases hs
    exact ⟨index_free_run hfree.index hspares, hfree.rows⟩
  | insert job =>
    dsimp only [DispatchState.step] at hs
    split at hs
    · cases hs
    · rename_i jobs hsave
      cases hs
      obtain ⟨-, -, rfl⟩ := JobTable.save_ok hsave
      refine ⟨hfree.index, fun id row hrow => ?_⟩
      rw [JobTable.get_put] at hrow
      split at hrow
      · cases hrow
        exact hspares
      · exact hfree.rows id row hrow
  | progress id status now =>
    obtain ⟨job, hjob, hs⟩ := Option.bind_eq_some_iff.mp hs
    split at hs
    · cases hs
    · rename_i jobs hupdate
      cases hs
      refine ⟨hfree.index, rows_free_of_kept hfree.rows fun id' row hrow => ?_⟩
      rcases JobTable.update_ok hupdate with ⟨-, rfl⟩ | ⟨-, -, rfl⟩
      · exact ⟨id', row, hrow, rfl, rfl⟩
      · rw [JobTable.get_put] at hrow
        split at hrow
        · cases hrow
          exact ⟨id, job, hjob, rfl, rfl⟩
        · exact ⟨id', row, hrow, rfl, rfl⟩
  | register target =>
    dsimp only [DispatchState.step] at hs
    split at hs
    · cases hs
    · cases hs
      exact ⟨hfree.index, hfree.rows⟩
  | delete id =>
    cases hs
    refine ⟨hfree.index, rows_free_of_kept hfree.rows fun id' row hrow => ?_⟩
    have hrow : (s.jobs.retain _).get id' = some row := hrow
    rw [JobTable.get_retain, Option.filter_eq_some_iff] at hrow
    exact ⟨id', row, hrow.1, rfl, rfl⟩

/-- **A key stays free in every run without its own dispatch.** -/
theorem keyFree_exec {actions : List DispatchAction} (hslot : InCalendar input.schedule.nextRunAt)
    (hfree : KeyFree s input.key) (hspares : ∀ action ∈ actions, SparesRun input action)
    (hs : dispatchMachine.exec Machine.Any s actions = some s') : KeyFree s' input.key := by
  induction actions generalizing s with
  | nil =>
    cases hs
    exact hfree
  | cons action actions ih =>
    rw [Machine.exec, if_pos (show Machine.Any s action from trivial)] at hs
    obtain ⟨t, ht, hrest⟩ := Option.bind_eq_some_iff.mp hs
    refine ih (keyFree_step hslot hfree (hspares action List.mem_cons_self) ht) ?_ hrest
    exact fun action' hmem => hspares action' (List.mem_cons_of_mem _ hmem)

/-- **Keys of schedules are valid and tell the runs of a target apart.**  No run has two jobs in
any state that is reached, and what other schedules have dispatched does not keep a dispatch from
making its job: whatever happens, a dispatch is refused by its key only after a dispatch of its own
schedule, target and second, or after somebody else has used the key. -/
theorem scheduledJobs_keyed :
    (∀ request targetId slot, validateScheduleIdentity request = .ok () → InCalendar slot →
      KeyAccepted (scheduleKey request.id targetId slot)) ∧
    (∀ scheduleId scheduleId' targetId slot slot', InCalendar slot → InCalendar slot' →
      scheduleKey scheduleId targetId slot = scheduleKey scheduleId' targetId slot' →
        scheduleId = scheduleId' ∧ slot / 1000000000 = slot' / 1000000000) ∧
    (∀ s, dispatchMachine.Reach Machine.Any s → (s.created.map DispatchRecord.run).Nodup) ∧
    (∀ (s : DispatchState) input others job, InCalendar input.schedule.nextRunAt →
      (∀ other ∈ others, OtherSchedule input other) →
        (((s.dispatchAll others).dispatch input).2 = .created job ↔
          (s.dispatch input).2 = .created job)) ∧
    (∀ (s s' : DispatchState) input actions job, InCalendar input.schedule.nextRunAt →
      KeyFree s input.key → (∀ action ∈ actions, SparesRun input action) →
        dispatchMachine.exec Machine.Any s actions = some s' →
          ((s'.dispatch input).2 = .created job ↔ Ready s' input job)) :=
  ⟨fun _ targetId _ hrequest hslot => scheduleKey_accepted hrequest targetId hslot,
    fun _ _ _ _ _ hslot hslot' heq => scheduleKey_inj hslot hslot' heq,
    fun _ hreach => nodup_runs (recorded_of_reach hreach),
    fun _ _ _ _ hslot hothers => created_congr (alikeFor_dispatches hslot hothers),
    fun _ _ _ _ _ hslot hfree hspares hs =>
      created_iff_ready (keyFree_exec hslot hfree hspares hs)⟩

end Lxcup.Schedules
