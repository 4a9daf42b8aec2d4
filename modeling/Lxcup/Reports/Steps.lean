import Lxcup.Lib.Outcome
import Lxcup.Reports.Service

/-!
# What the steps of the report server do

The effect of every step on the jobs, as they are found by their ids, and on their events, in
either mode.  Everything that is proved about runs of the server goes through this.

## Main definitions

* `JobStore.Kept` — the coordinator is well kept.
* `Numbered` — the events of a job are numbered from one.
* `Regular` — what holds in all runs: the jobs are known to the history, and their events are
  numbered.

## Main results

* `runAll_resultOps` — a result is written as a whole to a job that awaits it.
* `JobStore.claim_cases`, `retry_cases`, `deleteTarget_cases` — the other changes to jobs.
* `regular_of_reach` — the invariant, in every state of every run.
-/

namespace Lxcup.Reports

open Lxcup.Lib Lxcup.Core Lxcup.Ansible Lxcup.Agent Lxcup.Persistence Lxcup.Server Lxcup.Worker
open Lxcup.Submission (JobDatabase)

/-! ### Calls of the coordinator -/

theorem runAll_append {ops ops' : List (CoordinatorOp × ApiError)} {c c' : AnsibleJobCoordinator}
    (h : runAll ops c = (c', .ok ())) : runAll (ops ++ ops') c = runAll ops' c' := by
  induction ops generalizing c with
  | nil =>
    obtain ⟨rfl, -⟩ := Prod.mk.inj h
    rfl
  | cons first ops ih =>
    obtain ⟨op, error⟩ := first
    simp only [runAll, List.cons_append] at h ⊢
    split at h
    · cases h
    · rename_i c'' hcall
      exact ih h

/-- What every single call keeps is kept by the sequence. -/
theorem runAll_keeps {I : AnsibleJobCoordinator → Prop} {ops : List (CoordinatorOp × ApiError)}
    {c : AnsibleJobCoordinator} (h : I c)
    (hstep : ∀ step ∈ ops, ∀ c, I c → I (step.1.run c)) : I (runAll ops c).1 := by
  induction ops generalizing c with
  | nil => exact h
  | cons first ops ih =>
    obtain ⟨op, error⟩ := first
    simp only [runAll]
    split
    · exact h
    · rename_i c' hcall
      refine ih ?_ fun step hmem => hstep step (List.mem_cons_of_mem _ hmem)
      have hnext := hstep (op, error) List.mem_cons_self c h
      simp only [CoordinatorOp.run, hcall] at hnext
      exact hnext

/-- A transition along an edge, when no lock is in its way. -/
theorem transition_ok {c : AnsibleJobCoordinator} {id : AnsibleJobId} {job : AnsibleJob}
    {next : AnsibleJobStatus} {now : Timestamp} (hjob : c.jobs.get id = some job)
    (hedge : job.status.canTransitionTo next = true) (hnext : next ≠ .checking) :
    (CoordinatorOp.transition id next now).call c = .ok (c.moved id job next now) := by
  have hmoves : job.transitionTo next now = .ok { job with status := next, updatedAt := now } :=
    AnsibleJob.transitionTo_ok.mpr ⟨hedge, rfl⟩
  simp only [CoordinatorOp.call, AnsibleJobCoordinator.transition, hjob, hnext, false_and, if_false,
    hmoves, Except.map]
  rfl

/-- The output of agents in the events of a job. -/
def logsOf (events : List JobEvent) : List (String × String) :=
  events.filterMap fun event =>
    match event.event with
    | .workerLog source message => some (source, message)
    | _ => none

theorem logsOf_append (events events' : List JobEvent) :
    logsOf (events ++ events') = logsOf events ++ logsOf events' := by
  simp [logsOf]

/-- A transition brings no output. -/
theorem logsOf_moved (c : AnsibleJobCoordinator) (id : AnsibleJobId) (job : AnsibleJob)
    (next : AnsibleJobStatus) (now : Timestamp) :
    logsOf ((c.moved id job next now).eventsOf id) = logsOf (c.eventsOf id) := by
  unfold AnsibleJobCoordinator.moved
  dsimp only
  split
  · rw [AnsibleJobCoordinator.eventsOf_recordInternal, if_pos rfl,
      AnsibleJobCoordinator.eventsOf_recordInternal, if_pos rfl, logsOf_append, logsOf_append]
    simp [logsOf, AnsibleJobCoordinator.eventsOf]
  · rw [AnsibleJobCoordinator.eventsOf_recordInternal, if_pos rfl, logsOf_append]
    simp [logsOf, AnsibleJobCoordinator.eventsOf]

/-- The job after transitions that were possible on a copy. -/
theorem runAll_transitions {c : AnsibleJobCoordinator} {id : AnsibleJobId} {job : AnsibleJob}
    {path : List AnsibleJobStatus} {last : AnsibleJobStatus} {now : Timestamp} {error : ApiError}
    (hjob : c.jobs.get id = some job) (hpath : AnsibleJob.LifecyclePath (job.status :: path))
    (hlast : path.getLast? = some last) (hopen : .checking ∉ path) :
    ∃ c', runAll (transitions id path now error) c = (c', .ok ()) ∧
      (∀ other, c'.jobs.get other
        = if other = id then some { job with status := last, updatedAt := now }
          else c.jobs.get other) ∧
      logsOf (c'.eventsOf id) = logsOf (c.eventsOf id) := by
  induction path generalizing c job with
  | nil => cases hlast
  | cons next rest ih =>
    rw [List.mem_cons, not_or] at hopen
    obtain ⟨hedge, hchain⟩ := List.isChain_cons_cons.mp hpath
    have hcall := @transition_ok c id job next now hjob hedge (Ne.symm hopen.1)
    simp only [transitions, List.map_cons, runAll, hcall]
    have hmoved := c.get_moved_self id job next now
    cases rest with
    | nil =>
      obtain rfl : next = last := by simpa using hlast
      refine ⟨_, rfl, fun other => ?_, logsOf_moved c id job next now⟩
      rw [AnsibleJobCoordinator.get_moved]
    | cons next' rest =>
      obtain ⟨c', hrun, hfind, hlogs⟩ := ih hmoved hchain (by simpa using hlast) hopen.2
      refine ⟨c', hrun, fun other => ?_, hlogs.trans (logsOf_moved c id job next now)⟩
      rw [hfind other]
      split
      · rfl
      · rename_i hne
        rw [AnsibleJobCoordinator.get_moved, if_neg hne]

/-- An event on a job that is not finished. -/
theorem recordEvent_ok {c : AnsibleJobCoordinator} {id : AnsibleJobId} {job : AnsibleJob}
    {event : JobEventKind} {now : Timestamp} (hjob : c.jobs.get id = some job)
    (hopen : job.status.isFinal = false) :
    (CoordinatorOp.recordEvent id event now).call c = .ok (c.recordInternal id event now) := by
  simp only [CoordinatorOp.call, AnsibleJobCoordinator.recordEvent, hjob, hopen, Bool.false_eq_true,
    if_false]

/-- The statuses of a result are neither `checking` nor active at their end. -/
theorem resultPath_open (mode : ExecutionMode) {status : AnsibleJobStatus}
    (h : status.isActive = false) : .checking ∉ resultPath mode status := by
  unfold resultPath
  split
  · simp
  · rw [List.mem_singleton]
    rintro rfl
    cases h

/-- The output of a result is recorded on a job that is not finished. -/
private theorem runAll_resultRecords {c : AnsibleJobCoordinator} {job : AnsibleJob}
    {status : AnsibleJobStatus} {message : String} {now : Timestamp}
    (hjob : c.jobs.get job.id = some job) (hopen : job.status.isFinal = false) :
    ∃ c', runAll (resultRecords job.id status message now) c = (c', .ok ()) ∧ c'.jobs = c.jobs ∧
      logsOf (c'.eventsOf job.id) = logsOf (c.eventsOf job.id) ++ [("windows_agent", message)] := by
  have hrecord : ∀ d : AnsibleJobCoordinator, ∀ event, d.jobs = c.jobs →
      (CoordinatorOp.recordEvent job.id event now).call d
        = .ok (d.recordInternal job.id event now) := by
    intro d event hd
    exact recordEvent_ok (hd ▸ hjob) hopen
  have hlog : ∀ d : AnsibleJobCoordinator, logsOf
      ((d.recordInternal job.id (.workerLog "windows_agent" message) now).eventsOf job.id)
        = logsOf (d.eventsOf job.id) ++ [("windows_agent", message)] := by
    intro d
    rw [AnsibleJobCoordinator.eventsOf_recordInternal, if_pos rfl, logsOf_append]
    rfl
  unfold resultRecords
  dsimp only
  split
  · refine ⟨(c.recordInternal job.id (.failed .playbookFailed) now).recordInternal job.id
      (.workerLog "windows_agent" message) now, ?_, rfl, ?_⟩
    · simp only [runAll, hrecord c _ rfl]
      rw [hrecord (c.recordInternal job.id (.failed .playbookFailed) now) _ rfl]
    · rw [hlog, AnsibleJobCoordinator.eventsOf_recordInternal, if_pos rfl, logsOf_append]
      simp [logsOf]
  · refine ⟨c.recordInternal job.id (.workerLog "windows_agent" message) now, ?_, rfl, hlog c⟩
    simp only [runAll, hrecord c _ rfl]

/-- **A result is written as a whole to a job that awaits it.** -/
theorem runAll_resultOps {c : AnsibleJobCoordinator} {job : AnsibleJob} {status : AnsibleJobStatus}
    {message : String} {settledAt now : Timestamp} {verdict : Verdict}
    (hjob : c.jobs.get job.id = some job) (hopen : job.status.isFinal = false)
    (hsettle : settle job status message settledAt = .ok verdict)
    (hstatus : status.isActive = false) :
    ∃ c', runAll (resultOps verdict now) c = (c', .ok ()) ∧
      (∀ other, c'.jobs.get other
        = if other = job.id then some { job with status := status, updatedAt := now }
          else c.jobs.get other) ∧
      logsOf (c'.eventsOf job.id)
        = logsOf (c.eventsOf job.id) ++ [("windows_agent", message)] := by
  obtain ⟨hpath, rfl⟩ := settle_ok hsettle
  obtain ⟨c', hrun, hjobs, hlogs⟩ := @runAll_resultRecords c job status message now hjob hopen
  obtain ⟨c'', hrun', hfind, hlogs'⟩ := @runAll_transitions c' job.id job
    (resultPath job.mode status) status now
    (.conflict "invalid_workflow_state" "workflow cannot be completed") (hjobs ▸ hjob) hpath
    (getLast?_resultPath job.mode status) (resultPath_open job.mode hstatus)
  refine ⟨c'', (runAll_append hrun).trans hrun', fun other => ?_, hlogs'.trans hlogs⟩
  rw [hfind other, hjobs]

/-- What a transition that succeeds has done. -/
theorem moved_of_transition {c c' : AnsibleJobCoordinator} {id : AnsibleJobId} {job : AnsibleJob}
    {next : AnsibleJobStatus} {now : Timestamp} (hjob : c.jobs.get id = some job)
    (h : (CoordinatorOp.transition id next now).call c = .ok c') : c' = c.moved id job next now := by
  simp only [CoordinatorOp.call, AnsibleJobCoordinator.transition, hjob] at h
  split at h
  · cases h
  · split at h
    · cases h
    · rename_i job' hmoves
      obtain ⟨-, rfl⟩ := AnsibleJob.transitionTo_ok.mp hmoves
      exact (Except.ok.inj h).symm

/-- The jobs after transitions that have succeeded. -/
theorem jobs_of_runAll_transitions {c c' : AnsibleJobCoordinator} {id : AnsibleJobId}
    {job : AnsibleJob} {path : List AnsibleJobStatus} {last : AnsibleJobStatus} {now : Timestamp}
    {error : ApiError} (hjob : c.jobs.get id = some job) (hlast : path.getLast? = some last)
    (h : runAll (transitions id path now error) c = (c', .ok ())) (other : AnsibleJobId) :
    c'.jobs.get other = if other = id then some { job with status := last, updatedAt := now }
      else c.jobs.get other := by
  induction path generalizing c job with
  | nil => cases hlast
  | cons next rest ih =>
    simp only [transitions, List.map_cons, runAll] at h
    split at h
    · cases h
    · rename_i c'' hcall
      obtain rfl := moved_of_transition hjob hcall
      have hmoved := c.get_moved_self id job next now
      cases rest with
      | nil =>
        obtain rfl : next = last := by simpa using hlast
        obtain ⟨rfl, -⟩ := Prod.mk.inj h
        rw [AnsibleJobCoordinator.get_moved]
      | cons next' rest =>
        rw [ih hmoved (by simpa using hlast) h]
        split
        · rfl
        · rename_i hne
          rw [AnsibleJobCoordinator.get_moved, if_neg hne]

/-! ### Events in the database -/

/-- The events of a job in the database. -/
def rowEvents (db : JobDatabase) (id : AnsibleJobId) : List JobEvent := (db.events.get id).getD []

/-- The events are numbered from one. -/
def Numbered (events : List JobEvent) : Prop :=
  events.map (·.sequence) = List.range' 1 events.length

theorem Numbered.append {events : List JobEvent} (h : Numbered events) {event : JobEvent}
    (hnext : event.sequence = events.length + 1) : Numbered (events ++ [event]) := by
  unfold Numbered at h ⊢
  rw [List.map_append, h, List.length_append, List.length_singleton, List.range'_concat]
  simp [hnext, Nat.add_comm]

theorem Numbered.nextSequence {events : List JobEvent} (h : Numbered events) :
    nextSequence events = events.length + 1 := by
  unfold Reports.nextSequence
  rw [show events.map (·.sequence) = List.range' 1 events.length from h]
  congr 1
  have hmax : ∀ count first, (List.range' first count).foldr max 0
      = if count = 0 then 0 else first + count - 1 := by
    intro count
    induction count with
    | zero => simp
    | succ count ih =>
      intro first
      rw [List.range'_succ, List.foldr_cons, ih (first + 1), if_neg (Nat.succ_ne_zero count)]
      split <;> omega
  rw [hmax]
  split <;> omega

/-- Every number up to the last is taken. -/
theorem Numbered.taken {events : List JobEvent} (h : Numbered events) {sequence : Nat}
    (hfirst : 1 ≤ sequence) (hlast : sequence ≤ events.length) :
    ∃ event ∈ events, event.sequence = sequence := by
  have hmem : sequence ∈ events.map (·.sequence) := by
    rw [show events.map (·.sequence) = List.range' 1 events.length from h, List.mem_range'_1]
    omega
  obtain ⟨event, hevent, heq⟩ := List.mem_map.mp hmem
  exact ⟨event, hevent, heq⟩

/-- The next number is free. -/
theorem Numbered.free {events : List JobEvent} (h : Numbered events) {event : JobEvent}
    (hevent : event ∈ events) : event.sequence ≤ events.length := by
  have hmem : event.sequence ∈ events.map (·.sequence) := List.mem_map_of_mem hevent
  rw [show events.map (·.sequence) = List.range' 1 events.length from h, List.mem_range'_1] at hmem
  omega

/-- Only events of one job are added, with the next numbers. -/
structure Appends (id : AnsibleJobId) (db db' : JobDatabase) : Prop where
  targets : db'.targets = db.targets
  jobs : db'.jobs = db.jobs
  other : ∀ other, other ≠ id → rowEvents db' other = rowEvents db other
  numbered : Numbered (rowEvents db id) → Numbered (rowEvents db' id)
  longer : (rowEvents db id).length ≤ (rowEvents db' id).length

theorem Appends.trans {id : AnsibleJobId} {db db' db'' : JobDatabase} (h : Appends id db db')
    (h' : Appends id db' db'') : Appends id db db'' where
  targets := h'.targets.trans h.targets
  jobs := h'.jobs.trans h.jobs
  other other hne := (h'.other other hne).trans (h.other other hne)
  numbered hnumbered := h'.numbered (h.numbered hnumbered)
  longer := h.longer.trans h'.longer

private theorem appends_put {db : JobDatabase} {id : AnsibleJobId} {event : JobEvent}
    (hnext : Numbered (rowEvents db id) → event.sequence = (rowEvents db id).length + 1) :
    Appends id db { db with events := db.events.put id (rowEvents db id ++ [event]) } := by
  have hself : rowEvents { db with events := db.events.put id (rowEvents db id ++ [event]) } id
      = rowEvents db id ++ [event] := by
    simp [rowEvents]
  refine ⟨rfl, rfl, fun other hne => ?_, fun hnumbered => ?_, ?_⟩
  · simp only [rowEvents, Table.get_put_ne _ _ hne]
  · rw [hself]
    exact hnumbered.append (hnext hnumbered)
  · rw [hself, List.length_append]
    omega

theorem appends_appendStatusEvent (db : JobDatabase) (id : AnsibleJobId) (now : Timestamp)
    (status : AnsibleJobStatus) : Appends id db (appendStatusEvent db id now status) :=
  appends_put fun hnumbered => hnumbered.nextSequence

theorem appends_statuses (db : JobDatabase) (id : AnsibleJobId) (now : Timestamp)
    (path : List AnsibleJobStatus) : Appends id db (path.foldl (appendStatusEvent · id now ·) db) := by
  induction path generalizing db with
  | nil => exact ⟨rfl, rfl, fun _ _ => rfl, fun h => h, le_rfl⟩
  | cons status path ih => exact (appends_appendStatusEvent db id now status).trans (ih _)

/-- An event that is inserted is of a job that there is, under a number that was free. -/
theorem appendEvent_ok {db db' : JobDatabase} {event : JobEvent}
    (h : db.appendEvent event = .ok db') :
    (db.jobs.get event.jobId).isSome = true ∧
      (∀ other ∈ rowEvents db event.jobId, other.sequence ≠ event.sequence) ∧
      db' = { db with events := db.events.put event.jobId (rowEvents db event.jobId ++ [event]) } := by
  unfold JobDatabase.appendEvent at h
  dsimp only at h
  split at h
  · cases h
  · rename_i hfree
    simp only [Bool.or_eq_true, not_or, Bool.not_eq_true, Option.isNone_eq_false_iff,
      List.any_eq_false, decide_eq_true_eq] at hfree
    exact ⟨hfree.1, hfree.2, (Except.ok.inj h).symm⟩

/-- An event under a number of at most the next is the next. -/
theorem appends_of_appendEvent {db db' : JobDatabase} {event : JobEvent}
    (h : db.appendEvent event = .ok db') (hfirst : 1 ≤ event.sequence)
    (hlast : event.sequence ≤ (rowEvents db event.jobId).length + 1) :
    Appends event.jobId db db' := by
  obtain ⟨-, hfree, rfl⟩ := appendEvent_ok h
  refine appends_put fun hnumbered => ?_
  by_contra hne
  obtain ⟨other, hother, hsame⟩ := hnumbered.taken hfirst (by omega)
  exact hfree other hother hsame

/-! ### The store after a step -/

/-- No event of a job that stays is lost, and the numbers go on. -/
structure Grows (db db' : JobDatabase) : Prop where
  numbered : ∀ id, Numbered (rowEvents db id) → Numbered (rowEvents db' id)
  longer : ∀ id, (db'.jobs.get id).isSome = true →
    (rowEvents db id).length ≤ (rowEvents db' id).length

theorem Grows.of_events {db db' : JobDatabase} (h : db'.events = db.events) : Grows db db' := by
  have hrow : ∀ id, rowEvents db' id = rowEvents db id := by
    intro id
    simp only [rowEvents, h]
  exact ⟨fun id hnumbered => (hrow id).symm ▸ hnumbered, fun id _ => (hrow id).symm ▸ le_rfl⟩

/-- Whatever happens to the rows, events of one job are added. -/
theorem Appends.grows {id : AnsibleJobId} {db db' : JobDatabase} {jobs : JobTable}
    (h : Appends id { db with jobs := jobs } db') : Grows db db' where
  numbered other hnumbered := by
    by_cases hsame : other = id
    · subst hsame
      exact h.numbered hnumbered
    · rw [h.other other hsame]
      exact hnumbered
  longer other _ := by
    by_cases hsame : other = id
    · subst hsame
      exact h.longer
    · rw [h.other other hsame]
      exact le_rfl

namespace JobStore

/-- The coordinator is well kept. -/
def Kept : JobStore → Prop
  | .database _ => True
  | .memory c => WellKept c

/-- The store keeps its mode, and what is kept of its events. -/
def Evolves : JobStore → JobStore → Prop
  | .database db, .database db' => Grows db db'
  | .memory _, .memory c' => WellKept c'
  | _, _ => False

theorem Evolves.kept {store store' : JobStore} (h : Evolves store store') : store'.Kept := by
  cases store <;> cases store' <;> first | exact trivial | exact h | exact h.elim

variable {store store' : JobStore}

theorem find_id (hkept : store.Kept) {id : AnsibleJobId} {job : AnsibleJob}
    (h : store.find id = some job) : job.id = id := by
  cases store with
  | database db => exact JobTable.get_id h
  | memory c => exact hkept.keyed id job h

/-- Calls that set no status by events keep the coordinator. -/
theorem wellKept_runAll {ops : List (CoordinatorOp × ApiError)} {c : AnsibleJobCoordinator}
    (h : WellKept c) (hops : ∀ step ∈ ops, ∀ c, Admissible c step.1) :
    WellKept (runAll ops c).1 :=
  runAll_keeps h fun step hmem c hkept => hkept.run step.1 (hops step hmem c)

theorem admissible_transitions {id : AnsibleJobId} {path : List AnsibleJobStatus} {now : Timestamp}
    {error : ApiError} : ∀ step ∈ transitions id path now error, ∀ c, Admissible c step.1 := by
  intro step hmem c
  obtain ⟨next, -, rfl⟩ := List.mem_map.mp hmem
  exact trivial

/-- **A claim** takes a queued job to the status of claimed jobs. -/
theorem claim_cases (hkept : store.Kept) {targetId : TargetId} {id : AnsibleJobId}
    {now : Timestamp} {claimed : AnsibleJob}
    (h : store.claim targetId id now = some (claimed, store')) :
    ∃ job, store.find id = some job ∧ job.status = .queued ∧
      claimed = { job with status := claimedStatus job.mode, updatedAt := now } ∧
      (∀ other, store'.find other = if other = id then some claimed else store.find other) ∧
      Evolves store store' := by
  simp only [claim, Option.bind_eq_bind, Option.bind_eq_some_iff] at h
  obtain ⟨job, hjob, moved, hmoved, h⟩ := h
  obtain ⟨-, hclaimed⟩ := claimPath_ok (toOption_eq_some.mp hmoved)
  cases store with
  | database db =>
    dsimp only at h
    split at h
    · cases h
    · rename_i hclaimable
      simp only [Option.bind_eq_some_iff, pure, Option.some.injEq, Prod.mk.injEq] at h
      obtain ⟨jobs, hjobs, rfl, rfl⟩ := h
      have hrow : db.jobs.get id = some job := hjob
      have hid : moved.id = id := by
        have hsame := JobTable.get_id hrow
        rw [hclaimed]
        exact hsame
      have hput : jobs = db.jobs.put moved := by
        rcases JobTable.update_ok (toOption_eq_some.mp hjobs) with ⟨hnone, -⟩ | ⟨-, -, hput⟩
        · rw [hid, hrow] at hnone
          cases hnone
        · exact hput
      have happends := appends_statuses { db with jobs := jobs } id now (claimPath job.mode)
      refine ⟨job, hjob, ?_, hclaimed, fun other => ?_, happends.grows⟩
      · have hqueued : JobTable.windowsClaimable db.targets db.jobs targetId job = true := by
          simpa using hclaimable
        simp only [JobTable.windowsClaimable, Bool.and_eq_true, decide_eq_true_eq] at hqueued
        exact hqueued.1.1.2
      · rw [find, happends.jobs]
        dsimp only
        rw [hput, JobTable.get_put, hid]
        rfl
  | memory c =>
    dsimp only at h
    split at h
    · cases h
    · rename_i hcandidate
      split at h
      · rename_i c' hrun
        simp only [pure, Option.some.injEq, Prod.mk.injEq] at h
        obtain ⟨rfl, rfl⟩ := h
        have hwellKept := @wellKept_runAll (transitions id (claimPath job.mode) now
          (.conflict "ansible_target_busy" "target has an active workflow")) c hkept
          admissible_transitions
        rw [hrun] at hwellKept
        refine ⟨job, hjob, ?_, hclaimed, fun other => ?_, hwellKept⟩
        · have hqueued : candidate targetId job = true := by
            by_contra hnot
            simp [hnot] at hcandidate
          simp only [candidate, Bool.and_eq_true, decide_eq_true_eq] at hqueued
          exact hqueued.1.2
        · rw [hclaimed]
          exact jobs_of_runAll_transitions hjob (getLast?_claimPath job.mode) hrun other
      · cases h

/-- A row that is inserted. -/
theorem submit_cases {job : AnsibleJob} (h : store.submit job = some store') :
    job.status = .queued ∧
      (∀ other, store'.find other = if other = job.id then some job else store.find other) ∧
      Evolves store store' := by
  cases store with
  | database db =>
    simp only [submit] at h
    split at h
    · cases h
    · rename_i hqueued
      obtain ⟨jobs, hjobs, rfl⟩ := Option.map_eq_some_iff.mp h
      obtain ⟨-, -, rfl⟩ := JobTable.save_ok (toOption_eq_some.mp hjobs)
      exact ⟨not_not.mp hqueued, fun other => JobTable.get_put _ _ _, Grows.of_events rfl⟩
  | memory c => cases h

/-- A submission to the coordinator: nothing new, or one queued job. -/
theorem coordinate_cases (hkept : store.Kept) {op : CoordinatorOp} {newId : AnsibleJobId}
    (hop : (∃ request now, op = .submit request newId now) ∨
      ∃ source now, op = .submitReconciliation source newId now)
    (hnew : store.find newId = none) (h : store.coordinate op = some store') :
    (∀ other, store'.find other = store.find other ∨
      other = newId ∧ ∃ job, store'.find other = some job ∧ job.status = .queued) ∧
      Evolves store store' := by
  cases store with
  | database db => cases h
  | memory c =>
    obtain rfl := Option.some.inj h
    have hadmissible : Admissible c op := by
      rcases hop with ⟨request, now, rfl⟩ | ⟨source, now, rfl⟩
      · exact hnew
      · exact hnew
    refine ⟨fun other => ?_, WellKept.run hkept op hadmissible⟩
    have heffect := op.effect_run c
    change (op.run c).jobs.get other = c.jobs.get other ∨ _ ∧ ∃ job, (op.run c).jobs.get other = _ ∧ _
    generalize op.run c = c' at heffect ⊢
    have hput : ∀ job : AnsibleJob, c'.jobs = c.jobs.put newId job → job.status = .queued →
        c'.jobs.get other = c.jobs.get other ∨
          other = newId ∧ ∃ job, c'.jobs.get other = some job ∧ job.status = .queued := by
      intro job hjobs hqueued
      rw [hjobs, Table.get_put]
      split
      · rename_i hsame
        exact .inr ⟨hsame, job, rfl, hqueued⟩
      · exact .inl rfl
    cases heffect with
    | keep jobs locks =>
      rw [jobs]
      exact .inl rfl
    | @queue request id now _ accepts jobs locks =>
      rcases hop with ⟨_, _, heq⟩ | ⟨_, _, heq⟩
      · obtain ⟨rfl, rfl, rfl⟩ := CoordinatorOp.submit.inj heq
        exact hput _ jobs rfl
      · cases heq
    | @reconcile _ source id now _ call reconcilable jobs locks =>
      have hid : id = newId := by
        rcases call with ⟨rfl, -⟩ | rfl
        · rcases hop with ⟨_, _, heq⟩ | ⟨_, _, heq⟩
          · cases heq
          · exact (CoordinatorOp.submitReconciliation.inj heq).2.1
        · rcases hop with ⟨_, _, heq⟩ | ⟨_, _, heq⟩
          · cases heq
          · cases heq
      subst hid
      exact hput _ jobs rfl
    | move call found edge free jobs locks =>
      exfalso
      rcases call with rfl | ⟨rfl, -⟩
      · rcases hop with ⟨_, _, heq⟩ | ⟨_, _, heq⟩ <;> cases heq
      · rcases hop with ⟨_, _, heq⟩ | ⟨_, _, heq⟩ <;> cases heq
    | remove jobs locks => rcases hop with ⟨_, _, heq⟩ | ⟨_, _, heq⟩ <;> cases heq

/-- A job that is queued again has failed. -/
theorem retry_cases (hkept : store.Kept) {id : AnsibleJobId} {now : Timestamp}
    (h : store.retry id now = some store') :
    ((∀ other, store'.find other = store.find other) ∨
      ∃ job, store.find id = some job ∧ job.status = .failed ∧ ∀ other, store'.find other
        = if other = id then some { job with status := .queued, updatedAt := now }
          else store.find other) ∧ Evolves store store' := by
  cases store with
  | database db =>
    obtain ⟨⟨job', jobs⟩, hretry, rfl⟩ := Option.map_eq_some_iff.mp h
    obtain ⟨job, hjob, hfailed, rfl, rfl⟩ := JobTable.retry_ok (toOption_eq_some.mp hretry)
    refine ⟨.inr ⟨job, hjob, hfailed, fun other => ?_⟩,
      (appends_appendStatusEvent _ id now .queued).grows⟩
    have hid := JobTable.get_id hjob
    change (db.jobs.put _).get other = _
    rw [JobTable.get_put]
    dsimp only
    rw [hid]
    rfl
  | memory c =>
    obtain rfl := Option.some.inj h
    refine ⟨?_, WellKept.run hkept _ trivial⟩
    change (∀ other, ((CoordinatorOp.retry id now).run c).jobs.get other = c.jobs.get other) ∨
      ∃ job, c.jobs.get id = some job ∧ _ ∧
        ∀ other, ((CoordinatorOp.retry id now).run c).jobs.get other = _
    simp only [CoordinatorOp.run, CoordinatorOp.call, AnsibleJobCoordinator.retry]
    cases hjob : c.jobs.get id with
    | none => exact .inl fun _ => rfl
    | some job =>
      dsimp only
      cases c.lockedByOther job.target id with
      | true => exact .inl fun _ => rfl
      | false =>
        by_cases hrefused : job.status ≠ .failed ∨
            (job.operation = .updatePackages ∧ job.mode = .apply)
        · simp only [if_pos hrefused]
          exact .inl fun _ => rfl
        · simp only [if_neg hrefused]
          rw [not_or] at hrefused
          have hmoves : job.transitionTo .queued now
              = .ok { job with status := .queued, updatedAt := now } :=
            AnsibleJob.transitionTo_ok.mpr ⟨by rw [not_not.mp hrefused.1]; rfl, rfl⟩
          simp only [hmoves]
          exact .inr ⟨job, rfl, not_not.mp hrefused.1, fun other => Table.get_put _ _ _ _⟩

/-- The jobs of a deleted target were not active. -/
theorem deleteTarget_cases (hkept : store.Kept) {targetId : TargetId}
    (h : store.deleteTarget targetId = some store') :
    (∀ id job, store'.find id = some job → store.find id = some job) ∧
      (∀ id job, store.find id = some job → job.status.isActive = true →
        store'.find id = some job) ∧ Evolves store store' := by
  cases store with
  | database db =>
    simp only [deleteTarget] at h
    split at h
    · cases h
    · rename_i hidle
      obtain rfl := Option.some.inj h
      simp only [Bool.not_eq_true, JobTable.any_eq_false, Bool.and_eq_false_imp,
        decide_eq_true_eq] at hidle
      have hstays : ∀ id job, (db.withoutTarget targetId).jobs.get id = some job ↔
          db.jobs.get id = some job ∧ job.target ≠ .target targetId := by
        intro id job
        simp only [JobDatabase.withoutTarget, JobTable.get_retain, Option.filter_eq_some_iff,
          decide_eq_true_eq]
      refine ⟨fun id job hjob => ((hstays id job).mp hjob).1, fun id job hjob hactive => ?_, ?_⟩
      · refine (hstays id job).mpr ⟨hjob, fun htarget => ?_⟩
        have hblocks := hidle id job hjob htarget
        simp [Database.blocksDeletion, hactive] at hblocks
      · -- events go with the row of their job only
        refine ⟨fun id hnumbered => ?_, fun id hrow => ?_⟩
        · simp only [rowEvents, JobDatabase.withoutTarget, Table.get_retain] at hnumbered ⊢
          cases hevents : db.events.get id with
          | none => exact rfl
          | some events =>
            rw [hevents] at hnumbered
            rw [Option.filter_some]
            split
            · exact hnumbered
            · exact rfl
        · obtain ⟨job, hjob⟩ := Option.isSome_iff_exists.mp hrow
          obtain ⟨hjob, htarget⟩ := (hstays id job).mp hjob
          have hkeeps : (db.jobs.any fun other =>
              other.id = id && other.target = .target targetId) = false := by
            simp only [JobTable.any_eq_false, Bool.and_eq_false_imp, decide_eq_true_eq,
              decide_eq_false_iff_not]
            intro other row hrow' hid
            obtain rfl := JobTable.get_id hrow'
            obtain rfl := hid
            obtain rfl := Option.some.inj (hrow'.symm.trans hjob)
            exact htarget
          simp only [rowEvents, JobDatabase.withoutTarget, Table.get_retain]
          cases db.events.get id with
          | none => exact le_rfl
          | some events =>
            rw [Option.filter_some, hkeeps]
            exact le_rfl
  | memory c =>
    simp only [deleteTarget, AnsibleJobCoordinator.removeTargetJobs] at h
    split at h
    · cases h
    · rename_i hbusy
      obtain rfl := Option.some.inj h
      have hidle : c.targetHasActiveJobs targetId = false := by simpa using hbusy
      refine ⟨fun id job hjob => ((get_withoutJobsOf hkept).mp hjob).1, fun id job hjob hactive => ?_,
        WellKept.remove hkept hidle⟩
      refine (get_withoutJobsOf hkept).mpr ⟨hjob, fun htarget => ?_⟩
      simp only [AnsibleJobCoordinator.targetHasActiveJobs, Bool.or_eq_false_iff,
        List.any_eq_false, Table.mem_values] at hidle
      exact hidle.2 job ⟨id, hjob⟩ (by simp [htarget, hactive])

theorem appendQueued_cases {id : AnsibleJobId} {now : Timestamp}
    (h : store.appendQueued id now = some store') :
    (∀ other, store'.find other = store.find other) ∧ Evolves store store' := by
  cases store with
  | database db =>
    obtain ⟨db', happend, rfl⟩ := Option.map_eq_some_iff.mp h
    have happends := appends_of_appendEvent (toOption_eq_some.mp happend) le_rfl
      (Nat.le_add_left 1 _)
    refine ⟨fun other => ?_, @Appends.grows id db db' db.jobs happends⟩
    rw [find, happends.jobs]
    rfl
  | memory c => cases h

theorem putTarget_cases (hkept : store.Kept) (target : Target) :
    (∀ other, (store.putTarget target).find other = store.find other) ∧
      Evolves store (store.putTarget target) := by
  cases store with
  | database db => exact ⟨fun _ => rfl, Grows.of_events rfl⟩
  | memory c => exact ⟨fun _ => rfl, hkept⟩

end JobStore

end Lxcup.Reports
