import Lxcup.Ansible.Exclusivity

/-!
# The four maps of the coordinator agree

The coordinator keeps jobs, an idempotency index, target locks and event logs in maps of
their own and updates them one after the other.  In every sequence of calls they agree:
the index has exactly the keys of the jobs, a lock is held by a job of its target, and the
log of a job is numbered from one, begins with `queued` and ends in the status of the job.

An id that is new is not the id of a job of the coordinator; that much is asked of
`AnsibleJobId::new()`.  The worker records no `statusChanged` events, these are written by
`transition` and `retry` alone.

## Main definitions

* `LogOf` — the event log of a job with a given status.
* `Consistent` — the agreement of the four maps.
* `Admissible` — new ids are new, recorded events are not status changes.

## Main results

* `consistent_of_admissible` — the maps agree after every sequence of calls, so that no
  submission finds an index entry without its job.
-/

namespace Lxcup.Ansible

open Lxcup.Lib Lxcup.Core

/-! ### Event logs -/

/-- The status an event sets. -/
def JobEventKind.status? : JobEventKind → Option AnsibleJobStatus
  | .statusChanged status => some status
  | _ => none

/-- The status of the last `statusChanged` event, `queued` when there is none. -/
def lastStatus (events : List JobEvent) : AnsibleJobStatus :=
  ((events.filterMap (·.event.status?)).getLast?).getD .queued

/-- The log of a job: numbered from one, begun by `queued`, with the status last set. -/
structure LogOf (status : AnsibleJobStatus) (events : List JobEvent) : Prop where
  numbered : events.map (·.sequence) = List.range' 1 events.length
  queued : events.head?.map (·.event) = some .queued
  status : lastStatus events = status

/-- A new job has one event. -/
theorem LogOf.single (id : AnsibleJobId) (now : Timestamp) :
    LogOf .queued [⟨1, id, .queued, now⟩] :=
  ⟨rfl, rfl, rfl⟩

/-- An event at the end with the next number sets the status, or leaves it. -/
theorem LogOf.append {status : AnsibleJobStatus} {events : List JobEvent}
    (h : LogOf status events) (id : AnsibleJobId) (event : JobEventKind) (now : Timestamp) :
    LogOf (event.status?.getD status) (events ++ [⟨events.length + 1, id, event, now⟩]) := by
  have hne : events ≠ [] := by
    intro hnil
    have hqueued := h.queued
    rw [hnil] at hqueued
    cases hqueued
  refine ⟨?_, ?_, ?_⟩
  · rw [List.map_append, h.numbered, List.length_append, List.length_singleton,
      List.range'_concat]
    simp [Nat.add_comm]
  · rw [List.head?_append_of_ne_nil events hne]
    exact h.queued
  · cases hevent : event.status? with
    | some status' => simp [lastStatus, List.filterMap_append, hevent]
    | none =>
      have hstatus := h.status
      simp only [lastStatus, List.filterMap_append, hevent, List.filterMap_cons,
        List.filterMap_nil, List.append_nil, Option.getD_none] at hstatus ⊢
      exact hstatus

namespace AnsibleJobCoordinator

/-- `AnsibleJobCoordinator::events`, for a job that exists. -/
def eventsOf (c : AnsibleJobCoordinator) (id : AnsibleJobId) : List JobEvent :=
  (c.events.get id).getD []

theorem eventsOf_recordInternal (c : AnsibleJobCoordinator) (id : AnsibleJobId)
    (event : JobEventKind) (now : Timestamp) (id' : AnsibleJobId) :
    (c.recordInternal id event now).eventsOf id' =
      if id' = id then c.eventsOf id ++ [⟨(c.eventsOf id).length + 1, id, event, now⟩]
      else c.eventsOf id' := by
  simp only [eventsOf, recordInternal, Table.get_put]
  split <;> rfl

end AnsibleJobCoordinator

open AnsibleJobCoordinator

/-! ### Agreement -/

/-- Index, locks and logs are those of the jobs. -/
structure Consistent (c : AnsibleJobCoordinator) : Prop where
  /-- An index entry is the key of a job. -/
  indexed : ∀ target key id, c.idempotency.get (target, key) = some id →
    ∃ job, c.jobs.get id = some job ∧ job.target = target ∧ job.idempotencyKey = key
  /-- The key of a job is in the index. -/
  inIndex : ∀ id job, c.jobs.get id = some job →
    c.idempotency.get (job.target, job.idempotencyKey) = some id
  /-- The lock of a target is held by a job of the target. -/
  locked : ∀ target id, c.activeTargets.get target = some id →
    ∃ job, c.jobs.get id = some job ∧ job.target = target
  /-- The log of a job ends in its status. -/
  logged : ∀ id job, c.jobs.get id = some job → LogOf job.status (c.eventsOf id)

/-- What the agreement rests on besides: jobs know their ids and there are no logs without
a job. -/
structure WellKept (c : AnsibleJobCoordinator) : Prop extends Consistent c where
  keyed : ∀ id job, c.jobs.get id = some job → job.id = id
  noStrayLog : ∀ id, c.jobs.get id = none → c.events.get id = none

/-- New ids are not those of jobs, and recorded events set no status. -/
def Admissible (c : AnsibleJobCoordinator) : CoordinatorOp → Prop
  | .submit _ newId _ | .submitReconciliation _ newId _ | .submitPersistedReconciliation _ newId _ =>
    c.jobs.get newId = none
  | .recordEvent _ event _ => event.status? = none
  | _ => True

instance (c : AnsibleJobCoordinator) : (op : CoordinatorOp) → Decidable (Admissible c op)
  | .submit _ newId _ | .submitReconciliation _ newId _ | .submitPersistedReconciliation _ newId _ =>
    inferInstanceAs (Decidable (c.jobs.get newId = none))
  | .recordEvent _ event _ => inferInstanceAs (Decidable (event.status? = none))
  | .transition .. | .retry .. | .removeTargetJobs .. => isTrue trivial

theorem wellKept_default : WellKept .default where
  indexed _ _ _ h := by simp [AnsibleJobCoordinator.default] at h
  inIndex _ _ h := by simp [AnsibleJobCoordinator.default] at h
  locked _ _ h := by simp [AnsibleJobCoordinator.default] at h
  logged _ _ h := by simp [AnsibleJobCoordinator.default] at h
  keyed _ _ h := by simp [AnsibleJobCoordinator.default] at h
  noStrayLog _ _ := by simp [AnsibleJobCoordinator.default]

/-! ### Each kind of call -/

/-- An event that sets no status. -/
theorem WellKept.record {c : AnsibleJobCoordinator} (h : WellKept c) {id : AnsibleJobId}
    {event : JobEventKind} {now : Timestamp} {job : AnsibleJob}
    (hfound : c.jobs.get id = some job) (hevent : event.status? = none) :
    WellKept (c.recordInternal id event now) where
  indexed := h.indexed
  inIndex := h.inIndex
  locked := h.locked
  keyed := h.keyed
  logged id' job' hfound' := by
    rw [eventsOf_recordInternal]
    split
    case isTrue heq =>
      have hlog := (h.logged id job' (heq ▸ hfound')).append id event now
      rwa [hevent, Option.getD_none] at hlog
    case isFalse => exact h.logged id' job' hfound'
  noStrayLog id' hnone := by
    have hne : id' ≠ id := by
      rintro rfl
      rw [recordInternal_jobs, hfound] at hnone
      cases hnone
    simp only [recordInternal, Table.get_put_ne _ _ hne]
    exact h.noStrayLog id' hnone

/-- A queued job with a new id and an unused key, which may take the lock of its target. -/
theorem WellKept.register {c : AnsibleJobCoordinator} (h : WellKept c) {job : AnsibleJob}
    {now : Timestamp} {locks : Table ResourceTarget AnsibleJobId}
    (hnew : c.jobs.get job.id = none) (hqueued : job.status = .queued)
    (hunused : c.idempotency.get (job.target, job.idempotencyKey) = none)
    (hlocks : ∀ target id, locks.get target = some id →
      (target = job.target ∧ id = job.id) ∨ c.activeTargets.get target = some id) :
    WellKept ({ c with activeTargets := locks }.register job now) := by
  have hold : ∀ {id job'}, c.jobs.get id = some job' → id ≠ job.id := by
    rintro id job' hfound rfl
    rw [hnew] at hfound
    cases hfound
  have hkeep : ∀ {id job'}, c.jobs.get id = some job' →
      (c.jobs.put job.id job).get id = some job' := by
    intro id job' hfound
    rw [Table.get_put_ne _ _ (hold hfound)]
    exact hfound
  refine { indexed := ?_, inIndex := ?_, locked := ?_, logged := ?_, keyed := ?_, noStrayLog := ?_ }
  · intro target key id hentry
    rcases Table.get_put_cases hentry with ⟨heq, rfl⟩ | ⟨-, hentry'⟩
    · obtain ⟨rfl, rfl⟩ := Prod.mk.inj heq
      exact ⟨job, Table.get_put_self .., rfl, rfl⟩
    · obtain ⟨job', hfound, htarget, hkey⟩ := h.indexed target key id hentry'
      exact ⟨job', hkeep hfound, htarget, hkey⟩
  · intro id job' hfound
    rcases Table.get_put_cases hfound with ⟨rfl, rfl⟩ | ⟨-, hfound'⟩
    · exact Table.get_put_self ..
    · have hentry := h.inIndex id job' hfound'
      refine (Table.get_put_ne _ _ ?_).trans hentry
      intro heq
      rw [heq, hunused] at hentry
      cases hentry
  · intro target id hlock
    rcases hlocks target id hlock with ⟨rfl, rfl⟩ | hlock
    · exact ⟨job, Table.get_put_self .., rfl⟩
    · obtain ⟨job', hfound, htarget⟩ := h.locked target id hlock
      exact ⟨job', hkeep hfound, htarget⟩
  · intro id job' hfound
    have hlog := eventsOf_recordInternal c job.id .queued now id
    change LogOf job'.status ((c.recordInternal job.id .queued now).eventsOf id)
    rw [hlog]
    rcases Table.get_put_cases hfound with ⟨rfl, rfl⟩ | ⟨hne, hfound'⟩
    · -- the new id has no log yet
      have hempty : c.eventsOf job'.id = [] := by
        simp [eventsOf, h.noStrayLog job'.id hnew]
      rw [if_pos rfl, hempty, hqueued]
      exact LogOf.single job'.id now
    · rw [if_neg hne]
      exact h.logged id job' hfound'
  · intro id job' hfound
    rcases Table.get_put_cases hfound with ⟨rfl, rfl⟩ | ⟨-, hfound'⟩
    · rfl
    · exact h.keyed id job' hfound'
  · intro id hnone
    have hne : id ≠ job.id := by
      rintro rfl
      simp [AnsibleJobCoordinator.register] at hnone
    simp only [AnsibleJobCoordinator.register, recordInternal, Table.get_put_ne _ _ hne] at hnone ⊢
    exact h.noStrayLog id hnone

/-- Only the job that is moved can get the lock of its target. -/
private theorem lock_of_locksAfter {c : AnsibleJobCoordinator} {target target' : ResourceTarget}
    {id id' : AnsibleJobId} {next : AnsibleJobStatus}
    (h : (c.locksAfter target id next).get target' = some id') :
    (target' = target ∧ id' = id) ∨ c.activeTargets.get target' = some id' := by
  have hput : (if next = .checking then c.activeTargets.put target id else c.activeTargets).get
      target' = some id' →
      (target' = target ∧ id' = id) ∨ c.activeTargets.get target' = some id' := by
    intro hlock
    split at hlock
    · exact (Table.get_put_cases hlock).imp_right (·.2)
    · exact .inr hlock
  simp only [locksAfter] at h
  split at h
  · rw [Table.get_remove] at h
    split at h
    · cases h
    · exact hput h
  · exact hput h

/-- The log of the job that is moved ends in its new status. -/
private theorem LogOf.moved {c : AnsibleJobCoordinator} {id : AnsibleJobId} {job : AnsibleJob}
    {next : AnsibleJobStatus} {now : Timestamp} (h : LogOf job.status (c.eventsOf id)) :
    LogOf next ((c.moved id job next now).eventsOf id) := by
  have hstatus := h.append id (.statusChanged next) now
  simp only [AnsibleJobCoordinator.moved]
  split
  · have hsecond := hstatus.append id .reconcileRequired now
    rw [eventsOf_recordInternal, if_pos rfl, eventsOf_recordInternal, if_pos rfl]
    exact hsecond
  · rw [eventsOf_recordInternal, if_pos rfl]
    exact hstatus

theorem eventsOf_moved_ne {c : AnsibleJobCoordinator} {id id' : AnsibleJobId}
    {job : AnsibleJob} {next : AnsibleJobStatus} {now : Timestamp} (hne : id' ≠ id) :
    (c.moved id job next now).eventsOf id' = c.eventsOf id' := by
  simp only [AnsibleJobCoordinator.moved]
  split
  · rw [eventsOf_recordInternal, if_neg hne, eventsOf_recordInternal, if_neg hne]
    rfl
  · rw [eventsOf_recordInternal, if_neg hne]
    rfl

private theorem events_moved_ne {c : AnsibleJobCoordinator} {id id' : AnsibleJobId}
    {job : AnsibleJob} {next : AnsibleJobStatus} {now : Timestamp} (hne : id' ≠ id) :
    (c.moved id job next now).events.get id' = c.events.get id' := by
  simp only [AnsibleJobCoordinator.moved]
  split
  · simp only [recordInternal, Table.get_put_ne _ _ hne]
  · simp only [recordInternal, Table.get_put_ne _ _ hne]

/-- A job moves along its lifecycle; its target and key stay. -/
theorem WellKept.move {c : AnsibleJobCoordinator} (h : WellKept c) {id : AnsibleJobId}
    {job : AnsibleJob} {next : AnsibleJobStatus} {now : Timestamp}
    (hfound : c.jobs.get id = some job) : WellKept (c.moved id job next now) := by
  -- a job before the move is a job after it, with the same target, key and id
  have hafter : ∀ {id' job'}, c.jobs.get id' = some job' → ∃ job'',
      (c.moved id job next now).jobs.get id' = some job'' ∧ job''.target = job'.target ∧
        job''.idempotencyKey = job'.idempotencyKey := by
    intro id' job' hfound'
    rw [get_moved]
    split
    case isTrue heq =>
      obtain rfl := Option.some.inj (hfound.symm.trans (heq ▸ hfound'))
      exact ⟨_, rfl, rfl, rfl⟩
    case isFalse => exact ⟨job', hfound', rfl, rfl⟩
  refine { indexed := ?_, inIndex := ?_, locked := ?_, logged := ?_, keyed := ?_, noStrayLog := ?_ }
  · intro target key id' hentry
    rw [moved_idempotency] at hentry
    obtain ⟨job', hfound', rfl, rfl⟩ := h.indexed target key id' hentry
    exact hafter hfound'
  · intro id' job' hfound'
    rw [moved_jobs] at hfound'
    rw [moved_idempotency]
    rcases Table.get_put_cases hfound' with ⟨rfl, rfl⟩ | ⟨-, hold⟩
    · exact h.inIndex id' job hfound
    · exact h.inIndex id' job' hold
  · intro target id' hlock
    rw [moved_activeTargets] at hlock
    rcases lock_of_locksAfter hlock with ⟨rfl, rfl⟩ | hlock
    · obtain ⟨job', hfound', htarget, -⟩ := hafter hfound
      exact ⟨job', hfound', htarget⟩
    · obtain ⟨job', hfound', rfl⟩ := h.locked target id' hlock
      obtain ⟨job'', hfound'', htarget, -⟩ := hafter hfound'
      exact ⟨job'', hfound'', htarget⟩
  · intro id' job' hfound'
    rw [moved_jobs] at hfound'
    rcases Table.get_put_cases hfound' with ⟨rfl, rfl⟩ | ⟨hne, hold⟩
    · exact LogOf.moved (h.logged id' job hfound)
    · rw [eventsOf_moved_ne hne]
      exact h.logged id' job' hold
  · intro id' job' hfound'
    rw [moved_jobs] at hfound'
    rcases Table.get_put_cases hfound' with ⟨rfl, rfl⟩ | ⟨-, hold⟩
    · exact h.keyed id' job hfound
    · exact h.keyed id' job' hold
  · intro id' hnone
    rw [get_moved] at hnone
    split at hnone
    case isTrue => cases hnone
    case isFalse hne =>
      rw [events_moved_ne hne]
      exact h.noStrayLog id' hnone

/-- The removed ids are those of the jobs of the target. -/
private theorem mem_removedIds {c : AnsibleJobCoordinator} (h : WellKept c) {target : ResourceTarget}
    {id : AnsibleJobId} :
    id ∈ (c.jobs.values.filter fun job => job.target = target).map (·.id) ↔
      ∃ job, c.jobs.get id = some job ∧ job.target = target := by
  simp only [List.mem_map, List.mem_filter, Table.mem_values, decide_eq_true_eq]
  constructor
  · rintro ⟨job, ⟨⟨id', hfound⟩, htarget⟩, rfl⟩
    exact ⟨job, (h.keyed id' job hfound).symm ▸ hfound, htarget⟩
  · rintro ⟨job, hfound, htarget⟩
    exact ⟨job, ⟨⟨id, hfound⟩, htarget⟩, h.keyed id job hfound⟩

/-- The jobs that stay are those of the other targets. -/
theorem get_withoutJobsOf {c : AnsibleJobCoordinator} (h : WellKept c)
    {targetId : TargetId} {id : AnsibleJobId} {job : AnsibleJob} :
    (c.withoutJobsOf targetId).jobs.get id = some job ↔
      c.jobs.get id = some job ∧ job.target ≠ .target targetId := by
  simp only [withoutJobsOf, Table.get_retain, Option.filter_eq_some_iff, decide_eq_true_eq,
    mem_removedIds h]
  constructor
  · rintro ⟨hfound, hstays⟩
    exact ⟨hfound, fun htarget => hstays ⟨job, hfound, htarget⟩⟩
  · rintro ⟨hfound, htarget⟩
    refine ⟨hfound, ?_⟩
    rintro ⟨job', hfound', htarget'⟩
    obtain rfl := Option.some.inj (hfound.symm.trans hfound')
    exact htarget htarget'

/-- The jobs of a target without a lock go, with everything that is about them. -/
theorem WellKept.remove {c : AnsibleJobCoordinator} (h : WellKept c) {targetId : TargetId}
    (hidle : c.targetHasActiveJobs targetId = false) : WellKept (c.withoutJobsOf targetId) := by
  have hunlocked : c.activeTargets.get (.target targetId) = none := by
    simp only [targetHasActiveJobs, Bool.or_eq_false_iff] at hidle
    simpa using hidle.1
  have hstays : ∀ {id job}, c.jobs.get id = some job → job.target ≠ .target targetId →
      id ∉ (c.jobs.values.filter fun job => job.target = .target targetId).map (·.id) := by
    intro id job hfound htarget hmem
    obtain ⟨job', hfound', htarget'⟩ := (mem_removedIds h).mp hmem
    obtain rfl := Option.some.inj (hfound.symm.trans hfound')
    exact htarget htarget'
  refine { indexed := ?_, inIndex := ?_, locked := ?_, logged := ?_, keyed := ?_, noStrayLog := ?_ }
  · intro target key id hentry
    simp only [withoutJobsOf, Table.get_retain, Option.filter_eq_some_iff, Bool.and_eq_true,
      decide_eq_true_eq] at hentry
    obtain ⟨job, hfound, rfl, rfl⟩ := h.indexed target key id hentry.1
    exact ⟨job, (get_withoutJobsOf h).mpr ⟨hfound, hentry.2.1⟩, rfl, rfl⟩
  · intro id job hfound
    obtain ⟨hfound, htarget⟩ := (get_withoutJobsOf h).mp hfound
    simp only [withoutJobsOf, Table.get_retain, Option.filter_eq_some_iff, Bool.and_eq_true,
      decide_eq_true_eq]
    exact ⟨h.inIndex id job hfound, htarget, hstays hfound htarget⟩
  · intro target id hlock
    obtain ⟨job, hfound, rfl⟩ := h.locked target id hlock
    refine ⟨job, (get_withoutJobsOf h).mpr ⟨hfound, fun htarget => ?_⟩, rfl⟩
    -- a target with a lock is not idle
    have hlocked : c.activeTargets.get job.target = some id := hlock
    rw [htarget, hunlocked] at hlocked
    cases hlocked
  · intro id job hfound
    obtain ⟨hfound, htarget⟩ := (get_withoutJobsOf h).mp hfound
    have hlog : (c.withoutJobsOf targetId).eventsOf id = c.eventsOf id := by
      simp only [eventsOf, withoutJobsOf, Table.get_retain]
      cases c.events.get id with
      | none => rfl
      | some events => rw [Option.filter_some, if_pos (decide_eq_true (hstays hfound htarget))]
    rw [hlog]
    exact h.logged id job hfound
  · intro id job hfound
    exact h.keyed id job ((get_withoutJobsOf h).mp hfound).1
  · intro id hnone
    simp only [withoutJobsOf, Table.get_retain, Option.filter_eq_none_iff, decide_eq_true_eq]
      at hnone ⊢
    intro events hevents
    cases hfound : c.jobs.get id with
    | none =>
      rw [h.noStrayLog id hfound] at hevents
      cases hevents
    | some job => exact hnone job hfound

/-- **Every call keeps the agreement.** -/
theorem WellKept.run {c : AnsibleJobCoordinator} (h : WellKept c) (op : CoordinatorOp)
    (hop : Admissible c op) : WellKept (op.run c) := by
  have hchange := op.change_run c
  generalize op.run c = c' at hchange ⊢
  cases hchange with
  | keep => exact h
  | record found => exact h.record found hop
  | queue unused accepts =>
    exact h.register hop rfl unused fun _ _ hlock => .inr hlock
  | @reconcile _ source newId now call reconcilable unused =>
    have hnew : c.jobs.get newId = none := by
      rcases call with ⟨rfl, -⟩ | rfl
      · exact hop
      · exact hop
    refine @WellKept.register c h (reconciliationOf source newId now) now _ hnew rfl unused ?_
    intro target id hlock
    exact (Table.get_put_cases hlock).imp_right (·.2)
  | move call found edge free => exact h.move found
  | remove idle => exact h.remove idle

/-! ### Whose events they are -/

/-- The events in the log of a job are about the job. -/
def Labelled (c : AnsibleJobCoordinator) : Prop :=
  ∀ id, ∀ event ∈ c.eventsOf id, event.jobId = id

theorem labelled_default : Labelled .default := by
  intro id event hevent
  simp [eventsOf, AnsibleJobCoordinator.default] at hevent

theorem Labelled.recordInternal {c : AnsibleJobCoordinator} (h : Labelled c) (id : AnsibleJobId)
    (event : JobEventKind) (now : Timestamp) : Labelled (c.recordInternal id event now) := by
  intro id' event' hevent
  rw [eventsOf_recordInternal] at hevent
  split at hevent
  case isTrue heq =>
    rcases List.mem_append.mp hevent with hold | hnew
    · exact (h id event' hold).trans heq.symm
    · obtain rfl := List.mem_singleton.mp hnew
      exact heq.symm
  case isFalse => exact h id' event' hevent

/-- Logs depend on the events only. -/
theorem Labelled.of_events {c c' : AnsibleJobCoordinator} (h : Labelled c)
    (hevents : c'.events = c.events) : Labelled c' := by
  intro id event hevent
  refine h id event ?_
  simpa only [eventsOf, hevents] using hevent

theorem Labelled.register {c : AnsibleJobCoordinator} (h : Labelled c) (job : AnsibleJob)
    (now : Timestamp) : Labelled (c.register job now) := by
  have hindexed : Labelled
      { c with idempotency := c.idempotency.put (job.target, job.idempotencyKey) job.id } :=
    h.of_events rfl
  exact (hindexed.recordInternal job.id .queued now).of_events rfl

theorem Labelled.withoutJobsOf {c : AnsibleJobCoordinator} (h : Labelled c) (targetId : TargetId) :
    Labelled (c.withoutJobsOf targetId) := by
  intro id event hevent
  refine h id event ?_
  simp only [eventsOf, AnsibleJobCoordinator.withoutJobsOf, Table.get_retain] at hevent ⊢
  cases hlog : c.events.get id with
  | none => simp [hlog] at hevent
  | some events =>
    rw [hlog, Option.filter_some] at hevent
    split at hevent
    · exact hevent
    · simp at hevent

/-- **Every call writes events to the log of the job they are about.** -/
theorem Labelled.run {c : AnsibleJobCoordinator} (h : Labelled c) (op : CoordinatorOp) :
    Labelled (op.run c) := by
  have hchange := op.change_run c
  generalize op.run c = c' at hchange ⊢
  cases hchange with
  | keep => exact h
  | record found => exact h.recordInternal _ _ _
  | queue unused accepts => exact h.register _ _
  | reconcile call reconcilable unused => exact Labelled.register (h.of_events rfl) _ _
  | @move _ id next now job call found edge free =>
    have hmoved : Labelled { c with
        jobs := c.jobs.put id { job with status := next, updatedAt := now }
        activeTargets := c.locksAfter job.target id next } := h.of_events rfl
    simp only [AnsibleJobCoordinator.moved]
    split
    · exact (hmoved.recordInternal _ _ _).recordInternal _ _ _
    · exact hmoved.recordInternal _ _ _
  | remove idle => exact h.withoutJobsOf _

/-! ### Every sequence of calls -/

/-- An index with its jobs never fails a submission with `notFound`. -/
private theorem Consistent.submit_ne_notFound {c : AnsibleJobCoordinator} (h : Consistent c)
    (request : AnsibleJobRequest) (newId : AnsibleJobId) (now : Timestamp) :
    c.submit request newId now ≠ .error .notFound := by
  unfold submit
  dsimp only
  split
  · rename_i existingId hentry
    obtain ⟨job, hfound, -⟩ := h.indexed _ _ _ hentry
    simp [hfound]
  · split <;> simp

private theorem Consistent.reconciliation_ne_notFound {c : AnsibleJobCoordinator}
    (h : Consistent c) (source : AnsibleJob) (enforce : Bool) (newId : AnsibleJobId)
    (now : Timestamp) :
    c.submitReconciliationWithLock source enforce newId now ≠ .error .notFound := by
  unfold submitReconciliationWithLock
  dsimp only
  split
  · simp
  · split
    · rename_i existingId hentry
      obtain ⟨job, hfound, -⟩ := h.indexed _ _ _ hentry
      simp [hfound]
    · split <;> simp

theorem wellKept_of_admissible {c : AnsibleJobCoordinator}
    (h : coordinatorMachine.Reach Admissible c) : WellKept c := by
  refine h.invariant (I := WellKept) ?_ ?_
  · rintro s rfl
    exact wellKept_default
  · intro s op s' _ hkept hop hstep
    obtain rfl := Option.some.inj hstep
    exact hkept.run op hop

/-- **The four maps agree after every sequence of calls**, and no submission finds an index
entry without its job. -/
theorem consistent_of_admissible {c : AnsibleJobCoordinator}
    (h : coordinatorMachine.Reach Admissible c) :
    Consistent c ∧
    (∀ request newId now, c.submit request newId now ≠ .error .notFound) ∧
    (∀ source newId now, c.submitReconciliation source newId now ≠ .error .notFound) ∧
    ∀ source newId now, c.submitPersistedReconciliation source newId now ≠ .error .notFound := by
  have hkept := (wellKept_of_admissible h).toConsistent
  exact ⟨hkept, hkept.submit_ne_notFound, fun source => hkept.reconciliation_ne_notFound source true,
    fun source => hkept.reconciliation_ne_notFound source false⟩

/-- Two health checks, the first of them planned and with a line of the worker in its log. -/
def plannedHealthCheck : List CoordinatorOp :=
  twoHealthChecks .checking ++
    [.recordEvent ⟨⟨1⟩⟩ (.workerLog "worker" "reachable") 3, .transition ⟨⟨1⟩⟩ .planned 4]

theorem consistent_planned_health_check :
    let c := plannedHealthCheck.foldl (fun c op => op.run c) .default
    (c.jobs.get ⟨⟨1⟩⟩).map (·.status) = some .planned ∧ (c.eventsOf ⟨⟨1⟩⟩).length = 4 ∧
      Consistent c :=
  ⟨by decide +kernel, by decide +kernel,
    (consistent_of_admissible (.exec (.init rfl) plannedHealthCheck rfl)).1⟩

end Lxcup.Ansible
