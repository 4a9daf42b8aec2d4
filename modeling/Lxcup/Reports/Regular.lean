import Lxcup.Reports.Steps

/-!
# What holds in all runs of the report server

Calls are under way for jobs that the history knows, and the events of every job in the database
are numbered from one without a gap, whoever writes them and in whatever order.  A number that a
call has counted is at most the next one, so that an insert either fails or is the next event.

## Main definitions

* `Access` — everything the next access of a call can do.
* `Regular` — the invariant.

## Main results

* `access_of_next` — the inversion for a call.
* `regular_of_reach` — the invariant, in every state of every run.
-/

namespace Lxcup.Reports

open Lxcup.Lib Lxcup.Core Lxcup.Ansible Lxcup.Agent Lxcup.Persistence Lxcup.Server Lxcup.Worker
open Lxcup.Submission (JobDatabase)

/-! ### The next access of a call -/

/-- Everything the next access of a call can do. -/
inductive Access (s : AgentServer) (call : Call) (input : Input) : AgentServer → Phase → Prop
  /-- An error is answered. -/
  | refused {error : ApiError} : Access s call input s (.answered (.error error))
  /-- The events are counted before the row is written. -/
  | counted {db : JobDatabase} {verdict : Verdict} (persistent : s.store = .database db)
      (phase : call.phase = .settled verdict) :
      Access s call input s (.counted verdict.job verdict.events
        (some ((rowEvents db verdict.job.id).length + 1)))
  /-- The result is written under the lock of the coordinator. -/
  | memory {c : AnsibleJobCoordinator} {verdict : Verdict} (inMemory : s.store = .memory c)
      (phase : call.phase = .settled verdict) :
      Access s call input (s.writeMemory c call.writer verdict input.now).1
        (s.writeMemory c call.writer verdict input.now).2
  /-- There is no row to be written. -/
  | missing {db : JobDatabase} {job : AnsibleJob} {events : List JobEventKind} {next : Option Nat}
      (persistent : s.store = .database db) (phase : call.phase = .counted job events next)
      (gone : db.jobs.get job.id = none) :
      Access s call input s (.appending job.id events next)
  /-- The row is written. -/
  | row {db : JobDatabase} {job before : AnsibleJob} {events : List JobEventKind}
      {next : Option Nat} (persistent : s.store = .database db)
      (phase : call.phase = .counted job events next) (found : db.jobs.get job.id = some before) :
      Access s call input
        ((s.withStore (.database { db with jobs := db.jobs.put job })).note job.id
          (.written call.writer before.status)) (.appending job.id events next)
  | done {id : AnsibleJobId} {next : Option Nat} (phase : call.phase = .appending id [] next) :
      Access s call input s (.answered (.ok ()))
  /-- The events are counted for the next one. -/
  | recounted {db : JobDatabase} {id : AnsibleJobId} {events : List JobEventKind}
      (persistent : s.store = .database db) (phase : call.phase = .appending id events none) :
      Access s call input s (.appending id events (some ((rowEvents db id).length + 1)))
  /-- An event is inserted. -/
  | appended {db db' : JobDatabase} {id : AnsibleJobId} {event : JobEventKind}
      {events : List JobEventKind} {sequence : Nat} (persistent : s.store = .database db)
      (phase : call.phase = .appending id (event :: events) (some sequence))
      (inserted : db.appendEvent ⟨sequence, id, event, input.now⟩ = .ok db') :
      Access s call input (s.withStore (.database db')) (.appending id events
        (if call.writer = .recovery then none else some (sequence + 1)))

/-- What the writing of a row does. -/
theorem writeRow_ok {s s' : AgentServer} {db : JobDatabase} {writer : Writer} {job : AnsibleJob}
    (hdb : s.store = .database db) (h : s.writeRow db writer job = .ok s') :
    (db.jobs.get job.id = none ∧ s' = s) ∨
    ∃ before, db.jobs.get job.id = some before ∧
      s' = (s.withStore (.database { db with jobs := db.jobs.put job })).note job.id
        (.written writer before.status) := by
  unfold AgentServer.writeRow at h
  cases hupdate : db.jobs.update job with
  | error e =>
    rw [hupdate] at h
    cases h
  | ok jobs =>
    rw [hupdate] at h
    have hs' := Except.ok.inj h
    rcases JobTable.update_ok hupdate with ⟨hnone, rfl⟩ | ⟨⟨before, hbefore⟩, -, rfl⟩
    · left
      refine ⟨hnone, ?_⟩
      simp only [hnone] at hs'
      rw [← hs', AgentServer.withStore, ← hdb]
    · right
      simp only [hbefore] at hs'
      exact ⟨before, hbefore, hs'.symm⟩

/-- **The next access of a call.** -/
theorem access_of_next {s s' : AgentServer} {call : Call} {input : Input} {phase : Phase}
    (h : s.next call input = some (s', phase)) : Access s call input s' phase := by
  unfold AgentServer.next at h
  split at h
  · rename_i c verdict hstore hphase
    obtain ⟨rfl, rfl⟩ := Prod.mk.inj (Option.some.inj h)
    exact .memory hstore hphase
  · rename_i db verdict hstore hphase
    split at h
    · obtain ⟨rfl, rfl⟩ := Prod.mk.inj (Option.some.inj h)
      exact .refused
    · obtain ⟨rfl, rfl⟩ := Prod.mk.inj (Option.some.inj h)
      rw [hstore]
      exact .counted hstore hphase
  · rename_i db job events next hstore hphase
    split at h
    · obtain ⟨rfl, rfl⟩ := Prod.mk.inj (Option.some.inj h)
      exact .refused
    · split at h
      · obtain ⟨rfl, rfl⟩ := Prod.mk.inj (Option.some.inj h)
        exact .refused
      · rename_i written hwrite
        obtain ⟨rfl, rfl⟩ := Prod.mk.inj (Option.some.inj h)
        rcases writeRow_ok hstore hwrite with ⟨hnone, rfl⟩ | ⟨before, hbefore, rfl⟩
        · exact .missing hstore hphase hnone
        · exact .row hstore hphase hbefore
  · rename_i id next hstore hphase
    obtain ⟨rfl, rfl⟩ := Prod.mk.inj (Option.some.inj h)
    exact .done hphase
  · rename_i db id events hne hstore hphase
    split at h
    · obtain ⟨rfl, rfl⟩ := Prod.mk.inj (Option.some.inj h)
      exact .refused
    · obtain ⟨rfl, rfl⟩ := Prod.mk.inj (Option.some.inj h)
      rw [hstore]
      exact .recounted hstore hphase
  · rename_i db id event events sequence hstore hphase
    split at h
    · obtain ⟨rfl, rfl⟩ := Prod.mk.inj (Option.some.inj h)
      exact .refused
    · rename_i db' hinserted
      split at h
      · obtain ⟨rfl, rfl⟩ := Prod.mk.inj (Option.some.inj h)
        exact .refused
      · obtain ⟨rfl, rfl⟩ := Prod.mk.inj (Option.some.inj h)
        exact .appended hstore hphase hinserted
  · cases h

/-! ### The invariant -/

/-- The job a call is about. -/
def Phase.subject? : Phase → Option AnsibleJobId
  | .settled verdict => some verdict.job.id
  | .counted job _ _ => some job.id
  | .appending id _ _ => some id
  | .answered _ => none

/-- The number that a call has counted for its next event. -/
def Phase.next? : Phase → Option (AnsibleJobId × Nat)
  | .counted job _ (some next) => some (job.id, next)
  | .appending id _ (some next) => some (id, next)
  | _ => none

/-- Jobs and calls are known to the history, and the events of the jobs are numbered. -/
structure Regular (s : AgentServer) : Prop where
  kept : s.store.Kept
  logged : ∀ id, (s.store.find id).isSome = true → (s.log.get id).isSome = true
  subjects : ∀ n call id, s.calls.get n = some call → call.phase.subject? = some id →
    (s.log.get id).isSome = true
  numbered : ∀ db, s.store = .database db → ∀ id, Numbered (rowEvents db id)
  /-- While its job is there, a call has counted no more than the events and the next one. -/
  next : ∀ db, s.store = .database db → ∀ n call id count, s.calls.get n = some call →
    call.phase.next? = some (id, count) → (db.jobs.get id).isSome = true →
      1 ≤ count ∧ count ≤ (rowEvents db id).length + 1

variable {s s' : AgentServer}

/-- What is found after an entry was put in the place of another one was found before. -/
private theorem isSome_of_put {α : Type} {p : Prop} [Decidable p] {new : α} {old : Option α}
    (hold : p → old.isSome = true) (h : (if p then some new else old).isSome = true) :
    old.isSome = true := by
  by_cases hp : p
  · exact hold hp
  · rwa [if_neg hp] at h

theorem isSome_note {id other : AnsibleJobId} {entry : Entry} (h : (s.log.get other).isSome = true) :
    ((s.note id entry).log.get other).isSome = true := by
  simp only [AgentServer.note, Table.get_put]
  split
  · rfl
  · exact h

theorem Regular.note (h : Regular s) (id : AnsibleJobId) (entry : Entry) :
    Regular (s.note id entry) where
  kept := h.kept
  logged other hfound := isSome_note (h.logged other hfound)
  subjects n call other hcall hsubject := isSome_note (h.subjects n call other hcall hsubject)
  numbered := h.numbered
  next := h.next

theorem Regular.withCall (h : Regular s) {n : Nat} {call : Call}
    (hsubject : ∀ id, call.phase.subject? = some id → (s.log.get id).isSome = true)
    (hnext : ∀ db, s.store = .database db → ∀ id count, call.phase.next? = some (id, count) →
      (db.jobs.get id).isSome = true → 1 ≤ count ∧ count ≤ (rowEvents db id).length + 1) :
    Regular (s.withCall n call) where
  kept := h.kept
  logged := h.logged
  subjects m other id hother hid := by
    rcases Table.get_put_cases hother with ⟨-, rfl⟩ | ⟨-, hold⟩
    · exact hsubject id hid
    · exact h.subjects m other id hold hid
  numbered := h.numbered
  next db hdb m other id count hother hcount := by
    rcases Table.get_put_cases hother with ⟨-, rfl⟩ | ⟨-, hold⟩
    · exact hnext db hdb id count hcount
    · exact h.next db hdb m other id count hold hcount

/-- The store goes on, and jobs come with an entry of the history only. -/
theorem Regular.evolve (h : Regular s) {store : JobStore} {log : Table AnsibleJobId (List Entry)}
    (hevolves : JobStore.Evolves s.store store)
    (hlog : ∀ id, (s.log.get id).isSome = true → (log.get id).isSome = true)
    (hfind : ∀ id, (store.find id).isSome = true → (s.store.find id).isSome = true ∨
      (s.log.get id).isSome = false ∧ (log.get id).isSome = true) :
    Regular { s with store := store, log := log } where
  kept := hevolves.kept
  logged id hfound := by
    rcases hfind id hfound with hold | ⟨-, hnew⟩
    · exact hlog id (h.logged id hold)
    · exact hnew
  subjects n call id hcall hsubject := hlog id (h.subjects n call id hcall hsubject)
  numbered db' hdb' id := by
    obtain rfl : store = .database db' := hdb'
    cases hstore : s.store with
    | memory c =>
      rw [hstore] at hevolves
      exact hevolves.elim
    | database db =>
      rw [hstore] at hevolves
      exact hevolves.numbered id (h.numbered db hstore id)
  next db' hdb' n call id count hcall hcount hrow := by
    obtain rfl : store = .database db' := hdb'
    cases hstore : s.store with
    | memory c =>
      rw [hstore] at hevolves
      exact hevolves.elim
    | database db =>
      rw [hstore] at hevolves
      have hsubject : call.phase.subject? = some id := by
        unfold Phase.next? at hcount
        split at hcount
        · rename_i heq
          rw [heq]
          exact congrArg (Option.map Prod.fst) hcount
        · rename_i heq
          rw [heq]
          exact congrArg (Option.map Prod.fst) hcount
        · cases hcount
      -- a call is under way for old jobs only
      have hold : (db.jobs.get id).isSome = true := by
        rcases hfind id hrow with hold | ⟨hunknown, -⟩
        · rw [hstore] at hold
          exact hold
        · rw [h.subjects n call id hcall hsubject] at hunknown
          cases hunknown
      obtain ⟨hfirst, hlast⟩ := h.next db hstore n call id count hcall hcount hold
      exact ⟨hfirst, hlast.trans (Nat.add_le_add_right (hevolves.longer id hrow) 1)⟩

theorem Regular.withStore (h : Regular s) {store : JobStore}
    (hevolves : JobStore.Evolves s.store store)
    (hfind : ∀ id, (store.find id).isSome = true → (s.store.find id).isSome = true) :
    Regular (s.withStore store) :=
  h.evolve hevolves (fun _ h => h) fun id hfound => .inl (hfind id hfound)

/-! ### The steps of calls -/

theorem admissible_resultOps {verdict : Verdict} {now : Timestamp} :
    ∀ step ∈ resultOps verdict now, ∀ c, Admissible c step.1 := by
  intro step hmem c
  rcases List.mem_append.mp hmem with hrecord | htransition
  · unfold resultRecords at hrecord
    dsimp only at hrecord
    split at hrecord
    · simp only [List.mem_cons, List.not_mem_nil, or_false] at hrecord
      rcases hrecord with rfl | rfl <;> exact rfl
    · obtain rfl := List.mem_singleton.mp hrecord
      exact rfl
  · exact JobStore.admissible_transitions step htransition c

/-- The calls for a result record events of its job, or move it. -/
theorem mem_resultOps {verdict : Verdict} {now : Timestamp} {step : CoordinatorOp × ApiError}
    (h : step ∈ resultOps verdict now) :
    (∃ event, step.1 = .recordEvent verdict.job.id event now) ∨
      ∃ next, step.1 = .transition verdict.job.id next now := by
  rcases List.mem_append.mp h with hrecord | htransition
  · left
    unfold resultRecords at hrecord
    dsimp only at hrecord
    split at hrecord
    · simp only [List.mem_cons, List.not_mem_nil, or_false] at hrecord
      rcases hrecord with rfl | rfl <;> exact ⟨_, rfl⟩
    · obtain rfl := List.mem_singleton.mp hrecord
      exact ⟨_, rfl⟩
  · right
    obtain ⟨next, -, rfl⟩ := List.mem_map.mp htransition
    exact ⟨next, rfl⟩

/-- Records and transitions make no jobs. -/
theorem isSome_of_runAll {verdict : Verdict} {now : Timestamp} {c : AnsibleJobCoordinator}
    {id : AnsibleJobId} (h : ((runAll (resultOps verdict now) c).1.jobs.get id).isSome = true) :
    (c.jobs.get id).isSome = true := by
  revert h
  refine runAll_keeps (I := fun c' => (c'.jobs.get id).isSome = true → (c.jobs.get id).isSome = true)
    (fun h => h) fun step hmem c' hkeeps => ?_
  have hop := mem_resultOps hmem
  obtain ⟨op, error⟩ := step
  dsimp only at hop ⊢
  have heffect := op.effect_run c'
  generalize op.run c' = c'' at heffect ⊢
  intro hsome
  refine hkeeps ?_
  cases heffect with
  | keep jobs locks => rwa [jobs] at hsome
  | move call found edge free jobs locks =>
    rw [jobs, Table.get_put] at hsome
    exact isSome_of_put (fun hsame => by rw [hsame, found, Option.isSome_some]) hsome
  | queue => rcases hop with ⟨_, heq⟩ | ⟨_, heq⟩ <;> cases heq
  | reconcile call =>
    rcases call with ⟨rfl, -⟩ | rfl
    · rcases hop with ⟨_, heq⟩ | ⟨_, heq⟩ <;> cases heq
    · rcases hop with ⟨_, heq⟩ | ⟨_, heq⟩ <;> cases heq
  | remove => rcases hop with ⟨_, heq⟩ | ⟨_, heq⟩ <;> cases heq

/-- Records and transitions of a job add no events to another. -/
theorem eventsOf_runAll {verdict : Verdict} {now : Timestamp} {c : AnsibleJobCoordinator}
    {other : AnsibleJobId} (hne : other ≠ verdict.job.id) :
    (runAll (resultOps verdict now) c).1.eventsOf other = c.eventsOf other := by
  refine runAll_keeps (I := fun c' => c'.eventsOf other = c.eventsOf other) rfl
    fun step hmem c' hkeeps => ?_
  rw [← hkeeps]
  rw [CoordinatorOp.run]
  cases hcall : step.1.call c' with
  | error e => rfl
  | ok c'' =>
    rcases mem_resultOps hmem with ⟨event, heq⟩ | ⟨next, heq⟩
    · rw [heq] at hcall
      simp only [CoordinatorOp.call, AnsibleJobCoordinator.recordEvent] at hcall
      split at hcall
      · cases hcall
      · split at hcall
        · cases hcall
        · rw [← Except.ok.inj hcall, AnsibleJobCoordinator.eventsOf_recordInternal, if_neg hne]
    · rw [heq] at hcall
      cases hjob : c'.jobs.get verdict.job.id with
      | none =>
        simp only [CoordinatorOp.call, AnsibleJobCoordinator.transition, hjob] at hcall
        cases hcall
      | some job =>
        rw [moved_of_transition hjob hcall]
        exact eventsOf_moved_ne hne

/-- What a writing without a database leaves, but for the history. -/
theorem writeMemory_cases (s : AgentServer) (c : AnsibleJobCoordinator) (writer : Writer)
    (verdict : Verdict) (now : Timestamp) :
    (∃ answer, (s.writeMemory c writer verdict now).2 = .answered answer) ∧
      ((s.writeMemory c writer verdict now).1
          = s.withStore (.memory (runAll (resultOps verdict now) c).1) ∨
        ∃ job, c.jobs.get verdict.job.id = some job ∧ job.status.isFinal = false ∧
          (s.writeMemory c writer verdict now).1
            = (s.withStore (.memory (runAll (resultOps verdict now) c).1)).note verdict.job.id
              (.written writer job.status)) := by
  unfold AgentServer.writeMemory
  dsimp only
  split
  · exact ⟨⟨_, rfl⟩, .inl rfl⟩
  · rename_i job hjob
    split
    · exact ⟨⟨_, rfl⟩, .inl rfl⟩
    · rename_i hopen
      exact ⟨⟨_, rfl⟩, .inr ⟨job, hjob, by simpa using hopen, rfl⟩⟩

/-- **The next access of a call keeps the invariant.** -/
theorem Regular.access (h : Regular s) {n : Nat} {call : Call} {input : Input} {phase : Phase}
    (hcall : s.calls.get n = some call) (access : Access s call input s' phase) :
    Regular (s'.withCall n { call with phase := phase }) := by
  have hsubject : ∀ id, call.phase.subject? = some id → (s.log.get id).isSome = true :=
    fun id => h.subjects n call id hcall
  cases access with
  | refused => exact h.withCall (fun _ hid => by cases hid) fun _ _ _ _ hid => by cases hid
  | @counted db verdict persistent hphase =>
    rw [hphase] at hsubject
    refine h.withCall hsubject fun db' hdb' id count hcount hrow => ?_
    obtain rfl := JobStore.database.inj (persistent.symm.trans hdb')
    obtain ⟨rfl, rfl⟩ := Prod.mk.inj (Option.some.inj hcount)
    omega
  | @memory c verdict inMemory hphase =>
    have hkept : WellKept c := by
      have hkept := h.kept
      rw [inMemory] at hkept
      exact hkept
    have hstore : Regular (s.withStore (.memory (runAll (resultOps verdict input.now) c).1)) := by
      refine h.withStore ?_ fun id hfound => ?_
      · rw [inMemory]
        exact JobStore.wellKept_runAll hkept admissible_resultOps
      · rw [inMemory]
        exact isSome_of_runAll hfound
    obtain ⟨⟨answer, hanswer⟩, hcases⟩ :=
      writeMemory_cases s c call.writer verdict input.now
    rw [hanswer]
    rcases hcases with heq | ⟨job, -, -, heq⟩
    · rw [heq]
      exact hstore.withCall (fun _ hid => by cases hid) fun _ _ _ _ hid => by cases hid
    · rw [heq]
      exact (hstore.note _ _).withCall (fun _ hid => by cases hid) fun _ _ _ _ hid => by cases hid
  | @missing db job events next persistent hphase gone =>
    rw [hphase] at hsubject
    refine h.withCall hsubject fun db' hdb' id count hcount hrow => ?_
    obtain rfl := JobStore.database.inj (persistent.symm.trans hdb')
    have hid : job.id = id := by
      cases next with
      | none => cases hcount
      | some next => exact congrArg Prod.fst (Option.some.inj hcount)
    rw [← hid, gone] at hrow
    cases hrow
  | @row db job before events next persistent hphase found =>
    rw [hphase] at hsubject
    have hthere : ∀ id, ((db.jobs.put job).get id).isSome = true →
        (db.jobs.get id).isSome = true := by
      intro id hrow
      rw [JobTable.get_put] at hrow
      exact isSome_of_put (fun hsame => by rw [hsame, found, Option.isSome_some]) hrow
    have hstore : Regular (s.withStore (.database { db with jobs := db.jobs.put job })) := by
      refine h.withStore ?_ fun id hrow => ?_
      · rw [persistent]
        exact Grows.of_events rfl
      · rw [persistent]
        exact hthere id hrow
    refine (hstore.note _ _).withCall (fun id hid => isSome_note (hsubject id hid)) ?_
    intro db' hdb' id count hcount hrow
    obtain rfl := JobStore.database.inj hdb'
    have hold : call.phase.next? = some (id, count) := by
      rw [hphase]
      cases next with
      | none => cases hcount
      | some next => exact hcount
    exact h.next db persistent n call id count hcall hold (hthere id hrow)
  | done hphase => exact h.withCall (fun _ hid => by cases hid) fun _ _ _ _ hid => by cases hid
  | @recounted db id events persistent hphase =>
    rw [hphase] at hsubject
    refine h.withCall hsubject fun db' hdb' other count hcount hrow => ?_
    obtain rfl := JobStore.database.inj (persistent.symm.trans hdb')
    obtain ⟨rfl, rfl⟩ := Prod.mk.inj (Option.some.inj hcount)
    omega
  | @appended db db' id event events sequence persistent hphase inserted =>
    rw [hphase] at hsubject
    obtain ⟨hrow, -, hdb'⟩ := appendEvent_ok inserted
    obtain ⟨hfirst, hlast⟩ := h.next db persistent n call id sequence hcall (by rw [hphase]; rfl) hrow
    have happends : Appends id db db' := appends_of_appendEvent inserted hfirst hlast
    have hstore : Regular (s.withStore (.database db')) := by
      refine h.withStore ?_ fun other hfound => ?_
      · rw [persistent]
        exact @Appends.grows id db db' db.jobs happends
      · rw [persistent]
        change (db'.jobs.get other).isSome = true at hfound
        rw [happends.jobs] at hfound
        exact hfound
    refine hstore.withCall hsubject fun db'' hdb'' other count hcount _ => ?_
    obtain rfl := JobStore.database.inj hdb''
    dsimp only at hcount
    split at hcount
    · cases hcount
    · obtain ⟨rfl, rfl⟩ := Prod.mk.inj (Option.some.inj hcount)
      have hlength : (rowEvents db' id).length = (rowEvents db id).length + 1 := by
        rw [hdb']
        simp [rowEvents]
      omega

/-! ### Every step -/

/-- A job is submitted under an id that the history does not know, and so no job has. -/
theorem Regular.submitted_cases (h : Regular s) {id : AnsibleJobId} {store : Option JobStore}
    (hstep : s.submitted id store = some s') :
    ∃ store', store = some store' ∧ s.store.find id = none ∧ s.log.get id = none ∧
      s' = { s with store := store', log := s.log.put id [] } := by
  obtain ⟨hunknown, hstep⟩ := Option.ite_none_left_eq_some.mp hstep
  obtain ⟨store', rfl, rfl⟩ := Option.map_eq_some_iff.mp hstep
  have hlog : s.log.get id = none := by simpa using hunknown
  refine ⟨store', rfl, ?_, hlog, rfl⟩
  by_contra hne
  exact hunknown (h.logged id (Option.isSome_iff_ne_none.mpr hne))

/-- A worker that starts takes up a job of the database that was under way. -/
theorem recover_cases {n : Nat} {id : AnsibleJobId} {now : Timestamp}
    (hstep : s.recover n id now = some s') :
    ∃ job next, s.store.find id = some job ∧ job.id = id ∧
      recoveredStatus job.status = some next ∧
      s' = s.withCall n ⟨.recovery, .counted { job with status := next, updatedAt := now }
        (recoveryEvents { job with status := next, updatedAt := now }) none⟩ := by
  unfold AgentServer.recover at hstep
  split at hstep
  case h_1 db hdb =>
    obtain ⟨-, hstep⟩ := Option.ite_none_left_eq_some.mp hstep
    obtain ⟨job, hjob, hstep⟩ := Option.bind_eq_some_iff.mp hstep
    obtain ⟨job', hrecovered, rfl⟩ := Option.map_eq_some_iff.mp hstep
    obtain ⟨next, hnext, rfl⟩ := recoverJob_some hrecovered
    exact ⟨job, next, by rw [hdb]; exact hjob, JobTable.get_id hjob, hnext, rfl⟩
  case h_2 => cases hstep

private theorem Regular.submitted (h : Regular s) {id : AnsibleJobId} {store : Option JobStore}
    (hstore : s.store.find id = none → ∀ store', store = some store' →
      (∀ other, store'.find other = s.store.find other ∨ other = id) ∧
        JobStore.Evolves s.store store')
    (hstep : s.submitted id store = some s') : Regular s' := by
  obtain ⟨store', rfl, hnew, hunknown, rfl⟩ := h.submitted_cases hstep
  obtain ⟨hfind, hevolves⟩ := hstore hnew store' rfl
  refine h.evolve hevolves (fun other hother => ?_) fun other hfound => ?_
  · rw [Table.get_put]
    split
    · rfl
    · exact hother
  · rcases hfind other with hsame | rfl
    · rw [hsame] at hfound
      exact .inl hfound
    · exact .inr ⟨by rw [hunknown, Option.isSome_none], by rw [Table.get_put_self]; rfl⟩

/-- The phases in which a call begins. -/
private theorem subject_refusalPhase {claimed : AnsibleJob} {error : ApiError} {now : Timestamp}
    {id : AnsibleJobId} (h : (AgentServer.refusalPhase claimed error now).subject? = some id) :
    claimed.id = id := by
  unfold AgentServer.refusalPhase at h
  split at h
  · cases h
  · rename_i verdict hsettle
    obtain ⟨-, rfl⟩ := settle_ok hsettle
    exact Option.some.inj h

private theorem next_refusalPhase (claimed : AnsibleJob) (error : ApiError) (now : Timestamp) :
    (AgentServer.refusalPhase claimed error now).next? = none := by
  unfold AgentServer.refusalPhase
  split <;> rfl

theorem subject_reportPhase {read : JsonReader} {id : AnsibleJobId} {token : TokenCheck}
    {response : AgentCommandResponse} {input : Input} (hkept : s.store.Kept) {other : AnsibleJobId}
    (h : (AgentServer.reportPhase read s id token response input).subject? = some other) :
    other = id ∧ (s.store.find id).isSome = true := by
  unfold AgentServer.reportPhase at h
  split at h
  · cases h
  · cases h
  · rename_i job hjob
    split at h
    · cases h
    · split at h
      · cases h
      · cases h
      · rename_i verdict hjudge
        obtain ⟨-, hsettle⟩ := judge_ok hjudge
        obtain ⟨-, rfl⟩ := settle_ok hsettle
        have hid := JobStore.find_id hkept hjob
        exact ⟨(Option.some.inj h).symm.trans hid, by rw [hjob]; rfl⟩

private theorem next_reportPhase {read : JsonReader} {id : AnsibleJobId} {token : TokenCheck}
    {response : AgentCommandResponse} {input : Input} :
    (AgentServer.reportPhase read s id token response input).next? = none := by
  unfold AgentServer.reportPhase
  split
  · rfl
  · rfl
  · split
    · rfl
    · split <;> rfl

/-- **Every step keeps the invariant.** -/
theorem Regular.step (h : Regular s) {read : JsonReader} {action : ServerAction}
    (hstep : s.step read action = some s') : Regular s' := by
  cases action with
  | report n id token response input =>
    simp only [AgentServer.step, AgentServer.report] at hstep
    split at hstep
    · cases hstep
    · obtain rfl := Option.some.inj hstep
      refine h.withCall (fun other hother => ?_) fun _ _ _ _ hcount => ?_
      · obtain ⟨rfl, hfound⟩ := subject_reportPhase h.kept hother
        exact h.logged _ hfound
      · rw [next_reportPhase] at hcount
        cases hcount
  | claim n targetId id token now =>
    simp only [AgentServer.step, AgentServer.claim] at hstep
    split at hstep
    · cases hstep
    · obtain ⟨⟨claimed, store⟩, hclaim, rfl⟩ := Option.map_eq_some_iff.mp hstep
      obtain ⟨job, hjob, -, hclaimed, hfind, hevolves⟩ := JobStore.claim_cases h.kept hclaim
      have hnoted : Regular ((s.withStore store).note id .claimed) := by
        refine (h.withStore hevolves fun other hfound => ?_).note _ _
        rw [hfind] at hfound
        exact isSome_of_put (fun hsame => by rw [hsame, hjob, Option.isSome_some]) hfound
      dsimp only
      split
      · exact hnoted
      · refine hnoted.withCall (fun other hother => ?_) fun _ _ _ _ hcount => ?_
        · have hid := JobStore.find_id h.kept hjob
          have hsame := subject_refusalPhase hother
          rw [← hsame, hclaimed]
          exact isSome_note (h.logged _ (by rw [hid, hjob]; rfl))
        · rw [next_refusalPhase] at hcount
          cases hcount
  | recover n id now =>
    obtain ⟨job, next, hjob, hid, -, rfl⟩ := recover_cases hstep
    refine h.withCall (fun other hother => ?_) fun _ _ _ _ hcount => by cases hcount
    obtain rfl := Option.some.inj hother
    refine h.logged _ ?_
    change (s.store.find job.id).isSome = true
    rw [hid, hjob, Option.isSome_some]
  | advance n input =>
    simp only [AgentServer.step, AgentServer.advance, Option.bind_eq_some_iff,
      Option.map_eq_some_iff] at hstep
    obtain ⟨call, hcall, ⟨s'', phase⟩, hnext, rfl⟩ := hstep
    exact h.access hcall (access_of_next hnext)
  | submit job =>
    refine h.submitted (fun _ store' hstore => ?_) hstep
    obtain ⟨-, hfind, hevolves⟩ := JobStore.submit_cases hstore
    refine ⟨fun other => ?_, hevolves⟩
    rw [hfind]
    split
    · rename_i hsame
      exact .inr hsame
    · exact .inl rfl
  | appendQueued id now =>
    obtain ⟨store, hstore, rfl⟩ := Option.map_eq_some_iff.mp hstep
    obtain ⟨hfind, hevolves⟩ := JobStore.appendQueued_cases hstore
    exact h.withStore hevolves fun other hfound => by rwa [hfind] at hfound
  | submitRequest request newId now =>
    refine h.submitted (fun hnew store' hstore => ?_) hstep
    obtain ⟨hfind, hevolves⟩ := JobStore.coordinate_cases h.kept (.inl ⟨_, _, rfl⟩) hnew hstore
    exact ⟨fun other => (hfind other).imp_right (·.1), hevolves⟩
  | submitReconciliation source newId now =>
    refine h.submitted (fun hnew store' hstore => ?_) hstep
    obtain ⟨hfind, hevolves⟩ := JobStore.coordinate_cases h.kept (.inr ⟨_, _, rfl⟩) hnew hstore
    exact ⟨fun other => (hfind other).imp_right (·.1), hevolves⟩
  | retry id now =>
    obtain ⟨store, hstore, rfl⟩ := Option.map_eq_some_iff.mp hstep
    obtain ⟨hfind | ⟨job, hjob, -, hfind⟩, hevolves⟩ := JobStore.retry_cases h.kept hstore
    · exact h.withStore hevolves fun other hfound => by rwa [hfind] at hfound
    · refine h.withStore hevolves fun other hfound => ?_
      rw [hfind] at hfound
      exact isSome_of_put (fun hsame => by rw [hsame, hjob, Option.isSome_some]) hfound
  | deleteTarget id =>
    obtain ⟨store, hstore, rfl⟩ := Option.map_eq_some_iff.mp hstep
    obtain ⟨hfind, -, hevolves⟩ := JobStore.deleteTarget_cases h.kept hstore
    have hremoved := h.withStore hevolves fun other hfound => by
      obtain ⟨job, hjob⟩ := Option.isSome_iff_exists.mp hfound
      rw [hfind other job hjob]
      rfl
    exact ⟨hremoved.kept, hremoved.logged, hremoved.subjects, hremoved.numbered, hremoved.next⟩
  | putTarget target =>
    obtain rfl := Option.some.inj hstep
    obtain ⟨hfind, hevolves⟩ := JobStore.putTarget_cases h.kept target
    have hput := h.withStore hevolves fun other hfound => by rwa [hfind] at hfound
    exact ⟨hput.kept, hput.logged, hput.subjects, hput.numbered, hput.next⟩

theorem regular_fresh (persistent : Bool) : Regular (.fresh persistent) where
  kept := by
    cases persistent with
    | true => exact trivial
    | false => exact wellKept_default
  logged id hfound := by
    cases persistent with
    | true => simp [AgentServer.fresh, JobStore.find] at hfound
    | false => simp [AgentServer.fresh, JobStore.find, AnsibleJobCoordinator.default] at hfound
  subjects n call id hcall := by simp [AgentServer.fresh] at hcall
  numbered db hdb id := by
    cases persistent with
    | true =>
      obtain rfl := JobStore.database.inj hdb
      simp [rowEvents, Numbered]
    | false => cases hdb
  next db hdb n call id count hcall := by simp [AgentServer.fresh] at hcall

/-- **The invariant holds in every state of every run.** -/
theorem regular_of_reach {read : JsonReader} {ok : AgentServer → ServerAction → Prop}
    (h : (reportMachine read).Reach ok s) : Regular s := by
  refine h.invariant (I := Regular) ?_ ?_
  · rintro s ⟨persistent, rfl⟩
    exact regular_fresh persistent
  · intro s action s' _ hregular _ hstep
    exact hregular.step hstep

end Lxcup.Reports
