import Lxcup.Submission.Service

/-!
# What the steps of the service do

One inversion for the next access of a call and one for the steps of the rest of the system.
Everything that is proved about runs of the service goes through them.

A job changes while it makes progress, but only in its status and the time of its last change.
What stays is its `base`, the job as it was made; `held` and `stored` are the bases of the jobs
of the coordinator and of the jobs that are listed.

## Main definitions

* `AnsibleJob.base`, `Service.held`, `Service.stored`.
* `Extends` — the history only grows.
* `JobsRead` — everything that the looking up of jobs can come to.
* `Access` — everything the next access of a call can do.
* `Quiet` — the steps that keep all processes and the bases of all jobs.

## Main results

* `jobsRead_of_readJobs` — the inversion for the looking up of jobs.
* `access_of_next` — the inversion for a process.
* `advance_some`, `progress_some`, `deleteTarget_some` and the others — when a step can be taken.
* `step_cases` — the inversion for a step of the system.
-/

namespace Lxcup.Submission

open Lxcup.Lib Lxcup.Core Lxcup.Ansible Lxcup.Persistence Lxcup.Server

/-! ### What stays of a job -/

/-- The job as it was made. -/
def base (job : AnsibleJob) : AnsibleJob :=
  { job with status := .queued, updatedAt := job.createdAt }

/-- Jobs with one base have the same target and key. -/
theorem order_of_base {job job' : AnsibleJob} (h : base job = base job') :
    job.target = job'.target ∧ job.idempotencyKey = job'.idempotencyKey := by
  have htarget : (base job).target = (base job').target := by rw [h]
  have hkey : (base job).idempotencyKey = (base job').idempotencyKey := by rw [h]
  exact ⟨htarget, hkey⟩

/-- Transitions of a job do not touch its base. -/
theorem base_of_transitionsTo {job job' : AnsibleJob} {path : List AnsibleJobStatus}
    {now : Timestamp} (h : job.transitionsTo path now = .ok job') :
    base job' = base job ∧ job'.id = job.id := by
  cases path with
  | nil =>
    obtain rfl := Except.ok.inj h
    exact ⟨rfl, rfl⟩
  | cons next rest =>
    obtain ⟨-, last, -, rfl⟩ := AnsibleJob.transitionsTo_ok h (by simp)
    exact ⟨rfl, rfl⟩

namespace Service

/-- The job that the coordinator has under an id, as it was made. -/
def held (s : Service) (id : AnsibleJobId) : Option AnsibleJob :=
  (s.coordinator.jobs.get id).map base

/-- The job that is listed under an id, as it was made. -/
def stored (s : Service) (id : AnsibleJobId) : Option AnsibleJob := (s.findJob id).map base

theorem stored_memory {s : Service} (h : s.database = none) (id : AnsibleJobId) :
    s.stored id = s.held id := by
  simp only [stored, held, findJob, h]

theorem stored_database {s : Service} {db : JobDatabase} (h : s.database = some db)
    (id : AnsibleJobId) : s.stored id = (db.jobs.get id).map base := by
  simp only [stored, findJob, h]

/-- The listing has the jobs that are found by their ids. -/
theorem mem_jobList {s : Service} {job : AnsibleJob} :
    job ∈ s.jobList ↔ ∃ id, s.findJob id = some job := by
  unfold jobList findJob
  cases s.database with
  | some db => exact JobTable.mem_list
  | none => rw [List.mem_insertionSort, Table.mem_values]

/-- No listed job applies the plan. -/
theorem jobList_any_usesPlan {s : Service} {planId : AnsibleJobId} :
    s.jobList.any (usesPlan planId) = true ↔
      ∃ id job, s.stored id = some job ∧ usesPlan planId job = true := by
  simp only [List.any_eq_true, mem_jobList, stored, Option.map_eq_some_iff]
  constructor
  · rintro ⟨job, ⟨id, hfound⟩, huses⟩
    exact ⟨id, base job, ⟨job, hfound, rfl⟩, huses⟩
  · rintro ⟨id, job, ⟨found, hfound, rfl⟩, huses⟩
    exact ⟨found, ⟨id, hfound⟩, huses⟩

/-- A job in an answer is noted, and nothing else changes. -/
theorem accept_eq (s : Service) (call : Call) (job : AnsibleJob) :
    s.accept call job = { s with accepted := (s.accept call job).accepted } := by
  cases call <;> rfl

@[simp] theorem accept_held (s : Service) (call : Call) (job : AnsibleJob) :
    (s.accept call job).held = s.held := by
  cases call <;> rfl

@[simp] theorem accept_stored (s : Service) (call : Call) (job : AnsibleJob) :
    (s.accept call job).stored = s.stored := by
  cases call <;> rfl

@[simp] theorem accept_made (s : Service) (call : Call) (job : AnsibleJob) :
    (s.accept call job).made = s.made := by
  cases call <;> rfl

@[simp] theorem accept_coordinator (s : Service) (call : Call) (job : AnsibleJob) :
    (s.accept call job).coordinator = s.coordinator := by
  cases call <;> rfl

@[simp] theorem accept_database (s : Service) (call : Call) (job : AnsibleJob) :
    (s.accept call job).database = s.database := by
  cases call <;> rfl

@[simp] theorem accept_processes (s : Service) (call : Call) (job : AnsibleJob) :
    (s.accept call job).processes = s.processes := by
  cases call <;> rfl

@[simp] theorem accept_policyIds (s : Service) (call : Call) (job : AnsibleJob) :
    (s.accept call job).policyIds = s.policyIds := by
  cases call <;> rfl

@[simp] theorem accept_deletedTargets (s : Service) (call : Call) (job : AnsibleJob) :
    (s.accept call job).deletedTargets = s.deletedTargets := by
  cases call <;> rfl

theorem mem_accept {s : Service} {call : Call} {job : AnsibleJob}
    {entry : CreateAnsibleJobRequest × AnsibleJob} :
    entry ∈ (s.accept call job).accepted ↔
      entry ∈ s.accepted ∨ ∃ role, call = .create role entry.1 ∧ entry.2 = job := by
  cases call with
  | create role request =>
    simp only [accept, List.mem_append, List.mem_singleton, Call.create.injEq]
    constructor
    · rintro (h | rfl)
      · exact .inl h
      · exact .inr ⟨role, ⟨rfl, rfl⟩, rfl⟩
    · rintro (h | ⟨_, ⟨-, hrequest⟩, hjob⟩)
      · exact .inl h
      · exact .inr (Prod.ext hrequest.symm hjob)
  | reconcile role sourceId => simp [accept]
  | produce producer => simp [accept]

/-- A job is registered with the coordinator. -/
def registered (s : Service) (locks : Table ResourceTarget AnsibleJobId) (job : AnsibleJob)
    (now : Timestamp) : Service :=
  { s with coordinator := { s.coordinator with activeTargets := locks }.register job now }

/-- A job is made. -/
def withMade (s : Service) (locks : Table ResourceTarget AnsibleJobId) (call : Call)
    (job : AnsibleJob) (now : Timestamp) : Service :=
  ((s.registered locks job now).afterCreated call job).1

/-- A job is inserted into the database. -/
def withRow (s : Service) (db : JobDatabase) (jobs : JobTable) : Service :=
  { s with database := some { db with jobs := jobs } }

/-- A process is at a phase. -/
def withProcess (s : Service) (n : Nat) (p : Process) : Service :=
  { s with processes := s.processes.put n p }

/-- The INSERT of a job fails: the database refuses it or does not answer. -/
def insertFails (s : Service) (job : AnsibleJob) (fails : Bool) : Bool :=
  match s.database with
  | none => false
  | some db =>
    match JobTable.save db.targets db.jobs job with
    | .error _ => true
    | .ok _ => fails

end Service

/-- The phases in which a job is written to the database. -/
def Phase.written : Phase → Bool
  | .created _ | .saved _ | .appending .. => true
  | _ => false

/-! ### The looking up of jobs -/

/-- What a request comes to by looking up jobs: it is refused, or it goes on past the check. -/
inductive JobsRead (s : Service) (role : ActorRole) (request : CreateAnsibleJobRequest) :
    Phase → Phase → Prop
  | refused {phase : Phase} {error : ApiError} :
      JobsRead s role request phase (.answered (.error error))
  | planFound {resolved : ResolvedTarget} {policy : UpdatePolicy} {planId : AnsibleJobId}
      {plan : AnsibleJob} (found : s.findJob planId = some plan)
      (sound : planMatchesRequest plan request resolved.target policy.id = true) :
      JobsRead s role request (.planNamed resolved policy planId)
        (.planMatched resolved policy planId)
  | planUnused {resolved : ResolvedTarget} {policy : UpdatePolicy} {planId : AnsibleJobId}
      (unused : s.jobList.any (usesPlan planId) = false) :
      JobsRead s role request (.planMatched resolved policy planId)
        (s.validatedPhase role request resolved)
  /-- The key is in the database. -/
  | known {asked : AnsibleJobRequest} {db : JobDatabase} {job : AnsibleJob}
      (persistent : s.database = some db)
      (row : db.findByIdempotencyKey asked.target asked.idempotencyKey = some job) :
      JobsRead s role request (.validated asked) (.answered (.ok (200, job)))
  | inMemory {asked : AnsibleJobRequest} (inMemory : s.database = none) :
      JobsRead s role request (.validated asked) (.unblocked asked)
  | unknown {asked : AnsibleJobRequest} {db : JobDatabase} (persistent : s.database = some db)
      (row : db.findByIdempotencyKey asked.target asked.idempotencyKey = none) :
      JobsRead s role request (.validated asked) (.keyUnused asked)
  | idle {asked : AnsibleJobRequest} {db : JobDatabase} (persistent : s.database = some db)
      (idle : db.hasActiveTarget asked.target = false) :
      JobsRead s role request (.keyUnused asked) (.notActive asked)
  | unreconciled {asked : AnsibleJobRequest} {db : JobDatabase} (persistent : s.database = some db)
      (blocked : db.hasReconciliationRequiredTarget asked.target = true) :
      JobsRead s role request (.notActive asked) (.unresolved asked)
  | reconciled {asked : AnsibleJobRequest} {db : JobDatabase} (persistent : s.database = some db)
      (open_ : db.hasReconciliationRequiredTarget asked.target = false) :
      JobsRead s role request (.notActive asked) (.unblocked asked)
  | free {asked : AnsibleJobRequest}
      (free : findActiveTargetJob s.jobList asked.target none = none) :
      JobsRead s role request (.unblocked asked) (.free asked)

/-- **The looking up of jobs.** -/
theorem jobsRead_of_readJobs {s : Service} {role : ActorRole} {request : CreateAnsibleJobRequest}
    {phase phase' : Phase} (h : s.readJobs role request phase = some phase') :
    JobsRead s role request phase phase' := by
  cases phase with
  | planNamed resolved policy planId =>
    simp only [Service.readJobs] at h
    split at h
    case h_1 => exact Option.some.inj h ▸ .refused
    case h_2 plan hplan =>
      split at h
      case isTrue hmatches => exact Option.some.inj h ▸ .planFound hplan hmatches
      case isFalse => exact Option.some.inj h ▸ .refused
  | planMatched resolved policy planId =>
    simp only [Service.readJobs] at h
    split at h
    case isTrue => exact Option.some.inj h ▸ .refused
    case isFalse hunused =>
      exact Option.some.inj h ▸ .planUnused (Bool.eq_false_iff.mpr hunused)
  | validated asked =>
    simp only [Service.readJobs] at h
    split at h
    case h_1 hdb => exact Option.some.inj h ▸ .inMemory hdb
    case h_2 db hdb =>
      split at h
      case h_1 job hrow => exact Option.some.inj h ▸ .known hdb hrow
      case h_2 hrow => exact Option.some.inj h ▸ .unknown hdb hrow
  | keyUnused asked =>
    obtain ⟨db, hdb, h⟩ := Option.bind_eq_some_iff.mp h
    split at h
    case isTrue => exact Option.some.inj h ▸ .refused
    case isFalse hidle => exact Option.some.inj h ▸ .idle hdb (Bool.eq_false_iff.mpr hidle)
  | notActive asked =>
    obtain ⟨db, hdb, h⟩ := Option.bind_eq_some_iff.mp h
    split at h
    case isTrue hblocked => exact Option.some.inj h ▸ .unreconciled hdb hblocked
    case isFalse hopen => exact Option.some.inj h ▸ .reconciled hdb (Bool.eq_false_iff.mpr hopen)
  | unresolved asked =>
    simp only [Service.readJobs] at h
    split at h
    case h_1 => exact Option.some.inj h ▸ .refused
    case h_2 => exact Option.some.inj h ▸ .refused
  | unblocked asked =>
    simp only [Service.readJobs] at h
    split at h
    case h_1 => exact Option.some.inj h ▸ .refused
    case h_2 hfree => exact Option.some.inj h ▸ .free hfree
  | _ => cases h

/-! ### The next access of a call -/

/-- How a job that the coordinator makes came about. -/
inductive Origin (input : Input) : Phase → AnsibleJob → Prop
  | request {request : AnsibleJobRequest} (accepts : AnsibleJob.Accepts request) :
      Origin input (.free request) (.queuedFor request input.newId input.now)
  | source {source : AnsibleJob} :
      Origin input (.sourceFree source)
        (AnsibleJobCoordinator.reconciliationOf source input.newId input.now)

/-- Everything the next access of a call can do. -/
inductive Access (s : Service) (call : Call) (input : Input) : Phase → Service → Phase → Prop
  /-- Nothing is written, and no job is found. -/
  | read {phase phase' : Phase} (next : s.read call input.now phase = some phase')
      (open' : ∀ found, phase' ≠ .answered (.ok found)) : Access s call input phase s phase'
  /-- An error is answered. -/
  | refused {phase : Phase} {error : ApiError}
      (lost : ∀ job, phase = .created job → s.insertFails job input.fails = true) :
      Access s call input phase s (.answered (.error error))
  /-- The key of a request is found in the database. -/
  | found {role : ActorRole} {request : CreateAnsibleJobRequest} {asked : AnsibleJobRequest}
      {db : JobDatabase} {job : AnsibleJob} (isCreate : call = .create role request)
      (persistent : s.database = some db)
      (row : db.findByIdempotencyKey asked.target asked.idempotencyKey = some job) :
      Access s call input (.validated asked) (s.accept call job) (.answered (.ok (200, job)))
  /-- The key of a reconciliation is found in the database. -/
  | foundSource {role : ActorRole} {sourceId : AnsibleJobId} {source : AnsibleJob}
      {db : JobDatabase} {job : AnsibleJob} (isReconcile : call = .reconcile role sourceId)
      (persistent : s.database = some db)
      (row : db.findByIdempotencyKey source.target (reconcileIdempotencyKey sourceId) = some job) :
      Access s call input (.sourceLoaded source) s (.answered (.ok (200, job)))
  /-- The coordinator makes a job, under a key that it does not know. -/
  | made {phase : Phase} {job : AnsibleJob} {locks : Table ResourceTarget AnsibleJobId}
      (origin : Origin input phase job)
      (unused : s.coordinator.idempotency.get (job.target, job.idempotencyKey) = none)
      (locked : ∀ target id, locks.get target = some id →
        (target = job.target ∧ id = job.id) ∨ s.coordinator.activeTargets.get target = some id) :
      Access s call input phase (s.withMade locks call job input.now)
        ((s.registered locks job input.now).afterCreated call job).2
  /-- The coordinator knows the key of a request. -/
  | duplicate {asked : AnsibleJobRequest} {id : AnsibleJobId} {job : AnsibleJob}
      (entry : s.coordinator.idempotency.get (asked.target, asked.idempotencyKey) = some id)
      (known : s.coordinator.jobs.get id = some job) :
      Access s call input (.free asked) (s.accept call job) (.answered (.ok (200, job)))
  /-- The coordinator knows the key of a reconciliation. -/
  | duplicateSource {source : AnsibleJob} {id : AnsibleJobId} {job : AnsibleJob}
      (entry : s.coordinator.idempotency.get (source.target, reconcileIdempotencyKey source.id)
        = some id)
      (known : s.coordinator.jobs.get id = some job) :
      Access s call input (.sourceFree source) s
        (if s.database.isSome then .created job else .answered (.ok (200, job)))
  /-- A job is inserted into the database. -/
  | inserted {job : AnsibleJob} {db : JobDatabase} {jobs : JobTable} {phase' : Phase}
      (persistent : s.database = some db) (row : JobTable.save db.targets db.jobs job = .ok jobs)
      (next : phase' = .saved job ∨
        (phase' = .answered (.ok (202, job)) ∧ ∃ producer, call = .produce producer)) :
      Access s call input (.created job) ((s.withRow db jobs).accept call job) phase'
  /-- The events of a job are read. -/
  | listed {job known : AnsibleJob} (found : s.coordinator.jobs.get job.id = some known) :
      Access s call input (.saved job) s
        (Service.appendPhase job (s.coordinator.eventsOf job.id))
  /-- An event is inserted. -/
  | appended {job : AnsibleJob} {event : JobEvent} {events : List JobEvent}
      {db db' : JobDatabase} (persistent : s.database = some db)
      (row : db.appendEvent event = .ok db') :
      Access s call input (.appending job (event :: events)) { s with database := some db' }
        (Service.appendPhase job events)

namespace Service

/-- Readings of the store answer with errors only. -/
theorem readStore_open {s : Service} {role : ActorRole} {request : CreateAnsibleJobRequest}
    {now : Timestamp} {phase phase' : Phase}
    (h : s.readStore role request now phase = some phase') (found : Nat × AnsibleJob) :
    phase' ≠ .answered (.ok found) := by
  have hvalidated : ∀ resolved, s.validatedPhase role request resolved ≠ .answered (.ok found) := by
    intro resolved
    unfold validatedPhase
    split <;> simp
  unfold readStore at h
  split at h
  · split at h <;> (obtain rfl := Option.some.inj h; simp)
  · split at h <;> (obtain rfl := Option.some.inj h; simp)
  · split at h
    · obtain rfl := Option.some.inj h
      simp
    · obtain rfl := Option.some.inj h
      exact hvalidated _
    · obtain rfl := Option.some.inj h
      simp
  · split at h
    · split at h
      · obtain rfl := Option.some.inj h
        simp
      · obtain rfl := Option.some.inj h
        exact hvalidated _
      · obtain rfl := Option.some.inj h
        simp
    · cases h
  · cases h

/-- Of the readings of jobs only the lookup of the key answers with a job. -/
theorem readJobs_ok {s : Service} {role : ActorRole} {request : CreateAnsibleJobRequest}
    {phase : Phase} {status : Nat} {job : AnsibleJob}
    (h : s.readJobs role request phase = some (.answered (.ok (status, job)))) :
    ∃ asked db, phase = .validated asked ∧ s.database = some db ∧
      db.findByIdempotencyKey asked.target asked.idempotencyKey = some job ∧ status = 200 := by
  have hvalidated : ∀ resolved,
      s.validatedPhase role request resolved ≠ .answered (.ok (status, job)) := by
    intro resolved
    unfold validatedPhase
    split <;> simp
  cases phase with
  | planNamed resolved policy planId =>
    simp only [readJobs] at h
    split at h
    · simp at h
    · split at h <;> simp at h
  | planMatched resolved policy planId =>
    simp only [readJobs] at h
    split at h
    · simp at h
    · exact absurd (Option.some.inj h) (hvalidated _)
  | validated asked =>
    simp only [readJobs] at h
    split at h
    · simp at h
    · rename_i db hdb
      split at h
      · rename_i existing hexisting
        simp only [Option.some.injEq, Phase.answered.injEq, Except.ok.injEq, Prod.mk.injEq] at h
        obtain ⟨rfl, rfl⟩ := h
        exact ⟨asked, db, rfl, hdb, hexisting, rfl⟩
      · simp at h
  | keyUnused asked =>
    simp only [readJobs, Option.bind_eq_some_iff] at h
    obtain ⟨db, -, h⟩ := h
    split at h <;> simp at h
  | notActive asked =>
    simp only [readJobs, Option.bind_eq_some_iff] at h
    obtain ⟨db, -, h⟩ := h
    split at h <;> simp at h
  | unresolved asked =>
    simp only [readJobs] at h
    split at h <;> simp at h
  | unblocked asked =>
    simp only [readJobs] at h
    split at h <;> simp at h
  | _ => cases h

/-- Of the readings of a reconciliation only the lookup of the key answers with a job. -/
theorem readSource_ok {s : Service} {role : ActorRole} {sourceId : AnsibleJobId}
    {phase : Phase} {status : Nat} {job : AnsibleJob}
    (h : s.readSource role sourceId phase = some (.answered (.ok (status, job)))) :
    ∃ source db, phase = .sourceLoaded source ∧ s.database = some db ∧
      db.findByIdempotencyKey source.target (reconcileIdempotencyKey sourceId) = some job ∧
      status = 200 := by
  cases phase with
  | arrived =>
    simp only [readSource] at h
    split at h
    · simp at h
    · split at h
      · simp at h
      · split at h <;> simp at h
  | sourceLoaded source =>
    simp only [readSource] at h
    split at h
    · simp at h
    · rename_i db hdb
      split at h
      · rename_i existing hexisting
        simp only [Option.some.injEq, Phase.answered.injEq, Except.ok.injEq, Prod.mk.injEq] at h
        obtain ⟨rfl, rfl⟩ := h
        exact ⟨source, db, rfl, hdb, hexisting, rfl⟩
      · simp at h
  | sourceUnused source =>
    simp only [readSource] at h
    split at h <;> simp at h
  | _ => cases h

theorem validatedPhase_written (s : Service) (role : ActorRole)
    (request : CreateAnsibleJobRequest) (resolved : ResolvedTarget) :
    (s.validatedPhase role request resolved).written = false := by
  unfold validatedPhase
  split <;> rfl

private theorem readStore_written {s : Service} {role : ActorRole}
    {request : CreateAnsibleJobRequest} {now : Timestamp} {phase phase' : Phase}
    (h : s.readStore role request now phase = some phase') : phase'.written = false := by
  unfold readStore at h
  repeat' split at h
  all_goals first
    | (cases h; done)
    | (cases h; rfl)
    | (cases h; exact s.validatedPhase_written _ _ _)

private theorem readJobs_written {s : Service} {role : ActorRole}
    {request : CreateAnsibleJobRequest} {phase phase' : Phase}
    (h : s.readJobs role request phase = some phase') : phase'.written = false := by
  have hbind : ∀ {p : JobDatabase → Bool} {yes no : Phase}, yes.written = false →
      no.written = false →
      (s.database.bind fun db => if p db then some yes else some no) = some phase' →
      phase'.written = false := by
    intro p yes no hyes hno h
    obtain ⟨db, -, h⟩ := Option.bind_eq_some_iff.mp h
    split at h
    · exact Option.some.inj h ▸ hyes
    · exact Option.some.inj h ▸ hno
  unfold readJobs at h
  repeat' split at h
  all_goals first
    | exact hbind rfl rfl h
    | (cases h; done)
    | (cases h; rfl)
    | (cases h; exact s.validatedPhase_written _ _ _)

private theorem readSource_written {s : Service} {role : ActorRole} {sourceId : AnsibleJobId}
    {phase phase' : Phase} (h : s.readSource role sourceId phase = some phase') :
    phase'.written = false := by
  unfold readSource at h
  repeat' split at h
  all_goals first
    | (cases h; done)
    | (cases h; rfl)

/-- Nothing is written before the submission. -/
theorem read_written {s : Service} {call : Call} {now : Timestamp} {phase phase' : Phase}
    (h : s.read call now phase = some phase') : phase'.written = false := by
  cases call with
  | create role request =>
    simp only [read] at h
    split at h
    · exact readStore_written h
    · exact readJobs_written h
  | reconcile role sourceId => exact readSource_written h
  | produce producer =>
    simp only [read] at h
    split at h
    · obtain ⟨asked, -, rfl⟩ := Option.map_eq_some_iff.mp h
      rfl
    · cases h

/-- Once a job is made, a call reads nothing before it writes. -/
theorem read_of_written {s : Service} {call : Call} {now : Timestamp} {phase : Phase}
    (h : phase.written = true) : s.read call now phase = none := by
  cases phase with
  | created job => cases call <;> rfl
  | saved job => cases call <;> rfl
  | appending job events => cases call <;> rfl
  | _ => cases h

theorem answer_open {s : Service} {call : Call} {phase : Phase}
    (h : ∀ found, phase ≠ .answered (.ok found)) : s.answer call phase = (s, phase) := by
  unfold answer
  split
  · exact absurd rfl (h _)
  · rfl

/-- The next access of a call that is not yet at its submission. -/
private theorem access_of_read {s : Service} {call : Call} {input : Input} {phase phase' : Phase}
    (h : s.read call input.now phase = some phase') :
    Access s call input phase (s.answer call phase').1 (s.answer call phase').2 := by
  by_cases hopen : ∀ found, phase' ≠ .answered (.ok found)
  · rw [answer_open hopen]
    exact .read h hopen
  · push Not at hopen
    obtain ⟨⟨status, job⟩, rfl⟩ := hopen
    change Access s call input phase (s.accept call job) (.answered (.ok (status, job)))
    cases call with
    | create role request =>
      simp only [read] at h
      split at h
      · exact absurd rfl (readStore_open h (status, job))
      · obtain ⟨asked, db, rfl, hdb, hrow, rfl⟩ := readJobs_ok h
        exact .found rfl hdb hrow
    | reconcile role sourceId =>
      obtain ⟨source, db, rfl, hdb, hrow, rfl⟩ := readSource_ok h
      exact .foundSource rfl hdb hrow
    | produce producer =>
      simp only [read] at h
      split at h
      · simp at h
      · cases h

private theorem access_of_submit {s : Service} {call : Call} {input : Input}
    {request : AnsibleJobRequest} :
    Access s call input (.free request) (s.submit call request input).1
      (s.submit call request input).2 := by
  unfold submit AnsibleJobCoordinator.submit
  dsimp only
  cases hentry : s.coordinator.idempotency.get (request.target, request.idempotencyKey) with
  | some id =>
    dsimp only
    cases hknown : s.coordinator.jobs.get id with
    | some job => exact .duplicate hentry hknown
    | none => exact .refused (fun _ h => by cases h)
  | none =>
    dsimp only
    cases hjob : AnsibleJob.fromRequest request input.newId input.now with
    | error e => exact .refused (fun _ h => by cases h)
    | ok job =>
      obtain ⟨haccepts, rfl⟩ := AnsibleJob.fromRequest_ok.mp hjob
      exact @Access.made s call input _ _ s.coordinator.activeTargets (.request haccepts) hentry
        fun _ _ hlock => .inr hlock

private theorem access_of_submitSource {s : Service} {call : Call} {input : Input}
    {source : AnsibleJob} :
    Access s call input (.sourceFree source) (s.submitSource call source input).1
      (s.submitSource call source input).2 := by
  unfold submitSource AnsibleJobCoordinator.submitReconciliationWithLock
  dsimp only
  by_cases hsource : source.canBeReconciled = true
  · simp only [hsource, Bool.not_true, Bool.false_eq_true, if_false]
    cases hentry : s.coordinator.idempotency.get
        (source.target, reconcileIdempotencyKey source.id) with
    | some id =>
      dsimp only
      cases hknown : s.coordinator.jobs.get id with
      | some job => exact .duplicateSource hentry hknown
      | none => exact .refused (fun _ h => by cases h)
    | none =>
      dsimp only
      by_cases hlock : (s.database.isNone &&
          s.coordinator.lockedByOther source.target source.id) = true
      · simp only [if_pos hlock]
        exact .refused (fun _ h => by cases h)
      · simp only [if_neg hlock]
        refine @Access.made s call input _
          (AnsibleJobCoordinator.reconciliationOf source input.newId input.now)
          (s.coordinator.activeTargets.put source.target input.newId) .source hentry ?_
        intro target id hlock
        exact (Table.get_put_cases hlock).imp_right (·.2)
  · simp only [hsource, Bool.not_false, if_true]
    exact .refused (fun _ h => by cases h)

private theorem access_of_persist {s s' : Service} {call : Call} {input : Input}
    {phase phase' : Phase} (h : s.persist call input.fails phase = some (s', phase')) :
    Access s call input phase s' phase' := by
  cases phase with
  | created job =>
    simp only [persist, Option.map_eq_some_iff] at h
    obtain ⟨db, hdb, h⟩ := h
    split at h
    · rename_i e he
      obtain ⟨rfl, rfl⟩ := Prod.mk.inj h
      refine .refused fun other hother => ?_
      obtain rfl := Phase.created.inj hother
      simp only [insertFails, hdb, he]
    · rename_i jobs hjobs
      split at h
      · rename_i hfails
        obtain ⟨rfl, rfl⟩ := Prod.mk.inj h
        refine .refused fun other hother => ?_
        obtain rfl := Phase.created.inj hother
        simp only [insertFails, hdb, hjobs, hfails]
      · split at h
        · obtain ⟨rfl, rfl⟩ := Prod.mk.inj h
          exact .inserted hdb hjobs (.inr ⟨rfl, _, rfl⟩)
        · obtain ⟨rfl, rfl⟩ := Prod.mk.inj h
          exact .inserted hdb hjobs (.inl rfl)
  | saved job =>
    simp only [persist] at h
    split at h
    · obtain ⟨rfl, rfl⟩ := Prod.mk.inj (Option.some.inj h)
      exact .refused (fun _ h => by cases h)
    · rename_i known hknown
      obtain ⟨rfl, rfl⟩ := Prod.mk.inj (Option.some.inj h)
      exact .listed hknown
  | appending job events =>
    cases events with
    | nil => cases h
    | cons event events =>
      simp only [persist, Option.map_eq_some_iff] at h
      obtain ⟨db, hdb, h⟩ := h
      split at h
      · obtain ⟨rfl, rfl⟩ := Prod.mk.inj h
        exact .refused (fun _ h => by cases h)
      · rename_i db' happend
        split at h
        · obtain ⟨rfl, rfl⟩ := Prod.mk.inj h
          exact .refused (fun _ h => by cases h)
        · obtain ⟨rfl, rfl⟩ := Prod.mk.inj h
          exact .appended hdb happend
  | _ => cases h

/-- **Everything the next access of a call can do.** -/
theorem access_of_next {s s' : Service} {call : Call} {input : Input} {phase phase' : Phase}
    (h : s.next call input phase = some (s', phase')) : Access s call input phase s' phase' := by
  have hread : ∀ {phase}, (∀ job, phase ≠ .created job) →
      (if s.readFails call phase input.fails then some (s, .answered (.error .storage))
        else (s.read call input.now phase).map (s.answer call)) = some (s', phase') →
      Access s call input phase s' phase' := by
    intro phase hphase h
    split at h
    · obtain ⟨rfl, rfl⟩ := Prod.mk.inj (Option.some.inj h)
      exact .refused fun job hjob => absurd hjob (hphase job)
    · obtain ⟨phase'', hphase'', h⟩ := Option.map_eq_some_iff.mp h
      have haccess := access_of_read hphase''
      rw [h] at haccess
      exact haccess
  cases phase with
  | free request =>
    have haccess := @access_of_submit s call input request
    rw [Option.some.inj h] at haccess
    exact haccess
  | sourceFree source =>
    have haccess := @access_of_submitSource s call input source
    rw [Option.some.inj h] at haccess
    exact haccess
  | created job => exact access_of_persist h
  | saved job => exact access_of_persist h
  | appending job events => exact access_of_persist h
  | answered answer => cases h
  | arrived => exact hread (by simp) h
  | resolved resolved => exact hread (by simp) h
  | windowsChecked resolved => exact hread (by simp) h
  | policyLoaded resolved policy => exact hread (by simp) h
  | planNamed resolved policy planId => exact hread (by simp) h
  | planMatched resolved policy planId => exact hread (by simp) h
  | validated asked => exact hread (by simp) h
  | keyUnused asked => exact hread (by simp) h
  | notActive asked => exact hread (by simp) h
  | unresolved asked => exact hread (by simp) h
  | unblocked asked => exact hread (by simp) h
  | sourceLoaded source => exact hread (by simp) h
  | sourceUnused source => exact hread (by simp) h

/-! ### What each step comes to -/

theorem arrive_some {s s' : Service} {n : Nat} {call : Call} (h : s.arrive n call = some s') :
    s.processes.get n = none ∧ s' = s.withProcess n ⟨call, .arrived, []⟩ := by
  unfold arrive at h
  split at h
  · cases h
  case isFalse hunused => exact ⟨by simpa using hunused, (Option.some.inj h).symm⟩

theorem advance_some {s s' : Service} {n : Nat} {input : Input} (h : s.advance n input = some s') :
    ∃ p s'' phase, s.processes.get n = some p ∧ s.made.get input.newId = none ∧
      s.next p.call input p.phase = some (s'', phase) ∧
      s' = s''.withProcess n { p with phase := phase, reads := p.readsAfter s.store } := by
  unfold advance at h
  split at h
  · cases h
  · rename_i p hp
    split at h
    · cases h
    case isFalse hfresh =>
      obtain ⟨⟨s'', phase⟩, hnext, rfl⟩ := Option.map_eq_some_iff.mp h
      exact ⟨p, s'', phase, hp, by simpa using hfresh, hnext, rfl⟩

theorem coordinate_some {s s' : Service} {op : CoordinatorOp} (h : s.coordinate op = some s') :
    s.database = none ∧ isProgress op = true ∧
      s' = { s with coordinator := op.run s.coordinator } := by
  unfold coordinate at h
  split at h
  case isTrue hguard =>
    simp only [Bool.and_eq_true, Option.isNone_iff_eq_none] at hguard
    exact ⟨hguard.1, hguard.2, (Option.some.inj h).symm⟩
  case isFalse => cases h

theorem progress_some {s s' : Service} {id : AnsibleJobId} {path : List AnsibleJobStatus}
    {now : Timestamp} (h : s.progress id path now = some s') :
    ∃ db, s.database = some db ∧ ∃ job, db.jobs.get id = some job ∧
      ∃ job', job.transitionsTo path now = .ok job' ∧
        ∃ jobs, db.jobs.update job' = .ok jobs ∧ s' = s.withRow db jobs := by
  simp only [progress, Option.bind_eq_bind, Option.bind_eq_some_iff, toOption_eq_some, pure,
    Option.some.injEq] at h
  obtain ⟨db, hdb, job, hjob, job', hpath, jobs, hupdate, rfl⟩ := h
  exact ⟨db, hdb, job, hjob, job', hpath, jobs, hupdate, rfl⟩

/-- The id of a target that is put does not come from a deleted one. -/
theorem putTarget_some {s s' : Service} {target : Target} (h : s.putTarget target = some s') :
    target.id ∉ s.deletedTargets ∧ s' = { s with
      store := { s.store with
        targets := s.store.targets.filter (fun other => other.id ≠ target.id) ++ [target] }
      database := s.database.map fun db =>
        { db with targets := db.targets.put target.id target } } := by
  unfold putTarget at h
  split at h
  · cases h
  case isFalse hnew => exact ⟨hnew, (Option.some.inj h).symm⟩

theorem createUpdatePolicy_some {s s' : Service} {request : CreateUpdatePolicyRequest}
    (h : s.createUpdatePolicy request = some s') :
    s' = { s with
      store := { s.store with updatePolicies := s.store.updatePolicies ++ [request.policy] }
      policyIds := s.policyIds ++ [request.id] } := by
  unfold createUpdatePolicy at h
  split at h
  · cases h
  · split at h
    · cases h
    · exact (Option.some.inj h).symm

/-- A target is only deleted while the coordinator has nothing under way for it. -/
theorem deleteTarget_some {s s' : Service} {id : TargetId} (h : s.deleteTarget id = some s') :
    s.coordinator.targetHasActiveJobs id = false ∧ s' = s.withoutTarget id := by
  unfold deleteTarget at h
  split at h
  · cases h
  case isFalse hblocked =>
    simp only [deletionBlocked, Bool.or_eq_true, not_or, Bool.not_eq_true] at hblocked
    exact ⟨hblocked.1.1, (Option.some.inj h).symm⟩

end Service

/-! ### The steps of the system -/

/-- The history only grows. -/
structure Extends (s s' : Service) : Prop where
  made : ∀ id entry, s.made.get id = some entry → s'.made.get id = some entry
  accepted : s.accepted ⊆ s'.accepted
  policyIds : s.policyIds ⊆ s'.policyIds
  deletedTargets : s.deletedTargets ⊆ s'.deletedTargets

/-- Processes and jobs stay as they are, but for the progress of jobs. -/
structure Quiet (s s' : Service) : Prop where
  processes : s'.processes = s.processes
  made : s'.made = s.made
  accepted : s'.accepted = s.accepted
  deletedTargets : s'.deletedTargets = s.deletedTargets
  policyIds : s.policyIds ⊆ s'.policyIds
  configured : s'.configured = s.configured
  persistent : s'.database.isSome = s.database.isSome
  held : s'.held = s.held
  stored : s'.stored = s.stored
  idempotency : s'.coordinator.idempotency = s.coordinator.idempotency
  wellKept : WellKept s.coordinator → WellKept s'.coordinator
  labelled : Labelled s.coordinator → Labelled s'.coordinator

/-- Everything a step of the system can do. -/
inductive Change (s : Service) : ServiceAction → Service → Prop
  | arrive {n : Nat} {call : Call} (unused : s.processes.get n = none) :
      Change s (.arrive n call) (s.withProcess n ⟨call, .arrived, []⟩)
  | advance {n : Nat} {input : Input} {p : Process} {s' : Service} {phase : Phase}
      (found : s.processes.get n = some p) (fresh : s.made.get input.newId = none)
      (access : Access s p.call input p.phase s' phase) :
      Change s (.advance n input)
        (s'.withProcess n { p with phase := phase, reads := p.readsAfter s.store })
  | quiet {action : ServiceAction} {s' : Service} (other : ∀ n input, action ≠ .advance n input)
      (h : Quiet s s') : Change s action s'
  | delete {id : TargetId} (idle : s.coordinator.targetHasActiveJobs id = false) :
      Change s (.deleteTarget id) (s.withoutTarget id)

/-- A job that makes progress keeps its base, and the index stays. -/
private theorem progress_run {c : AnsibleJobCoordinator} {op : CoordinatorOp}
    (h : Service.isProgress op = true) :
    (∀ id, ((op.run c).jobs.get id).map base = (c.jobs.get id).map base) ∧
      (op.run c).idempotency = c.idempotency := by
  have hchange := op.change_run c
  generalize op.run c = c' at hchange ⊢
  cases hchange with
  | keep => exact ⟨fun _ => rfl, rfl⟩
  | record found => exact ⟨fun _ => rfl, rfl⟩
  | queue unused accepts => cases h
  | reconcile call reconcilable unused =>
    rcases call with ⟨rfl, -⟩ | rfl
    · cases h
    · cases h
  | @move _ id next now job call found edge free =>
    refine ⟨fun id' => ?_, AnsibleJobCoordinator.moved_idempotency ..⟩
    rw [AnsibleJobCoordinator.get_moved]
    split
    case isTrue heq =>
      rw [heq, found]
      rfl
    case isFalse => rfl
  | remove idle => cases h

private theorem admissible_of_isProgress {c : AnsibleJobCoordinator} {op : CoordinatorOp}
    (h : Service.isProgress op = true) : Admissible c op := by
  cases op with
  | recordEvent id event now => exact Option.isNone_iff_eq_none.mp h
  | transition id next now => exact trivial
  | retry id now => exact trivial
  | submit request newId now => cases h
  | submitReconciliation source newId now => cases h
  | submitPersistedReconciliation source newId now => cases h
  | removeTargetJobs targetId => cases h

private theorem quiet_of_coordinate {s s' : Service} {op : CoordinatorOp}
    (h : s.coordinate op = some s') : Quiet s s' := by
  obtain ⟨hmemory, hprogress, rfl⟩ := Service.coordinate_some h
  have hrun := progress_run (c := s.coordinator) hprogress
  have hheld : Service.held { s with coordinator := op.run s.coordinator } = s.held :=
    funext hrun.1
  exact {
    processes := rfl
    made := rfl
    accepted := rfl
    deletedTargets := rfl
    policyIds := fun _ h => h
    configured := rfl
    persistent := rfl
    held := hheld
    stored := by
      funext id
      have hmemory' : Service.database { s with coordinator := op.run s.coordinator } = none :=
        hmemory
      rw [Service.stored_memory hmemory, Service.stored_memory hmemory', hheld]
    idempotency := hrun.2
    wellKept := fun hkept => hkept.run op (admissible_of_isProgress hprogress)
    labelled := fun hlabelled => hlabelled.run op }

private theorem quiet_of_progress {s s' : Service} {id : AnsibleJobId}
    {path : List AnsibleJobStatus} {now : Timestamp} (h : s.progress id path now = some s') :
    Quiet s s' := by
  obtain ⟨db, hdb, job, hjob, job', hpath, jobs, hupdate, rfl⟩ := Service.progress_some h
  obtain ⟨hbase, hid⟩ := base_of_transitionsTo hpath
  have hstored : (s.withRow db jobs).stored = s.stored := by
    funext id'
    rw [Service.stored_database hdb]
    change (jobs.get id').map base = _
    rcases JobTable.update_ok hupdate with ⟨-, rfl⟩ | ⟨-, -, rfl⟩
    · rfl
    · rw [JobTable.get_put]
      split
      case isTrue heq =>
        have hsame : id' = id := by
          rw [heq, hid]
          exact JobTable.get_id hjob
        rw [hsame, hjob, Option.map_some, Option.map_some, hbase]
      case isFalse => rfl
  exact {
    processes := rfl
    made := rfl
    accepted := rfl
    deletedTargets := rfl
    policyIds := fun _ h => h
    configured := rfl
    persistent := by simp [Service.withRow, hdb]
    held := rfl
    stored := hstored
    idempotency := rfl
    wellKept := fun hkept => hkept
    labelled := fun hlabelled => hlabelled }

/-- A step that changes nothing but the store, the targets and the policies. -/
private theorem quiet_of_store {s : Service} {store : WorkflowStore} {policyIds : List String}
    (targets : JobDatabase → Table TargetId Target) (h : s.policyIds ⊆ policyIds) :
    Quiet s { s with
      store := store
      policyIds := policyIds
      database := s.database.map fun db => { db with targets := targets db } } where
  processes := rfl
  made := rfl
  accepted := rfl
  deletedTargets := rfl
  policyIds := h
  configured := rfl
  persistent := by simp
  held := rfl
  stored := by
    funext id
    simp only [Service.stored, Service.findJob]
    cases s.database <;> rfl
  idempotency := rfl
  wellKept hkept := hkept
  labelled hlabelled := hlabelled

private theorem quiet_of_store_only {s : Service} {store : WorkflowStore}
    {policyIds : List String} (h : s.policyIds ⊆ policyIds) :
    Quiet s { s with store := store, policyIds := policyIds } := by
  have hquiet := @quiet_of_store s store policyIds (fun db => db.targets) h
  have hsame : (s.database.map fun db => { db with targets := db.targets }) = s.database := by
    cases s.database <;> rfl
  rw [hsame] at hquiet
  exact hquiet

/-- **Everything a step of the system can do.** -/
theorem step_cases {s s' : Service} {action : ServiceAction} (h : s.step action = some s') :
    Change s action s' := by
  cases action with
  | arrive n call =>
    obtain ⟨hunused, rfl⟩ := Service.arrive_some h
    exact .arrive hunused
  | advance n input =>
    obtain ⟨p, s'', phase, hp, hfresh, hnext, rfl⟩ := Service.advance_some h
    exact .advance hp hfresh (Service.access_of_next hnext)
  | coordinate op => exact .quiet (by simp) (quiet_of_coordinate h)
  | progress id path now => exact .quiet (by simp) (quiet_of_progress h)
  | putTarget target =>
    obtain ⟨-, rfl⟩ := Service.putTarget_some h
    exact .quiet (by simp) (quiet_of_store _ fun _ h => h)
  | putContainer id state =>
    obtain rfl := Option.some.inj h
    exact .quiet (by simp) (quiet_of_store_only fun _ h => h)
  | createUpdatePolicy request =>
    obtain rfl := Service.createUpdatePolicy_some h
    exact .quiet (by simp) (quiet_of_store_only (List.subset_append_left _ _))
  | ensureDefaultUpdatePolicy =>
    obtain rfl := Option.some.inj h
    exact .quiet (by simp) (quiet_of_store_only (List.subset_append_left _ _))
  | deleteUpdatePolicy id =>
    obtain rfl := Option.some.inj h
    exact .quiet (by simp) (quiet_of_store_only fun _ h => h)
  | deleteTarget id =>
    obtain ⟨hidle, rfl⟩ := Service.deleteTarget_some h
    exact .delete hidle

/-! ### What steps leave alone -/

/-- What no access of a call touches. -/
structure SameFrame (s s' : Service) : Prop where
  store : s'.store = s.store
  configured : s'.configured = s.configured
  processes : s'.processes = s.processes
  policyIds : s'.policyIds = s.policyIds
  deletedTargets : s'.deletedTargets = s.deletedTargets
  targets : s'.database.map JobDatabase.targets = s.database.map JobDatabase.targets

theorem SameFrame.refl (s : Service) : SameFrame s s := ⟨rfl, rfl, rfl, rfl, rfl, rfl⟩

theorem SameFrame.accept {s s' : Service} (h : SameFrame s s') (call : Call) (job : AnsibleJob) :
    SameFrame s (s'.accept call job) := by
  rw [Service.accept_eq]
  exact ⟨h.store, h.configured, h.processes, h.policyIds, h.deletedTargets, h.targets⟩

/-- The job that is made is noted, and accepted without a database. -/
theorem Service.afterCreated_cases (s : Service) (call : Call) (job : AnsibleJob) :
    (s.database.isSome = true ∧ (s.afterCreated call job).1
        = { s with made := s.made.put job.id (call, job) } ∧
      (s.afterCreated call job).2 = .created job) ∨
    (s.database = none ∧ (s.afterCreated call job).1
        = Service.accept { s with made := s.made.put job.id (call, job) } call job ∧
      (s.afterCreated call job).2 = .answered (.ok (202, job))) := by
  unfold Service.afterCreated
  cases hdb : s.database with
  | none => exact .inr ⟨rfl, rfl, rfl⟩
  | some db => exact .inl ⟨rfl, rfl, rfl⟩

theorem Access.frame {s s' : Service} {call : Call} {input : Input} {phase phase' : Phase}
    (h : Access s call input phase s' phase') : SameFrame s s' := by
  cases h with
  | read next open' => exact .refl s
  | refused lost => exact .refl s
  | found isCreate persistent row => exact (SameFrame.refl s).accept call _
  | foundSource isReconcile persistent row => exact .refl s
  | @made _ job locks origin unused locked =>
    have hmade : SameFrame s
        { s.registered locks job input.now with
          made := (s.registered locks job input.now).made.put job.id (call, job) } :=
      ⟨rfl, rfl, rfl, rfl, rfl, rfl⟩
    rcases (s.registered locks job input.now).afterCreated_cases call job with
      ⟨-, heq, -⟩ | ⟨-, heq, -⟩
    · rw [Service.withMade, heq]
      exact hmade
    · rw [Service.withMade, heq]
      exact hmade.accept call job
  | duplicate entry known => exact (SameFrame.refl s).accept call _
  | duplicateSource entry known => exact .refl s
  | @inserted job db jobs _ persistent row next =>
    refine SameFrame.accept ?_ call job
    exact ⟨rfl, rfl, rfl, rfl, rfl, by simp [Service.withRow, persistent]⟩
  | listed found => exact .refl s
  | @appended job event events db db' persistent row =>
    refine ⟨rfl, rfl, rfl, rfl, rfl, ?_⟩
    unfold JobDatabase.appendEvent at row
    dsimp only at row
    split at row
    · cases row
    · obtain rfl := Except.ok.inj row
      simp [persistent]

/-- A job that is made is the only news of the coordinator. -/
theorem Origin.job {input : Input} {phase : Phase} {job : AnsibleJob}
    (h : Origin input phase job) :
    job.id = input.newId ∧ base job = job ∧ job.status = .queued := by
  cases h with
  | request accepts => exact ⟨rfl, rfl, rfl⟩
  | source => exact ⟨rfl, rfl, rfl⟩

theorem Extends.refl (s : Service) : Extends s s :=
  ⟨fun _ _ h => h, fun _ h => h, fun _ h => h, fun _ h => h⟩

theorem Extends.accept {s s' : Service} (h : Extends s s') (call : Call) (job : AnsibleJob) :
    Extends s (s'.accept call job) where
  made id entry hentry := by
    rw [Service.accept_made]
    exact h.made id entry hentry
  accepted entry hentry := Service.mem_accept.mpr (.inl (h.accepted hentry))
  policyIds := by
    rw [Service.accept_policyIds]
    exact h.policyIds
  deletedTargets := by
    rw [Service.accept_deletedTargets]
    exact h.deletedTargets

theorem Access.extends {s s' : Service} {call : Call} {input : Input} {phase phase' : Phase}
    (h : Access s call input phase s' phase') (hfresh : s.made.get input.newId = none) :
    Extends s s' := by
  cases h with
  | read next open' => exact .refl s
  | refused lost => exact .refl s
  | found isCreate persistent row => exact (Extends.refl s).accept call _
  | foundSource isReconcile persistent row => exact .refl s
  | @made _ job locks origin unused locked =>
    have hmade : Extends s
        { s.registered locks job input.now with
          made := (s.registered locks job input.now).made.put job.id (call, job) } := by
      refine ⟨fun id entry hentry => ?_, fun _ h => h, fun _ h => h, fun _ h => h⟩
      have hne : id ≠ job.id := by
        rintro rfl
        rw [origin.job.1, hfresh] at hentry
        cases hentry
      change (s.made.put job.id (call, job)).get id = some entry
      rw [Table.get_put_ne _ _ hne]
      exact hentry
    rcases (s.registered locks job input.now).afterCreated_cases call job with
      ⟨-, heq, -⟩ | ⟨-, heq, -⟩
    · rw [Service.withMade, heq]
      exact hmade
    · rw [Service.withMade, heq]
      exact hmade.accept call job
  | duplicate entry known => exact (Extends.refl s).accept call _
  | duplicateSource entry known => exact .refl s
  | inserted persistent row next =>
    refine Extends.accept ?_ call _
    exact ⟨fun _ _ h => h, fun _ h => h, fun _ h => h, fun _ h => h⟩
  | listed found => exact .refl s
  | appended persistent row => exact ⟨fun _ _ h => h, fun _ h => h, fun _ h => h, fun _ h => h⟩

/-- **The history only grows.** -/
theorem Change.extends {s s' : Service} {action : ServiceAction} (h : Change s action s') :
    Extends s s' := by
  cases h with
  | arrive unused => exact ⟨fun _ _ h => h, fun _ h => h, fun _ h => h, fun _ h => h⟩
  | advance found fresh access =>
    have hextends := access.extends fresh
    exact ⟨hextends.made, hextends.accepted, hextends.policyIds, hextends.deletedTargets⟩
  | quiet other h =>
    refine ⟨fun id entry hentry => ?_, ?_, h.policyIds, ?_⟩
    · rw [h.made]
      exact hentry
    · rw [h.accepted]
      exact fun _ h => h
    · rw [h.deletedTargets]
      exact fun _ h => h
  | delete idle =>
    exact ⟨fun _ _ h => h, fun _ h => h, fun _ h => h, List.subset_append_left _ _⟩

/-- A service keeps its mode. -/
theorem Change.persistent {s s' : Service} {action : ServiceAction} (h : Change s action s') :
    s'.database.isSome = s.database.isSome := by
  cases h with
  | arrive unused => rfl
  | advance found fresh access =>
    have htargets := congrArg Option.isSome access.frame.targets
    rw [Option.isSome_map, Option.isSome_map] at htargets
    exact htargets
  | quiet other h => exact h.persistent
  | delete idle => exact Option.isSome_map

/-! ### The jobs after a step -/

namespace Service

section Created

variable (s : Service) (locks : Table ResourceTarget AnsibleJobId) (call : Call) (job : AnsibleJob)
  (now : Timestamp)

theorem withMade_made :
    (s.withMade locks call job now).made = s.made.put job.id (call, job) := by
  rcases (s.registered locks job now).afterCreated_cases call job with ⟨-, heq, -⟩ | ⟨-, heq, -⟩
  · rw [withMade, heq]
    rfl
  · rw [withMade, heq, accept_made]
    rfl

theorem withMade_coordinator : (s.withMade locks call job now).coordinator
    = { s.coordinator with activeTargets := locks }.register job now := by
  rcases (s.registered locks job now).afterCreated_cases call job with ⟨-, heq, -⟩ | ⟨-, heq, -⟩
  · rw [withMade, heq]
    rfl
  · rw [withMade, heq, accept_coordinator]
    rfl

theorem withMade_database : (s.withMade locks call job now).database = s.database := by
  rcases (s.registered locks job now).afterCreated_cases call job with ⟨-, heq, -⟩ | ⟨-, heq, -⟩
  · rw [withMade, heq]
    rfl
  · rw [withMade, heq, accept_database]
    rfl

theorem withMade_held (id : AnsibleJobId) : (s.withMade locks call job now).held id
    = if id = job.id then some (base job) else s.held id := by
  simp only [held, withMade_coordinator, AnsibleJobCoordinator.register,
    AnsibleJobCoordinator.recordInternal, Table.get_put]
  split <;> rfl

/-- With a database a job that is made is not listed yet. -/
theorem withMade_stored (id : AnsibleJobId) : (s.withMade locks call job now).stored id
    = if s.database.isSome then s.stored id else if id = job.id then some (base job)
      else s.stored id := by
  cases hdb : s.database with
  | none =>
    rw [stored_memory hdb, stored_memory (s.withMade_database locks call job now ▸ hdb),
      withMade_held]
    rfl
  | some db =>
    rw [stored_database hdb, stored_database (s.withMade_database locks call job now ▸ hdb)]
    rfl

theorem mem_withMade_accepted {entry : CreateAnsibleJobRequest × AnsibleJob} :
    entry ∈ (s.withMade locks call job now).accepted ↔ entry ∈ s.accepted ∨
      (s.database = none ∧ ∃ role, call = .create role entry.1 ∧ entry.2 = job) := by
  rcases (s.registered locks job now).afterCreated_cases call job with ⟨hdb, heq, -⟩ | ⟨hdb, heq, -⟩
  · have hne : s.database ≠ none := by
      intro hnone
      change s.database.isSome = true at hdb
      rw [hnone] at hdb
      cases hdb
    rw [withMade, heq]
    simp only [hne, false_and, or_false]
    rfl
  · have hnone : s.database = none := hdb
    rw [withMade, heq, mem_accept]
    simp only [hnone, true_and]
    rfl

end Created

theorem withRow_stored {s : Service} {db : JobDatabase} {jobs : JobTable} {job : AnsibleJob}
    (hdb : s.database = some db) (hsave : JobTable.save db.targets db.jobs job = .ok jobs)
    (id : AnsibleJobId) :
    (s.withRow db jobs).stored id = if id = job.id then some (base job) else s.stored id := by
  obtain ⟨-, -, rfl⟩ := JobTable.save_ok hsave
  have hdb' : (s.withRow db (db.jobs.put job)).database
      = some { db with jobs := db.jobs.put job } := rfl
  rw [stored_database hdb, stored_database hdb']
  change ((db.jobs.put job).get id).map base = _
  rw [JobTable.get_put]
  split <;> rfl

/-- An event leaves the jobs alone. -/
theorem appendEvent_stored {s : Service} {db db' : JobDatabase} {event : JobEvent}
    (hdb : s.database = some db) (happend : db.appendEvent event = .ok db') :
    stored { s with database := some db' } = s.stored ∧ (db.jobs.get event.jobId).isSome = true := by
  unfold JobDatabase.appendEvent at happend
  dsimp only at happend
  split at happend
  · cases happend
  · rename_i hfree
    obtain rfl := Except.ok.inj happend
    simp only [Bool.or_eq_true, not_or, Bool.not_eq_true, Option.isNone_eq_false_iff] at hfree
    refine ⟨?_, hfree.1⟩
    funext id
    rw [stored_database hdb]
    rfl

theorem withoutTarget_held {s : Service} {targetId : TargetId} (hkept : WellKept s.coordinator)
    {id : AnsibleJobId} {job : AnsibleJob} :
    (s.withoutTarget targetId).held id = some job ↔
      s.held id = some job ∧ job.target ≠ .target targetId := by
  simp only [held, Option.map_eq_some_iff]
  change (∃ found, (s.coordinator.withoutJobsOf targetId).jobs.get id = some found ∧ _) ↔ _
  simp only [get_withoutJobsOf hkept]
  constructor
  · rintro ⟨found, ⟨hfound, htarget⟩, rfl⟩
    exact ⟨⟨found, hfound, rfl⟩, htarget⟩
  · rintro ⟨⟨found, hfound, rfl⟩, htarget⟩
    exact ⟨found, ⟨hfound, htarget⟩, rfl⟩

theorem withoutTarget_stored {s : Service} {targetId : TargetId} (hkept : WellKept s.coordinator)
    {id : AnsibleJobId} {job : AnsibleJob} :
    (s.withoutTarget targetId).stored id = some job ↔
      s.stored id = some job ∧ job.target ≠ .target targetId := by
  cases hdb : s.database with
  | none =>
    have hdb' : (s.withoutTarget targetId).database = none := by simp [withoutTarget, hdb]
    rw [stored_memory hdb, stored_memory hdb']
    exact withoutTarget_held hkept
  | some db =>
    have hdb' : (s.withoutTarget targetId).database = some (db.withoutTarget targetId) := by
      simp [withoutTarget, hdb]
    rw [stored_database hdb, stored_database hdb']
    simp only [JobDatabase.withoutTarget, JobTable.get_retain, Option.map_eq_some_iff,
      Option.filter_eq_some_iff, decide_eq_true_eq]
    constructor
    · rintro ⟨found, ⟨hfound, htarget⟩, rfl⟩
      exact ⟨⟨found, hfound, rfl⟩, htarget⟩
    · rintro ⟨⟨found, hfound, rfl⟩, htarget⟩
      exact ⟨found, ⟨hfound, htarget⟩, rfl⟩

end Service

end Lxcup.Submission
