import Lxcup.Lib.Outcome
import Lxcup.Submission.Service

/-!
# The follow-ups of a deployment

After an agent was deployed, the controller queues a health check of the target, and an inventory
once the check has succeeded.  Every tick of `reconcile_onboarding_jobs` and every poll of
`get_enrollment` derives from the listed jobs what is due, under keys that are made from the key of
the deployment.

A tick, a poll, and any other request that submits a job are rounds.  One step of the machine is
one access of a round to the store, the coordinator or the database, or one step of the rest of the
system: jobs come and make progress, targets change, the server starts anew.  Targets with their
jobs are not deleted here.

Two lists are never read by a step: the calls that have come to their end for a managed target
without a failing database, and the calls that have submitted an inventory.

## Main definitions

* `Followup`, `reconciledFollowups`, `polledFollowup` — deployments with the keys that are derived.
* `followupDecision` — `ensure_deployment_followups`, from the listed jobs on.
* `Round`, `Controller`, `Controller.advance` — the rounds, and one access of a round.
* `ControllerAction`, `controllerMachine`.

## Main results

* `start_some`, `progress_some`, `insert_some` and the others — when a step can be taken.
* `Kept`, `kept_of_reach` — the indexes of coordinator and database.
* `grows_of_tables` — no job goes, and one that has succeeded stays so.
-/

namespace Lxcup.Onboarding

open Lxcup.Lib Lxcup.Core Lxcup.Ansible Lxcup.Persistence Lxcup.Server Lxcup.Submission

/-! ### Deployments and their keys -/

/-- A deployment with the keys of its follow-ups. -/
structure Followup where
  deployment : AnsibleJob
  healthKey : String
  inventoryKey : String
  /-- The key of the health check is not blank. -/
  keyed : trim healthKey.toList ≠ []

/-- A key that begins with a letter is not blank. -/
theorem trim_prefix_ne_nil {pre : String} {c : Char} (hmem : c ∈ pre.toList)
    (hc : isWhitespace c = false) (rest : String) : trim (pre ++ rest).toList ≠ [] := by
  rw [String.toList_append]
  exact trim_ne_nil (List.mem_append_left _ hmem) hc

theorem trim_followupKeys {key : String} {keys : String × String}
    (h : followupKeys key = some keys) : trim keys.1.toList ≠ [] := by
  unfold followupKeys at h
  split at h
  · obtain rfl := Option.some.inj h
    exact trim_prefix_ne_nil (c := 'e') (by decide) (by decide) _
  · split at h
    · obtain rfl := Option.some.inj h
      exact trim_prefix_ne_nil (c := 'o') (by decide) (by decide) _
    · obtain ⟨id, -, rfl⟩ := Option.map_eq_some_iff.mp h
      exact trim_prefix_ne_nil (c := 'a') (by decide) (by decide) _

/-- The follow-ups of a deployment whose key is recognised. -/
def Followup.ofDeployment (deployment : AnsibleJob) : Option Followup :=
  match h : followupKeys deployment.idempotencyKey with
  | some keys => some ⟨deployment, keys.1, keys.2, trim_followupKeys h⟩
  | none => none

/-- The deployments that a tick goes through. -/
def reconciledFollowups (jobs : List AnsibleJob) : List Followup :=
  (jobs.filter fun job => job.operation = .deployAgent && job.status = .succeeded).filterMap
    Followup.ofDeployment

/-- The deployment that a poll of an enrollment finds by its key. -/
def polledFollowup (jobs : List AnsibleJob) (enrollmentId : EnrollmentId) : Option Followup :=
  let id := idText enrollmentId.uuid
  (jobs.find? fun job => job.idempotencyKey = "enrollment-" ++ id).map fun job =>
    { deployment := job
      healthKey := "enrollment-health-" ++ id
      inventoryKey := "enrollment-packages-" ++ id
      keyed := trim_prefix_ne_nil (c := 'e') (by decide) (by decide) _ }

/-- What is due for a deployment. -/
inductive Decision
  | submitHealth
  | wait
  | submitInventory
  deriving DecidableEq, Repr

/-- `ensure_deployment_followups` from the listed jobs on. -/
def followupDecision (jobs : List AnsibleJob) (followup : Followup) : Decision :=
  -- the jobs of all targets are searched
  match jobs.find? fun job => job.idempotencyKey = followup.healthKey with
  | none => .submitHealth
  | some health =>
    if health.status ≠ .succeeded then .wait
    else if jobs.any fun job => job.idempotencyKey = followup.inventoryKey then .wait
    else .submitInventory

/-! ### Rounds -/

/-- How far a round has come with its first follow-up, by the access that is next. -/
inductive RoundPhase
  /-- The target is read. -/
  | next
  /-- The jobs are listed. -/
  | located (target : Target)
  /-- The health check is submitted. -/
  | health (target : Target)
  /-- The inventory is submitted. -/
  | inventory (target : Target)
  /-- The job is inserted into the database. -/
  | created (job : AnsibleJob)
  /-- The events of the job are read from the coordinator. -/
  | saved (job : AnsibleJob)
  /-- The events are inserted one by one. -/
  | appending (events : List JobEvent)
  deriving DecidableEq, Repr

/-- A tick or a poll with the follow-ups that are left, or another request with none. -/
structure Round where
  followups : List Followup
  phase : RoundPhase

/-- What the rounds share, and the rounds. -/
structure Controller where
  store : WorkflowStore
  coordinator : AnsibleJobCoordinator
  /-- The database, in persistent mode. -/
  database : Option JobDatabase
  rounds : Table Nat Round
  /-- The calls that ended for a managed target while the database did not fail. -/
  completed : List Followup
  /-- The calls that have submitted an inventory. -/
  inventoried : List Followup

namespace Controller

/-- The job of an id, from the database or the coordinator. -/
def findJob (s : Controller) (id : AnsibleJobId) : Option AnsibleJob :=
  match s.database with
  | some db => db.jobs.get id
  | none => s.coordinator.jobs.get id

/-- The jobs as they are listed. -/
def jobList (s : Controller) : List AnsibleJob :=
  match s.database with
  | some db => db.jobs.list
  | none => s.coordinator.jobs.values.insertionSort fun a b => b.createdAt ≤ a.createdAt

/-- A job has the id. -/
def used (s : Controller) (id : AnsibleJobId) : Bool :=
  (s.coordinator.jobs.get id).isSome || (s.findJob id).isSome

def withRound (s : Controller) (n : Nat) (round : Round) : Controller :=
  { s with rounds := s.rounds.put n round }

/-- The call for the first follow-up is over. -/
def endCall (s : Controller) (n : Nat) (round : Round) (completed : Bool) : Controller :=
  match round.followups with
  | [] => s.withRound n ⟨[], .next⟩
  | followup :: rest =>
    { s with completed := if completed then followup :: s.completed else s.completed }.withRound n
      ⟨rest, .next⟩

/-- `AnsibleJobCoordinator::submit`; a new job is saved next, and a refused one only logged. -/
def submit (s : Controller) (n : Nat) (round : Round) (request : AnsibleJobRequest)
    (input : Input) : Controller :=
  match s.coordinator.submit request input.newId input.now with
  | .error _ => s.endCall n round true
  | .ok (.duplicate _, coordinator) =>
    { s with coordinator := coordinator }.endCall n round true
  | .ok (.created job, coordinator) =>
    let s := { s with coordinator := coordinator }
    if s.database.isSome then s.withRound n { round with phase := .created job }
    else s.endCall n round true

/-- `persist_created_job`, one access after the other. -/
def persist (s : Controller) (n : Nat) (round : Round) (fails : Bool) : Option Controller :=
  match round.phase with
  | .created job => s.database.map fun db =>
    match JobTable.save db.targets db.jobs job with
    | .error _ => s.endCall n round false
    | .ok jobs =>
      if fails then s.endCall n round false
      else { s with database := some { db with jobs := jobs } }.withRound n
        { round with phase := .saved job }
  | .saved job =>
    match s.coordinator.jobs.get job.id with
    | none => some (s.endCall n round true)
    | some _ => some (s.withRound n
        { round with phase := .appending (s.coordinator.eventsOf job.id) })
  | .appending [] => some (s.endCall n round true)
  | .appending (event :: events) => s.database.map fun db =>
    match db.appendEvent event with
    | .error _ => s.endCall n round false
    | .ok db =>
      if fails then s.endCall n round false
      else { s with database := some db }.withRound n { round with phase := .appending events }
  | _ => none

/-- The next access of a call of `ensure_deployment_followups` up to its submission. -/
def follow (s : Controller) (n : Nat) (round : Round) (followup : Followup) (input : Input) :
    Option Controller :=
  match round.phase with
  | .next =>
    if followup.deployment.status ≠ .succeeded then some (s.endCall n round false)
    else
      match s.store.managedTarget followup.deployment.target with
      | none => some (s.endCall n round false)
      | some target => some (s.withRound n { round with phase := .located target })
  | .located target =>
    if s.database.isSome && input.fails then some (s.endCall n round false)
    else
      match followupDecision s.jobList followup with
      | .submitHealth => some (s.withRound n { round with phase := .health target })
      | .wait => some (s.endCall n round true)
      | .submitInventory => some (s.withRound n { round with phase := .inventory target })
  | .health target => some (s.submit n round (healthRequest target followup.healthKey) input)
  | .inventory target =>
    some ({ s with inventoried := followup :: s.inventoried }.submit n round
      (inventoryRequest target followup.inventoryKey) input)
  | _ => none

/-- One access of a round.  The id it gets has never been used. -/
def advance (s : Controller) (n : Nat) (input : Input) : Option Controller :=
  match s.rounds.get n with
  | none => none
  | some round =>
    if s.used input.newId then none
    else
      match round.phase, round.followups with
      | .created _, _ | .saved _, _ | .appending _, _ => s.persist n round input.fails
      | _, followup :: _ => s.follow n round followup input
      | _, [] => none

/-! ### The rest of the system -/

/-- A round begins, unless the listing of the jobs fails. -/
def start (s : Controller) (n : Nat) (followups : List Followup) : Option Controller :=
  if (s.rounds.get n).isSome then none else some (s.withRound n ⟨followups, .next⟩)

/-- A request of somebody else is submitted. -/
def request (s : Controller) (n : Nat) (request : AnsibleJobRequest) (input : Input) :
    Option Controller :=
  if (s.rounds.get n).isSome || s.used input.newId then none
  else some (s.submit n ⟨[], .next⟩ request input)

/-- Another call of the coordinator, that removes nothing. -/
def coordinate (s : Controller) (op : CoordinatorOp) : Option Controller :=
  match op with
  | .removeTargetJobs _ => none
  | op =>
    if Admissible s.coordinator op then some { s with coordinator := op.run s.coordinator }
    else none

/-- A job makes progress in the database. -/
def progress (s : Controller) (id : AnsibleJobId) (next : AnsibleJobStatus) (now : Timestamp) :
    Option Controller := do
  let db ← s.database
  let job ← db.jobs.get id
  let job' ← (job.transitionTo next now).toOption
  let jobs ← (db.jobs.update job').toOption
  return { s with database := some { db with jobs := jobs } }

/-- Another job is inserted into the database, such as a reconciliation. -/
def insert (s : Controller) (job : AnsibleJob) : Option Controller := do
  let db ← s.database
  let jobs ← (JobTable.save db.targets db.jobs job).toOption
  if s.used job.id then none else return { s with database := some { db with jobs := jobs } }

/-- Targets change, in the store and in the database. -/
def changeTargets (s : Controller) (store : WorkflowStore) (targets : Table TargetId Target) :
    Controller :=
  { s with
    store := store
    database := s.database.map fun db => { db with targets := targets } }

/-- The server starts anew with the jobs in its database. -/
def restart (s : Controller) : Option Controller :=
  if s.database.isSome then some { s with coordinator := .default, rounds := ∅ } else none

end Controller

/-! ### Runs -/

/-- The steps of the system. -/
inductive ControllerAction
  | tick (n : Nat)
  | poll (n : Nat) (enrollmentId : EnrollmentId)
  | advance (n : Nat) (input : Input)
  | request (n : Nat) (request : AnsibleJobRequest) (input : Input)
  | coordinate (op : CoordinatorOp)
  | progress (id : AnsibleJobId) (next : AnsibleJobStatus) (now : Timestamp)
  | insert (job : AnsibleJob)
  | changeTargets (store : WorkflowStore) (targets : Table TargetId Target)
  | restart

/-- One step of the system. -/
def Controller.step (s : Controller) : ControllerAction → Option Controller
  | .tick n => s.start n (reconciledFollowups s.jobList)
  | .poll n enrollmentId => s.start n (polledFollowup s.jobList enrollmentId).toList
  | .advance n input => s.advance n input
  | .request n request input => s.request n request input
  | .coordinate op => s.coordinate op
  | .progress id next now => s.progress id next now
  | .insert job => s.insert job
  | .changeTargets store targets => some (s.changeTargets store targets)
  | .restart => s.restart

/-- No target has two rows with one key, as the table requires. -/
def KeysUnique (jobs : JobTable) : Prop :=
  ∀ id job id' job', jobs.get id = some job → jobs.get id' = some job' →
    job.target = job'.target → job.idempotencyKey = job'.idempotencyKey → id = id'

/-- The runs of a server that has just started, without a database or with any jobs in it. -/
def controllerMachine : Machine Controller ControllerAction where
  init s := s.coordinator = .default ∧ s.rounds = ∅ ∧ s.completed = [] ∧ s.inventoried = [] ∧
    ∀ db ∈ s.database, KeysUnique db.jobs
  step := Controller.step

/-! ### What each step comes to -/

namespace Controller

theorem start_some {s s' : Controller} {n : Nat} {followups : List Followup}
    (h : s.start n followups = some s') :
    s.rounds.get n = none ∧ s' = s.withRound n ⟨followups, .next⟩ := by
  unfold start at h
  split at h
  · cases h
  case isFalse hunused => exact ⟨by simpa using hunused, (Option.some.inj h).symm⟩

theorem request_some {s s' : Controller} {n : Nat} {job : AnsibleJobRequest} {input : Input}
    (h : s.request n job input = some s') :
    s.rounds.get n = none ∧ s.used input.newId = false ∧ s' = s.submit n ⟨[], .next⟩ job input := by
  unfold request at h
  split at h
  · cases h
  case isFalse hnew =>
    simp only [Bool.or_eq_true, not_or, Bool.not_eq_true, Option.isSome_eq_false_iff,
      Option.isNone_iff_eq_none] at hnew
    exact ⟨hnew.1, hnew.2, (Option.some.inj h).symm⟩

theorem coordinate_some {s s' : Controller} {op : CoordinatorOp}
    (h : s.coordinate op = some s') :
    (∀ id, op ≠ .removeTargetJobs id) ∧ Admissible s.coordinator op ∧
      s' = { s with coordinator := op.run s.coordinator } := by
  unfold coordinate at h
  split at h
  · cases h
  · rename_i hkeeps
    split at h
    case isTrue hadmissible => exact ⟨hkeeps, hadmissible, (Option.some.inj h).symm⟩
    case isFalse => cases h

theorem progress_some {s s' : Controller} {id : AnsibleJobId} {next : AnsibleJobStatus}
    {now : Timestamp} (h : s.progress id next now = some s') :
    ∃ db, s.database = some db ∧ ∃ job, db.jobs.get id = some job ∧
      ∃ job', job.transitionTo next now = .ok job' ∧ ∃ jobs, db.jobs.update job' = .ok jobs ∧
        s' = { s with database := some { db with jobs := jobs } } := by
  simp only [progress, Option.bind_eq_bind, Option.bind_eq_some_iff, toOption_eq_some, pure,
    Option.some.injEq] at h
  obtain ⟨db, hdb, job, hjob, job', hmoved, jobs, hupdate, rfl⟩ := h
  exact ⟨db, hdb, job, hjob, job', hmoved, jobs, hupdate, rfl⟩

theorem insert_some {s s' : Controller} {job : AnsibleJob} (h : s.insert job = some s') :
    ∃ db, s.database = some db ∧ ∃ jobs, JobTable.save db.targets db.jobs job = .ok jobs ∧
      s.used job.id = false ∧ s' = { s with database := some { db with jobs := jobs } } := by
  simp only [insert, Option.bind_eq_bind, Option.bind_eq_some_iff, toOption_eq_some] at h
  obtain ⟨db, hdb, jobs, hsave, h⟩ := h
  split at h
  · cases h
  case isFalse hnew =>
    exact ⟨db, hdb, jobs, hsave, by simpa using hnew, (Option.some.inj h).symm⟩

theorem restart_some {s s' : Controller} (h : s.restart = some s') :
    s.database.isSome = true ∧ s' = { s with coordinator := .default, rounds := ∅ } := by
  unfold restart at h
  split at h
  case isTrue hpersistent => exact ⟨hpersistent, (Option.some.inj h).symm⟩
  case isFalse => cases h

end Controller

/-! ### What the steps do to the jobs -/

section Jobs

variable {s s' : Controller} {n : Nat} {round : Round} {input : Input}

namespace Controller

@[simp] theorem withRound_coordinator (s : Controller) (n : Nat) (round : Round) :
    (s.withRound n round).coordinator = s.coordinator := rfl

@[simp] theorem withRound_database (s : Controller) (n : Nat) (round : Round) :
    (s.withRound n round).database = s.database := rfl

@[simp] theorem endCall_coordinator (s : Controller) (n : Nat) (round : Round)
    (completed : Bool) : (s.endCall n round completed).coordinator = s.coordinator := by
  unfold endCall
  split <;> rfl

@[simp] theorem endCall_database (s : Controller) (n : Nat) (round : Round)
    (completed : Bool) : (s.endCall n round completed).database = s.database := by
  unfold endCall
  split <;> rfl

theorem submit_database (s : Controller) (n : Nat) (round : Round) (request : AnsibleJobRequest)
    (input : Input) : (s.submit n round request input).database = s.database := by
  unfold submit
  split
  · simp
  · simp
  · dsimp only
    split <;> simp

theorem submit_coordinator (s : Controller) (n : Nat) (round : Round)
    (request : AnsibleJobRequest) (input : Input) :
    (s.submit n round request input).coordinator =
      (CoordinatorOp.submit request input.newId input.now).run s.coordinator := by
  unfold submit CoordinatorOp.run CoordinatorOp.call
  cases hsubmit : s.coordinator.submit request input.newId input.now with
  | error error => simp [Except.map, hsubmit]
  | ok result =>
    obtain ⟨_ | _, coordinator⟩ := result
    · dsimp only [Except.map]
      split <;> simp [hsubmit]
    · simp [Except.map, hsubmit]

end Controller

/-- What one step does to the coordinator and to the rows of the database. -/
inductive Tables (s s' : Controller) : Prop
  | quiet (hcoordinator : s'.coordinator = s.coordinator)
      (hjobs : s'.database.map (·.jobs) = s.database.map (·.jobs))
  | call {op : CoordinatorOp} (hkeeps : ∀ id, op ≠ .removeTargetJobs id)
      (hadmissible : Admissible s.coordinator op)
      (hcoordinator : s'.coordinator = op.run s.coordinator) (hdatabase : s'.database = s.database)
  | save {db : JobDatabase} {job : AnsibleJob} {jobs : JobTable} (hdb : s.database = some db)
      (hsave : JobTable.save db.targets db.jobs job = .ok jobs)
      (hcoordinator : s'.coordinator = s.coordinator)
      (hdatabase : s'.database = some { db with jobs := jobs })
  | move {db : JobDatabase} {job job' : AnsibleJob} {id : AnsibleJobId} {next : AnsibleJobStatus}
      {now : Timestamp} {jobs : JobTable} (hdb : s.database = some db)
      (hjob : db.jobs.get id = some job) (hmoved : job.transitionTo next now = .ok job')
      (hupdate : db.jobs.update job' = .ok jobs) (hcoordinator : s'.coordinator = s.coordinator)
      (hdatabase : s'.database = some { db with jobs := jobs })
  | restart (hpersistent : s.database.isSome = true) (hcoordinator : s'.coordinator = .default)
      (hdatabase : s'.database = s.database)

/-- Ending a call, or going on with it, leaves the jobs alone. -/
theorem Tables.endCall (s : Controller) (n : Nat) (round : Round) (completed : Bool) :
    Tables s (s.endCall n round completed) :=
  .quiet (by simp) (by simp)

theorem Tables.withRound (s : Controller) (n : Nat) (round : Round) :
    Tables s (s.withRound n round) :=
  .quiet rfl rfl

theorem Tables.submit {t : Controller} {request : AnsibleJobRequest}
    (hcoordinator : t.coordinator = s.coordinator) (hdatabase : t.database = s.database)
    (hnew : s.used input.newId = false) : Tables s (t.submit n round request input) := by
  simp only [Controller.used, Bool.or_eq_false_iff, Option.isSome_eq_false_iff,
    Option.isNone_iff_eq_none] at hnew
  have hadmissible : Admissible s.coordinator (.submit request input.newId input.now) := hnew.1
  have hrun := t.submit_coordinator n round request input
  rw [hcoordinator] at hrun
  exact .call (by simp) hadmissible hrun ((t.submit_database ..).trans hdatabase)

/-- Events are no jobs. -/
theorem jobs_of_appendEvent {db db' : JobDatabase} {event : JobEvent}
    (h : db.appendEvent event = .ok db') : db'.jobs = db.jobs := by
  unfold JobDatabase.appendEvent at h
  dsimp only at h
  split at h
  · cases h
  · obtain rfl := Except.ok.inj h
    rfl

theorem tables_of_persist {fails : Bool} (h : s.persist n round fails = some s') :
    Tables s s' := by
  unfold Controller.persist at h
  split at h
  · rename_i job _
    obtain ⟨db, hdb, rfl⟩ := Option.map_eq_some_iff.mp h
    split
    · exact .endCall ..
    · rename_i jobs hsave
      split
      · exact .endCall ..
      · exact .save hdb hsave rfl rfl
  · -- the job is looked for in the coordinator again, for its events
    split at h
    · obtain rfl := Option.some.inj h
      exact .endCall ..
    · obtain rfl := Option.some.inj h
      exact .withRound ..
  · obtain rfl := Option.some.inj h
    exact .endCall ..
  · rename_i event events _
    obtain ⟨db, hdb, rfl⟩ := Option.map_eq_some_iff.mp h
    split
    · exact .endCall ..
    · rename_i db' happend
      split
      · exact .endCall ..
      · -- an event is not a job
        exact .quiet rfl (by simp [hdb, jobs_of_appendEvent happend])
  · cases h

theorem tables_of_follow {followup : Followup} (hnew : s.used input.newId = false)
    (h : s.follow n round followup input = some s') : Tables s s' := by
  unfold Controller.follow at h
  split at h
  · split at h
    · obtain rfl := Option.some.inj h
      exact .endCall ..
    · split at h <;> obtain rfl := Option.some.inj h
      · exact .endCall ..
      · exact .withRound ..
  · split at h
    · obtain rfl := Option.some.inj h
      exact .endCall ..
    · split at h <;> obtain rfl := Option.some.inj h
      · exact .withRound ..
      · exact .endCall ..
      · exact .withRound ..
  · obtain rfl := Option.some.inj h
    exact .submit rfl rfl hnew
  · obtain rfl := Option.some.inj h
    exact .submit rfl rfl hnew
  · cases h

theorem tables_of_advance (h : s.advance n input = some s') : Tables s s' := by
  unfold Controller.advance at h
  split at h
  · cases h
  split at h
  · cases h
  rename_i hnew
  have hfresh : s.used input.newId = false := by simpa using hnew
  split at h
  · exact tables_of_persist h
  · exact tables_of_persist h
  · exact tables_of_persist h
  · exact tables_of_follow hfresh h
  · cases h

/-- **What a step does to the jobs.** -/
theorem tables_of_step {a : ControllerAction} (h : s.step a = some s') : Tables s s' := by
  cases a with
  | tick n =>
    obtain ⟨-, rfl⟩ := Controller.start_some h
    exact .withRound ..
  | poll n enrollmentId =>
    obtain ⟨-, rfl⟩ := Controller.start_some h
    exact .withRound ..
  | advance n input => exact tables_of_advance h
  | request n request input =>
    obtain ⟨-, hnew, rfl⟩ := Controller.request_some h
    exact .submit rfl rfl hnew
  | coordinate op =>
    obtain ⟨hkeeps, hadmissible, rfl⟩ := Controller.coordinate_some h
    exact .call hkeeps hadmissible rfl rfl
  | progress id next now =>
    obtain ⟨db, hdb, job, hjob, job', hmoved, jobs, hupdate, rfl⟩ := Controller.progress_some h
    exact .move hdb hjob hmoved hupdate rfl rfl
  | insert job =>
    obtain ⟨db, hdb, jobs, hsave, -, rfl⟩ := Controller.insert_some h
    exact .save hdb hsave rfl rfl
  | changeTargets store targets =>
    obtain rfl := Option.some.inj h
    refine .quiet rfl ?_
    simp only [Controller.changeTargets, Option.map_map]
    rfl
  | restart =>
    obtain ⟨hpersistent, rfl⟩ := Controller.restart_some h
    exact .restart hpersistent rfl rfl

/-- The index of the coordinator and the keys of the table. -/
structure Kept (s : Controller) : Prop where
  wellKept : WellKept s.coordinator
  unique : ∀ db ∈ s.database, KeysUnique db.jobs

/-- A job that is inserted has a key that no job of its target has. -/
theorem KeysUnique.save {targets : Table TargetId Target} {jobs jobs' : JobTable}
    {job : AnsibleJob} (h : KeysUnique jobs) (hsave : JobTable.save targets jobs job = .ok jobs') :
    KeysUnique jobs' := by
  obtain ⟨hfree, -, rfl⟩ := JobTable.save_ok hsave
  have hkey := JobTable.keyFree_of_save hsave
  intro id job₁ id' job₂ hjob₁ hjob₂ htarget hsame
  rw [JobTable.get_put] at hjob₁ hjob₂
  split at hjob₁
  · split at hjob₂
    · simp_all
    · -- the unique index refuses a second row with the key
      obtain rfl := Option.some.inj hjob₁
      exact absurd ⟨htarget.symm, hsame.symm⟩ (hkey id' job₂ hjob₂)
  · split at hjob₂
    · obtain rfl := Option.some.inj hjob₂
      exact absurd ⟨htarget, hsame⟩ (hkey id job₁ hjob₁)
    · exact h id job₁ id' job₂ hjob₁ hjob₂ htarget hsame

/-- A job that makes progress keeps its key. -/
theorem KeysUnique.move {jobs jobs' : JobTable} {id : AnsibleJobId} {job job' : AnsibleJob}
    {next : AnsibleJobStatus} {now : Timestamp} (h : KeysUnique jobs)
    (hjob : jobs.get id = some job) (hmoved : job.transitionTo next now = .ok job')
    (hupdate : jobs.update job' = .ok jobs') : KeysUnique jobs' := by
  obtain ⟨-, rfl⟩ := AnsibleJob.transitionTo_ok.mp hmoved
  obtain rfl := JobTable.get_id hjob
  rcases JobTable.update_ok hupdate with ⟨-, rfl⟩ | ⟨-, -, rfl⟩
  · exact h
  -- every row is one of the rows before, but for its status
  have hbefore : ∀ {id row},
      (jobs.put { job with status := next, updatedAt := now }).get id = some row →
      ∃ row', jobs.get id = some row' ∧ row.target = row'.target ∧
        row.idempotencyKey = row'.idempotencyKey := by
    intro id row hrow
    rw [JobTable.get_put] at hrow
    split at hrow
    · rename_i hid
      obtain rfl := Option.some.inj hrow
      exact ⟨job, by rw [hid]; exact hjob, rfl, rfl⟩
    · exact ⟨row, hrow, rfl, rfl⟩
  intro id₁ row₁ id₂ row₂ hrow₁ hrow₂ htarget hkey
  obtain ⟨row₁', hrow₁', htarget₁, hkey₁⟩ := hbefore hrow₁
  obtain ⟨row₂', hrow₂', htarget₂, hkey₂⟩ := hbefore hrow₂
  exact h id₁ row₁' id₂ row₂' hrow₁' hrow₂' (by rw [← htarget₁, htarget, htarget₂])
    (by rw [← hkey₁, hkey, hkey₂])

theorem Kept.tables (h : Kept s) (ht : Tables s s') : Kept s' := by
  cases ht with
  | quiet hcoordinator hjobs =>
    refine ⟨hcoordinator ▸ h.wellKept, fun db' hdb' => ?_⟩
    rw [Option.mem_def.mp hdb', Option.map_some] at hjobs
    obtain ⟨db, hdb, hsame⟩ := Option.map_eq_some_iff.mp hjobs.symm
    rw [← hsame]
    exact h.unique db hdb
  | call hkeeps hadmissible hcoordinator hdatabase =>
    exact ⟨hcoordinator ▸ h.wellKept.run _ hadmissible, hdatabase ▸ h.unique⟩
  | save hdb hsave hcoordinator hdatabase =>
    refine ⟨hcoordinator ▸ h.wellKept, ?_⟩
    rw [hdatabase]
    rintro _ ⟨⟩
    exact (h.unique _ hdb).save hsave
  | move hdb hjob hmoved hupdate hcoordinator hdatabase =>
    refine ⟨hcoordinator ▸ h.wellKept, ?_⟩
    rw [hdatabase]
    rintro _ ⟨⟩
    exact (h.unique _ hdb).move hjob hmoved hupdate
  | restart hpersistent hcoordinator hdatabase =>
    exact ⟨hcoordinator ▸ wellKept_default, hdatabase ▸ h.unique⟩

/-- The indexes hold in every run. -/
theorem kept_of_reach {ok : Controller → ControllerAction → Prop}
    (h : controllerMachine.Reach ok s) : Kept s := by
  induction h with
  | init hinit => exact ⟨hinit.1 ▸ wellKept_default, hinit.2.2.2.2⟩
  | step _ _ hs ih => exact ih.tables (tables_of_step hs)

/-- The job is still the same, and has still succeeded if it has before. -/
structure Lasts (job job' : AnsibleJob) : Prop where
  target : job'.target = job.target
  key : job'.idempotencyKey = job.idempotencyKey
  operation : job'.operation = job.operation
  succeeded : job.status = .succeeded → job'.status = .succeeded

theorem Lasts.refl (job : AnsibleJob) : Lasts job job := ⟨rfl, rfl, rfl, id⟩

/-- A job that has succeeded makes no more progress. -/
theorem Lasts.move {job : AnsibleJob} {next : AnsibleJobStatus} (now : Timestamp)
    (hedge : job.status.canTransitionTo next = true) :
    Lasts job { job with status := next, updatedAt := now } := by
  refine ⟨rfl, rfl, rfl, fun hsucceeded => ?_⟩
  rw [hsucceeded] at hedge
  cases next <;> cases hedge

/-- No job goes. -/
def Grows (s s' : Controller) : Prop :=
  ∀ id job, s.findJob id = some job → ∃ job', s'.findJob id = some job' ∧ Lasts job job'

/-- A call of the coordinator that removes nothing. -/
theorem lasts_of_run {c : AnsibleJobCoordinator} {op : CoordinatorOp}
    (hkeeps : ∀ id, op ≠ .removeTargetJobs id) (hadmissible : Admissible c op) {id : AnsibleJobId}
    {job : AnsibleJob} (hjob : c.jobs.get id = some job) :
    ∃ job', (op.run c).jobs.get id = some job' ∧ Lasts job job' := by
  have hchange := op.change_run c
  generalize op.run c = c' at hchange ⊢
  cases hchange with
  | keep => exact ⟨job, hjob, .refl job⟩
  | record found => exact ⟨job, hjob, .refl job⟩
  | @queue request newId now unused accepts =>
    have hnew : c.jobs.get newId = none := hadmissible
    have hne : id ≠ newId := by
      rintro rfl
      rw [hjob] at hnew
      cases hnew
    exact ⟨job, (Table.get_put_ne _ _ hne).trans hjob, .refl job⟩
  | @reconcile _ source newId now call reconcilable unused =>
    have hnew : c.jobs.get newId = none := by
      rcases call with ⟨rfl, -⟩ | rfl
      · exact hadmissible
      · exact hadmissible
    have hne : id ≠ newId := by
      rintro rfl
      rw [hjob] at hnew
      cases hnew
    exact ⟨job, (Table.get_put_ne _ _ hne).trans hjob, .refl job⟩
  | @move _ moved next now found call hfound edge free =>
    rw [AnsibleJobCoordinator.get_moved]
    split
    · -- the job itself makes the step
      rename_i hid
      obtain rfl := Option.some.inj (hjob.symm.trans (hid ▸ hfound))
      exact ⟨_, rfl, .move now edge⟩
    · exact ⟨job, hjob, .refl job⟩
  | remove idle => exact absurd rfl (hkeeps _)

theorem grows_of_tables (ht : Tables s s') : Grows s s' := by
  intro id job hjob
  unfold Controller.findJob at hjob ⊢
  cases ht with
  | quiet hcoordinator hjobs =>
    refine ⟨job, ?_, .refl job⟩
    cases hdb : s.database with
    | none =>
      rw [hdb, Option.map_none, Option.map_eq_none_iff] at hjobs
      rw [hdb] at hjob
      rw [hjobs, hcoordinator]
      exact hjob
    | some db =>
      rw [hdb, Option.map_some] at hjobs
      obtain ⟨db', hdb', hsame⟩ := Option.map_eq_some_iff.mp hjobs
      rw [hdb] at hjob
      rw [hdb']
      dsimp only
      rw [hsame]
      exact hjob
  | call hkeeps hadmissible hcoordinator hdatabase =>
    rw [hdatabase, hcoordinator]
    cases hdb : s.database with
    | none =>
      rw [hdb] at hjob
      exact lasts_of_run hkeeps hadmissible hjob
    | some db =>
      rw [hdb] at hjob
      exact ⟨job, hjob, .refl job⟩
  | @save db new jobs hdb hsave hcoordinator hdatabase =>
    rw [hdb] at hjob
    rw [hdatabase]
    obtain ⟨hfree, -, rfl⟩ := JobTable.save_ok hsave
    have hne : id ≠ new.id := by
      rintro rfl
      rw [show db.jobs.get new.id = some job from hjob] at hfree
      cases hfree
    exact ⟨job, (JobTable.get_put_ne _ _ hne).trans hjob, .refl job⟩
  | @move db old moved id' next now jobs hdb hold hmoved hupdate hcoordinator hdatabase =>
    rw [hdb] at hjob
    rw [hdatabase]
    obtain ⟨hedge, rfl⟩ := AnsibleJob.transitionTo_ok.mp hmoved
    obtain rfl := JobTable.get_id hold
    rcases JobTable.update_ok hupdate with ⟨-, rfl⟩ | ⟨-, -, rfl⟩
    · exact ⟨job, hjob, .refl job⟩
    · dsimp only
      rw [JobTable.get_put]
      split
      · rename_i hid
        obtain rfl := Option.some.inj (hold.symm.trans (hid ▸ hjob))
        exact ⟨_, rfl, .move now hedge⟩
      · exact ⟨job, hjob, .refl job⟩
  | restart hpersistent hcoordinator hdatabase =>
    obtain ⟨db, hdb⟩ := Option.isSome_iff_exists.mp hpersistent
    rw [hdb] at hjob
    rw [hdatabase, hdb]
    exact ⟨job, hjob, .refl job⟩

end Jobs

end Lxcup.Onboarding
