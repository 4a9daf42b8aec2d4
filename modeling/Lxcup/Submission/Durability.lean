import Lxcup.Submission.Provenance

/-!
# Answers of success and the job table

A job is made by the coordinator first and inserted into the table afterwards.  When the
insert fails, the coordinator keeps the job and its key; the next request with the key is
answered with the job as a duplicate, although the table does not have it.  The same happens
to a request that is submitted while the insert of its twin is still under way.

In the runs without these two situations every answer of success names a row of the table.

## Main definitions

* `NamesRow` — a step that answers a request with a job leaves the job in the table.
* `WritesThrough` — no insert is lost while the coordinator has the job, and no key is
  submitted while a job with this key is on its way to the table.
* `Backed` — the jobs of the coordinator are in the table or on their way.

## Main results

* `namesRow_of_writesThrough` — the property, at every step of every such run.
* `lost_insert_answered` — after a failed insert the same request is answered with the lost job.
-/

namespace Lxcup.Submission

open Lxcup.Lib Lxcup.Core Lxcup.Ansible Lxcup.Persistence Lxcup.Server

/-- In persistent mode, a step that answers a request with a job leaves the job in the
table. -/
def NamesRow (s : Service) (action : ServiceAction) (s' : Service) : Prop :=
  ∀ n input p p' role request status job, action = .advance n input →
    s.processes.get n = some p → p.call = .create role request →
    s'.processes.get n = some p' → p'.phase = .answered (.ok (status, job)) →
    ∀ db, s'.database = some db → (db.jobs.get job.id).isSome = true

/-- A job of the target and key is on its way to the table. -/
def underWay (s : Service) (target : ResourceTarget) (key : String) : Bool :=
  s.processes.any fun _ p =>
    match p.phase with
    | .created job => job.target = target && job.idempotencyKey = key
    | _ => false

/-- What the next access of a process must not do. -/
def writesThrough (s : Service) (input : Input) (p : Process) : Bool :=
  match p.phase with
  | .created job =>
    !s.insertFails job input.fails || (s.stored job.id).isSome || (s.held job.id).isNone
  | .free asked => !underWay s asked.target asked.idempotencyKey
  | _ => true

/-- No insert is lost while the coordinator has the job, and no key is submitted while a job
with this key is on its way to the table. -/
def WritesThrough (s : Service) : ServiceAction → Prop
  | .advance n input => ∀ p ∈ s.processes.get n, writesThrough s input p = true
  | _ => True

instance (s : Service) : (action : ServiceAction) → Decidable (WritesThrough s action)
  | .advance n input =>
    inferInstanceAs (Decidable (∀ p ∈ s.processes.get n, writesThrough s input p = true))
  | .arrive .. | .coordinate _ | .progress .. | .putTarget _ | .putContainer ..
  | .createUpdatePolicy _ | .ensureDefaultUpdatePolicy | .deleteUpdatePolicy _ | .deleteTarget _ =>
    isTrue trivial

/-- A process has the job of the id on its way to the table. -/
def OnItsWay (s : Service) (id : AnsibleJobId) : Prop :=
  ∃ n p job, s.processes.get n = some p ∧ p.phase = .created job ∧ job.id = id

/-- The jobs of the coordinator are in the table or on their way. -/
def Backed (s : Service) : Prop :=
  ∀ id job, s.held id = some job → (s.stored id).isSome = true ∨ OnItsWay s id

/-- What is on its way stays so while another process takes a step. -/
theorem OnItsWay.withProcess {s s' : Service} {n : Nat} {p p' : Process} {id : AnsibleJobId}
    (h : OnItsWay s id) (hprocesses : s'.processes = s.processes)
    (hp : ∀ q, s.processes.get n = some q → q = p)
    (hphase : ∀ job, p.phase = .created job → job.id ≠ id) :
    OnItsWay (s'.withProcess n p') id := by
  obtain ⟨m, q, job, hq, hcreated, hid⟩ := h
  have hne : m ≠ n := by
    rintro rfl
    rw [hp q hq] at hcreated
    exact hphase job hcreated hid
  refine ⟨m, q, job, ?_, hcreated, hid⟩
  change (s'.processes.put n p').get m = some q
  rw [Table.get_put_ne _ _ hne, hprocesses]
  exact hq

/-- An access that neither makes nor inserts a job and does not lose one. -/
private theorem Backed.still {s s' : Service} {n : Nat} {p p' : Process} (h : Backed s)
    (hp : s.processes.get n = some p) (hprocesses : s'.processes = s.processes)
    (hheld : s'.held = s.held) (hstored : s'.stored = s.stored)
    (hphase : ∀ job, p.phase ≠ .created job) : Backed (s'.withProcess n p') := by
  intro id job hjob
  have hjob' : s.held id = some job := by
    rw [← hheld]
    exact hjob
  rcases h id job hjob' with hrow | hway
  · left
    change (s'.stored id).isSome = true
    rw [hstored]
    exact hrow
  · right
    refine hway.withProcess hprocesses (fun q hq => ?_) fun job hcreated => absurd hcreated (hphase job)
    exact Option.some.inj (hq.symm.trans hp)

/-- **What a process does to the jobs that are on their way.** -/
private theorem Backed.advance {s s' : Service} {n : Nat} {input : Input} {p : Process}
    {phase : Phase} {reads : List StoreView} (h : Backed s) (hdb : s.database.isSome = true)
    (found : s.processes.get n = some p) (access : Access s p.call input p.phase s' phase)
    (hok : writesThrough s input p = true) :
    Backed (s'.withProcess n { p with phase := phase, reads := reads }) := by
  have hframe := access.frame
  obtain ⟨call, before, seen⟩ := p
  dsimp only at access
  cases access with
  | read next open' =>
    refine h.still found rfl rfl rfl ?_
    rintro job rfl
    rw [Service.read_of_written rfl] at next
    cases next
  | refused lost =>
    intro id job hjob
    rcases h id job hjob with hrow | hway
    · exact .inl hrow
    · by_cases hown : ∃ created, before = .created created ∧ created.id = id
      · -- the insert failed, but nothing is lost
        obtain ⟨created, rfl, rfl⟩ := hown
        simp only [writesThrough, lost created rfl, Bool.not_true, Bool.false_or,
          Bool.or_eq_true, Option.isNone_iff_eq_none] at hok
        rcases hok with hrow | hnone
        · exact .inl hrow
        · rw [show s.held created.id = some job from hjob] at hnone
          cases hnone
      · right
        refine hway.withProcess rfl (fun q hq => Option.some.inj (hq.symm.trans found)) ?_
        intro created hcreated hid
        exact hown ⟨created, hcreated, hid⟩
  | found isCreate persistent row =>
    exact h.still found hframe.processes (Service.accept_held ..) (Service.accept_stored ..)
      (by simp)
  | foundSource isReconcile persistent row => exact h.still found rfl rfl rfl (by simp)
  | @made _ job locks origin unused locked =>
    have hphase : ((s.registered locks job input.now).afterCreated call job).2 = .created job := by
      rcases (s.registered locks job input.now).afterCreated_cases call job with
        ⟨-, -, hphase⟩ | ⟨hnone, -⟩
      · exact hphase
      · have hnone' : s.database = none := hnone
        rw [hnone'] at hdb
        cases hdb
    intro id job' hjob
    change (s.withMade locks call job input.now).held id = some job' at hjob
    rw [Service.withMade_held] at hjob
    split at hjob
    case isTrue heq =>
      refine .inr ⟨n, _, job, Table.get_put_self .., hphase, heq.symm⟩
    case isFalse =>
      rcases h id job' hjob with hrow | hway
      · left
        change ((s.withMade locks call job input.now).stored id).isSome = true
        rw [Service.withMade_stored, if_pos hdb]
        exact hrow
      · right
        refine hway.withProcess hframe.processes
          (fun q hq => Option.some.inj (hq.symm.trans found)) ?_
        rintro created hcreated
        cases origin with
        | request accepts => cases hcreated
        | source => cases hcreated
  | duplicate entry known =>
    exact h.still found hframe.processes (Service.accept_held ..) (Service.accept_stored ..)
      (by simp)
  | duplicateSource entry known => exact h.still found rfl rfl rfl (by simp)
  | @inserted job db jobs _ persistent row next =>
    intro id job' hjob
    change ((s.withRow db jobs).accept call job).held id = some job' at hjob
    rw [Service.accept_held] at hjob
    have hstored : (((s.withRow db jobs).accept call job).withProcess n
        ⟨call, phase, reads⟩).stored id
        = if id = job.id then some (base job) else s.stored id := by
      change ((s.withRow db jobs).accept call job).stored id = _
      rw [Service.accept_stored]
      exact Service.withRow_stored persistent row id
    by_cases hid : id = job.id
    · left
      rw [hstored, if_pos hid]
      rfl
    · rcases h id job' hjob with hrow | hway
      · left
        rw [hstored, if_neg hid]
        exact hrow
      · right
        refine hway.withProcess hframe.processes
          (fun q hq => Option.some.inj (hq.symm.trans found)) ?_
        intro created hcreated hcreatedId
        obtain rfl := Phase.created.inj hcreated
        exact hid hcreatedId.symm
  | listed known => exact h.still found rfl rfl rfl (by simp)
  | appended persistent row =>
    exact h.still found rfl rfl (Service.appendEvent_stored persistent row).1 (by simp)

/-- A job of the coordinator and the row of its id have the same target. -/
theorem Sound.same_target {s : Service} (h : Sound s) {id : AnsibleJobId}
    {job row : AnsibleJob} (hheld : s.held id = some job) (hrow : s.stored id = some row) :
    row = job := by
  obtain ⟨call, hmade⟩ := h.held id job hheld
  obtain ⟨call', hmade'⟩ := h.stored id row hrow
  rw [hmade] at hmade'
  exact (Prod.mk.inj (Option.some.inj hmade')).2.symm

/-- **Every step keeps the jobs of the coordinator backed.** -/
theorem Backed.step {s s' : Service} {action : ServiceAction} (h : Backed s) (hsound : Sound s)
    (hdb : s.database.isSome = true) (hok : WritesThrough s action)
    (hstep : s.step action = some s') : Backed s' := by
  cases step_cases hstep with
  | @arrive n call unused =>
    intro id job hjob
    rcases h id job hjob with hrow | ⟨m, q, created, hq, hphase, hid⟩
    · exact .inl hrow
    · refine .inr ⟨m, q, created, ?_, hphase, hid⟩
      have hne : m ≠ n := by
        rintro rfl
        rw [unused] at hq
        cases hq
      change (s.processes.put n _).get m = some q
      rw [Table.get_put_ne _ _ hne]
      exact hq
  | @advance n input p _ phase found fresh access => exact h.advance hdb found access (hok p found)
  | quiet other hquiet =>
    intro id job hjob
    rw [hquiet.held] at hjob
    rw [hquiet.stored]
    rcases h id job hjob with hrow | hway
    · exact .inl hrow
    · right
      unfold OnItsWay
      rw [hquiet.processes]
      exact hway
  | @delete targetId idle =>
    intro id job hjob
    obtain ⟨hheld, hstays⟩ := (Service.withoutTarget_held hsound.wellKept).mp hjob
    rcases h id job hheld with hrow | hway
    · obtain ⟨row, hrow⟩ := Option.isSome_iff_exists.mp hrow
      obtain rfl := hsound.same_target hheld hrow
      left
      rw [(Service.withoutTarget_stored hsound.wellKept).mpr ⟨hrow, hstays⟩]
      rfl
    · exact .inr hway

/-! ### Answers of success -/

/-- The log of a job is never empty. -/
theorem eventsOf_ne_nil {s : Service} (h : Sound s) {id : AnsibleJobId} {job : AnsibleJob}
    (hjob : s.coordinator.jobs.get id = some job) : s.coordinator.eventsOf id ≠ [] := by
  intro hnil
  have hqueued := (h.wellKept.logged id job hjob).queued
  rw [hnil] at hqueued
  cases hqueued

/-- A job that is answered is listed, unless it is one that the coordinator knew under its key. -/
theorem stored_or_known {s s' : Service} {call : Call} {input : Input} {phase : Phase}
    {status : Nat} {job : AnsibleJob} (hsound : Sound s)
    (hcall : ∀ producer, call ≠ .produce producer)
    (hevents : ∀ job events, phase = .appending job events →
      ∀ event ∈ events, event.jobId = job.id)
    (access : Access s call input phase s' (.answered (.ok (status, job)))) :
    (s'.stored job.id).isSome = true ∨ ∃ id, s.coordinator.jobs.get id = some job ∧
      ((∃ asked : AnsibleJobRequest, phase = .free asked ∧ s' = s.accept call job ∧
          s.coordinator.idempotency.get (asked.target, asked.idempotencyKey) = some id) ∨
        ∃ source : AnsibleJob, phase = .sourceFree source ∧ s' = s ∧ s.database = none ∧
          s.coordinator.idempotency.get (source.target, reconcileIdempotencyKey source.id)
            = some id) := by
  generalize hanswer : Phase.answered (.ok (status, job)) = phase' at access
  cases access with
  | read next open' => exact absurd hanswer.symm (open' _)
  | refused lost => cases hanswer
  | found isCreate persistent row =>
    left
    cases hanswer
    obtain ⟨-, -, -, hthere⟩ := hsound.known_of_key persistent row
    rw [Service.accept_stored, Service.stored_database persistent, hthere]
    rfl
  | foundSource isReconcile persistent row =>
    left
    cases hanswer
    obtain ⟨-, -, -, hthere⟩ := hsound.known_of_key persistent row
    rw [Service.stored_database persistent, hthere]
    rfl
  | @made _ created locks origin unused locked =>
    left
    rcases (s.registered locks created input.now).afterCreated_cases call created with
      ⟨-, -, hphase⟩ | ⟨hnone, -, hphase⟩
    · rw [hphase] at hanswer
      cases hanswer
    · rw [hphase] at hanswer
      cases hanswer
      have hnone' : s.database = none := hnone
      rw [Service.withMade_stored, hnone', if_neg (by simp), if_pos rfl]
      rfl
  | @duplicate asked id known entry hknown =>
    right
    cases hanswer
    exact ⟨id, hknown, .inl ⟨asked, rfl, rfl, entry⟩⟩
  | @duplicateSource source id known entry hknown =>
    right
    cases hdb : s.database with
    | some db =>
      rw [hdb] at hanswer
      cases hanswer
    | none =>
      rw [hdb] at hanswer
      cases hanswer
      exact ⟨id, hknown, .inr ⟨source, rfl, rfl, rfl, entry⟩⟩
  | inserted persistent row next =>
    rcases next with rfl | ⟨-, producer, hproduce⟩
    · cases hanswer
    · exact absurd hproduce (hcall producer)
  | @listed saved known found =>
    cases hlog : s.coordinator.eventsOf saved.id with
    | nil => exact absurd hlog (eventsOf_ne_nil hsound found)
    | cons event events =>
      rw [hlog] at hanswer
      cases hanswer
  | @appended saved event events db db' persistent row =>
    left
    cases events with
    | cons other events => cases hanswer
    | nil =>
      cases hanswer
      obtain ⟨hstored, hthere⟩ := Service.appendEvent_stored persistent row
      rw [hevents job [event] rfl event (List.mem_singleton_self _)] at hthere
      rw [hstored, Service.stored_database persistent]
      simpa using hthere

/-- The answer of a request names a job that is listed. -/
private theorem stored_of_answer {s s' : Service} {role : ActorRole}
    {request : CreateAnsibleJobRequest} {input : Input} {phase : Phase} {status : Nat}
    {job : AnsibleJob} (hsound : Sound s) (hbacked : Backed s)
    (hbound : Bound s (.create role request) phase)
    (hevents : ∀ job events, phase = .appending job events →
      ∀ event ∈ events, event.jobId = job.id)
    (hfree : ∀ asked, phase = .free asked →
      underWay s asked.target asked.idempotencyKey = false)
    (access : Access s (.create role request) input phase s' (.answered (.ok (status, job)))) :
    (s'.stored job.id).isSome = true := by
  rcases stored_or_known hsound (fun _ => Call.noConfusion) hevents access with
    hstored | ⟨id, hknown, ⟨asked, rfl, rfl, entry⟩ | ⟨source, rfl, -⟩⟩
  · exact hstored
  · obtain ⟨-, htarget, hkey, rfl⟩ := hsound.known_of_entry entry hknown
    rw [Service.accept_stored]
    rcases hbacked job.id (base job) (by simp [Service.held, hknown]) with hrow | hway
    · exact hrow
    · -- the twin is still on its way
      obtain ⟨m, q, created, hq, hphase, hid⟩ := hway
      have hsame : base created = base job := by
        have hcreated := hsound.bound m q hq
        rw [hphase] at hcreated
        obtain ⟨_, hmade⟩ := (hcreated.checked_created hsound).1
        obtain ⟨_, hmade'⟩ := hsound.known_of_held hknown
        rw [hid, hmade'] at hmade
        exact (Prod.mk.inj (Option.some.inj hmade)).2.symm
      obtain ⟨hsameTarget, hsameKey⟩ := order_of_base hsame
      have hbusy : underWay s asked.target asked.idempotencyKey = true := by
        refine Table.any_eq_true.mpr ⟨m, q, hq, ?_⟩
        rw [hphase]
        simp [hsameTarget, hsameKey, htarget, hkey]
      rw [hfree asked rfl] at hbusy
      cases hbusy
  · exact hbound.elim

theorem backed_of_writesThrough {s : Service} (h : serviceMachine.Reach WritesThrough s) :
    s.database.isSome = true → Backed s := by
  refine h.invariant (I := fun s => s.database.isSome = true → Backed s) ?_ ?_
  · rintro s ⟨configured, persistent, rfl⟩ _ id job hjob
    simp [Service.held, Service.fresh, AnsibleJobCoordinator.default] at hjob
  · intro s action s' hreach hbacked hok hstep hdb
    have hdb' : s.database.isSome = true := by
      rw [← (step_cases hstep).persistent]
      exact hdb
    exact (hbacked hdb').step (sound_of_reach hreach) hdb' hok hstep

/-- **An answer of success names a row of the table**, at every step of every run in which the
jobs that the coordinator makes get through to the table. -/
theorem namesRow_of_writesThrough {s s' : Service} {action : ServiceAction}
    (h : serviceMachine.Reach WritesThrough s) (hok : WritesThrough s action)
    (hstep : s.step action = some s') : NamesRow s action s' := by
  rintro n input p p' role request status job rfl hp hcall hp' hphase db hdb
  cases step_cases hstep with
  | quiet other hquiet => exact absurd rfl (other n input)
  | @advance _ _ q s'' phase found fresh access =>
    obtain rfl := Option.some.inj (found.symm.trans hp)
    have hanswer : phase = .answered (.ok (status, job)) := by
      have hput : (s''.processes.put n _).get n = some p' := hp'
      rw [Table.get_put_self] at hput
      rw [← hphase, ← Option.some.inj hput]
    have hpersistent : s.database.isSome = true := by
      rw [← (step_cases hstep).persistent, hdb]
      rfl
    have hsound := sound_of_reach h
    have hbound := hsound.bound n q found
    have hthrough := hok q found
    rw [hcall] at access hbound
    rw [hanswer] at access
    have hstored := stored_of_answer hsound (backed_of_writesThrough h hpersistent)
      hbound (fun job events => hsound.events n q job events found)
      (fun asked hasked => by simpa [writesThrough, hasked] using hthrough) access
    have hdb'' : s''.database = some db := hdb
    rw [Service.stored_database hdb''] at hstored
    simpa using hstored

/-- The job of an answer of success. -/
def answeredJob (s : Service) (n : Nat) : Option AnsibleJob :=
  match s.processes.get n with
  | some ⟨_, .answered (.ok (_, job)), _⟩ => some job
  | _ => none

theorem phase_of_answeredJob {s : Service} {n : Nat} {job : AnsibleJob}
    (h : answeredJob s n = some job) :
    ∃ p status, s.processes.get n = some p ∧ p.phase = .answered (.ok (status, job)) := by
  unfold answeredJob at h
  split at h
  · rename_i call status found reads hp
    obtain rfl := Option.some.inj h
    exact ⟨_, status, hp, rfl⟩
  · cases h

theorem health_check_in_table :
    ∃ s s', serviceMachine.Reach WritesThrough s ∧ s.step (.advance 1 ⟨0, ⟨⟨2⟩⟩, false⟩) = some s' ∧
      ∃ job db, answeredJob s' 1 = some job ∧ s'.database = some db ∧
        (db.jobs.get job.id).isSome = true := by
  have hrun : ∃ s ∈ serviceMachine.exec WritesThrough (sampleService true)
      (setUp [] ++ sends 1 8 ⟨⟨1⟩⟩ (healthCheckUnder "key") ++ advances 1 2 ⟨⟨2⟩⟩),
      WritesThrough s (.advance 1 ⟨0, ⟨⟨2⟩⟩, false⟩) ∧
      (∃ p ∈ s.processes.get 1, p.call = .create .admin (healthCheckUnder "key")) ∧
      ∃ s' ∈ s.step (.advance 1 ⟨0, ⟨⟨2⟩⟩, false⟩), (answeredJob s' 1).isSome = true ∧
        s'.database.isSome = true := by
    decide +kernel
  obtain ⟨s, hexec, hok, ⟨p, hp, hcall⟩, s', hstep, hanswered, hdb⟩ := hrun
  have hreach : serviceMachine.Reach WritesThrough s := .exec (.init ⟨_, _, rfl⟩) _ hexec
  obtain ⟨job, hjob⟩ := Option.isSome_iff_exists.mp hanswered
  obtain ⟨db, hdb⟩ := Option.isSome_iff_exists.mp hdb
  obtain ⟨p', status, hp', hphase⟩ := phase_of_answeredJob hjob
  exact ⟨s, s', hreach, hstep, job, db, hjob, hdb, namesRow_of_writesThrough hreach hok hstep 1 _ p p'
    .admin _ status job rfl hp hcall hp' hphase db hdb⟩

/-- The insert of a health check fails; the same request is answered with the lost job. -/
theorem lost_insert_answered :
    ¬ ∀ s action s', serviceMachine.Reach Machine.Any s → s.step action = some s' →
      NamesRow s action s' := by
  intro hall
  have hrun : ∃ s ∈ serviceMachine.exec Machine.Any (sampleService true)
      (setUp [] ++ sends 1 8 ⟨⟨1⟩⟩ (healthCheckUnder "key") ++ [.advance 1 ⟨0, ⟨⟨2⟩⟩, true⟩] ++
        sends 2 7 ⟨⟨2⟩⟩ (healthCheckUnder "key")),
      (∃ p ∈ s.processes.get 2, p.call = .create .admin (healthCheckUnder "key")) ∧
      ∃ s' ∈ s.step (.advance 2 ⟨0, ⟨⟨2⟩⟩, false⟩), ∃ job ∈ answeredJob s' 2,
        ∃ db ∈ s'.database, (db.jobs.get job.id).isSome = false := by
    decide +kernel
  obtain ⟨s, hexec, ⟨p, hp, hcall⟩, s', hstep, job, hjob, db, hdb, hmissing⟩ := hrun
  obtain ⟨p', status, hp', hphase⟩ := phase_of_answeredJob hjob
  have hrow := hall s _ s' (.exec (.init ⟨_, _, rfl⟩) _ hexec) hstep 2 _ p p' .admin _ status job rfl
    hp hcall hp' hphase db hdb
  rw [hmissing] at hrow
  cases hrow

end Lxcup.Submission
