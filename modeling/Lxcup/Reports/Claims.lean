import Lxcup.Reports.Regular
import Lxcup.Server.Producers

/-!
# One report for each claim

A report that is taken loads its job, and what it writes later depends on that copy only.  The
statuses that it is refused for are those of finished jobs; a job that was never claimed is
queued, and the lifecycle has an edge from there to `planned`, so that the report of a success
finishes it.  And two reports that have loaded the same claimed job both write.

In the runs in which no report is taken for a queued job, and no job is loaded while another
writer to it is under way, writes and claims take turns: every write finds its job claimed, and
every claim is answered by one write.

## Main definitions

* `TakesTurns` — claims and writes of every job take turns.
* `OnlyClaimed`, `TakesEffect` — what the steps of reports change, and that they do.
* `OneWriter` — the condition on the steps.
* `Orderly` — the invariant.

## Main results

* `reportsOnce_of_oneWriter` — the property, in every state of every such run.
* `queued_job_finished` — the report for a job that was never claimed.
-/

namespace Lxcup.Reports

open Lxcup.Lib Lxcup.Core Lxcup.Ansible Lxcup.Agent Lxcup.Persistence Lxcup.Server Lxcup.Worker
open Lxcup.Submission (JobDatabase)

/-! ### The property -/

/-- An agent works on the job. -/
def isClaimed (status : AnsibleJobStatus) : Bool := status = .checking || status = .applying

/-- Whether the claim of a job is open after an entry.  A write closes the claim, and finds the
job claimed. -/
def turn : Bool → Entry → Option Bool
  | false, .claimed => some true
  | true, .written _ before => if isClaimed before then some false else none
  | _, _ => none

/-- Whether the claim of a job is open after its history, `none` when a turn was missed. -/
def openClaim (log : List Entry) : Option Bool := log.foldlM turn false

/-- Claims and writes of every job take turns, and every write finds its job claimed. -/
def TakesTurns (s : AgentServer) : Prop :=
  ∀ id log, s.log.get id = some log → (openClaim log).isSome = true

/-- The status or the events of a job change. -/
def Changes (s s' : AgentServer) (id : AnsibleJobId) : Prop :=
  (s'.store.find id).map (·.status) ≠ (s.store.find id).map (·.status) ∨
    s'.store.eventsOf id ≠ s.store.eventsOf id

/-- The call has written its result and adds the events. -/
def Phase.appends (id : AnsibleJobId) : Phase → Prop
  | .appending other _ _ => other = id
  | _ => False

/-- A report changes claimed jobs only, apart from the events that follow its own write. -/
def OnlyClaimed (s : AgentServer) : ServerAction → AgentServer → Prop
  | .report .., s' => s'.store = s.store
  | .advance n _, s' => ∀ call, s.calls.get n = some call → call.writer = .report →
    ∀ id, Changes s s' id → (∃ job, s.store.find id = some job ∧ isClaimed job.status = true) ∨
      call.phase.appends id
  | _, _ => True

/-- The job that the next access of a call writes. -/
def nextWrite (store : JobStore) (phase : Phase) : Option AnsibleJob :=
  match store, phase with
  | .memory _, .settled verdict => some verdict.job
  | .database _, .counted job _ _ => some job
  | _, _ => none

/-- A report that comes to its write finishes its job, unless the database fails. -/
def TakesEffect (s : AgentServer) : Prop :=
  ∀ n call job input, s.calls.get n = some call → call.writer = .report →
    nextWrite s.store call.phase = some job → input.fails = false →
    ∃ s' before, s.advance n input = some s' ∧
      (s'.store.find job.id).map (·.status) = some job.status ∧
      s'.log.get job.id = some ((s.log.get job.id).getD [] ++ [.written .report before])

/-- Reports change claimed jobs only, and each claim is answered by one write. -/
structure ReportsOnce (read : JsonReader) (s : AgentServer) : Prop where
  turns : TakesTurns s
  claimed : ∀ action s', s.step read action = some s' → OnlyClaimed s action s'
  effect : TakesEffect s

/-! ### The condition -/

/-- The report is neither refused nor ignored. -/
def taken (read : JsonReader) (targets : Table TargetId Target) (job : AnsibleJob)
    (token : TokenCheck) (response : AgentCommandResponse) (now : Timestamp) : Bool :=
  match judge read targets job token response now with
  | .ok (some _) => true
  | _ => false

/-- A writer to the job is between its loading and its writing. -/
def AgentServer.writerUnderWay (s : AgentServer) (id : AnsibleJobId) : Bool :=
  s.calls.any fun _ call => call.pending id

/-- A report that is taken finds its job not queued, and neither a report that is taken nor the
recovery of a worker loads a job while another writer to it is under way. -/
def OneWriter (read : JsonReader) (s : AgentServer) : ServerAction → Prop
  | .report _ id token response input => ∀ job ∈ s.store.find id,
    taken read s.targets job token response input.now = true →
      job.status ≠ .queued ∧ s.writerUnderWay id = false
  | .recover _ id _ => s.writerUnderWay id = false
  | _ => True

instance (read : JsonReader) (s : AgentServer) :
    (action : ServerAction) → Decidable (OneWriter read s action)
  | .report _ id token response input => inferInstanceAs (Decidable (∀ job ∈ s.store.find id,
      taken read s.targets job token response input.now = true →
        job.status ≠ .queued ∧ s.writerUnderWay id = false))
  | .recover _ id _ => inferInstanceAs (Decidable (s.writerUnderWay id = false))
  | .claim .. | .advance .. | .submit .. | .appendQueued .. | .submitRequest ..
  | .submitReconciliation .. | .retry .. | .deleteTarget .. | .putTarget .. => isTrue trivial

/-! ### The invariant -/

theorem openClaim_append (log : List Entry) (entry : Entry) :
    openClaim (log ++ [entry]) = (openClaim log).bind fun claim => turn claim entry := by
  simp [openClaim, List.foldlM_append]

theorem isClaimed_of_inactive {status : AnsibleJobStatus} (h : status.isActive = false) :
    isClaimed status = false ∧ status ≠ .planned := by
  cases status <;> first | exact ⟨rfl, by decide⟩ | cases h

/-- The writing of a call will succeed: its job is claimed, and has the copy it was settled on. -/
structure Awaits (store : JobStore) (phase : Phase) (copy : AnsibleJob) : Prop where
  claimed : ∃ job, store.find copy.id = some job ∧ isClaimed job.status = true ∧
    ∀ verdict, phase = .settled verdict → ∃ message now,
      settle job verdict.job.status message now = .ok verdict
  inactive : copy.status.isActive = false

/-- Claims and writes have taken turns, and what is under way will go on so. -/
structure Orderly (s : AgentServer) : Prop where
  turns : TakesTurns s
  status : ∀ id job, s.store.find id = some job →
    openClaim ((s.log.get id).getD []) = some (isClaimed job.status) ∧ job.status ≠ .planned
  awaited : ∀ n call copy, s.calls.get n = some call → call.phase.copy? = some copy →
    Awaits s.store call.phase copy
  alone : ∀ n m call call' copy copy', s.calls.get n = some call → s.calls.get m = some call' →
    call.phase.copy? = some copy → call'.phase.copy? = some copy' → copy.id = copy'.id → n = m

variable {s s' : AgentServer}

/-- A job that nobody works on has no writer under way. -/
theorem Orderly.not_pending (h : Orderly s) {id : AnsibleJobId}
    (hidle : ∀ job, s.store.find id = some job → isClaimed job.status = false) {n : Nat}
    {call : Call} {copy : AnsibleJob} (hcall : s.calls.get n = some call)
    (hcopy : call.phase.copy? = some copy) : copy.id ≠ id := by
  rintro rfl
  obtain ⟨job, hjob, hclaimed, -⟩ := (h.awaited n call copy hcall hcopy).claimed
  rw [hidle job hjob] at hclaimed
  cases hclaimed

/-- The calls that are to write a job are the others, when one comes to a phase without. -/
theorem writer_of_put {n m : Nat} {call other : Call} {copy : AnsibleJob}
    (hcopy : call.phase.copy? = none) (hother : (s.calls.put n call).get m = some other)
    (hcopy' : other.phase.copy? = some copy) : m ≠ n ∧ s.calls.get m = some other := by
  rcases Table.get_put_cases hother with ⟨-, rfl⟩ | ⟨hne, hold⟩
  · rw [hcopy] at hcopy'
    cases hcopy'
  · exact ⟨hne, hold⟩

/-- A call comes to a phase in which it writes no job. -/
theorem Orderly.withCall (h : Orderly s) {n : Nat} {call : Call} (hcopy : call.phase.copy? = none) :
    Orderly (s.withCall n call) where
  turns := h.turns
  status := h.status
  awaited m other copy hother hcopy' :=
    h.awaited m other copy (writer_of_put hcopy hother hcopy').2 hcopy'
  alone m m' other other' copy copy' hother hother' hcopy' hcopy'' := by
    obtain ⟨-, hold⟩ := writer_of_put hcopy hother hcopy'
    obtain ⟨-, hold'⟩ := writer_of_put hcopy hother' hcopy''
    exact h.alone m m' other other' copy copy' hold hold' hcopy' hcopy''

/-- A call is to write a claimed job, and no other call is. -/
theorem Orderly.withWriter (h : Orderly s) {n : Nat} {call : Call} {copy : AnsibleJob}
    (hcopy : call.phase.copy? = some copy) (hawaits : Awaits s.store call.phase copy)
    (halone : ∀ m other copy', s.calls.get m = some other → other.phase.copy? = some copy' →
      m ≠ n → copy'.id ≠ copy.id) : Orderly (s.withCall n call) where
  turns := h.turns
  status := h.status
  awaited m other copy' hother hcopy' := by
    rcases Table.get_put_cases hother with ⟨-, rfl⟩ | ⟨-, hold⟩
    · obtain rfl := Option.some.inj (hcopy.symm.trans hcopy')
      exact hawaits
    · exact h.awaited m other copy' hold hcopy'
  alone m m' other other' copy' copy'' hother hother' hcopy' hcopy'' hsame := by
    rcases Table.get_put_cases hother with ⟨heq, rfl⟩ | ⟨hne, hold⟩
    · obtain rfl := Option.some.inj (hcopy.symm.trans hcopy')
      rcases Table.get_put_cases hother' with ⟨heq', -⟩ | ⟨hne', hold'⟩
      · exact heq.trans heq'.symm
      · exact absurd hsame.symm (halone m' other' copy'' hold' hcopy'' hne')
    · rcases Table.get_put_cases hother' with ⟨-, rfl⟩ | ⟨-, hold'⟩
      · obtain rfl := Option.some.inj (hcopy.symm.trans hcopy'')
        exact absurd hsame (halone m other copy' hold hcopy' hne)
      · exact h.alone m m' other other' copy' copy'' hold hold' hcopy' hcopy'' hsame

/-- Claimed jobs stay as they are. -/
theorem Orderly.evolve (h : Orderly s) {store : JobStore} {log : Table AnsibleJobId (List Entry)}
    (hstay : ∀ id job, s.store.find id = some job → isClaimed job.status = true →
      store.find id = some job)
    (hturns : ∀ id entries, log.get id = some entries → (openClaim entries).isSome = true)
    (hstatus : ∀ id job, store.find id = some job →
      openClaim ((log.get id).getD []) = some (isClaimed job.status) ∧ job.status ≠ .planned) :
    Orderly { s with store := store, log := log } where
  turns := hturns
  status := hstatus
  awaited n call copy hcall hcopy := by
    obtain ⟨⟨job, hjob, hclaimed, hsettled⟩, hinactive⟩ := h.awaited n call copy hcall hcopy
    exact ⟨⟨job, hstay _ job hjob hclaimed, hclaimed, hsettled⟩, hinactive⟩
  alone := h.alone

/-! ### Writes -/

theorem get_note (s : AgentServer) (id other : AnsibleJobId) (entry : Entry) :
    (s.note id entry).log.get other
      = if other = id then some ((s.log.get id).getD [] ++ [entry]) else s.log.get other := by
  simp only [AgentServer.note, Table.get_put]

/-- The history after the write of a claimed job. -/
private theorem Orderly.openClaim_written (h : Orderly s) {id : AnsibleJobId} {job : AnsibleJob}
    (hjob : s.store.find id = some job) (hclaimed : isClaimed job.status = true)
    (writer : Writer) :
    openClaim ((s.log.get id).getD [] ++ [.written writer job.status]) = some false := by
  rw [openClaim_append, (h.status id job hjob).1, hclaimed, Option.bind_some, turn, if_pos hclaimed]

/-- **A write** of a claimed job, by the only call that is to write it. -/
theorem Orderly.write (h : Orderly s) {n : Nat} {call : Call} {copy job job' : AnsibleJob}
    {store : JobStore} {writer : Writer} {phase : Phase} (hcall : s.calls.get n = some call)
    (hcopy : call.phase.copy? = some copy) (hjob : s.store.find copy.id = some job)
    (hclaimed : isClaimed job.status = true) (hfind : ∀ other, store.find other
      = if other = copy.id then some job' else s.store.find other)
    (hstatus : job'.status.isActive = false) (hphase : phase.copy? = none) :
    Orderly (((s.withStore store).note copy.id (.written writer job.status)).withCall n
      { call with phase := phase }) where
  turns id log hlog := by
    change ((s.withStore store).note copy.id _).log.get id = some log at hlog
    rw [get_note] at hlog
    split at hlog
    · rw [← Option.some.inj hlog, AgentServer.withStore, h.openClaim_written hjob hclaimed writer]
      rfl
    · exact h.turns id log hlog
  status id other hother := by
    change store.find id = some other at hother
    change openClaim ((((s.withStore store).note copy.id _).log.get id).getD []) = _ ∧ _
    rw [hfind] at hother
    rw [get_note]
    split at hother
    · rename_i hsame
      obtain rfl := Option.some.inj hother
      obtain ⟨hopen, hplanned⟩ := isClaimed_of_inactive hstatus
      rw [if_pos hsame, Option.getD_some, hopen]
      exact ⟨h.openClaim_written hjob hclaimed writer, hplanned⟩
    · rename_i hne
      rw [if_neg hne]
      exact h.status id other hother
  awaited m other copy' hother hcopy' := by
    obtain ⟨hne, hold⟩ := writer_of_put hphase hother hcopy'
    obtain ⟨⟨found, hfound, hopen, hsettled⟩, hinactive⟩ := h.awaited m other copy' hold hcopy'
    have hother' : copy'.id ≠ copy.id := by
      intro hsame
      exact hne (h.alone m n other call copy' copy hold hcall hcopy' hcopy hsame)
    refine ⟨⟨found, ?_, hopen, hsettled⟩, hinactive⟩
    change store.find copy'.id = some found
    rw [hfind, if_neg hother']
    exact hfound
  alone m m' other other' copy' copy'' hother hother' hcopy' hcopy'' := by
    obtain ⟨-, hold⟩ := writer_of_put hphase hother hcopy'
    obtain ⟨-, hold'⟩ := writer_of_put hphase hother' hcopy''
    exact h.alone m m' other other' copy' copy'' hold hold' hcopy' hcopy''

theorem isFinal_of_isClaimed {status : AnsibleJobStatus} (h : isClaimed status = true) :
    status.isFinal = false := by
  cases status <;> first | rfl | cases h

/-- What a writing without a database does to a job that awaits it. -/
theorem writeMemory_of_awaits {c : AnsibleJobCoordinator} {verdict : Verdict} {now : Timestamp}
    (hkept : WellKept c) (hstore : s.store = .memory c) (writer : Writer)
    (hawaits : Awaits s.store (.settled verdict) verdict.job) :
    ∃ c' job, s.store.find verdict.job.id = some job ∧ isClaimed job.status = true ∧
      s.writeMemory c writer verdict now
        = ((s.withStore (.memory c')).note verdict.job.id (.written writer job.status),
            .answered (.ok ())) ∧
      ∀ other, c'.jobs.get other = if other = verdict.job.id
        then some { job with status := verdict.job.status, updatedAt := now }
        else c.jobs.get other := by
  obtain ⟨job, hjob, hclaimed, hsettled⟩ := hawaits.claimed
  obtain ⟨message, settledAt, hsettle⟩ := hsettled verdict rfl
  rw [hstore] at hjob
  have hfound : c.jobs.get verdict.job.id = some job := hjob
  have hid := hkept.keyed _ job hfound
  have hopen := isFinal_of_isClaimed hclaimed
  obtain ⟨c', hrun, hfind, -⟩ := @runAll_resultOps c job verdict.job.status message settledAt now
    verdict (hid.symm ▸ hfound) hopen hsettle hawaits.inactive
  refine ⟨c', job, by rw [hstore]; exact hjob, hclaimed, ?_, fun other => ?_⟩
  · simp only [AgentServer.writeMemory, hrun, hfound, hopen, Bool.false_eq_true, if_false]
  · rw [hfind, hid]

/-- **The next access of a call** keeps the order. -/
theorem Orderly.access (h : Orderly s) (hregular : Regular s) {n : Nat} {call : Call}
    {input : Input} {phase : Phase} (hcall : s.calls.get n = some call)
    (access : Access s call input s' phase) :
    Orderly (s'.withCall n { call with phase := phase }) := by
  cases access with
  | refused => exact h.withCall rfl
  | @counted db verdict persistent hphase =>
    have hcopy : call.phase.copy? = some verdict.job := by
      rw [hphase]
      rfl
    obtain ⟨⟨job, hjob, hclaimed, -⟩, hinactive⟩ := h.awaited n call verdict.job hcall hcopy
    refine @Orderly.withWriter s h n ⟨call.writer, _⟩ verdict.job rfl
      ⟨⟨job, hjob, hclaimed, fun _ hsettled => by cases hsettled⟩, hinactive⟩ ?_
    intro m other copy' hother hcopy' hne hsame
    exact hne (h.alone m n other call copy' verdict.job hother hcall hcopy' hcopy hsame)
  | @memory c verdict inMemory hphase =>
    have hcopy : call.phase.copy? = some verdict.job := by
      rw [hphase]
      rfl
    have hawaits := h.awaited n call verdict.job hcall hcopy
    rw [hphase] at hawaits
    have hkept := hregular.kept
    rw [inMemory] at hkept
    obtain ⟨c', job, hjob, hclaimed, hwrite, hfind⟩ :=
      @writeMemory_of_awaits s c verdict input.now hkept inMemory call.writer hawaits
    rw [hwrite]
    have hmemory : ∀ other, (JobStore.memory c').find other = if other = verdict.job.id
        then some { job with status := verdict.job.status, updatedAt := input.now }
        else s.store.find other := by
      intro other
      rw [inMemory]
      exact hfind other
    exact h.write hcall hcopy hjob hclaimed hmemory hawaits.inactive rfl
  | missing persistent hphase gone => exact h.withCall rfl
  | @row db copy before events next persistent hphase found =>
    have hcopy : call.phase.copy? = some copy := by
      rw [hphase]
      rfl
    have hawaits := h.awaited n call copy hcall hcopy
    obtain ⟨job, hjob, hclaimed, -⟩ := hawaits.claimed
    have hrow : s.store.find copy.id = some before := by
      rw [persistent]
      exact found
    obtain rfl := Option.some.inj (hrow.symm.trans hjob)
    have hfind : ∀ other, (JobStore.database { db with jobs := db.jobs.put copy }).find other
        = if other = copy.id then some copy else s.store.find other := by
      intro other
      rw [persistent]
      exact JobTable.get_put _ _ _
    exact h.write hcall hcopy hrow hclaimed hfind hawaits.inactive rfl
  | done hphase => exact h.withCall rfl
  | recounted persistent hphase => exact h.withCall rfl
  | @appended db db' id event events sequence persistent hphase inserted =>
    obtain ⟨-, -, rfl⟩ := appendEvent_ok inserted
    refine Orderly.withCall ?_ rfl
    have hfind : ∀ other, JobStore.find (.database { db with
        events := db.events.put id (rowEvents db id ++ [⟨sequence, id, event, input.now⟩]) }) other
          = s.store.find other := by
      intro other
      rw [persistent]
      rfl
    refine h.evolve (fun other job hjob _ => (hfind other).trans hjob) h.turns fun other job hjob => ?_
    exact h.status other job ((hfind other).symm.trans hjob)

/-! ### Every step -/

/-- A job comes to a status outside of a claim, and the history of no job changes. -/
private theorem Orderly.unclaimed (h : Orderly s) {store : JobStore}
    (hfind : ∀ other, store.find other = none ∨ store.find other = s.store.find other ∨
      ∃ job job' : AnsibleJob, s.store.find other = some job ∧ isClaimed job.status = false ∧
        store.find other = some job' ∧ isClaimed job'.status = false ∧ job'.status ≠ .planned)
    (hstay : ∀ id job, s.store.find id = some job → isClaimed job.status = true →
      store.find id = some job) : Orderly (s.withStore store) := by
  refine h.evolve hstay h.turns fun id job' hjob' => ?_
  rcases hfind id with hnone | hsame | ⟨job, other, hjob, hopen, hother, hopen', hplanned⟩
  · rw [hnone] at hjob'
    cases hjob'
  · exact h.status id job' (hsame.symm.trans hjob')
  · obtain rfl := Option.some.inj (hother.symm.trans hjob')
    refine ⟨?_, hplanned⟩
    rw [hopen', ← hopen]
    exact (h.status id job hjob).1

private theorem Orderly.same (h : Orderly s) {store : JobStore}
    (hfind : ∀ other, store.find other = s.store.find other) : Orderly (s.withStore store) :=
  h.unclaimed (fun other => .inr (.inl (hfind other))) fun id _ hjob _ => (hfind id).trans hjob

/-- A job is submitted under a new id. -/
private theorem Orderly.submitted (h : Orderly s) (hregular : Regular s) {id : AnsibleJobId}
    {store : Option JobStore}
    (hstore : s.store.find id = none → ∀ store', store = some store' → ∀ other,
      store'.find other = s.store.find other ∨
        other = id ∧ ∃ job, store'.find other = some job ∧ job.status = .queued)
    (hstep : s.submitted id store = some s') : Orderly s' := by
  obtain ⟨store', rfl, hnew, -, rfl⟩ := hregular.submitted_cases hstep
  have hfind := hstore hnew store' rfl
  refine h.evolve (fun other job hjob _ => ?_) (fun other log hlog => ?_) fun other job hjob => ?_
  · rcases hfind other with hsame | ⟨rfl, -⟩
    · exact hsame.trans hjob
    · rw [hnew] at hjob
      cases hjob
  · rcases Table.get_put_cases hlog with ⟨-, rfl⟩ | ⟨-, hold⟩
    · rfl
    · exact h.turns other log hold
  · rw [Table.get_put]
    rcases hfind other with hsame | ⟨rfl, queued, hqueued, hstatus⟩
    · have hold : s.store.find other = some job := hsame.symm.trans hjob
      rw [if_neg]
      · exact h.status other job hold
      · rintro rfl
        rw [hnew] at hold
        cases hold
    · obtain rfl := Option.some.inj (hqueued.symm.trans hjob)
      rw [if_pos rfl, hstatus]
      exact ⟨rfl, by decide⟩

/-- A report is answered at once, or it is taken. -/
theorem reportPhase_cases (read : JsonReader) (s : AgentServer) (id : AnsibleJobId)
    (token : TokenCheck) (response : AgentCommandResponse) (input : Input) :
    (∃ answer, s.reportPhase read id token response input = .answered answer) ∨
    ∃ job verdict, s.store.find id = some job ∧
      judge read s.targets job token response input.now = .ok (some verdict) ∧
      s.reportPhase read id token response input = .settled verdict := by
  generalize hphase : s.reportPhase read id token response input = phase
  unfold AgentServer.reportPhase at hphase
  split at hphase
  · exact .inl ⟨_, hphase.symm⟩
  · exact .inl ⟨_, hphase.symm⟩
  · rename_i job hjob
    split at hphase
    · exact .inl ⟨_, hphase.symm⟩
    · split at hphase
      · exact .inl ⟨_, hphase.symm⟩
      · exact .inl ⟨_, hphase.symm⟩
      · rename_i verdict hjudge
        exact .inr ⟨job, verdict, hjob, hjudge, hphase.symm⟩

/-- What a call that is settled awaits. -/
private theorem awaits_settled {store : JobStore} {job : AnsibleJob} {status : AnsibleJobStatus}
    {message : String} {now : Timestamp} {verdict : Verdict} (hkept : store.Kept)
    {id : AnsibleJobId} (hjob : store.find id = some job) (hclaimed : isClaimed job.status = true)
    (hstatus : status.isActive = false) (hsettle : settle job status message now = .ok verdict) :
    Awaits store (.settled verdict) verdict.job ∧ verdict.job.id = id := by
  have hid := JobStore.find_id hkept hjob
  obtain ⟨-, hverdict⟩ := settle_ok hsettle
  have hsame : verdict.job.id = id := by
    rw [hverdict]
    exact hid
  have hbecomes : verdict.job.status = status := by
    rw [hverdict]
  refine ⟨⟨⟨job, by rw [hsame]; exact hjob, hclaimed, ?_⟩, by rw [hbecomes]; exact hstatus⟩, hsame⟩
  intro other hother
  obtain rfl := Phase.settled.inj hother
  rw [hbecomes]
  exact ⟨message, now, hsettle⟩

/-- Nobody is to write the job. -/
private theorem not_pending_of_idle {id : AnsibleJobId} (h : s.writerUnderWay id = false) {m : Nat}
    {call : Call} {copy : AnsibleJob} (hcall : s.calls.get m = some call)
    (hcopy : call.phase.copy? = some copy) : copy.id ≠ id := by
  have hidle := Table.any_eq_false.mp h m call hcall
  simpa [Call.pending, hcopy] using hidle

/-- Of the statuses that are not final, only `checking` and `applying` are left. -/
private theorem isClaimed_of_open {status : AnsibleJobStatus} (hopen : reportIgnored status = false)
    (hqueued : status ≠ .queued) (hplanned : status ≠ .planned) : isClaimed status = true := by
  cases status with
  | queued => exact absurd rfl hqueued
  | planned => exact absurd rfl hplanned
  | checking => rfl
  | applying => rfl
  | reconcileRequired => cases hopen
  | succeeded => cases hopen
  | failed => cases hopen
  | aborted => cases hopen

/-- A report that is taken comes to write a claimed job, alone. -/
private theorem Orderly.report (h : Orderly s) (hregular : Regular s) {read : JsonReader} {n : Nat}
    {id : AnsibleJobId} {token : TokenCheck} {response : AgentCommandResponse} {input : Input}
    (hok : OneWriter read s (.report n id token response input))
    (hstep : s.report read n id token response input = some s') : Orderly s' := by
  simp only [AgentServer.report] at hstep
  split at hstep
  · cases hstep
  · obtain rfl := Option.some.inj hstep
    rcases reportPhase_cases read s id token response input with
      ⟨answer, hphase⟩ | ⟨job, verdict, hjob, hjudge, hphase⟩
    · rw [hphase]
      exact h.withCall rfl
    · rw [hphase]
      obtain ⟨hqueued, hidle⟩ := hok job hjob (by rw [taken, hjudge])
      obtain ⟨hopen, hsettle⟩ := judge_ok hjudge
      obtain ⟨hawaits, hid⟩ := awaits_settled hregular.kept hjob
        (isClaimed_of_open hopen hqueued (h.status id job hjob).2)
        (isActive_reportStatus _ _) hsettle
      refine @Orderly.withWriter s h n ⟨.report, .settled verdict⟩ verdict.job rfl hawaits ?_
      intro m other copy' hother hcopy' _
      rw [hid]
      exact not_pending_of_idle hidle hother hcopy'

/-- A claim is noted. -/
private theorem Orderly.claimed (h : Orderly s) {store : JobStore} {id : AnsibleJobId}
    {job claimed : AnsibleJob} (hjob : s.store.find id = some job) (hqueued : job.status = .queued)
    (hopen : isClaimed claimed.status = true) (hfind : ∀ other, store.find other
      = if other = id then some claimed else s.store.find other) :
    Orderly ((s.withStore store).note id .claimed) := by
  have hstill : isClaimed job.status = false := by
    rw [hqueued]
    rfl
  have hlog : openClaim ((s.log.get id).getD [] ++ [.claimed]) = some true := by
    rw [openClaim_append, (h.status id job hjob).1, hstill]
    rfl
  refine h.evolve (fun other found hfound hother => ?_) (fun other log hentries => ?_)
    fun other found hfound => ?_
  · change store.find other = some found
    rw [hfind, if_neg]
    · exact hfound
    · rintro rfl
      obtain rfl := Option.some.inj (hjob.symm.trans hfound)
      rw [hstill] at hother
      cases hother
  · change ((s.withStore store).note id .claimed).log.get other = some log at hentries
    rw [get_note] at hentries
    split at hentries
    · rw [← Option.some.inj hentries, AgentServer.withStore, hlog]
      rfl
    · exact h.turns other log hentries
  · change openClaim ((((s.withStore store).note id .claimed).log.get other).getD []) = _ ∧ _
    change store.find other = some found at hfound
    rw [get_note]
    rw [hfind] at hfound
    split at hfound
    · rename_i hsame
      obtain rfl := Option.some.inj hfound
      rw [if_pos hsame, Option.getD_some, hopen]
      refine ⟨hlog, ?_⟩
      intro hplanned
      rw [hplanned] at hopen
      cases hopen
    · rename_i hne
      rw [if_neg hne]
      exact h.status other found hfound

/-- A claim is taken in, and its failing if there is no command. -/
private theorem Orderly.claim (h : Orderly s) (hregular : Regular s) {n : Nat} {targetId : TargetId}
    {id : AnsibleJobId} {token : TokenCheck} {now : Timestamp}
    (hstep : s.claim n targetId id token now = some s') : Orderly s' := by
  simp only [AgentServer.claim] at hstep
  split at hstep
  · cases hstep
  · obtain ⟨⟨claimed, store⟩, hclaim, rfl⟩ := Option.map_eq_some_iff.mp hstep
    obtain ⟨job, hjob, hqueued, hclaimed, hfind, hevolves⟩ :=
      JobStore.claim_cases hregular.kept hclaim
    have hopen : isClaimed claimed.status = true := by
      rw [hclaimed]
      simp only [claimedStatus]
      split <;> rfl
    have hnoted := h.claimed hjob hqueued hopen hfind
    dsimp only
    split
    · exact hnoted
    · rename_i error _
      unfold AgentServer.refusalPhase
      split
      · exact hnoted.withCall rfl
      · rename_i verdict hsettle
        have hnow : store.find id = some claimed := by rw [hfind, if_pos rfl]
        obtain ⟨hawaits, hid⟩ := awaits_settled hevolves.kept hnow hopen rfl hsettle
        refine @Orderly.withWriter _ hnoted n ⟨.claim, .settled verdict⟩ verdict.job rfl hawaits ?_
        intro m other copy' hother hcopy' _
        rw [hid]
        refine h.not_pending (fun found hfound => ?_) hother hcopy'
        rw [← Option.some.inj (hjob.symm.trans hfound), hqueued]
        rfl

/-- A worker that starts comes to write a claimed job, alone. -/
private theorem Orderly.recover (h : Orderly s) {n : Nat} {id : AnsibleJobId} {now : Timestamp}
    (hidle : s.writerUnderWay id = false) (hstep : s.recover n id now = some s') : Orderly s' := by
  obtain ⟨job, next, hjob, hid, hnext, rfl⟩ := recover_cases hstep
  have hfound : s.store.find job.id = some job := by rw [hid, hjob]
  have hplanned := (h.status _ job hfound).2
  have hclaimed : isClaimed job.status = true := by
    cases hstatus : job.status with
    | planned => exact absurd hstatus hplanned
    | checking => rfl
    | applying => rfl
    | _ =>
      rw [hstatus] at hnext
      cases hnext
  refine h.withWriter rfl ⟨⟨job, hfound, hclaimed, fun _ hsettled => by cases hsettled⟩,
    recoveredStatus_inactive hnext⟩ ?_
  intro m other copy' hother hcopy' _
  rw [show ({ job with status := next, updatedAt := now } : AnsibleJob).id = id from hid]
  exact not_pending_of_idle hidle hother hcopy'

/-- **Every step keeps the order.** -/
theorem Orderly.step (h : Orderly s) (hregular : Regular s) {read : JsonReader}
    {action : ServerAction} (hok : OneWriter read s action)
    (hstep : s.step read action = some s') : Orderly s' := by
  cases action with
  | report n id token response input => exact h.report hregular hok hstep
  | claim n targetId id token now => exact h.claim hregular hstep
  | recover n id now => exact h.recover hok hstep
  | advance n input =>
    simp only [AgentServer.step, AgentServer.advance, Option.bind_eq_some_iff,
      Option.map_eq_some_iff] at hstep
    obtain ⟨call, hcall, ⟨s'', phase⟩, hnext, rfl⟩ := hstep
    exact h.access hregular hcall (access_of_next hnext)
  | submit job =>
    refine h.submitted hregular (fun _ store' hstore other => ?_) hstep
    obtain ⟨hqueued, hfind, -⟩ := JobStore.submit_cases hstore
    rw [hfind]
    split
    · rename_i hsame
      exact .inr ⟨hsame, job, rfl, hqueued⟩
    · exact .inl rfl
  | appendQueued id now =>
    obtain ⟨store, hstore, rfl⟩ := Option.map_eq_some_iff.mp hstep
    exact h.same (JobStore.appendQueued_cases hstore).1
  | submitRequest request newId now =>
    refine h.submitted hregular (fun hnew store' hstore => ?_) hstep
    exact (JobStore.coordinate_cases hregular.kept (.inl ⟨_, _, rfl⟩) hnew hstore).1
  | submitReconciliation source newId now =>
    refine h.submitted hregular (fun hnew store' hstore => ?_) hstep
    exact (JobStore.coordinate_cases hregular.kept (.inr ⟨_, _, rfl⟩) hnew hstore).1
  | retry id now =>
    obtain ⟨store, hstore, rfl⟩ := Option.map_eq_some_iff.mp hstep
    obtain ⟨hfind | ⟨job, hjob, hfailed, hfind⟩, -⟩ := JobStore.retry_cases hregular.kept hstore
    · exact h.same hfind
    · have hopen : isClaimed job.status = false := by
        rw [hfailed]
        rfl
      refine h.unclaimed (fun other => ?_) fun other found hfound hclaimed => ?_
      · rw [hfind]
        split
        · rename_i hsame
          rw [hsame]
          exact .inr (.inr ⟨job, _, hjob, hopen, rfl, rfl, AnsibleJobStatus.noConfusion⟩)
        · exact .inr (.inl rfl)
      · rw [hfind, if_neg]
        · exact hfound
        · rintro rfl
          obtain rfl := Option.some.inj (hjob.symm.trans hfound)
          rw [hopen] at hclaimed
          cases hclaimed
  | deleteTarget id =>
    obtain ⟨store, hstore, rfl⟩ := Option.map_eq_some_iff.mp hstep
    obtain ⟨hfind, hstay, -⟩ := JobStore.deleteTarget_cases hregular.kept hstore
    have hremoved : Orderly (s.withStore store) := by
      refine h.unclaimed (fun other => ?_) fun other job hjob hclaimed => hstay other job hjob ?_
      · cases hfound : store.find other with
        | none => exact .inl rfl
        | some job => exact .inr (.inl (hfind other job hfound).symm)
      · cases hstatus : job.status with
        | checking => rfl
        | applying => rfl
        | _ =>
          rw [hstatus] at hclaimed
          cases hclaimed
    exact ⟨hremoved.turns, hremoved.status, hremoved.awaited, hremoved.alone⟩
  | putTarget target =>
    obtain rfl := Option.some.inj hstep
    have hput := h.same (JobStore.putTarget_cases hregular.kept target).1
    exact ⟨hput.turns, hput.status, hput.awaited, hput.alone⟩

theorem orderly_fresh (persistent : Bool) : Orderly (.fresh persistent) where
  turns id log hlog := by simp [AgentServer.fresh] at hlog
  status id job hjob := by
    cases persistent with
    | true => simp [AgentServer.fresh, JobStore.find] at hjob
    | false => simp [AgentServer.fresh, JobStore.find, AnsibleJobCoordinator.default] at hjob
  awaited n call copy hcall := by simp [AgentServer.fresh] at hcall
  alone n m call call' copy copy' hcall := by simp [AgentServer.fresh] at hcall

theorem orderly_of_oneWriter {read : JsonReader}
    (h : (reportMachine read).Reach (OneWriter read) s) : Orderly s := by
  refine h.invariant (I := Orderly) ?_ ?_
  · rintro s ⟨persistent, rfl⟩
    exact orderly_fresh persistent
  · intro s action s' hreach horderly hok hstep
    exact horderly.step (regular_of_reach hreach) hok hstep

/-! ### Every report -/

/-- Jobs that no call writes stay as they are. -/
private theorem Orderly.onlyClaimed_advance (h : Orderly s) (hregular : Regular s) {n : Nat}
    {input : Input} (hstep : s.advance n input = some s') :
    OnlyClaimed s (.advance n input) s' := by
  intro call hcall _ id hchanges
  simp only [AgentServer.advance, hcall, Option.bind_some, Option.map_eq_some_iff] at hstep
  obtain ⟨⟨s'', phase⟩, hnext, rfl⟩ := hstep
  change Changes s s'' id at hchanges
  have haccess := access_of_next hnext
  cases haccess with
  | refused => simp [Changes] at hchanges
  | counted persistent hphase => simp [Changes] at hchanges
  | missing persistent hphase gone => simp [Changes] at hchanges
  | done hphase => simp [Changes] at hchanges
  | recounted persistent hphase => simp [Changes] at hchanges
  | @memory c verdict inMemory hphase =>
    left
    have hawaits := h.awaited n call verdict.job hcall (by rw [hphase]; rfl)
    rw [hphase] at hawaits
    have hkept := hregular.kept
    rw [inMemory] at hkept
    obtain ⟨c', job, hjob, hclaimed, hwrite, hfind⟩ :=
      @writeMemory_of_awaits s c verdict input.now hkept inMemory call.writer hawaits
    by_cases hid : id = verdict.job.id
    · exact ⟨job, hid ▸ hjob, hclaimed⟩
    · exfalso
      obtain ⟨-, hstore⟩ := writeMemory_cases s c call.writer verdict input.now
      have hafter : (s.writeMemory c call.writer verdict input.now).1.store
          = .memory (runAll (resultOps verdict input.now) c).1 := by
        rcases hstore with heq | ⟨_, -, -, heq⟩
        · rw [heq]
          rfl
        · rw [heq]
          rfl
      have hc' : (runAll (resultOps verdict input.now) c).1 = c' := by
        rw [hwrite] at hafter
        exact (JobStore.memory.inj hafter).symm
      rw [Changes, hafter, inMemory] at hchanges
      rcases hchanges with hstatus | hevents
      · refine hstatus (congrArg _ ?_)
        change (runAll (resultOps verdict input.now) c).1.jobs.get id = c.jobs.get id
        rw [hc', hfind, if_neg hid]
      · exact hevents (eventsOf_runAll hid)
  | @row db copy before events next persistent hphase found =>
    left
    obtain ⟨job, hjob, hclaimed, -⟩ :=
      (h.awaited n call copy hcall (by rw [hphase]; rfl)).claimed
    by_cases hid : id = copy.id
    · exact ⟨job, hid ▸ hjob, hclaimed⟩
    · exfalso
      rw [Changes, persistent] at hchanges
      rcases hchanges with hstatus | hevents
      · refine hstatus (congrArg _ ?_)
        change (db.jobs.put copy).get id = db.jobs.get id
        rw [JobTable.get_put, if_neg hid]
      · exact hevents rfl
  | @appended db db' other event events sequence persistent hphase inserted =>
    right
    obtain ⟨-, -, rfl⟩ := appendEvent_ok inserted
    rw [hphase, Phase.appends]
    by_contra hne
    rw [Changes, persistent] at hchanges
    rcases hchanges with hstatus | hevents
    · exact hstatus rfl
    · refine hevents ?_
      change ((db.events.put other _).get id).getD [] = (db.events.get id).getD []
      rw [Table.get_put_ne _ _ (Ne.symm hne)]

/-- **Only claimed jobs are changed** by the steps of reports. -/
theorem Orderly.onlyClaimed (h : Orderly s) (hregular : Regular s) {read : JsonReader}
    {action : ServerAction} (hstep : s.step read action = some s') : OnlyClaimed s action s' := by
  cases action with
  | report n id token response input =>
    simp only [AgentServer.step, AgentServer.report] at hstep
    split at hstep
    · cases hstep
    · rw [← Option.some.inj hstep]
      rfl
  | advance n input => exact h.onlyClaimed_advance hregular hstep
  | _ => exact trivial

/-- The row of a claimed job takes a finished copy. -/
private theorem update_of_awaits {db : JobDatabase} {phase : Phase} {copy : AnsibleJob}
    (h : Awaits (.database db) phase copy) :
    ∃ row, db.jobs.get copy.id = some row ∧ db.jobs.update copy = .ok (db.jobs.put copy) := by
  obtain ⟨row, hrow, -, -⟩ := h.claimed
  have hget : db.jobs.get copy.id = some row := hrow
  have hfree : db.jobs.activeConflict copy = false := by
    rw [JobTable.activeConflict_eq_false, h.inactive]
    intro hactive
    cases hactive
  refine ⟨row, hget, ?_⟩
  simp only [JobTable.update, hget, hfree, Bool.false_eq_true, if_false]

/-- A write that is awaited succeeds, unless the database fails. -/
private theorem next_of_awaits (hregular : Regular s) {call : Call} {copy : AnsibleJob}
    {input : Input} (hnext : nextWrite s.store call.phase = some copy)
    (hawaits : Awaits s.store call.phase copy) (hfails : input.fails = false) :
    ∃ store phase before, s.next call input
        = some ((s.withStore store).note copy.id (.written call.writer before), phase) ∧
      (store.find copy.id).map (·.status) = some copy.status := by
  unfold nextWrite at hnext
  split at hnext
  · rename_i c verdict hstore hphase
    obtain rfl := Option.some.inj hnext
    rw [hphase] at hawaits
    have hkept := hregular.kept
    rw [hstore] at hkept
    obtain ⟨c', found, -, -, hwrite, hfind⟩ :=
      @writeMemory_of_awaits s c verdict input.now hkept hstore call.writer hawaits
    refine ⟨.memory c', .answered (.ok ()), found.status, ?_, ?_⟩
    · simp only [AgentServer.next, hstore, hphase, hwrite]
    · change (c'.jobs.get verdict.job.id).map (·.status) = some verdict.job.status
      rw [hfind, if_pos rfl]
      rfl
  · rename_i db job events next hstore hphase
    obtain rfl := Option.some.inj hnext
    rw [hstore] at hawaits
    obtain ⟨row, hrow, hupdate⟩ := update_of_awaits hawaits
    refine ⟨.database { db with jobs := db.jobs.put job }, .appending job.id events next,
      row.status, ?_, ?_⟩
    · simp only [AgentServer.next, hstore, hphase, hfails, Bool.false_eq_true, if_false,
        AgentServer.writeRow, hupdate, Except.map, hrow]
    · change ((db.jobs.put job).get job.id).map (·.status) = some job.status
      rw [JobTable.get_put, if_pos rfl]
      rfl
  · cases hnext

theorem copy_of_nextWrite {store : JobStore} {phase : Phase} {copy : AnsibleJob}
    (h : nextWrite store phase = some copy) : phase.copy? = some copy := by
  unfold nextWrite at h
  split at h
  · exact h
  · exact h
  · cases h

/-- **A report that comes to its write** finishes its job. -/
theorem Orderly.takesEffect (h : Orderly s) (hregular : Regular s) : TakesEffect s := by
  intro n call copy input hcall hwriter hnext hfails
  have hawaits := h.awaited n call copy hcall (copy_of_nextWrite hnext)
  obtain ⟨store, phase, before, haccess, hstatus⟩ := next_of_awaits hregular hnext hawaits hfails
  refine ⟨((s.withStore store).note copy.id (.written call.writer before)).withCall n
    { call with phase := phase }, before, ?_, hstatus, ?_⟩
  · rw [AgentServer.advance, hcall, Option.bind_some, haccess, Option.map_some]
  · change ((s.withStore store).note copy.id _).log.get copy.id = _
    rw [get_note, if_pos rfl, hwriter]
    rfl

/-- **One report for each claim**, in every state of a run that meets the condition. -/
theorem reportsOnce_of_oneWriter {read : JsonReader}
    (h : (reportMachine read).Reach (OneWriter read) s) : ReportsOnce read s where
  turns := (orderly_of_oneWriter h).turns
  claimed _ _ hstep := (orderly_of_oneWriter h).onlyClaimed (regular_of_reach h) hstep
  effect := (orderly_of_oneWriter h).takesEffect (regular_of_reach h)

/-! ### Two runs -/

/-- A check of a Windows server with an agent. -/
def healthCheck : AnsibleJobRequest where
  operation := .healthCheck
  target := .target ⟨⟨7⟩⟩
  lifecycle := .managed
  mode := .check
  parameters := .healthCheck
  secretRefs := [⟨⟨9⟩⟩]
  idempotencyKey := "check"
  confirmed := false
  actorRole := .admin

/-- The agent has carried out the check. -/
def checkResponse : AgentCommandResponse := ⟨⟨1⟩, true, 0, "ok", "", false, 12⟩

/-- The check is submitted to a database, claimed, and reported once. -/
def claimedCheck : List ServerAction :=
  [.putTarget (sampleTarget .windowsServer .agent),
    .submit (.queuedFor healthCheck ⟨⟨1⟩⟩ 0),
    .appendQueued ⟨⟨1⟩⟩ 0,
    .claim 0 ⟨⟨7⟩⟩ ⟨⟨1⟩⟩ .right 1,
    .report 0 ⟨⟨1⟩⟩ .right checkResponse ⟨2, false⟩,
    .advance 0 ⟨2, false⟩,
    .advance 0 ⟨2, false⟩]

/-- The claim is answered by the report. -/
theorem claimed_job_finished :
    ∃ s, (reportMachine fun _ => none).Reach (OneWriter fun _ => none) s ∧
      (s.store.find ⟨⟨1⟩⟩).map (·.status) = some .succeeded ∧
      s.log.get ⟨⟨1⟩⟩ = some [.claimed, .written .report .checking] ∧
      ReportsOnce (fun _ => none) s := by
  have hrun : ∃ s ∈ (reportMachine fun _ => none).exec (OneWriter fun _ => none) (.fresh true)
      claimedCheck, (s.store.find ⟨⟨1⟩⟩).map (·.status) = some .succeeded ∧
        s.log.get ⟨⟨1⟩⟩ = some [.claimed, .written .report .checking] := by
    decide +kernel
  obtain ⟨s, hexec, hstatus, hlog⟩ := hrun
  have hreach : (reportMachine fun _ => none).Reach (OneWriter fun _ => none) s :=
    .exec (.init ⟨true, rfl⟩) _ hexec
  exact ⟨s, hreach, hstatus, hlog, reportsOnce_of_oneWriter hreach⟩

/-- The check is submitted to the coordinator and reported without a claim. -/
def unclaimedCheck : List ServerAction :=
  [.putTarget (sampleTarget .windowsServer .agent),
    .submitRequest healthCheck ⟨⟨1⟩⟩ 0,
    .report 0 ⟨⟨1⟩⟩ .right checkResponse ⟨2, false⟩,
    .advance 0 ⟨2, false⟩]

/-- A report finishes a job that was never claimed. -/
theorem queued_job_finished :
    ¬ ∀ read s, (reportMachine read).Reach Machine.Any s → ReportsOnce read s := by
  intro hall
  have hrun : ∃ s ∈ (reportMachine fun _ => none).exec Machine.Any (.fresh false) unclaimedCheck,
      s.log.get ⟨⟨1⟩⟩ = some [.written .report .queued] := by
    decide +kernel
  obtain ⟨s, hexec, hlog⟩ := hrun
  have hturns := (hall _ s (.exec (.init ⟨false, rfl⟩) _ hexec)).turns _ _ hlog
  exact absurd hturns (by decide)

end Lxcup.Reports
