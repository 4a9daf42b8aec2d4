import Lxcup.Agreement.Retry
import Lxcup.Reports.Steps

/-!
# Handing a job to a Windows agent, from memory and from the database

Without a database the job for an agent is looked for in the listing of the coordinator, which is
sorted for display: the newest job comes first.  The query sorts the other way round.  Whether the
target is busy is asked of its lock in memory, and of the statuses of its jobs in the query.

## Main definitions

* `claimInMemoryWindowsJob`, `claimNextWindowsAgentJob` — the two versions.
* `ClaimsAgree` — both hand out the oldest job, or nothing, and leave the same jobs.

## Main results

* `claimsAgree_iff` — they agree if and only if the lock of the target is held by another job
  exactly when the target has an active one, and an idle target has only one job to hand out.
* `newest_job_first` — two queued jobs of an idle target are handed out in different orders.
-/

namespace Lxcup.Agreement

open Lxcup.Lib Lxcup.Core Lxcup.Ansible Lxcup.Persistence Lxcup.Server
open Lxcup.Submission (JobDatabase)
open Lxcup.Reports (appendStatusEvent appends_statuses)
open Lxcup.Reports.JobStore (candidate)

/-! ### The two versions -/

/-- `AnsibleJobCoordinator::jobs`: the newest first. -/
def listJobs (c : AnsibleJobCoordinator) : List AnsibleJob :=
  c.jobs.values.insertionSort fun a b => b.createdAt ≤ a.createdAt

/-- The answer when a transition of the claim is refused. -/
def workflowBusy : ApiError := .conflict "ansible_target_busy" "target has an active workflow"

/-- `claim_in_memory_windows_job`. -/
def claimInMemoryWindowsJob (c : AnsibleJobCoordinator) (targetId : TargetId) (now : Timestamp) :
    Except ApiError (Option AnsibleJob) × AnsibleJobCoordinator :=
  match (listJobs c).find? (candidate targetId) with
  | none => (.ok none, c)
  | some job =>
    match c.transition job.id .checking now with
    | .error _ => (.error workflowBusy, c)
    | .ok (claimed, c) =>
      if job.mode ≠ .apply then (.ok (some claimed), c)
      else
        match c.transition job.id .planned now with
        | .error _ => (.error workflowBusy, c)
        | .ok (_, c) =>
          match c.transition job.id .applying now with
          | .error _ => (.error workflowBusy, c)
          | .ok (claimed, c) => (.ok (some claimed), c)

/-- `claim_next_windows_agent_job`, one transaction: a failing statement rolls it back. -/
def claimNextWindowsAgentJob (db : JobDatabase) (targetId : TargetId) (now : Timestamp) :
    Except RepositoryError (Option AnsibleJob) × JobDatabase :=
  let rows := db.jobs.rows.values.insertionSort fun a b => a.createdAt ≤ b.createdAt
  match rows.find? (JobTable.windowsClaimable db.targets db.jobs targetId) with
  | none => (.ok none, db)
  | some job =>
    match job.transitionsTo (claimPath job.mode) now with
    | .error _ => (.error (.invalidValue "ansible job status"), db)
    | .ok claimed =>
      match db.jobs.update claimed with
      | .error error => (.error error, db)
      | .ok jobs =>
        let db := { db with jobs := jobs }
        (.ok (some claimed), (claimPath job.mode).foldl (appendStatusEvent · job.id now ·) db)

/-- The job that an answer hands out. -/
def handedOut {ε : Type} : Except ε (Option AnsibleJob) → Option AnsibleJob
  | .ok job => job
  | .error _ => none

/-! ### Agreement -/

/-- The job as it is handed out. -/
def claimedJob (job : AnsibleJob) (now : Timestamp) : AnsibleJob :=
  { job with status := claimedStatus job.mode, updatedAt := now }

/-- A job that the agent of the target may be handed, if the target is idle. -/
def Waits (c : AnsibleJobCoordinator) (targetId : TargetId) (job : AnsibleJob) : Prop :=
  c.jobs.get job.id = some job ∧ candidate targetId job = true

/-- None that waits was created before the job. -/
def Oldest (c : AnsibleJobCoordinator) (targetId : TargetId) (job : AnsibleJob) : Prop :=
  Waits c targetId job ∧ ∀ other, Waits c targetId other → job.createdAt ≤ other.createdAt

/-- None that waits was created after the job. -/
def Newest (c : AnsibleJobCoordinator) (targetId : TargetId) (job : AnsibleJob) : Prop :=
  Waits c targetId job ∧ ∀ other, Waits c targetId other → other.createdAt ≤ job.createdAt

/-- Both versions hand out the same and leave the same jobs. -/
structure ClaimsAgree (c : AnsibleJobCoordinator) (db : JobDatabase) (targetId : TargetId)
    (now : Timestamp) : Prop where
  /-- Nothing while a job of the target is active, and nothing when no job waits. -/
  nothing : ActiveOn c (.target targetId) ∨ (∀ job, ¬ Waits c targetId job) →
    handedOut (claimInMemoryWindowsJob c targetId now).1 = none ∧
    handedOut (claimNextWindowsAgentJob db targetId now).1 = none
  /-- The oldest job for an idle target. -/
  oldest : ¬ ActiveOn c (.target targetId) → ∀ job, Oldest c targetId job →
    handedOut (claimInMemoryWindowsJob c targetId now).1 = some (claimedJob job now) ∧
    handedOut (claimNextWindowsAgentJob db targetId now).1 = some (claimedJob job now)
  /-- The same jobs afterwards. -/
  same : Mirrors (claimInMemoryWindowsJob c targetId now).2
    (claimNextWindowsAgentJob db targetId now).2.jobs

/-- The jobs of the target were created at different times. -/
def DistinctTimes (c : AnsibleJobCoordinator) (targetId : TargetId) : Prop :=
  ∀ id id' job job', c.jobs.get id = some job → c.jobs.get id' = some job' →
    job.target = .target targetId → job'.target = .target targetId →
    job.createdAt = job'.createdAt → id = id'

/-- For the newest job that waits, the lock of the target is held by another job exactly when a
job of the target is active; and no other job waits while none is active. -/
def OneChoice (c : AnsibleJobCoordinator) (targetId : TargetId) : Prop :=
  ∀ job, Newest c targetId job →
    (ActiveOn c (.target targetId) ↔ c.lockedByOther (.target targetId) job.id = true) ∧
    (¬ ActiveOn c (.target targetId) → ∀ other, Waits c targetId other → other = job)

theorem keyed_of_mirrors {c : AnsibleJobCoordinator} {jobs : JobTable} (hsame : Mirrors c jobs)
    (id : AnsibleJobId) (job : AnsibleJob) (hjob : c.jobs.get id = some job) : job.id = id :=
  jobs.get_id ((hsame id).symm.trans hjob)

/-! ### The claim in memory -/

theorem transition_eq {c : AnsibleJobCoordinator} {id : AnsibleJobId} {job : AnsibleJob}
    (next : AnsibleJobStatus) (now : Timestamp) (hjob : c.jobs.get id = some job)
    (hedge : job.status.canTransitionTo next = true)
    (hfree : next = .checking → c.lockedByOther job.target id = false) :
    c.transition id next now
      = .ok ({ job with status := next, updatedAt := now }, c.moved id job next now) := by
  have hmove := (@AnsibleJob.transitionTo_ok job _ next now).mpr ⟨hedge, rfl⟩
  have hnotBusy : ¬ (next = .checking ∧ c.lockedByOther job.target id = true) := by
    rintro ⟨hnext, hbusy⟩
    rw [hfree hnext] at hbusy
    cases hbusy
  rw [AnsibleJobCoordinator.transition, hjob]
  dsimp only
  rw [if_neg hnotBusy, hmove]
  rfl

theorem transition_busy {c : AnsibleJobCoordinator} {id : AnsibleJobId} {job : AnsibleJob}
    (now : Timestamp) (hjob : c.jobs.get id = some job)
    (hbusy : c.lockedByOther job.target id = true) :
    c.transition id .checking now = .error .targetBusy := by
  rw [AnsibleJobCoordinator.transition, hjob]
  dsimp only
  rw [if_pos ⟨rfl, hbusy⟩]

theorem candidate_iff {targetId : TargetId} {job : AnsibleJob} :
    candidate targetId job = true ↔ job.target = .target targetId ∧ job.status = .queued ∧
      JobTable.isWindowsAgentOperation job.operation = true := by
  simp [candidate, and_assoc]

/-- The search in the listing finds the newest job that waits. -/
theorem newest_of_find? {c : AnsibleJobCoordinator} {targetId : TargetId} {job : AnsibleJob}
    (hkeyed : ∀ id job, c.jobs.get id = some job → job.id = id)
    (h : (listJobs c).find? (candidate targetId) = some job) : Newest c targetId job := by
  obtain ⟨hmem, hcandidate, hfirst⟩ := find?_insertionSort h
  obtain ⟨id, hjob⟩ := Table.mem_values.mp hmem
  obtain rfl := hkeyed id job hjob
  refine ⟨⟨hjob, hcandidate⟩, fun other hother => ?_⟩
  exact hfirst other (Table.mem_values.mpr ⟨_, hother.1⟩) hother.2

theorem find?_eq_none_iff {c : AnsibleJobCoordinator} {targetId : TargetId}
    (hkeyed : ∀ id job, c.jobs.get id = some job → job.id = id) :
    (listJobs c).find? (candidate targetId) = none ↔ ∀ job, ¬ Waits c targetId job := by
  rw [listJobs, find?_insertionSort_eq_none]
  constructor
  · intro hnone job hwaits
    have hfalse := hnone job (Table.mem_values.mpr ⟨_, hwaits.1⟩)
    rw [hwaits.2] at hfalse
    cases hfalse
  · intro hnone job hmem
    obtain ⟨id, hjob⟩ := Table.mem_values.mp hmem
    obtain rfl := hkeyed id job hjob
    by_contra hcandidate
    exact hnone job ⟨hjob, by simpa using hcandidate⟩

theorem DistinctTimes.eq {c : AnsibleJobCoordinator} {targetId : TargetId}
    (h : DistinctTimes c targetId) {job job' : AnsibleJob} (hjob : Waits c targetId job)
    (hjob' : Waits c targetId job') (htime : job.createdAt = job'.createdAt) : job = job' := by
  have hid := h _ _ _ _ hjob.1 hjob'.1 (candidate_iff.mp hjob.2).1 (candidate_iff.mp hjob'.2).1
    htime
  exact Option.some.inj (hjob.1.symm.trans (hid ▸ hjob'.1))

theorem find?_of_newest {c : AnsibleJobCoordinator} {targetId : TargetId} {job : AnsibleJob}
    (hkeyed : ∀ id job, c.jobs.get id = some job → job.id = id)
    (hdistinct : DistinctTimes c targetId) (hnewest : Newest c targetId job) :
    (listJobs c).find? (candidate targetId) = some job := by
  cases hfind : (listJobs c).find? (candidate targetId) with
  | none => exact absurd hnewest.1 ((find?_eq_none_iff hkeyed).mp hfind job)
  | some found =>
    have hfound := newest_of_find? hkeyed hfind
    have htime := le_antisymm (hnewest.2 _ hfound.1) (hfound.2 _ hnewest.1)
    exact congrArg some (hdistinct.eq hfound.1 hnewest.1 htime)

/-- With the lock of the target held by another job nothing is handed out. -/
theorem memory_busy {c : AnsibleJobCoordinator} {targetId : TargetId} {job : AnsibleJob}
    (now : Timestamp) (hfind : (listJobs c).find? (candidate targetId) = some job)
    (hnewest : Newest c targetId job)
    (hbusy : c.lockedByOther (.target targetId) job.id = true) :
    claimInMemoryWindowsJob c targetId now = (.error workflowBusy, c) := by
  have htarget := (candidate_iff.mp hnewest.1.2).1
  rw [claimInMemoryWindowsJob, hfind]
  dsimp only
  rw [transition_busy now hnewest.1.1 (htarget ▸ hbusy)]

/-- With the lock of the target free the newest job is handed out. -/
theorem memory_claims {c : AnsibleJobCoordinator} {targetId : TargetId} {job : AnsibleJob}
    (now : Timestamp) (hfind : (listJobs c).find? (candidate targetId) = some job)
    (hnewest : Newest c targetId job)
    (hfree : c.lockedByOther (.target targetId) job.id = false) :
    ∃ c', claimInMemoryWindowsJob c targetId now = (.ok (some (claimedJob job now)), c') ∧
      ∀ id, c'.jobs.get id = if id = job.id then some (claimedJob job now) else c.jobs.get id := by
  obtain ⟨htarget, hqueued, -⟩ := candidate_iff.mp hnewest.1.2
  let checked : AnsibleJob := { job with status := .checking, updatedAt := now }
  let c₁ := c.moved job.id job .checking now
  have hcheck := transition_eq .checking now hnewest.1.1 (by rw [hqueued]; rfl)
    (fun _ => htarget ▸ hfree)
  have hjobs₁ : ∀ id, c₁.jobs.get id = if id = job.id then some checked else c.jobs.get id :=
    fun id => AnsibleJobCoordinator.get_moved ..
  rw [claimInMemoryWindowsJob, hfind]
  dsimp only
  rw [hcheck]
  dsimp only
  by_cases hmode : job.mode = .apply
  · rw [if_neg (not_not.mpr hmode)]
    -- the job has the lock now, and goes on to be applied
    let planned : AnsibleJob := { job with status := .planned, updatedAt := now }
    have hchecked : c₁.jobs.get job.id = some checked := by rw [hjobs₁, if_pos rfl]
    have hplan := transition_eq .planned now hchecked rfl (fun h => by cases h)
    let c₂ := c₁.moved job.id checked .planned now
    have hjobs₂ : ∀ id, c₂.jobs.get id = if id = job.id then some planned else c.jobs.get id := by
      intro id
      rw [AnsibleJobCoordinator.get_moved, hjobs₁]
      split <;> rfl
    have hplanned : c₂.jobs.get job.id = some planned := by rw [hjobs₂, if_pos rfl]
    have happly := transition_eq .applying now hplanned rfl (fun h => by cases h)
    refine ⟨c₂.moved job.id planned .applying now, ?_, fun id => ?_⟩
    · rw [hplan]
      dsimp only
      rw [happly]
      simp [claimedJob, claimedStatus, hmode, planned]
    · rw [AnsibleJobCoordinator.get_moved, hjobs₂]
      simp only [claimedJob, claimedStatus, if_pos hmode, planned]
      split <;> rfl
  · rw [if_pos hmode]
    refine ⟨c₁, ?_, fun id => ?_⟩
    · simp [claimedJob, claimedStatus, hmode]
      rfl
    · rw [hjobs₁]
      simp [claimedJob, claimedStatus, hmode, checked]

/-! ### The claim in the database -/

/-- From `queued` the way of a claim is open. -/
theorem transitionsTo_claimPath {job : AnsibleJob} (hqueued : job.status = .queued)
    (now : Timestamp) :
    job.transitionsTo (claimPath job.mode) now = .ok (claimedJob job now) := by
  by_cases hmode : job.mode = .apply
  · simp [AnsibleJob.transitionsTo, claimPath, claimedJob, claimedStatus, hmode,
      AnsibleJob.transitionTo, hqueued, AnsibleJobStatus.canTransitionTo]
    rfl
  · simp [AnsibleJob.transitionsTo, claimPath, claimedJob, claimedStatus, hmode,
      AnsibleJob.transitionTo, hqueued, AnsibleJobStatus.canTransitionTo]

theorem targetIdle_iff {c : AnsibleJobCoordinator} {jobs : JobTable} (hsame : Mirrors c jobs)
    {target : ResourceTarget} :
    JobTable.targetIdle jobs target = true ↔ ¬ ActiveOn c target := by
  have hgets : ∀ id, c.jobs.get id = jobs.get id := hsame
  simp only [JobTable.targetIdle, Bool.not_eq_true', JobTable.any_eq_false, ActiveOn, not_exists,
    not_and, Table.mem_values, ← hgets, Bool.and_eq_false_imp, decide_eq_true_eq]
  constructor
  · intro hidle job hmem htarget hactive
    obtain ⟨id, hjob⟩ := hmem
    rw [hidle id job hjob htarget] at hactive
    cases hactive
  · intro hidle id job hjob htarget
    simpa using hidle job ⟨id, hjob⟩ htarget

section Table

variable {c : AnsibleJobCoordinator} {db : JobDatabase} {targetId : TargetId}
  (hsame : Mirrors c db.jobs) (hwindows : JobTable.isWindows db.targets (.target targetId) = true)

include hsame hwindows

/-- The condition of the query, on a Windows target: the job waits, and the target is idle. -/
theorem windowsClaimable_iff {job : AnsibleJob} :
    JobTable.windowsClaimable db.targets db.jobs targetId job = true ↔
      candidate targetId job = true ∧ ¬ ActiveOn c (.target targetId) := by
  rw [← targetIdle_iff hsame, candidate_iff]
  simp only [JobTable.windowsClaimable, Bool.and_eq_true, decide_eq_true_eq]
  constructor
  · rintro ⟨⟨⟨⟨htarget, -⟩, hqueued⟩, hoperation⟩, hidle⟩
    exact ⟨⟨htarget, hqueued, hoperation⟩, htarget ▸ hidle⟩
  · rintro ⟨⟨htarget, hqueued, hoperation⟩, hidle⟩
    exact ⟨⟨⟨⟨htarget, htarget ▸ hwindows⟩, hqueued⟩, hoperation⟩, htarget ▸ hidle⟩

/-- Nothing is handed out for a busy target, or when no job waits. -/
theorem table_none (now : Timestamp)
    (h : ActiveOn c (.target targetId) ∨ ∀ job, ¬ Waits c targetId job) :
    claimNextWindowsAgentJob db targetId now = (.ok none, db) := by
  have hnone : ∀ job ∈ db.jobs.rows.values,
      JobTable.windowsClaimable db.targets db.jobs targetId job = false := by
    intro job hmem
    obtain ⟨id, hjob⟩ := Table.mem_values.mp hmem
    obtain rfl : job.id = id := db.jobs.get_id hjob
    by_contra hclaimable
    obtain ⟨hcandidate, hidle⟩ :=
      (windowsClaimable_iff hsame hwindows).mp (by simpa using hclaimable)
    rcases h with hactive | hnone
    · exact hidle hactive
    · exact hnone job ⟨(hsame job.id).trans hjob, hcandidate⟩
  rw [claimNextWindowsAgentJob]
  dsimp only
  rw [find?_insertionSort_eq_none.mpr hnone]

/-- The oldest job that waits is handed out for an idle target. -/
theorem table_claims (now : Timestamp) (hidle : ¬ ActiveOn c (.target targetId))
    {other : AnsibleJob} (hwaits : Waits c targetId other) :
    ∃ job db', Oldest c targetId job ∧
      claimNextWindowsAgentJob db targetId now = (.ok (some (claimedJob job now)), db') ∧
      db'.jobs = db.jobs.put (claimedJob job now) := by
  rw [claimNextWindowsAgentJob]
  dsimp only
  split
  case h_1 hnone =>
    -- the job that waits is found by the query
    have hrow := (hsame other.id).symm.trans hwaits.1
    have hfalse := find?_insertionSort_eq_none.mp hnone other (Table.mem_values.mpr ⟨_, hrow⟩)
    rw [(windowsClaimable_iff hsame hwindows).mpr ⟨hwaits.2, hidle⟩] at hfalse
    cases hfalse
  case h_2 job hfind =>
    obtain ⟨hmem, hclaimable, hfirst⟩ := find?_insertionSort hfind
    obtain ⟨id, hjob⟩ := Table.mem_values.mp hmem
    obtain rfl : job.id = id := db.jobs.get_id hjob
    have hcandidate := ((windowsClaimable_iff hsame hwindows).mp hclaimable).1
    have holdest : Oldest c targetId job := by
      refine ⟨⟨(hsame job.id).trans hjob, hcandidate⟩, fun job' hjob' => ?_⟩
      have hrow := (hsame job'.id).symm.trans hjob'.1
      exact hfirst job' (Table.mem_values.mpr ⟨_, hrow⟩)
        ((windowsClaimable_iff hsame hwindows).mpr ⟨hjob'.2, hidle⟩)
    have hmove : job.transitionsTo (claimPath job.mode) now = .ok (claimedJob job now) :=
      transitionsTo_claimPath (candidate_iff.mp hcandidate).2.1 now
    -- the unique index has no other active job of the target
    have hupdate : db.jobs.update (claimedJob job now)
        = .ok (db.jobs.put (claimedJob job now)) := by
      have hfree : db.jobs.activeConflict (claimedJob job now) = false := by
        rw [JobTable.activeConflict_eq_false]
        intro _ id row hrow _ htarget
        by_contra hactive
        have hother : row ∈ c.jobs.values := Table.mem_values.mpr ⟨id, (hsame id).trans hrow⟩
        exact hidle ⟨row, hother, htarget.trans (candidate_iff.mp hcandidate).1,
          by simpa using hactive⟩
      have hself : db.jobs.get (claimedJob job now).id = some job := hjob
      simp [JobTable.update, hself, hfree]
    rw [hmove]
    dsimp only
    rw [hupdate]
    exact ⟨job, _, holdest, rfl, (appends_statuses _ _ _ _).jobs⟩

/-- What the agreement says about the lock and the jobs that wait. -/
theorem ClaimsAgree.oneChoice {now : Timestamp} (hdistinct : DistinctTimes c targetId)
    (hagree : ClaimsAgree c db targetId now) : OneChoice c targetId := by
  intro job hnewest
  have hfind := find?_of_newest (keyed_of_mirrors hsame) hdistinct hnewest
  cases hlock : c.lockedByOther (.target targetId) job.id with
  | true =>
    -- an idle target would give its oldest job to the query
    have hmemory := memory_busy now hfind hnewest hlock
    have hactive : ActiveOn c (.target targetId) := by
      by_contra hidle
      obtain ⟨oldest, -, holdest, -⟩ := table_claims hsame hwindows now hidle hnewest.1
      have hnothing := (hagree.oldest hidle oldest holdest).1
      rw [hmemory] at hnothing
      cases hnothing
    exact ⟨by simp [hactive], fun hidle => absurd hactive hidle⟩
  | false =>
    obtain ⟨c', hmemory, -⟩ := memory_claims now hfind hnewest hlock
    have hidle : ¬ ActiveOn c (.target targetId) := by
      intro hactive
      have hnothing := (hagree.nothing (.inl hactive)).1
      rw [hmemory] at hnothing
      cases hnothing
    refine ⟨by simp [hidle], fun _ other hother => ?_⟩
    -- the job that is handed out is the newest and the oldest
    obtain ⟨oldest, -, holdest, -⟩ := table_claims hsame hwindows now hidle hnewest.1
    have hhanded := (hagree.oldest hidle oldest holdest).1
    rw [hmemory] at hhanded
    have hclaimed : claimedJob job now = claimedJob oldest now := Option.some.inj hhanded
    have hid : job.id = oldest.id := congrArg (·.id) hclaimed
    have heq : job = oldest := Option.some.inj (hnewest.1.1.symm.trans (hid ▸ holdest.1.1))
    exact hdistinct.eq hother hnewest.1
      (le_antisymm (hnewest.2 _ hother) (heq ▸ holdest.2 _ hother))

theorem claimsAgree_of_oneChoice (now : Timestamp) (hchoice : OneChoice c targetId) :
    ClaimsAgree c db targetId now := by
  have hkeyed := keyed_of_mirrors hsame
  cases hfind : (listJobs c).find? (candidate targetId) with
  | none =>
    have hnone := (find?_eq_none_iff hkeyed).mp hfind
    have htable := table_none hsame hwindows now (.inr hnone)
    have hmemory : claimInMemoryWindowsJob c targetId now = (.ok none, c) := by
      rw [claimInMemoryWindowsJob, hfind]
    exact
      { nothing := fun _ => ⟨by rw [hmemory]; rfl, by rw [htable]; rfl⟩
        oldest := fun _ job holdest => absurd holdest.1 (hnone job)
        same := by rw [hmemory, htable]; exact hsame }
  | some job =>
    have hnewest := newest_of_find? hkeyed hfind
    obtain ⟨hlock, honly⟩ := hchoice job hnewest
    by_cases hactive : ActiveOn c (.target targetId)
    · have htable := table_none hsame hwindows now (.inl hactive)
      have hmemory := memory_busy now hfind hnewest (hlock.mp hactive)
      exact
        { nothing := fun _ => ⟨by rw [hmemory]; rfl, by rw [htable]; rfl⟩
          oldest := fun hidle => absurd hactive hidle
          same := by rw [hmemory, htable]; exact hsame }
    · have hfree : c.lockedByOther (.target targetId) job.id = false := by
        simpa [hactive] using hlock
      obtain ⟨c', hmemory, hjobs⟩ := memory_claims now hfind hnewest hfree
      obtain ⟨oldest, db', holdest, htable, hrows⟩ :=
        table_claims hsame hwindows now hactive hnewest.1
      -- the oldest job that waits is the newest one
      obtain rfl := honly hactive oldest holdest.1
      exact
        { nothing := by
            rintro (h | h)
            · exact absurd h hactive
            · exact absurd hnewest.1 (h _)
          oldest := by
            intro _ other hother
            obtain rfl := honly hactive other hother.1
            exact ⟨by rw [hmemory]; rfl, by rw [htable]; rfl⟩
          same := by
            intro id
            rw [hmemory, htable]
            dsimp only
            rw [hrows, hjobs, JobTable.get_put, ← hsame id]
            rfl }

/-- **When the two claims agree.**  Over the same jobs of a Windows target, created at different
times, both versions hand out the oldest job that waits, or nothing, and leave the same jobs, if
and only if no job waits, or the lock of the target is held by a job other than the newest one
that waits exactly when a job of the target is active, and this newest one is the only one when
none is active. -/
theorem claimsAgree_iff (hdistinct : DistinctTimes c targetId) (now : Timestamp) :
    ClaimsAgree c db targetId now ↔ OneChoice c targetId :=
  ⟨ClaimsAgree.oneChoice hsame hwindows hdistinct, claimsAgree_of_oneChoice hsame hwindows now⟩

end Table

/-! ### Two jobs that wait -/

/-- The first health check of a Windows target. -/
def firstCheck : List CoordinatorOp :=
  [.submit (healthCheckRequest (.target ⟨⟨7⟩⟩) "first") ⟨⟨1⟩⟩ 0]

/-- A second one, a moment later. -/
def twoChecks : List CoordinatorOp :=
  firstCheck ++ [.submit (healthCheckRequest (.target ⟨⟨7⟩⟩) "second") ⟨⟨2⟩⟩ 1]

theorem reach_twoChecks : coordinatorMachine.Reach Admissible (afterCalls twoChecks) :=
  .exec (.init rfl) twoChecks rfl

/-- The tables with this target and the jobs of a coordinator. -/
def windowsTables (c : AnsibleJobCoordinator) (h : coordinatorMachine.Reach Admissible c) :
    JobDatabase where
  targets := (∅ : Table TargetId Target).put ⟨⟨7⟩⟩ { (default : Target) with kind := .windowsServer }
  jobs := mirrorOf c h
  events := ∅

theorem mirrors_windowsTables {c : AnsibleJobCoordinator}
    (h : coordinatorMachine.Reach Admissible c) : Mirrors c (windowsTables c h).jobs :=
  fun _ => rfl

/-- A second one after the first has failed, with the check of another target next to it. -/
def checkAfterFailure : List CoordinatorOp :=
  firstCheck ++
    [ .transition ⟨⟨1⟩⟩ .checking 1
    , .transition ⟨⟨1⟩⟩ .failed 2
    , .submit (healthCheckRequest (.target ⟨⟨7⟩⟩) "second") ⟨⟨2⟩⟩ 3
    , .submit (healthCheckRequest (.target ⟨⟨8⟩⟩) "other") ⟨⟨3⟩⟩ 4 ]

theorem reach_checkAfterFailure :
    coordinatorMachine.Reach Admissible (afterCalls checkAfterFailure) :=
  .exec (.init rfl) checkAfterFailure rfl

theorem claimsAgree_check_after_failure :
    ClaimsAgree (afterCalls checkAfterFailure) (windowsTables _ reach_checkAfterFailure) ⟨⟨7⟩⟩ 5 ∧
      ¬ ActiveOn (afterCalls checkAfterFailure) (.target ⟨⟨7⟩⟩) ∧
      ∃ job, Oldest (afterCalls checkAfterFailure) ⟨⟨7⟩⟩ job := by
  have hkeyed := (wellKept_of_admissible reach_checkAfterFailure).keyed
  have hidle : ¬ ActiveOn (afterCalls checkAfterFailure) (.target ⟨⟨7⟩⟩) := by decide +kernel
  have hfree : ∀ id, (afterCalls checkAfterFailure).lockedByOther (.target ⟨⟨7⟩⟩) id = false :=
    fun _ => rfl
  -- only the second check waits
  have hsecond : ∀ job ∈ (afterCalls checkAfterFailure).jobs.values,
      candidate ⟨⟨7⟩⟩ job = true → job.id = ⟨⟨2⟩⟩ := by
    decide +kernel
  have hone : ∀ job other, Waits (afterCalls checkAfterFailure) ⟨⟨7⟩⟩ job →
      Waits (afterCalls checkAfterFailure) ⟨⟨7⟩⟩ other → other = job := by
    intro job other hjob hother
    have hid : other.id = job.id :=
      (hsecond other (Table.mem_values.mpr ⟨_, hother.1⟩) hother.2).trans
        (hsecond job (Table.mem_values.mpr ⟨_, hjob.1⟩) hjob.2).symm
    exact Option.some.inj (hother.1.symm.trans (hid ▸ hjob.1))
  have hwaits : ∃ job ∈ (afterCalls checkAfterFailure).jobs.get ⟨⟨2⟩⟩, job.id = ⟨⟨2⟩⟩ ∧
      candidate ⟨⟨7⟩⟩ job = true := by
    decide +kernel
  refine ⟨(claimsAgree_iff (mirrors_windowsTables reach_checkAfterFailure) rfl ?_ 5).mpr ?_,
    hidle, ?_⟩
  · have htimes : ∀ job ∈ (afterCalls checkAfterFailure).jobs.values,
        ∀ job' ∈ (afterCalls checkAfterFailure).jobs.values, job.createdAt = job'.createdAt →
          job.id = job'.id := by
      decide +kernel
    intro id id' job job' hjob hjob' _ _ htime
    rw [← hkeyed id job hjob, ← hkeyed id' job' hjob']
    exact htimes job (Table.mem_values.mpr ⟨id, hjob⟩) job' (Table.mem_values.mpr ⟨id', hjob'⟩)
      htime
  · intro job hnewest
    refine ⟨⟨fun hactive => absurd hactive hidle, fun hlock => ?_⟩,
      fun _ other hother => hone job other hnewest.1 hother⟩
    rw [hfree] at hlock
    cases hlock
  · obtain ⟨job, hjob, hid, hcandidate⟩ := hwaits
    have hjobWaits : Waits (afterCalls checkAfterFailure) ⟨⟨7⟩⟩ job := ⟨hid ▸ hjob, hcandidate⟩
    exact ⟨job, hjobWaits, fun other hother => (hone job other hjobWaits hother) ▸ le_refl _⟩

theorem newest_job_first :
    ¬ ∀ (c : AnsibleJobCoordinator) (db : JobDatabase) (targetId : TargetId) (now : Timestamp),
      Mirrors c db.jobs → JobTable.isWindows db.targets (.target targetId) = true →
      DistinctTimes c targetId → ClaimsAgree c db targetId now := by
  intro hall
  have hdistinct : DistinctTimes (afterCalls twoChecks) ⟨⟨7⟩⟩ := by
    have hvalues : ∀ job ∈ (afterCalls twoChecks).jobs.values,
        ∀ job' ∈ (afterCalls twoChecks).jobs.values, job.createdAt = job'.createdAt →
          job.id = job'.id := by
      decide +kernel
    have hkeyed := (wellKept_of_admissible reach_twoChecks).keyed
    intro id id' job job' hjob hjob' _ _ htime
    rw [← hkeyed id job hjob, ← hkeyed id' job' hjob']
    exact hvalues job (Table.mem_values.mpr ⟨id, hjob⟩) job' (Table.mem_values.mpr ⟨id', hjob'⟩)
      htime
  have hagree := hall (afterCalls twoChecks) (windowsTables _ reach_twoChecks) ⟨⟨7⟩⟩ 2
    (mirrors_windowsTables reach_twoChecks) rfl hdistinct
  have hidle : ¬ ActiveOn (afterCalls twoChecks) (.target ⟨⟨7⟩⟩) := by decide +kernel
  have hfirst : ∃ job ∈ (afterCalls twoChecks).jobs.get ⟨⟨1⟩⟩, (job.id = ⟨⟨1⟩⟩ ∧
      candidate ⟨⟨7⟩⟩ job = true) ∧ job.createdAt = 0 := by
    decide +kernel
  obtain ⟨job, hjob, ⟨hid, hcandidate⟩, hcreated⟩ := hfirst
  have hwaits : Waits (afterCalls twoChecks) ⟨⟨7⟩⟩ job := ⟨hid ▸ hjob, hcandidate⟩
  obtain ⟨oldest, -, holdest, -⟩ := table_claims
    (mirrors_windowsTables reach_twoChecks) rfl 2 hidle hwaits
  -- the job that memory hands out is the second one
  have hhanded : (handedOut (claimInMemoryWindowsJob (afterCalls twoChecks) ⟨⟨7⟩⟩ 2).1).map (·.id)
      = some ⟨⟨2⟩⟩ := by
    decide +kernel
  rw [(hagree.oldest hidle oldest holdest).1] at hhanded
  have hsecond : oldest.id = ⟨⟨2⟩⟩ := Option.some.inj hhanded
  have hlater : ∀ job ∈ (afterCalls twoChecks).jobs.get ⟨⟨2⟩⟩, job.createdAt = 1 := by
    decide +kernel
  have horder := holdest.2 job hwaits
  rw [hlater oldest (hsecond ▸ holdest.1.1), hcreated] at horder
  exact absurd horder (by decide)

end Lxcup.Agreement
