import Lxcup.Lib.Utf8
import Lxcup.Onboarding.Followups

/-!
# The order of the follow-ups

The health check of a deployment is looked for by its key alone.  A job of another target, or of
another operation, under this key is taken for it: the inventory is submitted before the target was
checked, or the check is never submitted.  And a submission that the coordinator answers with a job
it has, or refuses, counts as done, although no check may be in the database.

In the runs without such calls the inventory comes after the check, and a call that ends leaves a
check behind.

## Main definitions

* `HealthOf`, `HasHealth`, `HasSucceeded` — the health check of a deployment.
* `AtMostOne` — a deployment has no two checks and no two inventories.
* `TakesOwn` — the step takes no other job for the check of a deployment.
* `RoundSound`, `Sound` — how far the rounds have come.

## Main results

* `atMostOne_of_kept` — in every run.
* `sound_of_reach` — in every run in which each call finds its own check.
* `followups_in_order` — both.
* `shared_key_skips_health_check` — an inventory of a target that was never checked.
-/

namespace Lxcup.Onboarding

open Lxcup.Lib Lxcup.Core Lxcup.Ansible Lxcup.Persistence Lxcup.Server Lxcup.Submission

/-! ### The health check of a deployment -/

/-- A health check of the target of the deployment under the derived key. -/
structure HealthOf (followup : Followup) (job : AnsibleJob) : Prop where
  target : job.target = followup.deployment.target
  key : job.idempotencyKey = followup.healthKey
  operation : job.operation = .healthCheck

/-- The check of the deployment is among the jobs. -/
def HasHealth (s : Controller) (followup : Followup) : Prop :=
  ∃ id job, s.findJob id = some job ∧ HealthOf followup job

/-- The check of the deployment has succeeded. -/
def HasSucceeded (s : Controller) (followup : Followup) : Prop :=
  ∃ id job, s.findJob id = some job ∧ HealthOf followup job ∧ job.status = .succeeded

/-- A deployment that has succeeded has no two jobs under one of the keys that are derived. -/
def AtMostOne (s : Controller) : Prop :=
  ∀ deployment ∈ s.jobList, deployment.operation = .deployAgent →
    deployment.status = .succeeded → ∀ keys, followupKeys deployment.idempotencyKey = some keys →
      ∀ key ∈ [keys.1, keys.2], ∀ job ∈ s.jobList, ∀ job' ∈ s.jobList,
        job.target = deployment.target → job'.target = deployment.target →
        job.idempotencyKey = key → job'.idempotencyKey = key → job = job'

/-- The step takes no other job for the check of a deployment: the job that is found under the key
is one, its key can be submitted, and a job that the coordinator has under it is one that is
listed. -/
def TakesOwn (s : Controller) : ControllerAction → Prop
  | .advance n _ =>
    ∀ round ∈ s.rounds.get n, ∀ followup ∈ round.followups.head?,
      match round.phase with
      | .located _ =>
        ∀ health, (s.jobList.find? fun job => job.idempotencyKey = followup.healthKey) =
          some health → HealthOf followup health
      | .health target =>
        followup.healthKey.utf8ByteSize ≤ 200 ∧
          ∀ id, s.coordinator.idempotency.get (.target target.id, followup.healthKey) = some id →
            ∃ job, s.findJob id = some job ∧ HealthOf followup job
      | _ => True
  | _ => True

section Order

variable {s s' : Controller} {n : Nat} {round : Round} {followup : Followup} {input : Input}

theorem mem_jobList {job : AnsibleJob} :
    job ∈ s.jobList ↔ ∃ id, s.findJob id = some job := by
  unfold Controller.jobList Controller.findJob
  cases s.database with
  | some db => exact JobTable.mem_list
  | none => rw [List.mem_insertionSort, Table.mem_values]

/-- **At most one job of a target has a key.** -/
theorem atMostOne_of_kept (h : Kept s) : AtMostOne s := by
  intro deployment _ _ _ keys _ key _ job hjob job' hjob' htarget htarget' hkey hkey'
  obtain ⟨id, hfound⟩ := mem_jobList.mp hjob
  obtain ⟨id', hfound'⟩ := mem_jobList.mp hjob'
  have hsame : id = id' := by
    unfold Controller.findJob at hfound hfound'
    cases hdb : s.database with
    | some db =>
      rw [hdb] at hfound hfound'
      exact h.unique db hdb id job id' job' hfound hfound' (htarget.trans htarget'.symm)
        (hkey.trans hkey'.symm)
    | none =>
      rw [hdb] at hfound hfound'
      have hindex := h.wellKept.inIndex id job hfound
      rw [htarget, hkey, ← htarget', ← hkey', h.wellKept.inIndex id' job' hfound'] at hindex
      exact (Option.some.inj hindex).symm
  rw [hsame, hfound'] at hfound
  exact (Option.some.inj hfound).symm

theorem HasSucceeded.hasHealth (h : HasSucceeded s followup) : HasHealth s followup := by
  obtain ⟨id, job, hjob, hhealth, -⟩ := h
  exact ⟨id, job, hjob, hhealth⟩

theorem HealthOf.lasts {job job' : AnsibleJob} (h : HealthOf followup job) (hl : Lasts job job') :
    HealthOf followup job' :=
  ⟨hl.target.trans h.target, hl.key.trans h.key, hl.operation.trans h.operation⟩

theorem HasHealth.mono (h : HasHealth s followup) (hg : Grows s s') : HasHealth s' followup := by
  obtain ⟨id, job, hjob, hhealth⟩ := h
  obtain ⟨job', hjob', hlasts⟩ := hg id job hjob
  exact ⟨id, job', hjob', hhealth.lasts hlasts⟩

theorem HasSucceeded.mono (h : HasSucceeded s followup) (hg : Grows s s') :
    HasSucceeded s' followup := by
  obtain ⟨id, job, hjob, hhealth, hsucceeded⟩ := h
  obtain ⟨job', hjob', hlasts⟩ := hg id job hjob
  exact ⟨id, job', hjob', hhealth.lasts hlasts, hlasts.succeeded hsucceeded⟩

/-! ### How far the rounds have come -/

/-- What holds of a call at its next access. -/
def RoundSound (s : Controller) (round : Round) : Prop :=
  ∀ followup ∈ round.followups.head?,
    match round.phase with
    | .next => True
    | .located target | .health target => followup.deployment.target = .target target.id
    | .inventory target =>
      followup.deployment.target = .target target.id ∧ HasSucceeded s followup
    | .created job => HasHealth s followup ∨ HealthOf followup job
    | .saved _ | .appending _ => HasHealth s followup

/-- The inventories were submitted after the checks, the calls that have ended have left a check,
and the others are on their way to it. -/
structure Sound (s : Controller) : Prop where
  inventoried : ∀ followup ∈ s.inventoried, HasSucceeded s followup
  completed : ∀ followup ∈ s.completed, HasHealth s followup
  rounds : ∀ n round, s.rounds.get n = some round → RoundSound s round

theorem RoundSound.mono (h : RoundSound s round) (hg : Grows s s') : RoundSound s' round := by
  intro followup hmem
  have hround := h followup hmem
  cases hphase : round.phase with
  | next => trivial
  | located | health => simpa only [hphase] using hround
  | inventory =>
    rw [hphase] at hround
    exact ⟨hround.1, hround.2.mono hg⟩
  | created =>
    rw [hphase] at hround
    exact hround.imp_left fun h => h.mono hg
  | saved | appending =>
    rw [hphase] at hround
    exact HasHealth.mono hround hg

/-- A round without follow-ups. -/
theorem RoundSound.nil (phase : RoundPhase) : RoundSound s ⟨[], phase⟩ :=
  fun _ h => by simp at h

/-- The jobs have changed, and nothing else. -/
theorem Sound.mono (h : Sound s) (hg : Grows s s') (hrounds : s'.rounds = s.rounds)
    (hcompleted : s'.completed = s.completed) (hinventoried : s'.inventoried = s.inventoried) :
    Sound s' where
  inventoried followup hmem := (h.inventoried followup (hinventoried ▸ hmem)).mono hg
  completed followup hmem := (h.completed followup (hcompleted ▸ hmem)).mono hg
  rounds n round hround := (h.rounds n round (hrounds ▸ hround)).mono hg

theorem Sound.withRound (h : Sound s) (hround : RoundSound s round) :
    Sound (s.withRound n round) where
  inventoried := h.inventoried
  completed := h.completed
  rounds m other hother := by
    rcases Table.get_put_cases hother with ⟨-, rfl⟩ | ⟨-, hbefore⟩
    · exact hround
    · exact h.rounds m other hbefore

theorem Sound.endCall {completed : Bool} (h : Sound s)
    (hdone : completed = true → ∀ followup ∈ round.followups.head?, HasHealth s followup) :
    Sound (s.endCall n round completed) := by
  unfold Controller.endCall
  split
  · exact h.withRound (.nil _)
  · rename_i followup rest hfollowups
    refine Sound.withRound ⟨h.inventoried, fun f hf => ?_, h.rounds⟩ (fun _ _ => trivial)
    cases completed with
    | false => exact h.completed f hf
    | true =>
      rcases List.mem_cons.mp hf with rfl | hf
      · exact hdone rfl f (by rw [hfollowups]; rfl)
      · exact h.completed f hf

/-! ### Submissions -/

/-- The result of a submission. -/
theorem submit_cases {c : AnsibleJobCoordinator} (hc : Consistent c) (request : AnsibleJobRequest)
    (newId : AnsibleJobId) (now : Timestamp) :
    (∃ id existing, c.idempotency.get (request.target, request.idempotencyKey) = some id ∧
      c.submit request newId now = .ok (.duplicate existing, c)) ∨
    (∃ error, ¬ AnsibleJob.Accepts request ∧ c.submit request newId now = .error error) ∨
    c.submit request newId now = .ok (.created (AnsibleJob.queuedFor request newId now),
      c.register (AnsibleJob.queuedFor request newId now) now) := by
  unfold AnsibleJobCoordinator.submit
  dsimp only
  cases hentry : c.idempotency.get (request.target, request.idempotencyKey) with
  | some id =>
    obtain ⟨existing, hexisting, -⟩ := hc.indexed _ _ _ hentry
    exact .inl ⟨id, existing, rfl, by simp only [hexisting]⟩
  | none =>
    dsimp only
    cases hjob : AnsibleJob.fromRequest request newId now with
    | error error =>
      refine .inr (.inl ⟨_, fun haccepts => ?_, rfl⟩)
      rw [AnsibleJob.fromRequest_ok.mpr ⟨haccepts, rfl⟩] at hjob
      cases hjob
    | ok job =>
      obtain ⟨-, rfl⟩ := AnsibleJob.fromRequest_ok.mp hjob
      exact .inr (.inr rfl)

/-- A submission leaves the check of the follow-up behind, or it is there already. -/
def Leads (s : Controller) (followup : Followup) (request : AnsibleJobRequest) : Prop :=
  HasHealth s followup ∨
    (AnsibleJob.Accepts request ∧
      s.coordinator.idempotency.get (request.target, request.idempotencyKey) = none ∧
      ∀ id now, HealthOf followup (AnsibleJob.queuedFor request id now))

/-- The jobs of the coordinator and of the database after the coordinator has made a job. -/
theorem grows_of_created {job : AnsibleJob} {coordinator : AnsibleJobCoordinator}
    {request : AnsibleJobRequest} (hnew : s.used input.newId = false)
    (hsubmit : s.coordinator.submit request input.newId input.now
      = .ok (.created job, coordinator)) :
    Grows s { s with coordinator := coordinator } := by
  have hadmissible : Admissible s.coordinator (.submit request input.newId input.now) := by
    simp only [Controller.used, Bool.or_eq_false_iff, Option.isSome_eq_false_iff,
      Option.isNone_iff_eq_none] at hnew
    exact hnew.1
  refine grows_of_tables (.call (by simp) hadmissible ?_ rfl)
  simp [CoordinatorOp.run, CoordinatorOp.call, hsubmit, Except.map]

theorem Sound.submit {request : AnsibleJobRequest} (h : Sound s) (hkept : Kept s)
    (hnew : s.used input.newId = false)
    (hleads : ∀ followup ∈ round.followups.head?, Leads s followup request) :
    Sound (s.submit n round request input) := by
  unfold Controller.submit
  rcases submit_cases hkept.wellKept.toConsistent request input.newId input.now with
    ⟨id, existing, hentry, hsubmit⟩ | ⟨error, hrefused, hsubmit⟩ | hsubmit
  · -- the coordinator has a job under the key
    rw [hsubmit]
    refine Sound.endCall h fun _ followup hmem => ?_
    rcases hleads followup hmem with hhealth | ⟨-, hunused, -⟩
    · exact hhealth
    · rw [hentry] at hunused
      cases hunused
  · -- the contract refuses the request, and the call ends without an error
    rw [hsubmit]
    refine h.endCall fun _ followup hmem => ?_
    rcases hleads followup hmem with hhealth | ⟨haccepts, -⟩
    · exact hhealth
    · exact absurd haccepts hrefused
  · have hgrows := grows_of_created hnew hsubmit
    rw [hsubmit]
    dsimp only
    have hmade := h.mono hgrows rfl rfl rfl
    split
    · -- with a database its row is next
      refine hmade.withRound fun followup hmem => ?_
      exact (hleads followup hmem).imp (fun hhealth => hhealth.mono hgrows) fun hother =>
        hother.2.2 ..
    · rename_i hmemory
      refine hmade.endCall fun _ followup hmem => ?_
      rcases hleads followup hmem with hhealth | ⟨-, -, hof⟩
      · exact hhealth.mono hgrows
      · refine ⟨input.newId, _, ?_, hof input.newId input.now⟩
        have hnone : s.database = none := by simpa using hmemory
        simp only [Controller.findJob, hnone]
        exact Table.get_put_self ..

/-- The request for a health check is accepted when its key is short enough. -/
theorem accepts_healthRequest {target : Target} {key : String} (hblank : trim key.toList ≠ [])
    (hlength : key.utf8ByteSize ≤ 200) : AnsibleJob.Accepts (healthRequest target key) := by
  have hchars := (length_le_utf8ByteSize key).trans hlength
  refine ⟨⟨rfl, rfl⟩, ⟨hblank, hlength⟩, rfl, ?_, nofun, nofun, List.nodup_nil⟩
  exact validateAction_ok.mpr ⟨rfl, rfl, nofun, nofun, hblank, hchars⟩

/-! ### Steps -/

theorem Sound.persist {fails : Bool} (h : Sound s)
    (hround : s.rounds.get n = some round) (hs : s.persist n round fails = some s') :
    Sound s' := by
  have hsound := h.rounds n round hround
  unfold RoundSound at hsound
  unfold Controller.persist at hs
  split at hs
  · -- the row of the new job
    rename_i job hphase
    rw [hphase] at hsound
    obtain ⟨db, hdb, rfl⟩ := Option.map_eq_some_iff.mp hs
    split
    · exact h.endCall nofun
    · rename_i jobs hsave
      split
      · exact h.endCall nofun
      · have hgrows : Grows s { s with database := some { db with jobs := jobs } } :=
          grows_of_tables (.save hdb hsave rfl rfl)
        refine (h.mono hgrows rfl rfl rfl).withRound fun followup hmem => ?_
        rcases hsound followup hmem with hhealth | hhealth
        · exact hhealth.mono hgrows
        · obtain ⟨-, -, rfl⟩ := JobTable.save_ok hsave
          exact ⟨job.id, job, JobTable.get_put_self .., hhealth⟩
  · -- the events that the coordinator holds of the job
    rename_i job hphase
    rw [hphase] at hsound
    split at hs
    · obtain rfl := Option.some.inj hs
      exact h.endCall fun _ => hsound
    · obtain rfl := Option.some.inj hs
      exact h.withRound hsound
  · -- no event is left
    rename_i hphase
    rw [hphase] at hsound
    obtain rfl := Option.some.inj hs
    exact h.endCall fun _ => hsound
  · rename_i event events hphase
    rw [hphase] at hsound
    obtain ⟨db, hdb, rfl⟩ := Option.map_eq_some_iff.mp hs
    split
    · exact h.endCall nofun
    · rename_i db' happend
      split
      · exact h.endCall nofun
      · have hgrows : Grows s { s with database := some db' } :=
          grows_of_tables (.quiet rfl (by simp [hdb, jobs_of_appendEvent happend]))
        exact (h.mono hgrows rfl rfl rfl).withRound fun followup hmem =>
          HasHealth.mono (hsound followup hmem) hgrows
  · cases hs

/-- The decision from the listed jobs, when the check that is found is the own one. -/
theorem hasHealth_of_decision {decision : Decision}
    (hown : ∀ health, (s.jobList.find? fun job => job.idempotencyKey = followup.healthKey) =
      some health → HealthOf followup health)
    (h : followupDecision s.jobList followup = decision) :
    (decision = .wait → HasHealth s followup) ∧
      (decision = .submitInventory → HasSucceeded s followup) := by
  unfold followupDecision at h
  split at h
  · subst h
    exact ⟨nofun, nofun⟩
  · rename_i health hfound
    obtain ⟨id, hjob⟩ := mem_jobList.mp (List.mem_of_find?_eq_some hfound)
    have hhealth := hown health hfound
    refine ⟨fun _ => ⟨id, health, hjob, hhealth⟩, fun hinventory => ?_⟩
    subst hinventory
    split at h
    · cases h
    · rename_i hsucceeded
      exact ⟨id, health, hjob, hhealth, not_not.mp hsucceeded⟩

theorem target_of_managedTarget {store : WorkflowStore} {target : ResourceTarget} {found : Target}
    (h : store.managedTarget target = some found) : target = .target found.id := by
  unfold WorkflowStore.managedTarget at h
  split at h
  · have hid := List.find?_some h
    simp only [Bool.and_eq_true, decide_eq_true_eq] at hid
    rw [hid.1]
  · cases h

theorem Sound.follow (h : Sound s) (hkept : Kept s) (hnew : s.used input.newId = false)
    (hround : s.rounds.get n = some round) (hfollowup : round.followups.head? = some followup)
    (hown : TakesOwn s (.advance n input)) (hs : s.follow n round followup input = some s') :
    Sound s' := by
  have hsound := h.rounds n round hround followup hfollowup
  have htakes := hown round hround followup hfollowup
  -- what is shown of the first follow-up is shown of all that are under way
  have honly : ∀ {P : Followup → Prop}, P followup → ∀ f ∈ round.followups.head?, P f := by
    intro P hP f hf
    rw [hfollowup] at hf
    obtain rfl := Option.some.inj hf
    exact hP
  unfold Controller.follow at hs
  split at hs
  · -- the status of the deployment, and its target
    rename_i hphase
    split at hs
    · obtain rfl := Option.some.inj hs
      exact h.endCall nofun
    · split at hs
      · obtain rfl := Option.some.inj hs
        exact h.endCall nofun
      · rename_i target htarget
        obtain rfl := Option.some.inj hs
        exact h.withRound (honly (target_of_managedTarget htarget))
  · -- the jobs are listed, and what is found under the key decides
    rename_i target hphase
    rw [hphase] at hsound htakes
    split at hs
    · obtain rfl := Option.some.inj hs
      exact h.endCall nofun
    · split at hs
      · obtain rfl := Option.some.inj hs
        exact h.withRound (honly hsound)
      · rename_i hdecision
        obtain rfl := Option.some.inj hs
        exact h.endCall fun _ => honly ((hasHealth_of_decision htakes hdecision).1 rfl)
      · rename_i hdecision
        obtain rfl := Option.some.inj hs
        exact h.withRound (honly ⟨hsound, (hasHealth_of_decision htakes hdecision).2 rfl⟩)
  · -- the check
    rename_i target hphase
    rw [hphase] at hsound htakes
    obtain rfl := Option.some.inj hs
    refine h.submit hkept hnew (honly ?_)
    cases hentry : s.coordinator.idempotency.get (.target target.id, followup.healthKey) with
    | some id =>
      obtain ⟨job, hjob, hhealth⟩ := htakes.2 id hentry
      exact .inl ⟨id, job, hjob, hhealth⟩
    | none =>
      exact .inr ⟨accepts_healthRequest followup.keyed htakes.1, hentry,
        fun _ _ => ⟨hsound.symm, rfl, rfl⟩⟩
  · -- the inventory: the check has succeeded
    rename_i target hphase
    rw [hphase] at hsound
    obtain rfl := Option.some.inj hs
    have hnoted : Sound { s with inventoried := followup :: s.inventoried } :=
      ⟨fun f hf => (List.mem_cons.mp hf).elim (fun heq => heq ▸ hsound.2) (h.inventoried f),
        h.completed, h.rounds⟩
    exact hnoted.submit ⟨hkept.wellKept, hkept.unique⟩ hnew
      (honly (.inl hsound.2.hasHealth))
  · cases hs

theorem Sound.advance (h : Sound s) (hkept : Kept s) (hown : TakesOwn s (.advance n input))
    (hs : s.advance n input = some s') : Sound s' := by
  unfold Controller.advance at hs
  split at hs
  · cases hs
  rename_i round hround
  split at hs
  · cases hs
  rename_i hnew
  have hfresh : s.used input.newId = false := by simpa using hnew
  split at hs
  · exact h.persist hround hs
  · exact h.persist hround hs
  · exact h.persist hround hs
  · rename_i followup rest hfollowups _ _ _
    exact h.follow hkept hfresh hround (by rw [hfollowups]; rfl) hown hs
  · cases hs

theorem Sound.start {followups : List Followup} (h : Sound s)
    (hs : s.start n followups = some s') : Sound s' := by
  obtain ⟨-, rfl⟩ := Controller.start_some hs
  exact h.withRound fun _ _ => trivial

/-- **One step.** -/
theorem Sound.step {a : ControllerAction} (h : Sound s) (hkept : Kept s) (hown : TakesOwn s a)
    (hs : s.step a = some s') : Sound s' := by
  have hgrows := grows_of_tables (tables_of_step hs)
  cases a with
  | tick n => exact h.start hs
  | poll n enrollmentId => exact h.start hs
  | advance n input => exact h.advance hkept hown hs
  | request n request input =>
    obtain ⟨-, hnew, rfl⟩ := Controller.request_some hs
    exact h.submit hkept hnew fun _ hmem => by simp at hmem
  | coordinate op =>
    obtain ⟨-, -, rfl⟩ := Controller.coordinate_some hs
    exact h.mono hgrows rfl rfl rfl
  | progress id next now =>
    obtain ⟨_, -, _, -, _, -, _, -, rfl⟩ := Controller.progress_some hs
    exact h.mono hgrows rfl rfl rfl
  | insert job =>
    obtain ⟨_, -, _, -, -, rfl⟩ := Controller.insert_some hs
    exact h.mono hgrows rfl rfl rfl
  | changeTargets store targets =>
    obtain rfl := Option.some.inj hs
    exact h.mono hgrows rfl rfl rfl
  | restart =>
    -- the jobs of the database stay, and no round is left
    obtain ⟨-, rfl⟩ := Controller.restart_some hs
    refine ⟨fun f hf => (h.inventoried f hf).mono hgrows,
      fun f hf => (h.completed f hf).mono hgrows, fun n round hround => ?_⟩
    simp at hround

/-- **In every run in which each call finds its own check.** -/
theorem sound_of_reach (h : controllerMachine.Reach TakesOwn s) : Sound s := by
  induction h with
  | init hinit =>
    obtain ⟨-, hrounds, hcompleted, hinventoried, -⟩ := hinit
    refine ⟨?_, ?_, fun n round hround => ?_⟩
    · simp [hinventoried]
    · simp [hcompleted]
    · simp [hrounds] at hround
  | step hreach hok hs ih => exact ih.step (kept_of_reach hreach) hok hs

end Order

/-- **The follow-ups of a deployment.**  In every run a deployment that has succeeded has at most
one job under each of the two keys on its target.  In every run in which no call takes another job for
the check of its deployment, each inventory was submitted after the check of the same target and
key had succeeded, and each call that ended for a managed target without a failure of the database
has left that check among the jobs. -/
theorem followups_in_order (s : Controller) :
    (controllerMachine.Reach Machine.Any s → AtMostOne s) ∧
    (controllerMachine.Reach TakesOwn s →
      (∀ followup ∈ s.inventoried, HasSucceeded s followup) ∧
      ∀ followup ∈ s.completed, HasHealth s followup) :=
  ⟨fun h => atMostOne_of_kept (kept_of_reach h), fun h =>
    have hsound := sound_of_reach h
    ⟨hsound.inventoried, hsound.completed⟩⟩

/-! ### A key that two targets share -/

/-- A managed server. -/
def managedServer (id : TargetId) : Target :=
  { sampleTarget .linuxServer .ssh with id := id, credentialSecretRef := some ⟨⟨5⟩⟩ }

/-- A deployment of the agent that has succeeded. -/
def deployed (id : AnsibleJobId) (target : TargetId) (createdAt : Timestamp) : AnsibleJob where
  id := id
  operation := .deployAgent
  playbook := "agent/deploy.yml"
  playbookVersion := "1"
  target := .target target
  mode := .apply
  parameters := .deployAgent "0.3.1"
  secretRefs := [⟨⟨5⟩⟩, ⟨⟨9⟩⟩]
  idempotencyKey := "onboarding-deploy-first"
  status := .succeeded
  createdAt := createdAt
  updatedAt := createdAt

/-- The check of the first server, which has succeeded. -/
def checkedFirst : AnsibleJob where
  id := ⟨⟨2⟩⟩
  operation := .healthCheck
  playbook := "target/health-check.yml"
  playbookVersion := "1"
  target := .target ⟨⟨7⟩⟩
  mode := .check
  parameters := .healthCheck
  secretRefs := []
  idempotencyKey := "onboarding-health-first"
  status := .succeeded
  createdAt := 2
  updatedAt := 2

/-- Two servers. -/
def twoServers : Table TargetId Target :=
  ((∅ : Table TargetId Target).put ⟨⟨7⟩⟩ (managedServer ⟨⟨7⟩⟩)).put ⟨⟨8⟩⟩ (managedServer ⟨⟨8⟩⟩)

/-- They were deployed under the same key, and the first was checked. -/
def sharedKeyJobs : JobTable :=
  ((JobTable.empty.put (deployed ⟨⟨1⟩⟩ ⟨⟨7⟩⟩ 1)).put checkedFirst).put (deployed ⟨⟨3⟩⟩ ⟨⟨8⟩⟩ 3)

theorem keysUnique_sharedKeyJobs : KeysUnique sharedKeyJobs := by
  have hempty : KeysUnique .empty := fun id job _ _ hjob => by simp at hjob
  have hfirst := @KeysUnique.save twoServers .empty _ (deployed ⟨⟨1⟩⟩ ⟨⟨7⟩⟩ 1) hempty rfl
  have hchecked := @KeysUnique.save twoServers _ _ checkedFirst hfirst rfl
  exact @KeysUnique.save twoServers _ _ (deployed ⟨⟨3⟩⟩ ⟨⟨8⟩⟩ 3) hchecked rfl

/-- A server that starts with these jobs in its database. -/
def sharedKey : Controller where
  store := ⟨[managedServer ⟨⟨7⟩⟩, managedServer ⟨⟨8⟩⟩], [], []⟩
  coordinator := .default
  database := some { targets := twoServers, jobs := sharedKeyJobs, events := ∅ }
  rounds := ∅
  completed := []
  inventoried := []

/-- A tick goes as far as the insertion of the inventory of the second server. -/
def oneTick : List ControllerAction :=
  .tick 0 :: List.replicate 3 (.advance 0 ⟨4, ⟨⟨4⟩⟩, false⟩) ++ [.advance 0 ⟨4, ⟨⟨5⟩⟩, false⟩]

theorem shared_key_skips_health_check :
    ¬ ∀ s : Controller, controllerMachine.Reach Machine.Any s → AtMostOne s ∧
      (∀ followup ∈ s.inventoried, HasSucceeded s followup) ∧
      ∀ followup ∈ s.completed, HasHealth s followup := by
  intro hall
  have hrun : ∃ s ∈ controllerMachine.exec Machine.Any sharedKey oneTick,
      ∃ followup ∈ s.inventoried.head?, followup.deployment.target = .target ⟨⟨8⟩⟩ ∧
        (∃ job ∈ s.jobList, job.target = .target ⟨⟨8⟩⟩ ∧
          job.operation = .collectPackageInventory) ∧
        ∀ job ∈ s.jobList, job.operation = .healthCheck → job.target = .target ⟨⟨7⟩⟩ := by
    decide +kernel
  obtain ⟨s, hexec, followup, hmem, htarget, -, hchecks⟩ := hrun
  have hinit : controllerMachine.init sharedKey := by
    refine ⟨rfl, rfl, rfl, rfl, ?_⟩
    rintro _ ⟨⟩
    exact keysUnique_sharedKeyJobs
  -- the check that has succeeded would be one of the second server
  obtain ⟨id, job, hjob, hhealth, -⟩ := (hall s (.exec (.init hinit) _ hexec)).2.1 followup
    (List.mem_of_mem_head? hmem)
  have hfirst := hchecks job (mem_jobList.mpr ⟨id, hjob⟩) hhealth.operation
  rw [hhealth.target, htarget] at hfirst
  exact absurd hfirst (by decide)

end Lxcup.Onboarding
