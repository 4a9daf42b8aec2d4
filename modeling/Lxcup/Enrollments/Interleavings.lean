import Lxcup.Enrollments.Service

/-!
# Enrollments under concurrent requests

Requests to enroll, polls and deletions of targets are taken apart into the sections in which they
hold the lock of the store; between two sections anything else may happen.  Keys lead to
enrollments and targets to one container in every run.  That a container has only one enrollment
under way is checked when an enrollment is inserted, but the last section of a request moves its
enrollment to `discovering` without looking: when a poll has failed the enrollment before that,
another one may have been accepted in the meantime.

## Main definitions

* `Creation`, `Poll` — requests and polls that are under way.
* `EnrollmentService`, `EnrollmentAction`, `enrollmentMachine`.
* `KeysLead`, `TargetsApart`, `UniqueIds`, `OneActive` — what is to hold of the store.
* `Undisturbed` — a request that starts discovery finds no other enrollment under way.

## Main results

* `EnrollmentService.step_cases` — everything a step can do to the enrollments.
* `enrollments_consistent_iff` — what holds in every run, and the steps that keep the rest.
* `two_enrollments_active` — an enrollment that was failed and comes back.
-/

namespace Lxcup.Enrollments

open Lxcup.Lib Lxcup.Core Lxcup.Ansible Lxcup.Persistence Lxcup.Server

variable {H P D : Type}

/-! ### Sections -/

/-- How far a request has come after the insertion, by the section that is next. -/
inductive CreationPhase
  /-- The target is read. -/
  | inserted
  /-- The job is submitted. -/
  | targetRead (target : Target)
  /-- The row of the job is inserted. -/
  | created (job : AnsibleJob)
  /-- The enrollment moves on. -/
  | saved
  deriving DecidableEq, Repr

/-- A request whose job is being queued. -/
structure Creation where
  id : EnrollmentId
  targetId : TargetId
  phase : CreationPhase
  deriving DecidableEq, Repr

/-- A poll, by the section that is next. -/
inductive Poll
  /-- The jobs are listed. -/
  | started (id : EnrollmentId)
  /-- The target of the job is read. -/
  | listed (id : EnrollmentId) (status : AnsibleJobStatus) (target : ResourceTarget)
  /-- The enrollment is written. -/
  | checked (id : EnrollmentId) (status : AnsibleJobStatus) (connected : Bool)
  deriving DecidableEq, Repr

/-- The server with the requests and polls that are under way. -/
structure EnrollmentService (H P D : Type) where
  server : EnrollmentServer H P D
  creations : Table Nat Creation
  polls : Table Nat Poll

inductive EnrollmentAction
  /-- The first section of `create_enrollment`. -/
  | create (n : Nat) (request : CreateEnrollmentRequest) (newId : EnrollmentId) (now : Timestamp)
  /-- The next section of a request that was accepted. -/
  | proceed (n : Nat) (input : Input)
  /-- `get_enrollment` finds the enrollment. -/
  | poll (n : Nat) (id : EnrollmentId)
  /-- The next section of a poll. -/
  | continuePoll (n : Nat) (now : Timestamp)
  | delete (actorRole : ActorRole) (targetId : String) (confirmed dbFails : Bool)
    (now : Timestamp)
  /-- The rest of the server: containers and targets come, change and go, jobs are submitted and
  make progress. -/
  | rest (containers : List ContainerId) (targets : List Target) (ansible : AnsibleJobCoordinator)
    (repositories : Option Database)

namespace EnrollmentService

def store (s : EnrollmentService H P D) : ApiStore H P D := s.server.state.store

def withState (s : EnrollmentService H P D) (state : ApiState H P D) : EnrollmentService H P D :=
  { s with server := { s.server with state := state } }

def withStore (s : EnrollmentService H P D) (store : ApiStore H P D) : EnrollmentService H P D :=
  s.withState { s.server.state with store := store }

/-- A request goes on with another section. -/
def goOn (s : EnrollmentService H P D) (n : Nat) (creation : Creation) :
    EnrollmentService H P D :=
  { s with creations := s.creations.put n creation }

/-- A request has been answered. -/
def finish (s : EnrollmentService H P D) (n : Nat) : EnrollmentService H P D :=
  { s with creations := s.creations.remove n }

/-- The first section of a request.  A new id is not that of an enrollment. -/
def create (s : EnrollmentService H P D) (n : Nat) (request : CreateEnrollmentRequest)
    (newId : EnrollmentId) (now : Timestamp) : Option (EnrollmentService H P D) :=
  match admitEnrollment s.server request newId now with
  | .accepted enrollment =>
    if newId ∈ s.store.enrollments.map (·.id) ∨ (s.creations.get n).isSome then none
    else
      let s := s.withStore (insertEnrollment s.store enrollment)
      match request.targetId with
      | some targetId =>
        if request.startOnboarding then some (s.goOn n ⟨newId, targetId, .inserted⟩) else some s
      | none => some s
  | _ => some s

/-- The next section of a request. -/
def proceed (s : EnrollmentService H P D) (n : Nat) (creation : Creation) (input : Input) :
    EnrollmentService H P D :=
  match creation.phase with
  | .inserted =>
    match readTarget s.store creation.targetId with
    | .error _ => s.finish n
    | .ok target => s.goOn n { creation with phase := .targetRead target }
  | .targetRead target =>
    match submitDeployment s.server.state.ansible target creation.id input.newJobId input.now with
    | .error _ => s.finish n
    | .ok (.duplicate _, ansible) =>
      (s.withState { s.server.state with ansible := ansible }).finish n
    | .ok (.created job, ansible) =>
      (s.withState { s.server.state with ansible := ansible }).goOn n
        { creation with phase := .created job }
  | .created job =>
    match saveDeployment s.server.state.repositories job input.dbFails with
    | .error _ => s.finish n
    | .ok repositories =>
      (s.withState { s.server.state with repositories := repositories }).goOn n
        { creation with phase := .saved }
  | .saved =>
    match startDiscovery s.store creation.id input.now with
    | .error _ => s.finish n
    | .ok store => (s.withStore store).finish n

/-- The next section of a poll. -/
def continuePoll (s : EnrollmentService H P D) (n : Nat) (now : Timestamp) :
    Poll → EnrollmentService H P D
  | .started id =>
    match deploymentOf s.server.state id with
    | none => { s with polls := s.polls.remove n }
    | some job => { s with polls := s.polls.put n (.listed id job.status job.target) }
  | .listed id status target =>
    { s with polls := s.polls.put n (.checked id status (targetConnected s.store target)) }
  | .checked id status connected =>
    { s.withStore (writePoll s.store id status connected now) with polls := s.polls.remove n }

def step (s : EnrollmentService H P D) : EnrollmentAction → Option (EnrollmentService H P D)
  | .create n request newId now => s.create n request newId now
  | .proceed n input => (s.creations.get n).map fun creation => s.proceed n creation input
  | .poll n id =>
    if (s.polls.get n).isSome then none
    else if id ∈ s.store.enrollments.map (·.id) then
      some { s with polls := s.polls.put n (.started id) }
    else some s
  | .continuePoll n now => (s.polls.get n).map fun poll => s.continuePoll n now poll
  | .delete actorRole targetId confirmed dbFails now =>
    match deleteTarget s.server.state actorRole targetId confirmed now dbFails with
    | .error _ => some s
    | .ok state => some (s.withState state)
  | .rest containers targets ansible repositories => some { s with
      server := ⟨containers, ⟨{ s.store with targets := targets }, ansible, repositories⟩⟩ }

end EnrollmentService

/-- The server starts without enrollments: they are not kept in the database. -/
def enrollmentMachine (H P D : Type) : Machine (EnrollmentService H P D) EnrollmentAction where
  init s := s.store.enrollments = [] ∧ s.store.enrollmentKeys = ∅ ∧ s.creations = ∅ ∧ s.polls = ∅
  step := EnrollmentService.step

/-! ### What is to hold of the store -/

/-- Every key leads to an enrollment. -/
def KeysLead (store : ApiStore H P D) : Prop :=
  ∀ key id, store.enrollmentKeys.get key = some id → id ∈ store.enrollments.map (·.id)

/-- A target is linked to the enrollments of one container only. -/
def TargetsApart (store : ApiStore H P D) : Prop :=
  ∀ a ∈ store.enrollments, ∀ b ∈ store.enrollments, ∀ targetId,
    a.targetId = some targetId → b.targetId = some targetId → a.containerId = b.containerId

def UniqueIds (store : ApiStore H P D) : Prop := (store.enrollments.map (·.id)).Nodup

/-- A container has at most one enrollment under way. -/
def OneActive (store : ApiStore H P D) : Prop :=
  ∀ a ∈ store.enrollments, ∀ b ∈ store.enrollments, a.containerId = b.containerId →
    a.state.isActive = true → b.state.isActive = true → a.id = b.id

instance (store : ApiStore H P D) : Decidable (OneActive store) :=
  inferInstanceAs (Decidable (∀ a ∈ store.enrollments, ∀ b ∈ store.enrollments, _ → _))

/-- What holds in every run. -/
structure Linked (store : ApiStore H P D) : Prop where
  keys : KeysLead store
  targets : TargetsApart store
  ids : UniqueIds store

/-- The step is the last section of a request, and moves its enrollment to `discovering`. -/
def Discovers (s : EnrollmentService H P D) (enrollment : Enrollment) : EnrollmentAction → Prop
  | .proceed n _ => ∃ creation, s.creations.get n = some creation ∧ creation.phase = .saved ∧
      (s.store.enrollments.find? fun item => item.id = creation.id) = some enrollment ∧
      enrollment.state.canTransitionTo .discovering = true
  | _ => False

/-- When an enrollment is moved to `discovering`, no other one of its container is under way. -/
def Undisturbed (s : EnrollmentService H P D) (a : EnrollmentAction) : Prop :=
  ∀ enrollment, Discovers s enrollment a → ∀ other ∈ s.store.enrollments,
    other.containerId = enrollment.containerId → other.state.isActive = true →
      other.id = enrollment.id

/-! ### What a step does -/

variable {s s' : EnrollmentService H P D} {a : EnrollmentAction}

/-- An enrollment is written over the one with its id. -/
structure Rewrites (store : ApiStore H P D) (enrollment enrollment' : Enrollment) : Prop where
  found : (store.enrollments.find? fun item => item.id = enrollment'.id) = some enrollment
  link : enrollment.SameLink enrollment'

/-- Everything that a step can do to the enrollments and their keys. -/
inductive Change (s : EnrollmentService H P D) : EnrollmentAction → ApiStore H P D → Prop
  | none {a : EnrollmentAction} {store : ApiStore H P D}
      (hidle : ∀ enrollment, ¬ Discovers s enrollment a)
      (henrollments : store.enrollments = s.store.enrollments)
      (hkeys : store.enrollmentKeys = s.store.enrollmentKeys) : Change s a store
  | inserted {n : Nat} {request : CreateEnrollmentRequest} {newId : EnrollmentId} {now : Timestamp}
      (hadmits : Admits s.server request) (hfresh : newId ∉ s.store.enrollments.map (·.id)) :
      Change s (.create n request newId now)
        (insertEnrollment s.store (newEnrollment request newId now))
  | polled {n : Nat} {now : Timestamp} {enrollment enrollment' : Enrollment}
      (hrewrites : Rewrites s.store enrollment enrollment')
      (hactive : enrollment'.state.isActive = true → enrollment.state.isActive = true) :
      Change s (.continuePoll n now) (writeEnrollment s.store enrollment')
  | discovering {n : Nat} {input : Input} {enrollment enrollment' : Enrollment}
      (hdiscovers : Discovers s enrollment (.proceed n input))
      (hrewrites : Rewrites s.store enrollment enrollment')
      (hstate : enrollment'.state = .discovering) :
      Change s (.proceed n input) (writeEnrollment s.store enrollment')
  | deleted {actorRole : ActorRole} {target : String} {confirmed dbFails : Bool} {now : Timestamp}
      (targetId : TargetId) :
      Change s (.delete actorRole target confirmed dbFails now) (cascadeStore s.store targetId)

/-- A poll starts nothing. -/
theorem isActive_of_reconcile {enrollment : Enrollment} {status : AnsibleJobStatus}
    {connected : Bool} {now : Timestamp}
    (h : (reconcileEnrollment enrollment status connected now).state.isActive = true) :
    enrollment.state.isActive = true := by
  unfold reconcileEnrollment at h
  split at h
  · -- a failed deployment ends it
    cases h
  split at h
  · rename_i hstate
    rw [hstate.2]
    rfl
  split at h
  · -- the transitions of a poll lead from one state under way to another, or to the end
    simp only [tryTransition_state] at h
    cases hstate : enrollment.state <;> simp_all [EnrollmentState.canTransitionTo,
      EnrollmentState.isActive]
  · exact h

/-- The sections of a poll. -/
theorem change_continuePoll (n : Nat) (now : Timestamp) (poll : Poll) :
    Change s (.continuePoll n now) (s.continuePoll n now poll).store := by
  cases poll with
  | started id =>
    unfold EnrollmentService.continuePoll
    dsimp only
    split <;> exact .none (fun _ => not_false) rfl rfl
  | listed id status target => exact .none (fun _ => not_false) rfl rfl
  | checked id status connected =>
    change Change s _ (writePoll s.store id status connected now)
    unfold writePoll
    split
    · exact .none (fun _ => not_false) rfl rfl
    · rename_i enrollment hfound
      have hlink := sameLink_reconcileEnrollment enrollment status connected now
      have hid : enrollment.id = id := by simpa using List.find?_some hfound
      refine .polled ⟨?_, hlink⟩ isActive_of_reconcile
      rw [hlink.1, hid]
      exact hfound

/-- What the next section of a request moves. -/
theorem discovers_proceed {n : Nat} {creation : Creation} {input : Input} {enrollment : Enrollment}
    (hcreation : s.creations.get n = some creation) :
    Discovers s enrollment (.proceed n input) ↔ creation.phase = .saved ∧
      (s.store.enrollments.find? fun item => item.id = creation.id) = some enrollment ∧
      enrollment.state.canTransitionTo .discovering = true := by
  simp [Discovers, hcreation]

/-- A section before the last one. -/
theorem not_discovers_of_phase {n : Nat} {creation : Creation} (input : Input)
    (hcreation : s.creations.get n = some creation) (hphase : creation.phase ≠ .saved)
    (enrollment : Enrollment) : ¬ Discovers s enrollment (.proceed n input) :=
  fun h => hphase ((discovers_proceed hcreation).mp h).1

/-- The last section. -/
theorem change_startDiscovery {n : Nat} {creation : Creation} (input : Input)
    (hcreation : s.creations.get n = some creation) (hphase : creation.phase = .saved) :
    Change s (.proceed n input)
      (match startDiscovery s.store creation.id input.now with
        | .error _ => s.store
        | .ok store => store) := by
  unfold startDiscovery
  cases hfound : s.store.enrollments.find? fun item => item.id = creation.id with
  | none =>
    -- the enrollment went with its target
    refine .none (fun enrollment hdiscovers => ?_) rfl rfl
    obtain ⟨-, hthere, -⟩ := (discovers_proceed hcreation).mp hdiscovers
    rw [hfound] at hthere
    cases hthere
  | some enrollment =>
    dsimp only
    cases hmoved : enrollment.transitionTo .discovering input.now with
    | error error =>
      -- the lifecycle does not allow it, and the request ends with an error
      refine .none (fun found hdiscovers => ?_) rfl rfl
      obtain ⟨-, hthere, hedge⟩ := (discovers_proceed hcreation).mp hdiscovers
      obtain rfl := Option.some.inj (hfound.symm.trans hthere)
      simp [Enrollment.transitionTo, hedge] at hmoved
    | ok moved =>
      obtain ⟨hedge, hstate, hlink⟩ := Enrollment.transitionTo_ok hmoved
      have hid : enrollment.id = creation.id := by simpa using List.find?_some hfound
      refine .discovering ((discovers_proceed hcreation).mpr ⟨hphase, hfound, hedge⟩) ⟨?_, hlink⟩
        hstate
      rw [hlink.1, hid]
      exact hfound

/-- The sections of a request that was accepted. -/
theorem change_proceed {n : Nat} {creation : Creation} {input : Input}
    (hcreation : s.creations.get n = some creation) :
    Change s (.proceed n input) (s.proceed n creation input).store := by
  cases hphase : creation.phase with
  | inserted =>
    have hidle := not_discovers_of_phase input hcreation (by simp [hphase])
    simp only [EnrollmentService.proceed, hphase]
    split <;> exact .none hidle rfl rfl
  | targetRead target =>
    have hidle := not_discovers_of_phase input hcreation (by simp [hphase])
    simp only [EnrollmentService.proceed, hphase]
    split <;> exact .none hidle rfl rfl
  | created job =>
    have hidle := not_discovers_of_phase input hcreation (by simp [hphase])
    simp only [EnrollmentService.proceed, hphase]
    split <;> exact .none hidle rfl rfl
  | saved =>
    have hchange := change_startDiscovery input hcreation hphase
    simp only [EnrollmentService.proceed, hphase]
    cases hstart : startDiscovery s.store creation.id input.now with
    | error error =>
      rw [hstart] at hchange
      exact hchange
    | ok store =>
      rw [hstart] at hchange
      exact hchange

/-- **Everything a step can do to the enrollments.** -/
theorem EnrollmentService.step_cases (h : s.step a = some s') : Change s a s'.store := by
  cases a with
  | create n request newId now =>
    have hidle : ∀ enrollment, ¬ Discovers s enrollment (.create n request newId now) :=
      fun _ => not_false
    simp only [step, create] at h
    split at h
    · rename_i enrollment hadmission
      obtain ⟨hadmits, rfl⟩ := admitEnrollment_accepted.mp hadmission
      split at h
      · cases h
      rename_i hfresh
      have hchange : Change s (.create n request newId now) _ :=
        .inserted hadmits (not_or.mp hfresh).1
      split at h
      · split at h <;> obtain rfl := Option.some.inj h <;> exact hchange
      · obtain rfl := Option.some.inj h
        exact hchange
    · obtain rfl := Option.some.inj h
      exact .none hidle rfl rfl
  | proceed n input =>
    simp only [step, Option.map_eq_some_iff] at h
    obtain ⟨creation, hcreation, rfl⟩ := h
    exact change_proceed hcreation
  | poll n id =>
    simp only [step] at h
    split at h
    · cases h
    · split at h <;> obtain rfl := Option.some.inj h <;> exact .none (fun _ => not_false) rfl rfl
  | continuePoll n now =>
    simp only [step, Option.map_eq_some_iff] at h
    obtain ⟨poll, -, rfl⟩ := h
    exact change_continuePoll n now poll
  | delete actorRole targetId confirmed dbFails now =>
    simp only [step] at h
    split at h
    · obtain rfl := Option.some.inj h
      exact .none (fun _ => not_false) rfl rfl
    · rename_i state hdeleted
      obtain ⟨uuid, -, hstore⟩ := deleteTarget_store hdeleted
      obtain rfl := Option.some.inj h
      change Change s _ state.store
      rw [hstore]
      exact .deleted ⟨uuid⟩
  | rest containers targets ansible repositories =>
    obtain rfl := Option.some.inj h
    exact .none (fun _ => not_false) rfl rfl

/-! ### What every run keeps -/

section Rewrites

variable {store : ApiStore H P D} {enrollment enrollment' : Enrollment}

theorem Rewrites.mem (h : Rewrites store enrollment enrollment') : enrollment ∈ store.enrollments :=
  List.mem_of_find?_eq_some h.found

/-- The ids stay. -/
theorem map_id_writeEnrollment (store : ApiStore H P D) (enrollment : Enrollment) :
    (writeEnrollment store enrollment).enrollments.map (·.id) = store.enrollments.map (·.id) :=
  map_replaceFirst fun a ha => by simpa using ha

/-- Every entry afterwards has the link of one before. -/
theorem Rewrites.link_of_mem (h : Rewrites store enrollment enrollment') {a : Enrollment}
    (ha : a ∈ (writeEnrollment store enrollment').enrollments) :
    ∃ old ∈ store.enrollments, old.SameLink a := by
  rcases mem_replaceFirst ha with rfl | hold
  · exact ⟨enrollment, h.mem, h.link⟩
  · exact ⟨a, hold, .refl a⟩

theorem Linked.rewrites (hlinked : Linked store) (h : Rewrites store enrollment enrollment') :
    Linked (writeEnrollment store enrollment') where
  keys := by
    intro key id hkey
    rw [map_id_writeEnrollment]
    exact hlinked.keys key id hkey
  targets := by
    intro a ha b hb targetId hta htb
    obtain ⟨olda, holda, hlinka⟩ := h.link_of_mem ha
    obtain ⟨oldb, holdb, hlinkb⟩ := h.link_of_mem hb
    rw [hlinka.2.1, hlinkb.2.1]
    exact hlinked.targets olda holda oldb holdb targetId (hlinka.2.2.symm.trans hta)
      (hlinkb.2.2.symm.trans htb)
  ids := by
    rw [UniqueIds, map_id_writeEnrollment]
    exact hlinked.ids

end Rewrites

/-- A request that is accepted does not take a target away from another container. -/
theorem Admits.apart {server : EnrollmentServer H P D} {request : CreateEnrollmentRequest}
    (h : Admits server request) {targetId : TargetId} (htarget : request.targetId = some targetId) :
    ∀ enrollment ∈ server.state.store.enrollments, enrollment.targetId = some targetId →
      enrollment.containerId = ⟨request.containerId⟩ := by
  have hlink := h.link
  rw [htarget, checkLink] at hlink
  split at hlink
  · cases hlink
  split at hlink
  · cases hlink
  split at hlink
  · cases hlink
  rename_i helsewhere
  intro enrollment hmem hsame
  by_contra hother
  exact helsewhere (List.any_eq_true.mpr ⟨enrollment, hmem, by simp [hother, hsame]⟩)

theorem Linked.inserted {server : EnrollmentServer H P D} (hlinked : Linked server.state.store)
    {request : CreateEnrollmentRequest} {newId : EnrollmentId} {now : Timestamp}
    (h : Admits server request) (hfresh : newId ∉ server.state.store.enrollments.map (·.id)) :
    Linked (insertEnrollment server.state.store (newEnrollment request newId now)) where
  keys := by
    intro key id hkey
    rw [insertEnrollment, List.map_append, List.mem_append]
    rcases Table.get_put_cases hkey with ⟨-, rfl⟩ | ⟨-, hold⟩
    · exact .inr (List.mem_singleton.mpr rfl)
    · exact .inl (hlinked.keys key id hold)
  targets := by
    intro a ha b hb targetId hta htb
    rcases List.mem_append.mp ha with ha | ha <;> rcases List.mem_append.mp hb with hb | hb
    · exact hlinked.targets a ha b hb targetId hta htb
    · -- the check of the link has seen the other container
      obtain rfl := List.mem_singleton.mp hb
      exact h.apart htb a ha hta
    · obtain rfl := List.mem_singleton.mp ha
      exact (h.apart hta b hb htb).symm
    · rw [List.mem_singleton.mp ha, List.mem_singleton.mp hb]
  ids := by
    rw [UniqueIds, insertEnrollment, List.map_append, List.nodup_append]
    refine ⟨hlinked.ids, List.nodup_singleton _, ?_⟩
    rintro id hid other hother rfl
    rw [List.map_singleton, List.mem_singleton] at hother
    have hnew : id = newId := hother
    exact hfresh (hnew ▸ hid)

theorem Linked.cascade {store : ApiStore H P D} (hlinked : Linked store) (targetId : TargetId) :
    Linked (cascadeStore store targetId) where
  keys := by
    intro key id hkey
    simp only [cascadeStore, Table.get_retain, Option.filter_eq_some_iff] at hkey
    exact of_decide_eq_true hkey.2
  targets := by
    intro a ha b hb
    exact hlinked.targets a (List.mem_filter.mp ha).1 b (List.mem_filter.mp hb).1
  ids := hlinked.ids.sublist (List.filter_sublist.map _)

/-- **What a step keeps** in every run. -/
theorem Linked.change (hlinked : Linked s.store) {store : ApiStore H P D}
    (h : Change s a store) : Linked store := by
  cases h with
  | none _ henrollments hkeys =>
    obtain ⟨hlead, hapart, hids⟩ := hlinked
    refine ⟨?_, ?_, ?_⟩
    · rw [KeysLead, henrollments, hkeys]
      exact hlead
    · rw [TargetsApart, henrollments]
      exact hapart
    · rw [UniqueIds, henrollments]
      exact hids
  | inserted hadmits hfresh => exact hlinked.inserted hadmits hfresh
  | polled hrewrites => exact hlinked.rewrites hrewrites
  | discovering _ hrewrites => exact hlinked.rewrites hrewrites
  | deleted targetId => exact hlinked.cascade targetId

theorem linked_of_reach {ok : EnrollmentService H P D → EnrollmentAction → Prop}
    (h : (enrollmentMachine H P D).Reach ok s) : Linked s.store := by
  induction h with
  | init hinit =>
    obtain ⟨henrollments, hkeys, -⟩ := hinit
    refine ⟨?_, ?_, ?_⟩
    · simp [KeysLead, hkeys]
    · simp [TargetsApart, henrollments]
    · simp [UniqueIds, henrollments]
  | step _ _ hs ih => exact ih.change (EnrollmentService.step_cases hs)

/-- The `expect` of `create_enrollment` cannot fail. -/
theorem Linked.not_panicked {server : EnrollmentServer H P D} (h : Linked server.state.store)
    (request : CreateEnrollmentRequest) (newId : EnrollmentId) (now : Timestamp) :
    admitEnrollment server request newId now ≠ .panicked := by
  unfold admitEnrollment
  dsimp only
  split
  · simp
  split
  · simp
  split
  · simp
  split
  · rename_i id hkey
    obtain ⟨enrollment, hmem, hid⟩ := List.mem_map.mp (h.keys _ id hkey)
    split
    · rename_i hnone
      exact absurd (decide_eq_true hid) (List.find?_eq_none.mp hnone enrollment hmem)
    · split <;> simp
  · split
    · simp
    · split <;> simp

/-! ### One enrollment under way -/

/-- Writing an enrollment leaves one under way for each container when the others of its container
are not. -/
theorem OneActive.rewrites {store : ApiStore H P D} {enrollment enrollment' : Enrollment}
    (hone : OneActive store) (h : Rewrites store enrollment enrollment')
    (hothers : enrollment'.state.isActive = true → ∀ other ∈ store.enrollments,
      other.containerId = enrollment.containerId → other.state.isActive = true →
        other.id = enrollment.id) :
    OneActive (writeEnrollment store enrollment') := by
  have hid : enrollment'.id = enrollment.id := h.link.1
  have hcontainer : enrollment'.containerId = enrollment.containerId := h.link.2.1
  intro a ha b hb hsame hactive hactive'
  rcases mem_replaceFirst ha with rfl | holda <;> rcases mem_replaceFirst hb with rfl | holdb
  · rfl
  · rw [hid, hothers hactive b holdb (hsame.symm.trans hcontainer) hactive']
  · rw [hid, hothers hactive' a holda (hsame.trans hcontainer) hactive]
  · exact hone a holda b holdb hsame hactive hactive'

/-- **A step that moves an enrollment to `discovering` keeps one under way** if and only if no
other one of its container is. -/
theorem oneActive_discovering_iff {store : ApiStore H P D} {enrollment enrollment' : Enrollment}
    (hone : OneActive store) (h : Rewrites store enrollment enrollment')
    (hstate : enrollment'.state = .discovering) :
    OneActive (writeEnrollment store enrollment') ↔ ∀ other ∈ store.enrollments,
      other.containerId = enrollment.containerId → other.state.isActive = true →
        other.id = enrollment.id := by
  have hactive : enrollment'.state.isActive = true := by rw [hstate]; rfl
  have hid : enrollment'.id = enrollment.id := h.link.1
  constructor
  · intro hafter other hother hsame hactive'
    by_contra hne
    have hkept : other ∈ (writeEnrollment store enrollment').enrollments :=
      mem_replaceFirst_of_not hother (by simpa [hid] using hne)
    have hnew : enrollment' ∈ (writeEnrollment store enrollment').enrollments :=
      mem_replaceFirst_self h.mem (by simp [hid])
    have heq := hafter other hkept enrollment' hnew (hsame.trans h.link.2.1.symm) hactive' hactive
    exact hne (heq.trans hid)
  · intro hothers
    exact hone.rewrites h fun _ => hothers

theorem OneActive.inserted {server : EnrollmentServer H P D}
    (hone : OneActive server.state.store) {request : CreateEnrollmentRequest}
    {newId : EnrollmentId} {now : Timestamp} (h : Admits server request) :
    OneActive (insertEnrollment server.state.store (newEnrollment request newId now)) := by
  have hidle : ∀ enrollment ∈ server.state.store.enrollments,
      enrollment.containerId = ⟨request.containerId⟩ → enrollment.state.isActive = false := by
    intro enrollment hmem hcontainer
    have hnone := List.any_eq_false.mp h.idle enrollment hmem
    simpa [hcontainer] using hnone
  intro a ha b hb hsame hactive hactive'
  rcases List.mem_append.mp ha with ha | ha <;> rcases List.mem_append.mp hb with hb | hb
  · exact hone a ha b hb hsame hactive hactive'
  · -- none was under way when the new one was accepted
    obtain rfl := List.mem_singleton.mp hb
    rw [hidle a ha hsame] at hactive
    cases hactive
  · obtain rfl := List.mem_singleton.mp ha
    rw [hidle b hb hsame.symm] at hactive'
    cases hactive'
  · rw [List.mem_singleton.mp ha, List.mem_singleton.mp hb]

/-- **Which steps keep one enrollment under way.** -/
theorem oneActive_step_iff (hone : OneActive s.store) (h : s.step a = some s') :
    OneActive s'.store ↔ Undisturbed s a := by
  have hchange := EnrollmentService.step_cases h
  generalize s'.store = store at hchange
  cases hchange with
  | none hidle henrollments =>
    refine iff_of_true ?_ fun enrollment hdiscovers => absurd hdiscovers (hidle enrollment)
    rw [OneActive, henrollments]
    exact hone
  | inserted hadmits hfresh => exact iff_of_true (hone.inserted hadmits) fun _ h => h.elim
  | polled hrewrites hactive =>
    refine iff_of_true (hone.rewrites hrewrites fun hnew other hother hsame hother' => ?_)
      fun _ h => h.elim
    exact hone other hother _ hrewrites.mem hsame hother' (hactive hnew)
  | discovering hdiscovers hrewrites hstate =>
    rw [oneActive_discovering_iff hone hrewrites hstate]
    constructor
    · intro hothers found hfound
      -- a section moves one enrollment only
      obtain ⟨creation, hcreation, -, hthere, -⟩ := hdiscovers
      obtain ⟨-, hthere', -⟩ := (discovers_proceed hcreation).mp hfound
      obtain rfl := Option.some.inj (hthere.symm.trans hthere')
      exact hothers
    · intro hundisturbed
      exact hundisturbed _ hdiscovers
  | deleted targetId =>
    refine iff_of_true (fun a ha b hb => ?_) fun _ h => h.elim
    exact hone a (List.mem_filter.mp ha).1 b (List.mem_filter.mp hb).1

theorem oneActive_of_undisturbed (h : (enrollmentMachine H P D).Reach Undisturbed s) :
    OneActive s.store := by
  induction h with
  | init hinit => simp [OneActive, hinit.1]
  | step _ hok hs ih => exact (oneActive_step_iff ih hs).mpr hok

/-- **Which runs keep the enrollments consistent.**  In every run, keys lead to enrollments, so
that the `expect` of `create_enrollment` does not fail, and a target is linked to one container.
A container has at most one enrollment under way in every run in which no request moves its
enrollment to `discovering` while another one of the container is under way, and a step of any run
keeps this if and only if it does not do that. -/
theorem enrollments_consistent_iff (H P D : Type) :
    (∀ s : EnrollmentService H P D, (enrollmentMachine H P D).Reach Machine.Any s →
      KeysLead s.store ∧ TargetsApart s.store ∧ UniqueIds s.store ∧
        ∀ request newId now, admitEnrollment s.server request newId now ≠ .panicked) ∧
    (∀ s : EnrollmentService H P D, (enrollmentMachine H P D).Reach Undisturbed s →
      OneActive s.store) ∧
    ∀ (s : EnrollmentService H P D) (a : EnrollmentAction) (s' : EnrollmentService H P D),
      (enrollmentMachine H P D).Reach Machine.Any s → OneActive s.store →
        (enrollmentMachine H P D).step s a = some s' → (OneActive s'.store ↔ Undisturbed s a) := by
  refine ⟨fun s hs => ?_, fun s hs => oneActive_of_undisturbed hs,
    fun s a s' _ hone hs => oneActive_step_iff hone hs⟩
  have hlinked := linked_of_reach hs
  exact ⟨hlinked.keys, hlinked.targets, hlinked.ids, fun request newId now =>
    hlinked.not_panicked request newId now⟩

/-! ### An enrollment that comes back -/

/-- An LXC target that is not managed yet. -/
def pendingLxc : Target := { linuxServer ⟨⟨7⟩⟩ with kind := .lxc, state := .pending }

/-- The database with the target and some jobs. -/
def lxcDatabase (jobs : JobTable) : Database :=
  ⟨(∅ : Table TargetId Target).put ⟨⟨7⟩⟩ pendingLxc, jobs, [], [], []⟩

/-- A server with one container and the target. -/
def lxcService : EnrollmentService Unit Unit Unit where
  server :=
    { containers := [⟨101⟩]
      state :=
        { store := ⟨[pendingLxc], ∅, ∅, ∅, [], ∅, [], []⟩
          ansible := .default
          repositories := some (lxcDatabase .empty) } }
  creations := ∅
  polls := ∅

/-- The job of the first enrollment. -/
def firstDeployment : AnsibleJob :=
  .queuedFor (deploymentRequest pendingLxc ⟨⟨1⟩⟩) ⟨⟨2⟩⟩ 0

/-- The row of the job is inserted, the worker fails it and a poll sees that before the enrollment
has moved on.  A second request is accepted, and then the first one moves on. -/
def comingBack : List EnrollmentAction :=
  let input : Input := ⟨⟨⟨1⟩⟩, ⟨⟨2⟩⟩, 0, false⟩
  [.create 0 ⟨101, some ⟨⟨7⟩⟩, "first", true⟩ ⟨⟨1⟩⟩ 0,
    .proceed 0 input, .proceed 0 input, .proceed 0 input,
    .rest [⟨101⟩] [pendingLxc] (AnsibleJobCoordinator.default.register firstDeployment 0)
      (some (lxcDatabase (JobTable.empty.put { firstDeployment with status := .failed }))),
    .poll 0 ⟨⟨1⟩⟩, .continuePoll 0 1, .continuePoll 0 1, .continuePoll 0 1,
    .create 1 ⟨101, some ⟨⟨7⟩⟩, "second", true⟩ ⟨⟨3⟩⟩ 2,
    .proceed 0 input]

/-- A request runs to its end, and a second one for the container is refused. -/
def oneAfterAnother : List EnrollmentAction :=
  let input : Input := ⟨⟨⟨1⟩⟩, ⟨⟨2⟩⟩, 0, false⟩
  [.create 0 ⟨101, some ⟨⟨7⟩⟩, "first", true⟩ ⟨⟨1⟩⟩ 0,
    .proceed 0 input, .proceed 0 input, .proceed 0 input, .proceed 0 input,
    .create 1 ⟨101, some ⟨⟨7⟩⟩, "second", true⟩ ⟨⟨3⟩⟩ 2]

theorem consistent_one_after_another :
    ∃ s ∈ (enrollmentMachine Unit Unit Unit).exec
        ((enrollmentMachine Unit Unit Unit).Preserves fun s => OneActive s.store) lxcService
        oneAfterAnother,
      OneActive s.store ∧ KeysLead s.store ∧
        s.store.enrollments.map (·.state) = [.discovering] := by
  have hrun : ∃ s ∈ (enrollmentMachine Unit Unit Unit).exec
      ((enrollmentMachine Unit Unit Unit).Preserves fun s => OneActive s.store) lxcService
      oneAfterAnother, s.store.enrollments.map (·.state) = [.discovering] := by
    decide +kernel
  obtain ⟨s, hexec, hstate⟩ := hrun
  obtain ⟨hany, hundisturbed, -⟩ := enrollments_consistent_iff Unit Unit Unit
  have hinit : (enrollmentMachine Unit Unit Unit).init lxcService := ⟨rfl, rfl, rfl, rfl⟩
  have hreach : (enrollmentMachine Unit Unit Unit).Reach Undisturbed s :=
    .exec_preserving (fun s a s' _ h hs h' => (oneActive_step_iff h hs).mp h') (.init hinit)
      (by decide) _ hexec
  exact ⟨s, hexec, hundisturbed s hreach, (hany s hreach.any).1, hstate⟩

theorem two_enrollments_active :
    ¬ ∀ s : EnrollmentService Unit Unit Unit,
      (enrollmentMachine Unit Unit Unit).Reach Machine.Any s → OneActive s.store := by
  intro hall
  have hrun : ∃ s ∈ (enrollmentMachine Unit Unit Unit).exec Machine.Any lxcService comingBack,
      ¬ OneActive s.store := by
    decide +kernel
  obtain ⟨s, hexec, htwo⟩ := hrun
  have hinit : (enrollmentMachine Unit Unit Unit).init lxcService := ⟨rfl, rfl, rfl, rfl⟩
  exact htwo (hall s (.exec (.init hinit) _ hexec))

end Lxcup.Enrollments
