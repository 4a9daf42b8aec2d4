import Lxcup.Lib.Program
import Lxcup.Worker.Execution

/-!
# The execution of a job

`run` and `invoke` of the worker as programs over their effects: statements of the database, steps
on files and secrets, and `ansible-playbook`.  Any of them may fail, and with most of the failures
`run` returns early.  The job is a variable of the program, since what `run` has changed before it
returns decides how `process` ends the job.

What the texts of a playbook's output are made into is a parameter.

## Main definitions

* `WorkerEffect` with its answers, `OutputReader`.
* `markJobApplying`, `invoke`, `run` — the functions of the source.
* `Progress`, `Progress.observe` — what has been written about the job so far.
* `Progress.Allows`, `Progress.Fits` — which calls are made, and the job that is left.

## Main results

* `ensures_run` — what holds of every call of `run`, and of its end.
-/

namespace Lxcup.Worker

open Lxcup.Lib Lxcup.Core Lxcup.Ansible Lxcup.Persistence

/-! ### Effects -/

/-- The output of a playbook that has ended. -/
structure Output where
  success : Bool
  stdout : String
  stderr : String
  deriving DecidableEq, Repr, Inhabited

/-- How `ansible-playbook` ends. -/
inductive PlaybookOutcome
  | timedOut
  | notStarted
  | output (out : Output)
  deriving DecidableEq, Repr, Inhabited

/-- The effects of `run`. -/
inductive WorkerEffect
  /-- `Utc::now()`. -/
  | clock
  | findTarget (id : TargetId)
  | findJob (id : AnsibleJobId)
  | update (job : AnsibleJob)
  | countEvents (id : AnsibleJobId)
  | appendEvent (sequence : Nat) (id : AnsibleJobId) (kind : JobEventKind)
  | createDir
  | removeDir
  | prepareTargetHost
  | writeInventory
  | prepareWorkflowVars
  | writeVars
  /-- The path of the inventory has to be text. -/
  | inventoryPath
  | ansiblePlaybook (mode : ExecutionMode) (playbook : String) (args : List String)
  /-- The packages that the playbook has collected are read, and counted. -/
  | readPackageInventory
  | replacePackages
  deriving DecidableEq, Repr

/-- What an effect answers: `none` and `false` are failures. -/
abbrev WorkerEffect.Answer : WorkerEffect → Type
  | .clock => Timestamp
  | .findTarget _ => Option (Option Target)
  | .findJob _ => Option (Option AnsibleJob)
  | .countEvents _ => Option Nat
  | .update _ | .appendEvent .. | .createDir | .writeInventory | .writeVars | .inventoryPath
  | .replacePackages => Bool
  | .removeDir => Unit
  | .prepareTargetHost | .prepareWorkflowVars => Except JobFailureCode Unit
  | .ansiblePlaybook .. => PlaybookOutcome
  | .readPackageInventory => Except JobFailureCode Nat

/-- What is made of the texts of an output. -/
structure OutputReader where
  /-- The text without secrets. -/
  redact : String → String
  finishedTaskResults : String → List (String × Bool)
  applySummary : String → Bool → String
  checkModeSummary : String → String
  planSummary : String → String
  reconciliationDecision : String → ReconciliationDecision
  reconciliationSummary : ReconciliationDecision → String
  classifyPlaybookFailure : String → JobFailureCode
  playbookChanged : String → Bool

/-- A function of the worker that works on the job. -/
abbrev Work (α : Type) : Type :=
  Process WorkerEffect WorkerEffect.Answer JobFailureCode AnsibleJob α

/-- What is left of an execution. -/
abbrev Execution : Type :=
  Program WorkerEffect WorkerEffect.Answer (Except JobFailureCode Bool × AnsibleJob)

/-! ### The functions of the source -/

/-- Call for an effect. -/
abbrev perform (e : WorkerEffect) : Work e.Answer := Process.call e

/-- A statement on `ansible_jobs`. -/
def update (job : AnsibleJob) : Work Unit := do
  let ok : Bool ← perform (.update job)
  .require ok .workerUnavailable

/-- `event`: the number of the next event is read first. -/
def event (id : AnsibleJobId) (kind : JobEventKind) : Work Unit := do
  let count : Option Nat ← perform (.countEvents id)
  match count with
  | none => .fail .workerUnavailable
  | some count =>
    let ok : Bool ← perform (.appendEvent (count + 1) id kind)
    .require ok .workerUnavailable

def events (id : AnsibleJobId) : List JobEventKind → Work Unit
  | [] => pure ()
  | kind :: kinds => do
    event id kind
    events id kinds

/-- `job.transition_to(next).map_err(|_| PlaybookFailed)?` -/
def transition (next : AnsibleJobStatus) : Work Unit := do
  let now : Timestamp ← perform .clock
  let job ← .get
  match job.transitionTo next now with
  | .error _ => .fail .playbookFailed
  | .ok job => .set job

/-- `mark_job_applying`. -/
def markJobApplying : Work Unit := do
  transition .applying
  let job ← .get
  update job
  event job.id (.statusChanged .applying)

/-- `load_reconciliation_source`. -/
def loadReconciliationSource : Work AnsibleJob := do
  let job ← .get
  match reconciliationSourceJobId job.idempotencyKey with
  | none => .fail .playbookFailed
  | some sourceId =>
    let found : Option (Option AnsibleJob) ← perform (.findJob sourceId)
    match found with
    | none => .fail .workerUnavailable
    | some none => .fail .playbookFailed
    | some (some source) => if sourceMatches job source then pure source else .fail .playbookFailed

/-- The source of the reconciliation that the job is, if it is one. -/
def reconciliationSource : Work (Option AnsibleJob) := do
  let job ← .get
  if job.mode = .reconcile then some <$> loadReconciliationSource else pure none

/-- `prepare_invocation`. -/
def prepareInvocation : Work Unit := do
  let host : Except JobFailureCode Unit ← perform .prepareTargetHost
  .ofExcept host
  let ok : Bool ← perform .writeInventory
  .require ok .workerUnavailable
  let vars : Except JobFailureCode Unit ← perform .prepareWorkflowVars
  .ofExcept vars
  let ok : Bool ← perform .writeVars
  .require ok .workerUnavailable

/-- The messages of `emit_worker_streams`: a blank stream has none. -/
def streamEvents (reader : OutputReader) (out : Output) : List JobEventKind :=
  [("stdout", out.stdout), ("stderr", out.stderr)].filterMap fun (source, text) =>
    let message := reader.redact text
    if trim message.toList = [] then none else some (.workerLog source message)

/-- The messages of `emit_mode_summary`. -/
def summaryEvents (reader : OutputReader) (mode : ExecutionMode) (out : Output) :
    List JobEventKind :=
  match mode with
  | .apply =>
    (reader.finishedTaskResults out.stdout).map (fun (task, changed) => .taskFinished task changed)
      ++ [.workerLog "apply" (reader.applySummary out.stdout out.success)]
  | .check => [.workerLog "check" (reader.checkModeSummary out.stdout)]
  | .plan => [.workerLog "plan" (reader.planSummary out.stdout)]
  | .reconcile => []

/-- `finalize_reconciliation_source`. -/
def finalizeReconciliationSource (source : AnsibleJob) (decision : ReconciliationDecision)
    (message : String) : Work Unit := do
  let now : Timestamp ← perform .clock
  match source.transitionTo (sourceStatus decision) now with
  | .error _ => .fail .playbookFailed
  | .ok source =>
    update source
    events source.id [.workerLog "reconcile" message, .statusChanged (sourceStatus decision)]

/-- What the log says when a reconciliation could not find out anything. -/
def reconciliationFailed : String :=
  "Ist-Zustand konnte nicht zuverlässig ermittelt werden. Der Ursprungsjob bleibt " ++
    "abgleichspflichtig; dieser Reconcile-Lauf kann nach Behebung der Verbindungsursache " ++
    "erneut versucht werden."

/-- `reconcile_job`. -/
def reconcileJob (reader : OutputReader) (jobId : AnsibleJobId) (source : AnsibleJob)
    (out : Output) : Work Unit := do
  if !out.success then event jobId (.workerLog "reconcile" reconciliationFailed)
  else
    let decision := reader.reconciliationDecision out.stdout
    let message := reader.reconciliationSummary decision
    event jobId (.workerLog "reconcile" message)
    finalizeReconciliationSource source decision message

/-- `persist_package_inventory`. -/
def persistPackageInventory (jobId : AnsibleJobId) : Work Unit := do
  let packages : Except JobFailureCode Nat ← perform .readPackageInventory
  let count ← .ofExcept packages
  let ok : Bool ← perform .replacePackages
  .require ok .workerUnavailable
  event jobId (.taskFinished ("package inventory: " ++ toString count ++ " packages") false)

/-- The end of `invoke`. -/
def playbookResult (reader : OutputReader) (job : AnsibleJob) (out : Output) : Work Bool :=
  if !out.success then
    .fail (reader.classifyPlaybookFailure (out.stdout ++ "\n" ++ out.stderr))
  else do
    if job.operation = .collectPackageInventory then persistPackageInventory job.id
    return decide (job.mode = .apply) && reader.playbookChanged out.stdout

/-- `invoke` from the end of the playbook on. -/
def afterPlaybook (reader : OutputReader) (job : AnsibleJob) (source : Option AnsibleJob)
    (out : Output) : Work Bool := do
  events job.id (streamEvents reader out)
  events job.id (summaryEvents reader job.mode out)
  match source with
  | none => playbookResult reader job out
  | some source =>
    reconcileJob reader job.id source out
    playbookResult reader job out

/-- `invoke` from the start of the playbook on. -/
def startPlaybook (reader : OutputReader) (target : Target) (modeArgs : List String)
    (source : Option AnsibleJob) : Work Bool := do
  let job ← .get
  match playbook job.operation target.kind with
  | none => .fail .playbookFailed
  | some playbook =>
    let ok : Bool ← perform .inventoryPath
    .require ok .workerUnavailable
    let outcome : PlaybookOutcome ← perform (.ansiblePlaybook job.mode playbook modeArgs)
    match outcome with
    | .timedOut => .fail .timeout
    | .notStarted => .fail .workerUnavailable
    | .output out => afterPlaybook reader job source out

/-- `invoke`. -/
def invoke (reader : OutputReader) (target : Target) : Work Bool := do
  let job ← .get
  let modeArgs ← .ofExcept (ansibleModeArgs job.operation job.mode)
  let source ← reconciliationSource
  prepareInvocation
  (if job.mode = .apply then markJobApplying else pure ())
  startPlaybook reader target modeArgs source

/-- `run` from the moment on that the job is planned. -/
def runPlanned (reader : OutputReader) (target : Target) : Work Bool := do
  let job ← .get
  update job
  event job.id (.statusChanged .planned)
  let ok : Bool ← perform .createDir
  .require ok .workerUnavailable
  -- the directory is removed whatever `invoke` returns
  let result ← (invoke reader target).attempt
  let _ ← perform .removeDir
  .ofExcept result

/-- `run`. -/
def run (reader : OutputReader) : Work Bool := do
  let job ← .get
  match job.target with
  | .target id =>
    let found : Option (Option Target) ← perform (.findTarget id)
    match found with
    | none => .fail .workerUnavailable
    | some none => .fail .unreachable
    | some (some target) =>
      .ofExcept (checkTarget job target)
      transition .planned
      runPlanned reader target
  | _ => .fail .playbookFailed

/-! ### Progress -/

/-- What the calls say about the job so far. -/
structure Progress where
  /-- The unfinished status that the job has come to. -/
  attempted : AnsibleJobStatus
  /-- The unfinished status that was written last. -/
  stored : AnsibleJobStatus
  /-- The playbook was started to apply something. -/
  started : Bool
  /-- The source of a reconciliation. -/
  loaded : Option AnsibleJobId
  deriving DecidableEq, Repr

/-- A job that was just claimed. -/
def Progress.initial : Progress := ⟨.checking, .checking, false, none⟩

/-- What a call and its answer say about the job `id`. -/
def Progress.observe (id : AnsibleJobId) (s : Progress) : (e : WorkerEffect) → e.Answer → Progress
  | .update job, ok =>
    if job.id = id ∧ job.status.isActive = true then
      { s with attempted := job.status, stored := if ok then job.status else s.stored }
    else s
  | .findJob _, some (some source) =>
    if source.status = .reconcileRequired then { s with loaded := some source.id } else s
  | .ansiblePlaybook mode _ _, _ => if mode = .apply then { s with started := true } else s
  | _, _ => s

/-- The calls that are made: the job is not written any more once its playbook was started, nothing
else is written but the source of a reconciliation, and a playbook that applies something is started
when `applying` has been written. -/
def Progress.Allows (id : AnsibleJobId) (s : Progress) : WorkerEffect → Prop
  | .update job => (job.id = id ∧ job.status.isActive = true ∧ s.started = false) ∨
      (s.loaded = some job.id ∧ job.status.isActive = false)
  | .ansiblePlaybook mode _ _ => mode = .apply → s.attempted = .applying ∧ s.stored = .applying
  | _ => True

/-- The job in memory is as far as its calls say. -/
structure Progress.Fits (claimed : AnsibleJob) (s : Progress) (job : AnsibleJob) : Prop where
  id : job.id = claimed.id
  mode : job.mode = claimed.mode
  status : job.status = s.attempted
  active : s.attempted.isActive = true
  applying : s.attempted = .applying → claimed.mode = .apply
  started : s.started = true → s.attempted = .applying ∧ s.stored = .applying

/-! ### Calls that say nothing about the job -/

/-- The process makes no call that says something about a job, and leaves the job alone. -/
def Quiet {α : Type} (p : Work α) : Prop :=
  ∀ (id : AnsibleJobId) (s : Progress) (job : AnsibleJob)
    (ok : Progress → AnsibleJob → α → Prop) (err : Progress → AnsibleJob → JobFailureCode → Prop),
    (∀ a, ok s job a) → (∀ code, err s job code) →
      p.Ensures (Progress.observe id) (Progress.Allows id) ok err job s

section Quiet

variable {α β : Type}

theorem quiet_pure (a : α) : Quiet (pure a) :=
  fun _ _ _ _ _ hok _ => (Process.ensures_pure a).mpr (hok a)

theorem quiet_fail (code : JobFailureCode) : Quiet (.fail code : Work α) :=
  fun _ _ _ _ _ _ herr => (Process.ensures_fail code).mpr (herr code)

theorem quiet_require (cond : Bool) (code : JobFailureCode) : Quiet (.require cond code) := by
  intro id s job ok err hok herr
  rw [Process.ensures_require]
  cases cond
  · exact herr code
  · exact hok ()

theorem quiet_ofExcept (result : Except JobFailureCode α) : Quiet (.ofExcept result) := by
  intro id s job ok err hok herr
  rw [Process.ensures_ofExcept]
  cases result
  · exact herr _
  · exact hok _

theorem Quiet.bind {p : Work α} {f : α → Work β} (hp : Quiet p) (hf : ∀ a, Quiet (f a)) :
    Quiet (p >>= f) := by
  intro id s job ok err hok herr
  rw [Process.ensures_bind]
  exact hp id s job _ _ (fun a => hf a id s job ok err hok herr) herr

/-- The effects that say nothing about a job. -/
def WorkerEffect.isQuiet : WorkerEffect → Bool
  | .update _ | .findJob _ | .ansiblePlaybook .. => false
  | _ => true

theorem quiet_perform {e : WorkerEffect} (he : e.isQuiet = true) : Quiet (perform e) := by
  intro id s job ok err hok _
  rw [Process.ensures_call]
  cases e with
  | update | findJob | ansiblePlaybook => cases he
  | _ => exact ⟨trivial, hok⟩

theorem quiet_event (id : AnsibleJobId) (kind : JobEventKind) : Quiet (event id kind) := by
  refine (quiet_perform rfl).bind fun count => ?_
  cases count with
  | none => exact quiet_fail _
  | some count => exact (quiet_perform rfl).bind fun ok => quiet_require ok _

theorem quiet_events (id : AnsibleJobId) (kinds : List JobEventKind) :
    Quiet (events id kinds) := by
  induction kinds with
  | nil => exact quiet_pure ()
  | cons kind kinds ih => exact (quiet_event id kind).bind fun _ => ih

theorem quiet_prepareInvocation : Quiet prepareInvocation :=
  (quiet_perform rfl).bind fun host => (quiet_ofExcept host).bind fun _ =>
    (quiet_perform rfl).bind fun ok => (quiet_require ok _).bind fun _ =>
      (quiet_perform rfl).bind fun vars => (quiet_ofExcept vars).bind fun _ =>
        (quiet_perform rfl).bind fun ok => quiet_require ok _

theorem quiet_persistPackageInventory (id : AnsibleJobId) : Quiet (persistPackageInventory id) :=
  (quiet_perform rfl).bind fun packages => (quiet_ofExcept packages).bind fun _ =>
    (quiet_perform rfl).bind fun ok => (quiet_require ok _).bind fun _ => quiet_event id _

theorem quiet_playbookResult (reader : OutputReader) (job : AnsibleJob) (out : Output) :
    Quiet (playbookResult reader job out) := by
  unfold playbookResult
  split
  · exact quiet_fail _
  · split
    · exact (quiet_persistPackageInventory _).bind fun _ => quiet_pure _
    · exact (quiet_pure _).bind fun _ => quiet_pure _

end Quiet

/-! ### The functions -/

section Functions

variable {claimed job : AnsibleJob} {s : Progress}
  {err : Progress → AnsibleJob → JobFailureCode → Prop}

/-- A transition leads to the job on the other end of the edge, or nowhere. -/
theorem ensures_transition {next : AnsibleJobStatus} {id : AnsibleJobId}
    {ok : Progress → AnsibleJob → Unit → Prop}
    (hedge : job.status.canTransitionTo next = true)
    (hok : ∀ now, ok s { job with status := next, updatedAt := now } ()) :
    (transition next).Ensures (Progress.observe id) (Progress.Allows id) ok err job s := by
  refine Process.ensures_bind.mpr ⟨trivial, fun now => ?_⟩
  refine Process.ensures_bind.mpr ?_
  have hmoved : job.transitionTo next now = .ok { job with status := next, updatedAt := now } :=
    AnsibleJob.transitionTo_ok.mpr ⟨hedge, rfl⟩
  rw [Process.ensures_get, hmoved]
  exact (Process.ensures_set _).mpr (hok now)

/-- Writing an unfinished status of the job. -/
theorem ensures_update {written : AnsibleJob} {id : AnsibleJobId}
    {ok : Progress → AnsibleJob → Unit → Prop}
    (hid : written.id = id) (hactive : written.status.isActive = true)
    (hstarted : s.started = false)
    (hok : ok { s with attempted := written.status, stored := written.status } job ())
    (herr : err { s with attempted := written.status } job .workerUnavailable) :
    (update written).Ensures (Progress.observe id) (Progress.Allows id) ok err job s := by
  refine Process.ensures_bind.mpr ((Process.ensures_call _).mpr
    ⟨.inl ⟨hid, hactive, hstarted⟩, fun ok => (Process.ensures_require ok _).mpr ?_⟩)
  cases ok with
  | false => simpa [Progress.observe, hid, hactive] using herr
  | true => simpa [Progress.observe, hid, hactive] using hok

/-- Writing the source of a reconciliation. -/
theorem ensures_update_source {source : AnsibleJob} {id : AnsibleJobId}
    {ok : Progress → AnsibleJob → Unit → Prop}
    (hloaded : s.loaded = some source.id) (hactive : source.status.isActive = false)
    (hok : ok s job ()) (herr : ∀ code, err s job code) :
    (update source).Ensures (Progress.observe id) (Progress.Allows id) ok err job s := by
  refine Process.ensures_bind.mpr ((Process.ensures_call _).mpr
    ⟨.inr ⟨hloaded, hactive⟩, fun ok => (Process.ensures_require ok _).mpr ?_⟩)
  cases ok with
  | false => simpa [Progress.observe, hactive] using herr .workerUnavailable
  | true => simpa [Progress.observe, hactive] using hok

/-- `run` returns with a job that fits; nothing more is known when it fails. -/
def Failed (claimed : AnsibleJob) (s : Progress) (job : AnsibleJob) (_ : JobFailureCode) : Prop :=
  s.Fits claimed job

/-- The job is planned or applying. -/
def Planned (claimed : AnsibleJob) (s : Progress) (job : AnsibleJob) (_ : Bool) : Prop :=
  s.Fits claimed job ∧ s.attempted ≠ .checking

theorem ensures_markJobApplying (hfits : s.Fits claimed job) (hplanned : s.attempted = .planned)
    (hmode : claimed.mode = .apply) (hstarted : s.started = false) :
    markJobApplying.Ensures (Progress.observe claimed.id) (Progress.Allows claimed.id)
      (fun s' job' _ => s'.Fits claimed job' ∧ s'.attempted = .applying ∧ s'.stored = .applying ∧
        s'.loaded = s.loaded)
      (Failed claimed) job s := by
  have hmarked : ∀ now stored, ({ s with attempted := .applying, stored := stored } : Progress).Fits
      claimed { job with status := .applying, updatedAt := now } := fun now stored =>
    ⟨hfits.id, hfits.mode, rfl, rfl, fun _ => hmode, fun h => by simp [hstarted] at h⟩
  have hedge : job.status.canTransitionTo .applying = true := by rw [hfits.status, hplanned]; rfl
  refine Process.ensures_bind.mpr (ensures_transition hedge fun now => ?_)
  refine Process.ensures_bind.mpr (Process.ensures_get.mpr (Process.ensures_bind.mpr ?_))
  -- when the row cannot be written, the job in memory is applying all the same
  refine ensures_update hfits.id rfl hstarted ?_ (hmarked now s.stored)
  exact quiet_event _ _ _ _ _ _ _ (fun _ => ⟨hmarked now .applying, rfl, rfl, rfl⟩)
    fun _ => hmarked now .applying

theorem ensures_loadReconciliationSource (hfits : s.Fits claimed job) :
    loadReconciliationSource.Ensures (Progress.observe claimed.id) (Progress.Allows claimed.id)
      (fun s' job' source => s'.Fits claimed job' ∧ job' = job ∧ s'.attempted = s.attempted ∧
        s'.started = s.started ∧ s'.loaded = some source.id)
      (Failed claimed) job s := by
  refine Process.ensures_bind.mpr (Process.ensures_get.mpr ?_)
  cases reconciliationSourceJobId job.idempotencyKey with
  | none => exact hfits
  | some sourceId =>
  refine Process.ensures_bind.mpr ((Process.ensures_call _).mpr ⟨trivial, fun found => ?_⟩)
  match found with
  | none => exact hfits
  | some none => exact hfits
  | some (some source) =>
    -- whatever the source is, the job is as before
    have hsame : (s.observe claimed.id (.findJob sourceId) (some (some source))).Fits
        claimed job := by
      simp only [Progress.observe]
      split
      · exact ⟨hfits.id, hfits.mode, hfits.status, hfits.active, hfits.applying, hfits.started⟩
      · exact hfits
    dsimp only
    split
    · rename_i hmatches
      have hstatus : source.status = .reconcileRequired := by
        simp only [sourceMatches, Bool.and_eq_true, decide_eq_true_eq] at hmatches
        exact hmatches.1.1.1.1.1.1
      refine ⟨hsame, rfl, ?_, ?_, ?_⟩ <;> simp [Progress.observe, hstatus]
    · exact hsame

theorem ensures_reconciliationSource (hfits : s.Fits claimed job) :
    reconciliationSource.Ensures (Progress.observe claimed.id) (Progress.Allows claimed.id)
      (fun s' job' source => s'.Fits claimed job' ∧ job' = job ∧ s'.attempted = s.attempted ∧
        s'.started = s.started ∧ ∀ found ∈ source, s'.loaded = some found.id)
      (Failed claimed) job s := by
  refine Process.ensures_bind.mpr (Process.ensures_get.mpr ?_)
  split
  · refine Process.ensures_bind.mpr
      ((ensures_loadReconciliationSource hfits).mono ?_ fun _ _ _ h => h)
    rintro s' job' source ⟨hfits', hjob, hattempted, hstarted, hloaded⟩
    refine ⟨hfits', hjob, hattempted, hstarted, ?_⟩
    rintro found ⟨⟩
    exact hloaded
  · exact ⟨hfits, rfl, rfl, rfl, fun _ h => nomatch h⟩

theorem ensures_reconcileJob {reader : OutputReader} {source : AnsibleJob} {out : Output}
    (hfits : s.Fits claimed job) (hloaded : s.loaded = some source.id) :
    (reconcileJob reader claimed.id source out).Ensures (Progress.observe claimed.id)
      (Progress.Allows claimed.id)
      (fun s' job' _ => s' = s ∧ job' = job) (Failed claimed) job s := by
  unfold reconcileJob
  split
  · exact quiet_event _ _ _ _ _ _ _ (fun _ => ⟨rfl, rfl⟩) fun _ => hfits
  refine Process.ensures_bind.mpr (quiet_event _ _ _ _ _ _ _ (fun _ => ?_) fun _ => hfits)
  refine Process.ensures_bind.mpr ((Process.ensures_call _).mpr ⟨trivial, fun now => ?_⟩)
  cases hmoved : source.transitionTo (sourceStatus (reader.reconciliationDecision out.stdout))
    now with
  | error => exact hfits
  | ok moved =>
    obtain ⟨-, rfl⟩ := AnsibleJob.transitionTo_ok.mp hmoved
    have hinactive : ∀ decision, (sourceStatus decision).isActive = false := by
      intro decision
      cases decision <;> rfl
    refine Process.ensures_bind.mpr (ensures_update_source hloaded (hinactive _) ?_ fun _ => hfits)
    exact quiet_events _ _ _ _ _ _ _ (fun _ => ⟨rfl, rfl⟩) fun _ => hfits

theorem ensures_afterPlaybook {reader : OutputReader} {source : Option AnsibleJob} {out : Output}
    (hfits : s.Fits claimed job) (hplanned : s.attempted ≠ .checking)
    (hloaded : ∀ found ∈ source, s.loaded = some found.id) :
    (afterPlaybook reader job source out).Ensures (Progress.observe claimed.id)
      (Progress.Allows claimed.id) (Planned claimed) (Failed claimed) job s := by
  refine Process.ensures_bind.mpr (quiet_events _ _ _ _ _ _ _ (fun _ => ?_) fun _ => hfits)
  refine Process.ensures_bind.mpr (quiet_events _ _ _ _ _ _ _ (fun _ => ?_) fun _ => hfits)
  have hend := quiet_playbookResult reader job out
  cases source with
  | none => exact hend _ _ _ _ _ (fun _ => ⟨hfits, hplanned⟩) fun _ => hfits
  | some source =>
    dsimp only
    rw [hfits.id]
    refine Process.ensures_bind.mpr ((ensures_reconcileJob hfits (hloaded source rfl)).mono ?_
      fun _ _ _ h => h)
    rintro s' job' - ⟨rfl, rfl⟩
    exact hend _ _ _ _ _ (fun _ => ⟨hfits, hplanned⟩) fun _ => hfits

theorem ensures_startPlaybook {reader : OutputReader} {target : Target} {modeArgs : List String}
    {source : Option AnsibleJob} (hfits : s.Fits claimed job) (hplanned : s.attempted ≠ .checking)
    (happlying : claimed.mode = .apply → s.attempted = .applying ∧ s.stored = .applying)
    (hloaded : ∀ found ∈ source, s.loaded = some found.id) :
    (startPlaybook reader target modeArgs source).Ensures (Progress.observe claimed.id)
      (Progress.Allows claimed.id) (Planned claimed) (Failed claimed) job s := by
  refine Process.ensures_bind.mpr (Process.ensures_get.mpr ?_)
  cases playbook job.operation target.kind with
  | none => exact hfits
  | some playbook =>
  refine Process.ensures_bind.mpr (quiet_perform rfl _ _ _ _ _ (fun ok => ?_) fun _ => hfits)
  refine Process.ensures_bind.mpr (quiet_require ok _ _ _ _ _ _ (fun _ => ?_) fun _ => hfits)
  refine Process.ensures_bind.mpr ((Process.ensures_call _).mpr
    ⟨fun h => happlying (hfits.mode ▸ h), fun outcome => ?_⟩)
  -- the job is applying from the moment on that a playbook that applies something was started
  have hfits' : (s.observe claimed.id (.ansiblePlaybook job.mode playbook modeArgs) outcome).Fits
      claimed job := by
    simp only [Progress.observe]
    split
    · rename_i hmode
      exact ⟨hfits.id, hfits.mode, hfits.status, hfits.active, hfits.applying,
        fun _ => happlying (hfits.mode ▸ hmode)⟩
    · exact hfits
  cases outcome with
  | timedOut => exact hfits'
  | notStarted => exact hfits'
  | output out =>
    refine ensures_afterPlaybook hfits' ?_ fun found hfound => ?_
    · simp only [Progress.observe]
      split <;> exact hplanned
    · simp only [Progress.observe]
      split <;> exact hloaded found hfound

theorem ensures_invoke {reader : OutputReader} {target : Target} (hfits : s.Fits claimed job)
    (hplanned : s.attempted = .planned) (hstarted : s.started = false) :
    (invoke reader target).Ensures (Progress.observe claimed.id) (Progress.Allows claimed.id)
      (Planned claimed) (Failed claimed) job s := by
  refine Process.ensures_bind.mpr (Process.ensures_get.mpr (Process.ensures_bind.mpr ?_))
  refine quiet_ofExcept _ _ _ _ _ _ (fun modeArgs => ?_) fun _ => hfits
  refine Process.ensures_bind.mpr
    ((ensures_reconciliationSource hfits).mono ?_ fun _ _ _ h => h)
  rintro s' job' source ⟨hfits', rfl, hattempted, hstarted', hloaded⟩
  rw [hplanned] at hattempted
  rw [hstarted] at hstarted'
  refine Process.ensures_bind.mpr
    (quiet_prepareInvocation _ _ _ _ _ (fun _ => ?_) fun _ => hfits')
  refine Process.ensures_bind.mpr ?_
  split
  · rename_i hmode
    refine (ensures_markJobApplying hfits' hattempted (hfits.mode ▸ hmode) hstarted').mono ?_
      fun _ _ _ h => h
    rintro s job - ⟨hfits, happlying, hstored, hsame⟩
    exact ensures_startPlaybook hfits (by simp [happlying]) (fun _ => ⟨happlying, hstored⟩)
      fun found hfound => hsame.trans (hloaded found hfound)
  · rename_i hmode
    refine ensures_startPlaybook hfits' (by simp [hattempted]) (fun h => ?_) hloaded
    exact absurd (hfits.mode.trans h) hmode

theorem ensures_runPlanned {reader : OutputReader} {target : Target} (hid : job.id = claimed.id)
    (hmode : job.mode = claimed.mode) (hstatus : job.status = .planned) :
    (runPlanned reader target).Ensures (Progress.observe claimed.id) (Progress.Allows claimed.id)
      (Planned claimed) (Failed claimed) job .initial := by
  have hfits : ∀ stored, (⟨.planned, stored, false, none⟩ : Progress).Fits claimed job :=
    fun _ => ⟨hid, hmode, hstatus, rfl, nofun, nofun⟩
  refine Process.ensures_bind.mpr (Process.ensures_get.mpr (Process.ensures_bind.mpr ?_))
  refine ensures_update hid (by rw [hstatus]; rfl) rfl ?_ (by rw [hstatus]; exact hfits _)
  rw [hstatus]
  refine Process.ensures_bind.mpr
    (quiet_event _ _ _ _ _ _ _ (fun _ => ?_) fun _ => hfits .planned)
  refine Process.ensures_bind.mpr
    (quiet_perform rfl _ _ _ _ _ (fun ok => ?_) fun _ => hfits .planned)
  refine Process.ensures_bind.mpr
    (quiet_require ok _ _ _ _ _ _ (fun _ => ?_) fun _ => hfits .planned)
  refine Process.ensures_bind.mpr (Process.ensures_attempt.mpr ?_)
  -- the directory is removed, and the result of `invoke` is returned
  refine (ensures_invoke (hfits .planned) rfl rfl).mono ?_ ?_
  · exact fun s job changed h => Process.ensures_bind.mpr
      (quiet_perform rfl _ _ _ _ _ (fun _ => h) fun _ => h.1)
  · exact fun s job code h => Process.ensures_bind.mpr
      (quiet_perform rfl _ _ _ _ _ (fun _ => h) fun _ => h)

end Functions

/-- **What a run does with its job.**  The job is written only in an order of its lifecycle and
before its playbook is started, a playbook that applies something is started when `applying` was
written, and the job that is returned is as far as was written, or tried to. -/
theorem ensures_run (reader : OutputReader) {claimed : AnsibleJob}
    (hchecking : claimed.status = .checking) :
    (run reader).Ensures (Progress.observe claimed.id) (Progress.Allows claimed.id)
      (Planned claimed) (Failed claimed) claimed .initial := by
  have hfits : Progress.initial.Fits claimed claimed :=
    ⟨rfl, rfl, hchecking, rfl, nofun, nofun⟩
  refine Process.ensures_bind.mpr (Process.ensures_get.mpr ?_)
  cases claimed.target with
  | target id =>
    refine Process.ensures_bind.mpr ((Process.ensures_call _).mpr ⟨trivial, fun found => ?_⟩)
    match found with
    | none => exact hfits
    | some none => exact hfits
    | some (some target) =>
      refine Process.ensures_bind.mpr (quiet_ofExcept _ _ _ _ _ _ (fun _ => ?_) fun _ => hfits)
      refine Process.ensures_bind.mpr (ensures_transition (by rw [hchecking]; rfl) fun now => ?_)
      exact ensures_runPlanned rfl rfl rfl
  | _ => exact hfits

end Lxcup.Worker
