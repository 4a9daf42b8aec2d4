import Mathlib.Data.List.DropRight
import Lxcup.Reports.Regular
import Lxcup.Server.Producers

/-!
# Update plans of Windows hosts

The plan of an update is made of what a scan of the host lists.  The agent runs the scan and
keeps of its output what `safe_detail` leaves, one line of 240 characters; the server reads the
listing from there, writes the packages that were requested and can be updated into the log, and
finishes the job.  The listing of a host with a few packages is longer than that, and what is
left of it is no JSON document any more: the job fails, whatever could have been updated.

## Main definitions

* `AgentServer.reportNow` — a report that nothing comes in between.
* `ClaimedPlan`, `PlanScan` — a plan that was claimed, and the scan for it.
* `PlanRecorded` — the job succeeds, with the plan in its log.

## Main results

* `reported_of_judge` — such a report writes its verdict.
* `planRecorded_iff` — the plan is recorded exactly when the listing ends within 240 characters.
* `long_listing_fails` — a listing of two packages.
-/

namespace Lxcup.Reports

open Lxcup.Lib Lxcup.Core Lxcup.Ansible Lxcup.Agent Lxcup.Persistence Lxcup.Server
open Lxcup.Submission (JobDatabase)

/-! ### A report that nothing comes in between -/

namespace AgentServer

/-- The accesses of a call, one after the other. -/
def complete (n : Nat) (input : Input) : Nat → AgentServer → AgentServer
  | 0, s => s
  | fuel + 1, s =>
    match s.advance n input with
    | none => s
    | some s' => complete n input fuel s'

/-- `report_windows_agent_workflow` on a store that nobody else works on.  With a database that
is the counting, the row, at most four events, and the answer. -/
def reportNow (read : JsonReader) (s : AgentServer) (n : Nat) (id : AnsibleJobId)
    (token : TokenCheck) (response : AgentCommandResponse) (now : Timestamp) :
    Option AgentServer :=
  (s.report read n id token response ⟨now, false⟩).map (complete n ⟨now, false⟩ 7)

theorem advance_of_next {s s' : AgentServer} {n : Nat} {call : Call} {input : Input}
    {phase : Phase} (hcall : s.calls.get n = some call)
    (hnext : s.next call input = some (s', phase)) :
    s.advance n input = some (s'.withCall n { call with phase := phase }) := by
  rw [advance, hcall, Option.bind_some, hnext, Option.map_some]

theorem complete_of_advance {s s' : AgentServer} {n : Nat} {input : Input} {fuel : Nat}
    (h : s.advance n input = some s') :
    complete n input (fuel + 1) s = complete n input fuel s' := by
  rw [complete, h]

theorem calls_withCall (s : AgentServer) (n : Nat) (call : Call) :
    (s.withCall n call).calls.get n = some call := by
  simp only [withCall, Table.get_put_self]

/-- Nothing is left to do for a call that is answered. -/
theorem complete_answered {s : AgentServer} {n : Nat} {input : Input} {fuel : Nat}
    {writer : Writer} {answer : Except ApiError Unit}
    (hcall : s.calls.get n = some ⟨writer, .answered answer⟩) : complete n input fuel s = s := by
  cases fuel with
  | zero => rfl
  | succ fuel =>
    have hnext : s.next ⟨writer, .answered answer⟩ input = none := by
      simp only [next]
      cases s.store <;> rfl
    rw [complete, advance, hcall, Option.bind_some, hnext]
    rfl

end AgentServer

open AgentServer

/-- The texts of the output of workers. -/
def logsOfKinds (kinds : List JobEventKind) : List (String × String) :=
  kinds.filterMap fun kind =>
    match kind with
    | .workerLog source message => some (source, message)
    | _ => none

theorem logsOf_eq (events : List JobEvent) : logsOf events = logsOfKinds (events.map (·.event)) := by
  rw [logsOfKinds, List.filterMap_map]
  rfl

/-- The output that comes with a verdict is its message. -/
theorem logsOfKinds_events (verdict : Verdict) :
    logsOfKinds verdict.events = [("windows_agent", verdict.message)] := by
  have hpath : logsOfKinds (verdict.path.map .statusChanged) = [] := by
    rw [logsOfKinds, List.filterMap_map, List.filterMap_eq_nil_iff]
    intro status _
    rfl
  simp only [logsOfKinds] at hpath ⊢
  rw [Verdict.events, List.filterMap_append, List.filterMap_append, List.filterMap_append, hpath]
  split <;> split <;> rfl

/-- Statuses of a result, a failure, a reconciliation and the message. -/
theorem length_events {job : AnsibleJob} {status : AnsibleJobStatus} {message : String}
    {now : Timestamp} {verdict : Verdict} (h : settle job status message now = .ok verdict) :
    verdict.events.length ≤ 4 := by
  obtain ⟨-, rfl⟩ := settle_ok h
  cases status <;> cases hmode : job.mode <;> simp [Verdict.events, resultPath]

/-- An event with the next number is inserted. -/
theorem appendEvent_next {db : JobDatabase} {event : JobEvent}
    (hrow : (db.jobs.get event.jobId).isSome = true) (hnumbered : Numbered (rowEvents db event.jobId))
    (hnext : event.sequence = (rowEvents db event.jobId).length + 1) :
    ∃ db', db.appendEvent event = .ok db' ∧ db'.jobs = db.jobs ∧
      rowEvents db' event.jobId = rowEvents db event.jobId ++ [event] := by
  have hfree : (rowEvents db event.jobId).any (fun other => other.sequence = event.sequence)
      = false := by
    rw [List.any_eq_false]
    intro other hother
    have hle := hnumbered.free hother
    simp only [decide_eq_true_eq]
    omega
  have hfound : (db.jobs.get event.jobId).isNone = false := by
    rw [Option.isNone_eq_false_iff]
    exact hrow
  refine ⟨{ db with events := db.events.put event.jobId (rowEvents db event.jobId ++ [event]) },
    ?_, rfl, ?_⟩
  · simp only [JobDatabase.appendEvent]
    rw [show (db.events.get event.jobId).getD [] = rowEvents db event.jobId from rfl, hfree, hfound]
    rfl
  · simp [rowEvents]

/-- **The events of a report** are appended one by one, up to the answer. -/
theorem complete_appending {s : AgentServer} {db : JobDatabase} {n : Nat} {id : AnsibleJobId}
    {events : List JobEventKind} {now : Timestamp} {fuel : Nat} (hstore : s.store = .database db)
    (hcall : s.calls.get n
      = some ⟨.report, .appending id events (some ((rowEvents db id).length + 1))⟩)
    (hrow : (db.jobs.get id).isSome = true) (hnumbered : Numbered (rowEvents db id))
    (hfuel : events.length < fuel) :
    ∃ db', (complete n ⟨now, false⟩ fuel s).store = .database db' ∧ db'.jobs = db.jobs ∧
      (rowEvents db' id).map (·.event) = (rowEvents db id).map (·.event) ++ events ∧
      (complete n ⟨now, false⟩ fuel s).calls.get n = some ⟨.report, .answered (.ok ())⟩ := by
  obtain ⟨fuel, rfl⟩ : ∃ k, fuel = k + 1 := ⟨fuel - 1, by omega⟩
  induction events generalizing s db fuel with
  | nil =>
    have hnext : s.next ⟨.report, .appending id [] (some ((rowEvents db id).length + 1))⟩
        ⟨now, false⟩ = some (s, .answered (.ok ())) := by
      simp only [next, hstore]
    rw [complete_of_advance (advance_of_next hcall hnext),
      complete_answered (calls_withCall s n _)]
    exact ⟨db, hstore, rfl, (List.append_nil _).symm, calls_withCall s n _⟩
  | cons event events ih =>
    obtain ⟨fuel, rfl⟩ : ∃ k, fuel = k + 1 := by
      rw [List.length_cons] at hfuel
      exact ⟨fuel - 1, by omega⟩
    obtain ⟨db', hinsert, hjobs, hevents⟩ :=
      @appendEvent_next db ⟨(rowEvents db id).length + 1, id, event, now⟩ hrow hnumbered rfl
    have hnext : s.next ⟨.report, .appending id (event :: events)
        (some ((rowEvents db id).length + 1))⟩ ⟨now, false⟩
        = some (s.withStore (.database db'), .appending id events
          (some ((rowEvents db id).length + 1 + 1))) := by
      simp only [next, hstore, hinsert, Bool.false_eq_true, if_false]
      rfl
    have hlength : (rowEvents db' id).length = (rowEvents db id).length + 1 := by
      rw [hevents, List.length_append, List.length_singleton]
    rw [complete_of_advance (advance_of_next hcall hnext), ← hlength]
    have hrow' : (db'.jobs.get id).isSome = true := by
      rw [hjobs]
      exact hrow
    have hnumbered' : Numbered (rowEvents db' id) := by
      rw [hevents]
      exact hnumbered.append rfl
    have hfuel' : events.length < fuel + 1 := by
      rw [List.length_cons] at hfuel
      omega
    obtain ⟨db'', hstore'', hjobs'', hevents'', hanswered⟩ :=
      @ih ((s.withStore (.database db')).withCall n _) db' rfl (calls_withCall _ n _) hrow'
        hnumbered' fuel hfuel'
    refine ⟨db'', hstore'', hjobs''.trans hjobs, ?_, hanswered⟩
    rw [hevents'', hevents, List.map_append, List.append_assoc]
    rfl

/-- What is left by a report that has been answered. -/
structure Reported (s s' : AgentServer) (n : Nat) (verdict : Verdict) : Prop where
  answered : s'.calls.get n = some ⟨.report, .answered (.ok ())⟩
  status : (s'.store.find verdict.job.id).map (·.status) = some verdict.job.status
  logs : logsOf (s'.store.eventsOf verdict.job.id)
    = logsOf (s.store.eventsOf verdict.job.id) ++ [("windows_agent", verdict.message)]

/-- A settled report without a database. -/
private theorem reported_of_memory {s : AgentServer} {c : AnsibleJobCoordinator} {n : Nat}
    {job : AnsibleJob} {status : AnsibleJobStatus} {message : String} {now : Timestamp}
    {verdict : Verdict} (hstore : s.store = .memory c)
    (hcall : s.calls.get n = some ⟨.report, .settled verdict⟩)
    (hjob : c.jobs.get job.id = some job) (hopen : job.status.isFinal = false)
    (hsettle : settle job status message now = .ok verdict) (hstatus : status.isActive = false) :
    Reported s (complete n ⟨now, false⟩ 7 s) n verdict := by
  obtain ⟨c', hrun, hfind, hlogs⟩ :=
    @runAll_resultOps c job status message now now verdict hjob hopen hsettle hstatus
  obtain ⟨-, hverdict⟩ := settle_ok hsettle
  have hid : verdict.job.id = job.id := by rw [hverdict]
  have hmessage : verdict.message = message := by rw [hverdict]
  have hbecomes : verdict.job.status = status := by rw [hverdict]
  have hnext : s.next ⟨.report, .settled verdict⟩ ⟨now, false⟩
      = some ((s.withStore (.memory c')).note job.id (.written .report job.status),
          .answered (.ok ())) := by
    simp only [next, hstore, writeMemory, hrun, hid, hjob, hopen, Bool.false_eq_true, if_false]
  rw [complete_of_advance (advance_of_next hcall hnext), complete_answered (calls_withCall _ n _)]
  refine ⟨calls_withCall _ n _, ?_, ?_⟩
  · change (c'.jobs.get verdict.job.id).map (·.status) = some verdict.job.status
    rw [hid, hfind, if_pos rfl, hbecomes]
    rfl
  · rw [hid, hmessage, hstore]
    exact hlogs

/-- A report that has counted the events of its job. -/
private theorem reported_of_counted {s : AgentServer} {db : JobDatabase} {n : Nat}
    {job : AnsibleJob} {verdict : Verdict} {now : Timestamp} (hstore : s.store = .database db)
    (hcall : s.calls.get n = some ⟨.report, .counted verdict.job verdict.events
      (some ((rowEvents db verdict.job.id).length + 1))⟩)
    (hjob : db.jobs.get verdict.job.id = some job)
    (hnumbered : Numbered (rowEvents db verdict.job.id))
    (hstatus : verdict.job.status.isActive = false) (hfew : verdict.events.length ≤ 4) :
    Reported s (complete n ⟨now, false⟩ 6 s) n verdict := by
  have hupdate : db.jobs.update verdict.job = .ok (db.jobs.put verdict.job) := by
    have hfree : db.jobs.activeConflict verdict.job = false := by
      rw [JobTable.activeConflict_eq_false, hstatus]
      intro hactive
      cases hactive
    simp only [JobTable.update, hjob, hfree, Bool.false_eq_true, if_false]
  have hnext : s.next ⟨.report, .counted verdict.job verdict.events
      (some ((rowEvents db verdict.job.id).length + 1))⟩ ⟨now, false⟩
      = some ((s.withStore (.database { db with jobs := db.jobs.put verdict.job })).note
            verdict.job.id (.written .report job.status),
          .appending verdict.job.id verdict.events
            (some ((rowEvents db verdict.job.id).length + 1))) := by
    simp only [next, hstore, Bool.false_eq_true, if_false, writeRow, hupdate, Except.map, hjob]
  rw [complete_of_advance (advance_of_next hcall hnext)]
  generalize hwritten : AgentServer.withCall _ n _ = written
  have hstore' : written.store = .database { db with jobs := db.jobs.put verdict.job } := by
    rw [← hwritten]
    rfl
  have hcall' : written.calls.get n = some ⟨.report, .appending verdict.job.id verdict.events
      (some ((rowEvents db verdict.job.id).length + 1))⟩ := by
    rw [← hwritten]
    exact calls_withCall _ n _
  have hrow : ((db.jobs.put verdict.job).get verdict.job.id).isSome = true := by
    rw [JobTable.get_put, if_pos rfl]
    rfl
  obtain ⟨db', hdb', hjobs, hevents, hanswered⟩ :=
    @complete_appending written _ n verdict.job.id verdict.events now 5 hstore' hcall' hrow
      hnumbered (by omega)
  refine ⟨hanswered, ?_, ?_⟩
  · rw [hdb']
    change (db'.jobs.get verdict.job.id).map (·.status) = some verdict.job.status
    rw [hjobs, JobTable.get_put, if_pos rfl]
    rfl
  · rw [hdb', hstore]
    change logsOf (rowEvents db' verdict.job.id) = logsOf (rowEvents db verdict.job.id) ++ _
    rw [logsOf_eq, hevents, logsOf_eq, logsOfKinds, List.filterMap_append, ← logsOfKinds_events]
    rfl

/-- A settled report with a database. -/
private theorem reported_of_database {s : AgentServer} {db : JobDatabase} {n : Nat}
    {job : AnsibleJob} {verdict : Verdict} {now : Timestamp} (hstore : s.store = .database db)
    (hcall : s.calls.get n = some ⟨.report, .settled verdict⟩)
    (hjob : db.jobs.get verdict.job.id = some job)
    (hnumbered : Numbered (rowEvents db verdict.job.id))
    (hstatus : verdict.job.status.isActive = false) (hfew : verdict.events.length ≤ 4) :
    Reported s (complete n ⟨now, false⟩ 7 s) n verdict := by
  have hnext : s.next ⟨.report, .settled verdict⟩ ⟨now, false⟩
      = some (s, .counted verdict.job verdict.events
          (some ((rowEvents db verdict.job.id).length + 1))) := by
    simp only [next, hstore, Bool.false_eq_true, if_false]
    rfl
  rw [complete_of_advance (advance_of_next hcall hnext)]
  generalize hcounted : s.withCall n _ = counted
  have hstore' : counted.store = .database db := by
    rw [← hcounted]
    exact hstore
  have hcall' : counted.calls.get n = some ⟨.report, .counted verdict.job verdict.events
      (some ((rowEvents db verdict.job.id).length + 1))⟩ := by
    rw [← hcounted]
    exact calls_withCall s n _
  have hreported := @reported_of_counted counted db n job verdict now hstore' hcall' hjob hnumbered
    hstatus hfew
  refine ⟨hreported.answered, hreported.status, hreported.logs.trans ?_⟩
  rw [hstore', hstore]

/-- **A report that is taken writes its verdict**, where nothing comes in between. -/
theorem reported_of_judge {read : JsonReader} {s : AgentServer} (hregular : Regular s) {n : Nat}
    {id : AnsibleJobId} {job : AnsibleJob} {token : TokenCheck} {response : AgentCommandResponse}
    {now : Timestamp} {verdict : Verdict} (hidle : s.calls.get n = none)
    (hjob : s.store.find id = some job)
    (hjudge : judge read s.targets job token response now = .ok (some verdict)) :
    verdict.job.id = id ∧
      ∃ s', s.reportNow read n id token response now = some s' ∧ Reported s s' n verdict := by
  obtain ⟨hopen, hsettle⟩ := judge_ok hjudge
  have hfinal : job.status.isFinal = false := by
    simp only [reportIgnored, Bool.or_eq_false_iff] at hopen
    exact hopen.1
  obtain ⟨-, hverdict⟩ := settle_ok hsettle
  have hjobId : job.id = id := JobStore.find_id hregular.kept hjob
  have hid : verdict.job.id = id := by
    rw [hverdict]
    exact hjobId
  have hbecomes : verdict.job.status.isActive = false := by
    rw [hverdict]
    exact isActive_reportStatus _ _
  refine ⟨hid, complete n ⟨now, false⟩ 7 (s.withCall n ⟨.report, .settled verdict⟩), ?_, ?_⟩
  · have hphase : s.reportPhase read id token response ⟨now, false⟩ = .settled verdict := by
      unfold reportPhase
      cases hstore : s.store with
      | database db =>
        rw [hstore] at hjob
        simp only [hjob, hjudge]
      | memory c =>
        rw [hstore] at hjob
        simp only [hjob, hjudge]
    rw [reportNow, report, hidle, hphase]
    rfl
  · have hcall := calls_withCall s n ⟨.report, .settled verdict⟩
    generalize hsettled : s.withCall n ⟨.report, .settled verdict⟩ = settled at hcall ⊢
    have hsame : settled.store = s.store := by
      rw [← hsettled]
      rfl
    have hreported : Reported settled (complete n ⟨now, false⟩ 7 settled) n verdict := by
      cases hstore : s.store with
      | memory c =>
        rw [hstore] at hjob
        have hfound : c.jobs.get job.id = some job := by
          rw [hjobId]
          exact hjob
        exact reported_of_memory (hsame.trans hstore) hcall hfound hfinal hsettle
          (isActive_reportStatus _ _)
      | database db =>
        rw [hstore] at hjob
        exact reported_of_database (hsame.trans hstore) hcall (hid ▸ hjob)
          (hregular.numbered db hstore verdict.job.id) hbecomes (length_events hsettle)
    refine ⟨hreported.answered, hreported.status, hreported.logs.trans ?_⟩
    rw [hsame]

/-! ### The scan on the host -/

theorem utf8ByteSize_ofList_le (cs : List Char) :
    (String.ofList cs).utf8ByteSize ≤ 4 * cs.length := by
  induction cs with
  | nil => simp
  | cons c cs ih =>
    have hsize := c.utf8Size_le_four
    rw [String.ofList_cons, String.utf8ByteSize_append, String.utf8ByteSize_singleton,
      List.length_cons]
    omega

/-- One line of 240 characters has at most 960 bytes. -/
theorem utf8ByteSize_safeDetail_le (value : String) : (safeDetail value).utf8ByteSize ≤ 960 := by
  have hsize := utf8ByteSize_ofList_le ((value.toList.take 240).map lineBreakToSpace)
  have hlength : ((value.toList.take 240).map lineBreakToSpace).length ≤ 240 := by
    rw [List.length_map]
    exact List.length_take_le 240 value.toList
  rw [safeDetail_eq]
  omega

/-- The agent keeps to the limits of the server. -/
theorem resultFits_commandResponse (round : Round) (output : Int × String × String) :
    resultFits (commandResponse round output) = true := by
  have hstdout : (safeDetail output.2.1).utf8ByteSize ≤ 128 * 1024 :=
    (utf8ByteSize_safeDetail_le output.2.1).trans (by decide)
  have hstderr : (safeDetail output.2.2).utf8ByteSize ≤ 16 * 1024 :=
    (utf8ByteSize_safeDetail_le output.2.2).trans (by decide)
  rw [resultFits, Bool.and_eq_true]
  exact ⟨decide_eq_true hstdout, decide_eq_true hstderr⟩

/-- The command for an update plan is a scan, for exact package ids. -/
theorem workflowCommand_plan {job : AnsibleJob} {requested : List String}
    {command : AgentWorkflowCommand} (hoperation : job.operation = .updatePackages)
    (hmode : job.mode = .plan) (hparameters : job.parameters = .updatePackages requested)
    (h : workflowCommand job = .ok command) :
    command = ⟨job.id.uuid, .scan, requested, none⟩ ∧ requested ≠ [] ∧
      ∀ package ∈ requested, safeWingetId package = true := by
  simp only [workflowCommand, hoperation, hmode, hparameters, bind, Except.bind, pure, Except.pure,
    throw, throwThe, MonadExceptOf.throw] at h
  split at h
  · cases h
  · rename_i hexact
    obtain rfl := Except.ok.inj h
    simp only [not_or, Bool.not_eq_true, List.any_eq_false, Bool.not_eq_true',
      Bool.not_eq_false] at hexact
    exact ⟨rfl, hexact.1, hexact.2⟩

/-- The response to a scan for a plan that was run for this round. -/
theorem executed_scan {command : AgentWorkflowCommand} {round : Round} {version : String}
    {results : Results} {stdout stderr : String} (inventory : Option PackageInventoryError)
    (haction : command.action = .scan) (hpackages : command.packages ≠ [])
    (hversion : command.agentVersion = none)
    (hexact : ∀ package ∈ command.packages, safeWingetId package = true)
    (hnew : results.get (jobKey command.jobId) = none)
    (hround : round.outcome = .exited (some 0) stdout stderr) :
    collectInventory command inventory
        (executeWorkflowCommand .windows version results command round).1
      = commandResponse round (0, stdout, stderr) := by
  have hsafe := any_not_safePackage hexact
  have houtput : workflowOutput .windows version command round.outcome = (0, stdout, stderr) := by
    simp only [workflowOutput, haction, hversion, hpackages, hsafe, hround, and_false,
      Bool.false_eq_true, if_false, runLocalCommand, runWindowsWingetCommand, HostOutcome.output,
      Option.getD_some]
  simp only [executeWorkflowCommand, hnew, houtput, collectInventory,
    shouldCollectPackageInventory, haction, hpackages, decide_false, Bool.and_false,
    Bool.or_false]
  rfl

/-! ### The plan -/

/-- A claimed job takes a result that fits. -/
theorem judge_claimed {read : JsonReader} {targets : Table TargetId Target} {job : AnsibleJob}
    {targetId : TargetId} {response : AgentCommandResponse} (now : Timestamp)
    (htarget : job.target = .target targetId) (hagent : isWindowsAgentTarget targets targetId = true)
    (hclaimed : job.status = claimedStatus job.mode) (hfits : resultFits response = true) :
    ∃ verdict, judge read targets job .right response now = .ok (some verdict) ∧
      verdict.job.status
        = reportStatus job.mode (response.success && (resultSummary read job response).2) ∧
      verdict.message = (resultSummary read job response).1 := by
  have hauthorized : authorizeWindowsAgent targets targetId .right = .ok () := by
    have hfound : (targets.get targetId).isNone = false := by
      unfold isWindowsAgentTarget at hagent
      split at hagent
      · rename_i target hget
        rw [hget]
        rfl
      · cases hagent
    simp only [authorizeWindowsAgent, hfound, hagent]
    decide
  have hopen : reportIgnored job.status = false := by
    rw [hclaimed, claimedStatus]
    split <;> rfl
  have hsettle := transitionsTo_result
    (response.success && (resultSummary read job response).2) now hclaimed
  refine ⟨⟨{ job with
      status := reportStatus job.mode (response.success && (resultSummary read job response).2)
      updatedAt := now },
    resultPath job.mode
      (reportStatus job.mode (response.success && (resultSummary read job response).2)),
    (resultSummary read job response).1⟩, ?_, rfl, rfl⟩
  simp only [judge, htarget, hauthorized, hopen, hfits, Bool.not_true, Bool.false_eq_true, if_false,
    settle, hsettle, Except.map]

/-- A plan of an update that the agent of its target has claimed, with its command. -/
structure ClaimedPlan (s : AgentServer) (job : AnsibleJob) (requested : List String)
    (command : AgentWorkflowCommand) : Prop where
  found : s.store.find job.id = some job
  operation : job.operation = .updatePackages
  mode : job.mode = .plan
  parameters : job.parameters = .updatePackages requested
  status : job.status = .checking
  agent : ∃ targetId, job.target = .target targetId ∧
    isWindowsAgentTarget s.targets targetId = true
  command : workflowCommand job = .ok command

/-- The scan has succeeded, and lists a requested package with a candidate. -/
structure PlanScan (read : JsonReader) (requested : List String) (round : Round) (stdout : String)
    (packages : List AgentInstalledPackage) : Prop where
  exited : ∃ stderr, round.outcome = .exited (some 0) stdout stderr
  listed : parseWindowsPackagesJson read stdout = .ok packages
  available : ∃ package ∈ packages, isRequested requested package = true ∧
    package.candidateVersion.isSome = true

/-- The result for the command of a plan, as the agent reports it. -/
def planResponse (version : String) (results : Results) (command : AgentWorkflowCommand)
    (round : Round) (inventory : Option PackageInventoryError) : AgentCommandResponse :=
  collectInventory command inventory
    (executeWorkflowCommand .windows version results command round).1

/-- The report is answered, the job has succeeded, and its log has the plan with the requested
packages that have a candidate, and no other. -/
def PlanRecorded (read : JsonReader) (s : AgentServer) (n : Nat) (id : AnsibleJobId)
    (requested : List String) (packages : List AgentInstalledPackage)
    (response : AgentCommandResponse) (now : Timestamp) : Prop :=
  ∃ s' entries, s.reportNow read n id .right response now = some s' ∧
    s'.calls.get n = some ⟨.report, .answered (.ok ())⟩ ∧
    (s'.store.find id).map (·.status) = some .succeeded ∧
    logsOf (s'.store.eventsOf id)
      = logsOf (s.store.eventsOf id) ++ [("windows_agent", planMessage entries)] ∧
    ∀ entry : PlanEntry, entry ∈ entries ↔ ∃ package ∈ packages,
      isRequested requested package = true ∧ package.candidateVersion = some entry.candidate ∧
        package.name = entry.name ∧ package.installedVersion = entry.installedVersion

/-- What the server makes of the listing: the plan, or nothing when the listing was cut. -/
private theorem resultSummary_plan {read : JsonReader} (hread : read.Lawful) {job : AnsibleJob}
    {requested : List String} {round : Round} {stdout stderr : String}
    {packages : List AgentInstalledPackage} (hoperation : job.operation = .updatePackages)
    (hmode : job.mode = .plan) (hparameters : job.parameters = .updatePackages requested)
    (hscan : PlanScan read requested round stdout packages) :
    resultSummary read job (commandResponse round (0, stdout, stderr))
      = if fitsDetail stdout then (planMessage (planEntries requested packages), true)
        else ("winget update scan returned an invalid or unsupported listing.", false) := by
  have hlisted := hscan.listed
  -- the server reads what the cut has left
  have hparsed : parseWindowsPackagesJson read (safeDetail stdout)
      = if fitsDetail stdout then .ok packages else .error .invalidOutput := by
    unfold parseWindowsPackagesJson at hlisted ⊢
    cases hentries : read stdout with
    | none =>
      rw [hentries] at hlisted
      cases hlisted
    | some entries =>
      rw [hentries] at hlisted
      rw [hread.read_safeDetail hentries]
      by_cases hfits : fitsDetail stdout = true
      · rw [if_pos hfits, if_pos hfits]
        exact hlisted
      · rw [if_neg hfits, if_neg hfits]
  have hplan : planEntries requested packages ≠ [] := by
    obtain ⟨package, hmem, hrequested, hsome⟩ := hscan.available
    obtain ⟨candidate, hcandidate⟩ := Option.isSome_iff_exists.mp hsome
    have hentry : (⟨package.name, package.installedVersion, candidate⟩ : PlanEntry)
        ∈ planEntries requested packages :=
      mem_planEntries.mpr ⟨package, hmem, hrequested, hcandidate, rfl, rfl⟩
    exact List.ne_nil_of_mem hentry
  have hsuccess : (commandResponse round (0, stdout, stderr)).success = true := rfl
  have hstdout : (commandResponse round (0, stdout, stderr)).stdout = safeDetail stdout := rfl
  simp only [resultSummary, hsuccess, hstdout, hparsed, hoperation, hmode, hparameters,
    Bool.not_true, Bool.false_eq_true, if_false, and_self, if_true]
  by_cases hfits : fitsDetail stdout = true
  · rw [if_pos hfits, if_pos hfits]
    dsimp only
    split
    · rename_i hnone
      exact absurd hnone hplan
    · rfl
  · rw [if_neg hfits, if_neg hfits]

/-- What the report of a scan leaves: with a listing that was cut the job fails. -/
private theorem reported_plan {read : JsonReader} (hread : read.Lawful) {s : AgentServer}
    (h : (reportMachine read).Reach Machine.Any s) {job : AnsibleJob} {requested : List String}
    {command : AgentWorkflowCommand} (hplan : ClaimedPlan s job requested command) {round : Round}
    {stdout : String} {packages : List AgentInstalledPackage}
    (hscan : PlanScan read requested round stdout packages) {version : String} {results : Results}
    (hnew : results.get (jobKey command.jobId) = none) (inventory : Option PackageInventoryError)
    {n : Nat} (hidle : s.calls.get n = none) (now : Timestamp) :
    ∃ s' verdict, s.reportNow read n job.id .right
        (planResponse version results command round inventory) now = some s' ∧
      verdict.job.id = job.id ∧ Reported s s' n verdict ∧
      (fitsDetail stdout = true → verdict.job.status = .succeeded ∧
        verdict.message = planMessage (planEntries requested packages)) ∧
      (fitsDetail stdout ≠ true → verdict.job.status = .failed) := by
  obtain ⟨hcommand, hsome, hexact⟩ :=
    workflowCommand_plan hplan.operation hplan.mode hplan.parameters hplan.command
  obtain ⟨stderr, hround⟩ := hscan.exited
  have hresponse : planResponse version results command round inventory
      = commandResponse round (0, stdout, stderr) := by
    refine executed_scan inventory ?_ ?_ ?_ ?_ hnew hround
    · rw [hcommand]
    · rw [hcommand]
      exact hsome
    · rw [hcommand]
    · rw [hcommand]
      exact hexact
  rw [hresponse]
  have hclaimed : job.status = claimedStatus job.mode := by
    rw [hplan.status, hplan.mode]
    rfl
  obtain ⟨targetId, htarget, hagent⟩ := hplan.agent
  obtain ⟨verdict, hjudge, hstatus, hmessage⟩ := @judge_claimed read s.targets job targetId
    (commandResponse round (0, stdout, stderr)) now htarget hagent hclaimed
    (resultFits_commandResponse _ _)
  obtain ⟨hid, s', hreport, hreported⟩ :=
    reported_of_judge (regular_of_reach h) hidle hplan.found hjudge
  have hsummary := @resultSummary_plan read hread job requested round stdout stderr packages
    hplan.operation hplan.mode hplan.parameters hscan
  rw [hsummary, hplan.mode] at hstatus
  rw [hsummary] at hmessage
  refine ⟨s', verdict, hreport, hid, hreported, fun hfits => ?_, fun hcut => ?_⟩
  · rw [if_pos hfits] at hstatus hmessage
    exact ⟨hstatus, hmessage⟩
  · rw [if_neg hcut] at hstatus
    exact hstatus

variable {read : JsonReader} {s : AgentServer} {job : AnsibleJob} {requested : List String}
  {command : AgentWorkflowCommand} {round : Round} {stdout : String}
  {packages : List AgentInstalledPackage} {version : String} {results : Results} {n : Nat}

/-- A plan is recorded of a listing that was not cut only. -/
theorem fits_of_planRecorded (hread : read.Lawful) (h : (reportMachine read).Reach Machine.Any s)
    (hplan : ClaimedPlan s job requested command)
    (hscan : PlanScan read requested round stdout packages)
    (hnew : results.get (jobKey command.jobId) = none) (inventory : Option PackageInventoryError)
    (hidle : s.calls.get n = none) (now : Timestamp)
    (hrecorded : PlanRecorded read s n job.id requested packages
      (planResponse version results command round inventory) now) : fitsDetail stdout = true := by
  obtain ⟨s', verdict, hreport, hid, hreported, -, hcut⟩ :=
    @reported_plan read hread s h job requested command hplan round stdout packages hscan version
      results hnew inventory n hidle now
  obtain ⟨other, entries, hother, -, hsucceeded, -, -⟩ := hrecorded
  obtain rfl := Option.some.inj (hreport.symm.trans hother)
  by_contra hfits
  have hstatus := hreported.status
  rw [hid, hsucceeded, hcut hfits] at hstatus
  cases hstatus

/-- The plan of a listing that was not cut is recorded. -/
theorem planRecorded_of_fits (hread : read.Lawful) (h : (reportMachine read).Reach Machine.Any s)
    (hplan : ClaimedPlan s job requested command)
    (hscan : PlanScan read requested round stdout packages)
    (hnew : results.get (jobKey command.jobId) = none) (inventory : Option PackageInventoryError)
    (hidle : s.calls.get n = none) (now : Timestamp) (hfits : fitsDetail stdout = true) :
    PlanRecorded read s n job.id requested packages
      (planResponse version results command round inventory) now := by
  obtain ⟨s', verdict, hreport, hid, hreported, hfit, -⟩ :=
    @reported_plan read hread s h job requested command hplan round stdout packages hscan version
      results hnew inventory n hidle now
  obtain ⟨hstatus, hmessage⟩ := hfit hfits
  refine ⟨s', planEntries requested packages, hreport, hreported.answered, ?_, ?_,
    fun _ => mem_planEntries⟩
  · rw [← hid, hreported.status, hstatus]
  · rw [← hid, hreported.logs, hmessage]

/-- **The plan is recorded exactly when the listing ends within 240 characters.** -/
theorem planRecorded_iff (hread : read.Lawful) (h : (reportMachine read).Reach Machine.Any s)
    (hplan : ClaimedPlan s job requested command)
    (hscan : PlanScan read requested round stdout packages)
    (hnew : results.get (jobKey command.jobId) = none) (inventory : Option PackageInventoryError)
    (hidle : s.calls.get n = none) (now : Timestamp) :
    PlanRecorded read s n job.id requested packages
        (planResponse version results command round inventory) now ↔ fitsDetail stdout = true :=
  ⟨fits_of_planRecorded hread h hplan hscan hnew inventory hidle now,
    planRecorded_of_fits hread h hplan hscan hnew inventory hidle now⟩

/-! ### Two listings -/

/-- A reader that knows one document. -/
def readOne (document : List Char) (entries : List (Option WinGetPackage)) : JsonReader :=
  fun text =>
    if (text.toList.map lineBreakToSpace).rdropWhile isJsonWhitespace = document then some entries
    else none

/-- White space at the end of a text does not count, and everything before it does. -/
private theorem rdropWhile_append (cs rest : List Char) :
    (cs ++ rest).rdropWhile isJsonWhitespace
      = if rest.all isJsonWhitespace then cs.rdropWhile isJsonWhitespace
        else cs ++ rest.rdropWhile isJsonWhitespace := by
  have hempty : (rest.reverse.dropWhile isJsonWhitespace).isEmpty = rest.all isJsonWhitespace := by
    rw [Bool.eq_iff_iff, List.isEmpty_iff, List.dropWhile_eq_nil_iff]
    simp
  rw [List.rdropWhile, List.reverse_append, List.dropWhile_append, hempty]
  split
  · rfl
  · rw [List.reverse_append, List.reverse_reverse]
    rfl

/-- The reader respects documents. -/
theorem lawful_readOne (document : List Char) (entries : List (Option WinGetPackage)) :
    (readOne document entries).Lawful where
  lineBreaks cs found h := by
    have hsame : (cs.map lineBreakToSpace).map lineBreakToSpace = cs.map lineBreakToSpace := by
      rw [List.map_map]
      refine List.map_congr_left fun c _ => ?_
      simp only [Function.comp, lineBreakToSpace]
      split
      · rfl
      · rfl
    simp only [readOne, String.toList_ofList, hsame] at h ⊢
    exact h
  trailing cs rest found hrest h := by
    have hspace : (rest.map lineBreakToSpace).all isJsonWhitespace = true := by
      simp only [List.all_map, List.all_eq_true, Function.comp, isJsonWhitespace_lineBreakToSpace]
      exact hrest
    simp only [readOne, String.toList_ofList, List.map_append, rdropWhile_append, hspace,
      if_true] at h ⊢
    exact h
  ends cs rest found found' h h' := by
    simp only [readOne, String.toList_ofList, List.map_append, rdropWhile_append,
      Option.ite_none_right_eq_some] at h h'
    obtain ⟨hdocument, -⟩ := h
    obtain ⟨hdocument', -⟩ := h'
    by_contra hmore
    have htext : ¬ (rest.map lineBreakToSpace).all isJsonWhitespace = true := by
      simp only [List.all_map, List.all_eq_true, Function.comp, isJsonWhitespace_lineBreakToSpace]
      exact hmore
    rw [if_neg htext, ← hdocument] at hdocument'
    -- the longer text has more characters than the document
    have hleft : ((cs.map lineBreakToSpace).rdropWhile isJsonWhitespace).length
        ≤ (cs.map lineBreakToSpace).length := (List.rdropWhile_prefix _ _).length_le
    have hright : 0 < ((rest.map lineBreakToSpace).rdropWhile isJsonWhitespace).length := by
      rw [List.length_pos_iff, ne_eq, List.rdropWhile_eq_nil_iff]
      simpa using htext
    rw [← hdocument', List.length_append] at hleft
    omega

/-- The entry of a package in the listing of a host. -/
def entryText (package : AgentInstalledPackage) (candidate : String) : List Char :=
  "\x7b\"id\":\"".toList ++ package.name.toList ++ "\",\"name\":\"".toList ++ package.name.toList
    ++ "\",\"version\":\"".toList ++ package.installedVersion.toList
    ++ "\",\"candidate_version\":\"".toList ++ candidate.toList
    ++ "\",\"source\":\"winget\"\x7d".toList

/-- What is read of that entry. -/
def entryOf (package : AgentInstalledPackage) : Option WinGetPackage :=
  some ⟨some package.name, some package.name, some package.installedVersion,
    package.candidateVersion, some "winget"⟩

/-- A package with an update. -/
def samplePackage (name : String) : AgentInstalledPackage :=
  ⟨name, "2.44.0", some "2.45.0", none, some "winget"⟩

/-- The listing of packages. -/
def listing (names : List String) : List Char :=
  '[' :: [','].intercalate (names.map fun name => entryText (samplePackage name) "2.45.0") ++ [']']

/-- The reader for that listing. -/
def readListing (names : List String) : JsonReader :=
  readOne (listing names) (names.map fun name => entryOf (samplePackage name))

/-- The output of a scan with the listing, with a line break at its end. -/
def listingOutput (names : List String) : String := String.ofList (listing names ++ ['\r', '\n'])

/-- The scan. -/
def scanOf (names : List String) : Round := ⟨.exited (some 0) (listingOutput names) "", ⟨21⟩, 5⟩

theorem parse_listingOutput {names : List String} {packages : List AgentInstalledPackage}
    (hdocument : ((listing names ++ ['\r', '\n']).map lineBreakToSpace).rdropWhile isJsonWhitespace
      = listing names)
    (hfew : names.length ≤ 50000)
    (hpackages : installedPackages [] (names.map fun name => entryOf (samplePackage name))
      = packages) (hsome : packages ≠ []) :
    parseWindowsPackagesJson (readListing names) (listingOutput names) = .ok packages := by
  simp only [parseWindowsPackagesJson, readListing, readOne, listingOutput, String.toList_ofList,
    hdocument, if_true, List.length_map, hpackages, hsome, and_false, if_false]
  rw [if_neg (by omega)]

/-- An update plan of a Windows server. -/
def planRequest : AnsibleJobRequest where
  operation := .updatePackages
  target := .target ⟨⟨7⟩⟩
  lifecycle := .managed
  mode := .plan
  parameters := .updatePackages ["Git.Git"]
  secretRefs := [⟨⟨9⟩⟩]
  idempotencyKey := "plan"
  confirmed := true
  actorRole := .admin

/-- The plan is submitted, and claimed by the agent. -/
def planClaimed : List ServerAction :=
  [.putTarget (sampleTarget .windowsServer .agent),
    .submit (.queuedFor planRequest ⟨⟨1⟩⟩ 0),
    .appendQueued ⟨⟨1⟩⟩ 0,
    .claim 0 ⟨⟨7⟩⟩ ⟨⟨1⟩⟩ .right 1]

/-- The claimed plan. -/
def planJob : AnsibleJob :=
  { AnsibleJob.queuedFor planRequest ⟨⟨1⟩⟩ 0 with status := .checking, updatedAt := 1 }

/-- The command of the claimed plan. -/
theorem claimedPlan_of_found (hfound : s.store.find ⟨⟨1⟩⟩ = some planJob)
    (hagent : isWindowsAgentTarget s.targets ⟨⟨7⟩⟩ = true) :
    ClaimedPlan s planJob ["Git.Git"] ⟨⟨1⟩, .scan, ["Git.Git"], none⟩ where
  found := hfound
  operation := rfl
  mode := rfl
  parameters := rfl
  status := rfl
  agent := ⟨⟨⟨7⟩⟩, rfl, hagent⟩
  command := by rfl

/-- The listing of one package is short enough. -/
theorem short_listing_recorded :
    let read := readListing ["Git.Git"]
    ∃ s, (reportMachine read).Reach Machine.Any s ∧
      PlanRecorded read s 0 planJob.id ["Git.Git"] [samplePackage "Git.Git"]
        (planResponse "0.6.0" ∅ ⟨⟨1⟩, .scan, ["Git.Git"], none⟩ (scanOf ["Git.Git"]) none) 3 := by
  intro read
  have hrun : ∃ s ∈ (reportMachine read).exec Machine.Any (.fresh true) planClaimed,
      s.store.find ⟨⟨1⟩⟩ = some planJob ∧ isWindowsAgentTarget s.targets ⟨⟨7⟩⟩ = true ∧
        s.calls.get 0 = none := by
    decide +kernel
  obtain ⟨s, hexec, hfound, hagent, hidle⟩ := hrun
  have hreach : (reportMachine read).Reach Machine.Any s := .exec (.init ⟨true, rfl⟩) _ hexec
  have hscan : PlanScan read ["Git.Git"] (scanOf ["Git.Git"]) (listingOutput ["Git.Git"])
      [samplePackage "Git.Git"] := by
    refine ⟨⟨"", rfl⟩, parse_listingOutput ?_ ?_ ?_ ?_, samplePackage "Git.Git", ?_, ?_, rfl⟩
    all_goals decide +kernel
  have hfits : fitsDetail (listingOutput ["Git.Git"]) = true := by
    rw [fitsDetail, listingOutput, String.toList_ofList]
    decide +kernel
  exact ⟨s, hreach, (planRecorded_iff (lawful_readOne _ _) hreach (claimedPlan_of_found hfound hagent)
    hscan (Table.get_empty _) none hidle 3).mpr hfits⟩

/-- The packages of a host on which three can be updated. -/
def threeNames : List String := ["Git.Git", "Vim.Vim", "Mozilla.Firefox"]

/-- With three packages no plan is recorded. -/
theorem long_listing_fails :
    ¬ ∀ read : JsonReader, read.Lawful → ∀ s, (reportMachine read).Reach Machine.Any s →
      ∀ job requested command, ClaimedPlan s job requested command →
      ∀ round stdout packages, PlanScan read requested round stdout packages →
      ∀ version (results : Results), results.get (jobKey command.jobId) = none →
      ∀ inventory n, s.calls.get n = none → ∀ now,
        PlanRecorded read s n job.id requested packages
          (planResponse version results command round inventory) now := by
  intro hall
  have hrun : ∃ s ∈ (reportMachine (readListing threeNames)).exec Machine.Any (.fresh true)
      planClaimed, s.store.find ⟨⟨1⟩⟩ = some planJob ∧
        isWindowsAgentTarget s.targets ⟨⟨7⟩⟩ = true ∧ s.calls.get 0 = none := by
    decide +kernel
  obtain ⟨s, hexec, hfound, hagent, hidle⟩ := hrun
  have hlawful : (readListing threeNames).Lawful := lawful_readOne _ _
  have hreach : (reportMachine (readListing threeNames)).Reach Machine.Any s :=
    .exec (.init ⟨true, rfl⟩) _ hexec
  have hplan := claimedPlan_of_found hfound hagent
  have hscan : PlanScan (readListing threeNames) ["Git.Git"] (scanOf threeNames)
      (listingOutput threeNames) (threeNames.map samplePackage) := by
    refine ⟨⟨"", rfl⟩, parse_listingOutput ?_ ?_ ?_ ?_, samplePackage "Git.Git", ?_, ?_, rfl⟩
    all_goals decide +kernel
  have hnew : (∅ : Results).get (jobKey ⟨1⟩) = none := Table.get_empty _
  have hrecorded := hall _ hlawful s hreach _ _ _ hplan _ _ _ hscan "0.6.0" ∅ hnew none 0 hidle 3
  have hfits := fits_of_planRecorded hlawful hreach hplan hscan hnew none hidle 3 hrecorded
  rw [fitsDetail, listingOutput, String.toList_ofList] at hfits
  exact absurd hfits (by decide +kernel)

end Lxcup.Reports
