import Lxcup.Reports.Service

/-!
# The writers of the events of a job

The rows of `ansible_job_events` of one job, and everything that inserts into them.  The worker
(`event`), the handler of a result (`persist_result`) and the handler of `GET` on the events read
the log first and insert by statements of their own.  A claim or a retry locks the row of the job
and takes its numbers and inserts inside of its transaction, so that nobody sees its rows, or the
row of the job as it has changed it, before the commit.  The lock keeps other transactions and
updates of the row away, and nobody who only inserts.

A statement sees what is committed and what its own transaction has done.  An insert whose number
is the key of a committed row fails, and one whose number is the key of a row in the open
transaction waits.  (An insert also takes a share lock on the row of the job for its foreign key; a
deadlock over it looks here like a number that is taken.)  Apart from keys that are taken, the
database answers every call.

The state names the writer of every row and the events that each writer has set out to append.  No
step reads either.

## Main definitions

* `JobLog` — the row of the job, its events, the open transaction and the writers.
* `Phase`, `Call` — how far a writer has come.
* `LogAction`, `JobLog.step`, `logMachine`.
-/

namespace Lxcup.Events

open Lxcup.Lib Lxcup.Core Lxcup.Ansible Lxcup.Agent Lxcup.Persistence Lxcup.Server
open Lxcup.Reports (nextSequence)

/-! ### The log of a job -/

/-- A row of `ansible_job_events`, and who has inserted it. -/
structure Row where
  event : JobEvent
  writer : Option Nat
  deriving DecidableEq, Repr

/-- The transaction that holds the lock of the row of the job: the row as it has changed it, and
the rows that it has inserted. -/
structure Transaction where
  owner : Nat
  job : AnsibleJob
  rows : List Row
  deriving DecidableEq, Repr

/-- The transactions that append events: `claim_next_queued` of a worker,
`claim_next_windows_agent_job` of an agent, and `retry`. -/
inductive Query
  | worker | agent | retry
  deriving DecidableEq, Repr

/-- What the other jobs make of a claim. -/
inductive Others
  /-- The query returns this job, and its update goes through. -/
  | clear
  /-- The query does not return this job. -/
  | ahead
  /-- The query returns this job, and the unique index of active jobs refuses the update. -/
  | active
  deriving DecidableEq, Repr

/-- How a writer ends. -/
inductive Answer
  | stored
  | events (events : List JobEvent)
  | job (job : Option AnsibleJob)
  /-- The call is refused before it appends anything. -/
  | refused (error : RepositoryError)
  | rejected (error : ApiError)
  /-- The number of an event is taken. -/
  | failed
  deriving DecidableEq, Repr

/-- How far a writer has come. -/
inductive Phase
  /-- The events are counted next; a result has a copy of the job to write then. -/
  | counting (copy : Option AnsibleJob) (events : List JobEventKind)
  /-- The row is overwritten next, before the events are appended from the number on. -/
  | updating (copy : AnsibleJob) (events : List JobEventKind) (next : Nat)
  /-- The handler of `GET` reads the events, and then the job. -/
  | viewing
  | viewed (events : List JobEvent)
  /-- The events are inserted one by one; the handler of `GET` has its answer by then. -/
  | appending (events : List JobEventKind) (next : Nat) (answer : Option (List JobEvent))
  /-- The row is locked next, if the query finds it. -/
  | selecting (query : Query)
  /-- The number of the first of the events is taken next, or the transaction is committed. -/
  | numbering (events : List JobEventKind)
  | inserting (kind : JobEventKind) (events : List JobEventKind) (next : Nat)
  | answered (answer : Answer)
  deriving DecidableEq, Repr

/-- A writer: the events that it has set out to append, and how far it has come. -/
structure Call where
  attempted : List JobEventKind
  phase : Phase
  deriving DecidableEq, Repr

/-- A writer sets out to append events. -/
def Call.attempt (call : Call) (events : List JobEventKind) : Call :=
  { call with attempted := call.attempted ++ events }

/-- The row of a job, the rows of its events that are committed, the transaction that has locked
the job, and the writers. -/
structure JobLog where
  job : AnsibleJob
  rows : List Row
  transaction : Option Transaction
  calls : Table Nat Call

/-- The row is a failed job without an event that says so; `GET` appends one. -/
def lacksFailure (job : AnsibleJob) (events : List JobEvent) : Bool :=
  job.status = .failed && !events.any fun event =>
    match event.event with
    | .failed _ => true
    | _ => false

/-- A number is the key of a row. -/
def taken (rows : List Row) (number : Nat) : Bool := rows.any fun row => row.event.sequence = number

/-- The condition of the query of a claim on the row itself. -/
def claimable (query : Query) (job : AnsibleJob) : Bool :=
  job.status = .queued && (query ≠ .agent || JobTable.isWindowsAgentOperation job.operation)

/-- The statuses that a transaction takes the job through. -/
def statuses (query : Query) (job : AnsibleJob) : List AnsibleJobStatus :=
  match query with
  | .worker => [.checking]
  | .agent => claimPath job.mode
  | .retry => [.queued]

namespace JobLog

/-- The events that everybody sees. -/
def events (s : JobLog) : List JobEvent := s.rows.map (·.event)

/-- The rows of the open transaction. -/
def hidden (s : JobLog) : List Row := (s.transaction.map (·.rows)).getD []

/-- All rows, whether they are committed or not. -/
def inserted (s : JobLog) : List Row := s.rows ++ s.hidden

/-- The transaction of a writer. -/
def transactionOf (s : JobLog) (n : Nat) : Option Transaction := s.transaction.filter (·.owner = n)

def withCall (s : JobLog) (n : Nat) (call : Call) : JobLog :=
  { s with calls := s.calls.put n call }

/-- A writer goes on. -/
def goOn (s : JobLog) (n : Nat) (call : Call) (phase : Phase) : JobLog :=
  s.withCall n { call with phase := phase }

/-- The row of an event that is inserted now. -/
def row (s : JobLog) (n next : Nat) (kind : JobEventKind) (now : Timestamp) : Row :=
  ⟨⟨next, s.job.id, kind, now⟩, some n⟩

/-! ### Statements -/

/-- `events(id).len() + 1`, and what comes after it. -/
def count (s : JobLog) (n : Nat) (call : Call) (copy : Option AnsibleJob)
    (events : List JobEventKind) : JobLog :=
  match copy with
  | none => s.goOn n call (.appending events (s.events.length + 1) none)
  | some job => s.goOn n call (.updating job events (s.events.length + 1))

/-- `get_ansible_job_events` after it has read the events: the job is loaded, and an event that
is missing is appended under the number after those that were read. -/
def backfill (s : JobLog) (n : Nat) (call : Call) (events : List JobEvent) : JobLog :=
  if lacksFailure s.job events then
    s.goOn n (call.attempt [.failed .workerUnavailable])
      (.appending [.failed .workerUnavailable] (events.length + 1) (some events))
  else s.goOn n call (.answered (.events events))

/-- `append_event`. -/
def append (s : JobLog) (n : Nat) (call : Call) (kind : JobEventKind) (rest : List JobEventKind)
    (next : Nat) (answer : Option (List JobEvent)) (now : Timestamp) : Option JobLog :=
  -- the open transaction decides whether the number is taken
  if taken s.hidden next then none
  else if taken s.rows next then some (s.goOn n call (.answered .failed))
  else
    let row := s.row n next kind now
    some ({ s with rows := s.rows ++ [row] }.goOn n call
      (.appending rest (next + 1) (answer.map (· ++ [row.event]))))

/-- The transaction of a writer begins: the row is locked and changed. -/
def begin (s : JobLog) (n : Nat) (call : Call) (job : AnsibleJob) (path : List AnsibleJobStatus) :
    JobLog :=
  { s with transaction := some ⟨n, job, []⟩ }.goOn n (call.attempt (path.map .statusChanged))
    (.numbering (path.map .statusChanged))

/-- The beginning of a transaction, up to the first event.  A retry waits for the lock, and a
claim skips a row that is locked. -/
def select (s : JobLog) (n : Nat) (call : Call) (query : Query) (others : Others)
    (now : Timestamp) : Option JobLog :=
  match query with
  | .retry =>
    if s.transaction.isSome then none
    else
      match (JobTable.empty.put s.job).retry s.job.id now with
      | .error error => some (s.goOn n call (.answered (.refused error)))
      | .ok (job, _) => some (s.begin n call job (statuses .retry s.job))
  | query =>
    -- `FOR UPDATE .. SKIP LOCKED` sees the newest version of the row
    if s.transaction.isSome || others = .ahead || !claimable query s.job then
      some (s.goOn n call (.answered (.job none)))
    else
      match s.job.transitionsTo (statuses query s.job) now with
      | .error _ =>
        some (s.goOn n call (.answered (.refused (.invalidValue "ansible job status"))))
      | .ok job =>
        if others = .active then
          -- only the worker takes the refusal for an answer
          some (s.goOn n call (.answered
            (if query = .agent then .refused .database else .job none)))
        else some (s.begin n call job (statuses query s.job))

/-- The changes of a transaction become visible. -/
def commit (s : JobLog) (transaction : Transaction) : JobLog where
  job := transaction.job
  rows := s.rows ++ transaction.rows
  transaction := none
  calls := s.calls

/-- `SELECT COALESCE(MAX(sequence), 0) + 1` for the next event, or the commit. -/
def number (s : JobLog) (n : Nat) (call : Call) (transaction : Transaction) :
    List JobEventKind → JobLog
  | [] => (s.commit transaction).goOn n call (.answered (.job (some transaction.job)))
  | kind :: rest => s.goOn n call
      (.inserting kind rest (nextSequence ((s.rows ++ transaction.rows).map (·.event))))

/-- The insert of a transaction; when it fails, the transaction is rolled back. -/
def insert (s : JobLog) (n : Nat) (call : Call) (transaction : Transaction) (kind : JobEventKind)
    (rest : List JobEventKind) (next : Nat) (now : Timestamp) : JobLog :=
  if taken (s.rows ++ transaction.rows) next then
    { s with transaction := none }.goOn n call (.answered .failed)
  else
    let rows := transaction.rows ++ [s.row n next kind now]
    { s with transaction := some { transaction with rows := rows } }.goOn n call (.numbering rest)

/-- The next statement of a writer. -/
def advance (s : JobLog) (n : Nat) (others : Others) (now : Timestamp) : Option JobLog := do
  let call ← s.calls.get n
  match call.phase with
  | .counting copy events => some (s.count n call copy events)
  | .updating copy events next =>
    -- the lock of a transaction holds up other updates of the row
    if s.transaction.isSome then none
    else some ({ s with job := copy }.goOn n call (.appending events next none))
  | .viewing => some (s.goOn n call (.viewed s.events))
  | .viewed events => some (s.backfill n call events)
  | .appending (kind :: rest) next answer => s.append n call kind rest next answer now
  | .appending [] _ none => some (s.goOn n call (.answered .stored))
  | .appending [] _ (some events) => some (s.goOn n call (.answered (.events events)))
  | .selecting query => s.select n call query others now
  | .numbering events => return s.number n call (← s.transactionOf n) events
  | .inserting kind rest next => return s.insert n call (← s.transactionOf n) kind rest next now
  | .answered _ => none

/-- A writer begins. -/
def start (s : JobLog) (n : Nat) (call : Call) : Option JobLog :=
  if (s.calls.get n).isSome then none else some (s.withCall n call)

end JobLog

/-! ### Steps -/

/-- The steps of a log. -/
inductive LogAction
  /-- `event` of the worker. -/
  | event (n : Nat) (kind : JobEventKind)
  /-- `GET` on the events. -/
  | view (n : Nat)
  /-- `persist_result` for a copy of the job that was loaded at some time. -/
  | report (n : Nat) (copy : AnsibleJob) (status : AnsibleJobStatus) (message : String)
      (now : Timestamp)
  | transaction (n : Nat) (query : Query)
  | advance (n : Nat) (others : Others) (now : Timestamp)
  /-- The row of the job is overwritten by somebody who appends no event with it. -/
  | update (job : AnsibleJob)
  deriving DecidableEq, Repr

def JobLog.step (s : JobLog) : LogAction → Option JobLog
  | .event n kind => s.start n ⟨[kind], .counting none [kind]⟩
  | .view n => s.start n ⟨[], .viewing⟩
  | .report n copy status message now =>
    if copy.id ≠ s.job.id then none
    else
      match settle copy status message now with
      | .error error => s.start n ⟨[], .answered (.rejected error)⟩
      | .ok verdict => s.start n ⟨verdict.events, .counting (some verdict.job) verdict.events⟩
  | .transaction n query => s.start n ⟨[], .selecting query⟩
  | .advance n others now => s.advance n others now
  | .update job =>
    if s.transaction.isSome || job.id ≠ s.job.id then none else some { s with job := job }

/-- The row of a job and its events, with nobody at work. -/
def JobLog.quiet (job : AnsibleJob) (events : List JobEvent) : JobLog :=
  ⟨job, events.map fun event => ⟨event, none⟩, none, ∅⟩

/-- Runs start with the events of a job numbered from one. -/
def logMachine : Machine JobLog LogAction where
  init s := ∃ job events, events.map (·.sequence) = List.range' 1 events.length ∧
    s = .quiet job events
  step := JobLog.step

end Lxcup.Events
