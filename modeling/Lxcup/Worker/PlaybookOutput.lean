import Lxcup.Apt.Texts
import Lxcup.Lib.Numerals
import Lxcup.Worker.Run

/-!
# What the worker makes of a playbook's output

The output of `ansible-playbook` is text.  Secrets are replaced in it before it is stored, and
lines and fields are picked out of it: the recap at its end has a line for every host with fields
such as `changed=0`, and every task has a header and a line for its result on each host.  Counts
are read as unsigned numbers of 32 bits, what cannot be read so is passed over, and sums wrap
around.

With these functions the reader of the outputs that `run` takes is complete.

## Main definitions

* `redactOutput` — the text without secrets.
* `recapHasFailures`, `recapHasSkippedTasks`, `recapChangeCount`, `reconciliationDecision` — the
  recap.
* `finishedTaskResults` — the results of the tasks.
* `checkModeSummary`, `planSummary`, `applySummary`, `reconciliationSummary` — what is said of
  them.
* `outputReader` — the reader of an invocation.
-/

namespace Lxcup.Worker

open Lxcup.Lib Lxcup.Core Lxcup.Ansible Lxcup.Agent Lxcup.Apt

/-! ### Secrets -/

/-- `str::replace` with a marker that is not empty. -/
def replaceText (marker replacement cs : List Char) : List Char :=
  replacement.intercalate (splitOnText marker 0 cs)

/-- What stands in the place of a secret. -/
def redacted : List Char := "[REDACTED]".toList

/-- The replacement of one secret. -/
def redactSecret (text secret : List Char) : List Char :=
  if secret = [] then text else replaceText secret redacted text

def redactOutput (output : String) (secrets : List (Option String)) : String :=
  String.ofList ((secrets.filterMap id).foldl (fun text secret => redactSecret text secret.toList)
    output.toList)

/-! ### The recap -/

/-- The mark of the recap. -/
def playRecap : List Char := "PLAY RECAP".toList

/-- `lines().any(|line| line.trim_start().starts_with(..))`. -/
def anyLineStarts (start : String) (stdout : String) : Bool :=
  (lines stdout.toList).any fun line =>
    (stripPrefix start.toList (line.dropWhile isWhitespace)).isSome

/-- The first line with the mark of the recap, and all lines behind it. -/
def fromRecap (stdout : String) : List (List Char) :=
  (lines stdout.toList).dropWhile fun line => !containsText playRecap line

/-- The lines behind the first one with the mark of the recap. -/
def behindRecap (stdout : String) : List (List Char) := (fromRecap stdout).drop 1

def recapHasFailures (stdout : String) : Bool :=
  (behindRecap stdout).any fun line => (words line).any fun field =>
    ["failed=", "unreachable="].any fun start =>
      (stripPrefix start.toList field).any fun value => value ≠ ['0']

def recapHasSkippedTasks (stdout : String) : Bool :=
  (behindRecap stdout).any fun line => (words line).any fun field =>
    ((stripPrefix "skipped=".toList field).bind (parseUnsigned 32)).any fun count => count > 0

def recapChangeCount (stdout : String) : Option Nat :=
  let counts := ((fromRecap stdout).flatMap words).filterMap fun field =>
    (stripPrefix "changed=".toList field).bind (parseUnsigned 32)
  if counts = [] then none else some (counts.sum % 2 ^ 32)

def reconciliationDecision (stdout : String) : ReconciliationDecision :=
  if !containsText playRecap stdout.toList || recapHasFailures stdout
      || recapHasSkippedTasks stdout || anyLineStarts "skipping:" stdout then .manualReview
  else
    match recapChangeCount stdout with
    | some 0 => .completed
    | some _ => .changesRemain
    | none => .manualReview

def playbookChanged (stdout : String) : Bool :=
  match recapChangeCount stdout with
  | some changes => changes > 0
  | none => anyLineStarts "changed: [" stdout

def classifyPlaybookFailure (output : String) : JobFailureCode :=
  let mentions := fun text : String => containsText text.toList output.toList
  if mentions "REMOTE HOST IDENTIFICATION HAS CHANGED" || mentions "Host key verification failed"
      || mentions "host key for" then .hostKeyChanged
  else if mentions "Invalid/incorrect password"
      || mentions "Permission denied, please try again" then .invalidCredentials
  else if mentions "UNREACHABLE!" || mentions "unreachable: true" then .unreachable
  else .playbookFailed

/-! ### The tasks -/

/-- A task whose results are being read. -/
structure RunningTask where
  name : List Char
  changed : Bool
  finished : Bool
  deriving DecidableEq, Repr

def taskHeaderName (line : List Char) : Option (List Char) := do
  let line := line.dropWhile isWhitespace
  let header ← (stripPrefix "TASK [".toList line).or (stripPrefix "RUNNING HANDLER [".toList line)
  let (name, _) ← splitOnce ']' header
  return name

def isFinishedOutcome (outcome : List Char) : Bool :=
  ["ok: [", "fatal: [", "unreachable: ["].any fun start =>
    (stripPrefix start.toList outcome).isSome

def updateTaskResult (current : Option RunningTask) (line : List Char) : Option RunningTask :=
  current.map fun task =>
    let outcome := line.dropWhile isWhitespace
    if (stripPrefix "changed: [".toList outcome).isSome then
      { task with changed := true, finished := true }
    else if isFinishedOutcome outcome then { task with finished := true }
    else task

/-- `push_finished_task`: what is pushed. -/
def pushFinishedTask (current : Option RunningTask) : List (String × Bool) :=
  match current with
  | some task => if task.finished then [(String.ofList task.name, task.changed)] else []
  | none => []

/-- The loop over the lines, with the task that is being read: what is pushed from here on. -/
def finishedTasksFrom : Option RunningTask → List (List Char) → List (String × Bool)
  | current, [] => pushFinishedTask current
  | current, line :: rest =>
    match taskHeaderName line with
    | some task => pushFinishedTask current ++ finishedTasksFrom (some ⟨task, false, false⟩) rest
    | none => finishedTasksFrom (updateTaskResult current line) rest

def finishedTaskResults (stdout : String) : List (String × Bool) :=
  finishedTasksFrom none (lines stdout.toList)

/-! ### Summaries -/

def checkModeSummary (stdout : String) : String :=
  if !containsText playRecap stdout.toList then
    "Prüfung lieferte keine vollständige Ansible-Zusammenfassung; Ergebnis bitte manuell prüfen."
  else if recapHasFailures stdout then
    "Prüfung fehlgeschlagen: Ansible meldet mindestens einen fehlgeschlagenen oder nicht " ++
      "erreichbaren Host. Details stehen in der Worker-Ausgabe."
  else if anyLineStarts "skipping:" stdout then
    "Prüfung abgeschlossen, aber mindestens ein Ansible-Schritt wurde übersprungen und ist nicht " ++
      "prüfbar. Details stehen in der Worker-Ausgabe."
  else if playbookChanged stdout then
    "Prüfung erfolgreich: Ansible hat mögliche Änderungen erkannt, aber im Check-Modus nichts " ++
      "angewendet."
  else "Prüfung erfolgreich: Ansible hat keine Änderungen erkannt und nichts angewendet."

def planSummary (stdout : String) : String :=
  if !containsText playRecap stdout.toList then
    "Vorschau unvollständig: Ansible hat keine vollständige Zusammenfassung geliefert. Details " ++
      "stehen in der technischen Ausgabe."
  else if recapHasFailures stdout then
    "Vorschau fehlgeschlagen: Ansible meldet mindestens einen fehlgeschlagenen oder nicht " ++
      "erreichbaren Host. Es wurde nichts angewendet; Details stehen in der technischen Ausgabe."
  else if anyLineStarts "skipping:" stdout then
    "Vorschau teilweise nicht prüfbar: Mindestens ein Ansible-Schritt wurde übersprungen. Es " ++
      "wurden keine Änderungen angewendet; Details stehen in der Diff-Ausgabe."
  else
    -- of every line the first count that can be read
    let counts := (behindRecap stdout).filterMap fun line => (words line).findSome? fun field =>
      (stripPrefix "changed=".toList field).bind (parseUnsigned 32)
    let changes := counts.sum % 2 ^ 32
    if changes = 0 then
      "Dry-Run erfolgreich: Es werden keine Änderungen erwartet. Es wurde nichts angewendet."
    else
      "Dry-Run erfolgreich: Ansible erwartet " ++ toString changes ++ " Änderung(en). Es wurde " ++
        "nichts angewendet; die sichere Diff-Vorschau steht unten."

def reconciliationSummary : ReconciliationDecision → String
  | .completed =>
    "Ist-Zustand geprüft: Es sind keine Änderungen mehr offen. Der ursprüngliche Apply-Lauf wird " ++
      "als abgeschlossen markiert; Reconcile hat selbst nichts geändert."
  | .changesRemain =>
    "Ist-Zustand geprüft: Es bleiben Änderungen offen. Der ursprüngliche Lauf wird als " ++
      "fehlgeschlagen markiert. Erstelle einen neuen Plan und bestätige einen neuen Apply " ++
      "ausdrücklich; Reconcile hat selbst nichts geändert."
  | .manualReview =>
    "Ist-Zustand konnte nicht vollständig bewertet werden. Der ursprüngliche Lauf wird zur " ++
      "manuellen Prüfung als fehlgeschlagen markiert; Reconcile hat selbst nichts geändert."

def applySummary (stdout : String) (processSucceeded : Bool) : String :=
  let changedTasks := ((finishedTaskResults stdout).filter (·.2)).length
  if !processSucceeded then
    "Apply fehlgeschlagen. Bis zum Fehler haben " ++ toString changedTasks ++ " Task(s) " ++
      "Änderungen gemeldet; Details und Status je Task stehen im Protokoll."
  else if changedTasks > 0 then
    "Apply erfolgreich ausgeführt: " ++ toString changedTasks ++ " Task(s) haben Änderungen " ++
      "vorgenommen. Die tatsächlichen Schritte stehen im Protokoll."
  else if playbookChanged stdout then
    "Apply erfolgreich ausgeführt: Ansible meldet " ++
      toString ((recapChangeCount stdout).getD 0) ++ " Änderung(en); einzelne Task-Ausgaben " ++
      "stehen im technischen Protokoll."
  else "Apply erfolgreich ausgeführt: Ansible meldet keine Änderungen am Zielsystem."

/-! ### The reader -/

/-- The secrets of an invocation. -/
structure InvocationContext where
  credential : String
  agentToken : Option String
  deriving DecidableEq, Repr

/-- The texts that are taken out of every output of an invocation. -/
def InvocationContext.redactions (context : InvocationContext) : List (Option String) :=
  [some context.credential, context.agentToken]

/-- The reader of the outputs of an invocation. -/
def outputReader (context : InvocationContext) : OutputReader where
  redact output := redactOutput output context.redactions
  finishedTaskResults
  applySummary
  checkModeSummary
  planSummary
  reconciliationDecision
  reconciliationSummary
  classifyPlaybookFailure
  playbookChanged

end Lxcup.Worker
