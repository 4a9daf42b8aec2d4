import Lxcup.Agent.Command
import Lxcup.Lib.Table

/-!
# Commands on the host

What the agent does with a command on its host, `run_local_command`, and the response it makes
of the outcome.  The process itself is outside: its outcome is an argument.

## Main definitions

* `HostOutcome` — how a process on the host ends.
* `normalizeAptList`, `runLocalCommand` — the exit code and the two outputs of a command.
* `Round` — what one execution of a command gets from outside.
* `commandResponse` — the response to the controller.
* `Results`, `storeResult` — the responses kept for repeated requests.

## Main results

* `get_storeResult` — which responses a store leaves.
-/

namespace Lxcup.Agent

open Lxcup.Lib Lxcup.Core

/-! ### The processes -/

/-- How a process on the host ends: with a code, unless a signal ended it, not at all because it
could not be started, or by the time limit. -/
inductive HostOutcome
  | exited (code : Option Int) (stdout stderr : String)
  | failed (error : String)
  | timedOut
  deriving DecidableEq, Repr, Inhabited

/-- Exit code, standard output and error output of a process. -/
def HostOutcome.output : HostOutcome → Int × String × String
  | .exited code stdout stderr => (code.getD 1, stdout, stderr)
  | .failed error => (1, "", error)
  | .timedOut => (124, "", "agent command timed out")

/-- The lines of a text, without their line ends. -/
def lines (cs : List Char) : List (List Char) :=
  let parts := splitOn '\n' cs
  let stripReturn := fun line : List Char =>
    if line.getLast? = some '\r' then line.dropLast else line
  parts.dropLast.map stripReturn ++ (parts.getLast?.filter (· ≠ [])).toList

/-- The words of a text, separated by white space. -/
def words (cs : List Char) : List (List Char) :=
  (splitOn ' ' (cs.map fun c => if isWhitespace c then ' ' else c)).filter (· ≠ [])

/-- The text before and after the first occurrence of another. -/
def splitAtText (marker : List Char) : List Char → Option (List Char × List Char)
  | [] => (stripPrefix marker []).map fun rest => ([], rest)
  | c :: cs =>
    match stripPrefix marker (c :: cs) with
    | some rest => some ([], rest)
    | none => (splitAtText marker cs).map fun parts => (c :: parts.1, parts.2)

/-- The entry for one line of `apt list --upgradable`. -/
def aptEntry (line : List Char) : Option (List Char) := do
  let line := trim line
  if line = [] ∨ (stripPrefix "Listing".toList line).isSome then none
  else
    let (package, _) ← splitOnce '/' line
    let candidate ← (words line)[1]?
    let (_, rest) ← splitAtText "[upgradable from: ".toList line
    -- `split(..).nth(1)`: up to the next marker, if there is one
    let part := ((splitAtText "[upgradable from: ".toList rest).map (·.1)).getD rest
    let installed := (part.reverse.dropWhile (· = ']')).reverse
    let security := if (splitAtText "security".toList line).isSome then "yes" else "no"
    return "Package: ".toList ++ package ++ "\nInstalled: ".toList ++ installed
      ++ "\nCandidate: ".toList ++ candidate ++ "\nSecurity: ".toList ++ security.toList
      ++ "\nHeld: no\nAuthenticated: yes".toList

/-- `normalize_apt_list`. -/
def normalizeAptList (output : String) : String :=
  String.ofList (("\n\n".toList).intercalate ((lines output.toList).filterMap aptEntry))

/-- `run_local_command` on Linux. -/
def runLinuxCommand (action : AgentAction) (packages : List String) (outcome : HostOutcome) :
    Int × String × String :=
  match action with
  | .health => outcome.output
  | .scan =>
    match outcome with
    | .exited code stdout stderr => (code.getD 1, normalizeAptList stdout, stderr)
    | other => other.output
  | .apply =>
    if packages = [] then (2, "", "apply requires at least one package") else outcome.output
  | .updateAgent => (2, "", "agent update requires an approved workflow")

/-- `run_windows_winget_command` with `windows_winget_invocation`. -/
def runWindowsWingetCommand (action : AgentAction) (packages : List String)
    (outcome : HostOutcome) : Int × String × String :=
  match action with
  | .health => (0, "healthy", "")
  | .updateAgent => (2, "", "agent update requires an approved workflow")
  | .scan => outcome.output
  | .apply =>
    if packages = [] then (2, "", "apply requires at least one winget package ID")
    else if packages.any fun package => !safeWingetId package then
      (2, "", "apply contains an invalid winget package ID")
    else outcome.output

/-- `run_local_command`. -/
def runLocalCommand (platform : AgentPlatform) (action : AgentAction) (packages : List String)
    (outcome : HostOutcome) : Int × String × String :=
  match platform with
  | .windows => runWindowsWingetCommand action packages outcome
  | .linux => runLinuxCommand action packages outcome

/-! ### Responses -/

/-- What one execution of a command gets from outside: how its process ends, the new id of the
response and the time it took. -/
structure Round where
  outcome : HostOutcome
  requestId : Uuid
  durationMs : Nat
  deriving DecidableEq, Repr, Inhabited

/-- The response for an exit code and the two outputs. -/
def commandResponse (round : Round) (output : Int × String × String) : AgentCommandResponse where
  requestId := round.requestId
  success := output.1 = 0
  exitCode := output.1
  stdout := safeDetail output.2.1
  stderr := safeDetail output.2.2
  rebootRequired := false
  durationMs := round.durationMs

/-- The responses kept under their idempotency keys. -/
abbrev Results := Table String AgentCommandResponse

/-- Keep a response.  All others are dropped when there are 512 or more. -/
def storeResult (results : Results) (key : String) (response : AgentCommandResponse) : Results :=
  -- `clear`, also where the key is kept already
  let results := if results.entries.length ≥ 512 then ∅ else results
  results.put key response

/-- Below the bound a store keeps the other responses. -/
theorem get_storeResult {results : Results} (hroom : results.entries.length < 512) (key : String)
    (response : AgentCommandResponse) (other : String) :
    (storeResult results key response).get other
      = if other = key then some response else results.get other := by
  have hkeep : ¬ results.entries.length ≥ 512 := by omega
  simp only [storeResult, if_neg hkeep]
  exact Table.get_put ..

/-- A store adds nothing under another key. -/
theorem get_storeResult_eq_none {results : Results} {key other : String}
    (response : AgentCommandResponse) (hne : other ≠ key) (hnone : results.get other = none) :
    (storeResult results key response).get other = none := by
  simp only [storeResult]
  rw [Table.get_put_ne _ _ hne]
  split
  · exact Table.get_empty other
  · exact hnone

end Lxcup.Agent
