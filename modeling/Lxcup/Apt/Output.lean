import Lxcup.Agent.Host
import Lxcup.Core.Scan

/-!
# Reading the output of a package scan

The line-oriented output that an agent produces for a scan, as the server reads it: records
are separated by blank lines and have one `Key: value` field on each line.

## Main definitions

* `AptParseError`, `AptPackageRecord`.
* `parseOutput` — the records of an output.
* `buildScan` — the scan for a controlled execution.

## Main results

* `parseOutput_of_one_line` — an output of a single line that begins with the `Package`
  field is no record.
-/

namespace Lxcup.Apt

open Lxcup.Lib Lxcup.Core Lxcup.Agent

/-- Why an output is not accepted. -/
inductive AptParseError
  | malformedLine (line : String)
  | missingField (field : String)
  | invalidBoolean (value : String)
  | invalidPackageName
  | invalidPackageVersion
  deriving DecidableEq, Repr, Inhabited

/-- A normalised record of the scanner's contract. -/
structure AptPackageRecord where
  package : String
  installedVersion : String
  candidateVersion : Option String
  classification : UpdateClassification
  held : Bool
  authenticated : Bool
  deriving DecidableEq, Repr, Inhabited

/-- The update of a record. -/
def AptPackageRecord.intoAvailableUpdate (record : AptPackageRecord) :
    Except AptParseError AvailableUpdate := do
  let some candidateVersion := record.candidateVersion | throw (.missingField "Candidate")
  let some package := PackageName.new record.package | throw .invalidPackageName
  let some installed := PackageVersion.new record.installedVersion | throw .invalidPackageVersion
  let some candidate := PackageVersion.new candidateVersion | throw .invalidPackageVersion
  return ⟨package, installed, candidate, record.classification, record.held⟩

/-- The truth values of the contract, in any case. -/
def parseBool (value : List Char) : Except AptParseError Bool :=
  let lower := String.ofList (toAsciiLowercase value)
  if lower = "yes" ∨ lower = "true" ∨ lower = "1" then .ok true
  else if lower = "no" ∨ lower = "false" ∨ lower = "0" then .ok false
  else .error (.invalidBoolean (String.ofList value))

/-- The fields of a record, as far as they have been read. -/
structure Fields where
  package : Option (List Char) := none
  installed : Option (List Char) := none
  candidate : Option (List Char) := none
  security : Bool := false
  held : Bool := false
  authenticated : Bool := true
  deriving DecidableEq, Repr, Inhabited

/-- One line of a record.  A later field replaces an earlier one, other keys are ignored. -/
def Fields.read (fields : Fields) (line : List Char) : Except AptParseError Fields := do
  let some (key, value) := splitOnce ':' line | throw (.malformedLine (String.ofList line))
  let value := trim value
  match String.ofList (trim key) with
  | "Package" => return { fields with package := some value }
  | "Installed" => return { fields with installed := some value }
  | "Candidate" => return { fields with candidate := if value = [] then none else some value }
  | "Security" => return { fields with security := ← parseBool value }
  | "Held" => return { fields with held := ← parseBool value }
  | "Authenticated" => return { fields with authenticated := ← parseBool value }
  | _ => return fields

/-- The record that the fields of a block make. -/
def Fields.record (fields : Fields) : Except AptParseError AptPackageRecord := do
  let some package := fields.package.filter (· ≠ []) | throw (.missingField "Package")
  let some installed := fields.installed.filter (· ≠ []) | throw (.missingField "Installed")
  let classification : UpdateClassification :=
    if !fields.authenticated || fields.candidate.isNone then .unknown
    else if fields.security then .security
    else .normal
  return ⟨String.ofList package, String.ofList installed, fields.candidate.map String.ofList,
    classification, fields.held, fields.authenticated⟩

/-- The record of a block of lines. -/
def parseBlock (block : List Char) : Except AptParseError AptPackageRecord := do
  let fields ← (lines block).foldlM Fields.read {}
  fields.record

/-- The parts of a text between the occurrences of a marker; the counter is the number of
characters of a marker that are still to be skipped. -/
def splitOnText (marker : List Char) : Nat → List Char → List (List Char)
  | _, [] => [[]]
  | skip + 1, _ :: cs => splitOnText marker skip cs
  | 0, c :: cs =>
    if marker.isPrefixOf (c :: cs) then [] :: splitOnText marker (marker.length - 1) cs
    else
      match splitOnText marker 0 cs with
      | [] => [[c]]
      | part :: parts => (c :: part) :: parts

/-- `parse_output`: the records of the blocks that are not blank. -/
def parseOutput (output : String) : Except AptParseError (List AptPackageRecord) :=
  ((splitOnText "\n\n".toList 0 output.toList).filter fun block => trim block ≠ []).mapM parseBlock

/-- The outputs and the exit code of a controlled execution. -/
structure AptExecutionResult where
  stdout : String
  stderr : String
  exitCode : Option Int
  deriving DecidableEq, Repr, Inhabited

/-- `build_scan`: the scan and the diagnostics, with the fresh id and the time of the call. -/
def buildScan (containerId : ContainerId) (execution : AptExecutionResult) (newId : ScanId)
    (now : Timestamp) : Except AptParseError (Scan × String) := do
  -- a new scan can run, a running one can end either way
  let scan := { Scan.new containerId newId now with status := .running }
  if execution.exitCode ≠ some 0 then
    return ({ scan with status := .failed, completedAt := some now }, execution.stderr)
  let updates ← (← parseOutput execution.stdout).mapM AptPackageRecord.intoAvailableUpdate
  return ({ scan with updates := updates, status := .succeeded, completedAt := some now },
    execution.stderr)

/-! ### Outputs of one line -/

theorem splitOnText_eq_singleton {c : Char} {marker cs : List Char} (h : c ∉ cs) :
    splitOnText (c :: marker) 0 cs = [cs] := by
  induction cs with
  | nil => rfl
  | cons d cs ih =>
    have hne : c ≠ d := fun heq => h (heq ▸ List.mem_cons_self)
    have hrest := ih fun hmem => h (List.mem_cons_of_mem d hmem)
    simp [splitOnText, hrest, hne]

theorem splitOn_eq_singleton {c : Char} {cs : List Char} (h : c ∉ cs) : splitOn c cs = [cs] := by
  induction cs with
  | nil => rfl
  | cons d cs ih =>
    have hne : d ≠ c := fun heq => h (heq ▸ List.mem_cons_self)
    have hrest := ih fun hmem => h (List.mem_cons_of_mem d hmem)
    simp [splitOn, hrest, hne]

theorem lines_eq_singleton {cs : List Char} (h : '\n' ∉ cs) (hne : cs ≠ []) : lines cs = [cs] := by
  simp [lines, splitOn_eq_singleton h, hne]

/-- A line that begins with the `Package` field sets nothing else. -/
theorem read_package (rest : List Char) :
    ({} : Fields).read ("Package:".toList ++ rest) = .ok { package := some (trim rest) } := by
  have hsplit : splitOnce ':' ("Package:".toList ++ rest) = some ("Package".toList, rest) := by
    simp [splitOnce]
  have hkey : String.ofList (trim "Package".toList) = "Package" := by decide
  simp only [Fields.read, hsplit, hkey, pure, Except.pure]

/-- Without the other fields on lines of their own there is no record. -/
theorem parseBlock_package {rest : List Char} (h : '\n' ∉ rest) :
    ∃ field, parseBlock ("Package:".toList ++ rest) = .error (.missingField field) := by
  have hline : '\n' ∉ "Package:".toList ++ rest := by
    rw [List.mem_append, not_or]
    exact ⟨by decide, h⟩
  have hlines := lines_eq_singleton hline (by simp)
  simp only [parseBlock, hlines, List.foldlM_cons, List.foldlM_nil, read_package, bind,
    Except.bind, pure, Except.pure, Fields.record]
  by_cases hblank : trim rest = []
  · rw [hblank]
    exact ⟨"Package", rfl⟩
  · have hpackage : (some (trim rest)).filter (· ≠ []) = some (trim rest) := by simp [hblank]
    rw [hpackage]
    exact ⟨"Installed", rfl⟩

/-- **A single line that begins with the `Package` field is refused.** -/
theorem parseOutput_of_one_line {rest : List Char} (h : '\n' ∉ rest) :
    ∃ error, parseOutput (String.ofList ("Package:".toList ++ rest)) = .error error := by
  have hline : '\n' ∉ "Package:".toList ++ rest := by
    rw [List.mem_append, not_or]
    exact ⟨by decide, h⟩
  obtain ⟨field, hblock⟩ := parseBlock_package h
  have hnotBlank : trim ("Package:".toList ++ rest) ≠ [] :=
    trim_ne_nil (c := 'P') (by simp) (by decide)
  have hblocks : splitOnText "\n\n".toList 0 ("Package:".toList ++ rest)
      = ["Package:".toList ++ rest] := splitOnText_eq_singleton hline
  have htext : (String.ofList ("Package:".toList ++ rest)).toList = "Package:".toList ++ rest :=
    String.toList_ofList
  refine ⟨.missingField field, ?_⟩
  have hkept : ["Package:".toList ++ rest].filter (fun block => decide (trim block ≠ []))
      = ["Package:".toList ++ rest] :=
    List.filter_cons_of_pos (decide_eq_true hnotBlank)
  rw [parseOutput, htext, hblocks, hkept, List.mapM_cons, hblock]
  rfl

end Lxcup.Apt
