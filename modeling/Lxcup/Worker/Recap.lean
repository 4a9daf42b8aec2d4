import Lxcup.Worker.PlaybookOutput

/-!
# When a reconciliation is finished

A reconciliation runs the playbook again without changing anything, and its recap says whether
anything is left to change.  If nothing is, the interrupted run that it looks into is declared
successful.  That decision is made by three scans of the text: two of the lines behind the recap
line, and one that sums up the counts of changes from the recap line on, in 32 bits.

What the decision ought to mean is said for numerals of any size.  It does mean that except where
the sum wraps around to zero, or where a scan passes over a field that it cannot read.

## Main definitions

* `Finished` — the recap says that nothing is left to do.
* `Passes` — the checks before the counts.
* `Misread` — a text whose recap is read for less than it says.

## Main results

* `reconciliationDecision_eq_completed` — when the decision is made.
* `finished_iff` — what the checks leave open.
* `completed_finished_iff` — the decision is right on all other texts.
-/

namespace Lxcup.Worker

open Lxcup.Lib Lxcup.Agent Lxcup.Apt

/-- The values of the fields with a name. -/
def fieldValues (name : String) (recap : List (List Char)) : List (List Char) :=
  (recap.flatMap words).filterMap (stripPrefix name.toList)

/-- The recap says that nothing is left to do. -/
structure Finished (stdout : String) : Prop where
  recap : ∃ line ∈ lines stdout.toList, playRecap <:+: line
  changed : ∀ value ∈ fieldValues "changed=" (behindRecap stdout), readUnsigned value = some 0
  failed : ∀ value ∈ fieldValues "failed=" (behindRecap stdout), value = ['0']
  unreachable : ∀ value ∈ fieldValues "unreachable=" (behindRecap stdout), value = ['0']
  skipped : ∀ value ∈ fieldValues "skipped=" (behindRecap stdout),
    ∀ count, readUnsigned value = some count → count = 0
  skipping : ∀ line ∈ lines stdout.toList,
    ¬ "skipping:".toList <+: line.dropWhile isWhitespace

/-- The checks before the counts. -/
structure Passes (stdout : String) : Prop where
  recap : containsText playRecap stdout.toList = true
  failures : recapHasFailures stdout = false
  skippedTasks : recapHasSkippedTasks stdout = false
  skipping : anyLineStarts "skipping:" stdout = false

/-- The counts of changes that can be read, from the recap line on. -/
def readCounts (stdout : String) : List Nat :=
  (fieldValues "changed=" (fromRecap stdout)).filterMap (parseUnsigned 32)

/-- A field behind the recap line that is passed over, or read for what it is not. -/
inductive Overlooked (stdout : String) : Prop
  /-- A count that only a sum that wraps around can hide. -/
  | count {value : List Char} {count : Nat}
    (hmem : value ∈ fieldValues "changed=" (behindRecap stdout))
    (h : parseUnsigned 32 value = some count) (hpos : 0 < count)
  /-- A count that cannot be read. -/
  | unreadable {value : List Char} (hmem : value ∈ fieldValues "changed=" (behindRecap stdout))
    (h : parseUnsigned 32 value = none)
  /-- A number of skipped tasks that is too large to be read. -/
  | skipped {value : List Char} {count : Nat}
    (hmem : value ∈ fieldValues "skipped=" (behindRecap stdout))
    (h : readUnsigned value = some count) (hlarge : 2 ^ 32 ≤ count)

/-- A text that passes the checks, whose counts add up to a multiple of 2³², although a field
behind the recap line is overlooked. -/
structure Misread (stdout : String) : Prop where
  passes : Passes stdout
  counted : readCounts stdout ≠ []
  wraps : 2 ^ 32 ∣ (readCounts stdout).sum
  overlooked : Overlooked stdout

variable {stdout : String}

theorem mem_fieldValues {name : String} {recap : List (List Char)} {value : List Char} :
    value ∈ fieldValues name recap ↔
      ∃ line ∈ recap, ∃ field ∈ words line, stripPrefix name.toList field = some value := by
  simp only [fieldValues, List.mem_filterMap, List.mem_flatMap]
  constructor
  · rintro ⟨field, ⟨line, hline, hfield⟩, hvalue⟩
    exact ⟨line, hline, field, hfield, hvalue⟩
  · rintro ⟨line, hline, field, hfield, hvalue⟩
    exact ⟨field, ⟨line, hline, hfield⟩, hvalue⟩

/-! ### The scans -/

theorem recapHasFailures_eq_false : recapHasFailures stdout = false ↔
    ∀ name ∈ ["failed=", "unreachable="], ∀ value ∈ fieldValues name (behindRecap stdout),
      value = ['0'] := by
  simp only [recapHasFailures, List.any_eq_false, Bool.not_eq_true, Option.any_eq_false,
    decide_eq_false_iff_not, not_not, mem_fieldValues]
  constructor
  · rintro h name hname value ⟨line, hline, field, hfield, hvalue⟩
    exact h line hline field hfield name hname value hvalue
  · intro h line hline field hfield name hname value hvalue
    exact h name hname value ⟨line, hline, field, hfield, hvalue⟩

theorem recapHasSkippedTasks_eq_false : recapHasSkippedTasks stdout = false ↔
    ∀ value ∈ fieldValues "skipped=" (behindRecap stdout),
      ∀ count, parseUnsigned 32 value = some count → count = 0 := by
  simp only [recapHasSkippedTasks, List.any_eq_false, Bool.not_eq_true, Option.any_eq_false,
    decide_eq_false_iff_not, mem_fieldValues, Option.bind_eq_some_iff, Nat.not_lt, gt_iff_lt,
    Nat.le_zero]
  constructor
  · rintro h value ⟨line, hline, field, hfield, hvalue⟩ count hcount
    exact h line hline field hfield count ⟨value, hvalue, hcount⟩
  · rintro h line hline field hfield count ⟨value, hvalue, hcount⟩
    exact h value ⟨line, hline, field, hfield, hvalue⟩ count hcount

theorem anyLineStarts_eq_false {start : String} : anyLineStarts start stdout = false ↔
    ∀ line ∈ lines stdout.toList, ¬ start.toList <+: line.dropWhile isWhitespace := by
  simp only [anyLineStarts, List.any_eq_false, ← isSome_stripPrefix]

theorem recapChangeCount_eq : recapChangeCount stdout =
    if readCounts stdout = [] then none else some ((readCounts stdout).sum % 2 ^ 32) := by
  rw [recapChangeCount, readCounts, fieldValues, List.filterMap_filterMap]

/-- The decision is made where a text passes the checks and its counts add up to a multiple of
2³². -/
theorem reconciliationDecision_eq_completed :
    reconciliationDecision stdout = .completed ↔
      Passes stdout ∧ readCounts stdout ≠ [] ∧ 2 ^ 32 ∣ (readCounts stdout).sum := by
  rw [reconciliationDecision, recapChangeCount_eq]
  split
  · rename_i hstop
    refine iff_of_false ReconciliationDecision.noConfusion ?_
    rintro ⟨⟨recap, failures, skippedTasks, skipping⟩, -⟩
    simp [recap, failures, skippedTasks, skipping] at hstop
  · rename_i hgo
    have hpasses : Passes stdout := by
      simp only [Bool.or_eq_true, not_or, Bool.not_eq_true, Bool.not_eq_false'] at hgo
      exact ⟨hgo.1.1.1, hgo.1.1.2, hgo.1.2, hgo.2⟩
    by_cases hnone : readCounts stdout = []
    · rw [if_pos hnone]
      exact iff_of_false ReconciliationDecision.noConfusion fun h => h.2.1 hnone
    · rw [if_neg hnone]
      cases hmod : (readCounts stdout).sum % 2 ^ 32 with
      | zero => exact iff_of_true rfl ⟨hpasses, hnone, Nat.dvd_of_mod_eq_zero hmod⟩
      | succ n =>
        refine iff_of_false ReconciliationDecision.noConfusion fun h => ?_
        rw [Nat.mod_eq_zero_of_dvd h.2.2] at hmod
        cases hmod

/-! ### What the checks leave open -/

/-- A line with the mark is a line of a text with the mark. -/
theorem exists_recap_line (h : containsText playRecap stdout.toList = true) :
    ∃ line ∈ lines stdout.toList, playRecap <:+: line :=
  (infix_iff_lines (by decide) (by decide) (by decide) _).mp (containsText_iff.mp h)

/-- Of a text that passes the checks, the counts behind the recap line and the numbers of skipped
tasks are left to be judged. -/
theorem Passes.finished_iff (h : Passes stdout) :
    Finished stdout ↔
      (∀ value ∈ fieldValues "changed=" (behindRecap stdout), readUnsigned value = some 0) ∧
      ∀ value ∈ fieldValues "skipped=" (behindRecap stdout),
        ∀ count, readUnsigned value = some count → count = 0 := by
  have hfailures := recapHasFailures_eq_false.mp h.failures
  refine ⟨fun hfinished => ⟨hfinished.changed, hfinished.skipped⟩, fun ⟨changed, skipped⟩ => ?_⟩
  exact
    { recap := exists_recap_line h.recap
      changed
      failed := hfailures _ (by simp)
      unreachable := hfailures _ (by simp)
      skipped
      skipping := anyLineStarts_eq_false.mp h.skipping }

/-- They are as they should be unless a field is overlooked. -/
theorem Passes.finished_iff_overlooked (h : Passes stdout) :
    Finished stdout ↔ ¬Overlooked stdout := by
  rw [h.finished_iff]
  constructor
  · rintro ⟨changed, skipped⟩ (⟨hmem, hcount, hpos⟩ | ⟨hmem, hnone⟩ | ⟨hmem, hcount, hlarge⟩)
    · have hread := (parseUnsigned_eq_some.mp hcount).1
      rw [changed _ hmem, Option.some_inj] at hread
      omega
    · exact absurd (parseUnsigned_eq_none.mp hnone 0 (changed _ hmem)) (by decide)
    · rw [skipped _ hmem _ hcount] at hlarge
      exact absurd hlarge (by decide)
  · intro hnot
    refine ⟨fun value hmem => ?_, fun value hmem count hcount => ?_⟩
    · cases hparse : parseUnsigned 32 value with
      | none => exact absurd (.unreadable hmem hparse) hnot
      | some count =>
        obtain rfl | hpos := Nat.eq_zero_or_pos count
        · exact (parseUnsigned_eq_some.mp hparse).1
        · exact absurd (.count hmem hparse hpos) hnot
    · by_cases hlarge : 2 ^ 32 ≤ count
      · exact absurd (.skipped hmem hcount hlarge) hnot
      · exact recapHasSkippedTasks_eq_false.mp h.skippedTasks value hmem count
          (parseUnsigned_eq_some.mpr ⟨hcount, Nat.not_le.mp hlarge⟩)

/-- **An interrupted run is declared finished only where the recap says so, on every text but the
ones that are misread.** -/
theorem completed_finished_iff (stdout : String) :
    (reconciliationDecision stdout = .completed → Finished stdout) ↔ ¬Misread stdout := by
  rw [reconciliationDecision_eq_completed]
  constructor
  · rintro himp ⟨passes, counted, wraps, overlooked⟩
    exact passes.finished_iff_overlooked.mp (himp ⟨passes, counted, wraps⟩) overlooked
  · rintro hnot ⟨passes, counted, wraps⟩
    exact passes.finished_iff_overlooked.mpr fun overlooked =>
      hnot ⟨passes, counted, wraps, overlooked⟩

/-- Two hosts whose counts add up to 2³². -/
def wrappingRecap : String :=
  "PLAY RECAP\na : changed=2147483648 failed=0\nb : changed=2147483648 failed=0"

/-- The sum wraps around, and all these changes count for none. -/
theorem wrappingRecap_completed :
    reconciliationDecision wrappingRecap = .completed ∧ ¬Finished wrappingRecap := by
  have hcompleted : reconciliationDecision wrappingRecap = .completed := by decide +kernel
  refine ⟨hcompleted, fun hfinished => ?_⟩
  have hvalues : "2147483648".toList ∈ fieldValues "changed=" (behindRecap wrappingRecap) := by
    decide +kernel
  have hread : readUnsigned "2147483648".toList = some 2147483648 := by decide +kernel
  exact absurd (hfinished.changed _ hvalues) (by rw [hread]; decide)

end Lxcup.Worker
