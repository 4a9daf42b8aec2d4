import Lxcup.Lib.Sections
import Lxcup.Worker.PlaybookOutput

/-!
# The results of the tasks

The output of a playbook names each task in a header line, and the lines behind it say how the task
went on every host.  `finished_task_results` goes over the lines once, with the task whose results
are being read: it pushes a result where the next header comes, and once more at the end.

What it returns is said without the pass: the output is in sections, one for every header, and a
task has a result if its section has a line with an outcome.

## Main definitions

* `IsHeader`, `IsOutcome`, `IsChange` — what a line says.
* `TaskSections`, `TaskSections.results` — the output in sections, and what they say.

## Main results

* `taskHeaderName_eq_some` — which lines are headers.
* `foldl_updateTaskResult` — what is known of a task after its section.
* `finishedTaskResults_eq_results` — the pass returns what the sections say.
-/

namespace Lxcup.Worker

open Lxcup.Lib Lxcup.Agent Lxcup.Apt

/-! ### The lines -/

/-- The line without its indentation. -/
def trimStart (line : List Char) : List Char := line.dropWhile isWhitespace

/-- What the header of a task begins with. -/
def headerMarks : List String := ["TASK [", "RUNNING HANDLER ["]

/-- What the line of an outcome begins with. -/
def outcomeMarks : List String := ["changed: [", "ok: [", "fatal: [", "unreachable: ["]

/-- The header of a task, whose name ends at the first closing bracket. -/
def IsHeader (line name : List Char) : Prop :=
  ∃ mark ∈ headerMarks, ∃ rest, trimStart line = mark.toList ++ (name ++ ']' :: rest) ∧ ']' ∉ name

/-- The outcome of the task on a host. -/
def IsOutcome (line : List Char) : Prop :=
  ∃ mark ∈ outcomeMarks, mark.toList <+: trimStart line

/-- The task has changed a host. -/
def IsChange (line : List Char) : Prop := "changed: [".toList <+: trimStart line

instance (line : List Char) : Decidable (IsOutcome line) := List.decidableBEx _ _

instance (line : List Char) : Decidable (IsChange line) :=
  inferInstanceAs (Decidable ("changed: [".toList <+: trimStart line))

/-- The two marks of a header exclude each other. -/
theorem task_notPrefix_handler (cs : List Char) :
    ¬ "TASK [".toList <+: "RUNNING HANDLER [".toList ++ cs := by
  rintro ⟨rest, h⟩
  exact absurd (List.cons.inj h).1 (by decide)

/-- The name of a header is read. -/
theorem taskHeaderName_eq_some {line name : List Char} :
    taskHeaderName line = some name ↔ IsHeader line name := by
  simp only [taskHeaderName, Option.bind_eq_bind, Option.bind_eq_some_iff, Option.or_eq_some_iff,
    stripPrefix_eq_some, stripPrefix_eq_none, Prod.exists, splitOnce_eq_some, pure,
    Option.some.injEq]
  constructor
  · rintro ⟨header, htask | ⟨-, hhandler⟩, part, rest, ⟨rfl, hname⟩, rfl⟩
    · exact ⟨"TASK [", by decide, rest, htask, hname⟩
    · exact ⟨"RUNNING HANDLER [", by decide, rest, hhandler, hname⟩
  · rintro ⟨mark, hmark, rest, hline, hname⟩
    refine ⟨name ++ ']' :: rest, ?_, name, rest, ⟨rfl, hname⟩, rfl⟩
    simp only [headerMarks, List.mem_cons, List.not_mem_nil, or_false] at hmark
    obtain rfl | rfl := hmark
    · exact .inl hline
    · refine .inr ⟨?_, hline⟩
      rw [← trimStart, hline]
      exact task_notPrefix_handler _

/-- A line with an outcome says that a host was changed, or that the task has finished. -/
theorem isOutcome_iff {line : List Char} :
    IsOutcome line ↔ IsChange line ∨ isFinishedOutcome (trimStart line) = true := by
  simp only [IsOutcome, IsChange, outcomeMarks, isFinishedOutcome, List.exists_mem_cons_iff,
    List.any_cons, List.any_nil, Bool.or_eq_true, isSome_stripPrefix, List.not_mem_nil, false_and,
    exists_false, or_false, Bool.or_false]

/-! ### The sections -/

/-- The output in sections, one for every header. -/
abbrev TaskSections := Sectioning taskHeaderName

/-- The tasks with an outcome in their section, in their order, each with whether it has changed a
host. -/
def TaskSections.results (s : TaskSections) : List (String × Bool) :=
  (s.sections.filter fun task => ∃ line ∈ task.body, IsOutcome line).map fun task =>
    (String.ofList task.label, decide (∃ line ∈ task.body, IsChange line))

/-- Outcomes without a task are passed over. -/
theorem foldl_updateTaskResult_none (body : List (List Char)) :
    body.foldl updateTaskResult none = none := by
  induction body with
  | nil => rfl
  | cons line body ih => rw [List.foldl_cons, updateTaskResult, Option.map_none, ih]

/-- One line of a task. -/
theorem updateTaskResult_some (task : RunningTask) (line : List Char) :
    updateTaskResult (some task) line = some ⟨task.name,
      task.changed || decide (IsChange line), task.finished || decide (IsOutcome line)⟩ := by
  have hchange : (stripPrefix "changed: [".toList (trimStart line)).isSome
      = decide (IsChange line) := by
    rw [Bool.eq_iff_iff, isSome_stripPrefix, decide_eq_true_eq]
    rfl
  have houtcome : decide (IsOutcome line)
      = (decide (IsChange line) || isFinishedOutcome (trimStart line)) := by
    simp [isOutcome_iff]
  rw [updateTaskResult, Option.map_some, Option.some.injEq, ← trimStart]
  dsimp only
  rw [hchange, houtcome]
  cases decide (IsChange line) with
  | true => simp
  | false => cases hfinished : isFinishedOutcome (trimStart line) <;> simp

/-- What is known of a task after some lines. -/
theorem foldl_updateTaskResult (task : RunningTask) (body : List (List Char)) :
    body.foldl updateTaskResult (some task) = some ⟨task.name,
      task.changed || decide (∃ line ∈ body, IsChange line),
      task.finished || decide (∃ line ∈ body, IsOutcome line)⟩ := by
  induction body generalizing task with
  | nil => simp
  | cons line body ih =>
    rw [List.foldl_cons, updateTaskResult_some, ih]
    simp [Bool.or_assoc]

/-- The loop is a sweep over the lines. -/
theorem finishedTasksFrom_eq_sweep (current : Option RunningTask) (ls : List (List Char)) :
    finishedTasksFrom current ls = sweep taskHeaderName (fun name => some ⟨name, false, false⟩)
      updateTaskResult pushFinishedTask current ls := by
  induction ls generalizing current with
  | nil => rfl
  | cons line ls ih =>
    rw [finishedTasksFrom, sweep]
    simp only [ih]
    cases taskHeaderName line with
    | some task => rfl
    | none => rfl

/-- What is pushed for a section. -/
theorem push_section (task : Section taskHeaderName) :
    pushFinishedTask (task.body.foldl updateTaskResult (some ⟨task.label, false, false⟩))
      = if ∃ line ∈ task.body, IsOutcome line then
          [(String.ofList task.label, decide (∃ line ∈ task.body, IsChange line))]
        else [] := by
  rw [foldl_updateTaskResult, pushFinishedTask]
  simp only [Bool.false_or, decide_eq_true_eq]

/-- What is pushed for the sections is what they say. -/
theorem flatMap_push (sections : List (Section taskHeaderName)) :
    (sections.flatMap fun task => if ∃ line ∈ task.body, IsOutcome line then
        [(String.ofList task.label, decide (∃ line ∈ task.body, IsChange line))] else [])
      = (sections.filter fun task => ∃ line ∈ task.body, IsOutcome line).map fun task =>
        (String.ofList task.label, decide (∃ line ∈ task.body, IsChange line)) := by
  induction sections with
  | nil => rfl
  | cons task sections ih =>
    rw [List.flatMap_cons, ih, List.filter_cons]
    by_cases houtcome : ∃ line ∈ task.body, IsOutcome line
    · rw [if_pos houtcome, if_pos (decide_eq_true houtcome), List.map_cons, List.singleton_append]
    · rw [if_neg houtcome, if_neg (by simpa using houtcome), List.nil_append]

/-- The pass over lines in sections. -/
theorem finishedTasksFrom_items (s : TaskSections) :
    finishedTasksFrom none s.items = s.results := by
  rw [finishedTasksFrom_eq_sweep, sweep_items, foldl_updateTaskResult_none, pushFinishedTask,
    List.nil_append]
  simp only [push_section]
  exact flatMap_push s.sections

/-- **The results are those of the tasks with an outcome in their section, in the order of the
headers.**  An output is in sections in exactly one way. -/
theorem finishedTaskResults_eq_results (stdout : String) :
    (∀ line name, taskHeaderName line = some name ↔ IsHeader line name) ∧
      ∃ s : TaskSections, s.items = lines stdout.toList ∧
        (∀ other : TaskSections, other.items = lines stdout.toList → other = s) ∧
        finishedTaskResults stdout = s.results := by
  refine ⟨fun line name => taskHeaderName_eq_some, sectioning taskHeaderName (lines stdout.toList),
    items_sectioning _, ?_, ?_⟩
  · intro other hother
    rw [← hother, sectioning_items]
  · rw [← finishedTasksFrom_items, items_sectioning, finishedTaskResults]

example : finishedTaskResults "ok: [a]\nTASK [one] **\n  changed: [a]\nok: [b]\nTASK [two]\n"
    = [("one", true)] := by decide +kernel

end Lxcup.Worker
