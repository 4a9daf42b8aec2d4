import Mathlib.Data.List.Basic

/-!
# Lists with marked entries

Some entries of a list are marked, each with a label.  The list then is a preamble without marks and
sections after it, each of them a marked entry and the unmarked ones behind it.  A list has only one
such form.

A sweep goes over the list once and carries a state: at a mark it emits what the state is worth and
starts over, at the end it emits once more.  Over the sections this is one fold for each of them.

## Main definitions

* `Section`, `Sectioning` — a section, and a list in sections.
* `sectioning` — the sections of a list.
* `sweep` — one pass over a list.

## Main results

* `items_sectioning` — every list is in sections.
* `sweep_items` — what a sweep emits.
-/

namespace Lxcup.Lib

variable {α β : Type*}

/-- A marked entry with what follows up to the next mark. -/
structure Section (mark : α → Option β) where
  head : α
  label : β
  body : List α
  marked : mark head = some label
  unmarked : ∀ a ∈ body, mark a = none

/-- A list in sections. -/
structure Sectioning (mark : α → Option β) where
  preamble : List α
  unmarked : ∀ a ∈ preamble, mark a = none
  sections : List (Section mark)

variable {mark : α → Option β}

/-- The entries of a section. -/
def Section.items (part : Section mark) : List α := part.head :: part.body

/-- The list itself. -/
def Sectioning.items (s : Sectioning mark) : List α :=
  s.preamble ++ s.sections.flatMap Section.items

/-- The list with an entry before it, which begins a section or joins the preamble. -/
def Sectioning.cons (a : α) (s : Sectioning mark) : Sectioning mark :=
  match h : mark a with
  | some label => ⟨[], by simp, ⟨a, label, s.preamble, h, s.unmarked⟩ :: s.sections⟩
  | none => ⟨a :: s.preamble, List.forall_mem_cons.mpr ⟨h, s.unmarked⟩, s.sections⟩

/-- The sections of a list. -/
def sectioning (mark : α → Option β) : List α → Sectioning mark
  | [] => ⟨[], by simp, []⟩
  | a :: as => (sectioning mark as).cons a

theorem Sectioning.cons_of_some {a : α} {label : β} (h : mark a = some label)
    (s : Sectioning mark) :
    s.cons a = ⟨[], by simp, ⟨a, label, s.preamble, h, s.unmarked⟩ :: s.sections⟩ := by
  unfold cons
  split
  · rename_i other hother
    obtain rfl := Option.some.inj (h.symm.trans hother)
    rfl
  · rename_i hnone
    rw [h] at hnone
    cases hnone

theorem Sectioning.cons_of_none {a : α} (h : mark a = none) (s : Sectioning mark) :
    s.cons a
      = ⟨a :: s.preamble, List.forall_mem_cons.mpr ⟨h, s.unmarked⟩, s.sections⟩ := by
  unfold cons
  split
  · rename_i other hother
    rw [h] at hother
    cases hother
  · rfl

@[simp] theorem Sectioning.items_cons (a : α) (s : Sectioning mark) :
    (s.cons a).items = a :: s.items := by
  cases h : mark a with
  | some label => rw [cons_of_some h]; rfl
  | none => rw [cons_of_none h]; rfl

/-- Every list is in sections. -/
@[simp] theorem items_sectioning (as : List α) : (sectioning mark as).items = as := by
  induction as with
  | nil => rfl
  | cons a as ih => rw [sectioning, Sectioning.items_cons, ih]

/-- The first entry of a list in sections can be taken off. -/
theorem Sectioning.exists_cons {s : Sectioning mark} {a : α} {as : List α}
    (h : s.items = a :: as) : ∃ rest : Sectioning mark, s = rest.cons a ∧ rest.items = as := by
  obtain ⟨preamble, unmarked, sections⟩ := s
  cases preamble with
  | cons b preamble =>
    obtain ⟨rfl, hrest⟩ := List.cons.inj h
    obtain ⟨hnone, hunmarked⟩ := List.forall_mem_cons.mp unmarked
    refine ⟨⟨preamble, hunmarked, sections⟩, ?_, hrest⟩
    rw [cons_of_none hnone]
  | nil =>
    cases sections with
    | nil => cases h
    | cons part sections =>
      obtain ⟨rfl, hrest⟩ := List.cons.inj h
      refine ⟨⟨part.body, part.unmarked, sections⟩, ?_, hrest⟩
      rw [cons_of_some part.marked]

/-- And in one way only. -/
theorem sectioning_items (s : Sectioning mark) : sectioning mark s.items = s := by
  generalize hitems : s.items = as
  induction as generalizing s with
  | nil =>
    obtain ⟨preamble, unmarked, sections⟩ := s
    obtain ⟨rfl, hsections⟩ := List.append_eq_nil_iff.mp hitems
    cases sections with
    | nil => rfl
    | cons part sections => cases hsections
  | cons a as ih =>
    obtain ⟨rest, rfl, hrest⟩ := Sectioning.exists_cons hitems
    rw [sectioning, ih rest hrest]

/-! ### Sweeps -/

variable {σ γ : Type*}

/-- One pass over a list. -/
def sweep (mark : α → Option β) (start : β → σ) (step : σ → α → σ) (emit : σ → List γ) :
    σ → List α → List γ
  | state, [] => emit state
  | state, a :: as =>
    match mark a with
    | some label => emit state ++ sweep mark start step emit (start label) as
    | none => sweep mark start step emit (step state a) as

variable (start : β → σ) (step : σ → α → σ) (emit : σ → List γ)

/-- Before the first mark the state is stepped on. -/
theorem sweep_append {front : List α} (h : ∀ a ∈ front, mark a = none) (state : σ)
    (as : List α) : sweep mark start step emit state (front ++ as)
      = sweep mark start step emit (front.foldl step state) as := by
  induction front generalizing state with
  | nil => rfl
  | cons a front ih =>
    obtain ⟨ha, hfront⟩ := List.forall_mem_cons.mp h
    rw [List.cons_append, sweep, ha, List.foldl_cons]
    exact ih hfront (step state a)

/-- A sweep over sections only. -/
theorem sweep_flatMap (state : σ) (sections : List (Section mark)) :
    sweep mark start step emit state (sections.flatMap Section.items) = emit state ++
      sections.flatMap fun part => emit (part.body.foldl step (start part.label)) := by
  induction sections generalizing state with
  | nil => simp [sweep]
  | cons part sections ih =>
    rw [List.flatMap_cons, Section.items, List.cons_append, sweep, part.marked,
      List.flatMap_cons, ← ih]
    dsimp only
    rw [sweep_append start step emit part.unmarked]

/-- **A sweep emits what the preamble is worth, and then every section.** -/
theorem sweep_items (state : σ) (s : Sectioning mark) :
    sweep mark start step emit state s.items = emit (s.preamble.foldl step state) ++
      s.sections.flatMap fun part => emit (part.body.foldl step (start part.label)) := by
  rw [Sectioning.items, sweep_append start step emit s.unmarked, sweep_flatMap]

end Lxcup.Lib
