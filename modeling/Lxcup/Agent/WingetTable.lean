import Lxcup.Agent.PackageInventory
import Lxcup.Apt.Texts
import Lxcup.Lib.Columns
import Lxcup.Lib.Slices

/-!
# Package tables of Windows hosts

`parse_windows_packages` reads the table that `winget` prints for a terminal.  Its columns are set
with blanks, so a line is cut where two blanks or more follow each other; single blanks belong to a
column.  The cut is made at byte offsets: the loop counts the bytes of the white space that it has
passed, and takes that number off the index of the character it is at.  White space has one to three
bytes a character, and a slice that is not at a boundary between characters panics.

## Main definitions

* `splitWingetColumns` — the columns of a line, with no value where a slice panics.
* `wingetLayout` — white space of two bytes ends a column.

## Main results

* `columnsFrom_of_scan` — the loop, from any character on.
* `splitWingetColumns_maximal` — no slice panics, and the columns are the maximal ones.
-/

namespace Lxcup.Agent

open Lxcup.Lib Lxcup.Apt

/-! ### The columns of a line -/

/-- What `split_winget_columns` pushes behind the loop. -/
def lastWingetColumn (line : List Char) : Option ℕ → Option (List (List Char))
  | none => some []
  | some columnStart => (sliceFrom columnStart line).map fun column => [trim column]

/-- The loop of `split_winget_columns`, with the column that is open and the bytes of white space in
front of the current character. -/
def splitWingetColumnsFrom (line : List Char) :
    Option ℕ → ℕ → List (ℕ × Char) → Option (List (List Char))
  | start, _, [] => lastWingetColumn line start
  | start, whitespace, (index, character) :: rest =>
    if isWhitespace character then
      let whitespace := whitespace + character.utf8Size
      if whitespace ≥ 2 then
        -- `start.take()`
        match start with
        | some columnStart => do
          let columnEnd ← checkedSub index (whitespace - character.utf8Size)
          let column ← slice columnStart columnEnd line
          let columns ← splitWingetColumnsFrom line none whitespace rest
          return trim column :: columns
        | none => splitWingetColumnsFrom line none whitespace rest
      else splitWingetColumnsFrom line start whitespace rest
    else splitWingetColumnsFrom line (start.or (some index)) 0 rest

/-- `split_winget_columns`. -/
def splitWingetColumns (line : List Char) : Option (List (List Char)) :=
  splitWingetColumnsFrom line none 0 (charIndices 0 line)

/-! ### The table -/

/-! ### The slices -/

/-- White space of two bytes ends a column. -/
def wingetLayout : Layout Char := ⟨isWhitespace, Char.utf8Size, 2, by decide⟩

variable {line : List Char} {n : ℕ}

/-- The characters from a position on. -/
theorem charIndices_drop {c : Char} {rest : List Char} (h : line.drop n = c :: rest) :
    (line)[n]? = some c ∧ line.drop (n + 1) = rest ∧
      byteSize (line.take (n + 1)) = byteSize (line.take n) + c.utf8Size := by
  have hget : (line)[n]? = some c := by rw [← List.head?_drop, h, List.head?_cons]
  have hrest : line.drop (n + 1) = rest := by rw [← List.tail_drop, h, List.tail_cons]
  exact ⟨hget, hrest, wingetLayout.size_take_succ hget⟩

/-- Nothing is trimmed off a column. -/
theorem trim_text {span : Span} (h : wingetLayout.IsColumn line span) :
    trim (span.text line) = span.text line := trim_eq_self h.head h.getLast

/-! ### The loop -/

/-- What the loop returns where the columns from a position on are these. -/
def ReturnsColumns (line : List Char) (low : ℕ) (columns : Option (List (List Char))) : Prop :=
  ∃ spans, wingetLayout.ColumnsFrom line low spans ∧
    columns = some (spans.map fun span => span.text line)

/-- The end of the line, with a column that is open. -/
theorem returns_finish {first last : ℕ} (h : wingetLayout.Open line first last line.length) :
    ReturnsColumns line first (lastWingetColumn line (some (byteSize (line.take first)))) := by
  have hmaximal := h.finish
  have hcolumns := (Layout.ColumnsFrom.nil le_rfl).skip h.lt h.blanks
  refine ⟨_, hcolumns.cons hmaximal, ?_⟩
  have hcut := Layout.text_append_drop line ⟨(first, last), h.le⟩
  have hne : Span.text line ⟨(first, last), h.le⟩ ≠ [] := by
    intro hnil
    have hlength := congrArg List.length hnil
    simp only [Span.text, List.length_drop, List.length_take, List.length_nil] at hlength
    have hle := h.le
    have hlt := h.lt
    omega
  have hblanks : ∀ c ∈ line.drop (last + 1), isWhitespace c = true := by
    intro c hc
    obtain ⟨i, hi⟩ := List.mem_iff_getElem?.mp hc
    rw [List.getElem?_drop] at hi
    obtain ⟨a, ha, hblank⟩ := h.blanks (last + 1 + i) (by omega) (List.getElem?_eq_some_iff.mp hi).1
    obtain rfl := Option.some_inj.mp (hi.symm.trans ha)
    exact hblank
  rw [lastWingetColumn, sliceFrom_take, Option.map_some, ← hcut,
    trim_append_blanks h.column.head h.column.getLast hne hblanks]
  rfl

/-- One more column is returned, before the others. -/
theorem returns_close {first last : ℕ} {columns : Option (List (List Char))}
    (h : wingetLayout.Open line first last n) (hblank : wingetLayout.BlankAt line n)
    (hmaximal : Maximal (wingetLayout.IsColumn line) ⟨(first, last), h.le⟩)
    (hcolumns : ReturnsColumns line (n + 1) columns) :
    ReturnsColumns line first
      ((slice (byteSize (line.take first)) (byteSize (line.take (last + 1))) line).bind
        fun column => columns.bind fun columns => some (trim column :: columns)) := by
  obtain ⟨spans, hfrom, rfl⟩ := hcolumns
  have hbehind : wingetLayout.ColumnsFrom line (last + 1) spans := by
    refine hfrom.skip (Nat.succ_le_succ h.lt.le) fun i hi hn => ?_
    rcases Nat.lt_or_ge i n with hlt | hge
    · exact h.blanks i hi hlt
    · obtain rfl : i = n := by omega
      exact hblank
  refine ⟨_, hbehind.cons hmaximal, ?_⟩
  have htext : (line.take (last + 1)).drop first = Span.text line ⟨(first, last), h.le⟩ := rfl
  rw [slice_take (Nat.le_succ_of_le h.le), Option.bind_some, Option.bind_some, htext,
    trim_text h.column]
  rfl

/-- **The loop returns the columns from any character on**, with or without a column that is open
there. -/
theorem columnsFrom_of_scan {rest : List Char} (h : line.drop n = rest) (whitespace : ℕ) :
    (wingetLayout.Opens line n → ReturnsColumns line n
      (splitWingetColumnsFrom line none whitespace (charIndices (byteSize (line.take n)) rest))) ∧
    ∀ first last, wingetLayout.Open line first last n →
      byteSize (line.take (last + 1)) + whitespace = byteSize (line.take n) →
        ReturnsColumns line first (splitWingetColumnsFrom line (some (byteSize (line.take first)))
          whitespace (charIndices (byteSize (line.take n)) rest)) := by
  induction rest generalizing n whitespace with
  | nil =>
    have hend : line.length ≤ n := List.drop_eq_nil_iff.mp h
    refine ⟨fun _ => ⟨[], .nil hend, rfl⟩, fun first last hopen _ => ?_⟩
    obtain rfl : n = line.length := le_antisymm hopen.le_length hend
    exact returns_finish hopen
  | cons c rest ih =>
    obtain ⟨hget, hrest, hsize⟩ := charIndices_drop h
    rw [charIndices, ← hsize]
    cases hc : isWhitespace c with
    | true =>
      have hblank : wingetLayout.BlankAt line n := ⟨c, hget, hc⟩
      constructor
      · intro hopens
        obtain ⟨spans, hfrom, hcolumns⟩ :=
          (ih hrest (whitespace + c.utf8Size)).1 (hopens.blank hblank)
        refine ⟨spans, hfrom.skip (Nat.le_succ n) fun i hi hn => ?_, ?_⟩
        · obtain rfl : i = n := by omega
          exact hblank
        · rw [splitWingetColumnsFrom, if_pos hc]
          dsimp only
          rw [hcolumns, ite_self]
      · intro first last hopen hbytes
        rw [splitWingetColumnsFrom, if_pos hc]
        dsimp only
        by_cases hwide : whitespace + c.utf8Size ≥ 2
        · obtain ⟨hmaximal, hopens⟩ := hopen.close hblank (show byteSize (line.take (last + 1)) + 2
            ≤ byteSize (line.take (n + 1)) by omega)
          -- the white space in front of the character is taken off
          have hend : checkedSub (byteSize (line.take n)) (whitespace + c.utf8Size - c.utf8Size)
              = some (byteSize (line.take (last + 1))) := by
            rw [checkedSub, if_pos (by omega), Option.some.injEq]
            omega
          rw [if_pos hwide, hend]
          exact returns_close hopen hblank hmaximal
            ((ih hrest (whitespace + c.utf8Size)).1 hopens)
        · rw [if_neg hwide]
          refine (ih hrest (whitespace + c.utf8Size)).2 first last ?_ (by omega)
          exact hopen.blank hblank (show byteSize (line.take (n + 1))
            < byteSize (line.take (last + 1)) + 2 by omega)
    | false =>
      have hink : wingetLayout.InkAt line n := ⟨c, hget, hc⟩
      have hnotBlank : ¬ isWhitespace c = true := by simp [hc]
      constructor
      · intro hopens
        rw [splitWingetColumnsFrom, if_neg hnotBlank]
        exact (ih hrest 0).2 n n (.start hopens hink) rfl
      · intro first last hopen _
        rw [splitWingetColumnsFrom, if_neg hnotBlank]
        exact (ih hrest 0).2 first n (hopen.ink hink) rfl

/-- The columns of a line are all its maximal ones. -/
theorem returns_splitWingetColumns (line : List Char) :
    ReturnsColumns line 0 (splitWingetColumns line) :=
  (columnsFrom_of_scan rfl 0).1 Layout.opens_zero

/-- **No slice panics, and the columns of a line are its maximal segments in their order.**  Without
the white space they are the line. -/
theorem splitWingetColumns_maximal (line : List Char) :
    ∃ spans : List Span, splitWingetColumns line = some (spans.map fun span => span.text line) ∧
      (∀ span, span ∈ spans ↔ Maximal (wingetLayout.IsColumn line) span) ∧
      (spans.Pairwise fun s t => s.snd < t.fst) ∧
      (spans.flatMap fun span => span.text line).filter (fun c => !isWhitespace c)
        = line.filter fun c => !isWhitespace c := by
  obtain ⟨spans, hfrom, hcolumns⟩ := returns_splitWingetColumns line
  exact ⟨spans, hcolumns, hfrom.mem_iff_maximal, hfrom.ordered, hfrom.ink⟩

example : splitWingetColumns " 7-Zip (x64)  7zip.7zip\u3000 24.09 ".toList
    = some ["7-Zip (x64)".toList, "7zip.7zip".toList, "24.09".toList] := by decide +kernel

end Lxcup.Agent
