import Mathlib.Order.Interval.Basic
import Mathlib.Order.Minimal

/-!
# The columns of a line

A line has blank entries and others, the ink.  Narrow gaps between the ink belong to a column, and a
wide one ends it: a column is a span from ink to ink in which no run of blanks is wide.  The columns
of a line are the maximal ones.

Two columns that share a position make up one column, so the maximal ones are apart, and some of
them that cover all the ink are all there are.  A scan over the line, which keeps the column that is
open, finds them by three rules: ink extends the open column, a narrow gap leaves it open, and a
wide gap ends it.

## Main definitions

* `Layout`, `Layout.IsColumn` — what is blank and how wide it is; the columns.
* `Layout.Opens`, `Layout.Closes` — a position where a column cannot reach any further.
* `Layout.Open` — what a scan knows of the column it is in.
* `Layout.ColumnsFrom` — the columns from a position on.

## Main results

* `Layout.IsColumn.maximal` — a column that can reach no further is maximal.
* `Layout.maximal_eq` — maximal columns that share a position are the same.
* `Layout.Open.start`, `Layout.Open.ink`, `Layout.Open.blank`, `Layout.Open.close` — the scan.
* `Layout.ColumnsFrom.mem_iff_maximal`, `Layout.ColumnsFrom.ink` — what is found from the beginning
  on: the maximal columns, and all the ink.
-/

namespace Lxcup.Lib

/-- Which entries are blank, how wide an entry is, and from which width on a gap is wide. -/
structure Layout (α : Type*) where
  blank : α → Bool
  width : α → ℕ
  wide : ℕ
  wide_pos : 0 < wide

/-- From one position to another. -/
abbrev Span := NonemptyInterval ℕ

variable {α : Type*}

/-- What a line has in a span. -/
def Span.text (row : List α) (span : Span) : List α := (row.take (span.snd + 1)).drop span.fst

namespace Layout

variable (layout : Layout α) (row : List α)

/-- There is a blank. -/
def BlankAt (i : ℕ) : Prop := ∃ a, row[i]? = some a ∧ layout.blank a = true

/-- There is ink. -/
def InkAt (i : ℕ) : Prop := ∃ a, row[i]? = some a ∧ layout.blank a = false

/-- How wide some entries are. -/
def size (as : List α) : ℕ := as.foldr (fun a n => layout.width a + n) 0

/-- A span of blanks. -/
def IsGap (gap : Span) : Prop := ∀ i, gap.fst ≤ i → i ≤ gap.snd → layout.BlankAt row i

/-- A span from ink to ink without a wide gap in it. -/
structure IsColumn (span : Span) : Prop where
  first : layout.InkAt row span.fst
  last : layout.InkAt row span.snd
  gaps : ∀ gap ≤ span, layout.IsGap row gap → layout.size (gap.text row) < layout.wide

/-- A gap that ends a column. -/
def IsWideGap (gap : Span) : Prop :=
  layout.IsGap row gap ∧ layout.wide ≤ layout.size (gap.text row)

/-- A wide gap stands before the position, if there is ink before it. -/
def Opens (n : ℕ) : Prop :=
  ∀ i < n, layout.InkAt row i → ∃ gap, layout.IsWideGap row gap ∧ i < gap.fst ∧ gap.snd < n

/-- A wide gap stands behind the position, if there is ink behind it. -/
def Closes (n : ℕ) : Prop :=
  ∀ i, n < i → layout.InkAt row i → ∃ gap, layout.IsWideGap row gap ∧ n < gap.fst ∧ gap.snd < i

variable {layout row}

theorem InkAt.not_blankAt {i : ℕ} (h : layout.InkAt row i) : ¬ layout.BlankAt row i := by
  rintro ⟨a, ha, hblank⟩
  obtain ⟨b, hb, hink⟩ := h
  obtain rfl := Option.some_inj.mp (ha.symm.trans hb)
  rw [hblank] at hink
  cases hink

theorem InkAt.lt {i : ℕ} (h : layout.InkAt row i) : i < row.length := by
  obtain ⟨a, ha, -⟩ := h
  exact (List.getElem?_eq_some_iff.mp ha).1

/-! ### Widths -/

section Widths

variable (layout row)

theorem size_append (as bs : List α) :
    layout.size (as ++ bs) = layout.size as + layout.size bs := by
  induction as with
  | nil => exact (Nat.zero_add _).symm
  | cons a as ih =>
    show layout.width a + layout.size (as ++ bs) = layout.width a + layout.size as + _
    rw [ih, Nat.add_assoc]

/-- What stands between two positions. -/
theorem size_take {m n : ℕ} (h : m ≤ n) : layout.size (row.take m)
    + layout.size ((row.take n).drop m) = layout.size (row.take n) := by
  have htake : (row.take n).take m = row.take m := by rw [List.take_take, min_eq_left h]
  rw [← htake, ← size_append, List.take_append_drop]

theorem size_take_mono {m n : ℕ} (h : m ≤ n) :
    layout.size (row.take m) ≤ layout.size (row.take n) := by
  have hsize := layout.size_take row h
  omega

/-- How wide a span is, by what stands before its ends. -/
theorem size_text (span : Span) : layout.size (row.take span.fst) + layout.size (span.text row)
    = layout.size (row.take (span.snd + 1)) :=
  layout.size_take row (Nat.le_succ_of_le span.fst_le_snd)

variable {row}

theorem size_take_succ {n : ℕ} {a : α} (h : row[n]? = some a) :
    layout.size (row.take (n + 1)) = layout.size (row.take n) + layout.width a := by
  rw [List.take_add_one, h, size_append]
  simp [size]

end Widths

/-! ### Maximal columns -/

/-- A column that can reach no further. -/
theorem IsColumn.maximal {span : Span} (h : layout.IsColumn row span)
    (hopens : layout.Opens row span.fst) (hcloses : layout.Closes row span.snd) :
    Maximal (layout.IsColumn row) span := by
  refine ⟨h, fun other hother hle => ?_⟩
  obtain ⟨hfst, hsnd⟩ := NonemptyInterval.le_def.mp hle
  have hspan := span.fst_le_snd
  refine NonemptyInterval.le_def.mpr ⟨?_, ?_⟩
  · by_contra hlt
    obtain ⟨gap, ⟨hgap, hwide⟩, hbefore, hbehind⟩ := hopens other.fst (by omega) hother.first
    have hnarrow := hother.gaps gap (NonemptyInterval.le_def.mpr ⟨by omega, by omega⟩) hgap
    omega
  · by_contra hlt
    obtain ⟨gap, ⟨hgap, hwide⟩, hbefore, hbehind⟩ := hcloses other.snd (by omega) hother.last
    have hnarrow := hother.gaps gap (NonemptyInterval.le_def.mpr ⟨by omega, by omega⟩) hgap
    omega

/-- A column and one that begins in it make up a column. -/
theorem IsColumn.join {s t : Span} (hs : layout.IsColumn row s) (ht : layout.IsColumn row t)
    (hfst : s.fst ≤ t.fst) (hmid : t.fst ≤ s.snd) :
    layout.IsColumn row ⟨(s.fst, t.snd), hfst.trans t.fst_le_snd⟩ := by
  refine ⟨hs.first, ht.last, fun gap hle hgap => ?_⟩
  obtain ⟨hbegin, hend⟩ := NonemptyInterval.le_def.mp hle
  dsimp only at hbegin hend
  -- the ink where `t` begins is on one side of the gap
  rcases Nat.lt_or_ge gap.snd t.fst with hleft | hright
  · exact hs.gaps gap (NonemptyInterval.le_def.mpr ⟨hbegin, by omega⟩) hgap
  · rcases Nat.lt_or_ge t.fst gap.fst with hafter | hinside
    · exact ht.gaps gap (NonemptyInterval.le_def.mpr ⟨by omega, hend⟩) hgap
    · exact absurd (hgap t.fst hinside hright) ht.first.not_blankAt

/-- Maximal columns that share a position are the same. -/
theorem maximal_eq {s t : Span} (hs : Maximal (layout.IsColumn row) s)
    (ht : Maximal (layout.IsColumn row) t) (hfst : s.fst ≤ t.fst) (hmid : t.fst ≤ s.snd) :
    s = t := by
  rcases Nat.le_total t.snd s.snd with hsnd | hsnd
  · exact (ht.eq_of_le hs.prop (NonemptyInterval.le_def.mpr ⟨hfst, hsnd⟩)).symm
  · have hjoin := hs.prop.join ht.prop hfst hmid
    have hsjoin := hs.eq_of_le hjoin (NonemptyInterval.le_def.mpr ⟨le_rfl, hsnd⟩)
    have htjoin := ht.eq_of_le hjoin (NonemptyInterval.le_def.mpr ⟨hfst, le_rfl⟩)
    exact hsjoin.trans htjoin.symm

/-! ### The scan -/

variable (layout row)

/-- After `n` entries a column is open that began at `first` and has its last ink at `last`. -/
structure Open (first last n : ℕ) : Prop where
  le : first ≤ last
  lt : last < n
  column : layout.IsColumn row ⟨(first, last), le⟩
  opens : layout.Opens row first
  blanks : ∀ i, last < i → i < n → layout.BlankAt row i
  narrow : layout.size (row.take n) < layout.size (row.take (last + 1)) + layout.wide

variable {layout row} {first last n : ℕ}

theorem opens_zero : layout.Opens row 0 := fun i hi => absurd hi (Nat.not_lt_zero i)

/-- A blank where no column is open. -/
theorem Opens.blank (h : layout.Opens row n) (hblank : layout.BlankAt row n) :
    layout.Opens row (n + 1) := by
  intro i hi hink
  have hne : i ≠ n := by
    rintro rfl
    exact hink.not_blankAt hblank
  obtain ⟨gap, hgap, hbefore, hbehind⟩ := h i (by omega) hink
  exact ⟨gap, hgap, hbefore, by omega⟩

/-- Ink begins a column. -/
theorem Open.start (h : layout.Opens row n) (hink : layout.InkAt row n) :
    layout.Open row n n (n + 1) where
  le := le_rfl
  lt := Nat.lt_succ_self n
  column := by
    refine ⟨hink, hink, fun gap hle hgap => ?_⟩
    obtain ⟨hbegin, hend⟩ := NonemptyInterval.le_def.mp hle
    exact absurd (hgap n (gap.fst_le_snd.trans hend) (hbegin.trans gap.fst_le_snd))
      hink.not_blankAt
  opens := h
  blanks := fun i hi hn => by omega
  narrow := Nat.lt_add_of_pos_right layout.wide_pos

/-- Ink extends the open column. -/
theorem Open.ink (h : layout.Open row first last n) (hink : layout.InkAt row n) :
    layout.Open row first n (n + 1) where
  le := h.le.trans h.lt.le
  lt := Nat.lt_succ_self n
  column := by
    refine ⟨h.column.first, hink, fun gap hle hgap => ?_⟩
    obtain ⟨hbegin, hend⟩ := NonemptyInterval.le_def.mp hle
    dsimp only at hbegin hend
    have hspan := gap.fst_le_snd
    have hbefore : gap.snd ≠ n := by
      intro heq
      exact hink.not_blankAt (hgap n (by omega) (by omega))
    rcases Nat.lt_or_ge gap.snd last with hinside | hbehind
    · exact h.column.gaps gap (NonemptyInterval.le_def.mpr ⟨hbegin, hinside.le⟩) hgap
    · rcases Nat.lt_or_ge last gap.fst with hafter | hover
      · -- the gap lies behind the last ink
        have hsize := layout.size_text row gap
        have hfirst : layout.size (row.take (last + 1)) ≤ layout.size (row.take gap.fst) :=
          layout.size_take_mono row hafter
        have hlast : layout.size (row.take (gap.snd + 1)) ≤ layout.size (row.take n) :=
          layout.size_take_mono row (by omega)
        have hnarrow := h.narrow
        omega
      · exact absurd (hgap last hover hbehind) h.column.last.not_blankAt
  opens := h.opens
  blanks := fun i hi hn => by omega
  narrow := Nat.lt_add_of_pos_right layout.wide_pos

/-- A narrow gap leaves the column open. -/
theorem Open.blank (h : layout.Open row first last n) (hblank : layout.BlankAt row n)
    (hnarrow : layout.size (row.take (n + 1)) < layout.size (row.take (last + 1)) + layout.wide) :
    layout.Open row first last (n + 1) where
  le := h.le
  lt := h.lt.trans (Nat.lt_succ_self n)
  column := h.column
  opens := h.opens
  blanks := fun i hi hn => by
    rcases Nat.lt_or_ge i n with hlt | hge
    · exact h.blanks i hi hlt
    · obtain rfl : i = n := by omega
      exact hblank
  narrow := hnarrow

/-- The gap that is behind the last ink when a blank makes it wide. -/
private theorem Open.wideGap (h : layout.Open row first last n)
    (hblank : layout.BlankAt row n)
    (hwide : layout.size (row.take (last + 1)) + layout.wide ≤ layout.size (row.take (n + 1))) :
    layout.IsWideGap row ⟨(last + 1, n), h.lt⟩ := by
  have hsize := layout.size_text row ⟨(last + 1, n), h.lt⟩
  dsimp only at hsize
  refine ⟨fun i hi hn => ?_, by omega⟩
  rcases Nat.lt_or_ge i n with hlt | hge
  · exact h.blanks i hi hlt
  · obtain rfl : i = n := le_antisymm hn hge
    exact hblank

/-- A wide gap ends the column, and another one may begin. -/
theorem Open.close (h : layout.Open row first last n) (hblank : layout.BlankAt row n)
    (hwide : layout.size (row.take (last + 1)) + layout.wide ≤ layout.size (row.take (n + 1))) :
    Maximal (layout.IsColumn row) ⟨(first, last), h.le⟩ ∧ layout.Opens row (n + 1) := by
  have hgap := h.wideGap hblank hwide
  have hbehind : ∀ i, last < i → i ≤ n → ¬ layout.InkAt row i := fun i hi hn hink =>
    hink.not_blankAt (hgap.1 i hi hn)
  refine ⟨h.column.maximal h.opens fun i hi hink => ?_, fun i hi hink => ?_⟩
  · have hn : n < i := by
      by_contra hle
      exact hbehind i hi (by omega) hink
    exact ⟨_, hgap, Nat.lt_succ_self last, hn⟩
  · have hlast : i ≤ last := by
      by_contra hlt
      exact hbehind i (by omega) (by omega) hink
    exact ⟨_, hgap, Nat.lt_succ_of_le hlast, Nat.lt_succ_self n⟩

/-- No column is open behind the line. -/
theorem Open.le_length (h : layout.Open row first last n) : n ≤ row.length := by
  have hlast := h.column.last.lt
  dsimp only at hlast
  by_contra hlt
  obtain ⟨a, ha, -⟩ := h.blanks row.length (by omega) (by omega)
  rw [List.getElem?_eq_none le_rfl] at ha
  cases ha

/-- The end of the line ends the column. -/
theorem Open.finish (h : layout.Open row first last row.length) :
    Maximal (layout.IsColumn row) ⟨(first, last), h.le⟩ := by
  refine h.column.maximal h.opens fun i hi hink => ?_
  exact absurd (h.blanks i hi hink.lt) hink.not_blankAt

/-! ### What is found -/

/-- What stands in a span, and behind it. -/
theorem text_append_drop (row : List α) (span : Span) :
    span.text row ++ row.drop (span.snd + 1) = row.drop span.fst := by
  have hle := span.fst_le_snd
  calc span.text row ++ row.drop (span.snd + 1)
      = ((row.drop span.fst).take (span.snd + 1 - span.fst)) ++
          (row.drop span.fst).drop (span.snd + 1 - span.fst) := by
        rw [Span.text, List.drop_take, List.drop_drop, Nat.add_sub_cancel' (by omega)]
    _ = row.drop span.fst := List.take_append_drop _ _

/-- A column begins with ink. -/
theorem IsColumn.head {span : Span} (h : layout.IsColumn row span) :
    ∀ a ∈ (span.text row).head?, layout.blank a = false := by
  intro a ha
  obtain ⟨b, hb, hink⟩ := h.first
  have hspan := span.fst_le_snd
  rw [Span.text, List.head?_drop, List.getElem?_take_of_lt (by omega), hb] at ha
  obtain rfl := Option.mem_some.mp ha
  exact hink

/-- And it ends with ink. -/
theorem IsColumn.getLast {span : Span} (h : layout.IsColumn row span) :
    ∀ a ∈ (span.text row).getLast?, layout.blank a = false := by
  intro a ha
  obtain ⟨b, hb, hink⟩ := h.last
  have hspan := span.fst_le_snd
  have hlength : ¬ (row.take (span.snd + 1)).length ≤ span.fst := by
    have hlt := h.last.lt
    rw [List.length_take]
    omega
  rw [Span.text, List.getLast?_drop, if_neg hlength, List.getLast?_take,
    if_neg (Nat.succ_ne_zero _), Nat.add_sub_cancel, hb] at ha
  obtain rfl := Option.mem_some.mp ha
  exact hink

/-- The entries without the blanks. -/
def inkOf (layout : Layout α) (as : List α) : List α := as.filter fun a => !layout.blank a

/-- Blanks do not matter. -/
theorem inkOf_drop (h : ∀ i, first ≤ i → i < n → layout.BlankAt row i) (hle : first ≤ n) :
    layout.inkOf (row.drop first) = layout.inkOf (row.drop n) := by
  induction n, hle using Nat.le_induction with
  | base => rfl
  | succ n hle ih =>
    obtain ⟨a, ha, hblank⟩ := h n hle (Nat.lt_succ_self n)
    obtain ⟨hlt, hget⟩ := List.getElem?_eq_some_iff.mp ha
    rw [ih fun i hi hn => h i hi (by omega), List.drop_eq_getElem_cons hlt, hget, inkOf,
      List.filter_cons_of_neg (by simp [hblank]), inkOf]

/-- The columns from a position on, in their order. -/
structure ColumnsFrom (layout : Layout α) (row : List α) (low : ℕ) (spans : List Span) : Prop where
  maximal : ∀ span ∈ spans, Maximal (layout.IsColumn row) span
  ordered : spans.Pairwise fun s t => s.snd < t.fst
  behind : ∀ span ∈ spans, low ≤ span.fst
  covers : ∀ i, low ≤ i → layout.InkAt row i → ∃ span ∈ spans, span.fst ≤ i ∧ i ≤ span.snd
  ink : layout.inkOf (spans.flatMap fun span => span.text row) = layout.inkOf (row.drop low)

variable {spans : List Span}

/-- There are none where the line ends. -/
theorem ColumnsFrom.nil (h : row.length ≤ n) : layout.ColumnsFrom row n [] where
  maximal := by simp
  ordered := .nil
  behind := by simp
  covers i hi hink := absurd hink.lt (by omega)
  ink := by rw [List.drop_of_length_le h]; rfl

/-- Blanks are passed over. -/
theorem ColumnsFrom.skip (h : layout.ColumnsFrom row n spans) (hle : first ≤ n)
    (hblanks : ∀ i, first ≤ i → i < n → layout.BlankAt row i) :
    layout.ColumnsFrom row first spans where
  maximal := h.maximal
  ordered := h.ordered
  behind span hspan := hle.trans (h.behind span hspan)
  covers i hi hink := by
    rcases Nat.lt_or_ge i n with hlt | hge
    · exact absurd (hblanks i hi hlt) hink.not_blankAt
    · exact h.covers i hge hink
  ink := h.ink.trans (inkOf_drop hblanks hle).symm

/-- One more column, before the others. -/
theorem ColumnsFrom.cons {span : Span} (h : layout.ColumnsFrom row (span.snd + 1) spans)
    (hspan : Maximal (layout.IsColumn row) span) :
    layout.ColumnsFrom row span.fst (span :: spans) where
  maximal := List.forall_mem_cons.mpr ⟨hspan, h.maximal⟩
  ordered := List.pairwise_cons.mpr ⟨h.behind, h.ordered⟩
  behind := by
    have hle := span.fst_le_snd
    refine List.forall_mem_cons.mpr ⟨le_rfl, fun other hother => ?_⟩
    have hbehind := h.behind other hother
    omega
  covers i hi hink := by
    rcases Nat.lt_or_ge span.snd i with hlt | hge
    · obtain ⟨other, hother, hcovers⟩ := h.covers i hlt hink
      exact ⟨other, List.mem_cons_of_mem _ hother, hcovers⟩
    · exact ⟨span, List.mem_cons_self, hi, hge⟩
  ink := by
    have hink := h.ink
    rw [inkOf, inkOf] at hink
    rw [List.flatMap_cons, inkOf, List.filter_append, hink, ← List.filter_append, text_append_drop,
      inkOf]

/-- **All maximal columns are found.** -/
theorem ColumnsFrom.mem_iff_maximal (h : layout.ColumnsFrom row 0 spans) (s : Span) :
    s ∈ spans ↔ Maximal (layout.IsColumn row) s := by
  constructor
  · exact h.maximal s
  · intro hs
    obtain ⟨span, hmem, hbegin, hend⟩ := h.covers s.fst (Nat.zero_le _) hs.prop.first
    rw [← maximal_eq (h.maximal span hmem) hs hbegin hend]
    exact hmem

end Layout

end Lxcup.Lib
