import Mathlib.Data.List.Infix

/-!
# What occurs in a text that is put together

A text is put together from parts with a separator or a mark between them.  A word without the
separator, or without the brackets of the mark, occurs in the whole only where it occurs in a part
(or inside the mark); a word with one separator in it may also lie across a joint.  The beginning
of a text that is put together is put together again, from the parts that are reached and the
beginning of the last one.

## Main definitions

* `cutParts` — the parts of the beginning of a text.

## Main results

* `infix_append_cons` — a word without a separator occurs on one side of it.
* `infix_intercalate_singleton` — and in one of the parts of a text.
* `infix_intercalate_bracketed` — a word that cannot reach into a mark.
* `infix_append_cons_iff`, `infix_intercalate_cons` — a word across a joint.
* `splitOnP_intercalate` — the pieces of a text of parts.
* `take_intercalate` — the beginning of a text of parts.
-/

namespace Lxcup.Lib

variable {α : Type*}

/-! ### Beginnings -/

/-- A beginning and a text whose first words end at the same separator. -/
theorem prefix_append_cons_iff {sep : α} {u v : List α} (hu : sep ∉ u) (hv : sep ∉ v)
    (a b : List α) : u ++ sep :: a <+: v ++ sep :: b ↔ u = v ∧ a <+: b := by
  induction u generalizing v with
  | nil =>
    cases v with
    | nil => simp
    | cons d v =>
      rw [List.mem_cons, not_or] at hv
      simp [hv.1]
  | cons c u ih =>
    rw [List.mem_cons, not_or] at hu
    cases v with
    | nil => simp [Ne.symm hu.1]
    | cons d v =>
      rw [List.mem_cons, not_or] at hv
      rw [List.cons_append, List.cons_append, List.cons_prefix_cons, ih hu.2 hv.2,
        List.cons.injEq, and_assoc]

/-- A beginning without the separator ends before it. -/
theorem prefix_append_cons {sep : α} {u : List α} (h : sep ∉ u) (a b : List α) :
    u <+: a ++ sep :: b ↔ u <+: a := by
  induction a generalizing u with
  | nil =>
    rw [List.nil_append, List.prefix_nil, List.prefix_cons_iff]
    constructor
    · rintro (rfl | ⟨t, rfl, -⟩)
      · rfl
      · exact absurd List.mem_cons_self h
    · exact .inl
  | cons c a ih =>
    cases u with
    | nil => simp
    | cons d u =>
      rw [List.cons_append, List.cons_prefix_cons, List.cons_prefix_cons,
        ih (fun hmem => h (List.mem_cons_of_mem _ hmem))]

/-! ### Words without a separator -/

/-- A word without a separator occurs in a text if and only if it does on one side of one. -/
theorem infix_append_cons {sep : α} {u : List α} (h : sep ∉ u) (a b : List α) :
    u <:+: a ++ sep :: b ↔ u <:+: a ∨ u <:+: b := by
  -- what reaches into the right side ends before the separator
  have hends : ∀ v : List α, v <:+: u → v <+: sep :: b → v = [] := by
    intro v hv hbegins
    rcases List.prefix_cons_iff.mp hbegins with hnil | ⟨t, rfl, -⟩
    · exact hnil
    · exact absurd (hv.subset List.mem_cons_self) h
  constructor
  · intro hoccurs
    rcases List.infix_append_iff.mp hoccurs with hleft | hright | ⟨v, w, rfl, hv, hw⟩
    · exact .inl hleft
    · rcases List.infix_cons_iff.mp hright with hbegins | hoccurs
      · rw [hends u (List.infix_refl u) hbegins]
        exact .inl (List.nil_infix)
      · exact .inr hoccurs
    · rw [hends w (List.suffix_append v w).isInfix hw, List.append_nil]
      exact .inl hv.isInfix
  · rintro (hleft | hright)
    · exact List.infix_append_of_infix_left hleft
    · exact List.infix_append_of_infix_right (List.infix_cons hright)

/-- A word without the separator occurs in a text of parts if and only if it does in a part. -/
theorem infix_intercalate_singleton {sep : α} {u : List α} (hsep : sep ∉ u) (hne : u ≠ [])
    (parts : List (List α)) : u <:+: [sep].intercalate parts ↔ ∃ part ∈ parts, u <:+: part := by
  induction parts with
  | nil => simp [List.intercalate, hne]
  | cons part parts ih =>
    cases parts with
    | nil => simp [List.intercalate]
    | cons next parts =>
      rw [List.intercalate_cons_cons, List.append_assoc, List.singleton_append,
        infix_append_cons hsep, ih]
      simp

/-- A word without the brackets of a mark occurs in a text of parts with the mark between them only
where it occurs in a part, or inside the mark. -/
theorem infix_intercalate_bracketed {opened closed : α} {u : List α} (hopened : opened ∉ u)
    (hclosed : closed ∉ u) (hne : u ≠ []) (mark : List α) (parts : List (List α))
    (h : u <:+: (opened :: (mark ++ [closed])).intercalate parts) :
    u <:+: mark ∨ ∃ part ∈ parts, u <:+: part := by
  induction parts with
  | nil => simp [List.intercalate, hne] at h
  | cons part parts ih =>
    cases parts with
    | nil => exact .inr ⟨part, by simp, by simpa [List.intercalate] using h⟩
    | cons next parts =>
      have hsplit : (opened :: (mark ++ [closed])).intercalate (part :: next :: parts) =
          part ++ opened :: (mark ++ closed ::
            (opened :: (mark ++ [closed])).intercalate (next :: parts)) := by
        simp [List.intercalate_cons_cons]
      rw [hsplit, infix_append_cons hopened, infix_append_cons hclosed] at h
      obtain hpart | hmark | hrest := h
      · exact .inr ⟨part, List.mem_cons_self, hpart⟩
      · exact .inl hmark
      · obtain hmark | ⟨other, hmem, hother⟩ := ih hrest
        · exact .inl hmark
        · exact .inr ⟨other, List.mem_cons_of_mem _ hmem, hother⟩

/-! ### Words across a joint -/

/-- A word with one separator in it lies on one side of a joint, or across it. -/
theorem infix_append_cons_iff {sep : α} {u v : List α} (hu : sep ∉ u) (hv : sep ∉ v)
    (a b : List α) : u ++ sep :: v <:+: a ++ sep :: b ↔
      u ++ sep :: v <:+: a ∨ u ++ sep :: v <:+: b ∨ (u <:+ a ∧ v <+: b) := by
  induction a with
  | nil =>
    have hnil : ¬ u ++ sep :: v <:+: [] := by simp
    have hbegins := @prefix_append_cons_iff α sep u [] hu List.not_mem_nil v b
    rw [List.nil_append] at hbegins
    rw [List.nil_append, List.infix_cons_iff, hbegins, List.suffix_nil]
    tauto
  | cons c a ih =>
    have hbegin : u ++ sep :: v <+: c :: a ++ sep :: b ↔
        u ++ sep :: v <+: c :: a ∨ (u = c :: a ∧ v <+: b) := by
      by_cases hmem : sep ∈ c :: a
      · -- the word ends before the second separator
        obtain ⟨w, z, hsplit, hw⟩ := List.eq_append_cons_of_mem hmem
        have hne : u ≠ c :: a := by rintro rfl; exact hu hmem
        rw [hsplit, List.append_assoc, List.cons_append, prefix_append_cons_iff hu hw,
          prefix_append_cons_iff hu hw, prefix_append_cons hv, ← hsplit]
        tauto
      · have hnot : ¬ u ++ sep :: v <+: c :: a := fun hbegins =>
          hmem (hbegins.subset (List.mem_append_right _ List.mem_cons_self))
        rw [prefix_append_cons_iff hu hmem]
        tauto
    rw [List.cons_append, List.infix_cons_iff, ← List.cons_append, hbegin, ih, List.infix_cons_iff,
      List.suffix_cons_iff]
    constructor
    · rintro ((hfirst | ⟨heq, hacross⟩) | hleft | hright | ⟨hsuffix, hacross⟩)
      exacts [.inl (.inl hfirst), .inr (.inr ⟨.inl heq, hacross⟩), .inl (.inr hleft),
        .inr (.inl hright), .inr (.inr ⟨.inr hsuffix, hacross⟩)]
    · rintro ((hfirst | hleft) | hright | ⟨heq | hsuffix, hacross⟩)
      exacts [.inl (.inl hfirst), .inr (.inl hleft), .inr (.inr (.inl hright)),
        .inl (.inr ⟨heq, hacross⟩), .inr (.inr (.inr ⟨hsuffix, hacross⟩))]

/-- A beginning without the separator is the beginning of the first part. -/
theorem prefix_intercalate_cons {sep : α} {v : List α} (hv : sep ∉ v) (part : List α)
    (parts : List (List α)) : v <+: [sep].intercalate (part :: parts) ↔ v <+: part := by
  cases parts with
  | nil => rw [List.intercalate_singleton]
  | cons next parts =>
    rw [List.intercalate_cons_cons, List.append_assoc, List.singleton_append,
      prefix_append_cons hv]

/-- A word with one separator in it occurs in a text of parts where it occurs in a part, or across
the joint of two neighbours. -/
theorem infix_intercalate_cons {sep : α} {u v : List α} (hu : sep ∉ u) (hv : sep ∉ v)
    (parts : List (List α)) : u ++ sep :: v <:+: [sep].intercalate parts ↔
      (∃ part ∈ parts, u ++ sep :: v <:+: part) ∨
        ∃ left right, [left, right] <:+: parts ∧ u <:+ left ∧ v <+: right := by
  induction parts with
  | nil => simp
  | cons part parts ih =>
    cases parts with
    | nil =>
      have hpair : ∀ left right, ¬ [left, right] <:+: [part] := fun left right h =>
        absurd h.length_le (by simp)
      simp [hpair]
    | cons next parts =>
      have hpair : ∀ left right, [left, right] <:+: part :: next :: parts ↔
          (left = part ∧ right = next) ∨ [left, right] <:+: next :: parts := by
        intro left right
        rw [List.infix_cons_iff, List.cons_prefix_cons, List.cons_prefix_cons,
          and_iff_left List.nil_prefix]
      rw [List.intercalate_cons_cons, List.append_assoc, List.singleton_append,
        infix_append_cons_iff hu hv, ih, prefix_intercalate_cons hv]
      simp only [hpair, List.exists_mem_cons_iff]
      constructor
      · rintro (h | (h | ⟨left, right, hmem, h⟩) | h)
        exacts [.inl (.inl h), .inl (.inr h), .inr ⟨left, right, .inr hmem, h⟩,
          .inr ⟨part, next, .inl ⟨rfl, rfl⟩, h⟩]
      · rintro ((h | h) | ⟨left, right, ⟨rfl, rfl⟩ | hmem, h⟩)
        exacts [.inl h, .inr (.inl (.inl h)), .inr (.inr h),
          .inr (.inl (.inr ⟨left, right, hmem, h⟩))]

/-- Where the separator splits, the pieces of a text of parts are the pieces of its parts. -/
theorem splitOnP_intercalate {p : α → Bool} {sep : α} (hsep : p sep = true)
    {parts : List (List α)} (hne : parts ≠ []) :
    ([sep].intercalate parts).splitOnP p = parts.flatMap (List.splitOnP p) := by
  induction parts with
  | nil => exact absurd rfl hne
  | cons part parts ih =>
    cases parts with
    | nil => simp
    | cons next parts =>
      rw [List.intercalate_cons_cons, List.append_assoc, List.singleton_append,
        List.splitOnP_append_cons _ _ hsep, ih (List.cons_ne_nil _ _), ← List.flatMap_cons]

/-! ### The beginning of a text of parts -/

/-- The parts of the first `n` characters of a text of parts with separators between them. -/
def cutParts : Nat → List (List α) → List (List α)
  | _, [] => []
  | n, part :: parts =>
    if n ≤ part.length then [part.take n] else part :: cutParts (n - part.length - 1) parts

/-- What is reached of a part is its beginning. -/
theorem exists_of_mem_cutParts {n : Nat} {parts : List (List α)} {shown : List α}
    (h : shown ∈ cutParts n parts) : ∃ part ∈ parts, shown <+: part := by
  induction parts generalizing n with
  | nil => cases h
  | cons part parts ih =>
    rw [cutParts] at h
    split at h
    · rw [List.mem_singleton.mp h]
      exact ⟨part, List.mem_cons_self, List.take_prefix _ _⟩
    · obtain rfl | hmem := List.mem_cons.mp h
      · exact ⟨shown, List.mem_cons_self, List.prefix_refl _⟩
      · obtain ⟨other, hother, hbegins⟩ := ih hmem
        exact ⟨other, List.mem_cons_of_mem _ hother, hbegins⟩

/-- Only the last part may be cut. -/
theorem mem_of_mem_dropLast_cutParts {n : Nat} {parts : List (List α)} {shown : List α}
    (h : shown ∈ (cutParts n parts).dropLast) : shown ∈ parts := by
  induction parts generalizing n with
  | nil => cases h
  | cons part parts ih =>
    rw [cutParts] at h
    split at h
    · cases h
    · obtain hnil | hne := eq_or_ne (cutParts (n - part.length - 1) parts) []
      · rw [hnil] at h
        cases h
      · rw [List.dropLast_cons_of_ne_nil hne] at h
        obtain rfl | hmem := List.mem_cons.mp h
        · exact List.mem_cons_self
        · exact List.mem_cons_of_mem _ (ih hmem)

/-- The beginning of a text of parts is a text of parts. -/
theorem take_intercalate (sep : α) (n : Nat) (parts : List (List α)) :
    ([sep].intercalate parts).take n = [sep].intercalate (cutParts n parts) := by
  induction parts generalizing n with
  | nil => simp [cutParts]
  | cons part parts ih =>
    rw [cutParts]
    split
    · rename_i hle
      rw [List.intercalate_singleton]
      cases parts with
      | nil => rw [List.intercalate_singleton]
      | cons next parts =>
        rw [List.intercalate_cons_cons, List.append_assoc, List.take_append_of_le_length hle]
    · rename_i hlt
      obtain ⟨rest, rfl⟩ : ∃ rest, n = part.length + (1 + rest) :=
        ⟨n - part.length - 1, by omega⟩
      rw [Nat.add_sub_cancel_left, Nat.add_sub_cancel_left]
      cases parts with
      | nil =>
        rw [cutParts, List.intercalate_singleton]
        exact List.take_of_length_le (Nat.le_add_right _ _)
      | cons next parts =>
        have hne : cutParts rest (next :: parts) ≠ [] := by
          rw [cutParts]
          split <;> simp
        obtain ⟨shown, shownRest, hshown⟩ := List.exists_cons_of_ne_nil hne
        rw [List.intercalate_cons_cons, List.append_assoc, List.take_length_add_append,
          Nat.add_comm 1 rest, List.singleton_append, List.take_succ_cons, ih, hshown,
          List.intercalate_cons_cons, List.append_assoc, List.singleton_append]

end Lxcup.Lib
