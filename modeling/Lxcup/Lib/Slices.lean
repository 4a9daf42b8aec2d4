import Mathlib.Data.List.Basic

/-!
# Slices of a text

A text is sliced at byte offsets, and a slice panics unless both of its ends are boundaries between
characters.  Here the slices are partial functions: they have no value where they panic.

## Main definitions

* `byteSize`, `charIndices` — the bytes of a text, and its characters with the bytes before them.
* `sliceFrom`, `sliceTo`, `slice` — slices.

## Main results

* `sliceFrom_eq_some`, `sliceTo_eq_some` — a slice has a value at the boundaries, and only there.
* `slice_take` — what stands between two characters.
-/

namespace Lxcup.Lib

/-- The bytes of a text. -/
def byteSize (cs : List Char) : ℕ := cs.foldr (fun c n => c.utf8Size + n) 0

/-- `char_indices`, behind some bytes. -/
def charIndices : ℕ → List Char → List (ℕ × Char)
  | _, [] => []
  | index, c :: cs => (index, c) :: charIndices (index + c.utf8Size) cs

/-- The subtraction of sizes, which panics below zero. -/
def checkedSub (a b : ℕ) : Option ℕ := if b ≤ a then some (a - b) else none

/-- `&text[n..]`. -/
def sliceFrom : ℕ → List Char → Option (List Char)
  | 0, cs => some cs
  | _ + 1, [] => none
  | n + 1, c :: cs => if c.utf8Size ≤ n + 1 then sliceFrom (n + 1 - c.utf8Size) cs else none

/-- `&text[..n]`. -/
def sliceTo : ℕ → List Char → Option (List Char)
  | 0, _ => some []
  | _ + 1, [] => none
  | n + 1, c :: cs =>
    if c.utf8Size ≤ n + 1 then (sliceTo (n + 1 - c.utf8Size) cs).map (c :: ·) else none

/-- `&text[first..last]`. -/
def slice (first last : ℕ) (cs : List Char) : Option (List Char) :=
  if first ≤ last then (sliceFrom first cs).bind (sliceTo (last - first)) else none

@[simp] theorem byteSize_nil : byteSize [] = 0 := rfl

@[simp] theorem byteSize_cons (c : Char) (cs : List Char) :
    byteSize (c :: cs) = c.utf8Size + byteSize cs := rfl

theorem byteSize_append (as bs : List Char) : byteSize (as ++ bs) = byteSize as + byteSize bs := by
  induction as with
  | nil => simp
  | cons c as ih => rw [List.cons_append, byteSize_cons, byteSize_cons, ih, Nat.add_assoc]

theorem byteSize_eq_zero {cs : List Char} : byteSize cs = 0 ↔ cs = [] := by
  cases cs with
  | nil => simp
  | cons c cs =>
    have hc := c.utf8Size_pos
    simp only [byteSize_cons, List.cons_ne_nil, iff_false]
    omega

/-- The text behind a boundary. -/
theorem sliceFrom_eq_some {n : ℕ} {cs back : List Char} :
    sliceFrom n cs = some back ↔ ∃ front, cs = front ++ back ∧ byteSize front = n := by
  induction cs generalizing n with
  | nil =>
    cases n with
    | zero => simp [sliceFrom, eq_comm]
    | succ n =>
      simp only [sliceFrom, reduceCtorEq, false_iff, not_exists, not_and]
      intro front hfront
      obtain ⟨rfl, -⟩ := List.append_eq_nil_iff.mp hfront.symm
      simp
  | cons c cs ih =>
    cases n with
    | zero =>
      simp only [sliceFrom, Option.some.injEq, byteSize_eq_zero]
      constructor
      · rintro rfl
        exact ⟨[], rfl, rfl⟩
      · rintro ⟨front, hcs, rfl⟩
        exact hcs
    | succ n =>
      rw [sliceFrom]
      constructor
      · intro h
        split at h
        · obtain ⟨front, rfl, hsize⟩ := ih.mp h
          refine ⟨c :: front, rfl, ?_⟩
          rw [byteSize_cons]
          omega
        · cases h
      · rintro ⟨front, hcs, hsize⟩
        cases front with
        | nil => cases hsize
        | cons d front =>
          obtain ⟨rfl, hback⟩ := List.cons.inj hcs
          rw [byteSize_cons] at hsize
          rw [if_pos (by omega)]
          exact ih.mpr ⟨front, hback, by omega⟩

/-- The text before a boundary. -/
theorem sliceTo_eq_some {n : ℕ} {cs front : List Char} :
    sliceTo n cs = some front ↔ front <+: cs ∧ byteSize front = n := by
  induction cs generalizing n front with
  | nil =>
    cases n with
    | zero =>
      simp only [sliceTo, Option.some.injEq, List.prefix_nil]
      constructor
      · rintro rfl
        exact ⟨rfl, rfl⟩
      · rintro ⟨rfl, -⟩
        rfl
    | succ n =>
      simp only [sliceTo, reduceCtorEq, List.prefix_nil, false_iff, not_and]
      rintro rfl
      simp
  | cons c cs ih =>
    cases n with
    | zero =>
      simp only [sliceTo, Option.some.injEq, byteSize_eq_zero]
      constructor
      · rintro rfl
        exact ⟨List.nil_prefix, rfl⟩
      · rintro ⟨-, rfl⟩
        rfl
    | succ n =>
      rw [sliceTo]
      constructor
      · intro h
        split at h
        · obtain ⟨rest, hrest, rfl⟩ := Option.map_eq_some_iff.mp h
          obtain ⟨hbegins, hsize⟩ := ih.mp hrest
          refine ⟨List.cons_prefix_cons.mpr ⟨rfl, hbegins⟩, ?_⟩
          rw [byteSize_cons]
          omega
        · cases h
      · rintro ⟨hbegins, hsize⟩
        cases front with
        | nil => cases hsize
        | cons d front =>
          obtain ⟨rfl, hrest⟩ := List.cons_prefix_cons.mp hbegins
          rw [byteSize_cons] at hsize
          rw [if_pos (by omega), ih.mpr ⟨hrest, by omega⟩, Option.map_some]

/-- The text behind a character. -/
theorem sliceFrom_take (n : ℕ) (cs : List Char) :
    sliceFrom (byteSize (cs.take n)) cs = some (cs.drop n) :=
  sliceFrom_eq_some.mpr ⟨cs.take n, (List.take_append_drop n cs).symm, rfl⟩

/-- **A slice between two characters has what stands there.** -/
theorem slice_take {m n : ℕ} (h : m ≤ n) (cs : List Char) :
    slice (byteSize (cs.take m)) (byteSize (cs.take n)) cs = some ((cs.take n).drop m) := by
  have htake : (cs.take n).take m = cs.take m := by rw [List.take_take, Nat.min_eq_left h]
  have hsize : byteSize (cs.take m) + byteSize ((cs.take n).drop m) = byteSize (cs.take n) := by
    rw [← htake, ← byteSize_append, List.take_append_drop]
  have hbegins : (cs.take n).drop m <+: cs.drop m := by
    rw [List.drop_take]
    exact List.take_prefix (n - m) (cs.drop m)
  rw [slice, if_pos (by omega), sliceFrom_take, Option.bind_some]
  exact sliceTo_eq_some.mpr ⟨hbegins, by omega⟩

end Lxcup.Lib
