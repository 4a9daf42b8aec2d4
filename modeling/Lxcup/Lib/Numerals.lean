import Lxcup.Lib.Text
import Lxcup.Lib.Utf8

/-!
# Decimal numerals, and texts that end in one

A numeral behind a separator can be read off the end of a text, whatever stands before: there is no
separator in it.  Fields of a fixed width before it can be read off as well.

Unsigned numbers are read as the standard parser of the source's language reads them: a plus sign
may stand before the digits, of which there is at least one, and leading zeros do not matter.

## Main definitions

* `readUnsigned`, `parseUnsigned` — an unsigned number of any size, and one of a fixed width.

## Main results

* `eq_of_append_separator` — the text is cut at its last separator.
* `toString_injective_of_nonneg` — different numbers have different numerals.
* `length_toString_le` — a number has no more digits than its bound.
* `ascii_toHex`, `ascii_toString` — numerals are ASCII.
-/

namespace Lxcup.Lib

/-- Two texts that agree, each with a last separator. -/
theorem eq_of_append_separator {α : Type*} {separator : α} {front front' back back' : List α}
    (hback : separator ∉ back) (hback' : separator ∉ back')
    (h : front ++ separator :: back = front' ++ separator :: back') :
    front = front' ∧ back = back' := by
  induction front generalizing front' with
  | nil =>
    cases front' with
    | nil => exact ⟨rfl, (List.cons.inj h).2⟩
    | cons a front' =>
      -- the second separator would be in the first numeral
      have htail := (List.cons.inj h).2
      exact absurd (htail ▸ List.mem_append_right _ List.mem_cons_self) hback
  | cons a front ih =>
    cases front' with
    | nil =>
      have htail := (List.cons.inj h).2
      exact absurd (htail ▸ List.mem_append_right _ List.mem_cons_self) hback'
    | cons b front' =>
      obtain ⟨rfl, htail⟩ := List.cons.inj h
      obtain ⟨rfl, hrest⟩ := ih htail
      exact ⟨rfl, hrest⟩

/-! ### Digits -/

theorem toList_toString_of_nonneg {n : Int} (h : 0 ≤ n) :
    (toString n).toList = Nat.toDigits 10 n.toNat := by
  rw [Int.toString_eq_repr, Int.repr_eq_if, if_pos h, Nat.toList_repr]

theorem isDigit_of_mem_toString {n : Int} (h : 0 ≤ n) {c : Char} (hc : c ∈ (toString n).toList) :
    c.isDigit = true := by
  rw [toList_toString_of_nonneg h] at hc
  exact Nat.isDigit_of_mem_toDigits (by decide) (by decide) hc

/-- **Different numbers have different numerals.** -/
theorem toString_injective_of_nonneg {n m : Int} (hn : 0 ≤ n) (hm : 0 ≤ m)
    (h : (toString n).toList = (toString m).toList) : n = m := by
  rw [toList_toString_of_nonneg hn, toList_toString_of_nonneg hm] at h
  have hread := congrArg (fun digits => Nat.ofDigitChars 10 digits 0) h
  simp only [Nat.ofDigitChars_ten_toDigits] at hread
  omega

theorem length_toString_le {n : Int} {k : Nat} (hn : 0 ≤ n) (hk : 0 < k) (h : n < 10 ^ k) :
    (toString n).toList.length ≤ k := by
  rw [toList_toString_of_nonneg hn]
  refine (Nat.length_toDigits_le_iff (by decide) hk).mpr ?_
  have hcast : ((10 ^ k : Nat) : Int) = 10 ^ k := by
    push_cast
    rfl
  omega

/-! ### Unsigned numbers -/

/-- The digits of an unsigned number, behind a plus sign if there is one. -/
def unsignedDigits : List Char → List Char
  | '+' :: digits => digits
  | digits => digits

theorem mem_unsignedDigits {cs : List Char} {c : Char} (h : c ∈ cs) :
    c = '+' ∨ c ∈ unsignedDigits cs := by
  rw [unsignedDigits.eq_def]
  split
  · obtain rfl | hc := List.mem_cons.mp h
    · exact .inl rfl
    · exact .inr hc
  · exact .inr h

theorem unsignedDigits_of_ne {c : Char} {cs : List Char} (h : c ≠ '+') :
    unsignedDigits (c :: cs) = c :: cs := by
  rw [unsignedDigits.eq_def]
  split
  · rename_i heq
    exact absurd (List.cons.inj heq).1 h
  · rfl

/-- An unsigned number of any size. -/
def readUnsigned (cs : List Char) : Option Nat :=
  if unsignedDigits cs ≠ [] ∧ (unsignedDigits cs).all Char.isDigit then
    some (Nat.ofDigitChars 10 (unsignedDigits cs) 0)
  else none

/-- An unsigned number of `width` bits. -/
def parseUnsigned (width : Nat) (cs : List Char) : Option Nat :=
  (readUnsigned cs).filter (· < 2 ^ width)

theorem parseUnsigned_eq_some {width n : Nat} {cs : List Char} :
    parseUnsigned width cs = some n ↔ readUnsigned cs = some n ∧ n < 2 ^ width := by
  rw [parseUnsigned, Option.filter_eq_some_iff, decide_eq_true_eq]

theorem parseUnsigned_eq_none {width : Nat} {cs : List Char} :
    parseUnsigned width cs = none ↔ ∀ n, readUnsigned cs = some n → 2 ^ width ≤ n := by
  simp [parseUnsigned, Option.filter_eq_none_iff]

/-- The numeral of a number reads as that number. -/
theorem readUnsigned_toDigits (n : Nat) : readUnsigned (Nat.toDigits 10 n) = some n := by
  have hdigit : ∀ c ∈ Nat.toDigits 10 n, c.isDigit = true := fun c hc =>
    Nat.isDigit_of_mem_toDigits (by decide) (by decide) hc
  have hsame : unsignedDigits (Nat.toDigits 10 n) = Nat.toDigits 10 n := by
    rw [unsignedDigits.eq_def]
    split
    · rename_i digits heq
      exact absurd (hdigit '+' (heq ▸ List.mem_cons_self)) (by decide)
    · rfl
  rw [readUnsigned, hsame, if_pos ⟨Nat.toDigits_ne_nil, List.all_eq_true.mpr hdigit⟩,
    Nat.ofDigitChars_ten_toDigits]

/-! ### Bytes -/

theorem ascii_of_isDigit {c : Char} (h : c.isDigit = true) : c.val ≤ 127 := by
  simp only [Char.isDigit, Bool.and_eq_true, decide_eq_true_eq] at h
  exact UInt32.le_trans h.2 (by decide)

theorem ascii_toString {n : Int} (h : 0 ≤ n) : ∀ c ∈ (toString n).toList, c.val ≤ 127 :=
  fun _ hc => ascii_of_isDigit (isDigit_of_mem_toString h hc)

theorem ascii_hexChar : ∀ d : Fin 16, (hexChar d).val ≤ 127 := by decide

theorem ascii_toHex (w n : Nat) : ∀ c ∈ toHex w n, c.val ≤ 127 := by
  induction w generalizing n with
  | zero => simp [toHex]
  | succ w ih =>
    intro c hc
    rw [toHex, List.mem_append, List.mem_singleton] at hc
    rcases hc with hc | rfl
    · exact ih _ c hc
    · exact ascii_hexChar _

end Lxcup.Lib
