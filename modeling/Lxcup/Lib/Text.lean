import Mathlib.Data.Fin.Basic
import Mathlib.Data.List.Basic
import Mathlib.Data.List.TakeWhile
import Mathlib.Tactic.Ring

/-!
# Text

Texts are worked on as lists of characters.  This module holds the functions on
texts that the program takes from its standard library, and fixed-width
hexadecimal numerals.

## Main definitions

* `isWhitespace`, `trim` — white space as Unicode's `White_Space` property has it.
* `toAsciiLowercase` — the text in lower case, as far as its letters are ASCII.
* `stripPrefix` — the rest of a text after a given beginning.
* `before` — the part of a text before the first of some characters.
* `toHex`, `ofHex` — hexadecimal numerals of a fixed width, most significant digit first.

## Main results

* `stripPrefix_append` — a beginning that was put there is found again.
* `before_append_cons` — what stands behind one of the characters does not matter.
* `ofHex_toHex` — a numeral reads back as the number it was written for.
-/

namespace Lxcup.Lib

/-- The characters with Unicode's `White_Space` property. -/
def isWhitespace (c : Char) : Bool :=
  let n := c.toNat
  (9 ≤ n && n ≤ 13) || n == 0x20 || n == 0x85 || n == 0xA0 || n == 0x1680
    || (0x2000 ≤ n && n ≤ 0x200A) || n == 0x2028 || n == 0x2029 || n == 0x202F
    || n == 0x205F || n == 0x3000

theorem any_isWhitespace_eq_false {cs : List Char} :
    cs.any isWhitespace = false ↔ ∀ c ∈ cs, isWhitespace c = false := by
  simp

/-- Drop the white space at both ends. -/
def trim (cs : List Char) : List Char :=
  ((cs.dropWhile isWhitespace).reverse.dropWhile isWhitespace).reverse

theorem mem_dropWhile_of_not {p : Char → Bool} {c : Char} {cs : List Char} (hmem : c ∈ cs)
    (hc : p c = false) : c ∈ cs.dropWhile p := by
  induction cs with
  | nil => cases hmem
  | cons d cs ih =>
    rw [List.dropWhile_cons]
    split
    case isTrue hd =>
      rcases List.mem_cons.mp hmem with rfl | hrest
      · rw [hc] at hd
        cases hd
      · exact ih hrest
    case isFalse => exact hmem

/-- A text with a character that is no white space is not blank. -/
theorem trim_ne_nil {c : Char} {cs : List Char} (hmem : c ∈ cs) (hc : isWhitespace c = false) :
    trim cs ≠ [] := by
  have hfront := mem_dropWhile_of_not hmem hc
  have hboth := mem_dropWhile_of_not (List.mem_reverse.mpr hfront) hc
  intro hnil
  rw [trim, List.reverse_eq_nil_iff] at hnil
  rw [hnil] at hboth
  cases hboth

/-- Upper-case ASCII letters become lower-case ones. -/
def toAsciiLowercase (cs : List Char) : List Char := cs.map Char.toLower

/-- The rest of a text that begins with `pre`. -/
def stripPrefix : (pre cs : List Char) → Option (List Char)
  | [], cs => some cs
  | _ :: _, [] => none
  | p :: ps, c :: cs => if p = c then stripPrefix ps cs else none

theorem stripPrefix_append (pre cs : List Char) : stripPrefix pre (pre ++ cs) = some cs := by
  induction pre with
  | nil => rfl
  | cons p ps ih => simpa [stripPrefix] using ih

/-! ### The beginning of a text -/

/-- The part of a text before the first of the listed characters. -/
def before (stops cs : List Char) : List Char := cs.takeWhile fun c => !stops.contains c

section

variable {stops cs : List Char}

theorem before_append_of_all {a : List Char} (h : ∀ c ∈ a, c ∉ stops) (b : List Char) :
    before stops (a ++ b) = a ++ before stops b := by
  refine List.takeWhile_append_of_pos fun c hc => ?_
  simpa using h c hc

theorem before_cons_of_mem {c : Char} (h : c ∈ stops) (b : List Char) :
    before stops (c :: b) = [] :=
  List.takeWhile_cons_of_neg (by simpa using h)

theorem before_eq_self (h : ∀ c ∈ cs, c ∉ stops) : before stops cs = cs :=
  List.takeWhile_eq_self_iff.mpr fun c hc => by simpa using h c hc

theorem before_append_of_mem {a : List Char} (h : ∃ c ∈ a, c ∈ stops) (b : List Char) :
    before stops (a ++ b) = before stops a := by
  induction a with
  | nil => obtain ⟨c, hc, -⟩ := h; cases hc
  | cons c a ih =>
    by_cases hc : c ∈ stops
    · rw [List.cons_append, before_cons_of_mem hc, before_cons_of_mem hc]
    · have hrest : ∃ d ∈ a, d ∈ stops := by
        obtain ⟨d, hd, hstop⟩ := h
        obtain rfl | hd := List.mem_cons.mp hd
        · exact absurd hstop hc
        · exact ⟨d, hd, hstop⟩
      have hone : ∀ cs, before stops (c :: cs) = c :: before stops cs := fun cs =>
        List.takeWhile_cons_of_pos (by simpa using hc)
      rw [List.cons_append, hone, hone, ih hrest]

theorem before_eq_nil : before stops cs = [] ↔ ∀ c ∈ cs.head?, c ∈ stops := by
  cases cs with
  | nil => simp [before]
  | cons c cs =>
    by_cases h : c ∈ stops <;> simp [before, h]

/-- The first of the listed characters ends it, whatever stands behind. -/
theorem before_append_cons {c : Char} (h : c ∈ stops) (a b : List Char) :
    before stops (a ++ c :: b) = before stops a := by
  by_cases hmem : ∃ d ∈ a, d ∈ stops
  · exact before_append_of_mem hmem _
  · have hall : ∀ d ∈ a, d ∉ stops := fun d hd hstop => hmem ⟨d, hd, hstop⟩
    rw [before_append_of_all hall, before_cons_of_mem h, List.append_nil, before_eq_self hall]

/-- A longer text has the longer beginning. -/
theorem before_prefix_before {a b : List Char} (h : a <+: b) : before stops a <+: before stops b := by
  obtain ⟨rest, rfl⟩ := h
  by_cases hmem : ∃ c ∈ a, c ∈ stops
  · exact (before_append_of_mem hmem rest).symm ▸ List.prefix_refl _
  · have hall : ∀ c ∈ a, c ∉ stops := fun c hc hstop => hmem ⟨c, hc, hstop⟩
    rw [before_append_of_all hall, before_eq_self hall]
    exact List.prefix_append _ _

end

/-! ### Hexadecimal numerals -/

/-- The lower-case hexadecimal digit of a number below sixteen. -/
def hexChar (d : Fin 16) : Char := Char.ofNat (if d.val < 10 then 48 + d.val else 87 + d.val)

/-- The value of a hexadecimal digit of either case. -/
def hexValue (c : Char) : Option Nat :=
  let n := c.toNat
  if 48 ≤ n ∧ n ≤ 57 then some (n - 48)
  else if 97 ≤ n ∧ n ≤ 102 then some (n - 87)
  else if 65 ≤ n ∧ n ≤ 70 then some (n - 55)
  else none

/-- The numeral of `n` with `w` digits, most significant digit first. -/
def toHex : (w n : Nat) → List Char
  | 0, _ => []
  | w + 1, n => toHex w (n / 16) ++ [hexChar (Fin.ofNat 16 n)]

/-- The number a hexadecimal numeral stands for. -/
def ofHex (cs : List Char) : Option Nat :=
  cs.foldlM (fun n c => (hexValue c).map (16 * n + ·)) 0

@[simp] theorem hexValue_hexChar : ∀ d : Fin 16, hexValue (hexChar d) = some d.val := by decide

@[simp] theorem length_toHex (w n : Nat) : (toHex w n).length = w := by
  induction w generalizing n with
  | zero => rfl
  | succ w ih => simp [toHex, ih]

/-- **Numerals round trip**, up to the digits that the width cuts off. -/
theorem ofHex_toHex (w n : Nat) : ofHex (toHex w n) = some (n % 16 ^ w) := by
  induction w generalizing n with
  | zero => simp [toHex, ofHex, Nat.mod_one]
  | succ w ih =>
    have hlow : n % 16 ^ (w + 1) = 16 * (n / 16 % 16 ^ w) + n % 16 := by
      rw [pow_succ', Nat.mod_mul]
      ring
    have hrest := ih (n / 16)
    unfold ofHex at hrest ⊢
    rw [toHex, List.foldlM_append, hrest]
    simp [hlow]

end Lxcup.Lib
