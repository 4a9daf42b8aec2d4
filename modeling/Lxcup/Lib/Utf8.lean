import Mathlib.Data.List.Basic
import Mathlib.Tactic.Ring

/-!
# Texts as bytes

## Main definitions

* `utf8Bytes`, `fromUtf8` — a text as the bytes of its UTF-8 encoding, and back.

## Main results

* `fromUtf8_utf8Bytes`, `eq_utf8Bytes_of_fromUtf8` — the text is read back, from its bytes only.
* `length_utf8Bytes_le`, `length_le_utf8ByteSize` — a character has at most four bytes, and at least
  one.
* `utf8ByteSize_of_ascii` — and an ASCII character has one.
* `forall_byte`, `forall_nibble` — what is checked for all bytes, or for all that are a digit.
-/

namespace Lxcup.Lib

/-- The bytes of a text. -/
def utf8Bytes (text : String) : List UInt8 := text.toUTF8.data.toList

/-- The text of some bytes, if they are valid. -/
def fromUtf8 (bytes : List UInt8) : Option String := String.fromUTF8? ⟨bytes.toArray⟩

@[simp] theorem fromUtf8_utf8Bytes (text : String) : fromUtf8 (utf8Bytes text) = some text := by
  have hbytes : (⟨(utf8Bytes text).toArray⟩ : ByteArray) = text.toByteArray := by
    simp [utf8Bytes, String.toUTF8]
  simp only [fromUtf8, hbytes, String.fromUTF8?, text.isValidUTF8, dite_true]
  rfl

/-- Bytes that are read as a text are its bytes. -/
theorem eq_utf8Bytes_of_fromUtf8 {bytes : List UInt8} {text : String}
    (h : fromUtf8 bytes = some text) : bytes = utf8Bytes text := by
  rw [fromUtf8, String.fromUTF8?] at h
  split at h
  · obtain rfl := Option.some_inj.mp h
    simp [utf8Bytes, String.fromUTF8]
  · cases h

/-- Different texts have different bytes. -/
theorem utf8Bytes_injective : Function.Injective utf8Bytes := by
  intro text other h
  have hread := congrArg fromUtf8 h
  rw [fromUtf8_utf8Bytes, fromUtf8_utf8Bytes] at hread
  exact Option.some_inj.mp hread

/-- The bytes of a text are those of its characters. -/
theorem utf8Bytes_eq (text : String) :
    utf8Bytes text = text.toList.flatMap String.utf8EncodeChar := by
  simp only [utf8Bytes, String.toUTF8, ← String.utf8Encode_toList, List.utf8Encode]
  simp

theorem utf8Bytes_ofList (cs : List Char) :
    utf8Bytes (String.ofList cs) = cs.flatMap String.utf8EncodeChar := by
  rw [utf8Bytes_eq, String.toList_ofList]

/-- An ASCII character is one byte. -/
theorem utf8EncodeChar_of_ascii {c : Char} (h : c.val ≤ 127) :
    ∃ a, String.utf8EncodeChar c = [a] := by
  refine List.length_eq_one_iff.mp ?_
  rw [String.length_utf8EncodeChar]
  exact Char.utf8Size_eq_one_iff.mpr h

theorem length_utf8Bytes (text : String) : (utf8Bytes text).length = text.utf8ByteSize := by
  simp [utf8Bytes, String.toUTF8]

theorem length_utf8Bytes_le (text : String) : (utf8Bytes text).length ≤ 4 * text.length := by
  have hchars : ∀ cs : List Char, (cs.flatMap String.utf8EncodeChar).length ≤ 4 * cs.length := by
    intro cs
    induction cs with
    | nil => simp
    | cons c cs ih =>
      have hc : c.utf8Size ≤ 4 := c.utf8Size_le_four
      rw [List.flatMap_cons, List.length_append, List.length_cons, String.length_utf8EncodeChar]
      omega
  rw [utf8Bytes_eq, ← String.length_toList]
  exact hchars text.toList

theorem length_le_utf8ByteSize (text : String) : text.toList.length ≤ text.utf8ByteSize := by
  induction text using String.push_induction with
  | empty => simp
  | push text c ih =>
    have hc := c.utf8Size_pos
    rw [String.utf8ByteSize_push, String.toList_push, List.length_append, List.length_singleton]
    omega

theorem utf8ByteSize_of_ascii {text : String} (h : ∀ c ∈ text.toList, c.val ≤ 127) :
    text.utf8ByteSize = text.toList.length := by
  induction text using String.push_induction with
  | empty => simp
  | push text c ih =>
    rw [String.toList_push] at h
    have hc : c.utf8Size = 1 := Char.utf8Size_eq_one_iff.mpr (h c (by simp))
    have hrest := ih fun d hd => h d (List.mem_append_left _ hd)
    rw [String.utf8ByteSize_push, String.toList_push, List.length_append, List.length_singleton]
    omega

/-! ### All bytes -/

@[elab_as_elim] theorem forall_byte {p : UInt8 → Prop} (byte : UInt8)
    (h : ∀ n : Fin 256, p (UInt8.ofNat n)) : p byte := by
  have hbyte := h ⟨byte.toNat, byte.toNat_lt⟩
  rwa [UInt8.ofNat_toNat] at hbyte

/-- What holds for the sixteen values of a hexadecimal digit. -/
@[elab_as_elim] theorem forall_nibble {p : UInt8 → Prop} (byte : UInt8) (hlt : byte < 16)
    (h : ∀ n : Fin 16, p (UInt8.ofNat n)) : p byte := by
  have hbyte := h ⟨byte.toNat, UInt8.lt_iff_toNat_lt.mp hlt⟩
  rwa [UInt8.ofNat_toNat] at hbyte

end Lxcup.Lib
