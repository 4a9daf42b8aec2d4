import Lxcup.Apt.Texts
import Lxcup.Lib.Lists
import Lxcup.Lib.Numerals

/-!
# Password hashes

A password is stored as a text of four fields with dollar signs between them: the name of the
derivation, the number of its rounds, the salt and the derived key, the last two in hexadecimal.
The derivation itself is a parameter.  The text that is stored is verified by the password, and what
is verified is a text of this form.  The number of rounds is read by the number parser of the
standard library, so leading zeros and a plus sign are let through; the hexadecimal fields are
decoded in one form only.

## Main definitions

* `encodeHex`, `decodeHex` — bytes in hexadecimal.
* `hashPassword`, `verifyPassword` — the source.
* `HashOf` — the texts of a password.

## Main results

* `decodeHex_eq_some` — the decoder takes back what the encoder writes, and nothing else.
* `verifyPassword_hashPassword` — the stored text is verified.
* `verifyPassword_iff` — the texts that are verified.
-/

namespace Lxcup.Auth

open Lxcup.Lib Lxcup.Agent Lxcup.Apt

/-! ### The source -/

/-- The derivation of a key of 32 bytes from a password, a salt and a number of rounds. -/
abbrev KeyDerivation : Type := List UInt8 → List UInt8 → Nat → Vector UInt8 32

/-- `PASSWORD_HASH_ROUNDS`. -/
def passwordHashRounds : Nat := 600000

/-- The name of the derivation. -/
def pbkdf2Name : List Char := "pbkdf2-sha256".toList

/-- The digit of a number below sixteen, out of the table `HEX`. -/
def hexDigit (n : UInt8) : Char := hexChar ⟨n.toNat % 16, Nat.mod_lt n.toNat (Nat.succ_pos 15)⟩

def encodeHex (bytes : List UInt8) : List Char :=
  bytes.flatMap fun (byte : UInt8) => [hexDigit (byte >>> 4), hexDigit (byte &&& 0x0f)]

def hexNibble (value : UInt8) : Option UInt8 :=
  if 48 ≤ value ∧ value ≤ 57 then some (value - 48)
  else if 97 ≤ value ∧ value ≤ 102 then some (value - 97 + 10)
  else none

/-- The chunks of two bytes, decoded. -/
def decodePairs : List UInt8 → Option (List UInt8)
  | a :: b :: rest => do
    let high ← hexNibble a
    let low ← hexNibble b
    let bytes ← decodePairs rest
    return (high <<< 4 ||| low) :: bytes
  | _ => some []

def decodeHex (value : List Char) : Option (List UInt8) :=
  let bytes := utf8Bytes (String.ofList value)
  if bytes.length % 2 ≠ 0 then none else decodePairs bytes

def pbkdf2Sha256 (derive : KeyDerivation) (password salt : List UInt8) (rounds : Nat) :
    Option (Vector UInt8 32) :=
  if rounds = 0 then none else some (derive password salt rounds)

/-- `hash_password`, with the fresh salt. -/
def hashPassword (derive : KeyDerivation) (salt : Vector UInt8 16) (password : String) :
    Option String := do
  let derived ← pbkdf2Sha256 derive (utf8Bytes password) salt.toList passwordHashRounds
  return String.ofList (pbkdf2Name ++ '$' :: (Nat.toDigits 10 passwordHashRounds ++
    '$' :: (encodeHex salt.toList ++ '$' :: encodeHex derived.toList)))

def verifyPassword (derive : KeyDerivation) (password encoded : String) : Bool :=
  match splitOn '$' encoded.toList with
  | [name, rounds, salt, expected] =>
    if name ≠ pbkdf2Name then false
    else
      match parseUnsigned 32 rounds with
      | none => false
      | some rounds =>
        if ¬(100000 ≤ rounds ∧ rounds ≤ 2000000) then false
        else
          match decodeHex salt, decodeHex expected with
          | some salt, some expected =>
            if salt.length ≠ 16 ∨ expected.length ≠ 32 then false
            else
              match pbkdf2Sha256 derive (utf8Bytes password) salt rounds with
              | none => false
              | some actual => actual.toList = expected
          | _, _ => false
  | _ => false

/-! ### Hexadecimal fields -/

/-- The byte of a digit. -/
def digitByte (n : UInt8) : UInt8 := if n < 10 then n + 48 else n + 87

/-- What is checked for every byte: its halves, its digit, and its value as a digit. -/
theorem checked_byte (byte : UInt8) :
    (byte >>> 4 < 16 ∧ byte &&& 0x0f < 16)
      ∧ (byte >>> 4) <<< 4 ||| (byte &&& 0x0f) = byte
      ∧ hexDigit byte ≠ '$'
      ∧ (byte < 16 → String.utf8EncodeChar (hexDigit byte) = [digitByte byte]
        ∧ hexNibble (digitByte byte) = some byte)
      ∧ (hexNibble byte).all (fun n => n < 16 ∧ byte = digitByte n) = true := by
  refine forall_byte byte ?_
  decide +kernel

/-- A digit has a value below sixteen, and is the digit of that value. -/
theorem hexNibble_iff {value n : UInt8} :
    hexNibble value = some n ↔ n < 16 ∧ value = digitByte n := by
  constructor
  · have hall := (checked_byte value).2.2.2.2
    intro h
    rw [h] at hall
    exact of_decide_eq_true hall
  · rintro ⟨hlt, rfl⟩
    exact ((checked_byte n).2.2.2.1 hlt).2

/-- A digit is one byte. -/
theorem utf8EncodeChar_of_lt {n : UInt8} (h : n < 16) :
    String.utf8EncodeChar (hexDigit n) = [digitByte n] :=
  ((checked_byte n).2.2.2.1 h).1

/-- The halves of a byte, and a byte of two halves. -/
theorem halves_lt (byte : UInt8) : byte >>> 4 < 16 ∧ byte &&& 0x0f < 16 :=
  (checked_byte byte).1

theorem join_halves (byte : UInt8) : (byte >>> 4) <<< 4 ||| (byte &&& 0x0f) = byte :=
  (checked_byte byte).2.1

theorem halves_join {high low : UInt8} (hhigh : high < 16) (hlow : low < 16) :
    (high <<< 4 ||| low) >>> 4 = high ∧ (high <<< 4 ||| low) &&& 0x0f = low := by
  have hall : ∀ high low : Fin 16,
      (UInt8.ofNat high <<< 4 ||| UInt8.ofNat low) >>> 4 = UInt8.ofNat high ∧
        (UInt8.ofNat high <<< 4 ||| UInt8.ofNat low) &&& 0x0f = UInt8.ofNat low := by
    decide +kernel
  exact forall_nibble high hhigh fun n => forall_nibble low hlow (hall n)

/-- The bytes of an encoded text, two for each byte. -/
theorem utf8Bytes_encodeHex (bytes : List UInt8) :
    utf8Bytes (String.ofList (encodeHex bytes)) =
      bytes.flatMap fun (byte : UInt8) => [digitByte (byte >>> 4), digitByte (byte &&& 0x0f)] := by
  rw [utf8Bytes_ofList, encodeHex]
  induction bytes with
  | nil => rfl
  | cons byte bytes ih =>
    obtain ⟨hhigh, hlow⟩ := halves_lt byte
    rw [List.flatMap_cons, List.flatMap_append, ih, List.flatMap_cons, List.flatMap_cons,
      utf8EncodeChar_of_lt hhigh, utf8EncodeChar_of_lt hlow]
    rfl

theorem length_digitBytes (bytes : List UInt8) :
    (bytes.flatMap fun (byte : UInt8) =>
      [digitByte (byte >>> 4), digitByte (byte &&& 0x0f)]).length = 2 * bytes.length := by
  induction bytes with
  | nil => rfl
  | cons byte bytes ih =>
    rw [List.flatMap_cons, List.length_append, ih, List.length_cons]
    simp only [List.length_cons, List.length_nil]
    omega

/-- The chunks that are decoded are the digits of the bytes. -/
theorem decodePairs_eq_some {n : Nat} {value bytes : List UInt8} (hlength : value.length = 2 * n) :
    decodePairs value = some bytes ↔
      value = bytes.flatMap fun (byte : UInt8) =>
        [digitByte (byte >>> 4), digitByte (byte &&& 0x0f)] := by
  induction n generalizing value bytes with
  | zero =>
    obtain rfl := List.length_eq_zero_iff.mp hlength
    cases bytes <;> simp [decodePairs]
  | succ n ih =>
    obtain ⟨a, b, rest, rfl, hrest⟩ := exists_cons_cons hlength
    rw [decodePairs]
    simp only [Option.bind_eq_bind, Option.bind_eq_some_iff, Option.pure_def, Option.some_inj,
      hexNibble_iff, ih hrest]
    constructor
    · rintro ⟨high, ⟨hhigh, rfl⟩, low, ⟨hlow, rfl⟩, tail, rfl, rfl⟩
      obtain ⟨hfirst, hsecond⟩ := halves_join hhigh hlow
      rw [List.flatMap_cons, hfirst, hsecond]
      rfl
    · intro heq
      cases bytes with
      | nil => cases heq
      | cons byte tail =>
        obtain ⟨hhigh, hlow⟩ := halves_lt byte
        obtain ⟨rfl, hbehind⟩ := List.cons.inj heq
        obtain ⟨rfl, htail⟩ := List.cons.inj hbehind
        exact ⟨_, ⟨hhigh, rfl⟩, _, ⟨hlow, rfl⟩, tail, htail, by rw [join_halves]⟩

/-- **The decoder takes back what the encoder writes, and nothing else.** -/
theorem decodeHex_eq_some {value : List Char} {bytes : List UInt8} :
    decodeHex value = some bytes ↔ value = encodeHex bytes := by
  have hback : value = encodeHex bytes ↔ utf8Bytes (String.ofList value) =
      bytes.flatMap fun (byte : UInt8) => [digitByte (byte >>> 4), digitByte (byte &&& 0x0f)] := by
    rw [← utf8Bytes_encodeHex, utf8Bytes_injective.eq_iff, String.ofList_inj]
  rw [hback, decodeHex]
  by_cases hodd : (utf8Bytes (String.ofList value)).length % 2 ≠ 0
  · rw [if_pos hodd]
    refine iff_of_false (Option.some_ne_none _).symm fun heq => hodd ?_
    rw [heq, length_digitBytes, Nat.mul_mod_right]
  · rw [if_neg hodd]
    exact decodePairs_eq_some (n := (utf8Bytes (String.ofList value)).length / 2) (by omega)

theorem encodeHex_injective : Function.Injective encodeHex := by
  intro bytes other h
  have hdecode := decodeHex_eq_some.mpr h
  rw [decodeHex_eq_some.mpr rfl, Option.some_inj] at hdecode
  exact hdecode

/-! ### Fields -/

/-- A dollar sign is no digit, whatever the number. -/
theorem dollar_notMem_encodeHex (bytes : List UInt8) : '$' ∉ encodeHex bytes := by
  have hbyte : ∀ n : UInt8, hexDigit n ≠ '$' := fun n => (checked_byte n).2.2.1
  intro hmem
  obtain ⟨byte, -, hmem⟩ := List.mem_flatMap.mp hmem
  simp only [List.mem_cons, List.not_mem_nil, or_false] at hmem
  obtain heq | heq := hmem
  exacts [hbyte _ heq.symm, hbyte _ heq.symm]

/-- Nor does it stand in what is read as a number. -/
theorem dollar_notMem_of_parseUnsigned {width n : Nat} {cs : List Char}
    (h : parseUnsigned width cs = some n) : '$' ∉ cs := by
  intro hmem
  have hread := (parseUnsigned_eq_some.mp h).1
  rw [readUnsigned] at hread
  split at hread
  · rename_i hdigits
    obtain hplus | hdigit := mem_unsignedDigits hmem
    · exact absurd hplus (by decide)
    · exact absurd (List.all_eq_true.mp hdigits.2 '$' hdigit) (by decide)
  · cases hread

/-- A text of four fields. -/
theorem splitOn_four {a b c d cs : List Char} : splitOn '$' cs = [a, b, c, d] ↔
    cs = a ++ '$' :: (b ++ '$' :: (c ++ '$' :: d)) ∧
      '$' ∉ a ∧ '$' ∉ b ∧ '$' ∉ c ∧ '$' ∉ d := by
  constructor
  · intro h
    have hjoin := intercalate_splitOn '$' cs
    have hfree : ∀ part ∈ [a, b, c, d], '$' ∉ part := fun part hpart =>
      notMem_of_mem_splitOn (h ▸ hpart)
    rw [h] at hjoin
    refine ⟨?_, hfree a (by simp), hfree b (by simp), hfree c (by simp), hfree d (by simp)⟩
    rw [← hjoin]
    simp [List.intercalate_cons_cons]
  · rintro ⟨rfl, ha, hb, hc, hd⟩
    rw [splitOn_append, splitOn_append, splitOn_append, splitOn_eq_singleton ha,
      splitOn_eq_singleton hb, splitOn_eq_singleton hc, splitOn_eq_singleton hd]
    rfl

/-! ### Verification -/

/-- A text of a password: the fields with the number of rounds, a salt of 16 bytes, and the key that
is derived from them. -/
structure HashOf (derive : KeyDerivation) (password encoded : String) (rounds : List Char) (n : Nat)
    (salt : List UInt8) : Prop where
  fields : encoded.toList = pbkdf2Name ++ '$' :: (rounds ++ '$' :: (encodeHex salt ++
    '$' :: encodeHex (derive (utf8Bytes password) salt n).toList))
  rounds : parseUnsigned 32 rounds = some n
  range : 100000 ≤ n ∧ n ≤ 2000000
  salt : salt.length = 16

theorem dollar_notMem_pbkdf2Name : '$' ∉ pbkdf2Name := by decide

/-- A text is verified by a password if and only if it is a text of the password. -/
theorem verifyPassword_iff {derive : KeyDerivation} {password encoded : String} :
    verifyPassword derive password encoded = true ↔
      ∃ rounds n salt, HashOf derive password encoded rounds n salt := by
  constructor
  · intro h
    rw [verifyPassword] at h
    split at h
    · rename_i name rounds salt expected hsplit
      obtain ⟨hfields, -⟩ := splitOn_four.mp hsplit
      split at h
      · cases h
      rename_i hname
      split at h
      · cases h
      rename_i n hrounds
      split at h
      · cases h
      rename_i hrange
      split at h
      · rename_i saltBytes expectedBytes hsalt hexpected
        split at h
        · cases h
        rename_i hlengths
        -- a number in the range is one that the derivation takes
        have hpositive : n ≠ 0 := by omega
        rw [pbkdf2Sha256, if_neg hpositive] at h
        simp only [decide_eq_true_eq] at h
        rw [not_not] at hname
        rw [not_or, not_not, not_not] at hlengths
        rw [not_not] at hrange
        refine ⟨rounds, n, saltBytes, ?_, hrounds, hrange, hlengths.1⟩
        rw [hfields, hname, decodeHex_eq_some.mp hsalt, decodeHex_eq_some.mp hexpected, h]
      · cases h
    · cases h
  · rintro ⟨rounds, n, salt, hfields, hrounds, hrange, hsalt⟩
    -- no field has a dollar sign, so the text is split into them again
    have hsplit := splitOn_four.mpr ⟨hfields, dollar_notMem_pbkdf2Name,
      dollar_notMem_of_parseUnsigned hrounds, dollar_notMem_encodeHex _, dollar_notMem_encodeHex _⟩
    have hpositive : n ≠ 0 := by omega
    rw [verifyPassword, hsplit]
    simp only [hrounds, decodeHex_eq_some.mpr rfl, hsalt, pbkdf2Sha256, if_neg hpositive,
      Vector.length_toList, ne_eq, not_true_eq_false, or_self, if_false, hrange, and_self,
      decide_true]

/-- What is stored is a text of the password. -/
theorem hashOf_hashPassword {derive : KeyDerivation} {password encoded : String}
    {salt : Vector UInt8 16} (h : hashPassword derive salt password = some encoded) :
    HashOf derive password encoded (Nat.toDigits 10 passwordHashRounds) passwordHashRounds
      salt.toList := by
  have hrounds : parseUnsigned 32 (Nat.toDigits 10 passwordHashRounds) = some passwordHashRounds :=
    parseUnsigned_eq_some.mpr ⟨readUnsigned_toDigits _, by decide⟩
  have hpositive : passwordHashRounds ≠ 0 := by decide
  rw [hashPassword, pbkdf2Sha256, if_neg hpositive] at h
  obtain rfl := Option.some_inj.mp h
  exact ⟨String.toList_ofList, hrounds, by decide, Vector.length_toList⟩

theorem isSome_hashPassword (derive : KeyDerivation) (salt : Vector UInt8 16)
    (password : String) : (hashPassword derive salt password).isSome = true := by
  have hpositive : passwordHashRounds ≠ 0 := by decide
  rw [hashPassword, pbkdf2Sha256, if_neg hpositive]
  rfl

/-- A stored password is verified. -/
theorem verifyPassword_hashPassword (derive : KeyDerivation) (salt : Vector UInt8 16)
    (password : String) : ∃ encoded, hashPassword derive salt password = some encoded ∧
      verifyPassword derive password encoded = true := by
  obtain ⟨encoded, hencoded⟩ := Option.isSome_iff_exists.mp
    (isSome_hashPassword derive salt password)
  exact ⟨encoded, hencoded, verifyPassword_iff.mpr ⟨_, _, _, hashOf_hashPassword hencoded⟩⟩

/-- **Stored passwords are verified, only texts of the password are, and hexadecimal fields stand
for their bytes.** -/
theorem passwords_round_trip (derive : KeyDerivation) :
    (∀ (salt : Vector UInt8 16) (password : String), ∃ encoded,
      hashPassword derive salt password = some encoded ∧
        verifyPassword derive password encoded = true) ∧
    (∀ password encoded, verifyPassword derive password encoded = true ↔
      ∃ rounds n salt, HashOf derive password encoded rounds n salt) ∧
    (∀ bytes, decodeHex (encodeHex bytes) = some bytes) ∧ Function.Injective encodeHex :=
  ⟨verifyPassword_hashPassword derive, fun _ _ => verifyPassword_iff,
    fun _ => decodeHex_eq_some.mpr rfl, encodeHex_injective⟩

/-- A text with a plus sign before the number of rounds. -/
def plusEncoded : String :=
  String.ofList (pbkdf2Name ++ '$' :: ("+600000".toList ++ '$' ::
    (encodeHex (List.replicate 16 0) ++ '$' :: encodeHex (List.replicate 32 0))))

/-- It is verified, although no number is written with a plus sign. -/
theorem verifyPassword_plusEncoded :
    verifyPassword (fun _ _ _ => Vector.replicate 32 0) "password" plusEncoded = true ∧
      ∀ (n : Nat) (rest : List Char),
        plusEncoded.toList ≠ pbkdf2Name ++ '$' :: (Nat.toDigits 10 n ++ '$' :: rest) := by
  refine ⟨verifyPassword_iff.mpr ⟨"+600000".toList, 600000, List.replicate 16 0,
    String.toList_ofList, by decide, by decide, rfl⟩, fun n rest heq => ?_⟩
  rw [plusEncoded, String.toList_ofList] at heq
  have hfields := List.cons.inj (List.append_cancel_left heq)
  -- the first character of the number is the plus sign
  have hplus : '+' ∈ Nat.toDigits 10 n := by
    obtain ⟨first, digits, hdigits⟩ := List.exists_cons_of_ne_nil (@Nat.toDigits_ne_nil n 10)
    rw [hdigits] at hfields ⊢
    obtain ⟨rfl, -⟩ := List.cons.inj hfields.2
    exact List.mem_cons_self
  exact absurd (Nat.isDigit_of_mem_toDigits (by decide) (by decide) hplus) (by decide)

end Lxcup.Auth
