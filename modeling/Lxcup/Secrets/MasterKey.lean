import Lxcup.Lib.Lists
import Lxcup.Lib.Numerals
import Lxcup.Secrets.Encrypted

/-!
# Reading the master key

The master key of the secret store is a hexadecimal text of 64 bytes in an environment variable.
It is read two bytes at a time by the number parser of the standard library, which takes a plus
sign before the digits.  So a pair may have a sign in the place of its first digit, and what such
texts do against the others is described exactly.

## Main definitions

* `SecretMasterKey.fromHex` — the source.
* `Readable` — 32 pairs of a digit or a sign and a digit.
* `IsHexKey`, `SameButSigns` — what should be read, and what is read as the same key.

## Main results

* `fromHex_ok_iff` — the texts that are read.
* `fromHex_same_iff` — the texts that are read as the same key.
* `fromHex_exact_iff` — the texts for which this is as it should be.
-/

namespace Lxcup.Secrets

open Lxcup.Lib Lxcup.Core

/-! ### The source -/

/-- `u8::from_str_radix(.., 16)`. -/
def fromStrRadix16 (text : List Char) : Option UInt8 :=
  if unsignedDigits text = [] then none
  else ((ofHex (unsignedDigits text)).filter (· < 256)).map UInt8.ofNat

/-- One chunk of two bytes. -/
def readPair (a b : UInt8) : Option UInt8 :=
  (fromUtf8 [a, b]).bind fun text => fromStrRadix16 text.toList

/-- The loop over the chunks of two bytes. -/
def readPairs : List UInt8 → Option (List UInt8)
  | a :: b :: rest => do
    let byte ← readPair a b
    let bytes ← readPairs rest
    return byte :: bytes
  | _ => some []

/-- The array that the loop fills. -/
def keyArray (bytes : List UInt8) : Vector UInt8 32 :=
  Vector.ofFn fun index => (bytes[index.val]?).getD 0

def SecretMasterKey.fromHex (value : String) : Except SecretStoreError SecretMasterKey :=
  let bytes := utf8Bytes (String.ofList (trim value.toList))
  if bytes.length ≠ 64 then .error .invalid
  else
    match readPairs bytes with
    | none => .error .invalid
    | some read => .ok ⟨keyArray read⟩

/-! ### Pairs of digits -/

/-- A hexadecimal digit of either case. -/
def IsHexDigit (c : Char) : Prop := (hexValue c).isSome = true

/-- Two characters that are read as a byte. -/
def PairOk (pair : Char × Char) : Prop := (pair.1 = '+' ∨ IsHexDigit pair.1) ∧ IsHexDigit pair.2

/-- The value of a digit, and zero for a sign. -/
def digitOf (c : Char) : Nat := (hexValue c).getD 0

def pairByte (pair : Char × Char) : UInt8 := UInt8.ofNat (16 * digitOf pair.1 + digitOf pair.2)

/-- The text of some pairs. -/
def flat (pairs : List (Char × Char)) : List Char := pairs.flatMap fun pair => [pair.1, pair.2]

/-- 32 pairs of a digit or a sign and a digit. -/
def Readable (cs : List Char) : Prop :=
  ∃ pairs : List (Char × Char), pairs.length = 32 ∧ (∀ pair ∈ pairs, PairOk pair) ∧ cs = flat pairs

theorem hexValue_lt {c : Char} {n : Nat} (h : hexValue c = some n) : n < 16 := by
  rw [hexValue] at h
  split at h
  · obtain rfl := Option.some_inj.mp h
    omega
  · split at h
    · obtain rfl := Option.some_inj.mp h
      omega
    · split at h
      · obtain rfl := Option.some_inj.mp h
        omega
      · cases h

theorem digitOf_lt (c : Char) : digitOf c < 16 := by
  rw [digitOf]
  cases h : hexValue c with
  | none => exact Nat.zero_lt_succ _
  | some n => exact hexValue_lt h

theorem hexValue_eq_digitOf {c : Char} (h : IsHexDigit c) : hexValue c = some (digitOf c) := by
  obtain ⟨n, hn⟩ := Option.isSome_iff_exists.mp h
  rw [digitOf, hn]
  rfl

theorem hexValue_eq_none {c : Char} (h : ¬IsHexDigit c) : hexValue c = none := by
  rwa [IsHexDigit, Bool.not_eq_true, Option.isSome_eq_false_iff, Option.isNone_iff_eq_none] at h

theorem not_isHexDigit_plus : ¬IsHexDigit '+' := by
  unfold IsHexDigit
  decide

/-- Hexadecimal digits are ASCII. -/
theorem ascii_of_isHexDigit {c : Char} (h : IsHexDigit c) : c.val ≤ 127 := by
  have hrange : c.toNat ≤ 127 := by
    by_contra hlarge
    have hnone : hexValue c = none := by
      rw [hexValue, if_neg (by omega), if_neg (by omega), if_neg (by omega)]
    rw [IsHexDigit, hnone] at h
    cases h
  exact UInt32.le_iff_toNat_le.mpr hrange

theorem ascii_of_pairOk {pair : Char × Char} (h : PairOk pair) :
    pair.1.val ≤ 127 ∧ pair.2.val ≤ 127 := by
  refine ⟨?_, ascii_of_isHexDigit h.2⟩
  obtain hplus | hdigit := h.1
  · rw [hplus]
    decide
  · exact ascii_of_isHexDigit hdigit

/-- What is read as a number is a sign or nothing, and digits. -/
theorem digits_of_fromStrRadix16 {text : List Char} {byte : UInt8}
    (h : fromStrRadix16 text = some byte) : ∀ c ∈ text, c = '+' ∨ IsHexDigit c := by
  have hdigits : ∀ (cs : List Char) (n m : Nat),
      cs.foldlM (fun n c => (hexValue c).map (16 * n + ·)) n = some m → ∀ c ∈ cs, IsHexDigit c := by
    intro cs
    induction cs with
    | nil => simp
    | cons c cs ih =>
      intro n m hfold d hd
      rw [List.foldlM_cons, Option.bind_eq_bind, Option.bind_eq_some_iff] at hfold
      obtain ⟨next, hnext, hrest⟩ := hfold
      obtain rfl | hd := List.mem_cons.mp hd
      · rw [IsHexDigit, ← Option.isSome_map, hnext]
        rfl
      · exact ih next m hrest d hd
  intro c hc
  rw [fromStrRadix16] at h
  split at h
  · cases h
  · obtain ⟨n, hn, -⟩ := Option.map_eq_some_iff.mp h
    have hall := hdigits _ _ _ (Option.filter_eq_some_iff.mp hn).1
    exact (mem_unsignedDigits hc).imp_right (hall c)

/-- Of two characters the number is read if and only if they are a pair. -/
theorem fromStrRadix16_pair {c d : Char} {byte : UInt8} :
    fromStrRadix16 [c, d] = some byte ↔ PairOk (c, d) ∧ byte = pairByte (c, d) := by
  by_cases hplus : c = '+'
  · subst hplus
    have hdigits : unsignedDigits ['+', d] = [d] := rfl
    rw [fromStrRadix16, hdigits, if_neg (List.cons_ne_nil _ _)]
    have hzero : digitOf '+' = 0 := by decide
    by_cases hd : IsHexDigit d
    · have hlt := digitOf_lt d
      have hfits : digitOf d < 256 := by omega
      have hread : ofHex [d] = some (digitOf d) := by simp [ofHex, hexValue_eq_digitOf hd]
      rw [hread, Option.filter_some, if_pos (decide_eq_true hfits), Option.map_some,
        Option.some_inj, pairByte, hzero, Nat.mul_zero, Nat.zero_add]
      exact ⟨fun h => ⟨⟨.inl rfl, hd⟩, h.symm⟩, fun h => h.2.symm⟩
    · simp [ofHex, hexValue_eq_none hd, PairOk, hd]
  · rw [fromStrRadix16, unsignedDigits_of_ne hplus, if_neg (List.cons_ne_nil _ _)]
    by_cases hc : IsHexDigit c
    · by_cases hd : IsHexDigit d
      · have hclt := digitOf_lt c
        have hdlt := digitOf_lt d
        have hfits : 16 * digitOf c + digitOf d < 256 := by omega
        have hread : ofHex [c, d] = some (16 * digitOf c + digitOf d) := by
          simp [ofHex, hexValue_eq_digitOf hc, hexValue_eq_digitOf hd]
        rw [hread, Option.filter_some, if_pos (decide_eq_true hfits), Option.map_some,
          Option.some_inj, pairByte]
        exact ⟨fun h => ⟨⟨.inr hc, hd⟩, h.symm⟩, fun h => h.2.symm⟩
      · simp [ofHex, hexValue_eq_digitOf hc, hexValue_eq_none hd, PairOk, hd]
    · simp [ofHex, hexValue_eq_none hc, PairOk, hc, hplus]

/-! ### Bytes and characters -/

/-- Two bytes that are read are a pair of characters. -/
theorem readPair_eq_some {a b byte : UInt8} :
    readPair a b = some byte ↔ ∃ pair, PairOk pair ∧ byte = pairByte pair ∧
      [a, b] = utf8Bytes (String.ofList [pair.1, pair.2]) := by
  rw [readPair, Option.bind_eq_some_iff]
  constructor
  · rintro ⟨text, htext, hread⟩
    have hbytes := eq_utf8Bytes_of_fromUtf8 htext
    have hascii : ∀ c ∈ text.toList, c.val ≤ 127 := by
      intro c hc
      obtain rfl | hdigit := digits_of_fromStrRadix16 hread c hc
      · decide
      · exact ascii_of_isHexDigit hdigit
    have hlength : text.toList.length = 2 := by
      rw [← utf8ByteSize_of_ascii hascii, ← length_utf8Bytes, ← hbytes]
      rfl
    obtain ⟨c, d, hcd⟩ := List.length_eq_two.mp hlength
    rw [hcd] at hread
    obtain ⟨hok, hbyte⟩ := fromStrRadix16_pair.mp hread
    refine ⟨(c, d), hok, hbyte, ?_⟩
    rw [hbytes, ← hcd, String.ofList_toList]
  · rintro ⟨pair, hok, hbyte, hbytes⟩
    refine ⟨String.ofList [pair.1, pair.2], ?_, ?_⟩
    · rw [hbytes, fromUtf8_utf8Bytes]
    · rw [String.toList_ofList]
      exact fromStrRadix16_pair.mpr ⟨hok, hbyte⟩

theorem flat_cons (pair : Char × Char) (pairs : List (Char × Char)) :
    flat (pair :: pairs) = pair.1 :: pair.2 :: flat pairs := rfl

/-- The chunks that are read are pairs of characters. -/
theorem readPairs_eq_some {n : Nat} {bytes read : List UInt8} (hlength : bytes.length = 2 * n) :
    readPairs bytes = some read ↔ ∃ pairs : List (Char × Char), (∀ pair ∈ pairs, PairOk pair) ∧
      bytes = utf8Bytes (String.ofList (flat pairs)) ∧ read = pairs.map pairByte := by
  induction n generalizing bytes read with
  | zero =>
    obtain rfl := List.length_eq_zero_iff.mp hlength
    rw [readPairs, Option.some_inj]
    · constructor
      · rintro rfl
        exact ⟨[], by simp, (utf8Bytes_ofList []).symm, rfl⟩
      · rintro ⟨pairs, hok, hbytes, rfl⟩
        cases pairs with
        | nil => rfl
        | cons pair pairs =>
          have hsize := congrArg List.length hbytes
          obtain ⟨a, ha⟩ := utf8EncodeChar_of_ascii (ascii_of_pairOk (hok pair (by simp))).1
          rw [flat_cons, utf8Bytes_ofList, List.flatMap_cons, ha] at hsize
          simp at hsize
    · exact fun _ _ _ h => nomatch h
  | succ n ih =>
    obtain ⟨a, b, rest, rfl, hrest⟩ := exists_cons_cons hlength
    -- the bytes of the first pair stand before those of the others
    have hsplit : ∀ (pair : Char × Char) pairs,
        utf8Bytes (String.ofList (flat (pair :: pairs))) =
          utf8Bytes (String.ofList [pair.1, pair.2]) ++ utf8Bytes (String.ofList (flat pairs)) := by
      intro pair pairs
      simp only [flat_cons, utf8Bytes_ofList, List.flatMap_cons, List.flatMap_nil, List.append_nil,
        List.append_assoc]
    rw [readPairs]
    simp only [Option.bind_eq_bind, Option.bind_eq_some_iff, Option.pure_def, Option.some_inj,
      readPair_eq_some, ih hrest]
    constructor
    · rintro ⟨_, ⟨pair, hok, rfl, hpair⟩, _, ⟨pairs, hall, hpairs, rfl⟩, rfl⟩
      refine ⟨pair :: pairs, List.forall_mem_cons.mpr ⟨hok, hall⟩, ?_, rfl⟩
      rw [hsplit, ← hpair, ← hpairs]
      rfl
    · rintro ⟨pairs, hall, hbytes, rfl⟩
      cases pairs with
      | nil => exact absurd (hbytes.trans (utf8Bytes_ofList [])) (List.cons_ne_nil _ _)
      | cons pair pairs =>
        obtain ⟨hok, hall⟩ := List.forall_mem_cons.mp hall
        -- a pair is two bytes, which are the first two
        obtain ⟨x, hx⟩ := utf8EncodeChar_of_ascii (ascii_of_pairOk hok).1
        obtain ⟨y, hy⟩ := utf8EncodeChar_of_ascii (ascii_of_pairOk hok).2
        have hpair : utf8Bytes (String.ofList [pair.1, pair.2]) = [x, y] := by
          rw [utf8Bytes_ofList, List.flatMap_cons, List.flatMap_cons, hx, hy]
          rfl
        rw [hsplit, hpair] at hbytes
        obtain ⟨rfl, htail⟩ := List.cons.inj hbytes
        obtain ⟨rfl, hbehind⟩ := List.cons.inj htail
        exact ⟨_, ⟨pair, hok, rfl, hpair.symm⟩, _, ⟨pairs, hall, hbehind, rfl⟩, rfl⟩

/-! ### The texts that are read -/

theorem length_flat (pairs : List (Char × Char)) : (flat pairs).length = 2 * pairs.length := by
  induction pairs with
  | nil => rfl
  | cons pair pairs ih =>
    rw [flat_cons, List.length_cons, List.length_cons, ih, List.length_cons]
    omega

theorem ascii_flat {pairs : List (Char × Char)} (h : ∀ pair ∈ pairs, PairOk pair) :
    ∀ c ∈ flat pairs, c.val ≤ 127 := by
  intro c hc
  obtain ⟨pair, hpair, hc⟩ := List.mem_flatMap.mp hc
  obtain ⟨hfirst, hsecond⟩ := ascii_of_pairOk (h pair hpair)
  obtain rfl | hc := List.mem_cons.mp hc
  · exact hfirst
  · rw [List.mem_singleton.mp hc]
    exact hsecond

/-- A pair is two bytes. -/
theorem length_utf8Bytes_flat {pairs : List (Char × Char)} (h : ∀ pair ∈ pairs, PairOk pair) :
    (utf8Bytes (String.ofList (flat pairs))).length = 2 * pairs.length := by
  have hascii : ∀ c ∈ (String.ofList (flat pairs)).toList, c.val ≤ 127 := by
    rw [String.toList_ofList]
    exact ascii_flat h
  rw [length_utf8Bytes, utf8ByteSize_of_ascii hascii, String.toList_ofList, length_flat]

/-- A text is read as a key if and only if it is 32 pairs, and the key is their bytes. -/
theorem fromHex_ok_iff {value : String} {key : SecretMasterKey} :
    SecretMasterKey.fromHex value = .ok key ↔
      ∃ pairs : List (Char × Char), pairs.length = 32 ∧ (∀ pair ∈ pairs, PairOk pair) ∧
        trim value.toList = flat pairs ∧ key = ⟨keyArray (pairs.map pairByte)⟩ := by
  rw [SecretMasterKey.fromHex]
  constructor
  · intro h
    split at h
    · cases h
    · rename_i hlength
      rw [not_not] at hlength
      split at h
      · cases h
      · rename_i read hread
        obtain ⟨pairs, hok, htext, rfl⟩ := (readPairs_eq_some (n := 32) hlength).mp hread
        have hflat : trim value.toList = flat pairs :=
          String.ofList_injective (utf8Bytes_injective htext)
        refine ⟨pairs, ?_, hok, hflat, (Except.ok.inj h).symm⟩
        rw [hflat, length_utf8Bytes_flat hok] at hlength
        omega
  · rintro ⟨pairs, hcount, hok, hflat, rfl⟩
    have hlength : (utf8Bytes (String.ofList (trim value.toList))).length = 64 := by
      rw [hflat, length_utf8Bytes_flat hok, hcount]
    have hread := (readPairs_eq_some (n := 32) hlength).mpr
      ⟨pairs, hok, by rw [hflat], rfl⟩
    rw [if_neg (not_not.mpr hlength), hread]

/-! ### The texts that should be read -/

/-- 64 hexadecimal digits. -/
def IsHexKey (cs : List Char) : Prop := cs.length = 64 ∧ ∀ c ∈ cs, IsHexDigit c

theorem exists_flat {n : Nat} {cs : List Char} (h : cs.length = 2 * n) :
    ∃ pairs : List (Char × Char), pairs.length = n ∧ cs = flat pairs := by
  induction n generalizing cs with
  | zero => exact ⟨[], rfl, List.length_eq_zero_iff.mp h⟩
  | succ n ih =>
    obtain _ | ⟨c, _ | ⟨d, rest⟩⟩ := cs
    · simp at h
    · simp only [List.length_cons, List.length_nil] at h
      omega
    · simp only [List.length_cons] at h
      obtain ⟨pairs, hlength, rfl⟩ := @ih rest (by omega)
      exact ⟨(c, d) :: pairs, by rw [List.length_cons, hlength], rfl⟩

/-- Without a sign, what can be read is 64 digits. -/
theorem isHexKey_iff {cs : List Char} : IsHexKey cs ↔ Readable cs ∧ '+' ∉ cs := by
  constructor
  · rintro ⟨hlength, hdigits⟩
    obtain ⟨pairs, hcount, rfl⟩ := @exists_flat 32 cs hlength
    refine ⟨⟨pairs, hcount, fun pair hpair => ?_, rfl⟩, fun hplus =>
      not_isHexDigit_plus (hdigits '+' hplus)⟩
    have hmem : ∀ c ∈ [pair.1, pair.2], IsHexDigit c := fun c hc =>
      hdigits c (List.mem_flatMap.mpr ⟨pair, hpair, hc⟩)
    exact ⟨.inr (hmem pair.1 (by simp)), hmem pair.2 (by simp)⟩
  · rintro ⟨⟨pairs, hcount, hok, rfl⟩, hplus⟩
    refine ⟨by rw [length_flat, hcount], fun c hc => ?_⟩
    obtain ⟨pair, hpair, hmem⟩ := List.mem_flatMap.mp hc
    obtain rfl | hsecond := List.mem_cons.mp hmem
    · exact (hok pair hpair).1.resolve_left fun heq => hplus (heq ▸ hc)
    · rw [List.mem_singleton.mp hsecond]
      exact (hok pair hpair).2

theorem fromHex_accepts_iff {value : String} :
    (∃ key, SecretMasterKey.fromHex value = .ok key) ↔ Readable (trim value.toList) := by
  constructor
  · rintro ⟨key, hkey⟩
    obtain ⟨pairs, hcount, hok, hflat, -⟩ := fromHex_ok_iff.mp hkey
    exact ⟨pairs, hcount, hok, hflat⟩
  · rintro ⟨pairs, hcount, hok, hflat⟩
    exact ⟨_, fromHex_ok_iff.mpr ⟨pairs, hcount, hok, hflat, rfl⟩⟩

/-! ### The same key -/

/-- A digit in lower case, and zero for a sign. -/
def unsignedDigit (c : Char) : Char := if c = '+' then '0' else c.toLower

/-- A text in lower case, with zeros for its signs. -/
def unsigned (cs : List Char) : List Char := cs.map unsignedDigit

/-- Where the signs of a text are. -/
def signs (cs : List Char) : List Bool := cs.map (· == '+')

/-- Two texts that are read, and that are the same but for signs in place of zeros. -/
structure SameButSigns (value other : String) : Prop where
  readable : Readable (trim value.toList)
  otherReadable : Readable (trim other.toList)
  unsigned : unsigned (trim value.toList) = unsigned (trim other.toList)
  signs : signs (trim value.toList) ≠ signs (trim other.toList)

theorem unsignedDigit_eq {c : Char} (h : c = '+' ∨ IsHexDigit c) :
    unsignedDigit c = hexChar (Fin.ofNat 16 (digitOf c)) := by
  have hall : ∀ n : Fin 128, (Char.ofNat n = '+' ∨ (hexValue (Char.ofNat n)).isSome = true) →
      unsignedDigit (Char.ofNat n) = hexChar (Fin.ofNat 16 (digitOf (Char.ofNat n))) := by
    decide +kernel
  have hascii : c.toNat < 128 := by
    obtain rfl | hdigit := h
    · decide
    · exact Nat.lt_succ_of_le (UInt32.le_iff_toNat_le.mp (ascii_of_isHexDigit hdigit))
  have hc := hall ⟨c.toNat, hascii⟩
  rw [Char.ofNat_toNat] at hc
  exact hc h

/-- Two characters have the same value if and only if they are the same but for case and sign. -/
theorem digitOf_eq_iff {c d : Char} (hc : c = '+' ∨ IsHexDigit c) (hd : d = '+' ∨ IsHexDigit d) :
    digitOf c = digitOf d ↔ unsignedDigit c = unsignedDigit d := by
  rw [unsignedDigit_eq hc, unsignedDigit_eq hd]
  refine ⟨fun h => by rw [h], fun h => ?_⟩
  have hvalue := congrArg hexValue h
  rw [hexValue_hexChar, hexValue_hexChar, Option.some_inj] at hvalue
  simp only [Fin.ofNat] at hvalue
  rwa [Nat.mod_eq_of_lt (digitOf_lt c), Nat.mod_eq_of_lt (digitOf_lt d)] at hvalue

theorem pairByte_eq_iff {p q : Char × Char} (hp : PairOk p) (hq : PairOk q) :
    pairByte p = pairByte q ↔
      unsignedDigit p.1 = unsignedDigit q.1 ∧ unsignedDigit p.2 = unsignedDigit q.2 := by
  rw [← digitOf_eq_iff hp.1 hq.1, ← digitOf_eq_iff (.inr hp.2) (.inr hq.2), pairByte, pairByte,
    ← UInt8.toNat_inj, UInt8.toNat_ofNat', UInt8.toNat_ofNat']
  have hp1 := digitOf_lt p.1
  have hp2 := digitOf_lt p.2
  have hq1 := digitOf_lt q.1
  have hq2 := digitOf_lt q.2
  omega

/-- Pairs have the same bytes if and only if they are the same but for case and signs. -/
theorem map_pairByte_eq_iff {ps qs : List (Char × Char)} (hps : ∀ pair ∈ ps, PairOk pair)
    (hqs : ∀ pair ∈ qs, PairOk pair) :
    ps.map pairByte = qs.map pairByte ↔ unsigned (flat ps) = unsigned (flat qs) := by
  induction ps generalizing qs with
  | nil => cases qs <;> simp [flat, unsigned]
  | cons p ps ih =>
    cases qs with
    | nil => simp [flat, unsigned]
    | cons q qs =>
      obtain ⟨hp, hps⟩ := List.forall_mem_cons.mp hps
      obtain ⟨hq, hqs⟩ := List.forall_mem_cons.mp hqs
      have hrest := ih hps hqs
      simp only [unsigned] at hrest
      simp only [List.map_cons, List.cons.injEq, pairByte_eq_iff hp hq, hrest, flat_cons, unsigned,
        and_assoc]

theorem keyArray_inj {as bs : List UInt8} (ha : as.length = 32) (hb : bs.length = 32) :
    keyArray as = keyArray bs ↔ as = bs := by
  refine ⟨fun h => List.ext_getElem (ha.trans hb.symm) fun i hi hi' => ?_, fun h => by rw [h]⟩
  have hentry := congrArg (fun array : Vector UInt8 32 => array[i]?) h
  have hlt : i < 32 := ha ▸ hi
  simpa [keyArray, hlt, hi, hi'] using hentry

/-- Two texts are read as one key if and only if both are read and are the same but for case and
signs. -/
theorem fromHex_same_iff {value other : String} :
    (∃ key, SecretMasterKey.fromHex value = .ok key ∧ SecretMasterKey.fromHex other = .ok key) ↔
      Readable (trim value.toList) ∧ Readable (trim other.toList) ∧
        unsigned (trim value.toList) = unsigned (trim other.toList) := by
  constructor
  · rintro ⟨key, hvalue, hother⟩
    obtain ⟨ps, hcount, hps, hflat, rfl⟩ := fromHex_ok_iff.mp hvalue
    obtain ⟨qs, hcount', hqs, hflat', hkey⟩ := fromHex_ok_iff.mp hother
    have harray := SecretMasterKey.mk.inj hkey
    rw [keyArray_inj (by rw [List.length_map, hcount]) (by rw [List.length_map, hcount']),
      map_pairByte_eq_iff hps hqs, ← hflat, ← hflat'] at harray
    exact ⟨⟨ps, hcount, hps, hflat⟩, ⟨qs, hcount', hqs, hflat'⟩, harray⟩
  · rintro ⟨⟨ps, hcount, hps, hflat⟩, ⟨qs, hcount', hqs, hflat'⟩, hunsigned⟩
    rw [hflat, hflat', ← map_pairByte_eq_iff hps hqs] at hunsigned
    exact ⟨⟨keyArray (ps.map pairByte)⟩, fromHex_ok_iff.mpr ⟨ps, hcount, hps, hflat, rfl⟩,
      fromHex_ok_iff.mpr ⟨qs, hcount', hqs, hflat', by rw [hunsigned]⟩⟩

/-! ### How it should be -/

theorem toLower_eq_plus {c : Char} : c.toLower = '+' ↔ c = '+' := by
  refine ⟨fun h => ?_, fun h => by rw [h]; rfl⟩
  unfold Char.toLower at h
  split at h
  · rename_i hupper
    have hval := congrArg (fun c : Char => c.val.toNat) h
    have hlow : 65 ≤ c.val.toNat := UInt32.le_iff_toNat_le.mp hupper.1
    have hhigh : c.val.toNat ≤ 90 := UInt32.le_iff_toNat_le.mp hupper.2
    simp only [UInt32.toNat_add] at hval
    have hshift : ('a'.val - 'A'.val).toNat = 32 := by decide
    have hplus : '+'.val.toNat = 43 := by decide
    rw [hshift, hplus] at hval
    omega
  · exact h

/-- Two characters are the same but for case if and only if they are the same but for case and
signs, and have their signs in common. -/
theorem toLower_eq_iff {c d : Char} :
    c.toLower = d.toLower ↔ unsignedDigit c = unsignedDigit d ∧ (c == '+') = (d == '+') := by
  by_cases hc : c = '+'
  · subst hc
    have hplus : '+'.toLower = '+' := rfl
    by_cases hd : d = '+'
    · simp [hd]
    · rw [hplus, eq_comm, toLower_eq_plus]
      simp [hd]
  · by_cases hd : d = '+'
    · subst hd
      have hplus : '+'.toLower = '+' := rfl
      rw [hplus, toLower_eq_plus]
      simp [hc]
    · simp [unsignedDigit, hc, hd]

theorem toAsciiLowercase_eq_iff {cs ds : List Char} :
    toAsciiLowercase cs = toAsciiLowercase ds ↔
      unsigned cs = unsigned ds ∧ signs cs = signs ds := by
  induction cs generalizing ds with
  | nil => cases ds <;> simp [toAsciiLowercase, unsigned, signs]
  | cons c cs ih =>
    cases ds with
    | nil => simp [toAsciiLowercase, unsigned, signs]
    | cons d ds =>
      simp only [toAsciiLowercase, unsigned, signs] at ih
      simp only [toAsciiLowercase, unsigned, signs, List.map_cons, List.cons.injEq, toLower_eq_iff,
        ih]
      tauto

/-- **The texts that are accepted are those of 64 digits, except for what can be read and has a
sign; and texts of one key are the same but for white space and case, except for those that are the
same but for signs.** -/
theorem fromHex_exact_iff (value other : String) :
    (((∃ key, SecretMasterKey.fromHex value = .ok key) ↔ IsHexKey (trim value.toList)) ↔
      ¬(Readable (trim value.toList) ∧ '+' ∈ trim value.toList)) ∧
    ((∀ key, SecretMasterKey.fromHex value = .ok key → SecretMasterKey.fromHex other = .ok key →
        toAsciiLowercase (trim value.toList) = toAsciiLowercase (trim other.toList)) ↔
      ¬SameButSigns value other) := by
  constructor
  · rw [fromHex_accepts_iff, isHexKey_iff]
    tauto
  · constructor
    · rintro hsame ⟨hvalue, hother, hunsigned, hsigns⟩
      obtain ⟨key, hkey, hkey'⟩ := fromHex_same_iff.mpr ⟨hvalue, hother, hunsigned⟩
      exact hsigns (toAsciiLowercase_eq_iff.mp (hsame key hkey hkey')).2
    · intro hnot key hkey hkey'
      obtain ⟨hvalue, hother, hunsigned⟩ := fromHex_same_iff.mp ⟨key, hkey, hkey'⟩
      refine toAsciiLowercase_eq_iff.mpr ⟨hunsigned, ?_⟩
      by_contra hsigns
      exact hnot ⟨hvalue, hother, hunsigned, hsigns⟩

/-- A text with a sign in the place of its first digit. -/
def signedKey : List Char := '+' :: 'f' :: List.replicate 62 '0'

/-- It is read as a key, although it is not 64 digits. -/
theorem fromHex_signedKey :
    (∃ key, SecretMasterKey.fromHex (String.ofList signedKey) = .ok key) ∧
      ¬IsHexKey (trim (String.ofList signedKey).toList) := by
  have htrim : trim signedKey = signedKey := by decide +kernel
  have hreadable : Readable signedKey := by
    refine ⟨('+', 'f') :: List.replicate 31 ('0', '0'), by decide, ?_, by decide +kernel⟩
    intro pair hpair
    obtain rfl | hzero := List.mem_cons.mp hpair
    · exact ⟨.inl rfl, by unfold IsHexDigit; decide⟩
    · rw [List.eq_of_mem_replicate hzero]
      exact ⟨.inr (by unfold IsHexDigit; decide), by unfold IsHexDigit; decide⟩
  rw [fromHex_accepts_iff, String.toList_ofList, htrim]
  exact ⟨hreadable, fun h => not_isHexDigit_plus (h.2 '+' List.mem_cons_self)⟩

end Lxcup.Secrets
