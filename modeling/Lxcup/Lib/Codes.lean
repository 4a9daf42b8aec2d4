import Lxcup.Lib.Numerals

/-!
# Self-delimiting codes

A code is self-delimiting if it can be read off the beginning of a text, whatever follows.  Texts
that are put together of such codes determine what they were made of.  The texts of JSON are made
this way: strings end at a quote that is not escaped, lists at a bracket, and numbers at the
character behind them.

## Main definitions

* `SelfDelimiting` — codes that can be read off the beginning of a text.
* `jsonString`, `jsonNumber`, `jsonOption`, `jsonArray` — values as a JSON writer writes them.

## Main results

* `SelfDelimiting.pair`, `SelfDelimiting.items` — codes of pairs and of lists.
* `SelfDelimiting.of_length`, `SelfDelimiting.of_read`, `SelfDelimiting.terminated` — how codes
  come to be self-delimiting.
* `SelfDelimiting.flatMap_injective` — joined codes determine the list.
* `selfDelimiting_jsonString`, `selfDelimiting_jsonArray` — strings and lists of JSON.
-/

namespace Lxcup.Lib

universe u v

variable {α : Type u} {β : Type v}

/-- The code of a value can be read off the beginning of a text. -/
def SelfDelimiting (code : α → List β) : Prop :=
  ∀ ⦃a b : α⦄ ⦃s t : List β⦄, code a ++ s = code b ++ t → a = b ∧ s = t

namespace SelfDelimiting

variable {code : α → List β}

theorem injective (h : SelfDelimiting code) : Function.Injective code := by
  intro a b hab
  have hread : code a ++ [] = code b ++ [] := by rw [hab]
  exact (h hread).1

/-- One code after another. -/
theorem pair {γ : Type*} {code' : γ → List β} (h : SelfDelimiting code)
    (h' : SelfDelimiting code') : SelfDelimiting fun p : α × γ => code p.1 ++ code' p.2 := by
  intro p q s t heq
  rw [List.append_assoc, List.append_assoc] at heq
  obtain ⟨hfirst, hrest⟩ := h heq
  obtain ⟨hsecond, hrest⟩ := h' hrest
  exact ⟨Prod.ext hfirst hsecond, hrest⟩

/-- A code between two texts that are always the same. -/
theorem between (h : SelfDelimiting code) (pre post : List β) :
    SelfDelimiting fun a => pre ++ (code a ++ post) := by
  intro a b s t heq
  rw [List.append_assoc, List.append_assoc, List.append_assoc, List.append_assoc] at heq
  obtain ⟨hcode, hrest⟩ := h (List.append_cancel_left heq)
  exact ⟨hcode, List.append_cancel_left hrest⟩

/-- The code of a value by what it is made of. -/
theorem comp {γ : Type*} (h : SelfDelimiting code) {parts : γ → α}
    (hparts : Function.Injective parts) : SelfDelimiting fun c => code (parts c) := by
  intro a b s t heq
  obtain ⟨hcode, hrest⟩ := h heq
  exact ⟨hparts hcode, hrest⟩

/-- Codes of one length. -/
theorem of_length {n : Nat} (hinjective : Function.Injective code)
    (hlength : ∀ a, (code a).length = n) : SelfDelimiting code := by
  intro a b s t h
  obtain ⟨hcode, hrest⟩ := List.append_inj h (by rw [hlength, hlength])
  exact ⟨hinjective hcode, hrest⟩

/-- Codes with a reader. -/
theorem of_read (read : List β → Option (α × List β))
    (hread : ∀ a s, read (code a ++ s) = some (a, s)) : SelfDelimiting code := by
  intro a b s t h
  have heq := hread a s
  rw [h, hread b t] at heq
  obtain ⟨rfl, rfl⟩ := Prod.mk.inj (Option.some.inj heq)
  exact ⟨rfl, rfl⟩

/-- Codes that end at a symbol which is not in them. -/
theorem terminated {stop : β} (hinjective : Function.Injective code)
    (hstop : ∀ a, stop ∉ code a) : SelfDelimiting fun a => code a ++ [stop] := by
  have hread : ∀ u v s t : List β, stop ∉ u → stop ∉ v → u ++ stop :: s = v ++ stop :: t →
      u = v ∧ s = t := by
    intro u
    induction u with
    | nil =>
      intro v s t _ hv h
      cases v with
      | nil => exact ⟨rfl, (List.cons.inj h).2⟩
      | cons c v =>
        obtain ⟨rfl, -⟩ := List.cons.inj h
        exact absurd List.mem_cons_self hv
    | cons c u ih =>
      intro v s t hu hv h
      cases v with
      | nil =>
        obtain ⟨rfl, -⟩ := List.cons.inj h
        exact absurd List.mem_cons_self hu
      | cons d v =>
        obtain ⟨rfl, htail⟩ := List.cons.inj h
        obtain ⟨rfl, hrest⟩ := ih v s t (fun hmem => hu (List.mem_cons_of_mem _ hmem))
          (fun hmem => hv (List.mem_cons_of_mem _ hmem)) htail
        exact ⟨rfl, hrest⟩
  intro a b s t h
  rw [List.append_assoc, List.append_assoc] at h
  obtain ⟨hcode, hrest⟩ := hread _ _ s t (hstop a) (hstop b) h
  exact ⟨hinjective hcode, hrest⟩

/-- Lists of codes up to a symbol that begins none of them. -/
theorem items (h : SelfDelimiting code) {stop : β} (hstop : ∀ a s t, code a ++ s ≠ stop :: t) :
    SelfDelimiting fun as : List α => as.flatMap code ++ [stop] := by
  intro as
  induction as with
  | nil =>
    intro bs s t heq
    cases bs with
    | nil => exact ⟨rfl, (List.cons.inj heq).2⟩
    | cons b bs =>
      simp only [List.flatMap_cons, List.append_assoc] at heq
      exact absurd heq.symm (hstop b _ _)
  | cons a as ih =>
    intro bs s t heq
    cases bs with
    | nil =>
      simp only [List.flatMap_cons, List.append_assoc] at heq
      exact absurd heq (hstop a _ _)
    | cons b bs =>
      simp only [List.flatMap_cons, List.append_assoc] at heq
      obtain ⟨rfl, hrest⟩ := h heq
      obtain ⟨rfl, rfl⟩ := ih (by simpa only [List.append_assoc] using hrest)
      exact ⟨rfl, rfl⟩

/-- **Joined codes determine the list.** -/
theorem flatMap_injective (h : SelfDelimiting code) (hne : ∀ a, code a ≠ []) :
    Function.Injective (List.flatMap code) := by
  intro as
  induction as with
  | nil =>
    intro bs heq
    cases bs with
    | nil => rfl
    | cons b bs =>
      rw [List.flatMap_nil, List.flatMap_cons] at heq
      exact absurd (List.append_eq_nil_iff.mp heq.symm).1 (hne b)
  | cons a as ih =>
    intro bs heq
    cases bs with
    | nil =>
      rw [List.flatMap_nil, List.flatMap_cons] at heq
      exact absurd (List.append_eq_nil_iff.mp heq).1 (hne a)
    | cons b bs =>
      obtain ⟨rfl, hrest⟩ := h heq
      rw [ih hrest]

end SelfDelimiting

/-! ### Bytes in hexadecimal digits -/

/-- Two digits for a byte. -/
def hexByte (byte : UInt8) : List Char := toHex 2 byte.toNat

theorem selfDelimiting_hexByte : SelfDelimiting hexByte := by
  refine .of_length (n := 2) (fun a b h => ?_) fun a => length_toHex 2 a.toNat
  have hread := congrArg ofHex h
  have ha : a.toNat < 16 ^ 2 := a.toNat_lt
  have hb : b.toNat < 16 ^ 2 := b.toNat_lt
  rw [hexByte, hexByte, ofHex_toHex, ofHex_toHex, Nat.mod_eq_of_lt ha, Nat.mod_eq_of_lt hb] at hread
  exact UInt8.toNat_inj.mp (Option.some.inj hread)

/-- **Different byte sequences have different hexadecimal texts.** -/
theorem flatMap_hexByte_injective : Function.Injective (List.flatMap hexByte) := by
  refine selfDelimiting_hexByte.flatMap_injective fun a hnil => ?_
  have hlength := length_toHex 2 a.toNat
  rw [← hexByte, hnil] at hlength
  cases hlength

/-! ### Values of JSON -/

/-- A character in a JSON string. -/
def jsonEscape (c : Char) : List Char :=
  if c = '"' then ['\\', '"']
  else if c = '\\' then ['\\', '\\']
  else if c.toNat = 8 then ['\\', 'b']
  else if c.toNat = 9 then ['\\', 't']
  else if c.toNat = 10 then ['\\', 'n']
  else if c.toNat = 12 then ['\\', 'f']
  else if c.toNat = 13 then ['\\', 'r']
  else if c.toNat < 32 then '\\' :: 'u' :: toHex 4 c.toNat
  else [c]

/-- Read a character of a JSON string. -/
def readEscape : List Char → Option (Char × List Char)
  | '\\' :: '"' :: cs => some ('"', cs)
  | '\\' :: '\\' :: cs => some ('\\', cs)
  | '\\' :: 'b' :: cs => some (Char.ofNat 8, cs)
  | '\\' :: 't' :: cs => some (Char.ofNat 9, cs)
  | '\\' :: 'n' :: cs => some (Char.ofNat 10, cs)
  | '\\' :: 'f' :: cs => some (Char.ofNat 12, cs)
  | '\\' :: 'r' :: cs => some (Char.ofNat 13, cs)
  | '\\' :: 'u' :: cs => (ofHex (cs.take 4)).map fun n => (Char.ofNat n, cs.drop 4)
  | c :: cs => some (c, cs)
  | [] => none

theorem readEscape_jsonEscape (c : Char) (cs : List Char) :
    readEscape (jsonEscape c ++ cs) = some (c, cs) := by
  have hchar : ∀ n, c.toNat = n → Char.ofNat n = c := by
    rintro n rfl
    exact Char.ofNat_toNat c
  unfold jsonEscape
  split
  · rename_i hquote
    rw [hquote]
    rfl
  split
  · rename_i hbackslash
    rw [hbackslash]
    rfl
  split
  · rename_i h
    exact congrArg (fun d => some (d, cs)) (hchar 8 h)
  split
  · rename_i h
    exact congrArg (fun d => some (d, cs)) (hchar 9 h)
  split
  · rename_i h
    exact congrArg (fun d => some (d, cs)) (hchar 10 h)
  split
  · rename_i h
    exact congrArg (fun d => some (d, cs)) (hchar 12 h)
  split
  · rename_i h
    exact congrArg (fun d => some (d, cs)) (hchar 13 h)
  split
  · rename_i h
    have hsmall : c.toNat < 16 ^ 4 := by omega
    have htake : (toHex 4 c.toNat ++ cs).take 4 = toHex 4 c.toNat :=
      List.take_left' (length_toHex 4 c.toNat)
    have hdrop : (toHex 4 c.toNat ++ cs).drop 4 = cs := List.drop_left' (length_toHex 4 c.toNat)
    change (ofHex ((toHex 4 c.toNat ++ cs).take 4)).map
      (fun n => (Char.ofNat n, (toHex 4 c.toNat ++ cs).drop 4)) = _
    rw [htake, hdrop, ofHex_toHex, Nat.mod_eq_of_lt hsmall, Option.map_some, Char.ofNat_toNat]
  · rename_i hbackslash _ _ _ _ _ _
    rw [List.singleton_append, readEscape.eq_9]
    all_goals
      rintro _ rfl
      exact absurd rfl hbackslash

/-- A string between quotes. -/
def jsonString (text : String) : List Char := '"' :: (text.toList.flatMap jsonEscape ++ ['"'])

/-- No character is written as the quote that ends a string. -/
theorem jsonEscape_ne_quote (c : Char) (s t : List Char) : jsonEscape c ++ s ≠ '"' :: t := by
  intro heq
  have hread := readEscape_jsonEscape c s
  rw [heq, readEscape.eq_9 _ _ (by simp) (by simp) (by simp) (by simp) (by simp) (by simp) (by simp)
    (by simp)] at hread
  obtain ⟨rfl, -⟩ := Prod.mk.inj (Option.some.inj hread)
  cases heq

theorem selfDelimiting_jsonString : SelfDelimiting jsonString := by
  intro a b s t h
  have hescape : SelfDelimiting jsonEscape := .of_read readEscape readEscape_jsonEscape
  obtain ⟨htext, hrest⟩ := hescape.items jsonEscape_ne_quote (List.cons.inj h).2
  exact ⟨String.toList_inj.mp htext, hrest⟩

/-- A number, without what ends it. -/
def jsonNumber (n : Nat) : List Char := Nat.toDigits 10 n

theorem selfDelimiting_jsonNumber {stop : Char} (hstop : stop.isDigit = false) :
    SelfDelimiting fun n => jsonNumber n ++ [stop] := by
  refine .terminated (fun a b h => ?_) fun n hmem => ?_
  · have hread := congrArg (fun digits => Nat.ofDigitChars 10 digits 0) h
    simpa only [jsonNumber, Nat.ofDigitChars_ten_toDigits] using hread
  · rw [Nat.isDigit_of_mem_toDigits (by decide) (by decide) hmem] at hstop
    cases hstop

/-- A value that may be missing. -/
def jsonOption (code : α → List Char) : Option α → List Char
  | none => "null".toList
  | some a => code a

theorem selfDelimiting_jsonOption {code : α → List Char} (h : SelfDelimiting code)
    (hnull : ∀ a s t, code a ++ s ≠ 'n' :: t) : SelfDelimiting (jsonOption code) := by
  intro a b s t heq
  cases a with
  | none =>
    cases b with
    | none => exact ⟨rfl, List.append_cancel_left heq⟩
    | some b => exact absurd heq.symm (hnull b _ _)
  | some a =>
    cases b with
    | none => exact absurd heq (hnull a _ _)
    | some b =>
      obtain ⟨rfl, hrest⟩ := h heq
      exact ⟨rfl, hrest⟩

/-- The values of a list between brackets, with commas between them. -/
def jsonArray (code : α → List Char) : List α → List Char
  | [] => "[]".toList
  | a :: as => '[' :: (code a ++ (as.flatMap (fun a => ',' :: code a) ++ [']']))

theorem selfDelimiting_jsonArray {code : α → List Char} (h : SelfDelimiting code)
    (hclose : ∀ a s t, code a ++ s ≠ ']' :: t) : SelfDelimiting (jsonArray code) := by
  have hitems : SelfDelimiting fun a => ',' :: code a := by
    intro a b s t heq
    exact h (List.cons.inj heq).2
  have hlist := @SelfDelimiting.items _ _ _ hitems ']' fun a s t heq => by cases heq
  intro as bs s t heq
  cases as with
  | nil =>
    cases bs with
    | nil => exact ⟨rfl, List.append_cancel_left heq⟩
    | cons b bs =>
      have htail := (List.cons.inj heq).2
      simp only [List.append_eq, List.append_assoc] at htail
      exact absurd htail.symm (hclose b _ _)
  | cons a as =>
    cases bs with
    | nil =>
      have htail := (List.cons.inj heq).2
      simp only [List.append_eq, List.append_assoc] at htail
      exact absurd htail (hclose a _ _)
    | cons b bs =>
      have htail := (List.cons.inj heq).2
      simp only [List.append_eq, List.append_assoc] at htail
      obtain ⟨rfl, hrest⟩ := h htail
      obtain ⟨rfl, rfl⟩ := hlist (by simpa only [List.append_assoc] using hrest)
      exact ⟨rfl, rfl⟩

end Lxcup.Lib
