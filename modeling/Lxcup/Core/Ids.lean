import Lxcup.Lib.Text

/-!
# Identifiers and times

The identifiers of the domain: UUIDs in one wrapper type for each kind of object,
and the numeric container id; and points in time.

A UUID is the 128-bit number it is; its text form is the hyphenated one with
lower-case digits, and reading accepts what the `uuid` crate accepts: the
hyphenated form, bare, in braces or behind `urn:uuid:`, and the form without
hyphens, with digits of either case.

## Main definitions

* `Uuid`, `Uuid.toText`, `Uuid.parseStr`.
* `TargetId`, `NodeId`, `SecretId`, `AnsibleJobId`, `ContainerId`.

## Main results

* `Uuid.parseStr_toText` — a UUID reads back from its text.
* `Uuid.toText_injective` — different UUIDs have different texts.
-/

namespace Lxcup.Core

open Lxcup.Lib

/-- A UUID, as the 128-bit number it is. -/
structure Uuid where
  /-- The sixteen bytes, most significant first. -/
  bits : BitVec 128
  deriving DecidableEq, Repr, Inhabited

namespace Uuid

/-- The digit groups of the hyphenated form. -/
def groups : List Nat := [8, 4, 4, 4, 12]

/-- Put hyphens between the digit groups of the given widths. -/
def hyphenate : List Nat → List Char → List Char
  | [], cs => cs
  | [_], cs => cs
  | w :: ws, cs => cs.take w ++ '-' :: hyphenate ws (cs.drop w)

/-- Take the hyphens between digit groups of the given widths away again. -/
def unhyphenate : List Nat → List Char → Option (List Char)
  | [], cs => if cs = [] then some [] else none
  | [w], cs => if cs.length = w then some cs else none
  | w :: ws, cs =>
    match cs.drop w with
    | '-' :: rest => (unhyphenate ws rest).map (cs.take w ++ ·)
    | _ => none

/-- The hyphenated lower-case text of a UUID. -/
def toText (u : Uuid) : List Char := hyphenate groups (toHex 32 u.bits.toNat)

/-- A UUID from its 32 hexadecimal digits. -/
def parseSimple (cs : List Char) : Option Uuid :=
  if cs.length = 32 then (ofHex cs).map fun n => ⟨BitVec.ofNat 128 n⟩ else none

/-- A UUID from its hyphenated text. -/
def parseHyphenated (cs : List Char) : Option Uuid := (unhyphenate groups cs).bind parseSimple

/-- `Uuid::parse_str`: the length decides which of the accepted forms is read. -/
def parseStr (cs : List Char) : Option Uuid :=
  match cs.length with
  | 32 => parseSimple cs
  | 36 => parseHyphenated cs
  | 38 =>
    match cs with
    | '\x7b' :: rest =>
      if rest.getLast? = some '\x7d' then parseHyphenated rest.dropLast else none
    | _ => none
  | 45 => (stripPrefix "urn:uuid:".toList cs).bind parseHyphenated
  | _ => none

theorem unhyphenate_hyphenate {ws : List Nat} {cs : List Char} (hws : ws ≠ [])
    (h : cs.length = ws.sum) : unhyphenate ws (hyphenate ws cs) = some cs := by
  induction ws generalizing cs with
  | nil => exact absurd rfl hws
  | cons w ws ih =>
    cases ws with
    | nil =>
      have hw : cs.length = w := by simpa using h
      simp [hyphenate, unhyphenate, hw]
    | cons w' ws =>
      have hw : (cs.take w).length = w := by
        simp only [List.sum_cons] at h
        rw [List.length_take]
        omega
      have hrest := @ih (cs.drop w) (by simp) (by simp_all)
      simp only [hyphenate, unhyphenate, List.drop_left' hw, List.take_left' hw, hrest,
        Option.map_some, List.take_append_drop]

theorem parseSimple_toHex (u : Uuid) : parseSimple (toHex 32 u.bits.toNat) = some u := by
  have hlt : u.bits.toNat % 16 ^ 32 = u.bits.toNat := Nat.mod_eq_of_lt u.bits.isLt
  rw [parseSimple, if_pos (length_toHex 32 _), ofHex_toHex, hlt]
  simp

theorem length_toText (u : Uuid) : u.toText.length = 36 := by
  simp [toText, groups, hyphenate]

/-- **A UUID reads back from its text.** -/
theorem parseStr_toText (u : Uuid) : parseStr u.toText = some u := by
  have hyp : unhyphenate groups u.toText = some (toHex 32 u.bits.toNat) :=
    unhyphenate_hyphenate (by decide) (by simp [groups])
  simp only [parseStr, length_toText, parseHyphenated, hyp, Option.bind_some, parseSimple_toHex]

theorem toText_injective {u v : Uuid} (h : u.toText = v.toText) : u = v := by
  have hu := parseStr_toText u
  rw [h, parseStr_toText] at hu
  exact (Option.some.inj hu).symm

end Uuid

/-- Points in time, in nanoseconds since the epoch. -/
abbrev Timestamp := Int

/-- The id of a managed target. -/
structure TargetId where
  uuid : Uuid
  deriving DecidableEq, Repr, Inhabited

/-- The id of a node. -/
structure NodeId where
  uuid : Uuid
  deriving DecidableEq, Repr, Inhabited

/-- The id of a stored secret. -/
structure SecretId where
  uuid : Uuid
  deriving DecidableEq, Repr, Inhabited

/-- The id of an Ansible job. -/
structure AnsibleJobId where
  uuid : Uuid
  deriving DecidableEq, Repr, Inhabited

/-- The id of the enrollment of a container. -/
structure EnrollmentId where
  uuid : Uuid
  deriving DecidableEq, Repr, Inhabited

/-- The numeric id of an LXC record. -/
structure ContainerId where
  value : UInt64
  deriving DecidableEq, Repr, Inhabited

end Lxcup.Core
