import Mathlib.Data.List.Sort

/-!
# Searching lists, and changing one entry

The entry that a search finds, changed in place, the entries equal to one taken out, the search in
a sorted list, and neighbours with one key reduced to the first of them.

## Main definitions

* `replaceFirst` — the list with the first entry that satisfies a test replaced.
* `dedupByKey` — of neighbours with the same key only the first, and how many others there were.

## Main results

* `mem_replaceFirst` — an entry afterwards is the new one or was there before.
* `find?_replaceFirst`, `find?_replaceFirst_ne` — what searches find afterwards.
* `map_replaceFirst` — what stays the same in all entries.
* `filter_ne_of_notMem` — nothing to take out.
* `find?_insertionSort`, `find?_insertionSort_eq_none` — a search in the sorted list finds the
  first in the order.
* `count_dedupByKey` — every entry is counted or stays.
* `pairwise_dedupByKey` — a list in the order of its keys is strictly in this order afterwards.
* `exists_mem_dedupByKey` — no key is lost.
-/

namespace Lxcup.Lib

universe u

variable {α : Type u}

/-- A list of even length goes on with two entries. -/
theorem exists_cons_cons {n : Nat} {as : List α} (h : as.length = 2 * (n + 1)) :
    ∃ a b rest, as = a :: b :: rest ∧ rest.length = 2 * n := by
  obtain _ | ⟨a, _ | ⟨b, rest⟩⟩ := as
  · simp at h
  · simp only [List.length_cons, List.length_nil] at h
    omega
  · simp only [List.length_cons] at h
    exact ⟨a, b, rest, rfl, by omega⟩

/-- The list with the first entry that satisfies `p` replaced. -/
def replaceFirst (p : α → Bool) (new : α) : List α → List α
  | [] => []
  | a :: as => if p a then new :: as else a :: replaceFirst p new as

theorem mem_replaceFirst {p : α → Bool} {new b : α} {as : List α}
    (h : b ∈ replaceFirst p new as) : b = new ∨ b ∈ as := by
  induction as with
  | nil => cases h
  | cons a as ih =>
    simp only [replaceFirst] at h
    split at h
    case isTrue =>
      rcases List.mem_cons.mp h with hb | hb
      · exact .inl hb
      · exact .inr (List.mem_cons_of_mem _ hb)
    case isFalse =>
      rcases List.mem_cons.mp h with hb | hb
      · exact .inr (hb ▸ List.mem_cons_self)
      · rcases ih hb with hnew | hold
        · exact .inl hnew
        · exact .inr (List.mem_cons_of_mem _ hold)

/-- An entry that fails the test stays. -/
theorem mem_replaceFirst_of_not {p : α → Bool} {new b : α} {as : List α} (h : b ∈ as)
    (hb : p b = false) : b ∈ replaceFirst p new as := by
  induction as with
  | nil => cases h
  | cons a as ih =>
    simp only [replaceFirst]
    rcases List.mem_cons.mp h with rfl | h
    · rw [if_neg (by rw [hb]; decide)]
      exact List.mem_cons_self
    · split
      case isTrue => exact List.mem_cons_of_mem _ h
      case isFalse => exact List.mem_cons_of_mem _ (ih h)

/-- The new entry is there once some entry has passed the test. -/
theorem mem_replaceFirst_self {p : α → Bool} {new b : α} {as : List α} (h : b ∈ as)
    (hb : p b = true) : new ∈ replaceFirst p new as := by
  induction as with
  | nil => cases h
  | cons a as ih =>
    simp only [replaceFirst]
    split
    case isTrue => exact List.mem_cons_self
    case isFalse ha =>
      rcases List.mem_cons.mp h with rfl | h
      · exact absurd hb ha
      · exact List.mem_cons_of_mem _ (ih h)

/-- What the search finds afterwards is the new entry, if that passes the test. -/
theorem find?_replaceFirst {p : α → Bool} {new a : α} {as : List α} (h : as.find? p = some a)
    (hnew : p new = true) : (replaceFirst p new as).find? p = some new := by
  induction as with
  | nil => cases h
  | cons b as ih =>
    simp only [replaceFirst]
    by_cases hb : p b = true
    · simp [hb, hnew]
    · rw [List.find?_cons_of_neg hb] at h
      rw [if_neg hb, List.find?_cons_of_neg hb]
      exact ih h

/-- A search that the entry found and the new one fail alike finds what it found before. -/
theorem find?_replaceFirst_ne {p q : α → Bool} {new a : α} {as : List α}
    (h : as.find? p = some a) (hnew : q new = false) (hold : q a = false) :
    (replaceFirst p new as).find? q = as.find? q := by
  induction as with
  | nil => cases h
  | cons b as ih =>
    simp only [replaceFirst]
    by_cases hb : p b = true
    · rw [List.find?_cons_of_pos hb] at h
      obtain rfl := Option.some.inj h
      simp [hb, hnew, hold]
    · rw [List.find?_cons_of_neg hb] at h
      rw [if_neg hb, List.find?_cons, List.find?_cons, ih h]

/-- What the entries that pass the test have in common with the new one stays as it is. -/
theorem map_replaceFirst {β : Type*} {f : α → β} {p : α → Bool} {new : α} {as : List α}
    (h : ∀ a, p a = true → f a = f new) : (replaceFirst p new as).map f = as.map f := by
  induction as with
  | nil => rfl
  | cons a as ih =>
    simp only [replaceFirst]
    split
    case isTrue ha => rw [List.map_cons, List.map_cons, h a ha]
    case isFalse => rw [List.map_cons, List.map_cons, ih]

/-- Taking out what is not there. -/
theorem filter_ne_of_notMem [DecidableEq α] {a : α} {as : List α} (h : a ∉ as) :
    as.filter (fun b => b ≠ a) = as := by
  rw [List.filter_eq_self]
  intro b hb
  exact decide_eq_true fun heq => h (heq ▸ hb)

/-- The first entry of a sorted list that passes a test comes before all others that do. -/
theorem find?_pairwise {r : α → α → Prop} [Std.Refl r] {p : α → Bool} {a : α} {as : List α}
    (hsorted : as.Pairwise r) (h : as.find? p = some a) {b : α} (hb : b ∈ as) (hp : p b = true) :
    r a b := by
  induction as with
  | nil => cases hb
  | cons c as ih =>
    obtain ⟨hfirst, hrest⟩ := List.pairwise_cons.mp hsorted
    by_cases hc : p c = true
    · rw [List.find?_cons_of_pos hc] at h
      obtain rfl := Option.some.inj h
      rcases List.mem_cons.mp hb with rfl | hb
      · exact Std.Refl.refl _
      · exact hfirst b hb
    · rw [List.find?_cons_of_neg hc] at h
      rcases List.mem_cons.mp hb with rfl | hb
      · exact absurd hp hc
      · exact ih hrest h hb

variable {r : α → α → Prop} [DecidableRel r]

/-- A search in the sorted list finds the first in the order of those that pass the test. -/
theorem find?_insertionSort [Std.Total r] [IsTrans α r] {p : α → Bool} {a : α} {as : List α}
    (h : (as.insertionSort r).find? p = some a) :
    a ∈ as ∧ p a = true ∧ ∀ b ∈ as, p b = true → r a b := by
  have hmem : ∀ b, b ∈ as.insertionSort r ↔ b ∈ as := fun b => List.mem_insertionSort r
  refine ⟨(hmem a).mp (List.mem_of_find?_eq_some h), List.find?_some h, fun b hb hp => ?_⟩
  exact find?_pairwise (List.pairwise_insertionSort r as) h ((hmem b).mpr hb) hp

theorem find?_insertionSort_eq_none {p : α → Bool} {as : List α} :
    (as.insertionSort r).find? p = none ↔ ∀ a ∈ as, p a = false := by
  simp only [List.find?_eq_none, List.mem_insertionSort, Bool.not_eq_true]

/-- **Sorted lists are equal if and only if the lists have the same entries**, as often as they
have them. -/
theorem insertionSort_eq_iff_perm [Std.Total r] [IsTrans α r] [Std.Antisymm r] {as bs : List α} :
    as.insertionSort r = bs.insertionSort r ↔ as.Perm bs := by
  have has := List.perm_insertionSort r as
  have hbs := List.perm_insertionSort r bs
  constructor
  · intro heq
    exact has.symm.trans (heq ▸ hbs)
  · intro hperm
    exact List.Perm.eq_of_pairwise' (List.pairwise_insertionSort r as)
      (List.pairwise_insertionSort r bs) (has.trans (hperm.trans hbs.symm))

/-! ### Neighbours with one key -/

section Dedup

universe v

variable {κ : Type v} [DecidableEq κ] (key : α → κ)

/-- `dedupByKey` behind an entry that stays. -/
def dedupAfter : α → List α → Nat × List α
  | left, [] => (0, [left])
  | left, right :: rest =>
    if key right = key left then
      let deduped := dedupAfter left rest
      (deduped.1 + 1, deduped.2)
    else
      let deduped := dedupAfter right rest
      (deduped.1, left :: deduped.2)

/-- Of neighbours with the same key the first stays; the others are counted. -/
def dedupByKey : List α → Nat × List α
  | [] => (0, [])
  | a :: as => dedupAfter key a as

variable {key}

theorem count_dedupAfter (left : α) (as : List α) :
    (dedupAfter key left as).1 + (dedupAfter key left as).2.length = as.length + 1 := by
  induction as generalizing left with
  | nil => rfl
  | cons right rest ih =>
    unfold dedupAfter
    split
    case isTrue =>
      have hrest := ih left
      simp only [List.length_cons]
      omega
    case isFalse =>
      have hrest := ih right
      simp only [List.length_cons]
      omega

/-- **Every entry is counted or stays.** -/
theorem count_dedupByKey (as : List α) :
    (dedupByKey key as).1 + (dedupByKey key as).2.length = as.length := by
  cases as with
  | nil => rfl
  | cons a as => exact count_dedupAfter a as

theorem mem_of_mem_dedupAfter {left b : α} {as : List α} (h : b ∈ (dedupAfter key left as).2) :
    b ∈ left :: as := by
  induction as generalizing left with
  | nil => exact h
  | cons right rest ih =>
    unfold dedupAfter at h
    split at h
    case isTrue =>
      rcases List.mem_cons.mp (ih h) with rfl | hrest
      · exact List.mem_cons_self
      · exact List.mem_cons_of_mem _ (List.mem_cons_of_mem _ hrest)
    case isFalse =>
      rcases List.mem_cons.mp h with rfl | hrest
      · exact List.mem_cons_self
      · exact List.mem_cons_of_mem _ (ih hrest)

theorem mem_of_mem_dedupByKey {b : α} {as : List α} (h : b ∈ (dedupByKey key as).2) : b ∈ as := by
  cases as with
  | nil => exact h
  | cons a as => exact mem_of_mem_dedupAfter h

theorem exists_mem_dedupAfter {left a : α} {as : List α} (h : a ∈ left :: as) :
    ∃ b ∈ (dedupAfter key left as).2, key b = key a := by
  induction as generalizing left a with
  | nil => exact ⟨a, h, rfl⟩
  | cons right rest ih =>
    unfold dedupAfter
    split
    case isTrue hsame =>
      rcases List.mem_cons.mp h with rfl | htail
      · exact ih List.mem_cons_self
      · rcases List.mem_cons.mp htail with rfl | hrest
        · obtain ⟨b, hb, hkey⟩ := ih (a := left) List.mem_cons_self
          exact ⟨b, hb, hkey.trans hsame.symm⟩
        · exact ih (List.mem_cons_of_mem _ hrest)
    case isFalse =>
      rcases List.mem_cons.mp h with rfl | htail
      · exact ⟨a, List.mem_cons_self, rfl⟩
      · obtain ⟨b, hb, hkey⟩ := ih htail
        exact ⟨b, List.mem_cons_of_mem _ hb, hkey⟩

/-- **No key is lost.** -/
theorem exists_mem_dedupByKey {a : α} {as : List α} (h : a ∈ as) :
    ∃ b ∈ (dedupByKey key as).2, key b = key a := by
  cases as with
  | nil => cases h
  | cons first rest => exact exists_mem_dedupAfter h

end Dedup

section Sorted

universe v

variable {κ : Type v} [LinearOrder κ] {key : α → κ}

theorem pairwise_dedupAfter {left : α} {as : List α}
    (hsorted : (left :: as).Pairwise fun a b => key a ≤ key b) :
    (dedupAfter key left as).2.Pairwise fun a b => key a < key b := by
  induction as generalizing left with
  | nil => exact List.pairwise_singleton _ _
  | cons right rest ih =>
    obtain ⟨hleft, htail⟩ := List.pairwise_cons.mp hsorted
    obtain ⟨hright, hrest⟩ := List.pairwise_cons.mp htail
    unfold dedupAfter
    split
    case isTrue =>
      have hkept : (left :: rest).Pairwise fun a b => key a ≤ key b :=
        List.pairwise_cons.mpr ⟨fun b hb => hleft b (List.mem_cons_of_mem _ hb), hrest⟩
      exact ih hkept
    case isFalse hne =>
      refine List.pairwise_cons.mpr ⟨fun b hb => ?_, ih htail⟩
      -- the next key is larger, and the later ones are not smaller than it
      have hnext : key left < key right :=
        lt_of_le_of_ne (hleft right List.mem_cons_self) fun heq => hne heq.symm
      rcases List.mem_cons.mp (mem_of_mem_dedupAfter hb) with rfl | hlater
      · exact hnext
      · exact hnext.trans_le (hright b hlater)

/-- **A list in the order of its keys is strictly in this order afterwards.** -/
theorem pairwise_dedupByKey {as : List α} (hsorted : as.Pairwise fun a b => key a ≤ key b) :
    (dedupByKey key as).2.Pairwise fun a b => key a < key b := by
  cases as with
  | nil => exact List.Pairwise.nil
  | cons a as => exact pairwise_dedupAfter hsorted

end Sorted

end Lxcup.Lib
