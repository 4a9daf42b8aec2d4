import Lxcup.Lib.Table
import Mathlib.Data.Finset.Card

/-!
# How many entries of a table meet a condition

## Main results

* `Table.countP_values_put`, `Table.countP_values_remove_le` — after a value was stored under a new
  key, and after one was removed.
* `Table.card_le_countP_values` — as many as there are different keys for.
-/

namespace Lxcup.Lib.Table

universe u v w

variable {κ : Type u} {ν : Type v} [DecidableEq κ] {m : Table κ ν} {p : ν → Bool}

theorem countP_values_put {k : κ} {v : ν} (h : m.get k = none) :
    (m.put k v).values.countP p = m.values.countP p + if p v then 1 else 0 := by
  have hfresh : k ∉ m.entries.keys := by
    intro hmem
    obtain ⟨w, hw⟩ := mem_keys.mp hmem
    rw [h] at hw
    cases hw
  have hentries : (m.put k v).entries = ⟨k, v⟩ :: m.entries := by
    rw [put, AList.entries_insert, List.kerase_of_notMem_keys hfresh]
  rw [values, hentries, List.map_cons, List.countP_cons]
  rfl

theorem countP_values_remove_le (k : κ) :
    (m.remove k).values.countP p ≤ m.values.countP p :=
  ((List.kerase_sublist k m.entries).map _).countP_le

/-- Values under different keys are counted on their own. -/
theorem card_le_countP_values {ι : Type w} {s : Finset ι} {f : ι → κ} (hinj : Set.InjOn f s)
    (h : ∀ i ∈ s, ∃ v, m.get (f i) = some v ∧ p v = true) : s.card ≤ m.values.countP p := by
  classical
  let keys := (m.entries.filter fun entry => p entry.2).map Sigma.fst
  have hlength : m.values.countP p = keys.length := by
    rw [values, List.countP_map, List.countP_eq_length_filter, List.length_map]
    rfl
  have hsubset : s.image f ⊆ keys.toFinset := by
    intro k hk
    obtain ⟨i, hi, rfl⟩ := Finset.mem_image.mp hk
    obtain ⟨v, hget, hp⟩ := h i hi
    rw [List.mem_toFinset, List.mem_map]
    exact ⟨⟨f i, v⟩, List.mem_filter.mpr ⟨get_eq_some_iff.mp hget, hp⟩, rfl⟩
  calc
    s.card = (s.image f).card := (Finset.card_image_of_injOn hinj).symm
    _ ≤ keys.toFinset.card := Finset.card_le_card hsubset
    _ ≤ keys.length := keys.toFinset_card_le
    _ = m.values.countP p := hlength.symm

end Lxcup.Lib.Table
