import Mathlib.Data.List.AList

/-!
# Finite tables

A finite table from keys to values, as an association list without repeated keys.
It stands both for the hash maps of the program and for database tables with a
primary key.  Nothing here depends on the order in which entries are stored; it is
the order in which the entries were last written, newest first.

## Main definitions

* `Table` — finite tables.
* `Table.get`, `Table.put`, `Table.remove`, `Table.retain`, `Table.mapValues`, `Table.values`,
  `Table.any`.

## Main results

* `Table.get_put`, `Table.get_remove`, `Table.get_retain`, `Table.get_mapValues` — the lookup
  after each operation, with the case distinction on the key inside the statement.
* `Table.get_put_cases` — what is found is the new value or an old one.
* `Table.mem_values`, `Table.any_eq_true` — values and entries are those found by a lookup.
-/

namespace Lxcup.Lib

universe u v

/-- Finite tables from `κ` to `ν`. -/
abbrev Table (κ : Type u) (ν : Type v) := AList fun _ : κ => ν

namespace Table

variable {κ : Type u} {ν : Type v} [DecidableEq κ]

/-- The value stored under a key. -/
def get (m : Table κ ν) (k : κ) : Option ν := m.lookup k

/-- Store a value under a key, over any older one. -/
def put (m : Table κ ν) (k : κ) (v : ν) : Table κ ν := m.insert k v

/-- Drop the entry of a key. -/
def remove (m : Table κ ν) (k : κ) : Table κ ν := m.erase k

/-- Keep the entries that satisfy `p`. -/
def retain (m : Table κ ν) (p : κ → ν → Bool) : Table κ ν where
  entries := m.entries.filter fun e => p e.1 e.2
  nodupKeys := m.nodupKeys.sublist List.filter_sublist

/-- Change every value. -/
def mapValues (m : Table κ ν) (f : κ → ν → ν) : Table κ ν where
  entries := m.entries.map fun e => ⟨e.1, f e.1 e.2⟩
  nodupKeys := by
    simpa [List.NodupKeys, List.keys, Function.comp_def] using m.nodupKeys

/-- The stored values. -/
def values (m : Table κ ν) : List ν := m.entries.map fun e => e.2

/-- Some entry satisfies `p`. -/
def any (m : Table κ ν) (p : κ → ν → Bool) : Bool := m.entries.any fun e => p e.1 e.2

@[simp] theorem get_empty (k : κ) : get (∅ : Table κ ν) k = none := AList.lookup_empty k

theorem get_put (m : Table κ ν) (k k' : κ) (v : ν) :
    (m.put k v).get k' = if k' = k then some v else m.get k' := by
  unfold get put
  split
  case isTrue h => rw [h, AList.lookup_insert]
  case isFalse h => exact AList.lookup_insert_ne h

@[simp] theorem get_put_self (m : Table κ ν) (k : κ) (v : ν) : (m.put k v).get k = some v := by
  simp [get_put]

theorem get_put_ne (m : Table κ ν) {k k' : κ} (v : ν) (h : k' ≠ k) :
    (m.put k v).get k' = m.get k' := by
  simp [get_put, h]

/-- What is found after a value was stored. -/
theorem get_put_cases {m : Table κ ν} {k k' : κ} {v w : ν} (h : (m.put k v).get k' = some w) :
    (k' = k ∧ w = v) ∨ (k' ≠ k ∧ m.get k' = some w) := by
  rw [get_put] at h
  split at h
  case isTrue heq => exact .inl ⟨heq, (Option.some.inj h).symm⟩
  case isFalse hne => exact .inr ⟨hne, h⟩

theorem get_remove (m : Table κ ν) (k k' : κ) :
    (m.remove k).get k' = if k' = k then none else m.get k' := by
  unfold get remove
  split
  case isTrue h => rw [h, AList.lookup_erase]
  case isFalse h => exact AList.lookup_erase_ne h

theorem get_eq_some_iff {m : Table κ ν} {k : κ} {v : ν} :
    m.get k = some v ↔ (⟨k, v⟩ : Σ _ : κ, ν) ∈ m.entries :=
  AList.mem_lookup_iff

theorem get_retain (m : Table κ ν) (p : κ → ν → Bool) (k : κ) :
    (m.retain p).get k = (m.get k).filter (p k) := by
  refine Option.ext fun v => ?_
  rw [Option.filter_eq_some_iff, get_eq_some_iff, get_eq_some_iff]
  simp [retain, List.mem_filter]

theorem get_mapValues (m : Table κ ν) (f : κ → ν → ν) (k : κ) :
    (m.mapValues f).get k = (m.get k).map (f k) := by
  refine Option.ext fun v => ?_
  rw [Option.map_eq_some_iff, get_eq_some_iff]
  simp only [mapValues, List.mem_map, get_eq_some_iff]
  constructor
  · rintro ⟨⟨k', w⟩, hmem, heq⟩
    cases heq
    exact ⟨w, hmem, rfl⟩
  · rintro ⟨w, hmem, rfl⟩
    exact ⟨⟨k, w⟩, hmem, rfl⟩

theorem mem_keys {m : Table κ ν} {k : κ} : k ∈ m.keys ↔ ∃ v, m.get k = some v := by
  rw [← Option.isSome_iff_exists, get, AList.lookup_isSome, AList.mem_keys]

theorem mem_values {m : Table κ ν} {v : ν} : v ∈ m.values ↔ ∃ k, m.get k = some v := by
  simp only [values, List.mem_map, get_eq_some_iff]
  constructor
  · rintro ⟨⟨k, w⟩, hw, rfl⟩
    exact ⟨k, hw⟩
  · rintro ⟨k, hk⟩
    exact ⟨⟨k, v⟩, hk, rfl⟩

/-- Values that know their keys are all different. -/
theorem nodup_map_values {m : Table κ ν} {f : ν → κ} (h : ∀ k v, m.get k = some v → f v = k) :
    (m.values.map f).Nodup := by
  have hkeys : m.values.map f = m.keys := by
    simp only [values, List.map_map, AList.keys, List.keys]
    refine List.map_congr_left fun e he => ?_
    exact h e.1 e.2 (get_eq_some_iff.mpr he)
  rw [hkeys]
  exact m.nodupKeys

theorem any_eq_true {m : Table κ ν} {p : κ → ν → Bool} :
    m.any p = true ↔ ∃ k v, m.get k = some v ∧ p k v = true := by
  simp only [any, List.any_eq_true, get_eq_some_iff]
  constructor
  · rintro ⟨⟨k, v⟩, hmem, hp⟩
    exact ⟨k, v, hmem, hp⟩
  · rintro ⟨k, v, hmem, hp⟩
    exact ⟨⟨k, v⟩, hmem, hp⟩

theorem any_eq_false {m : Table κ ν} {p : κ → ν → Bool} :
    m.any p = false ↔ ∀ k v, m.get k = some v → p k v = false := by
  rw [← Bool.not_eq_true, any_eq_true]
  simp

end Table

end Lxcup.Lib
