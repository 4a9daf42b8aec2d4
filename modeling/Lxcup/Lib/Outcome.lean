import Mathlib.Data.List.Basic

/-!
# Computations that may fail

A sequence of computations succeeds when each of its parts does.

## Main results

* `bind_eq_ok` — a computation followed by another one.
* `toOption_eq_some` — the result without the error.
* `map_of_mapM` — what a computation keeps of each entry of a list.
* `mapM_of_forall` — a list all of whose entries can be computed.
-/

namespace Lxcup.Lib

variable {α β γ ε : Type}

/-- A computation followed by another one succeeds when both do. -/
theorem bind_eq_ok {x : Except ε α} {f : α → Except ε β} {b : β} :
    (x >>= f) = .ok b ↔ ∃ a, x = .ok a ∧ f a = .ok b := by
  cases x with
  | error e => simp [bind, Except.bind]
  | ok a => simp [bind, Except.bind]

/-- The result without the error. -/
theorem toOption_eq_some {x : Except ε α} {a : α} : x.toOption = some a ↔ x = .ok a := by
  cases x with
  | error e => simp [Except.toOption]
  | ok b => simp [Except.toOption]

/-- What is kept of each entry is kept of the list. -/
theorem map_of_mapM {f : α → Except ε β} {key : α → γ} {key' : β → γ}
    (h : ∀ a b, f a = .ok b → key' b = key a) {as : List α} {bs : List β}
    (hmap : as.mapM f = .ok bs) : bs.map key' = as.map key := by
  induction as generalizing bs with
  | nil =>
    cases hmap
    rfl
  | cons a as ih =>
    rw [List.mapM_cons] at hmap
    obtain ⟨b, hb, hrest⟩ := bind_eq_ok.mp hmap
    obtain ⟨bs', hbs', hpure⟩ := bind_eq_ok.mp hrest
    cases hpure
    rw [List.map_cons, List.map_cons, h a b hb, ih hbs']

/-- When the computation succeeds for each entry, it succeeds for the list. -/
theorem mapM_of_forall {f : α → Except ε β} {key : α → γ} {key' : β → γ} {as : List α}
    (h : ∀ a ∈ as, ∃ b, f a = .ok b ∧ key' b = key a) :
    ∃ bs, as.mapM f = .ok bs ∧ bs.map key' = as.map key := by
  induction as with
  | nil => exact ⟨[], rfl, rfl⟩
  | cons a as ih =>
    obtain ⟨b, hb, hkey⟩ := h a List.mem_cons_self
    obtain ⟨bs, hbs, hkeys⟩ := ih fun other hother => h other (List.mem_cons_of_mem _ hother)
    refine ⟨b :: bs, ?_, by rw [List.map_cons, List.map_cons, hkey, hkeys]⟩
    rw [List.mapM_cons, hb, hbs]
    rfl

end Lxcup.Lib
