import Lxcup.Lib.Table

/-!
# Copies that are written behind

An original is changed first, and a copy of it afterwards: whoever changes an entry has the new
value pending, and writes it to the copy later.  The copy is in step as long as every entry of it is
the current one, or the current one is still pending.  So it agrees with the original once nothing
is pending any more.

Changes of the original never put the copy out of step; a write does exactly if it writes a value
that is not the current one while the current one is pending nowhere else.

What is pending is what callers promise.  A caller either has a list of entries to write, that it
goes through from the first on, or it is going to write the copy as a whole, and promises for some
entries how they will be then.

## Main definitions

* `InStep` — every entry of the copy is current, or the current one is pending.
* `Promised`, `PromisedElsewhere` — an entry that some caller, or some other caller, promises.
* `Pending` — an entry that some caller has to write.
* `WritesCurrent` — what is written is current, or the current value is pending elsewhere.

## Main results

* `InStep.change`, `InStep.drop`, `InStep.settle`, `inStep_write_iff` — what changes and writes
  keep.
* `InStep.goesOn`, `InStep.joins`, `inStep_put_iff` — callers that keep their promises, are new, or
  have nothing left to promise.
* `InStep.changed`, `InStep.dropped`, `inStep_written_iff` — the same for the steps of callers.
* `InStep.settled` — a copy in step agrees with the original once nothing is pending.
-/

namespace Lxcup.Lib

universe u v w x

section

variable {κ : Type u} {ω : Type v} {current current' stored stored' : κ → Option ω}
  {pending pending' : κ → ω → Prop}

/-- Every entry of the copy is the one of the original, or the one of the original is pending. -/
def InStep (current stored : κ → Option ω) (pending : κ → ω → Prop) : Prop :=
  ∀ k w, stored k = some w → ∃ v, current k = some v ∧ (w = v ∨ pending k v)

/-- Only keys at which the copy may differ have to be looked at. -/
theorem inStep_iff_of_eq_off (ks : List κ) (hoff : ∀ k, k ∉ ks → stored k = current k) :
    InStep current stored pending ↔
      ∀ k ∈ ks, ∀ w ∈ stored k, ∃ v ∈ current k, w = v ∨ pending k v := by
  constructor
  · intro h k _ w hw
    exact h k w hw
  · intro h k w hw
    by_cases hk : k ∈ ks
    · exact h k hk w hw
    · exact ⟨w, (hoff k hk).symm.trans hw, .inl rfl⟩

/-- **Nothing is pending**: the copy agrees with the original. -/
theorem InStep.settled (h : InStep current stored pending) (hnone : ∀ k v, ¬ pending k v) :
    ∀ k w, stored k = some w → current k = some w := by
  intro k w hstored
  obtain ⟨v, hcurrent, rfl | hpending⟩ := h k w hstored
  · exact hcurrent
  · exact absurd hpending (hnone k v)

/-- **A change of the original**: every new value is pending. -/
theorem InStep.change (h : InStep current stored pending)
    (hcurrent : ∀ k, current' k = current k ∨ ∃ v, current' k = some v ∧ pending' k v)
    (hpending : ∀ k v, pending k v → pending' k v) : InStep current' stored pending' := by
  intro k w hstored
  rcases hcurrent k with hsame | ⟨v, hnew, hv⟩
  · obtain ⟨v, hv, hcases⟩ := h k w hstored
    exact ⟨v, hsame.trans hv, hcases.imp_right (hpending k v)⟩
  · exact ⟨v, hnew, .inr hv⟩

/-- **A write to the copy** keeps it in step exactly if what is written is current, or the current
value is still pending. -/
theorem inStep_write_iff {k : κ} {w : ω} (h : InStep current stored pending)
    (hwritten : stored' k = some w) (hothers : ∀ k', k' ≠ k → stored' k' = stored k')
    (hpending : ∀ k' v, k' ≠ k → pending k' v → pending' k' v) :
    InStep current stored' pending' ↔ ∃ v, current k = some v ∧ (w = v ∨ pending' k v) := by
  constructor
  · intro h'
    exact h' k w hwritten
  · intro hk k' w' hstored
    by_cases heq : k' = k
    · subst heq
      rw [hwritten] at hstored
      cases hstored
      exact hk
    · rw [hothers k' heq] at hstored
      obtain ⟨v, hv, hcases⟩ := h k' w' hstored
      exact ⟨v, hv, hcases.imp_right (hpending k' v heq)⟩

/-- A value that is pending is dropped, because the copy has no entry for it. -/
theorem InStep.drop {k : κ} (h : InStep current stored pending) (habsent : stored k = none)
    (hpending : ∀ k' v, k' ≠ k → pending k' v → pending' k' v) :
    InStep current stored pending' := by
  intro k' w hstored
  have hne : k' ≠ k := by
    rintro rfl
    rw [habsent] at hstored
    cases hstored
  obtain ⟨v, hv, hcases⟩ := h k' w hstored
  exact ⟨v, hv, hcases.imp_right (hpending k' v hne)⟩

/-- Original and copy are changed together. -/
theorem InStep.settle (h : InStep current stored pending)
    (hboth : ∀ k, stored' k = current' k ∨ (stored' k = stored k ∧ current' k = current k)) :
    InStep current' stored' pending := by
  intro k w hstored
  rcases hboth k with hsame | ⟨hstays, hcurrent⟩
  · exact ⟨w, hsame ▸ hstored, .inl rfl⟩
  · rw [hstays] at hstored
    rw [hcurrent]
    exact h k w hstored

end

/-! ### Promises -/

section

variable {κ : Type u} {ω : Type v} {χ : Type w} (promises : χ → κ → ω → Prop)

/-- Some caller promises that the entry will be this. -/
def Promised (calls : Table Nat χ) (k : κ) (v : ω) : Prop :=
  ∃ n call, calls.get n = some call ∧ promises call k v

/-- A caller other than this one promises that the entry will be this. -/
def PromisedElsewhere (calls : Table Nat χ) (n : Nat) (k : κ) (v : ω) : Prop :=
  ∃ m call, m ≠ n ∧ calls.get m = some call ∧ promises call k v

instance [∀ call k v, Decidable (promises call k v)] (calls : Table Nat χ) (k : κ) (v : ω) :
    Decidable (Promised promises calls k v) :=
  decidable_of_iff (calls.any (fun _ call => promises call k v) = true) (by
    simp only [Promised, Table.any_eq_true, decide_eq_true_eq])

variable {promises} {calls : Table Nat χ} {n : Nat} {call : χ} {current stored : κ → Option ω}

theorem promised_put {k : κ} {v : ω} : Promised promises (calls.put n call) k v ↔
    promises call k v ∨ PromisedElsewhere promises calls n k v := by
  constructor
  · rintro ⟨m, call', hget, hpromise⟩
    rcases Table.get_put_cases hget with ⟨rfl, rfl⟩ | ⟨hne, hold⟩
    · exact .inl hpromise
    · exact .inr ⟨m, call', hne, hold, hpromise⟩
  · rintro (hpromise | ⟨m, call', hne, hget, hpromise⟩)
    · exact ⟨n, call, Table.get_put_self _ _ _, hpromise⟩
    · exact ⟨m, call', by rw [Table.get_put_ne _ _ hne, hget], hpromise⟩

/-- What is promised is promised by this caller or by another one. -/
theorem promised_cases {k : κ} {v : ω} (h : Promised promises calls k v) :
    (∃ call, calls.get n = some call ∧ promises call k v) ∨
      PromisedElsewhere promises calls n k v := by
  obtain ⟨m, call, hget, hpromise⟩ := h
  by_cases hm : m = n
  · exact .inl ⟨call, hm ▸ hget, hpromise⟩
  · exact .inr ⟨m, call, hm, hget, hpromise⟩

/-- Promises stay when a caller goes on that has not made them. -/
theorem Promised.put {k : κ} {v : ω} (h : Promised promises calls k v)
    (hnone : ∀ call', calls.get n = some call' → ¬ promises call' k v) :
    Promised promises (calls.put n call) k v := by
  rcases promised_cases h with ⟨call', hget, hpromise⟩ | helse
  · exact absurd hpromise (hnone call' hget)
  · exact promised_put.mpr (.inr helse)

/-- **A caller goes on**: what it has promised of the original is in the copy, or it promises it
still. -/
theorem InStep.goesOn (h : InStep current stored (Promised promises calls))
    (hkeeps : ∀ call', calls.get n = some call' → ∀ k v, current k = some v → promises call' k v →
      stored k = some v ∨ promises call k v) :
    InStep current stored (Promised promises (calls.put n call)) := by
  intro k w hstored
  obtain ⟨v, hcurrent, hcases⟩ := h k w hstored
  refine ⟨v, hcurrent, ?_⟩
  rcases hcases with hsame | hpromised
  · exact .inl hsame
  · rcases promised_cases hpromised with ⟨call', hget, hpromise⟩ | helse
    · rcases hkeeps call' hget k v hcurrent hpromise with hthere | hstill
      · rw [hstored] at hthere
        exact .inl (Option.some.inj hthere)
      · exact .inr (promised_put.mpr (.inl hstill))
    · exact .inr (promised_put.mpr (.inr helse))

/-- A caller goes on from where it is. -/
theorem InStep.goesOnFrom {call' : χ} (h : InStep current stored (Promised promises calls))
    (hcall : calls.get n = some call')
    (hkeeps : ∀ k v, current k = some v → promises call' k v →
      stored k = some v ∨ promises call k v) :
    InStep current stored (Promised promises (calls.put n call)) := by
  refine h.goesOn fun call'' hget k v hcurrent hpromise => ?_
  rw [hcall] at hget
  cases hget
  exact hkeeps k v hcurrent hpromise

/-- A caller is new, and promises what it likes. -/
theorem InStep.joins (h : InStep current stored (Promised promises calls))
    (hnew : calls.get n = none) : InStep current stored (Promised promises (calls.put n call)) := by
  refine h.goesOn fun call' hget => ?_
  rw [hnew] at hget
  cases hget

/-- **A caller with nothing left to promise** leaves the copy to the others. -/
theorem inStep_put_iff (hnone : ∀ k v, ¬ promises call k v) :
    InStep current stored (Promised promises (calls.put n call)) ↔
      InStep current stored (PromisedElsewhere promises calls n) := by
  have hsame : ∀ k v, Promised promises (calls.put n call) k v ↔
      PromisedElsewhere promises calls n k v := by
    intro k v
    rw [promised_put, or_iff_right (hnone k v)]
  unfold InStep
  simp only [hsame]

/-- Nothing is promised when no caller promises anything. -/
theorem not_promised (h : ∀ n call, calls.get n = some call → ∀ k v, ¬ promises call k v) (k : κ)
    (v : ω) : ¬ Promised promises calls k v := by
  rintro ⟨n, call, hcall, hpromise⟩
  exact h n call hcall k v hpromise

end

/-! ### Callers -/

section

variable {κ : Type u} {ω : Type v} {χ : Type w} {α : Type x} (todo : χ → List α) (key : α → κ)
  (view : α → ω)

/-- Some caller has an entry to write that looks like this. -/
def Pending (calls : Table Nat χ) (k : κ) (v : ω) : Prop :=
  ∃ n call, calls.get n = some call ∧ ∃ a ∈ todo call, key a = k ∧ view a = v

/-- **What is written is current**: it looks like the original, or an entry that does is still to be
written, by the same caller or by another one. -/
def WritesCurrent (current : κ → Option ω) (calls : Table Nat χ) (n : Nat) (a : α)
    (rest : List α) : Prop :=
  ∃ v, current (key a) = some v ∧ (view a = v ∨ (∃ b ∈ rest, key b = key a ∧ view b = v) ∨
    ∃ m call, m ≠ n ∧ calls.get m = some call ∧ ∃ b ∈ todo call, key b = key a ∧ view b = v)

instance [DecidableEq κ] [DecidableEq ω] (current : κ → Option ω) (calls : Table Nat χ) (n : Nat)
    (a : α) (rest : List α) : Decidable (WritesCurrent todo key view current calls n a rest) :=
  decidable_of_iff ((current (key a)).any (fun v => view a = v
      || rest.any (fun b => key b = key a && view b = v)
      || calls.any fun m call =>
        m ≠ n && (todo call).any fun b => key b = key a && view b = v) = true) (by
    simp only [WritesCurrent, Option.any_eq_true, Table.any_eq_true, List.any_eq_true,
      Bool.or_eq_true, Bool.and_eq_true, decide_eq_true_eq, or_assoc, and_left_comm,
      exists_and_left])

/-- What should hold of the next entry of a caller can be looked up. -/
def decidableNext (calls : Table Nat χ) (n : Nat) (P : α → List α → Prop)
    [∀ a rest, Decidable (P a rest)] :
    Decidable (∀ call a rest, calls.get n = some call → todo call = a :: rest → P a rest) :=
  match hcall : calls.get n with
  | none => isTrue fun _ _ _ h => nomatch h
  | some call =>
    match htodo : todo call with
    | [] => isTrue fun _ _ _ h htodo' => by
      cases h
      rw [htodo] at htodo'
      cases htodo'
    | a :: rest =>
      decidable_of_iff (P a rest) (by
        constructor
        · rintro hp _ b rest' h htodo'
          cases h
          rw [htodo] at htodo'
          cases htodo'
          exact hp
        · intro hall
          exact hall call a rest rfl htodo)

variable {todo key view} {calls : Table Nat χ} {n : Nat} {call call' : χ} {a : α} {rest : List α}
  {current current' stored stored' : κ → Option ω}

theorem pending_put {k : κ} {v : ω} : Pending todo key view (calls.put n call) k v ↔
    (∃ a ∈ todo call, key a = k ∧ view a = v) ∨
      ∃ m call', m ≠ n ∧ calls.get m = some call' ∧ ∃ a ∈ todo call', key a = k ∧ view a = v :=
  @promised_put _ _ _ (fun call k v => ∃ a ∈ todo call, key a = k ∧ view a = v) calls n call k v

/-- A caller that has taken up the entries that it has changed. -/
theorem InStep.changed (h : InStep current stored (Pending todo key view calls))
    (hidle : ∀ call, calls.get n = some call → todo call = [])
    (hcurrent : ∀ k, current' k = current k ∨
      ∃ a ∈ todo call, key a = k ∧ current' k = some (view a)) :
    InStep current' stored (Pending todo key view (calls.put n call)) := by
  refine h.change (fun k => ?_) fun k v => ?_
  · rcases hcurrent k with hsame | ⟨a, hmem, hkey, hnew⟩
    · exact .inl hsame
    · exact .inr ⟨view a, hnew, pending_put.mpr (.inl ⟨a, hmem, hkey, rfl⟩)⟩
  · rintro ⟨m, call', hget, hpending⟩
    refine pending_put.mpr (.inr ⟨m, call', ?_, hget, hpending⟩)
    rintro rfl
    obtain ⟨a, hmem, -⟩ := hpending
    rw [hidle call' hget] at hmem
    cases hmem

/-- The other entries are pending still after a caller has gone on to the next one. -/
theorem pending_rest (hcall : calls.get n = some call) (htodo : todo call = a :: rest)
    (htodo' : todo call' = rest) {k : κ} {v : ω} (hne : k ≠ key a)
    (h : Pending todo key view calls k v) : Pending todo key view (calls.put n call') k v := by
  obtain ⟨m, other, hother, b, hmem, hkey, hview⟩ := h
  by_cases hm : m = n
  · subst hm
    rw [hcall] at hother
    cases hother
    rw [htodo] at hmem
    rcases List.mem_cons.mp hmem with rfl | hrest
    · exact absurd hkey.symm hne
    · exact pending_put.mpr (.inl ⟨b, htodo' ▸ hrest, hkey, hview⟩)
  · exact pending_put.mpr (.inr ⟨m, other, hm, hother, b, hmem, hkey, hview⟩)

/-- **A caller writes its next entry**, and keeps the copy in step exactly if that is current. -/
theorem inStep_written_iff (h : InStep current stored (Pending todo key view calls))
    (hcall : calls.get n = some call) (htodo : todo call = a :: rest) (htodo' : todo call' = rest)
    (hwritten : stored' (key a) = some (view a))
    (hothers : ∀ k, k ≠ key a → stored' k = stored k) :
    InStep current stored' (Pending todo key view (calls.put n call')) ↔
      WritesCurrent todo key view current calls n a rest := by
  rw [inStep_write_iff h hwritten hothers fun k v => pending_rest hcall htodo htodo']
  simp only [pending_put, htodo', WritesCurrent]

/-- A caller goes on to the next entry without a write, because the copy has no such entry. -/
theorem InStep.dropped (h : InStep current stored (Pending todo key view calls))
    (hcall : calls.get n = some call) (htodo : todo call = a :: rest) (htodo' : todo call' = rest)
    (habsent : stored (key a) = none) :
    InStep current stored (Pending todo key view (calls.put n call')) :=
  h.drop habsent fun _ _ => pending_rest hcall htodo htodo'

/-- Nothing is pending when no caller has anything to do. -/
theorem not_pending (h : ∀ n call, calls.get n = some call → todo call = []) (k : κ) (v : ω) :
    ¬ Pending todo key view calls k v := by
  refine @not_promised _ _ _ (fun call k v => ∃ a ∈ todo call, key a = k ∧ view a = v) calls
    (fun n call hcall k v hpromise => ?_) k v
  obtain ⟨a, hmem, -⟩ := hpromise
  rw [h n call hcall] at hmem
  cases hmem

end

end Lxcup.Lib
