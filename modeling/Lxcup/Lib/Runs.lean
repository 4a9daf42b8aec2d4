import Lxcup.Lib.Program

/-!
# Runs of programs

A run is told by the calls with their answers, and by where it is: the program has returned, or it
has called for an effect that is not answered yet.  A run that is stopped for good, since its
answers are not awaited any more, is one that stays there.

## Main definitions

* `Program.Run` — the runs of a program.
* `Ending.calls` — the call that is not answered.

## Main results

* `Program.ensures_iff_run` — what a program ensures is what holds of all its runs.
-/

namespace Lxcup.Lib

variable {ε : Type} {ρ : ε → Type} {α σ : Type}

/-- Where a run is. -/
inductive Ending (ε α : Type)
  | returned (a : α)
  | calling (e : ε)

/-- The call that is not answered. -/
def Ending.calls : Ending ε α → List ε
  | returned _ => []
  | calling e => [e]

namespace Program

/-- The runs of a program. -/
inductive Run : Program ε ρ α → List ((e : ε) × ρ e) → Ending ε α → Prop
  | returned (a : α) : Run (.ret a) [] (.returned a)
  | calling (e : ε) (k : ρ e → Program ε ρ α) : Run (.call e k) [] (.calling e)
  | answered (e : ε) {k : ρ e → Program ε ρ α} (r : ρ e) {exchanges : List ((e : ε) × ρ e)}
      {ending : Ending ε α} (h : Run (k r) exchanges ending) :
      Run (.call e k) (⟨e, r⟩ :: exchanges) ending

/-- The observation after some exchanges. -/
def observeAll (observe : σ → (e : ε) → ρ e → σ) (s : σ) (exchanges : List ((e : ε) × ρ e)) : σ :=
  exchanges.foldl (fun s exchange => observe s exchange.1 exchange.2) s

/-- What is asked of the place where a run is. -/
def EndsIn (pre : σ → ε → Prop) (post : σ → α → Prop) (s : σ) : Ending ε α → Prop
  | .returned a => post s a
  | .calling e => pre s e

variable {observe : σ → (e : ε) → ρ e → σ} {pre : σ → ε → Prop} {post : σ → α → Prop}

/-- **What a program ensures holds of all its runs**, and nothing more. -/
theorem ensures_iff_run {p : Program ε ρ α} {s : σ} :
    p.Ensures observe pre post s ↔
      ∀ exchanges ending, p.Run exchanges ending →
        EndsIn pre post (observeAll observe s exchanges) ending := by
  constructor
  · intro hp exchanges ending hrun
    induction hrun generalizing s with
    | returned a => exact hp
    | calling e k => exact hp.1
    | answered e r _ ih => exact ih (hp.2 r)
  · intro h
    induction p generalizing s with
    | ret a => exact h [] _ (.returned a)
    | call e k ih =>
      refine ⟨h [] _ (.calling e k), fun r => ih r fun exchanges ending hrun => ?_⟩
      exact h _ _ (.answered e r hrun)

theorem Ensures.of_run {p : Program ε ρ α} {s : σ} (hp : p.Ensures observe pre post s)
    {exchanges : List ((e : ε) × ρ e)} {ending : Ending ε α} (hrun : p.Run exchanges ending) :
    EndsIn pre post (observeAll observe s exchanges) ending :=
  ensures_iff_run.mp hp exchanges ending hrun

/-- An observation that keeps all exchanges. -/
theorem observeAll_append (s exchanges : List ((e : ε) × ρ e)) :
    observeAll (fun seen e r => seen ++ [⟨e, r⟩]) s exchanges = s ++ exchanges := by
  induction exchanges generalizing s with
  | nil => exact (List.append_nil s).symm
  | cons exchange exchanges ih =>
    exact (ih (s ++ [exchange])).trans (List.append_assoc s [exchange] exchanges)

end Program

end Lxcup.Lib
