import Mathlib.Logic.Relation
import Mathlib.Data.List.Basic

/-!
# Labelled machines and guarded runs

A machine is a set of initial states and a step function that is partial in the
action: `step s a = none` says that `a` cannot happen in `s`.  Everything a step
leaves open (the outcome of a call, the interleaving, a crash) is part of the
action, so the step function itself computes and a run can be replayed.

A safety property of all runs is stated over `Reach ok`, the states reached by
runs all of whose steps meet the condition `ok` on the state before the step.
With `ok` always true these are the reachable states in the usual sense.

## Main definitions

* `Machine` — initial states and the step function.
* `Machine.Reach` — the states of the runs whose steps meet a condition.
* `Machine.Leads` — what some steps lead to, from any state.
* `Machine.exec` — replaying a list of actions.

## Main results

* `Machine.Reach.invariant` — what the initial states have and every step keeps
  holds in every state reached.
* `Machine.Reach.exec` — a replayed run reaches its last state.
-/

namespace Lxcup.Lib

universe u v

/-- A labelled machine over states `σ` and actions `α`. -/
structure Machine (σ : Type u) (α : Type v) where
  /-- The states a run may start in. -/
  init : σ → Prop
  /-- The state after the action, `none` when the action is not enabled. -/
  step : σ → α → Option σ

namespace Machine

variable {σ : Type u} {α : Type v}

/-- `M.Reach ok s`: some run of `M` ends in `s`, and every step of it is taken in a
state and with an action that meet `ok`. -/
inductive Reach (M : Machine σ α) (ok : σ → α → Prop) : σ → Prop
  /-- Runs start in an initial state. -/
  | init {s : σ} (h : M.init s) : Reach M ok s
  /-- A run goes on by one enabled step that meets the condition. -/
  | step {s s' : σ} {a : α} (h : Reach M ok s) (hok : ok s a) (hs : M.step s a = some s') :
      Reach M ok s'

/-- No condition on the steps of a run. -/
def Any : σ → α → Prop := fun _ _ => True

instance (s : σ) (a : α) : Decidable (Any s a) := isTrue trivial

variable {M : Machine σ α} {ok : σ → α → Prop}

/-- **The invariant rule.**  The step obligation may use that the state is reached,
so that invariants proved earlier can be taken up. -/
theorem Reach.invariant {I : σ → Prop} (hinit : ∀ s, M.init s → I s)
    (hstep : ∀ s a s', M.Reach ok s → I s → ok s a → M.step s a = some s' → I s')
    {s : σ} (h : M.Reach ok s) : I s := by
  induction h with
  | init h => exact hinit _ h
  | step h hok hs ih => exact hstep _ _ _ h ih hok hs

/-- A run that meets a condition is a run. -/
theorem Reach.any {s : σ} (h : M.Reach ok s) : M.Reach Any s := by
  induction h with
  | init h => exact .init h
  | step _ _ hs ih => exact .step ih trivial hs

/-- A run that meets a condition meets every weaker one. -/
theorem Reach.imp {ok' : σ → α → Prop} (himp : ∀ s a, ok s a → ok' s a) {s : σ}
    (h : M.Reach ok s) : M.Reach ok' s := by
  induction h with
  | init h => exact .init h
  | step _ hok hs ih => exact .step ih (himp _ _ hok) hs

/-- Some steps lead from one state to the other. -/
def Leads (M : Machine σ α) : σ → σ → Prop :=
  Relation.ReflTransGen fun s s' => ∃ a, M.step s a = some s'

/-- One step, and what follows it. -/
theorem Leads.head {s t u : σ} {a : α} (hs : M.step s a = some t) (h : M.Leads t u) :
    M.Leads s u :=
  Relation.ReflTransGen.head ⟨a, hs⟩ h

/-- Replay a list of actions from a state; the replay stops with `none` at a step that
is not enabled or does not meet the condition. -/
def exec (M : Machine σ α) (ok : σ → α → Prop) [∀ s a, Decidable (ok s a)] :
    σ → List α → Option σ
  | s, [] => some s
  | s, a :: as => if ok s a then (M.step s a).bind fun s' => M.exec ok s' as else none

/-- A replayed run reaches its last state. -/
theorem Reach.exec [∀ s a, Decidable (ok s a)] {s s' : σ} (h : M.Reach ok s) (as : List α)
    (hs : M.exec ok s as = some s') : M.Reach ok s' := by
  induction as generalizing s with
  | nil =>
    simp only [Machine.exec, Option.some.injEq] at hs
    exact hs ▸ h
  | cons a as ih =>
    simp only [Machine.exec] at hs
    split at hs
    case isTrue hok =>
      obtain ⟨t, ht, hrest⟩ := Option.bind_eq_some_iff.mp hs
      exact ih (.step h hok ht) hrest
    case isFalse => cases hs

/-- The step leads to a state with the property. -/
def Preserves (M : Machine σ α) (I : σ → Prop) (s : σ) (a : α) : Prop :=
  ∀ s' ∈ M.step s a, I s'

instance (M : Machine σ α) (I : σ → Prop) [DecidablePred I] (s : σ) (a : α) :
    Decidable (M.Preserves I s a) :=
  inferInstanceAs (Decidable (∀ s' ∈ M.step s a, I s'))

/-- A replayed run that stays within an invariant meets every condition that only the steps out of
the invariant violate. -/
theorem Reach.exec_preserving {I : σ → Prop} [DecidablePred I]
    (hok : ∀ s a s', M.Reach ok s → I s → M.step s a = some s' → I s' → ok s a) {s s' : σ}
    (h : M.Reach ok s) (hI : I s) (as : List α)
    (hs : M.exec (M.Preserves I) s as = some s') : M.Reach ok s' := by
  induction as generalizing s with
  | nil =>
    simp only [Machine.exec, Option.some.injEq] at hs
    exact hs ▸ h
  | cons a as ih =>
    simp only [Machine.exec] at hs
    split at hs
    case isTrue hkeeps =>
      obtain ⟨t, ht, hrest⟩ := Option.bind_eq_some_iff.mp hs
      have hIt : I t := hkeeps t ht
      exact ih (.step h (hok s a t h hI ht hIt) ht) hIt hrest
    case isFalse => cases hs

end Machine

end Lxcup.Lib
