import Lxcup.Lib.Recorded
import Lxcup.Lib.Table
import Mathlib.Logic.Function.Basic

/-!
# Pools of programs

Any number of programs that run side by side over a shared state.  The shared state says which
answers a call may get and what becomes of it then; it may also change on its own.  A thread that is
not answered any more has been stopped, so that nothing is said about crashes; one that is abandoned
while it waits may have something left to do.

What a program ensures by itself it ensures in a pool, since it is ensured for all answers.

## Main definitions

* `Thread`, `Pool`, `System` — programs under way, and how they go on.
* `System.Step`, `System.Reach` — the steps, and the pools that are reached by them.
* `goOn` — what the threads have exchanged, when one of them has gone on.
* `Thread.Keeps` — a thread has met a condition so far, and goes on meeting it.
* `Thread.Calls` — the place of a call among those of a thread.

## Main results

* `System.Step.history` — what a step does to the shared state and to what was exchanged.
* `System.Reach.keeps` — what the programs ensure holds of all threads.
-/

namespace Lxcup.Lib

variable {σ ι ε α : Type} {ρ : ε → Type}

/-- What a thread was started for, what is left of it, and what it has exchanged so far. -/
structure Thread (ι ε : Type) (ρ : ε → Type) (α : Type) where
  label : ι
  program : Program ε ρ α
  seen : List (Exchange ε ρ)

/-- Threads over a shared state. -/
structure Pool (σ ι ε : Type) (ρ : ε → Type) (α : Type) where
  shared : σ
  threads : Table Nat (Thread ι ε ρ α)

/-- What a thread has exchanged; nothing, when there is none of the number. -/
def Pool.history (pool : Pool σ ι ε ρ α) (n : Nat) : List (Exchange ε ρ) :=
  match pool.threads.get n with
  | some thread => thread.seen
  | none => []

theorem Pool.history_of_get {pool : Pool σ ι ε ρ α} {n : Nat} {thread : Thread ι ε ρ α}
    (h : pool.threads.get n = some thread) : pool.history n = thread.seen := by
  rw [history, h]

theorem Pool.exists_of_mem_history {pool : Pool σ ι ε ρ α} {n : Nat} {exchange : Exchange ε ρ}
    (h : exchange ∈ pool.history n) :
    ∃ thread, pool.threads.get n = some thread ∧ thread.seen = pool.history n := by
  cases hget : pool.threads.get n with
  | some thread => exact ⟨thread, rfl, (history_of_get hget).symm⟩
  | none =>
    rw [history, hget] at h
    cases h

/-- What threads have exchanged, when one of them has gone on. -/
def goOn (histories : Nat → List (Exchange ε ρ)) (n : Nat) (exchange : Exchange ε ρ) :
    Nat → List (Exchange ε ρ) :=
  Function.update histories n (histories n ++ [exchange])

section GoOn

variable {histories : Nat → List (Exchange ε ρ)} {n m : Nat} {exchange other : Exchange ε ρ}

@[simp] theorem goOn_self : goOn histories n exchange n = histories n ++ [exchange] :=
  Function.update_self n _ histories

theorem goOn_of_ne (h : m ≠ n) : goOn histories n exchange m = histories m :=
  Function.update_of_ne h _ histories

theorem mem_goOn :
    other ∈ goOn histories n exchange m ↔ other ∈ histories m ∨ m = n ∧ other = exchange := by
  by_cases h : m = n
  · subst h
    simp
  · rw [goOn_of_ne h]
    simp [h]

theorem self_mem_goOn : exchange ∈ goOn histories n exchange n :=
  mem_goOn.mpr (.inr ⟨rfl, rfl⟩)

theorem subset_goOn (histories : Nat → List (Exchange ε ρ)) (n m : Nat)
    (exchange : Exchange ε ρ) : histories m ⊆ goOn histories n exchange m :=
  fun _ hmem => mem_goOn.mpr (.inl hmem)

end GoOn

/-- The programs, and what the shared state answers. -/
structure System (σ ι ε : Type) (ρ : ε → Type) (α : Type) where
  start : ι → Program ε ρ α
  responds : σ → (e : ε) → ρ e → σ → Prop
  changes : σ → σ → Prop
  /-- What is left to do when a thread is abandoned; nothing, when it cannot be. -/
  abandoned : ι → List (Exchange ε ρ) → Option (Program ε ρ α) := fun _ _ => none

namespace System

variable {S : System σ ι ε ρ α} {init : σ → Prop}

/-- The steps of a pool. -/
inductive Step (S : System σ ι ε ρ α) : Pool σ ι ε ρ α → Pool σ ι ε ρ α → Prop
  | spawn {pool : Pool σ ι ε ρ α} {n : Nat} (label : ι) (hnew : pool.threads.get n = none) :
    Step S pool { pool with threads := pool.threads.put n ⟨label, S.start label, []⟩ }
  | answer {pool : Pool σ ι ε ρ α} {n : Nat} {label : ι} {e : ε} {k : ρ e → Program ε ρ α}
    {seen : List (Exchange ε ρ)} {r : ρ e} {shared : σ}
    (hthread : pool.threads.get n = some ⟨label, .call e k, seen⟩)
    (hr : S.responds pool.shared e r shared) :
    Step S pool ⟨shared, pool.threads.put n ⟨label, k r, seen ++ [⟨e, r⟩]⟩⟩
  | abandon {pool : Pool σ ι ε ρ α} {n : Nat} {label : ι} {e : ε} {k : ρ e → Program ε ρ α}
    {seen : List (Exchange ε ρ)} {p : Program ε ρ α}
    (hthread : pool.threads.get n = some ⟨label, .call e k, seen⟩)
    (hp : S.abandoned label seen = some p) :
    Step S pool { pool with threads := pool.threads.put n ⟨label, p, seen⟩ }
  | change {pool : Pool σ ι ε ρ α} {shared : σ} (h : S.changes pool.shared shared) :
    Step S pool { pool with shared }

/-- The pools that are reached from one without threads. -/
inductive Reach (S : System σ ι ε ρ α) (init : σ → Prop) : Pool σ ι ε ρ α → Prop
  | init {shared : σ} (h : init shared) : Reach S init ⟨shared, ∅⟩
  | step {pool pool' : Pool σ ι ε ρ α} (h : Reach S init pool) (hs : S.Step pool pool') :
    Reach S init pool'

/-- One thread is answered, of several. -/
theorem Reach.answered {shared shared' : σ} {threads : Table Nat (Thread ι ε ρ α)} {n : Nat}
    {label : ι} {e : ε} {k : ρ e → Program ε ρ α} {seen : List (Exchange ε ρ)}
    (h : S.Reach init ⟨shared, threads.put n ⟨label, .call e k, seen⟩⟩) (r : ρ e)
    (hr : S.responds shared e r shared') :
    S.Reach init ⟨shared', threads.put n ⟨label, k r, seen ++ [⟨e, r⟩]⟩⟩ := by
  have hstep := h.step (.answer (Table.get_put_self _ _ _) hr)
  rwa [Table.put, Table.put, AList.insert_insert] at hstep

/-- **What a step does** to the shared state and to the histories: one thread goes on, or none. -/
theorem Step.history {pool pool' : Pool σ ι ε ρ α} (hs : S.Step pool pool') :
    (pool'.history = pool.history
        ∧ (pool'.shared = pool.shared ∨ S.changes pool.shared pool'.shared))
      ∨ ∃ n label e k r,
          pool.threads.get n = some ⟨label, .call e k, pool.history n⟩
            ∧ S.responds pool.shared e r pool'.shared
            ∧ pool'.history = goOn pool.history n ⟨e, r⟩ := by
  have hput : ∀ (shared : σ) (n : Nat) (thread : Thread ι ε ρ α),
      Pool.history ⟨shared, pool.threads.put n thread⟩
        = Function.update pool.history n thread.seen := by
    intro shared n thread
    funext m
    by_cases h : m = n
    · subst h
      simp [Pool.history]
    · rw [Function.update_of_ne h, Pool.history, Table.get_put_ne _ _ h]
      rfl
  cases hs with
  | @spawn n label hnew =>
    refine .inl ⟨?_, .inl rfl⟩
    have hnothing : pool.history n = [] := by rw [Pool.history, hnew]
    rw [hput, ← hnothing, Function.update_eq_self]
  | @answer n label e k seen r shared hthread hr =>
    have hseen : pool.history n = seen := Pool.history_of_get hthread
    refine .inr ⟨n, label, e, k, r, ?_, hr, ?_⟩
    · rw [hseen]
      exact hthread
    · rw [hput, goOn, hseen]
  | @abandon n label e k seen p hthread hp =>
    refine .inl ⟨?_, .inl rfl⟩
    have hseen : pool.history n = seen := Pool.history_of_get hthread
    rw [hput, ← hseen, Function.update_eq_self]
  | change h => exact .inl ⟨rfl, .inr h⟩

end System

/-- Every call of the thread so far has met `pre`, and what is left of it ensures the rest. -/
structure Thread.Keeps (pre : List (Exchange ε ρ) → ε → Prop)
    (post : List (Exchange ε ρ) → α → Prop) (thread : Thread ι ε ρ α) : Prop where
  rest : thread.program.Ensures record pre post thread.seen
  past : ∀ before exchange after, thread.seen = before ++ exchange :: after →
    pre before exchange.1

/-- The thread has made the call, whether it is answered or not. -/
def Thread.Makes (thread : Thread ι ε ρ α) (e : ε) : Prop :=
  (∃ r, ⟨e, r⟩ ∈ thread.seen) ∨ ∃ k, thread.program = .call e k

/-- The thread has made the call after `before`, whether it is answered or not. -/
def Thread.Calls (thread : Thread ι ε ρ α) (before : List (Exchange ε ρ)) (e : ε) : Prop :=
  (∃ r after, thread.seen = before ++ ⟨e, r⟩ :: after)
    ∨ before = thread.seen ∧ ∃ k, thread.program = .call e k

/-- **What is asked before a call was so when it was made.** -/
theorem Thread.Keeps.of_calls {pre : List (Exchange ε ρ) → ε → Prop}
    {post : List (Exchange ε ρ) → α → Prop} {thread : Thread ι ε ρ α}
    {before : List (Exchange ε ρ)} {e : ε} (h : thread.Keeps pre post)
    (he : thread.Calls before e) : pre before e := by
  obtain ⟨r, after, hsplit⟩ | ⟨rfl, k, hcall⟩ := he
  · exact h.past before _ after hsplit
  · have hrest := h.rest
    rw [hcall] at hrest
    exact hrest.1

/-- What is asked before a call was so before every call that was answered. -/
theorem Thread.Keeps.of_mem {pre : List (Exchange ε ρ) → ε → Prop}
    {post : List (Exchange ε ρ) → α → Prop} {thread : Thread ι ε ρ α} {exchange : Exchange ε ρ}
    (h : thread.Keeps pre post) (hmem : exchange ∈ thread.seen) :
    ∃ before, before <+: thread.seen ∧ pre before exchange.1 := by
  obtain ⟨before, after, hsplit⟩ := List.append_of_mem hmem
  exact ⟨before, ⟨_, hsplit.symm⟩, h.past before _ after hsplit⟩

/-- What is asked before a call was so before every call that was made. -/
theorem Thread.Keeps.of_makes {pre : List (Exchange ε ρ) → ε → Prop}
    {post : List (Exchange ε ρ) → α → Prop} {thread : Thread ι ε ρ α} {e : ε}
    (h : thread.Keeps pre post) (he : thread.Makes e) :
    ∃ before, before <+: thread.seen ∧ pre before e := by
  obtain ⟨r, hmem⟩ | ⟨k, hcall⟩ := he
  · exact h.of_mem hmem
  · have hrest := h.rest
    rw [hcall] at hrest
    exact ⟨thread.seen, List.prefix_rfl, hrest.1⟩

/-- A kind of calls that is made once only is answered once only. -/
theorem Thread.Keeps.unique {pre : List (Exchange ε ρ) → ε → Prop}
    {post : List (Exchange ε ρ) → α → Prop} {thread : Thread ι ε ρ α} {kind : ε → Prop}
    (h : thread.Keeps pre post)
    (honce : ∀ seen e, pre seen e → kind e → All (fun e => ¬kind e) seen)
    {exchange other : Exchange ε ρ} (hmem : exchange ∈ thread.seen) (hother : other ∈ thread.seen)
    (hkind : kind exchange.1) (hkind' : kind other.1) : exchange = other := by
  obtain ⟨before, after, hsplit⟩ := List.append_of_mem hmem
  rw [hsplit] at hother
  obtain hother | hother := List.mem_append.mp hother
  · exact absurd hkind' (honce _ _ (h.past before exchange after hsplit) hkind other hother)
  · obtain rfl | hother := List.mem_cons.mp hother
    · rfl
    · obtain ⟨between, rest, rfl⟩ := List.append_of_mem hother
      have hpast := h.past (before ++ exchange :: between) other rest (by simp [hsplit])
      exact absurd hkind (honce _ _ hpast hkind' exchange (by simp))

/-- A call of a kind that is made once only is the one that was answered. -/
theorem Thread.Keeps.eq_of_makes {pre : List (Exchange ε ρ) → ε → Prop}
    {post : List (Exchange ε ρ) → α → Prop} {thread : Thread ι ε ρ α} {kind : ε → Prop} {e : ε}
    (h : thread.Keeps pre post)
    (honce : ∀ seen e, pre seen e → kind e → All (fun e => ¬kind e) seen)
    (he : thread.Makes e) {exchange : Exchange ε ρ} (hmem : exchange ∈ thread.seen)
    (hkind : kind e) (hkind' : kind exchange.1) : exchange.1 = e := by
  obtain ⟨r, hanswered⟩ | ⟨k, hcall⟩ := he
  · rw [h.unique honce hmem hanswered hkind' hkind]
  · have hrest := h.rest
    rw [hcall] at hrest
    exact absurd hkind' (honce _ _ hrest.1 hkind exchange hmem)

namespace System

variable {S : System σ ι ε ρ α} {init : σ → Prop}
  {pre : ι → List (Exchange ε ρ) → ε → Prop} {post : ι → List (Exchange ε ρ) → α → Prop}

/-- **What the programs ensure holds of all threads**, at any time, when what is left to do for a
thread that is abandoned ensures it too. -/
theorem Reach.keeps
    (hstart : ∀ label, (S.start label).Ensures record (pre label) (post label) [])
    (habandoned : ∀ thread : Thread ι ε ρ α, ∀ p, S.abandoned thread.label thread.seen = some p →
      thread.Keeps (pre thread.label) (post thread.label) →
      p.Ensures record (pre thread.label) (post thread.label) thread.seen)
    {pool : Pool σ ι ε ρ α} (h : S.Reach init pool) {n : Nat} {thread : Thread ι ε ρ α}
    (hthread : pool.threads.get n = some thread) :
    thread.Keeps (pre thread.label) (post thread.label) := by
  induction h generalizing n thread with
  | init => simp at hthread
  | step _ hs ih =>
    cases hs with
    | spawn label hnew =>
      obtain ⟨-, rfl⟩ | ⟨-, hold⟩ := Table.get_put_cases hthread
      · exact ⟨hstart label, fun before exchange after heq => by simp at heq⟩
      · exact ih hold
    | @answer n label e k seen r shared hcalling hr =>
      obtain ⟨-, rfl⟩ | ⟨-, hold⟩ := Table.get_put_cases hthread
      · have hkeeps := ih hcalling
        refine ⟨hkeeps.rest.2 r, fun before exchange after heq => ?_⟩
        obtain rfl | ⟨after, last, rfl⟩ := after.eq_nil_or_concat'
        · obtain ⟨rfl, hlast⟩ := List.append_inj' heq rfl
          obtain rfl := (List.cons.inj hlast).1
          exact hkeeps.rest.1
        · rw [← List.cons_append, ← List.append_assoc] at heq
          exact hkeeps.past before exchange after (List.append_inj' heq rfl).1
      · exact ih hold
    | @abandon n label e k seen p hwaiting hp =>
      obtain ⟨-, rfl⟩ | ⟨-, hold⟩ := Table.get_put_cases hthread
      · have hkeeps := ih hwaiting
        exact ⟨habandoned ⟨label, .call e k, seen⟩ p hp hkeeps, hkeeps.past⟩
      · exact ih hold
    | change => exact ih hthread

end System

end Lxcup.Lib
