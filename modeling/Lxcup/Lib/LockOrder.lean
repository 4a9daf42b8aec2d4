import Lxcup.Lib.Machine
import Lxcup.Lib.Table
import Mathlib.Data.List.TakeWhile

/-!
# Fair locks and cycles of waiting tasks

Tasks take locks in scopes: a lock is asked for, held while the body of its scope runs and given
up at its end.  What a task does besides is left out, and where its code branches or loops
both ways are possible.  Locks are shared or exclusive and fair: requests are granted in the
order in which they were made, so a request waits behind every earlier one, also where the
holders alone would admit it.

A deadlock is a cycle of tasks in which each waits for a lock that the next one holds.  When
every task takes its locks in the order of a rank there is none.  This module also deals with
one exception to the order: a task that holds only the lock `high` may ask for the lock `low`
below it, as long as at that moment no other task that has asked for `low` is still to ask
for `high`.

## Main definitions

* `LockMode`, `Skeleton`, `Frame`, `TaskState` — tasks and what they hold.
* `LockSystem`, `LockAction`, `LockSystem.step`, `lockMachine`.
* `WaitEdge`, `LockSystem.Deadlocked` — the edges of the cycles, and a cycle.
* `Skeleton.respects` — a task asks only for locks that are allowed over those it holds.
* `LockSystem.inOrder` — the rank, with the exception; `LockSystem.Uncrossed` — the condition
  on steps.

## Main results

* `not_transGen_of_rank` — no cycle where the ranks grow along it.
* `respects_step`, `queued_step`, `behind_step` — what one step keeps.
* `noCycle_of_uncrossed` — no cycle in any run.
-/

namespace Lxcup.Lib

universe u v

/-! ### Cycles -/

section

variable {τ : Type u} {κ : Type v} {holds waits : τ → κ → Prop} {rank : κ → ℕ}

/-- `t` waits for something that `u` holds. -/
def WaitEdge (holds waits : τ → κ → Prop) (t u : τ) : Prop := ∃ l, waits t l ∧ holds u l

/-- Along a path from a task that holds something the ranks do not fall. -/
private theorem rank_le_of_transGen
    (h : ∀ t u l l', waits t l → (∃ k, holds t k) → holds u l → waits u l' → rank l < rank l')
    {t u : τ} (hpath : Relation.TransGen (WaitEdge holds waits) t u) (ht : ∃ k, holds t k) :
    ∃ first last pred, waits t first ∧ waits pred last ∧ (∃ k, holds pred k) ∧ holds u last ∧
      rank first ≤ rank last := by
  induction hpath with
  | single hedge =>
    obtain ⟨l, hwaits, hholds⟩ := hedge
    exact ⟨l, l, t, hwaits, hwaits, ht, hholds, le_refl _⟩
  | tail _ hedge ih =>
    obtain ⟨first, last, pred, hfirst, hlast, hpred, hheld, hrank⟩ := ih
    obtain ⟨l, hwaits, hholds⟩ := hedge
    have hgrows := h _ _ last l hlast hpred hheld hwaits
    exact ⟨first, l, _, hfirst, hwaits, ⟨last, hheld⟩, hholds, by omega⟩

/-- **No cycle** where every task that is waited for, by a task that holds something itself, waits
for something of a higher rank. -/
theorem not_transGen_of_rank
    (h : ∀ t u l l', waits t l → (∃ k, holds t k) → holds u l → waits u l' → rank l < rank l')
    (t : τ) : ¬ Relation.TransGen (WaitEdge holds waits) t t := by
  intro hcycle
  have ht : ∃ k, holds t k := by
    obtain ⟨_, -, l, -, hholds⟩ := Relation.TransGen.tail'_iff.mp hcycle
    exact ⟨l, hholds⟩
  obtain ⟨first, last, pred, hfirst, hlast, hpred, hheld, hrank⟩ :=
    rank_le_of_transGen h hcycle ht
  have hgrows := h pred t last first hlast hpred hheld hfirst
  omega

end

/-! ### Tasks -/

/-- How a lock is held. -/
inductive LockMode
  | shared | exclusive
  deriving DecidableEq, Repr, Inhabited

/-- What a task does with locks. -/
inductive Skeleton (κ : Type u)
  | skip
  /-- Take a lock, run the body, give the lock up. -/
  | hold (lock : κ) (mode : LockMode) (body : Skeleton κ)
  | seq (first second : Skeleton κ)
  | choice (left right : Skeleton κ)
  | loop (body : Skeleton κ)
  deriving DecidableEq, Repr

/-- What is left to be done: code, and locks to be given up. -/
inductive Frame (κ : Type u)
  | exec (code : Skeleton κ)
  | drop (lock : κ) (mode : LockMode)
  deriving DecidableEq, Repr

/-- A task runs, or waits for a lock with the body to be run under it. -/
inductive TaskState (κ : Type u)
  | running (stack : List (Frame κ))
  | waiting (lock : κ) (mode : LockMode) (body : Skeleton κ) (rest : List (Frame κ))
  deriving DecidableEq, Repr

section

variable {κ : Type u}

/-- The locks that a stack gives up. -/
def heldLocks : List (Frame κ) → List (κ × LockMode)
  | [] => []
  | .exec _ :: stack => heldLocks stack
  | .drop lock mode :: stack => (lock, mode) :: heldLocks stack

/-- The locks a task holds. -/
def TaskState.held : TaskState κ → List (κ × LockMode)
  | .running stack | .waiting _ _ _ stack => heldLocks stack

/-- The names of the locks that a stack gives up. -/
def lockNames (stack : List (Frame κ)) : List κ := (heldLocks stack).map (·.1)

@[simp] theorem lockNames_nil : lockNames ([] : List (Frame κ)) = [] := rfl

@[simp] theorem lockNames_exec (code : Skeleton κ) (stack : List (Frame κ)) :
    lockNames (.exec code :: stack) = lockNames stack := rfl

@[simp] theorem lockNames_drop (lock : κ) (mode : LockMode) (stack : List (Frame κ)) :
    lockNames (.drop lock mode :: stack) = lock :: lockNames stack := rfl

/-- The code asks for the lock somewhere. -/
def Skeleton.mentions [DecidableEq κ] (lock : κ) : Skeleton κ → Bool
  | .skip => false
  | .hold other _ body => other = lock || body.mentions lock
  | .seq first second => first.mentions lock || second.mentions lock
  | .choice left right => left.mentions lock || right.mentions lock
  | .loop body => body.mentions lock

/-- A stack asks for the lock somewhere. -/
def stackMentions [DecidableEq κ] (lock : κ) (stack : List (Frame κ)) : Bool :=
  stack.any fun
    | .exec code => code.mentions lock
    | .drop _ _ => false

/-- The task is still to ask for the lock, or waits for it. -/
def TaskState.needs [DecidableEq κ] (lock : κ) : TaskState κ → Bool
  | .running stack => stackMentions lock stack
  | .waiting other _ body rest =>
    other = lock || body.mentions lock || stackMentions lock rest

/-- The task holds the lock or waits for it. -/
def TaskState.hasAsked [DecidableEq κ] (lock : κ) : TaskState κ → Bool
  | .running stack => lock ∈ lockNames stack
  | .waiting other _ _ rest => other = lock || lock ∈ lockNames rest

/-- Every lock is asked for only over locks where that is allowed. -/
def Skeleton.respects (allowed : List κ → κ → Bool) (held : List κ) : Skeleton κ → Bool
  | .skip => true
  | .hold lock _ body => allowed held lock && body.respects allowed (lock :: held)
  | .seq first second => first.respects allowed held && second.respects allowed held
  | .choice left right => left.respects allowed held && right.respects allowed held
  | .loop body => body.respects allowed held

/-- The same for what is left on a stack. -/
def stackRespects (allowed : List κ → κ → Bool) : List (Frame κ) → Bool
  | [] => true
  | .exec code :: stack =>
    code.respects allowed (lockNames stack) && stackRespects allowed stack
  | .drop _ _ :: stack => stackRespects allowed stack

/-- The same for a task. -/
def TaskState.respects (allowed : List κ → κ → Bool) : TaskState κ → Bool
  | .running stack => stackRespects allowed stack
  | .waiting lock _ body rest =>
    allowed (lockNames rest) lock && body.respects allowed (lock :: lockNames rest)
      && stackRespects allowed rest

/-! ### The system -/

/-- Tasks are numbered. -/
abbrev TaskId := ℕ

/-- The tasks, and for each lock the tasks that wait for it in the order of their requests. -/
structure LockSystem (κ : Type u) where
  tasks : Table TaskId (TaskState κ)
  queue : κ → List TaskId

/-- The steps: a task of some kind comes up, goes on, gets the lock it waits for, or is given up
with everything it holds. -/
inductive LockAction (ι : Type v)
  | spawn (task : TaskId) (kind : ι)
  | run (task : TaskId) (branch : Bool)
  | grant (task : TaskId)
  | cancel (task : TaskId)
  deriving DecidableEq, Repr

namespace LockSystem

/-- Nothing holds the lock in a way that excludes the mode. -/
def admits [DecidableEq κ] (s : LockSystem κ) (lock : κ) (mode : LockMode) : Bool :=
  !s.tasks.any fun _ state => state.held.any fun held =>
    held.1 = lock && !(mode = .shared && held.2 = .shared)

/-- A running task goes on. -/
def run [DecidableEq κ] (s : LockSystem κ) (task : TaskId) (branch : Bool) :
    Option (LockSystem κ) :=
  match s.tasks.get task with
  | some (.running (frame :: stack)) =>
    match frame with
    | .drop _ _ => some { s with tasks := s.tasks.put task (.running stack) }
    | .exec .skip => some { s with tasks := s.tasks.put task (.running stack) }
    | .exec (.seq first second) =>
      some { s with tasks := s.tasks.put task (.running (.exec first :: .exec second :: stack)) }
    | .exec (.choice left right) =>
      some { s with
        tasks := s.tasks.put task (.running (.exec (if branch then left else right) :: stack)) }
    | .exec (.loop body) =>
      some { s with
        tasks := s.tasks.put task (.running
          (if branch then .exec body :: .exec (.loop body) :: stack else stack)) }
    | .exec (.hold lock mode body) =>
      some ⟨s.tasks.put task (.waiting lock mode body stack),
        Function.update s.queue lock (s.queue lock ++ [task])⟩
  | _ => none

/-- The first in the queue of a lock gets it. -/
def grant [DecidableEq κ] (s : LockSystem κ) (task : TaskId) : Option (LockSystem κ) :=
  match s.tasks.get task with
  | some (.waiting lock mode body rest) =>
    if (s.queue lock).head? = some task ∧ s.admits lock mode then
      some ⟨s.tasks.put task (.running (.exec body :: .drop lock mode :: rest)),
        Function.update s.queue lock (s.queue lock).tail⟩
    else none
  | _ => none

variable {ι : Type v}

/-- The state after a step, with the code of each kind of task. -/
def step [DecidableEq κ] (program : ι → Skeleton κ) (s : LockSystem κ) :
    LockAction ι → Option (LockSystem κ)
  | .spawn task kind =>
    match s.tasks.get task with
    | none => some { s with tasks := s.tasks.put task (.running [.exec (program kind)]) }
    | some _ => none
  | .run task branch => s.run task branch
  | .grant task => s.grant task
  | .cancel task => some ⟨s.tasks.remove task, fun lock => (s.queue lock).filter (· ≠ task)⟩

/-- No tasks. -/
def initial : LockSystem κ := ⟨∅, fun _ => []⟩

/-- The task waits for the lock. -/
def Waits (s : LockSystem κ) (task : TaskId) (lock : κ) : Prop :=
  ∃ mode body rest, s.tasks.get task = some (.waiting lock mode body rest)

/-- The task holds the lock. -/
def Holds (s : LockSystem κ) (task : TaskId) (lock : κ) : Prop :=
  ∃ state mode, s.tasks.get task = some state ∧ (lock, mode) ∈ state.held

/-- Some tasks wait in a cycle, each for a lock that the next one holds. -/
def Deadlocked (s : LockSystem κ) : Prop :=
  ∃ task, Relation.TransGen (WaitEdge s.Holds s.Waits) task task

end LockSystem

/-- The runs of tasks of the given kinds. -/
def lockMachine {ι : Type v} [DecidableEq κ] (program : ι → Skeleton κ) :
    Machine (LockSystem κ) (LockAction ι) where
  init s := s = .initial
  step := LockSystem.step program

/-! ### Steps of a task -/

/-- The steps of a running task that ask for nothing. -/
inductive Continues : List (Frame κ) → List (Frame κ) → Prop
  | drop {lock : κ} {mode : LockMode} {stack : List (Frame κ)} :
      Continues (.drop lock mode :: stack) stack
  | skip {stack : List (Frame κ)} : Continues (.exec .skip :: stack) stack
  | seq {first second : Skeleton κ} {stack : List (Frame κ)} :
      Continues (.exec (.seq first second) :: stack) (.exec first :: .exec second :: stack)
  | left {left right : Skeleton κ} {stack : List (Frame κ)} :
      Continues (.exec (.choice left right) :: stack) (.exec left :: stack)
  | right {left right : Skeleton κ} {stack : List (Frame κ)} :
      Continues (.exec (.choice left right) :: stack) (.exec right :: stack)
  | again {body : Skeleton κ} {stack : List (Frame κ)} :
      Continues (.exec (.loop body) :: stack) (.exec body :: .exec (.loop body) :: stack)
  | leave {body : Skeleton κ} {stack : List (Frame κ)} :
      Continues (.exec (.loop body) :: stack) stack

namespace Continues

variable {stack stack' : List (Frame κ)}

theorem respects {allowed : List κ → κ → Bool} (h : Continues stack stack')
    (hstack : stackRespects allowed stack = true) : stackRespects allowed stack' = true := by
  cases h <;>
    simp only [stackRespects, Skeleton.respects, lockNames_exec, Bool.and_eq_true] at hstack ⊢ <;>
    tauto

theorem lockNames_subset (h : Continues stack stack') : lockNames stack' ⊆ lockNames stack := by
  cases h <;> simp

theorem mentions [DecidableEq κ] {lock : κ} (h : Continues stack stack')
    (hmentions : stackMentions lock stack' = true) : stackMentions lock stack = true := by
  cases h <;>
    simp only [stackMentions, List.any_cons, Skeleton.mentions, Bool.or_eq_true, Bool.false_eq_true,
      false_or] at hmentions ⊢ <;>
    tauto

end Continues

namespace LockSystem

variable {ι : Type v} {program : ι → Skeleton κ} {s s' : LockSystem κ} {task : TaskId}

/-- **What a running task can do**: go on without a request, or ask for a lock. -/
theorem run_cases [DecidableEq κ] {branch : Bool} (h : s.run task branch = some s') :
    (∃ stack stack', s.tasks.get task = some (.running stack) ∧ Continues stack stack' ∧
      s' = { s with tasks := s.tasks.put task (.running stack') }) ∨
    (∃ lock mode body stack,
      s.tasks.get task = some (.running (.exec (.hold lock mode body) :: stack)) ∧
      s' = ⟨s.tasks.put task (.waiting lock mode body stack),
        Function.update s.queue lock (s.queue lock ++ [task])⟩) := by
  unfold run at h
  split at h
  · rename_i frame stack hstate
    split at h
    · exact .inl ⟨_, _, hstate, .drop, (Option.some.inj h).symm⟩
    · exact .inl ⟨_, _, hstate, .skip, (Option.some.inj h).symm⟩
    · exact .inl ⟨_, _, hstate, .seq, (Option.some.inj h).symm⟩
    · cases branch
      · exact .inl ⟨_, _, hstate, .right, (Option.some.inj h).symm⟩
      · exact .inl ⟨_, _, hstate, .left, (Option.some.inj h).symm⟩
    · cases branch
      · exact .inl ⟨_, _, hstate, .leave, (Option.some.inj h).symm⟩
      · exact .inl ⟨_, _, hstate, .again, (Option.some.inj h).symm⟩
    · exact .inr ⟨_, _, _, _, hstate, (Option.some.inj h).symm⟩
  · cases h

/-- A lock is granted to the first in its queue. -/
theorem grant_cases [DecidableEq κ] (h : s.grant task = some s') :
    ∃ lock mode body rest later, s.tasks.get task = some (.waiting lock mode body rest) ∧
      s.queue lock = task :: later ∧
      s' = ⟨s.tasks.put task (.running (.exec body :: .drop lock mode :: rest)),
        Function.update s.queue lock later⟩ := by
  unfold grant at h
  split at h
  · rename_i lock mode body rest hstate
    split at h
    · rename_i hgrant
      obtain ⟨later, hlater⟩ := List.head?_eq_some_iff.mp hgrant.1
      refine ⟨lock, mode, body, rest, later, hstate, hlater, ?_⟩
      rw [← Option.some.inj h, hlater, List.tail_cons]
    · cases h
  · cases h

/-! ### What every task asks for -/

/-- Every task asks only for what is allowed. -/
def Respects (allowed : List κ → κ → Bool) (s : LockSystem κ) : Prop :=
  ∀ task state, s.tasks.get task = some state → state.respects allowed = true

/-- One task changes, and the new state asks only for what is allowed. -/
private theorem respects_put {allowed : List κ → κ → Bool} {state : TaskState κ}
    {queue : κ → List TaskId} (h : s.Respects allowed) (hstate : state.respects allowed = true) :
    Respects allowed ⟨s.tasks.put task state, queue⟩ := by
  intro other state' hget
  rw [Table.get_put] at hget
  split at hget
  · exact Option.some.inj hget ▸ hstate
  · exact h other state' hget

/-- **One step** keeps the tasks to what is allowed, where their code does. -/
theorem respects_step [DecidableEq κ] {allowed : List κ → κ → Bool} {a : LockAction ι}
    (hprogram : ∀ kind, (program kind).respects allowed [] = true) (h : s.Respects allowed)
    (hs : s.step program a = some s') : s'.Respects allowed := by
  cases a with
  | spawn task kind =>
    simp only [step] at hs
    split at hs
    · refine Option.some.inj hs ▸ respects_put h ?_
      simpa [TaskState.respects, stackRespects] using hprogram kind
    · cases hs
  | run task branch =>
    obtain ⟨stack, stack', hstate, hcontinues, rfl⟩ | ⟨lock, mode, body, stack, hstate, rfl⟩ :=
      run_cases hs
    · exact respects_put h (hcontinues.respects (h task _ hstate))
    · have hrespects := h task _ hstate
      exact respects_put h hrespects
  | grant task =>
    obtain ⟨lock, mode, body, rest, later, hstate, -, rfl⟩ := grant_cases hs
    have hrespects := h task _ hstate
    refine respects_put h ?_
    simp only [TaskState.respects, Bool.and_eq_true] at hrespects
    simpa [TaskState.respects, stackRespects] using ⟨hrespects.1.2, hrespects.2⟩
  | cancel task =>
    obtain rfl := Option.some.inj hs
    intro other state hget
    rw [Table.get_remove] at hget
    split at hget
    · cases hget
    · exact h other state hget

/-- The lock that a task waits for is allowed over those it holds. -/
private theorem allowed_of_waits {allowed : List κ → κ → Bool} (h : s.Respects allowed)
    {lock : κ} {mode : LockMode} {body : Skeleton κ} {rest : List (Frame κ)}
    (hstate : s.tasks.get task = some (.waiting lock mode body rest)) :
    allowed (lockNames rest) lock = true := by
  have hrespects := h task _ hstate
  simp only [TaskState.respects, Bool.and_eq_true] at hrespects
  exact hrespects.1.1

/-- The locks that a waiting task holds. -/
private theorem holds_iff {lock other : κ} {mode : LockMode} {body : Skeleton κ}
    {rest : List (Frame κ)} (hstate : s.tasks.get task = some (.waiting lock mode body rest)) :
    s.Holds task other ↔ other ∈ lockNames rest := by
  constructor
  · rintro ⟨state, mode', hget, hmem⟩
    obtain rfl := Option.some.inj (hstate.symm.trans hget)
    exact List.mem_map.mpr ⟨_, hmem, rfl⟩
  · intro hmem
    obtain ⟨⟨_, mode'⟩, hheld, rfl⟩ := List.mem_map.mp hmem
    exact ⟨_, mode', hstate, hheld⟩

/-! ### The queues -/

/-- The queue of a lock has the tasks that wait for it, each once. -/
structure Queued (s : LockSystem κ) : Prop where
  queued : ∀ task lock, s.Waits task lock → task ∈ s.queue lock
  waits : ∀ lock, ∀ task ∈ s.queue lock, s.Waits task lock
  nodup : ∀ lock, (s.queue lock).Nodup

/-- A task waits for one lock only. -/
theorem Waits.unique {lock lock' : κ} (h : s.Waits task lock) (h' : s.Waits task lock') :
    lock = lock' := by
  obtain ⟨_, _, _, h⟩ := h
  obtain ⟨_, _, _, h'⟩ := h'
  rw [h] at h'
  exact (TaskState.waiting.inj (Option.some.inj h')).1

/-- A running task waits for nothing. -/
theorem not_waits_of_running {stack : List (Frame κ)}
    (hstate : s.tasks.get task = some (.running stack)) (lock : κ) : ¬ s.Waits task lock := by
  rintro ⟨_, _, _, hwaits⟩
  rw [hstate] at hwaits
  cases hwaits

/-- The change of one task leaves the others waiting as they were. -/
theorem waits_put_ne {state : TaskState κ} {queue : κ → List TaskId} {other : TaskId} {lock : κ}
    (hne : other ≠ task) :
    Waits ⟨s.tasks.put task state, queue⟩ other lock ↔ s.Waits other lock := by
  unfold Waits
  rw [Table.get_put_ne _ _ hne]

/-- A task that waits for nothing before and after a change of its own. -/
private theorem queued_put {stack' : List (Frame κ)} (h : Queued s)
    (hbefore : ∀ lock, ¬ s.Waits task lock) :
    Queued { s with tasks := s.tasks.put task (.running stack') } where
  queued other lock hwaits := by
    by_cases hne : other = task
    · subst hne
      exact absurd hwaits (not_waits_of_running (Table.get_put_self _ _ _) lock)
    · exact h.queued other lock ((waits_put_ne hne).mp hwaits)
  waits lock other hother := by
    have hwaits := h.waits lock other hother
    refine (waits_put_ne ?_).mpr hwaits
    rintro rfl
    exact hbefore lock hwaits
  nodup := h.nodup

/-- A request puts the task at the end of one queue. -/
private theorem queued_request [DecidableEq κ] {lock : κ} {mode : LockMode} {body : Skeleton κ}
    {stack : List (Frame κ)} (h : Queued s) (hbefore : ∀ lock, ¬ s.Waits task lock) :
    Queued ⟨s.tasks.put task (.waiting lock mode body stack),
      Function.update s.queue lock (s.queue lock ++ [task])⟩ := by
  have hout : ∀ {lock other}, other ∈ s.queue lock → other ≠ task := by
    rintro lock other hmem rfl
    exact hbefore lock (h.waits lock other hmem)
  have hnow : Waits ⟨s.tasks.put task (.waiting lock mode body stack),
      Function.update s.queue lock (s.queue lock ++ [task])⟩ task lock :=
    ⟨mode, body, stack, Table.get_put_self _ _ _⟩
  refine ⟨fun other lock' hwaits => ?_, fun lock' other hother => ?_, fun lock' => ?_⟩
  · by_cases hne : other = task
    · subst hne
      obtain rfl := hnow.unique hwaits
      simp
    · have hmem := h.queued other lock' ((waits_put_ne hne).mp hwaits)
      by_cases hlock : lock' = lock
      · subst hlock
        simp [hmem]
      · simp [Function.update_of_ne hlock, hmem]
  · by_cases hlock : lock' = lock
    · subst hlock
      simp only [Function.update_self, List.mem_append, List.mem_singleton] at hother
      rcases hother with hother | rfl
      · exact (waits_put_ne (hout hother)).mpr (h.waits lock' other hother)
      · exact hnow
    · simp only [Function.update_of_ne hlock] at hother
      exact (waits_put_ne (hout hother)).mpr (h.waits lock' other hother)
  · by_cases hlock : lock' = lock
    · subst hlock
      simp only [Function.update_self]
      refine List.nodup_append.mpr ⟨h.nodup lock', by simp, ?_⟩
      intro x hx y hy
      rw [List.mem_singleton.mp hy]
      exact hout hx
    · simpa [Function.update_of_ne hlock] using h.nodup lock'

/-- A grant takes the first task off one queue. -/
private theorem queued_grant [DecidableEq κ] {lock : κ} {stack' : List (Frame κ)}
    {later : List TaskId} (h : Queued s) (hwaiting : s.Waits task lock)
    (hqueue : s.queue lock = task :: later) :
    Queued ⟨s.tasks.put task (.running stack'), Function.update s.queue lock later⟩ := by
  have hnodup := h.nodup lock
  rw [hqueue, List.nodup_cons] at hnodup
  refine ⟨fun other lock' hwaits => ?_, fun lock' other hother => ?_, fun lock' => ?_⟩
  · by_cases hne : other = task
    · subst hne
      exact absurd hwaits (not_waits_of_running (Table.get_put_self _ _ _) lock')
    · have hmem := h.queued other lock' ((waits_put_ne hne).mp hwaits)
      by_cases hlock : lock' = lock
      · subst hlock
        rw [hqueue, List.mem_cons] at hmem
        simpa using hmem.resolve_left hne
      · simpa [Function.update_of_ne hlock] using hmem
  · have hmem : other ∈ s.queue lock' ∧ other ≠ task := by
      by_cases hlock : lock' = lock
      · subst hlock
        simp only [Function.update_self] at hother
        rw [hqueue]
        refine ⟨List.mem_cons_of_mem _ hother, ?_⟩
        rintro rfl
        exact hnodup.1 hother
      · simp only [Function.update_of_ne hlock] at hother
        refine ⟨hother, ?_⟩
        rintro rfl
        exact hlock ((h.waits lock' other hother).unique hwaiting)
    exact (waits_put_ne hmem.2).mpr (h.waits lock' other hmem.1)
  · by_cases hlock : lock' = lock
    · subst hlock
      simpa using hnodup.2
    · simpa [Function.update_of_ne hlock] using h.nodup lock'

/-- A task that is given up leaves its queue. -/
private theorem queued_cancel (h : Queued s) (task : TaskId) :
    Queued ⟨s.tasks.remove task, fun lock => (s.queue lock).filter (· ≠ task)⟩ := by
  have hkept : ∀ {other lock}, Waits ⟨s.tasks.remove task,
      fun lock => (s.queue lock).filter (· ≠ task)⟩ other lock ↔
      other ≠ task ∧ s.Waits other lock := by
    intro other lock
    unfold Waits
    rw [Table.get_remove]
    by_cases hne : other = task <;> simp [hne]
  refine ⟨fun other lock hwaits => ?_, fun lock other hother => ?_, fun lock => ?_⟩
  · obtain ⟨hne, hwaits⟩ := hkept.mp hwaits
    simpa [hne] using h.queued other lock hwaits
  · have hmem := List.mem_filter.mp hother
    exact hkept.mpr ⟨by simpa using hmem.2, h.waits lock other hmem.1⟩
  · exact (h.nodup lock).filter _

/-- **One step** keeps the queues. -/
theorem queued_step [DecidableEq κ] {a : LockAction ι} (h : Queued s)
    (hs : s.step program a = some s') : Queued s' := by
  cases a with
  | spawn task kind =>
    simp only [step] at hs
    split at hs
    · rename_i hnone
      refine Option.some.inj hs ▸ queued_put h fun lock => ?_
      rintro ⟨_, _, _, hwaits⟩
      rw [hnone] at hwaits
      cases hwaits
    · cases hs
  | run task branch =>
    obtain ⟨stack, stack', hstate, -, rfl⟩ | ⟨lock, mode, body, stack, hstate, rfl⟩ := run_cases hs
    · exact queued_put h (not_waits_of_running hstate)
    · exact queued_request h (not_waits_of_running hstate)
  | grant task =>
    obtain ⟨lock, mode, body, rest, later, hstate, hqueue, rfl⟩ := grant_cases hs
    exact queued_grant h ⟨mode, body, rest, hstate⟩ hqueue
  | cancel task => exact Option.some.inj hs ▸ queued_cancel h task

/-! ### One request against the order -/

/-- A lock may be asked for over locks of lower rank, and `low` over `high` alone. -/
def inOrder [DecidableEq κ] (rank : κ → ℕ) (low high : κ) (held : List κ) (lock : κ) : Bool :=
  held.all (fun other => rank other < rank lock) || (lock = low && held = [high])

/-- The task has asked for `low` and is still to ask for `high`, or waits for it. -/
def crosses [DecidableEq κ] (low high : κ) (state : TaskState κ) : Bool :=
  state.hasAsked low && state.needs high

/-- No task asks for `low` while it holds `high` and another task has asked for `low` and is still
to get `high`. -/
def Uncrossed [DecidableEq κ] (low high : κ) (s : LockSystem κ) : LockAction ι → Prop
  | .run task _ =>
    match s.tasks.get task with
    | some (.running (.exec (.hold lock _ _) :: stack)) =>
      lock = low → high ∈ lockNames stack →
        s.tasks.any (fun other state => other ≠ task && crosses low high state) = false
    | _ => True
  | _ => True

instance [DecidableEq κ] (low high : κ) (s : LockSystem κ) (a : LockAction ι) :
    Decidable (Uncrossed low high s a) := by
  unfold Uncrossed
  split
  · split <;> infer_instance
  · infer_instance

/-- While a task waits for `low` and holds `high`, the tasks that have asked for `low` and still
need `high` wait behind it. -/
def Behind [DecidableEq κ] (low high : κ) (s : LockSystem κ) : Prop :=
  ∀ task mode body rest, s.tasks.get task = some (.waiting low mode body rest) →
    high ∈ lockNames rest → ∀ other state, other ≠ task → s.tasks.get other = some state →
      crosses low high state = true →
      s.Waits other low ∧ other ∉ (s.queue low).takeWhile (· ≠ task)

section

variable [DecidableEq κ] {low high : κ}

/-- Requests that come later do not get in front. -/
private theorem takeWhile_append_of_mem {queue : List TaskId} {later : TaskId}
    (hmem : task ∈ queue) :
    (queue ++ [later]).takeWhile (· ≠ task) = queue.takeWhile (· ≠ task) := by
  induction queue with
  | nil => cases hmem
  | cons first queue ih =>
    by_cases hfirst : first = task
    · simp [hfirst]
    · have hrest := (List.mem_cons.mp hmem).resolve_left (Ne.symm hfirst)
      simpa [hfirst] using ih hrest

/-- Requests that are given up leave the others in their order. -/
private theorem mem_takeWhile_filter {queue : List TaskId} {gone other : TaskId}
    (hne : task ≠ gone) (h : other ∈ (queue.filter (· ≠ gone)).takeWhile (· ≠ task)) :
    other ∈ queue.takeWhile (· ≠ task) := by
  induction queue with
  | nil => simp at h
  | cons first queue ih =>
    by_cases hgone : first = gone
    · have hfirst : first ≠ task := by
        rintro rfl
        exact hne hgone
      rw [List.filter_cons_of_neg (by simpa using hgone)] at h
      rw [List.takeWhile_cons_of_pos (by simpa using hfirst)]
      exact List.mem_cons_of_mem _ (ih h)
    · rw [List.filter_cons_of_pos (by simpa using hgone)] at h
      by_cases hfirst : first = task
      · rw [List.takeWhile_cons_of_neg (by simpa using hfirst)] at h
        cases h
      · rw [List.takeWhile_cons_of_pos (by simpa using hfirst), List.mem_cons] at h ⊢
        exact h.imp id ih

/-- A task that goes on does not come to cross. -/
private theorem crosses_of_continues {stack stack' : List (Frame κ)} (h : Continues stack stack')
    (hcrosses : crosses low high (.running stack') = true) :
    crosses low high (.running stack) = true := by
  simp only [crosses, TaskState.hasAsked, TaskState.needs, Bool.and_eq_true,
    decide_eq_true_eq] at hcrosses ⊢
  exact ⟨h.lockNames_subset hcrosses.1, h.mentions hcrosses.2⟩

/-- Neither does a task that asks for another lock than `low`. -/
private theorem crosses_of_request {lock : κ} {mode : LockMode} {body : Skeleton κ}
    {stack : List (Frame κ)} (hlock : lock ≠ low)
    (hcrosses : crosses low high (.waiting lock mode body stack) = true) :
    crosses low high (.running (.exec (.hold lock mode body) :: stack)) = true := by
  simp only [crosses, TaskState.hasAsked, TaskState.needs, stackMentions, Bool.and_eq_true,
    Bool.or_eq_true, decide_eq_true_eq] at hcrosses
  simp only [crosses, TaskState.hasAsked, TaskState.needs, stackMentions, Skeleton.mentions,
    lockNames_exec, List.any_cons, Bool.and_eq_true, Bool.or_eq_true, decide_eq_true_eq]
  exact ⟨decide_eq_true (hcrosses.1.resolve_left hlock), hcrosses.2⟩

/-- A task that crosses when it has got a lock has crossed while it waited. -/
private theorem crosses_of_grant {lock : κ} {mode : LockMode} {body : Skeleton κ}
    {rest : List (Frame κ)}
    (hcrosses : crosses low high (.running (.exec body :: .drop lock mode :: rest)) = true) :
    crosses low high (.waiting lock mode body rest) = true := by
  simp only [crosses, TaskState.hasAsked, TaskState.needs, stackMentions, lockNames_exec,
    lockNames_drop, List.mem_cons, List.any_cons, Bool.and_eq_true, Bool.or_eq_true,
    decide_eq_true_eq, Bool.false_eq_true, false_or] at hcrosses
  simp only [crosses, TaskState.hasAsked, TaskState.needs, stackMentions, Bool.and_eq_true,
    Bool.or_eq_true, decide_eq_true_eq]
  exact ⟨hcrosses.1.imp Eq.symm id, hcrosses.2.imp .inr id⟩

/-- A change of one task that neither asks for a lock nor crosses. -/
private theorem behind_put {state : TaskState κ} (h : Behind low high s)
    (hidle : ∀ lock mode body rest, state ≠ .waiting lock mode body rest)
    (hstate : crosses low high state = true → ∃ before, s.tasks.get task = some before ∧
      crosses low high before = true ∧ ¬ s.Waits task low) :
    Behind low high { s with tasks := s.tasks.put task state } := by
  intro waiter mode body rest hwaiter hheld other state' hne hother hcrosses
  rw [Table.get_put] at hwaiter hother
  split at hwaiter
  · exact absurd (Option.some.inj hwaiter) (hidle _ _ _ _)
  · split at hother
    · rename_i hsame
      obtain rfl := Option.some.inj hother
      obtain ⟨before, hbefore, hcrossed, hnot⟩ := hstate hcrosses
      have hwaits := (h waiter mode body rest hwaiter hheld task before (hsame ▸ hne) hbefore
        hcrossed).1
      exact absurd hwaits hnot
    · rename_i hother'
      obtain ⟨hwaits, hbehind⟩ := h waiter mode body rest hwaiter hheld other state' hne hother
        hcrosses
      exact ⟨(waits_put_ne hother').mpr hwaits, hbehind⟩

/-- A request: later than all in its queue, and not against the order while others cross. -/
private theorem behind_request {lock : κ} {mode : LockMode} {body : Skeleton κ}
    {stack : List (Frame κ)} (h : Behind low high s) (hqueued : Queued s)
    (hstate : s.tasks.get task = some (.running (.exec (.hold lock mode body) :: stack)))
    (hok : lock = low → high ∈ lockNames stack →
      s.tasks.any (fun other state => other ≠ task && crosses low high state) = false) :
    Behind low high ⟨s.tasks.put task (.waiting lock mode body stack),
      Function.update s.queue lock (s.queue lock ++ [task])⟩ := by
  have hout : task ∉ s.queue low := fun hmem =>
    not_waits_of_running hstate low (hqueued.waits low task hmem)
  intro waiter mode' body' rest hwaiter hheld other state' hne hother hcrosses
  rw [Table.get_put] at hwaiter
  split at hwaiter
  · -- the request against the order is this one
    rename_i hwaiterTask
    obtain ⟨rfl, rfl, rfl, rfl⟩ := TaskState.waiting.inj (Option.some.inj hwaiter)
    subst hwaiterTask
    rw [Table.get_put_ne _ _ hne] at hother
    have hnone := Table.any_eq_false.mp (hok rfl hheld) other state' hother
    simp [hne, hcrosses] at hnone
  · rename_i hwaiterTask
    -- the queue of `low` has the same tasks in front of the waiting one
    have hfront : (Function.update s.queue lock (s.queue lock ++ [task]) low).takeWhile
        (· ≠ waiter) = (s.queue low).takeWhile (· ≠ waiter) := by
      by_cases hlock : low = lock
      · subst hlock
        rw [Function.update_self]
        exact takeWhile_append_of_mem (hqueued.queued waiter low ⟨_, _, _, hwaiter⟩)
      · rw [Function.update_of_ne hlock]
    rw [hfront]
    rw [Table.get_put] at hother
    split at hother
    · rename_i hsame
      obtain rfl := Option.some.inj hother
      subst hsame
      by_cases hlock : lock = low
      · subst hlock
        refine ⟨⟨mode, body, stack, Table.get_put_self _ _ _⟩, fun hmem => hout ?_⟩
        exact List.takeWhile_subset _ hmem
      · have hbefore := crosses_of_request hlock hcrosses
        have hwaits := (h waiter mode' body' rest hwaiter hheld other _ hne hstate hbefore).1
        exact absurd hwaits (not_waits_of_running hstate low)
    · rename_i hother'
      obtain ⟨hwaits, hbehind⟩ := h waiter mode' body' rest hwaiter hheld other state' hne hother
        hcrosses
      exact ⟨(waits_put_ne hother').mpr hwaits, hbehind⟩

/-- A grant goes to the first in a queue, so not to a task that waits behind. -/
private theorem behind_grant {lock : κ} {mode : LockMode} {body : Skeleton κ}
    {rest : List (Frame κ)} {later : List TaskId} (h : Behind low high s)
    (hstate : s.tasks.get task = some (.waiting lock mode body rest))
    (hqueue : s.queue lock = task :: later) :
    Behind low high ⟨s.tasks.put task (.running (.exec body :: .drop lock mode :: rest)),
      Function.update s.queue lock later⟩ := by
  intro waiter mode' body' rest' hwaiter hheld other state' hne hother hcrosses
  rw [Table.get_put] at hwaiter
  split at hwaiter
  · cases Option.some.inj hwaiter
  · rename_i hwaiterTask
    have hfirst : ∀ {t}, t ∉ (s.queue low).takeWhile (· ≠ waiter) →
        t ∉ (Function.update s.queue lock later low).takeWhile (· ≠ waiter) := by
      intro t hnot
      by_cases hlock : low = lock
      · subst hlock
        rw [hqueue, List.takeWhile_cons_of_pos (by simpa using Ne.symm hwaiterTask),
          List.mem_cons] at hnot
        rw [Function.update_self]
        exact fun hmem => hnot (.inr hmem)
      · rwa [Function.update_of_ne hlock]
    rw [Table.get_put] at hother
    split at hother
    · rename_i hsame
      obtain rfl := Option.some.inj hother
      subst hsame
      obtain ⟨hwaits, hbehind⟩ := h waiter mode' body' rest' hwaiter hheld other _ hne hstate
        (crosses_of_grant hcrosses)
      have hlock : low = lock := hwaits.unique ⟨mode, body, rest, hstate⟩
      subst hlock
      rw [hqueue, List.takeWhile_cons_of_pos (by simpa using hne)] at hbehind
      exact absurd (List.mem_cons_self ..) hbehind
    · rename_i hother'
      obtain ⟨hwaits, hbehind⟩ := h waiter mode' body' rest' hwaiter hheld other state' hne hother
        hcrosses
      exact ⟨(waits_put_ne hother').mpr hwaits, hfirst hbehind⟩

/-- **One step** keeps the crossing tasks behind. -/
theorem behind_step {a : LockAction ι} (h : Behind low high s) (hqueued : Queued s)
    (hok : Uncrossed low high s a) (hs : s.step program a = some s') : Behind low high s' := by
  cases a with
  | spawn task kind =>
    simp only [step] at hs
    split at hs
    · refine Option.some.inj hs ▸ behind_put h (by simp) fun hcrosses => ?_
      simp [crosses, TaskState.hasAsked] at hcrosses
    · cases hs
  | run task branch =>
    obtain ⟨stack, stack', hstate, hcontinues, rfl⟩ | ⟨lock, mode, body, stack, hstate, rfl⟩ :=
      run_cases hs
    · refine behind_put h (by simp) fun hcrosses => ?_
      exact ⟨_, hstate, crosses_of_continues hcontinues hcrosses, not_waits_of_running hstate low⟩
    · simp only [Uncrossed, hstate] at hok
      exact behind_request h hqueued hstate hok
  | grant task =>
    obtain ⟨lock, mode, body, rest, later, hstate, hqueue, rfl⟩ := grant_cases hs
    exact behind_grant h hstate hqueue
  | cancel task =>
    obtain rfl := Option.some.inj hs
    intro waiter mode body rest hwaiter hheld other state hne hother hcrosses
    rw [Table.get_remove] at hwaiter hother
    split at hwaiter
    · cases hwaiter
    · rename_i hwaiterTask
      split at hother
      · cases hother
      · rename_i hotherTask
        obtain ⟨⟨mode', body', rest', hwaits⟩, hbehind⟩ := h waiter mode body rest hwaiter hheld other
          state hne hother hcrosses
        refine ⟨⟨mode', body', rest', ?_⟩, fun hmem => hbehind (mem_takeWhile_filter hwaiterTask hmem)⟩
        rw [Table.get_remove, if_neg hotherTask]
        exact hwaits

/-- Where requests keep to the order, up to the exception, and nobody crosses, the ranks grow along
waiting tasks. -/
private theorem rank_lt_of_waits {rank : κ → ℕ} (hrespects : s.Respects (inOrder rank low high))
    (hbehind : Behind low high s) (hne : low ≠ high)
    (hlow : ∀ lock, rank lock < rank high → lock = low) {t u : TaskId} {l l' : κ}
    (ht : s.Waits t l) (hk : ∃ k, s.Holds t k) (hu : s.Holds u l) (hu' : s.Waits u l') :
    rank l < rank l' := by
  obtain ⟨mode', body', rest', hstate'⟩ := hu'
  have hheld := (holds_iff hstate').mp hu
  have hallowed := allowed_of_waits hrespects hstate'
  simp only [inOrder, Bool.or_eq_true, List.all_eq_true, decide_eq_true_eq,
    Bool.and_eq_true] at hallowed
  rcases hallowed with horder | ⟨rfl, hhigh⟩
  · exact horder l hheld
  · -- `u` asks for `low` over `high`, so `t` waits for `high` and holds `low`
    obtain rfl : l = high := by simpa [hhigh] using hheld
    obtain ⟨mode, body, rest, hstate⟩ := ht
    obtain ⟨k, hk⟩ := hk
    have hkheld := (holds_iff hstate).mp hk
    have hallowed := allowed_of_waits hrespects hstate
    simp only [inOrder, Bool.or_eq_true, List.all_eq_true, decide_eq_true_eq,
      Bool.and_eq_true] at hallowed
    rcases hallowed with horder | ⟨rfl, -⟩
    · obtain rfl := hlow k (horder k hkheld)
      have hcrosses : crosses k l (.waiting l mode body rest) = true := by
        simp [crosses, TaskState.hasAsked, TaskState.needs, hkheld]
      have htu : t ≠ u := by
        rintro rfl
        exact hne ((Waits.unique ⟨_, _, _, hstate⟩ ⟨_, _, _, hstate'⟩).symm)
      obtain ⟨hwaits, -⟩ := hbehind u mode' body' rest' hstate' (by simp [hhigh]) t _ htu hstate
        hcrosses
      exact absurd (hwaits.unique ⟨_, _, _, hstate⟩) hne
    · exact absurd rfl hne

end

end LockSystem

/-- **No deadlock in any run**, where the code of every task keeps to the order, up to requests for
`low` over `high`, `low` is the only lock below `high`, and those requests are not made while
others cross. -/
theorem noCycle_of_uncrossed {ι : Type v} [DecidableEq κ] {program : ι → Skeleton κ}
    {rank : κ → ℕ} {low high : κ}
    (hprogram : ∀ kind, (program kind).respects (LockSystem.inOrder rank low high) [] = true)
    (hne : low ≠ high) (hlow : ∀ lock, rank lock < rank high → lock = low) {s : LockSystem κ}
    (h : (lockMachine program).Reach (LockSystem.Uncrossed low high) s) : ¬ s.Deadlocked := by
  have hinv : s.Respects (LockSystem.inOrder rank low high) ∧ s.Queued ∧ s.Behind low high := by
    refine h.invariant (I := fun s => s.Respects (LockSystem.inOrder rank low high) ∧ s.Queued ∧
      s.Behind low high) ?_ fun s a s' _ hinv hok hs => ?_
    · rintro s rfl
      refine ⟨fun task state hget => ?_, ⟨fun task lock hwaits => ?_, ?_, ?_⟩, ?_⟩
      · simp [LockSystem.initial] at hget
      · obtain ⟨_, _, _, hget⟩ := hwaits
        simp [LockSystem.initial] at hget
      · simp [LockSystem.initial]
      · simp [LockSystem.initial]
      · intro task mode body rest hget
        simp [LockSystem.initial] at hget
    · obtain ⟨hrespects, hqueued, hbehind⟩ := hinv
      exact ⟨LockSystem.respects_step hprogram hrespects hs, LockSystem.queued_step hqueued hs,
        LockSystem.behind_step hbehind hqueued hok hs⟩
  obtain ⟨hrespects, -, hbehind⟩ := hinv
  have hrank : ∀ t u l l', s.Waits t l → (∃ k, s.Holds t k) → s.Holds u l → s.Waits u l' →
      rank l < rank l' := fun t u l l' ht hk hu hu' =>
    LockSystem.rank_lt_of_waits hrespects hbehind hne hlow ht hk hu hu'
  rintro ⟨task, hcycle⟩
  exact not_transGen_of_rank hrank task hcycle

end

end Lxcup.Lib
