import Lxcup.Events.Steps
import Lxcup.Reports.Steps

/-!
# What becomes of the events of a job

Every writer of the log takes the number of its next event from what it sees, and inserts later.
The primary key keeps the numbers in order whatever the writers do: in every run the rows are
numbered from one without a gap.  But it does so by refusing the insert of the writer that comes
second, and a writer that is refused drops the rest of its events.

## Main definitions

* `Ordered`, `Accounted` — the invariants of all runs, and of the runs without a conflict.
* `Current` — a writer that inserts has a number that is still the next one.
* `Intact` — no event is lost, no writer has failed, and the numbers are those from one on.

## Main results

* `ordered_of_reach` — the numbers, in every run.
* `intact_iff_current` — the log stays intact while every insert is current, and any other insert
  fails.
* `backfill_fails_worker` — `GET` makes the worker fail.
-/

namespace Lxcup.Events

open Lxcup.Lib Lxcup.Core Lxcup.Ansible Lxcup.Agent Lxcup.Persistence Lxcup.Server
open Lxcup.Reports (Numbered)

/-! ### Numbers -/

theorem taken_iff {rows : List Row} (h : Numbered (rows.map (·.event))) {number : Nat} :
    taken rows number = true ↔ 1 ≤ number ∧ number ≤ rows.length := by
  have hmem : taken rows number = true ↔ number ∈ (rows.map (·.event)).map (·.sequence) := by
    simp [taken]
  rw [hmem, show _ = List.range' 1 _ from h, List.mem_range'_1, List.length_map]
  omega

/-- The beginning of a numbered log is numbered. -/
theorem numbered_of_append {events events' : List JobEvent} (h : Numbered (events ++ events')) :
    Numbered events := by
  unfold Numbered at h ⊢
  rw [List.map_append, List.length_append, ← List.range'_append_1] at h
  exact List.append_inj_left h (by simp)

/-- What all runs keep: the numbers, those that writers go by, and who has the lock. -/
structure Ordered (s : JobLog) : Prop where
  numbered : Numbered (s.inserted.map (·.event))
  counted : ∀ n call, s.calls.get n = some call → ∀ next ∈ call.phase.counted?,
    1 ≤ next ∧ next ≤ s.rows.length + 1
  inserting : ∀ n call, s.calls.get n = some call → call.phase.holds = true →
    ∀ next ∈ call.phase.inserts?, 1 ≤ next ∧ next ≤ s.inserted.length + 1
  holder : ∀ n, (s.calls.get n).any (·.phase.holds) = (s.transactionOf n).isSome
  written : ∀ transaction ∈ s.transaction, ∀ row ∈ transaction.rows,
    row.writer = some transaction.owner

theorem length_inserted (s : JobLog) : s.inserted.length = s.rows.length + s.hidden.length := by
  rw [JobLog.inserted, List.length_append]

/-- Only one writer has a transaction. -/
theorem owner_unique {s : JobLog} {n m : Nat} (hn : (s.transactionOf n).isSome = true)
    (hm : (s.transactionOf m).isSome = true) : n = m := by
  obtain ⟨transaction, hown⟩ := Option.isSome_iff_exists.mp hn
  obtain ⟨transaction', hown'⟩ := Option.isSome_iff_exists.mp hm
  obtain ⟨hopen, rfl⟩ := transactionOf_eq_some.mp hown
  obtain ⟨hopen', rfl⟩ := transactionOf_eq_some.mp hown'
  rw [Option.some.inj (hopen.symm.trans hopen')]

namespace Ordered

variable {s : JobLog}

/-- No writer is ahead of the log. -/
theorem bound (h : Ordered s) {n : Nat} {call : Call} {next : Nat}
    (hknown : s.calls.get n = some call) (hinserts : next ∈ call.phase.inserts?) :
    1 ≤ next ∧ next ≤ s.inserted.length + 1 := by
  by_cases hholds : call.phase.holds = true
  · exact h.inserting n call hknown hholds next hinserts
  · have hcounted : next ∈ call.phase.counted? := by
      cases hphase : call.phase with
      | appending events first answer =>
        rw [hphase] at hinserts
        cases events with
        | nil => cases hinserts
        | cons kind rest => exact hinserts
      | inserting kind rest first =>
        rw [hphase] at hholds
        exact absurd rfl hholds
      | _ =>
        rw [hphase] at hinserts
        cases hinserts
    have hlast := h.counted n call hknown next hcounted
    rw [length_inserted]
    omega

/-- A number that is not taken is the next one. -/
theorem next_eq (h : Ordered s) {n : Nat} {call : Call} {next : Nat}
    (hknown : s.calls.get n = some call) (hinserts : next ∈ call.phase.inserts?)
    (hfree : taken s.inserted next = false) : next = s.inserted.length + 1 := by
  have hbound := h.bound hknown hinserts
  rw [← Bool.not_eq_true, taken_iff h.numbered] at hfree
  omega

/-- One writer has gone on. -/
theorem evolve (h : Ordered s) {s' : JobLog} {n : Nat} {call : Call}
    (hcalls : s'.calls = s.calls.put n call) (hnumbered : Numbered (s'.inserted.map (·.event)))
    (hrows : s.rows.length ≤ s'.rows.length)
    (hgrown : s.inserted.length ≤ s'.inserted.length ∨ (s.transactionOf n).isSome = true)
    (hcounted : ∀ next ∈ call.phase.counted?, 1 ≤ next ∧ next ≤ s'.rows.length + 1)
    (hinserting : call.phase.holds = true → ∀ next ∈ call.phase.inserts?,
      1 ≤ next ∧ next ≤ s'.inserted.length + 1)
    (hself : call.phase.holds = (s'.transactionOf n).isSome)
    (hothers : ∀ m, m ≠ n → (s'.transactionOf m).isSome = (s.transactionOf m).isSome)
    (hwritten : ∀ transaction ∈ s'.transaction, ∀ row ∈ transaction.rows,
      row.writer = some transaction.owner) : Ordered s' where
  numbered := hnumbered
  counted m other hother next hnext := by
    rw [hcalls] at hother
    rcases Table.get_put_cases hother with ⟨-, rfl⟩ | ⟨-, hold⟩
    · exact hcounted next hnext
    · have hbound := h.counted m other hold next hnext
      omega
  inserting m other hother hholds next hnext := by
    rw [hcalls] at hother
    rcases Table.get_put_cases hother with ⟨-, rfl⟩ | ⟨hne, hold⟩
    · exact hinserting hholds next hnext
    · have hbound := h.inserting m other hold hholds next hnext
      rcases hgrown with hgrown | hown
      · omega
      · -- the lock would have two owners
        have hholder := h.holder m
        rw [hold, Option.any_some, hholds] at hholder
        exact absurd (owner_unique hholder.symm hown) hne
  holder m := by
    rw [hcalls, Table.get_put]
    split
    case isTrue heq =>
      rw [heq, Option.any_some]
      exact hself
    case isFalse hne => rw [h.holder m, hothers m hne]
  written := hwritten

/-- The number of an event that is inserted outside of a transaction is the next one, and no
transaction has inserted anything. -/
theorem append_next (h : Ordered s) {n : Nat} {call : Call} {kind : JobEventKind}
    {rest : List JobEventKind} {next : Nat} {answer : Option (List JobEvent)}
    (hknown : s.calls.get n = some call)
    (hphase : call.phase = .appending (kind :: rest) next answer)
    (hfree : taken s.inserted next = false) : next = s.rows.length + 1 ∧ s.hidden = [] := by
  have hnext := h.next_eq hknown (by rw [hphase]; rfl) hfree
  have hcounted := h.counted n call hknown next (by rw [hphase]; rfl)
  rw [length_inserted] at hnext
  have hnone : s.hidden.length = 0 := by omega
  exact ⟨by omega, List.length_eq_zero_iff.mp hnone⟩

theorem holds_eq (h : Ordered s) {n : Nat} {call : Call} (hknown : s.calls.get n = some call) :
    call.phase.holds = (s.transactionOf n).isSome := by
  rw [← h.holder n, hknown, Option.any_some]

theorem started (h : Ordered s) {n : Nat} {call : Call} (hfree : s.calls.get n = none)
    (hholds : call.phase.holds = false) (hcounted : call.phase.counted? = none) :
    Ordered (s.withCall n call) := by
  have hself : call.phase.holds = (s.transactionOf n).isSome := by
    rw [hholds, ← h.holder n, hfree, Option.any_none]
  refine h.evolve (n := n) rfl h.numbered le_rfl (.inl le_rfl) ?_ ?_ hself
    (fun _ _ => rfl) h.written
  · intro next hnext
    rw [hcounted] at hnext
    cases hnext
  · intro hinside
    rw [hholds] at hinside
    cases hinside

theorem moved (h : Ordered s) {n : Nat} {call call' : Call} (job : AnsibleJob)
    (hknown : s.calls.get n = some call) (hmoves : Moves s call call') :
    Ordered ({ s with job := job }.withCall n call') := by
  refine h.evolve (n := n) rfl h.numbered le_rfl (.inl le_rfl) ?_ ?_
    (hmoves.holds.trans (h.holds_eq hknown)) (fun _ _ => rfl) h.written
  · intro next hnext
    rcases hmoves.counted next hnext with hold | rfl
    · exact h.counted n call hknown next hold
    · exact ⟨Nat.le_add_left 1 s.rows.length, le_rfl⟩
  · intro hinside next hnext
    rw [hmoves.numbered next hinside hnext, h.numbered.nextSequence, List.length_map]
    exact ⟨Nat.le_add_left 1 s.inserted.length, le_rfl⟩

theorem appended (h : Ordered s) {n : Nat} {call : Call} {kind : JobEventKind}
    {rest : List JobEventKind} {next : Nat} {answer answer' : Option (List JobEvent)}
    {now : Timestamp} (hknown : s.calls.get n = some call)
    (hphase : call.phase = .appending (kind :: rest) next answer)
    (hfree : taken s.inserted next = false) :
    Ordered ({ s with rows := s.rows ++ [s.row n next kind now] }.goOn n call
      (.appending rest (next + 1) answer')) := by
  obtain ⟨hnext, hnone⟩ := h.append_next hknown hphase hfree
  have hrows : s.inserted = s.rows := by
    rw [JobLog.inserted, hnone, List.append_nil]
  have hinserted : (JobLog.goOn { s with rows := s.rows ++ [s.row n next kind now] } n call
      (.appending rest (next + 1) answer')).inserted
      = s.rows ++ [s.row n next kind now] ++ s.hidden := rfl
  refine h.evolve (n := n) rfl ?_ ?_ ?_ ?_ ?_ ?_ (fun _ _ => rfl) h.written
  · -- nobody has hidden rows, so that the new row is the last one
    rw [hinserted, hnone, List.append_nil, List.map_append, ← hrows]
    refine h.numbered.append ?_
    rw [List.length_map, hrows]
    exact hnext
  · change s.rows.length ≤ (s.rows ++ [_]).length
    rw [List.length_append]
    exact Nat.le_add_right _ _
  · left
    rw [hinserted, length_inserted, List.length_append, List.length_append]
    omega
  · intro other hother
    obtain rfl := Option.some.inj hother
    change 1 ≤ next + 1 ∧ next + 1 ≤ (s.rows ++ [_]).length + 1
    rw [List.length_append, List.length_singleton]
    omega
  · intro hinside
    cases hinside
  · have hself := h.holds_eq hknown
    rw [hphase] at hself
    exact hself

theorem begun (h : Ordered s) {n : Nat} {call : Call} {job : AnsibleJob}
    {path : List AnsibleJobStatus} (hunlocked : s.transaction = none) :
    Ordered (s.begin n call job path) := by
  have hinserted : (s.begin n call job path).inserted = s.inserted := by
    simp [JobLog.inserted, JobLog.hidden, JobLog.begin, JobLog.goOn, JobLog.withCall, hunlocked]
  refine h.evolve (n := n) rfl ?_ le_rfl ?_ ?_ ?_ ?_ ?_ ?_
  · rw [hinserted]
    exact h.numbered
  · rw [hinserted]
    exact .inl le_rfl
  · intro next hnext
    cases hnext
  · intro _ next hnext
    cases hnext
  · simp [JobLog.transactionOf, JobLog.begin, JobLog.goOn, JobLog.withCall, Phase.holds]
  · intro m hne
    simp [JobLog.transactionOf, JobLog.begin, JobLog.goOn, JobLog.withCall, hunlocked, Ne.symm hne]
  · intro transaction htransaction row hrow
    obtain rfl := Option.some.inj htransaction
    cases hrow

/-- A transaction of one writer is none of another. -/
theorem transactionOf_other {n m : Nat} {transaction : Transaction}
    (hown : s.transactionOf n = some transaction) (hne : m ≠ n) :
    (s.transactionOf m).isSome = false := by
  by_contra hsome
  rw [Bool.not_eq_false] at hsome
  exact hne (owner_unique hsome (Option.isSome_iff_exists.mpr ⟨transaction, hown⟩))

theorem inserted (h : Ordered s) {n : Nat} {call : Call} {transaction : Transaction}
    {kind : JobEventKind} {rest : List JobEventKind} {next : Nat} {now : Timestamp}
    (hknown : s.calls.get n = some call) (hphase : call.phase = .inserting kind rest next)
    (hown : s.transactionOf n = some transaction) (hfree : taken s.inserted next = false) :
    Ordered ({ s with transaction := some { transaction with
      rows := transaction.rows ++ [s.row n next kind now] } }.goOn n call (.numbering rest)) := by
  obtain ⟨hopen, howner⟩ := transactionOf_eq_some.mp hown
  have hinserted : (JobLog.goOn { s with transaction := some { transaction with
      rows := transaction.rows ++ [s.row n next kind now] } } n call (.numbering rest)).inserted
      = s.inserted ++ [s.row n next kind now] := by
    rw [inserted_of_transactionOf hown, List.append_assoc]
    rfl
  refine h.evolve (n := n) rfl ?_ le_rfl ?_ ?_ ?_ ?_ ?_ ?_
  · -- the transaction goes on where its own rows end
    rw [hinserted, List.map_append]
    refine h.numbered.append ?_
    rw [List.length_map]
    exact h.next_eq hknown (by rw [hphase]; rfl) hfree
  · left
    rw [hinserted, List.length_append]
    exact Nat.le_add_right _ _
  · intro other hother
    cases hother
  · intro _ other hother
    cases hother
  · simp [JobLog.transactionOf, JobLog.goOn, JobLog.withCall, Phase.holds, howner]
  · intro m hne
    rw [transactionOf_other hown hne]
    simp [JobLog.transactionOf, JobLog.goOn, JobLog.withCall, howner, Ne.symm hne]
  · intro other hother row hrow
    obtain rfl := Option.some.inj hother
    rcases List.mem_append.mp hrow with hrow | hrow
    · exact h.written transaction hopen row hrow
    · rw [List.mem_singleton.mp hrow, howner]
      rfl

/-- The transaction of a writer is over. -/
theorem ended (h : Ordered s) {s' : JobLog} {n : Nat} {call : Call} {answer : Answer}
    (hcalls : s'.calls = s.calls.put n { call with phase := .answered answer })
    (hnumbered : Numbered (s'.inserted.map (·.event))) (hrows : s.rows.length ≤ s'.rows.length)
    (hown : (s.transactionOf n).isSome = true) (hclosed : s'.transaction = none) : Ordered s' := by
  obtain ⟨transaction, hown'⟩ := Option.isSome_iff_exists.mp hown
  refine h.evolve hcalls hnumbered hrows (.inr hown) ?_ ?_ ?_ ?_ ?_
  · intro next hnext
    cases hnext
  · intro hinside
    cases hinside
  · simp [JobLog.transactionOf, hclosed, Phase.holds]
  · intro m hne
    rw [transactionOf_other hown' hne]
    simp [JobLog.transactionOf, hclosed]
  · intro other hother
    rw [hclosed] at hother
    cases hother

theorem lost (h : Ordered s) {n : Nat} {call : Call} {transaction : Option Transaction}
    (hknown : s.calls.get n = some call)
    (hrest : transaction = if call.phase.holds then none else s.transaction)
    (hown : call.phase.holds = true → (s.transactionOf n).isSome) :
    Ordered ({ s with transaction := transaction }.goOn n call (.answered .failed)) := by
  by_cases hholds : call.phase.holds = true
  · rw [if_pos hholds] at hrest
    subst hrest
    -- the rows that are left are those before the transaction
    refine h.ended rfl ?_ le_rfl (hown hholds) rfl
    have hnumbered := h.numbered
    rw [JobLog.inserted, List.map_append] at hnumbered
    change Numbered ((s.rows ++ []).map fun row : Row => row.event)
    rw [List.append_nil]
    exact numbered_of_append hnumbered
  · rw [if_neg hholds] at hrest
    subst hrest
    have hself := h.holds_eq hknown
    rw [Bool.not_eq_true] at hholds
    refine h.evolve (n := n) rfl h.numbered le_rfl (.inl le_rfl) ?_ ?_ ?_ (fun _ _ => rfl) h.written
    · intro next hnext
      cases hnext
    · intro hinside
      cases hinside
    · rw [hholds] at hself
      exact hself

/-- **Every step keeps the order.** -/
theorem step (h : Ordered s) {s' : JobLog} {who : Option Nat} (heffect : Effect s who s') :
    Ordered s' := by
  cases heffect with
  | started free attempted holds counted unfailed => exact h.started free holds counted
  | updated => exact ⟨h.numbered, h.counted, h.inserting, h.holder, h.written⟩
  | moved job known moves => exact h.moved job known moves
  | appended known phase free => exact h.appended known phase free
  | begun known phase unlocked => exact h.begun unlocked
  | inserted known phase own free => exact h.inserted known phase own free
  | @committed n call transaction answer known phase own unfailed =>
    refine h.ended rfl ?_ ?_ (by rw [own]; rfl) rfl
    · change Numbered ((s.rows ++ transaction.rows ++ []).map fun row : Row => row.event)
      rw [List.append_nil, ← inserted_of_transactionOf own]
      exact h.numbered
    · change s.rows.length ≤ (s.rows ++ transaction.rows).length
      rw [List.length_append]
      exact Nat.le_add_right _ _
  | lost next transaction known inserts taken rest own => exact h.lost known rest own

end Ordered

theorem ordered_quiet {job : AnsibleJob} {events : List JobEvent}
    (h : events.map (·.sequence) = List.range' 1 events.length) :
    Ordered (.quiet job events) where
  numbered := by
    have hevents : (JobLog.quiet job events).inserted.map (·.event) = events := by
      simp [JobLog.inserted, JobLog.hidden, JobLog.quiet, Function.comp_def]
    rw [hevents]
    exact h
  counted n call hknown := by cases hknown
  inserting n call hknown := by cases hknown
  holder n := rfl
  written transaction htransaction := by cases htransaction

/-- **The events of a job are numbered from one**, whatever its writers do. -/
theorem ordered_of_reach {ok : JobLog → LogAction → Prop} {s : JobLog}
    (h : logMachine.Reach ok s) : Ordered s := by
  refine h.invariant ?_ ?_
  · rintro s ⟨job, events, hnumbered, rfl⟩
    exact ordered_quiet hnumbered
  · intro s action s' _ hordered _ hstep
    exact hordered.step (effect_of_step hstep)

/-! ### Events -/

/-- The events that a writer has inserted, in their order. -/
def kindsOf (rows : List Row) (n : Nat) : List JobEventKind :=
  (rows.filter (·.writer = some n)).map (·.event.event)

theorem kindsOf_append (rows rows' : List Row) (n : Nat) :
    kindsOf (rows ++ rows') n = kindsOf rows n ++ kindsOf rows' n := by
  simp [kindsOf]

@[simp] theorem kindsOf_row (s : JobLog) (n m next : Nat) (kind : JobEventKind) (now : Timestamp) :
    kindsOf [s.row n next kind now] m = if m = n then [kind] else [] := by
  by_cases h : m = n
  · simp [kindsOf, JobLog.row, h]
  · simp [kindsOf, JobLog.row, h, Ne.symm h]

/-- A writer has failed since the number of an event was taken. -/
def JobLog.Failed (s : JobLog) (n : Nat) : Prop :=
  ∃ call, s.calls.get n = some call ∧ call.phase = .answered .failed

theorem failed_of_put {s s' : JobLog} {n m : Nat} {call : Call}
    (hcalls : s'.calls = s.calls.put n call) (hunfailed : call.phase ≠ .answered .failed)
    (h : s'.Failed m) : s.Failed m := by
  obtain ⟨other, hother, hfailed⟩ := h
  rw [hcalls] at hother
  rcases Table.get_put_cases hother with ⟨-, rfl⟩ | ⟨-, hold⟩
  · exact absurd hfailed hunfailed
  · exact ⟨other, hold, hfailed⟩

/-- A writer that inserts next has a number that is still the next one: since it has taken the
number, no other writer has inserted an event. -/
def Current (s : JobLog) (action : LogAction) : Prop :=
  ∀ n ∈ action.advancing, ∀ call ∈ s.calls.get n, ∀ next ∈ call.phase.inserts?,
    next = s.inserted.length + 1

instance (s : JobLog) (action : LogAction) : Decidable (Current s action) :=
  inferInstanceAs (Decidable (∀ n ∈ action.advancing, ∀ call ∈ s.calls.get n,
    ∀ next ∈ call.phase.inserts?, next = s.inserted.length + 1))

/-- What runs without a conflict keep: what a writer has attempted, it has inserted or is still to
append, and nobody has failed. -/
structure Accounted (s : JobLog) : Prop where
  balance : ∀ n, kindsOf s.inserted n ++ ((s.calls.get n).map (·.phase.remaining)).getD []
    = ((s.calls.get n).map (·.attempted)).getD []
  unfailed : ∀ n, ¬ s.Failed n

namespace Accounted

variable {s : JobLog}

/-- One writer has gone on. -/
theorem evolve (h : Accounted s) {s' : JobLog} {n : Nat} {call : Call}
    (hcalls : s'.calls = s.calls.put n call)
    (hothers : ∀ m, m ≠ n → kindsOf s'.inserted m = kindsOf s.inserted m)
    (hself : kindsOf s'.inserted n ++ call.phase.remaining = call.attempted)
    (hunfailed : call.phase ≠ .answered .failed) : Accounted s' where
  balance m := by
    rw [hcalls, Table.get_put]
    split
    case isTrue heq =>
      rw [heq]
      exact hself
    case isFalse hne =>
      rw [hothers m hne]
      exact h.balance m
  unfailed m hfailed := h.unfailed m (failed_of_put hcalls hunfailed hfailed)

/-- One writer has gone on, and there are no new rows. -/
theorem onward (h : Accounted s) {s' : JobLog} {n : Nat} {call call' : Call}
    (events : List JobEventKind) (hknown : s.calls.get n = some call)
    (hcalls : s'.calls = s.calls.put n call') (hinserted : s'.inserted = s.inserted)
    (hattempted : call'.attempted = call.attempted ++ events)
    (hremaining : call'.phase.remaining = call.phase.remaining ++ events)
    (hunfailed : call'.phase ≠ .answered .failed) : Accounted s' := by
  have hbalance := h.balance n
  simp only [hknown, Option.map_some, Option.getD_some] at hbalance
  refine h.evolve hcalls (fun m _ => by rw [hinserted]) ?_ hunfailed
  rw [hinserted, hremaining, hattempted, ← hbalance, List.append_assoc]

/-- One writer has inserted the first of its events. -/
theorem grown (h : Accounted s) {s' : JobLog} {n : Nat} {call : Call} {phase : Phase}
    (next : Nat) (kind : JobEventKind) (now : Timestamp) (hknown : s.calls.get n = some call)
    (hcalls : s'.calls = s.calls.put n { call with phase := phase })
    (hinserted : s'.inserted = s.inserted ++ [s.row n next kind now])
    (hremaining : call.phase.remaining = kind :: phase.remaining)
    (hunfailed : phase ≠ .answered .failed) : Accounted s' := by
  have hbalance := h.balance n
  simp only [hknown, Option.map_some, Option.getD_some, hremaining] at hbalance
  refine h.evolve hcalls (fun m hne => ?_) ?_ hunfailed
  · rw [hinserted, kindsOf_append, kindsOf_row, if_neg hne, List.append_nil]
  · rw [hinserted, kindsOf_append, kindsOf_row, if_pos rfl, List.append_assoc,
      List.singleton_append]
    exact hbalance

/-- **A step whose insert is current** keeps the account. -/
theorem step (h : Accounted s) (hordered : Ordered s) {s' : JobLog} {action : LogAction}
    (hcurrent : Current s action) (heffect : Effect s action.advancing s') : Accounted s' := by
  generalize hwho : action.advancing = who at heffect
  cases heffect with
  | @started n call free attempted holds counted unfailed =>
    have hbalance := h.balance n
    simp only [free, Option.map_none, Option.getD_none, List.append_nil] at hbalance
    refine h.evolve (n := n) rfl (fun _ _ => rfl) ?_ unfailed
    change kindsOf s.inserted n ++ _ = _
    rw [hbalance, List.nil_append, attempted]
  | updated => exact ⟨h.balance, h.unfailed⟩
  | moved job known moves =>
    obtain ⟨events, hattempted, hremaining⟩ := moves.attempted
    exact h.onward events known rfl rfl hattempted hremaining moves.unfailed
  | @appended n call kind rest next answer answer' now known phase free =>
    obtain ⟨-, hnone⟩ := hordered.append_next known phase free
    refine h.grown next kind now known rfl ?_ ?_ (by simp)
    · change s.rows ++ [s.row n next kind now] ++ s.hidden = s.rows ++ s.hidden ++ [_]
      rw [hnone, List.append_nil, List.append_nil]
    · rw [phase]
      rfl
  | @begun n call query job path known phase unlocked =>
    refine h.onward (path.map .statusChanged) known rfl ?_ rfl ?_ (by simp)
    · simp [JobLog.inserted, JobLog.hidden, JobLog.begin, JobLog.goOn, JobLog.withCall, unlocked]
    · rw [phase]
      rfl
  | @inserted n call transaction kind rest next now known phase own free =>
    refine h.grown next kind now known rfl ?_ ?_ (by simp)
    · rw [inserted_of_transactionOf own, List.append_assoc]
      rfl
    · rw [phase]
      rfl
  | @committed n call transaction answer known phase own unfailed =>
    refine h.onward [] known rfl ?_ (by simp) ?_ ?_
    · rw [inserted_of_transactionOf own]
      exact List.append_nil _
    · rw [phase]
      rfl
    · intro hfailed
      exact unfailed (Phase.answered.inj hfailed)
  | lost next transaction known inserts taken rest own =>
    -- a current number is behind all rows, and cannot be taken
    have hnext := hcurrent _ hwho _ known next inserts
    have hlast := ((taken_iff hordered.numbered).mp taken).2
    omega

end Accounted

theorem accounted_quiet (job : AnsibleJob) (events : List JobEvent) :
    Accounted (.quiet job events) where
  balance n := by
    simp [kindsOf, JobLog.inserted, JobLog.hidden, JobLog.quiet, Table.get_empty]
  unfailed n := by
    rintro ⟨call, hknown, -⟩
    cases hknown

theorem accounted_of_reach {s : JobLog} (h : logMachine.Reach Current s) : Accounted s := by
  refine h.invariant ?_ ?_
  · rintro s ⟨job, events, -, rfl⟩
    exact accounted_quiet job events
  · intro s action s' hreach haccounted hcurrent hstep
    exact haccounted.step (ordered_of_reach hreach) hcurrent (effect_of_step hstep)

/-! ### The integrity of the log -/

/-- The events are numbered from one, no writer has failed, and every writer that is done has
inserted all that it has attempted. -/
structure Intact (s : JobLog) : Prop where
  numbered : s.events.map (·.sequence) = List.range' 1 s.events.length
  unfailed : ∀ n, ¬ s.Failed n
  kept : ∀ n call answer, s.calls.get n = some call → call.phase = .answered answer →
    kindsOf s.rows n = call.attempted

/-- The rows of an open transaction are those of a writer that is not done. -/
theorem Ordered.kindsOf_hidden {s : JobLog} (h : Ordered s) {n : Nat}
    (hnone : (s.transactionOf n).isSome = false) : kindsOf s.hidden n = [] := by
  unfold JobLog.hidden
  cases hopen : s.transaction with
  | none => rfl
  | some transaction =>
    have hother : transaction.owner ≠ n := by
      intro howner
      rw [transactionOf_eq_some.mpr ⟨hopen, howner⟩] at hnone
      cases hnone
    rw [kindsOf, List.map_eq_nil_iff, List.filter_eq_nil_iff]
    intro row hrow
    rw [decide_eq_true_eq, h.written transaction hopen row hrow, Option.some.injEq]
    exact hother

theorem Accounted.intact {s : JobLog} (h : Accounted s) (hordered : Ordered s) : Intact s where
  numbered := by
    have hnumbered := hordered.numbered
    rw [JobLog.inserted, List.map_append] at hnumbered
    exact numbered_of_append hnumbered
  unfailed := h.unfailed
  kept n call answer hknown hphase := by
    -- a writer that is done has no transaction, and all of its rows are committed
    have houtside : (s.transactionOf n).isSome = false := by
      rw [← hordered.holds_eq hknown, hphase]
      rfl
    have hbalance := h.balance n
    simp only [hknown, hphase, Option.map_some, Option.getD_some] at hbalance
    rw [JobLog.inserted, kindsOf_append, hordered.kindsOf_hidden houtside,
      List.append_nil] at hbalance
    exact (List.append_nil _).symm.trans hbalance

/-- A step inserts under the next number, if it inserts at all, and makes nobody fail; or its
number is taken and the writer fails. -/
theorem Ordered.outcome {s s' : JobLog} (h : Ordered s) {who : Option Nat}
    (heffect : Effect s who s') :
    ((∀ m, s'.Failed m → s.Failed m) ∧ ∀ n ∈ who, ∀ call ∈ s.calls.get n,
      ∀ next ∈ call.phase.inserts?, next = s.inserted.length + 1) ∨
    ∃ n call next, who = some n ∧ s.calls.get n = some call ∧ next ∈ call.phase.inserts? ∧
      next ≤ s.inserted.length ∧ s'.Failed n := by
  have hquiet : ∀ {n : Nat} {call : Call}, s.calls.get n = some call →
      (∀ next ∈ call.phase.inserts?, next = s.inserted.length + 1) →
      ∀ m ∈ some n, ∀ other ∈ s.calls.get m, ∀ next ∈ other.phase.inserts?,
        next = s.inserted.length + 1 := by
    intro n call hknown hnext m hm other hother
    obtain rfl := Option.some.inj hm
    obtain rfl := Option.some.inj (hknown.symm.trans hother)
    exact hnext
  cases heffect with
  | started free attempted holds counted unfailed =>
    exact .inl ⟨fun m => failed_of_put rfl unfailed, by simp⟩
  | updated => exact .inl ⟨fun m hfailed => hfailed, by simp⟩
  | moved job known moves =>
    exact .inl ⟨fun m => failed_of_put rfl moves.unfailed, hquiet known (by simp [moves.quiet])⟩
  | appended known phase free =>
    refine .inl ⟨fun m => failed_of_put rfl (by simp), hquiet known fun next hnext => ?_⟩
    rw [phase] at hnext
    obtain rfl := Option.some.inj hnext
    exact h.next_eq known (by rw [phase]; rfl) free
  | begun known phase unlocked =>
    refine .inl ⟨fun m => failed_of_put rfl (by simp), hquiet known ?_⟩
    simp [phase, Phase.inserts?]
  | inserted known phase own free =>
    refine .inl ⟨fun m => failed_of_put rfl (by simp), hquiet known fun next hnext => ?_⟩
    rw [phase] at hnext
    obtain rfl := Option.some.inj hnext
    exact h.next_eq known (by rw [phase]; rfl) free
  | committed known phase own unfailed =>
    refine .inl ⟨fun m => failed_of_put rfl fun hfailed => unfailed (Phase.answered.inj hfailed),
      hquiet known ?_⟩
    simp [phase, Phase.inserts?]
  | lost next transaction known inserts taken rest own =>
    have hlast := ((taken_iff h.numbered).mp taken).2
    exact .inr ⟨_, _, next, rfl, known, inserts, hlast, _, Table.get_put_self _ _ _, rfl⟩

/-- **The log stays intact as long as every insert is current**, and in every run an insert that is
not current makes its writer fail. -/
theorem intact_iff_current (s : JobLog) :
    (logMachine.Reach Current s → Intact s) ∧
    (logMachine.Reach Machine.Any s → ∀ action s', logMachine.step s action = some s' →
      (Current s action ↔ ∀ n, s'.Failed n → s.Failed n)) := by
  constructor
  · intro hreach
    exact (accounted_of_reach hreach).intact (ordered_of_reach hreach)
  · intro hreach action s' hstep
    have houtcome := (ordered_of_reach hreach).outcome (effect_of_step hstep)
    rcases houtcome with ⟨hunfailed, hcurrent⟩ | hlost
    · exact ⟨fun _ => hunfailed, fun _ => hcurrent⟩
    · obtain ⟨n, call, next, hwho, hknown, hinserts, htaken, hfailed⟩ := hlost
      constructor
      · intro hcurrent
        have hnext := hcurrent n hwho call hknown next hinserts
        omega
      · -- a writer that had failed before would not insert
        intro hunfailed
        obtain ⟨before, hbefore, hphase⟩ := hunfailed n hfailed
        obtain rfl := Option.some.inj (hknown.symm.trans hbefore)
        rw [hphase] at hinserts
        cases hinserts

/-- A health check of a Windows target. -/
def sampleCheck (status : AnsibleJobStatus) : AnsibleJob where
  id := ⟨⟨1⟩⟩
  operation := .healthCheck
  playbook := "target/health-check.yml"
  playbookVersion := "1"
  target := .target ⟨⟨7⟩⟩
  mode := .check
  parameters := .healthCheck
  secretRefs := []
  idempotencyKey := "check"
  status := status
  createdAt := 0
  updatedAt := 0

/-- Its events up to the given number, when it has been claimed. -/
def sampleEvents (count : Nat) : List JobEvent :=
  [⟨1, ⟨⟨1⟩⟩, .queued, 0⟩, ⟨2, ⟨⟨1⟩⟩, .statusChanged .checking, 0⟩].take count

/-- The statements of a writer that nothing holds up. -/
def advances (n count : Nat) : List LogAction := List.replicate count (.advance n .clear 5)

/-- A job is claimed and its result is a failure; somebody looks at the events, the job is queued
again, and a worker writes to its log. -/
def oneByOne : List LogAction :=
  [.transaction 0 .agent] ++ advances 0 4 ++
  [.report 1 (sampleCheck .checking) .failed "failed" 5] ++ advances 1 6 ++
  [.view 2] ++ advances 2 2 ++ [.transaction 3 .retry] ++ advances 3 4 ++
  [.event 4 (.taskStarted "check")] ++ advances 4 3

/-- A worker that starts anew fails the job and counts its events; before it inserts its own,
somebody looks at them. -/
def bothCounted : List LogAction :=
  [.update (sampleCheck .failed), .event 0 (.failed .workerRestarted), .view 1] ++ advances 0 1 ++
  advances 1 4

theorem oneByOne_intact :
    (∃ s, logMachine.Reach Current s ∧ s.rows.length = 7 ∧ Intact s) ∧
    ∃ s s', logMachine.Reach Machine.Any s ∧ logMachine.step s (.advance 0 .clear 5) = some s' ∧
      ¬ ∀ n, s'.Failed n → s.Failed n := by
  constructor
  · have hrun : ∃ s ∈ logMachine.exec Current (.quiet (sampleCheck .queued) (sampleEvents 1))
        oneByOne, s.rows.length = 7 := by
      decide +kernel
    obtain ⟨s, hexec, hlength⟩ := hrun
    have hreach : logMachine.Reach Current s := .exec (.init ⟨_, _, rfl, rfl⟩) _ hexec
    exact ⟨s, hreach, hlength, (intact_iff_current s).1 hreach⟩
  · have hrun : ∃ s ∈ logMachine.exec Machine.Any (.quiet (sampleCheck .checking) (sampleEvents 2))
        bothCounted, ¬ Current s (.advance 0 .clear 5) ∧
          (logMachine.step s (.advance 0 .clear 5)).isSome = true := by
      decide +kernel
    obtain ⟨s, hexec, hstale, hgoes⟩ := hrun
    have hreach : logMachine.Reach Machine.Any s := .exec (.init ⟨_, _, rfl, rfl⟩) _ hexec
    obtain ⟨s', hstep⟩ := Option.isSome_iff_exists.mp hgoes
    exact ⟨s, s', hreach, hstep, fun hunfailed =>
      hstale (((intact_iff_current s).2 hreach _ s' hstep).mpr hunfailed)⟩

/-- **`GET` on the events makes the worker fail**, and its event is lost. -/
theorem backfill_fails_worker : ¬ ∀ s, logMachine.Reach Machine.Any s → Intact s := by
  intro hall
  have hrun : ∃ s ∈ logMachine.exec Machine.Any
      (.quiet (sampleCheck .checking) (sampleEvents 2)) (bothCounted ++ advances 0 1),
      (s.calls.get 0).map (·.phase) = some (.answered .failed) := by
    decide +kernel
  obtain ⟨s, hexec, hfailed⟩ := hrun
  obtain ⟨call, hknown, hphase⟩ := Option.map_eq_some_iff.mp hfailed
  exact (hall s (.exec (.init ⟨_, _, rfl, rfl⟩) _ hexec)).unfailed 0 ⟨call, hknown, hphase⟩

end Lxcup.Events
