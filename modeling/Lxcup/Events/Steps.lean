import Lxcup.Events.Writers

/-!
# What the steps of a log do

Every step of a writer is one of a few effects on the rows, on the open transaction and on the
writer.  Everything that is proved about runs of the log goes through them.

## Main definitions

* `Moves` — a writer goes on without an insert.
* `Effect` — everything a step does.

## Main results

* `effect_of_step` — every step has one of the effects.
-/

namespace Lxcup.Events

open Lxcup.Lib Lxcup.Core Lxcup.Ansible Lxcup.Agent Lxcup.Persistence Lxcup.Server
open Lxcup.Reports (nextSequence)

/-! ### Phases -/

namespace Phase

/-- The events that are still to be appended. -/
def remaining : Phase → List JobEventKind
  | .counting _ events => events
  | .updating _ events _ => events
  | .appending events _ _ => events
  | .numbering events => events
  | .inserting kind rest _ => kind :: rest
  | _ => []

/-- The writer is inside of its transaction. -/
def holds : Phase → Bool
  | .numbering _ => true
  | .inserting .. => true
  | _ => false

/-- The number that a writer without a transaction goes by. -/
def counted? : Phase → Option Nat
  | .updating _ _ next => some next
  | .viewed events => some (events.length + 1)
  | .appending _ next _ => some next
  | _ => none

/-- The number under which the next step inserts. -/
def inserts? : Phase → Option Nat
  | .appending (_ :: _) next _ => some next
  | .inserting _ _ next => some next
  | _ => none

end Phase

/-! ### What a step does -/

/-- The writer whose statement is next. -/
def LogAction.advancing : LogAction → Option Nat
  | .advance n _ _ => some n
  | _ => none

/-- A writer goes on without an insert: what it attempts anew it still has to append, and a number
that it takes is the next one that it sees. -/
structure Moves (s : JobLog) (call call' : Call) : Prop where
  quiet : call.phase.inserts? = none
  attempted : ∃ events, call'.attempted = call.attempted ++ events ∧
    call'.phase.remaining = call.phase.remaining ++ events
  unfailed : call'.phase ≠ .answered .failed
  holds : call'.phase.holds = call.phase.holds
  counted : ∀ next ∈ call'.phase.counted?, next ∈ call.phase.counted? ∨ next = s.rows.length + 1
  numbered : ∀ next, call'.phase.holds = true → next ∈ call'.phase.inserts? →
    next = nextSequence (s.inserted.map (·.event))

/-- Everything a step does, with the writer whose statement it is. -/
inductive Effect (s : JobLog) : Option Nat → JobLog → Prop
  | started {n : Nat} {call : Call} (free : s.calls.get n = none)
      (attempted : call.attempted = call.phase.remaining) (holds : call.phase.holds = false)
      (counted : call.phase.counted? = none) (unfailed : call.phase ≠ .answered .failed) :
      Effect s none (s.withCall n call)
  | updated {job : AnsibleJob} : Effect s none { s with job := job }
  | moved {n : Nat} {call call' : Call} (job : AnsibleJob) (known : s.calls.get n = some call)
      (moves : Moves s call call') : Effect s (some n) ({ s with job := job }.withCall n call')
  /-- An event is inserted outside of a transaction. -/
  | appended {n : Nat} {call : Call} {kind : JobEventKind} {rest : List JobEventKind} {next : Nat}
      {answer answer' : Option (List JobEvent)} {now : Timestamp}
      (known : s.calls.get n = some call)
      (phase : call.phase = .appending (kind :: rest) next answer)
      (free : taken s.inserted next = false) :
      Effect s (some n) ({ s with rows := s.rows ++ [s.row n next kind now] }.goOn n call
        (.appending rest (next + 1) answer'))
  | begun {n : Nat} {call : Call} {query : Query} {job : AnsibleJob}
      {path : List AnsibleJobStatus} (known : s.calls.get n = some call)
      (phase : call.phase = .selecting query) (unlocked : s.transaction = none) :
      Effect s (some n) (s.begin n call job path)
  /-- An event is inserted by a transaction. -/
  | inserted {n : Nat} {call : Call} {transaction : Transaction} {kind : JobEventKind}
      {rest : List JobEventKind} {next : Nat} {now : Timestamp}
      (known : s.calls.get n = some call) (phase : call.phase = .inserting kind rest next)
      (own : s.transactionOf n = some transaction) (free : taken s.inserted next = false) :
      Effect s (some n) ({ s with transaction := some { transaction with
        rows := transaction.rows ++ [s.row n next kind now] } }.goOn n call (.numbering rest))
  | committed {n : Nat} {call : Call} {transaction : Transaction} {answer : Answer}
      (known : s.calls.get n = some call) (phase : call.phase = .numbering [])
      (own : s.transactionOf n = some transaction) (unfailed : answer ≠ .failed) :
      Effect s (some n) ((s.commit transaction).goOn n call (.answered answer))
  /-- The number is taken; a transaction is rolled back. -/
  | lost {n : Nat} {call : Call} (next : Nat) (transaction : Option Transaction)
      (known : s.calls.get n = some call) (inserts : next ∈ call.phase.inserts?)
      (taken : taken s.inserted next = true)
      (rest : transaction = if call.phase.holds then none else s.transaction)
      (own : call.phase.holds = true → (s.transactionOf n).isSome) :
      Effect s (some n) ({ s with transaction := transaction }.goOn n call (.answered .failed))

theorem transactionOf_eq_some {s : JobLog} {n : Nat} {transaction : Transaction} :
    s.transactionOf n = some transaction ↔
      s.transaction = some transaction ∧ transaction.owner = n := by
  simp [JobLog.transactionOf, Option.filter_eq_some_iff]

/-- In its transaction, a writer sees all rows. -/
theorem inserted_of_transactionOf {s : JobLog} {n : Nat} {transaction : Transaction}
    (h : s.transactionOf n = some transaction) : s.inserted = s.rows ++ transaction.rows := by
  simp [JobLog.inserted, JobLog.hidden, (transactionOf_eq_some.mp h).1]

theorem taken_append (rows rows' : List Row) (number : Nat) :
    taken (rows ++ rows') number = (taken rows number || taken rows' number) := by
  simp [taken]

theorem effect_of_start {s s' : JobLog} {n : Nat} {call : Call} (h : s.start n call = some s')
    (hattempted : call.attempted = call.phase.remaining) (hholds : call.phase.holds = false)
    (hcounted : call.phase.counted? = none) (hunfailed : call.phase ≠ .answered .failed) :
    Effect s none s' := by
  unfold JobLog.start at h
  split at h
  case isTrue => cases h
  case isFalse hfree =>
    obtain rfl := Option.some.inj h
    rw [Bool.not_eq_true, Option.isSome_eq_false_iff, Option.isNone_iff_eq_none] at hfree
    exact .started hfree hattempted hholds hcounted hunfailed

/-- Outside of a transaction, a writer goes on with the events that it has had. -/
theorem moves_onward {s : JobLog} {call : Call} {phase : Phase}
    (hquiet : call.phase.inserts? = none) (hremaining : phase.remaining = call.phase.remaining)
    (hunfailed : phase ≠ .answered .failed) (houtside : call.phase.holds = false)
    (hholds : phase.holds = false)
    (hcounted : ∀ next ∈ phase.counted?, next ∈ call.phase.counted? ∨ next = s.rows.length + 1) :
    Moves s call { call with phase := phase } where
  quiet := hquiet
  attempted := ⟨[], by simp, by simp [hremaining]⟩
  unfailed := hunfailed
  holds := hholds.trans houtside.symm
  counted := hcounted
  numbered next h := absurd (hholds.symm.trans h) (by simp)

/-- A writer that has nothing left to append is answered. -/
theorem effect_of_answer {s : JobLog} {n : Nat} {call : Call} {answer : Answer}
    (hknown : s.calls.get n = some call) (hquiet : call.phase.inserts? = none)
    (hremaining : call.phase.remaining = []) (houtside : call.phase.holds = false)
    (hanswer : answer ≠ .failed) : Effect s (some n) (s.goOn n call (.answered answer)) := by
  refine .moved s.job hknown (moves_onward hquiet hremaining.symm ?_ houtside rfl ?_)
  · intro h
    exact hanswer (Phase.answered.inj h)
  · intro next h
    cases h

theorem effect_of_count {s : JobLog} {n : Nat} {call : Call} {copy : Option AnsibleJob}
    {events : List JobEventKind} (hknown : s.calls.get n = some call)
    (hphase : call.phase = .counting copy events) :
    Effect s (some n) (s.count n call copy events) := by
  have hcounted : s.events.length + 1 = s.rows.length + 1 := by
    simp [JobLog.events]
  have hmoves : ∀ phase : Phase, phase.remaining = events → phase ≠ .answered .failed →
      phase.holds = false → phase.counted? = some (s.events.length + 1) →
      Moves s call { call with phase := phase } := by
    intro phase hremaining hunfailed hholds hnext
    refine moves_onward ?_ ?_ hunfailed ?_ hholds fun next h => .inr ?_
    · rw [hphase]
      rfl
    · rw [hphase, hremaining]
      rfl
    · rw [hphase]
      rfl
    · rw [← hcounted, ← Option.some.inj (hnext.symm.trans h)]
  unfold JobLog.count
  cases copy with
  | none => exact .moved s.job hknown (hmoves _ rfl (by simp) rfl rfl)
  | some copy => exact .moved s.job hknown (hmoves _ rfl (by simp) rfl rfl)

theorem effect_of_backfill {s : JobLog} {n : Nat} {call : Call} {events : List JobEvent}
    (hknown : s.calls.get n = some call) (hphase : call.phase = .viewed events) :
    Effect s (some n) (s.backfill n call events) := by
  unfold JobLog.backfill
  split
  case isTrue =>
    refine .moved s.job hknown ?_
    constructor
    case quiet => rw [hphase]; rfl
    case attempted =>
      refine ⟨[.failed .workerUnavailable], rfl, ?_⟩
      rw [hphase]
      rfl
    case unfailed => simp
    case holds => rw [hphase]; rfl
    case counted =>
      -- the number of the events that were read
      intro next hnext
      rw [hphase]
      exact .inl hnext
    case numbered =>
      intro next hholds
      cases hholds
  case isFalse =>
    exact effect_of_answer hknown (by rw [hphase]; rfl) (by rw [hphase]; rfl)
      (by rw [hphase]; rfl) (by simp)

theorem effect_of_append {s s' : JobLog} {n : Nat} {call : Call} {kind : JobEventKind}
    {rest : List JobEventKind} {next : Nat} {answer : Option (List JobEvent)} {now : Timestamp}
    (hknown : s.calls.get n = some call)
    (hphase : call.phase = .appending (kind :: rest) next answer)
    (h : s.append n call kind rest next answer now = some s') : Effect s (some n) s' := by
  unfold JobLog.append at h
  split at h
  case isTrue => cases h
  case isFalse hhidden =>
    rw [Bool.not_eq_true] at hhidden
    split at h
    case isTrue htaken =>
      obtain rfl := Option.some.inj h
      refine .lost next s.transaction hknown ?_ ?_ ?_ ?_
      · rw [hphase]
        rfl
      · rw [JobLog.inserted, taken_append, htaken, Bool.true_or]
      · rw [hphase]
        rfl
      · rw [hphase]
        simp [Phase.holds]
    case isFalse hfree =>
      rw [Bool.not_eq_true] at hfree
      obtain rfl := Option.some.inj h
      refine .appended hknown hphase ?_
      rw [JobLog.inserted, taken_append, hfree, hhidden, Bool.or_false]

theorem effect_of_select {s s' : JobLog} {n : Nat} {call : Call} {query : Query} {others : Others}
    {now : Timestamp} (hknown : s.calls.get n = some call) (hphase : call.phase = .selecting query)
    (h : s.select n call query others now = some s') : Effect s (some n) s' := by
  have hanswered : ∀ answer, answer ≠ .failed →
      Effect s (some n) (s.goOn n call (.answered answer)) :=
    fun _ => effect_of_answer hknown (by rw [hphase]; rfl) (by rw [hphase]; rfl)
      (by rw [hphase]; rfl)
  unfold JobLog.select at h
  split at h
  case h_1 =>
    split at h
    case isTrue => cases h
    case isFalse hunlocked =>
      rw [Bool.not_eq_true, Option.isSome_eq_false_iff, Option.isNone_iff_eq_none] at hunlocked
      split at h
      · obtain rfl := Option.some.inj h
        exact hanswered _ (by simp)
      · obtain rfl := Option.some.inj h
        exact .begun hknown hphase hunlocked
  case h_2 =>
    split at h
    case isTrue =>
      obtain rfl := Option.some.inj h
      exact hanswered _ (by simp)
    case isFalse hfound =>
      simp only [Bool.or_eq_true, not_or, Bool.not_eq_true, Option.isSome_eq_false_iff,
        Option.isNone_iff_eq_none] at hfound
      split at h
      · obtain rfl := Option.some.inj h
        exact hanswered _ (by simp)
      · split at h
        · obtain rfl := Option.some.inj h
          refine hanswered _ ?_
          split <;> simp
        · obtain rfl := Option.some.inj h
          exact .begun hknown hphase hfound.1.1

theorem effect_of_number {s : JobLog} {n : Nat} {call : Call} {transaction : Transaction}
    {events : List JobEventKind} (hknown : s.calls.get n = some call)
    (hphase : call.phase = .numbering events) (hown : s.transactionOf n = some transaction) :
    Effect s (some n) (s.number n call transaction events) := by
  cases events with
  | nil => exact .committed hknown hphase hown (by simp)
  | cons kind rest =>
    refine .moved s.job hknown ?_
    constructor
    case quiet => rw [hphase]; rfl
    case attempted =>
      refine ⟨[], by simp, ?_⟩
      rw [hphase, List.append_nil]
      rfl
    case unfailed => simp
    case holds => rw [hphase]; rfl
    case counted =>
      intro next hnext
      cases hnext
    case numbered =>
      intro next _ hnext
      rw [← Option.some.inj hnext, inserted_of_transactionOf hown]

theorem effect_of_insert {s : JobLog} {n : Nat} {call : Call} {transaction : Transaction}
    {kind : JobEventKind} {rest : List JobEventKind} {next : Nat} {now : Timestamp}
    (hknown : s.calls.get n = some call) (hphase : call.phase = .inserting kind rest next)
    (hown : s.transactionOf n = some transaction) :
    Effect s (some n) (s.insert n call transaction kind rest next now) := by
  unfold JobLog.insert
  rw [← inserted_of_transactionOf hown]
  split
  case isTrue htaken =>
    refine .lost next none hknown ?_ htaken ?_ fun _ => ?_
    · rw [hphase]
      rfl
    · rw [hphase]
      rfl
    · rw [hown]
      rfl
  case isFalse hfree =>
    rw [Bool.not_eq_true] at hfree
    exact .inserted hknown hphase hown hfree

theorem effect_of_advance {s s' : JobLog} {n : Nat} {others : Others} {now : Timestamp}
    (h : s.advance n others now = some s') : Effect s (some n) s' := by
  unfold JobLog.advance at h
  obtain ⟨call, hknown, h⟩ := Option.bind_eq_some_iff.mp h
  split at h
  case h_1 copy events hphase =>
    obtain rfl := Option.some.inj h
    exact effect_of_count hknown hphase
  case h_2 copy events next hphase =>
    split at h
    case isTrue => cases h
    case isFalse =>
      obtain rfl := Option.some.inj h
      refine .moved copy hknown (moves_onward (by rw [hphase]; rfl) (by rw [hphase]; rfl) (by simp)
        (by rw [hphase]; rfl) rfl fun other hother => .inl ?_)
      rw [hphase]
      exact hother
  case h_3 hphase =>
    obtain rfl := Option.some.inj h
    refine .moved s.job hknown (moves_onward (by rw [hphase]; rfl) (by rw [hphase]; rfl)
      (by simp) (by rw [hphase]; rfl) rfl fun next hnext => .inr ?_)
    rw [← Option.some.inj hnext]
    simp [JobLog.events]
  case h_4 events hphase =>
    obtain rfl := Option.some.inj h
    exact effect_of_backfill hknown hphase
  case h_5 hphase => exact effect_of_append hknown hphase h
  case h_6 hphase =>
    obtain rfl := Option.some.inj h
    exact effect_of_answer hknown (by rw [hphase]; rfl) (by rw [hphase]; rfl)
      (by rw [hphase]; rfl) (by simp)
  case h_7 hphase =>
    obtain rfl := Option.some.inj h
    exact effect_of_answer hknown (by rw [hphase]; rfl) (by rw [hphase]; rfl)
      (by rw [hphase]; rfl) (by simp)
  case h_8 query hphase => exact effect_of_select hknown hphase h
  case h_9 events hphase =>
    obtain ⟨transaction, hown, h⟩ := Option.bind_eq_some_iff.mp h
    obtain rfl := Option.some.inj h
    exact effect_of_number hknown hphase hown
  case h_10 hphase =>
    obtain ⟨transaction, hown, h⟩ := Option.bind_eq_some_iff.mp h
    obtain rfl := Option.some.inj h
    exact effect_of_insert hknown hphase hown
  case h_11 => cases h

/-- **Everything a step of a log does.** -/
theorem effect_of_step {s s' : JobLog} {action : LogAction} (h : s.step action = some s') :
    Effect s action.advancing s' := by
  cases action with
  | event n kind => exact effect_of_start h rfl rfl rfl (by simp)
  | view n => exact effect_of_start h rfl rfl rfl (by simp)
  | report n copy status message now =>
    simp only [JobLog.step] at h
    split at h
    · cases h
    · split at h
      · exact effect_of_start h rfl rfl rfl (by simp)
      · exact effect_of_start h rfl rfl rfl (by simp)
  | transaction n query => exact effect_of_start h rfl rfl rfl (by simp)
  | advance n others now => exact effect_of_advance h
  | update job =>
    simp only [JobLog.step] at h
    split at h
    · cases h
    · obtain rfl := Option.some.inj h
      exact .updated

end Lxcup.Events
