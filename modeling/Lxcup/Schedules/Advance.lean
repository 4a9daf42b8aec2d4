import Lxcup.Core.Schedule
import Mathlib.Order.Bounds.Basic
import Mathlib.Tactic.Linarith

/-!
# The loop over missed slots

`advance_after_run` adds the interval once, and then as long as the slot is not later than the time
of the run.  Points in time have a last one, and an addition that goes past it panics.  With the
loop as it stands in the source, step by step, there are three outcomes of a number of turns; the
loop never runs on, and where the next slot can be represented it does not panic either.

## Main definitions

* `LoopOutcome`, `advanceLoop`, `advanceSlot` — the loop, for a number of turns.
* `FirstAfter` — the first slot of a grid after a time.

## Main results

* `exists_firstAfter` — there is one.
* `advanceSlot_finished` — enough turns find it, if it can be represented.
* `nextRunAt_advanceAfterRun` — the schedule has it afterwards.
-/

namespace Lxcup.Schedules

open Lxcup.Core

/-- The last point in time, `DateTime::<Utc>::MAX_UTC`, in the year 262142. -/
def maxUtc : Timestamp := 8210266876799999999999

/-- What has become of the loop. -/
inductive LoopOutcome
  | finished (next : Timestamp)
  /-- An addition has panicked. -/
  | overflowed
  /-- There are more turns to take. -/
  | running
  deriving DecidableEq, Repr, Inhabited

/-- `DateTime + Duration`. -/
def checkedAdd (time interval : Int) : Option Timestamp :=
  if time + interval ≤ maxUtc then some (time + interval) else none

/-- `while next <= now { next += interval; }`, for a number of turns. -/
def advanceLoop (interval now : Int) : Nat → Timestamp → LoopOutcome
  | 0, _ => .running
  | turns + 1, next =>
    if next ≤ now then
      match checkedAdd next interval with
      | none => .overflowed
      | some next => advanceLoop interval now turns next
    else .finished next

/-- The slots that `advance_after_run` goes through. -/
def advanceSlot (schedule : JobSchedule) (now : Timestamp) (turns : Nat) : LoopOutcome :=
  match checkedAdd schedule.nextRunAt schedule.frequency.interval with
  | none => .overflowed
  | some next => advanceLoop schedule.frequency.interval now turns next

/-- The slot is `k` intervals later, for the least positive `k` that gets it past the time. -/
def FirstAfter (interval slot now : Int) (k : Nat) : Prop :=
  IsLeast {k : Nat | 1 ≤ k ∧ now < slot + k * interval} k

variable {interval slot now next : Int} {k turns : Nat}

/-! ### The first slot after a time -/

theorem firstAfter_iff : FirstAfter interval slot now k ↔
    1 ≤ k ∧ now < slot + k * interval ∧ ∀ i : Nat, 1 ≤ i → i < k → slot + i * interval ≤ now := by
  constructor
  · rintro ⟨⟨hone, hlater⟩, hleast⟩
    refine ⟨hone, hlater, fun i hi hlt => ?_⟩
    by_contra hpast
    exact absurd (hleast ⟨hi, not_le.mp hpast⟩) (not_le.mpr hlt)
  · rintro ⟨hone, hlater, hbefore⟩
    refine ⟨⟨hone, hlater⟩, fun i hi => ?_⟩
    by_contra hlt
    exact absurd (hbefore i hi.1 (not_le.mp hlt)) (not_le.mpr hi.2)

/-- **There is a first slot after any time.** -/
theorem exists_firstAfter (hpos : 0 < interval) (slot now : Int) :
    ∃ k, FirstAfter interval slot now k := by
  have hsome : ∃ k : Nat, 1 ≤ k ∧ now < slot + k * interval := by
    refine ⟨(now - slot).toNat + 1, Nat.le_add_left _ _, ?_⟩
    have hfar : now - slot ≤ ((now - slot).toNat : Int) := Int.self_le_toNat _
    have hsteps : (((now - slot).toNat : Int) + 1) * 1
        ≤ (((now - slot).toNat : Int) + 1) * interval :=
      Int.mul_le_mul_of_nonneg_left (by omega) (by omega)
    push_cast
    omega
  exact ⟨Nat.find hsome, Nat.find_spec hsome, fun _ hi => Nat.find_min' hsome hi⟩

theorem FirstAfter.unique {k' : Nat} (h : FirstAfter interval slot now k)
    (h' : FirstAfter interval slot now k') : k = k' :=
  IsLeast.unique h h'

/-- One slot further on, for a slot that is not past the time. -/
theorem FirstAfter.step (h : FirstAfter interval slot now (k + 1)) (hle : slot + interval ≤ now) :
    ∃ j, k = j + 1 ∧ FirstAfter interval (slot + interval) now k := by
  obtain ⟨-, hlater, hbefore⟩ := firstAfter_iff.mp h
  cases k with
  | zero =>
    simp only [Nat.zero_add, Nat.cast_one, one_mul] at hlater
    omega
  | succ j =>
    refine ⟨j, rfl, firstAfter_iff.mpr ⟨Nat.le_add_left _ _, ?_, fun i hi hlt => ?_⟩⟩
    · push_cast at hlater ⊢
      linarith
    · have hprevious := hbefore (i + 1) (Nat.le_add_left _ _) (Nat.succ_lt_succ hlt)
      push_cast at hprevious ⊢
      linarith

theorem FirstAfter.eq_one (h : FirstAfter interval slot now k) (hgt : ¬slot + interval ≤ now) :
    k = 1 := by
  obtain ⟨hone, -, hbefore⟩ := firstAfter_iff.mp h
  by_contra hne
  have hfirst := hbefore 1 le_rfl (by omega)
  rw [Nat.cast_one, one_mul] at hfirst
  exact hgt hfirst

/-! ### The loop -/

/-- **Enough turns find the first slot**, if it can be represented. -/
theorem advanceLoop_finished (hpos : 0 < interval) (h : FirstAfter interval slot now k)
    (hbound : slot + k * interval ≤ maxUtc) (hturns : k ≤ turns) :
    advanceLoop interval now turns (slot + interval) = .finished (slot + k * interval) := by
  induction turns generalizing slot k with
  | zero =>
    have hone := (firstAfter_iff.mp h).1
    omega
  | succ turns ih =>
    cases k with
    | zero => exact absurd (firstAfter_iff.mp h).1 (by decide)
    | succ k =>
      unfold advanceLoop
      by_cases hle : slot + interval ≤ now
      · obtain ⟨j, rfl, hrest⟩ := h.step hle
        have hmoved : slot + ((j + 1 + 1 : Nat) : Int) * interval
            = slot + interval + ((j + 1 : Nat) : Int) * interval := by
          push_cast
          ring
        rw [hmoved] at hbound ⊢
        -- the next slot is not past the one that the loop ends with
        have hnext : slot + interval + interval ≤ maxUtc := by
          have hsteps : (1 : Int) * interval ≤ ((j + 1 : Nat) : Int) * interval :=
            Int.mul_le_mul_of_nonneg_right (by omega) hpos.le
          linarith
        rw [if_pos hle, checkedAdd, if_pos hnext]
        exact ih hrest hbound (Nat.le_of_succ_le_succ hturns)
      · rw [if_neg hle, h.eq_one hle]
        simp

/-- The loop of the model, which has enough turns, finds the same slot. -/
theorem nextSlot_eq (h : FirstAfter interval slot now k)
    (hturns : k ≤ turns + 1) : nextSlot interval now turns (slot + interval)
      = slot + k * interval := by
  induction turns generalizing slot k with
  | zero =>
    have hone := (firstAfter_iff.mp h).1
    have hk : k = 1 := by omega
    rw [hk, nextSlot, Nat.cast_one, one_mul]
  | succ turns ih =>
    unfold nextSlot
    by_cases hle : slot + interval ≤ now
    · obtain ⟨k, rfl⟩ : ∃ j, k = j + 1 := Nat.exists_eq_succ_of_ne_zero
        (Nat.pos_iff_ne_zero.mp (firstAfter_iff.mp h).1)
      obtain ⟨j, rfl, hrest⟩ := h.step hle
      rw [if_pos hle, ih hrest (Nat.le_of_succ_le_succ hturns)]
      push_cast
      ring
    · rw [if_neg hle, h.eq_one hle]
      simp

/-- There are not more slots to go through than nanoseconds. -/
theorem FirstAfter.le_toNat (hpos : 0 < interval) (h : FirstAfter interval slot now k) :
    k ≤ (now - slot).toNat + 1 := by
  obtain ⟨hone, -, hbefore⟩ := firstAfter_iff.mp h
  by_contra hmany
  have hprevious := hbefore (k - 1) (by omega) (by omega)
  have hsteps : ((k - 1 : Nat) : Int) * 1 ≤ ((k - 1 : Nat) : Int) * interval :=
    Int.mul_le_mul_of_nonneg_left (by omega) (by omega)
  omega

/-! ### Schedules -/

variable {schedule : JobSchedule} {error : Option String}

/-- **The schedule has the first slot of its grid after the run.** -/
theorem nextRunAt_advanceAfterRun
    (h : FirstAfter schedule.frequency.interval schedule.nextRunAt now k) :
    (schedule.advanceAfterRun now error).nextRunAt
      = schedule.nextRunAt + k * schedule.frequency.interval :=
  nextSlot_eq h (h.le_toNat schedule.frequency.interval_pos)

theorem advanceSlot_finished
    (h : FirstAfter schedule.frequency.interval schedule.nextRunAt now k)
    (hbound : schedule.nextRunAt + k * schedule.frequency.interval ≤ maxUtc) (hturns : k ≤ turns) :
    advanceSlot schedule now turns
      = .finished (schedule.nextRunAt + k * schedule.frequency.interval) := by
  have hpos := schedule.frequency.interval_pos
  have hfirst : schedule.nextRunAt + schedule.frequency.interval ≤ maxUtc := by
    have hone := (firstAfter_iff.mp h).1
    have hsteps : (1 : Int) * schedule.frequency.interval ≤ k * schedule.frequency.interval :=
      Int.mul_le_mul_of_nonneg_right (by omega) hpos.le
    linarith
  unfold advanceSlot checkedAdd
  rw [if_pos hfirst]
  exact advanceLoop_finished hpos h hbound hturns

end Lxcup.Schedules
