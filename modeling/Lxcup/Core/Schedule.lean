import Lxcup.Core.Ids
import Lxcup.Lib.Lists

/-!
# Schedules and update policies

The recurring jobs of the controller and the rules that bind package updates to
targets.

## Main definitions

* `ScheduleFrequency`, `ThresholdRule`, `JobSchedule`.
* `JobSchedule.isDue`, `JobSchedule.advanceAfterRun` — when a schedule runs.
* `UpdateRisk`, `UpdatePolicy`, `UpdatePolicy.allows`.
* `JobSchedule.withoutTarget`, `UpdatePolicy.withoutTarget` — taking a target out of a list.

## Main results

* `JobSchedule.advanceAfterRun_not_due` — a schedule is not due right after its run.
-/

namespace Lxcup.Core

open Lxcup.Lib

/-- How often a schedule is due. -/
inductive ScheduleFrequency
  | everyMinutes (minutes : UInt32)
  deriving DecidableEq, Repr, Inhabited

/-- The interval in nanoseconds; a zero frequency counts as one minute. -/
def ScheduleFrequency.interval : ScheduleFrequency → Int
  | everyMinutes minutes => max minutes.toNat 1 * 60000000000

/-- What a threshold looks at. -/
inductive ThresholdMetric
  | cpuBasisPoints | memoryBasisPoints | storageBasisPoints | heartbeatAgeSeconds
  deriving DecidableEq, Repr, Inhabited

/-- How a threshold compares. -/
inductive ThresholdOperator
  | greaterThanOrEqual | lessThanOrEqual
  deriving DecidableEq, Repr, Inhabited

/-- A telemetry condition on a scheduled run. -/
structure ThresholdRule where
  metric : ThresholdMetric
  operator : ThresholdOperator
  value : UInt64
  deriving DecidableEq, Repr, Inhabited

/-- A recurring job.  A backup has no targets. -/
structure JobSchedule where
  id : String
  operation : String
  timezone : String
  targetIds : List TargetId
  frequency : ScheduleFrequency
  enabled : Bool
  threshold : Option ThresholdRule
  policyId : Option String
  backupSecretRef : Option SecretId
  lastRunAt : Option Timestamp
  nextRunAt : Timestamp
  lastError : Option String
  deriving DecidableEq, Repr, Inhabited

/-- `is_due`. -/
def JobSchedule.isDue (schedule : JobSchedule) (now : Timestamp) : Bool :=
  schedule.enabled && schedule.nextRunAt ≤ now

/-- The first slot after `now`, of the slots from `next` on, within as many slots as `fuel`. -/
def nextSlot (interval now : Int) : Nat → Int → Int
  | 0, next => next
  | fuel + 1, next => if next ≤ now then nextSlot interval now fuel (next + interval) else next

/-- `advance_after_run`, from the scheduled slot on. -/
def JobSchedule.advanceAfterRun (schedule : JobSchedule) (now : Timestamp)
    (error : Option String) : JobSchedule :=
  let interval := schedule.frequency.interval
  { schedule with
    lastRunAt := some now
    lastError := error
    -- slots are more than a nanosecond apart
    nextRunAt :=
      nextSlot interval now (now - schedule.nextRunAt).toNat (schedule.nextRunAt + interval) }

theorem ScheduleFrequency.interval_pos (frequency : ScheduleFrequency) :
    0 < frequency.interval := by
  cases frequency with
  | everyMinutes minutes =>
    have hone : 1 ≤ max minutes.toNat 1 := le_max_right _ _
    simp only [interval]
    omega

theorem lt_nextSlot {interval now next : Int} {fuel : Nat} (hpos : 0 < interval)
    (hfuel : now - next < fuel) : now < nextSlot interval now fuel next := by
  induction fuel generalizing next with
  | zero =>
    show now < next
    omega
  | succ fuel ih =>
    unfold nextSlot
    split
    case isTrue => exact ih (by omega)
    case isFalse => omega

/-- **A schedule is not due right after its run**, however many slots were missed. -/
theorem JobSchedule.advanceAfterRun_not_due (schedule : JobSchedule) (now : Timestamp)
    (error : Option String) : (schedule.advanceAfterRun now error).isDue now = false := by
  have hpos := schedule.frequency.interval_pos
  have henough : ∀ now slot interval : Int, 0 < interval →
      now - (slot + interval) < ((now - slot).toNat : Int) := by
    omega
  have hlater : now < (schedule.advanceAfterRun now error).nextRunAt :=
    lt_nextSlot hpos (henough now schedule.nextRunAt _ hpos)
  simp only [isDue, Bool.and_eq_false_iff, decide_eq_false_iff_not]
  exact .inr (not_le.mpr hlater)

/-- Take a target out of the list of a schedule. -/
def JobSchedule.withoutTarget (schedule : JobSchedule) (id : TargetId) : JobSchedule :=
  { schedule with targetIds := schedule.targetIds.filter (· ≠ id) }

theorem JobSchedule.withoutTarget_of_notMem {schedule : JobSchedule} {id : TargetId}
    (h : id ∉ schedule.targetIds) : schedule.withoutTarget id = schedule := by
  rw [withoutTarget, filter_ne_of_notMem h]

/-- The risk of an update. -/
inductive UpdateRisk
  | low | medium | high
  deriving DecidableEq, Repr, Inhabited

/-- Which updates may run where and when. -/
structure UpdatePolicy where
  id : String
  allowedTargets : List TargetId
  allowedPackages : List String
  maintenanceStartMinute : UInt16
  maintenanceEndMinute : UInt16
  timezone : String
  maximumRisk : UpdateRisk
  enabled : Bool
  deriving DecidableEq, Repr, Inhabited

/-- The order of the risks. -/
def UpdateRisk.rank : UpdateRisk → Nat
  | low => 0
  | medium => 1
  | high => 2

/-- The minute of the day, in UTC. -/
def minuteOfDay (now : Timestamp) : Nat := (now / 60000000000 % 1440).toNat

/-- The minute lies in the window of the policy; a window may go past midnight. -/
def UpdatePolicy.windowOpen (policy : UpdatePolicy) (now : Timestamp) : Bool :=
  let start := policy.maintenanceStartMinute.toNat
  let stop := policy.maintenanceEndMinute.toNat
  let minute := minuteOfDay now
  if start ≤ stop then start ≤ minute && minute ≤ stop else start ≤ minute || minute ≤ stop

/-- Whether an update of a package may run on a target now. -/
def UpdatePolicy.allows (policy : UpdatePolicy) (target : TargetId) (package : String)
    (risk : UpdateRisk) (now : Timestamp) : Bool :=
  policy.enabled && policy.allowedTargets.contains target
    && risk.rank ≤ policy.maximumRisk.rank
    && (policy.allowedPackages = [] || policy.allowedPackages.contains package)
    && policy.windowOpen now

/-- Take a target out of the list of a policy. -/
def UpdatePolicy.withoutTarget (policy : UpdatePolicy) (id : TargetId) : UpdatePolicy :=
  { policy with allowedTargets := policy.allowedTargets.filter (· ≠ id) }

end Lxcup.Core
