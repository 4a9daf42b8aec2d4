import Lxcup.Core.Ids
import Mathlib.Data.List.Chain
import Mathlib.Data.List.Sort

/-!
# Alerts on sustained load

A resource of a host that stays above a threshold for some minutes raises an alert.  The samples
are sorted by time and read backwards from the latest one; a sample without a value, a value below
the threshold and a gap of more than seven seconds each end the streak.  Every metric has two
thresholds, and the warning is only looked at where the critical one is not reached for long
enough.

Beside the scan stands what it looks for: the longest suffix of the samples in order of time that
is sustained load throughout.

## Main definitions

* `sustainedScan`, `sustainedStart`, `evaluateRule`, `evaluateTelemetryThresholds` — the source.
* `Sustained`, `LongestStreak` — the streak that counts.
* `Outlasts` — a streak that is long enough.

## Main results

* `sustainedStart_eq` — the scan returns the start of the longest streak.
* `evaluateTelemetryThresholds_spec` — which alerts there are, for samples in any order.
-/

namespace Lxcup.Core

/-! ### The source -/

/-- `Duration::seconds`, in nanoseconds. -/
def seconds (count : Int) : Int := count * 1000000000

/-- `Duration::minutes`. -/
def minutes (count : Int) : Int := seconds (count * 60)

structure TelemetryLoadSample where
  collectedAt : Timestamp
  cpuBasisPoints : Option UInt16
  memoryBasisPoints : Option UInt16
  storageBasisPoints : Option UInt16
  deriving DecidableEq, Repr

inductive TelemetryMetric
  | cpu
  | memory
  | storage
  deriving DecidableEq, Repr

inductive TelemetryAlertSeverity
  | warning
  | critical
  deriving DecidableEq, Repr

structure TelemetryThresholdAlert where
  metric : TelemetryMetric
  severity : TelemetryAlertSeverity
  valueBasisPoints : UInt16
  thresholdBasisPoints : UInt16
  triggeredAt : Timestamp
  observedAt : Timestamp
  deriving DecidableEq, Repr

structure Threshold where
  value : UInt16
  duration : Int
  deriving DecidableEq, Repr

structure Rule where
  metric : TelemetryMetric
  warning : Threshold
  critical : Threshold
  deriving DecidableEq, Repr

/-- `RULES`. -/
def rules : List Rule :=
  [⟨.cpu, ⟨9000, minutes 5⟩, ⟨9800, minutes 2⟩⟩,
   ⟨.memory, ⟨9000, minutes 5⟩, ⟨9500, minutes 2⟩⟩,
   ⟨.storage, ⟨8500, minutes 10⟩, ⟨9500, minutes 5⟩⟩]

/-- `MAX_SAMPLE_GAP`. -/
def maxSampleGap : Int := seconds 7

def metricValue (sample : TelemetryLoadSample) : TelemetryMetric → Option UInt16
  | .cpu => sample.cpuBasisPoints
  | .memory => sample.memoryBasisPoints
  | .storage => sample.storageBasisPoints

/-- The loop of `sustained_start` over the samples from the latest one on, with the start of the
streak and the time of the sample before. -/
def sustainedScan (metric : TelemetryMetric) (threshold : UInt16) :
    Option Timestamp → Option Timestamp → List TelemetryLoadSample → Option Timestamp
  | streakStart, _, [] => streakStart
  | streakStart, previous, sample :: earlier =>
    match metricValue sample metric with
    | none => streakStart
    | some value =>
      if value < threshold then streakStart
      else if previous.any fun time => time - sample.collectedAt > maxSampleGap then streakStart
      else
        sustainedScan metric threshold (some sample.collectedAt) (some sample.collectedAt) earlier

def sustainedStart (samples : List TelemetryLoadSample) (metric : TelemetryMetric)
    (threshold : UInt16) : Option Timestamp :=
  sustainedScan metric threshold none none samples.reverse

/-- The alert for a threshold that has been reached since `start`. -/
def Rule.alert (rule : Rule) (severity : TelemetryAlertSeverity) (threshold : Threshold)
    (latest : TelemetryLoadSample) (latestValue : UInt16) (start : Timestamp) :
    TelemetryThresholdAlert where
  metric := rule.metric
  severity
  valueBasisPoints := latestValue
  thresholdBasisPoints := threshold.value
  triggeredAt := start + threshold.duration
  observedAt := latest.collectedAt

/-- The start of the streak at a threshold that has lasted for long enough at the latest sample. -/
def dueStart (samples : List TelemetryLoadSample) (latest : TelemetryLoadSample)
    (metric : TelemetryMetric) (threshold : Threshold) : Option Timestamp :=
  (sustainedStart samples metric threshold.value).filter fun start =>
    latest.collectedAt - start ≥ threshold.duration

/-- A time has no end here.  The source adds the duration of a threshold to the start of a streak
before it looks at how long the streak has lasted, and panics when the sum is past the end of the
calendar of `chrono`; streaks that start in its last ten minutes are left out. -/
def evaluateRule (rule : Rule) (samples : List TelemetryLoadSample)
    (latest : TelemetryLoadSample) : Option TelemetryThresholdAlert :=
  match metricValue latest rule.metric with
  | none => none
  | some latestValue =>
    match dueStart samples latest rule.metric rule.critical with
    | some start => some (rule.alert .critical rule.critical latest latestValue start)
    | none =>
      (dueStart samples latest rule.metric rule.warning).map fun start =>
        rule.alert .warning rule.warning latest latestValue start

/-- `sort_by_key`, which keeps the order of samples at the same time. -/
def orderSamples (samples : List TelemetryLoadSample) : List TelemetryLoadSample :=
  samples.insertionSort fun a b => a.collectedAt ≤ b.collectedAt

def evaluateTelemetryThresholds (samples : List TelemetryLoadSample) :
    List TelemetryThresholdAlert :=
  let ordered := orderSamples samples
  match ordered.getLast? with
  | none => []
  | some latest => rules.filterMap fun rule => evaluateRule rule ordered latest

/-! ### The streak that counts -/

variable {metric : TelemetryMetric} {threshold : UInt16}

/-- The metric is present and at or above the threshold. -/
def AtOrAbove (metric : TelemetryMetric) (threshold : UInt16) (sample : TelemetryLoadSample) :
    Prop :=
  ∃ value, metricValue sample metric = some value ∧ threshold ≤ value

/-- Load at or above the threshold throughout, without a gap. -/
structure Sustained (metric : TelemetryMetric) (threshold : UInt16)
    (streak : List TelemetryLoadSample) : Prop where
  high : ∀ sample ∈ streak, AtOrAbove metric threshold sample
  close : streak.IsChain fun a b => b.collectedAt - a.collectedAt ≤ maxSampleGap

/-- The longest suffix that is sustained load. -/
structure LongestStreak (metric : TelemetryMetric) (threshold : UInt16)
    (samples streak : List TelemetryLoadSample) : Prop where
  suffix : streak <:+ samples
  sustained : Sustained metric threshold streak
  longest : ∀ other, other <:+ samples → Sustained metric threshold other → other <:+ streak

/-- The samples in order of time. -/
structure InOrderOfTime (samples ordered : List TelemetryLoadSample) : Prop where
  perm : ordered.Perm samples
  sorted : ordered.Pairwise fun a b => a.collectedAt < b.collectedAt

/-- A streak with a first and a last sample that spans at least the duration. -/
def Outlasts (streak : List TelemetryLoadSample) (duration : Int) : Prop :=
  ∃ first ∈ streak.head?, ∃ last ∈ streak.getLast?,
    duration ≤ last.collectedAt - first.collectedAt

theorem LongestStreak.unique {samples streak other : List TelemetryLoadSample}
    (h : LongestStreak metric threshold samples streak)
    (hother : LongestStreak metric threshold samples other) : streak = other :=
  List.IsSuffix.eq_of_length_le (hother.longest streak h.suffix h.sustained)
    (h.longest other hother.suffix hother.sustained).length_le

/-- A streak that is not empty ends with the latest sample. -/
theorem LongestStreak.getLast? {samples streak : List TelemetryLoadSample}
    (h : LongestStreak metric threshold samples streak) {last : TelemetryLoadSample}
    (hlast : last ∈ streak.getLast?) : last ∈ samples.getLast? := by
  obtain ⟨before, rfl⟩ := h.suffix
  rw [List.getLast?_append]
  simp [Option.mem_def.mp hlast]

/-! ### The scan -/

/-- Sustained load read from the latest sample on, with the time of the sample before it. -/
structure SustainedBack (metric : TelemetryMetric) (threshold : UInt16)
    (previous : Option Timestamp) (streak : List TelemetryLoadSample) : Prop where
  high : ∀ sample ∈ streak, AtOrAbove metric threshold sample
  joins : ∀ time ∈ previous, ∀ sample ∈ streak.head?, time - sample.collectedAt ≤ maxSampleGap
  close : streak.IsChain fun b a => b.collectedAt - a.collectedAt ≤ maxSampleGap

theorem sustainedBack_nil {previous : Option Timestamp} :
    SustainedBack metric threshold previous [] :=
  ⟨by simp, by simp, .nil⟩

theorem sustainedBack_cons {previous : Option Timestamp} {sample : TelemetryLoadSample}
    {streak : List TelemetryLoadSample} :
    SustainedBack metric threshold previous (sample :: streak) ↔
      AtOrAbove metric threshold sample ∧
      (∀ time ∈ previous, time - sample.collectedAt ≤ maxSampleGap) ∧
      SustainedBack metric threshold (some sample.collectedAt) streak := by
  constructor
  · rintro ⟨high, joins, close⟩
    rw [List.isChain_cons] at close
    exact ⟨high sample List.mem_cons_self, fun time htime => joins time htime sample rfl,
      fun a ha => high a (List.mem_cons_of_mem _ ha), fun time htime a ha => by
        rw [← Option.mem_some.mp htime]; exact close.1 a ha, close.2⟩
  · rintro ⟨hsample, hjoins, high, joins, close⟩
    refine ⟨?_, ?_, List.isChain_cons.mpr ⟨joins _ rfl, close⟩⟩
    · rintro a (_ | ⟨_, ha⟩)
      exacts [hsample, high a ha]
    · rintro time htime a ha
      rw [← Option.mem_some.mp ha]
      exact hjoins time htime

theorem sustained_reverse {streak : List TelemetryLoadSample} :
    SustainedBack metric threshold none streak.reverse ↔ Sustained metric threshold streak := by
  constructor
  · rintro ⟨high, -, close⟩
    exact ⟨fun a ha => high a (List.mem_reverse.mpr ha), List.isChain_reverse.mp close⟩
  · rintro ⟨high, close⟩
    exact ⟨fun a ha => high a (List.mem_reverse.mp ha), by simp, List.isChain_reverse.mpr close⟩

/-- A sample that ends the streak belongs to no sustained load. -/
theorem sustainedBack_of_prefix_stop {previous : Option Timestamp} {sample : TelemetryLoadSample}
    {earlier other : List TelemetryLoadSample} (hbegins : other <+: sample :: earlier)
    (h : SustainedBack metric threshold previous other)
    (hstop : ¬(AtOrAbove metric threshold sample ∧
      ∀ time ∈ previous, time - sample.collectedAt ≤ maxSampleGap)) : other = [] := by
  cases other with
  | nil => rfl
  | cons a other =>
    obtain ⟨rfl, -⟩ := List.cons_prefix_cons.mp hbegins
    obtain ⟨high, joins, -⟩ := sustainedBack_cons.mp h
    exact absurd ⟨high, joins⟩ hstop

/-- Whether a sample goes on with the streak, as the loop decides it. -/
theorem sustainedScan_cons (streakStart previous : Option Timestamp)
    (sample : TelemetryLoadSample) (earlier : List TelemetryLoadSample) :
    (AtOrAbove metric threshold sample ∧
        (∀ time ∈ previous, time - sample.collectedAt ≤ maxSampleGap) ∧
        sustainedScan metric threshold streakStart previous (sample :: earlier) =
          sustainedScan metric threshold (some sample.collectedAt) (some sample.collectedAt)
            earlier) ∨
      ¬(AtOrAbove metric threshold sample ∧
        ∀ time ∈ previous, time - sample.collectedAt ≤ maxSampleGap) ∧
      sustainedScan metric threshold streakStart previous (sample :: earlier) = streakStart := by
  rw [sustainedScan]
  cases hvalue : metricValue sample metric with
  | none => exact .inr ⟨fun h => by obtain ⟨⟨_, h, -⟩, -⟩ := h; simp [hvalue] at h, rfl⟩
  | some value =>
    by_cases hlow : value < threshold
    · refine .inr ⟨?_, if_pos hlow⟩
      rintro ⟨⟨other, hother, hle⟩, -⟩
      rw [hvalue, Option.some_inj] at hother
      exact absurd (hother ▸ hle) (UInt16.not_le.mpr hlow)
    · have high : AtOrAbove metric threshold sample := ⟨value, hvalue, UInt16.not_lt.mp hlow⟩
      simp only [if_neg hlow]
      by_cases hgap : (previous.any fun time => time - sample.collectedAt > maxSampleGap) = true
      · refine .inr ⟨?_, if_pos hgap⟩
        rintro ⟨-, hjoins⟩
        rw [Option.any_eq_true] at hgap
        obtain ⟨time, htime, hlate⟩ := hgap
        exact absurd (hjoins time htime) (Int.not_le.mpr (of_decide_eq_true hlate))
      · refine .inl ⟨high, ?_, if_neg hgap⟩
        intro time htime
        rw [Option.mem_def] at htime
        simp only [htime, Option.any_some, decide_eq_true_eq] at hgap
        exact Int.not_lt.mp hgap

/-- The scan finds the longest sustained load and returns its last time, which is the start of
the streak. -/
theorem sustainedScan_spec (samples : List TelemetryLoadSample) :
    ∀ streakStart previous : Option Timestamp, ∃ streak, streak <+: samples ∧
      SustainedBack metric threshold previous streak ∧
      (∀ other, other <+: samples → SustainedBack metric threshold previous other →
        other <+: streak) ∧
      sustainedScan metric threshold streakStart previous samples =
        (streak.getLast?.map (·.collectedAt)).or streakStart := by
  induction samples with
  | nil =>
    intro streakStart previous
    exact ⟨[], List.prefix_rfl, sustainedBack_nil, fun _ h _ => h, by simp [sustainedScan]⟩
  | cons sample earlier ih =>
    intro streakStart previous
    obtain ⟨high, joins, hscan⟩ | ⟨hstop, hscan⟩ :=
      @sustainedScan_cons metric threshold streakStart previous sample earlier
    · obtain ⟨streak, hbegins, hback, hlongest, hstart⟩ :=
        ih (some sample.collectedAt) (some sample.collectedAt)
      refine ⟨sample :: streak, List.cons_prefix_cons.mpr ⟨rfl, hbegins⟩,
        sustainedBack_cons.mpr ⟨high, joins, hback⟩, ?_, ?_⟩
      · rintro (_ | ⟨a, other⟩) hother h
        · exact List.nil_prefix
        · obtain ⟨rfl, hrest⟩ := List.cons_prefix_cons.mp hother
          exact List.cons_prefix_cons.mpr
            ⟨rfl, hlongest other hrest (sustainedBack_cons.mp h).2.2⟩
      · rw [hscan, hstart, List.getLast?_cons]
        cases streak.getLast? <;> simp
    · refine ⟨[], List.nil_prefix, sustainedBack_nil, fun other hother h => ?_, by simp [hscan]⟩
      have hnil : other = [] := sustainedBack_of_prefix_stop hother h hstop
      exact List.prefix_nil.mpr hnil

/-- `sustained_start` returns the start of the longest streak. -/
theorem sustainedStart_eq (samples : List TelemetryLoadSample) (metric : TelemetryMetric)
    (threshold : UInt16) : ∃ streak, LongestStreak metric threshold samples streak ∧
      sustainedStart samples metric threshold = streak.head?.map (·.collectedAt) := by
  obtain ⟨streak, hbegins, hback, hlongest, hstart⟩ :=
    @sustainedScan_spec metric threshold samples.reverse none none
  have hreverse : streak = streak.reverse.reverse := (List.reverse_reverse streak).symm
  refine ⟨streak.reverse, ⟨?_, ?_, fun other hsuffix hother => ?_⟩, ?_⟩
  · rw [← List.reverse_prefix, ← hreverse]
    exact hbegins
  · rw [← sustained_reverse, ← hreverse]
    exact hback
  · rw [← List.reverse_prefix, ← hreverse]
    exact hlongest _ (List.reverse_prefix.mpr hsuffix) (sustained_reverse.mpr hother)
  · rw [sustainedStart, hstart, List.head?_reverse, Option.or_none]

/-! ### The rules -/

section

variable {samples streak : List TelemetryLoadSample} {latest : TelemetryLoadSample}

theorem Outlasts.exists_latest {duration : Int} (hlatest : latest ∈ samples.getLast?)
    (hstreak : LongestStreak metric threshold samples streak) (h : Outlasts streak duration) :
    latest ∈ streak ∧ ∃ first ∈ streak.head?,
      duration ≤ latest.collectedAt - first.collectedAt := by
  obtain ⟨first, hfirst, last, hlast, hspan⟩ := h
  have heq : last = latest := Option.mem_unique (hstreak.getLast? hlast) hlatest
  exact ⟨heq ▸ List.mem_of_getLast? hlast, first, hfirst, heq ▸ hspan⟩

/-- The start of a streak is due exactly where the streak outlasts the rule. -/
theorem dueStart_eq_some {threshold : Threshold} {start : Timestamp}
    (hlatest : latest ∈ samples.getLast?)
    (hstreak : LongestStreak metric threshold.value samples streak)
    (hstart : sustainedStart samples metric threshold.value = streak.head?.map (·.collectedAt)) :
    dueStart samples latest metric threshold = some start ↔
      Outlasts streak threshold.duration ∧ streak.head?.map (·.collectedAt) = some start := by
  rw [dueStart, hstart, Option.filter_eq_some_iff, Option.map_eq_some_iff]
  constructor
  · rintro ⟨⟨first, hfirst, rfl⟩, hdue⟩
    have hne : streak ≠ [] := by rintro rfl; simp at hfirst
    have hlast := List.getLast?_eq_some_getLast hne
    have heq := Option.mem_unique (hstreak.getLast? hlast) hlatest
    exact ⟨⟨first, hfirst, latest, heq ▸ hlast, of_decide_eq_true hdue⟩, first, hfirst, rfl⟩
  · rintro ⟨houtlasts, first, hfirst, rfl⟩
    obtain ⟨-, other, hother, hdue⟩ := houtlasts.exists_latest hlatest hstreak
    obtain rfl := Option.mem_unique hfirst hother
    exact ⟨⟨first, hfirst, rfl⟩, decide_eq_true hdue⟩

theorem dueStart_eq_none {threshold : Threshold} (hlatest : latest ∈ samples.getLast?)
    (hstreak : LongestStreak metric threshold.value samples streak)
    (hstart : sustainedStart samples metric threshold.value = streak.head?.map (·.collectedAt)) :
    dueStart samples latest metric threshold = none ↔ ¬Outlasts streak threshold.duration := by
  rw [Option.eq_none_iff_forall_ne_some]
  constructor
  · rintro hnone houtlasts
    obtain ⟨-, first, hfirst, -⟩ := houtlasts.exists_latest hlatest hstreak
    refine hnone first.collectedAt ((dueStart_eq_some hlatest hstreak hstart).mpr ⟨houtlasts, ?_⟩)
    rw [Option.mem_def.mp hfirst, Option.map_some]
  · intro hshort start hsome
    exact hshort ((dueStart_eq_some hlatest hstreak hstart).mp hsome).1

/-- What an alert says of the streak that raised it. -/
structure Tells (samples : List TelemetryLoadSample) (threshold : Threshold)
    (streak : List TelemetryLoadSample) (alert : TelemetryThresholdAlert) : Prop where
  exceeded : alert.thresholdBasisPoints = threshold.value
  triggered : streak.head?.map (·.collectedAt + threshold.duration) = some alert.triggeredAt
  notAhead : alert.triggeredAt ≤ alert.observedAt
  observed : ∃ latest ∈ samples, alert.observedAt = latest.collectedAt ∧
    metricValue latest alert.metric = some alert.valueBasisPoints ∧
    ∀ sample ∈ samples, sample.collectedAt ≤ latest.collectedAt

/-- The alert of a rule, with the streaks at its two thresholds. -/
structure Raised (samples : List TelemetryLoadSample) (rule : Rule)
    (critical warning : List TelemetryLoadSample) (raised : TelemetryThresholdAlert → Prop) :
    Prop where
  critical_iff : (∃ alert, raised alert ∧ alert.severity = .critical) ↔
    Outlasts critical rule.critical.duration
  warning_iff : (∃ alert, raised alert ∧ alert.severity = .warning) ↔
    ¬Outlasts critical rule.critical.duration ∧ Outlasts warning rule.warning.duration
  critical_tells : ∀ alert, raised alert → alert.severity = .critical →
    Tells samples rule.critical critical alert
  warning_tells : ∀ alert, raised alert → alert.severity = .warning →
    Tells samples rule.warning warning alert

/-- The alert of a streak that is long enough tells of it. -/
theorem tells_alert {rule : Rule} {severity : TelemetryAlertSeverity} {threshold : Threshold}
    {value : UInt16} {start : Timestamp} (hlatest : latest ∈ samples.getLast?)
    (hmax : ∀ sample ∈ samples, sample.collectedAt ≤ latest.collectedAt)
    (hvalue : metricValue latest rule.metric = some value)
    (hstreak : LongestStreak metric threshold.value samples streak)
    (houtlasts : Outlasts streak threshold.duration)
    (hhead : streak.head?.map (·.collectedAt) = some start) :
    Tells samples threshold streak (rule.alert severity threshold latest value start) := by
  obtain ⟨-, first, hfirst, hdue⟩ := houtlasts.exists_latest hlatest hstreak
  rw [Option.mem_def.mp hfirst, Option.map_some, Option.some_inj] at hhead
  subst hhead
  refine ⟨rfl, ?_, ?_, latest, List.mem_of_getLast? hlatest, rfl, hvalue, hmax⟩
  · rw [Option.mem_def.mp hfirst, Option.map_some]
    rfl
  · change first.collectedAt + threshold.duration ≤ latest.collectedAt
    have hspan : threshold.duration ≤ latest.collectedAt - first.collectedAt := hdue
    exact Int.add_le_of_le_sub_left hspan

/-- Without a value at the latest sample no streak is long enough. -/
theorem not_outlasts_of_none (hlatest : latest ∈ samples.getLast?)
    (hvalue : metricValue latest metric = none)
    (hstreak : LongestStreak metric threshold samples streak) (duration : Int) :
    ¬Outlasts streak duration := by
  intro houtlasts
  obtain ⟨value, hhigh, -⟩ :=
    hstreak.sustained.high latest (houtlasts.exists_latest hlatest hstreak).1
  simp [hvalue] at hhigh

section

variable {rule : Rule} {critical warning : List TelemetryLoadSample} {value : UInt16}

/-- A critical streak that is long enough raises its alert, and no other. -/
theorem raised_critical {start : Timestamp} (hlatest : latest ∈ samples.getLast?)
    (hmax : ∀ sample ∈ samples, sample.collectedAt ≤ latest.collectedAt)
    (hvalue : metricValue latest rule.metric = some value)
    (hcritical : LongestStreak rule.metric rule.critical.value samples critical)
    (houtlasts : Outlasts critical rule.critical.duration)
    (hhead : critical.head?.map (·.collectedAt) = some start) :
    Raised samples rule critical warning fun alert =>
      rule.alert .critical rule.critical latest value start = alert := by
  refine ⟨?_, ?_, ?_, ?_⟩
  · exact iff_of_true ⟨_, rfl, rfl⟩ houtlasts
  · exact iff_of_false (by simp [Rule.alert]) fun h => h.1 houtlasts
  · rintro _ rfl -
    exact tells_alert hlatest hmax hvalue hcritical houtlasts hhead
  · rintro _ rfl hseverity
    cases hseverity

/-- Without one, the other threshold decides. -/
theorem raised_warning (hlatest : latest ∈ samples.getLast?)
    (hmax : ∀ sample ∈ samples, sample.collectedAt ≤ latest.collectedAt)
    (hvalue : metricValue latest rule.metric = some value)
    (hshort : ¬Outlasts critical rule.critical.duration)
    (hwarning : LongestStreak rule.metric rule.warning.value samples warning)
    (hstart : sustainedStart samples rule.metric rule.warning.value =
      warning.head?.map (·.collectedAt)) :
    Raised samples rule critical warning fun alert =>
      ∃ start, dueStart samples latest rule.metric rule.warning = some start ∧
        rule.alert .warning rule.warning latest value start = alert := by
  refine ⟨?_, ?_, ?_, ?_⟩
  · refine iff_of_false ?_ hshort
    rintro ⟨_, ⟨start, -, rfl⟩, hseverity⟩
    cases hseverity
  · constructor
    · rintro ⟨_, ⟨start, hdue, rfl⟩, -⟩
      exact ⟨hshort, ((dueStart_eq_some hlatest hwarning hstart).mp hdue).1⟩
    · rintro ⟨-, houtlasts⟩
      obtain ⟨-, first, hfirst, -⟩ := houtlasts.exists_latest hlatest hwarning
      have hdue := (dueStart_eq_some hlatest hwarning hstart).mpr
        ⟨houtlasts, congrArg (Option.map (·.collectedAt)) hfirst⟩
      exact ⟨_, ⟨_, hdue, rfl⟩, rfl⟩
  · rintro _ ⟨start, -, rfl⟩ hseverity
    cases hseverity
  · rintro _ ⟨start, hdue, rfl⟩ -
    obtain ⟨houtlasts, hhead⟩ := (dueStart_eq_some hlatest hwarning hstart).mp hdue
    exact tells_alert hlatest hmax hvalue hwarning houtlasts hhead

end

/-- Every rule raises what its two streaks say. -/
theorem raised_evaluateRule (rule : Rule) (hlatest : latest ∈ samples.getLast?)
    (hmax : ∀ sample ∈ samples, sample.collectedAt ≤ latest.collectedAt) :
    ∃ critical warning, LongestStreak rule.metric rule.critical.value samples critical ∧
      LongestStreak rule.metric rule.warning.value samples warning ∧
      Raised samples rule critical warning fun alert =>
        evaluateRule rule samples latest = some alert := by
  obtain ⟨critical, hcritical, hcriticalStart⟩ :=
    sustainedStart_eq samples rule.metric rule.critical.value
  obtain ⟨warning, hwarning, hwarningStart⟩ :=
    sustainedStart_eq samples rule.metric rule.warning.value
  refine ⟨critical, warning, hcritical, hwarning, ?_⟩
  cases hvalue : metricValue latest rule.metric with
  | none =>
    have heval : evaluateRule rule samples latest = none := by rw [evaluateRule, hvalue]
    have hshort := not_outlasts_of_none hlatest hvalue hcritical rule.critical.duration
    have hshort' := not_outlasts_of_none hlatest hvalue hwarning rule.warning.duration
    simp only [heval]
    exact ⟨by simpa using hshort, by simpa using fun _ => hshort', by simp, by simp⟩
  | some value =>
    cases hdue : dueStart samples latest rule.metric rule.critical with
    | some start =>
      obtain ⟨houtlasts, hhead⟩ := (dueStart_eq_some hlatest hcritical hcriticalStart).mp hdue
      simp only [evaluateRule, hvalue, hdue, Option.some_inj]
      exact raised_critical hlatest hmax hvalue hcritical houtlasts hhead
    | none =>
      have hshort := (dueStart_eq_none hlatest hcritical hcriticalStart).mp hdue
      simp only [evaluateRule, hvalue, hdue, Option.map_eq_some_iff]
      exact raised_warning hlatest hmax hvalue hshort hwarning hwarningStart

end

/-! ### Samples in any order -/

section

variable {samples : List TelemetryLoadSample}

theorem inOrderOfTime_orderSamples (distinct : (samples.map (·.collectedAt)).Nodup) :
    InOrderOfTime samples (orderSamples samples) := by
  have hperm : (orderSamples samples).Perm samples := List.perm_insertionSort _ samples
  refine ⟨hperm, ?_⟩
  have hsorted : (orderSamples samples).Pairwise fun a b => a.collectedAt ≤ b.collectedAt :=
    List.pairwise_insertionSort _ samples
  have hne : (orderSamples samples).Pairwise fun a b => a.collectedAt ≠ b.collectedAt :=
    List.pairwise_map.mp ((hperm.map _).nodup_iff.mpr distinct)
  exact (hsorted.and hne).imp fun h => Int.lt_iff_le_and_ne.mpr h

/-- There is one order of time. -/
theorem InOrderOfTime.unique {ordered other : List TelemetryLoadSample}
    (h : InOrderOfTime samples ordered) (hother : InOrderOfTime samples other) :
    ordered = other :=
  (h.perm.trans hother.perm.symm).eq_of_pairwise
    (fun _ _ _ _ hlt hgt => absurd hgt (Int.lt_asymm hlt)) h.sorted hother.sorted

theorem InOrderOfTime.le_latest {ordered : List TelemetryLoadSample}
    (h : InOrderOfTime samples ordered) {latest : TelemetryLoadSample}
    (hlatest : latest ∈ ordered.getLast?) :
    ∀ sample ∈ ordered, sample.collectedAt ≤ latest.collectedAt := by
  intro sample hsample
  have hsplit := List.dropLast_append_getLast? latest hlatest
  have hsorted := h.sorted
  rw [← hsplit, List.pairwise_append] at hsorted
  rw [← hsplit, List.mem_append, List.mem_singleton] at hsample
  obtain hsample | rfl := hsample
  · exact Int.le_of_lt (hsorted.2.2 sample hsample latest List.mem_cons_self)
  · exact Int.le_refl _

theorem Tells.of_perm {ordered streak : List TelemetryLoadSample} {threshold : Threshold}
    {alert : TelemetryThresholdAlert} (h : Tells ordered threshold streak alert)
    (hperm : ordered.Perm samples) : Tells samples threshold streak alert := by
  obtain ⟨latest, hmem, htime, hvalue, hmax⟩ := h.observed
  exact ⟨h.exceeded, h.triggered, h.notAhead, latest, hperm.mem_iff.mp hmem, htime, hvalue,
    fun sample hsample => hmax sample (hperm.mem_iff.mpr hsample)⟩

theorem Raised.of_perm {ordered critical warning : List TelemetryLoadSample} {rule : Rule}
    {raised : TelemetryThresholdAlert → Prop} (h : Raised ordered rule critical warning raised)
    (hperm : ordered.Perm samples) : Raised samples rule critical warning raised :=
  ⟨h.critical_iff, h.warning_iff, fun alert ha hs => (h.critical_tells alert ha hs).of_perm hperm,
    fun alert ha hs => (h.warning_tells alert ha hs).of_perm hperm⟩

theorem metric_of_evaluateRule {rule : Rule} {latest : TelemetryLoadSample}
    {alert : TelemetryThresholdAlert} (h : evaluateRule rule samples latest = some alert) :
    alert.metric = rule.metric := by
  rw [evaluateRule] at h
  split at h
  · cases h
  · split at h
    · exact (Option.some_inj.mp h).symm ▸ rfl
    · obtain ⟨_, -, rfl⟩ := Option.map_eq_some_iff.mp h
      rfl

/-- Every metric has one rule. -/
theorem rules_metric (metric : TelemetryMetric) : ∃ rule ∈ rules, rule.metric = metric := by
  cases metric <;> decide

theorem rules_pairwise : rules.Pairwise fun a b => a.metric ≠ b.metric := by decide

theorem rule_unique {rule other : Rule} (hrule : rule ∈ rules) (hother : other ∈ rules)
    (h : rule.metric = other.metric) : rule = other :=
  List.inj_on_of_nodup_map (List.pairwise_map.mpr rules_pairwise) hrule hother h

theorem mem_evaluateTelemetryThresholds {alert : TelemetryThresholdAlert} :
    alert ∈ evaluateTelemetryThresholds samples ↔
      ∃ latest ∈ (orderSamples samples).getLast?, ∃ rule ∈ rules,
        evaluateRule rule (orderSamples samples) latest = some alert := by
  rw [evaluateTelemetryThresholds]
  cases (orderSamples samples).getLast? with
  | none => simp
  | some latest => simp [List.mem_filterMap]

/-- No metric has two alerts. -/
theorem nodup_metric_evaluateTelemetryThresholds :
    ((evaluateTelemetryThresholds samples).map (·.metric)).Nodup := by
  rw [evaluateTelemetryThresholds]
  cases (orderSamples samples).getLast? with
  | none => exact List.nodup_nil
  | some latest =>
    refine List.pairwise_map.mpr (List.pairwise_filterMap.mpr (rules_pairwise.imp ?_))
    intro a b hne alert halert other hother
    rw [metric_of_evaluateRule halert, metric_of_evaluateRule hother]
    exact hne

/-- Which alerts there are for the samples of a target, in whatever order they come: for each
metric the one of the more severe threshold whose streak is long enough. -/
theorem evaluateTelemetryThresholds_spec (samples : List TelemetryLoadSample)
    (distinct : (samples.map (·.collectedAt)).Nodup) :
    (∀ other : List TelemetryLoadSample, other.Perm samples →
      evaluateTelemetryThresholds other = evaluateTelemetryThresholds samples) ∧
    ((evaluateTelemetryThresholds samples).map (·.metric)).Nodup ∧
    ∃ ordered, InOrderOfTime samples ordered ∧
      ∀ metric, ∃ rule ∈ rules, rule.metric = metric ∧ ∃ critical warning,
        LongestStreak metric rule.critical.value ordered critical ∧
        LongestStreak metric rule.warning.value ordered warning ∧
        Raised samples rule critical warning fun alert =>
          alert ∈ evaluateTelemetryThresholds samples ∧ alert.metric = metric := by
  have hordered := inOrderOfTime_orderSamples distinct
  refine ⟨fun other hperm => ?_, nodup_metric_evaluateTelemetryThresholds, orderSamples samples,
    hordered, fun metric => ?_⟩
  · -- there is only one order of time
    have hother := inOrderOfTime_orderSamples ((hperm.map _).nodup_iff.mpr distinct)
    rw [evaluateTelemetryThresholds, evaluateTelemetryThresholds,
      InOrderOfTime.unique ⟨hother.perm.trans hperm, hother.sorted⟩ hordered]
  · obtain ⟨rule, hrule, rfl⟩ := rules_metric metric
    refine ⟨rule, hrule, rfl, ?_⟩
    cases hlatest : (orderSamples samples).getLast? with
    | none =>
      -- without samples the streaks are empty
      have hnil := List.getLast?_eq_none_iff.mp hlatest
      have hlongest : ∀ threshold, LongestStreak rule.metric threshold (orderSamples samples) [] :=
        fun threshold => ⟨List.nil_suffix, ⟨by simp, .nil⟩, fun other h _ => hnil ▸ h⟩
      have hempty : evaluateTelemetryThresholds samples = [] := by
        rw [evaluateTelemetryThresholds, hlatest]
      refine ⟨[], [], hlongest _, hlongest _, ?_⟩
      rw [hempty]
      exact ⟨by simp [Outlasts], by simp [Outlasts], by simp, by simp⟩
    | some latest =>
      obtain ⟨critical, warning, hcritical, hwarning, hraised⟩ :=
        raised_evaluateRule rule hlatest (hordered.le_latest hlatest)
      refine ⟨critical, warning, hcritical, hwarning, ?_⟩
      -- no other rule has the metric
      have heq : ∀ alert, (alert ∈ evaluateTelemetryThresholds samples ∧
          alert.metric = rule.metric) ↔
          evaluateRule rule (orderSamples samples) latest = some alert := by
        intro alert
        rw [mem_evaluateTelemetryThresholds, hlatest]
        constructor
        · rintro ⟨⟨_, hsome, other, hother, heval⟩, hmetric⟩
          obtain rfl := Option.mem_some.mp hsome
          have := metric_of_evaluateRule heval
          rwa [rule_unique hrule hother (hmetric.symm.trans this)]
        · intro heval
          exact ⟨⟨latest, rfl, rule, hrule, heval⟩, metric_of_evaluateRule heval⟩
      simp only [heq]
      exact hraised.of_perm hordered.perm

/-- Two minutes of load on the processor, with a sample every seven seconds. -/
def steadyLoad : List TelemetryLoadSample :=
  (List.range 19).map fun n => ⟨seconds (7 * n), some 9900, none, none⟩

theorem evaluateTelemetryThresholds_steadyLoad :
    evaluateTelemetryThresholds steadyLoad.reverse = evaluateTelemetryThresholds steadyLoad ∧
      evaluateTelemetryThresholds steadyLoad =
        [⟨.cpu, .critical, 9900, 9800, minutes 2, seconds 126⟩] :=
  ⟨(evaluateTelemetryThresholds_spec steadyLoad (by decide)).1 _ (List.reverse_perm _),
    by decide +kernel⟩

end

end Lxcup.Core
