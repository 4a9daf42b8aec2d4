import Lxcup.Heartbeats.Telemetry
import Lxcup.Lib.Table
import Mathlib.Tactic.Linarith

/-!
# One sample in two heartbeats

Every sample is reported more than once.  The controller moves its time to its own clock, by the
difference of the times at which the heartbeat was received and sent.  That is the offset of the
two clocks and the transport delay, and the delay is another one for every heartbeat.  Rounding
down to a second hides the difference of two delays only where no second begins between the two
times: a sample just before a full second can get there by one delay and not by the other.

## Main definitions

* `arrival` — when a heartbeat is received.
* `carriesOver` — the delay takes a sample into the next second.
* `Reported`, `GivenKey` — what a sample gets by a heartbeat.

## Main results

* `sameKey_iff` — a sample gets one key in two heartbeats if and only if both delays or neither take
  it into the next second.
-/

namespace Lxcup.Heartbeats

open Lxcup.Lib Lxcup.Core Lxcup.Agent

/-- When a heartbeat is received, for the offset of the two clocks and the delay of transport. -/
def arrival (heartbeat : AgentHeartbeat) (offset delay : Int) : Timestamp :=
  heartbeat.sentAt + offset + delay

/-- The delay takes the sample into the next second of the controller. -/
def carriesOver (sample : SystemTelemetrySample) (offset delay : Int) : Bool :=
  second ≤ (sample.collectedAt + offset) % second + delay

/-- The key of the row of a sample. -/
def telemetryKey (heartbeat : AgentHeartbeat) (sample : SystemTelemetrySample) :
    Uuid × Timestamp :=
  (heartbeat.targetId, sample.collectedAt)

/-- The heartbeat carries the sample and none of the guards is against it. -/
structure Reported (heartbeat : AgentHeartbeat) (sample : SystemTelemetrySample) : Prop where
  carried : sample ∈ lastSamples heartbeat
  notStale : heartbeat.sentAt - sample.collectedAt ≤ TelemetryBuffer.windowSeconds * second
  notFuture : -5 * second ≤ heartbeat.sentAt - sample.collectedAt
  inRange : (exceedsRange sample.cpuBasisPoints || exceedsRange sample.memoryBasisPoints
    || exceedsRange sample.storageBasisPoints) = false

/-- The sample gets this key, and a row of this key remains in the heartbeat. -/
structure GivenKey (receivedAt : Timestamp) (heartbeat : AgentHeartbeat)
    (sample : SystemTelemetrySample) (key : Uuid × Timestamp) : Prop where
  target : key.1 = heartbeat.targetId
  normalized : judgeSample receivedAt heartbeat.sentAt sample
    = .kept { sample with collectedAt := key.2 }
  remains : ∃ remaining ∈ (sanitizeTelemetryWindow receivedAt heartbeat).2.telemetry.samples,
    telemetryKey heartbeat remaining = key

/-! ### Keys -/

/-- Rounding a delayed time: to the second it lies in, or to the next one. -/
theorem wholeSecond_add {time delay : Int} (hdelay : 0 ≤ delay ∧ delay ≤ second) :
    wholeSecond (time + delay)
      = wholeSecond time + if second ≤ time % second + delay then second else 0 := by
  obtain ⟨hnonneg, hle⟩ := hdelay
  have hnonzero : second ≠ 0 := by decide
  have hrest : 0 ≤ time % second := Int.emod_nonneg _ hnonzero
  have hlt : time % second < second := Int.emod_lt_of_pos _ (by decide)
  have htime : second * (time / second) + time % second = time := Int.mul_ediv_add_emod ..
  have hquotient : (time + delay) / second
      = time / second + (time % second + delay) / second := by
    have hsum : time + delay = (time % second + delay) + second * (time / second) := by omega
    rw [hsum, Int.add_mul_ediv_left _ _ hnonzero, add_comm]
  unfold wholeSecond
  rw [hquotient, add_mul]
  by_cases hcarry : second ≤ time % second + delay
  · have hone : (time % second + delay) / second = 1 := by
      unfold second at *
      omega
    rw [if_pos hcarry, hone, one_mul]
  · have hzero : (time % second + delay) / second = 0 := by
      unfold second at *
      omega
    rw [if_neg hcarry, hzero, zero_mul]

/-- The time that a sample gets by a heartbeat. -/
def normalizedAt (sample : SystemTelemetrySample) (offset delay : Int) : Timestamp :=
  wholeSecond (sample.collectedAt + offset)
    + if carriesOver sample offset delay then second else 0

variable {heartbeat earlier later : AgentHeartbeat} {sample : SystemTelemetrySample}
  {offset delay delay' : Int} {receivedAt : Timestamp} {key : Uuid × Timestamp}

/-- The send time drops out: only the offset and the delay stay. -/
theorem judgeSample_of_reported (h : Reported heartbeat sample)
    (hdelay : 0 ≤ delay ∧ delay ≤ second) :
    judgeSample (arrival heartbeat offset delay) heartbeat.sentAt sample
      = .kept { sample with collectedAt := normalizedAt sample offset delay } := by
  have hmoved : arrival heartbeat offset delay - (heartbeat.sentAt - sample.collectedAt)
      = sample.collectedAt + offset + delay := by
    unfold arrival
    ring
  have htime : wholeSecond (arrival heartbeat offset delay
      - (heartbeat.sentAt - sample.collectedAt)) = normalizedAt sample offset delay := by
    rw [hmoved, wholeSecond_add hdelay]
    simp only [normalizedAt, carriesOver, decide_eq_true_eq]
  unfold judgeSample
  dsimp only
  rw [if_neg (not_lt.mpr h.notStale), if_neg (not_lt.mpr h.notFuture), h.inRange, htime]
  rfl

/-- A sample that stays has its time among those of the window. -/
theorem mem_times_of_kept {kept : SystemTelemetrySample} (hsample : sample ∈ lastSamples heartbeat)
    (hkept : judgeSample receivedAt heartbeat.sentAt sample = .kept kept) :
    ∃ remaining ∈ (sanitizeTelemetryWindow receivedAt heartbeat).2.telemetry.samples,
      remaining.collectedAt = kept.collectedAt := by
  have hmem := (retained_retainedOf receivedAt heartbeat).complete sample hsample kept hkept
  exact exists_mem_dedupByKey (mem_sortSamples.mpr hmem)

/-- **The key that a sample gets**, from its time, the offset and the delay. -/
theorem givenKey_iff (h : Reported heartbeat sample) (hdelay : 0 ≤ delay ∧ delay ≤ second) :
    GivenKey (arrival heartbeat offset delay) heartbeat sample key
      ↔ key = (heartbeat.targetId, normalizedAt sample offset delay) := by
  have hjudge := @judgeSample_of_reported _ _ offset _ h hdelay
  constructor
  · intro hgiven
    have hkept := SampleVerdict.kept.inj (hjudge.symm.trans hgiven.normalized)
    have htime : normalizedAt sample offset delay = key.2 :=
      congrArg SystemTelemetrySample.collectedAt hkept
    exact Prod.ext hgiven.target htime.symm
  · rintro rfl
    refine ⟨rfl, hjudge, ?_⟩
    obtain ⟨remaining, hmem, htime⟩ := mem_times_of_kept h.carried hjudge
    exact ⟨remaining, hmem, by rw [telemetryKey, htime]⟩

/-- **A sample gets one key in two heartbeats** of an agent if and only if both delays take it into
the next second of the controller, or neither does. -/
theorem sameKey_iff (hagent : earlier.targetId = later.targetId)
    (hearlier : Reported earlier sample) (hlater : Reported later sample)
    (hdelay : 0 ≤ delay ∧ delay ≤ second) (hdelay' : 0 ≤ delay' ∧ delay' ≤ second) :
    (∃ key, GivenKey (arrival earlier offset delay) earlier sample key ∧
        GivenKey (arrival later offset delay') later sample key) ↔
      carriesOver sample offset delay = carriesOver sample offset delay' := by
  have hpos : 0 < second := by decide
  simp only [givenKey_iff hearlier hdelay, givenKey_iff hlater hdelay', exists_eq_left, hagent,
    Prod.mk.injEq, true_and, normalizedAt]
  cases carriesOver sample offset delay <;> cases carriesOver sample offset delay' <;>
    simp [hpos.ne']

/-- A sample at nine tenths of a second of the agent. -/
def lateSample : SystemTelemetrySample :=
  ⟨900000000, some 2500, some 4000, none, some 120, some 9000, some 8000, some 77⟩

/-- The heartbeat that reports it alone, when it is sent. -/
def lateHeartbeat (sentAt : Timestamp) : AgentHeartbeat :=
  { targetId := default
    info := ⟨"agent-1", .linux, "host", "1.0.0", "1"⟩
    sentAt
    telemetry := ⟨[lateSample], false⟩
    packageInventory := none }

theorem reported_lateHeartbeat :
    Reported (lateHeartbeat 1000000000) lateSample ∧
      Reported (lateHeartbeat 31000000000) lateSample :=
  ⟨⟨by decide, by decide, by decide, by decide⟩, ⟨by decide, by decide, by decide, by decide⟩⟩

/-- Both heartbeats underway for less than a tenth of a second. -/
theorem sameKey_of_short_delays :
    ∃ key, GivenKey (arrival (lateHeartbeat 1000000000) 0 50000000) (lateHeartbeat 1000000000)
        lateSample key ∧
      GivenKey (arrival (lateHeartbeat 31000000000) 0 80000000) (lateHeartbeat 31000000000)
        lateSample key :=
  (@sameKey_iff (lateHeartbeat 1000000000) (lateHeartbeat 31000000000) _ _ _ _ rfl
    reported_lateHeartbeat.1 reported_lateHeartbeat.2 ⟨by decide, by decide⟩
    ⟨by decide, by decide⟩).mpr (by decide)

/-- **A sample with two keys**: underway for 50 ms by the one heartbeat and for 200 ms by the
other. -/
theorem two_keys_of_one_sample :
    (Reported (lateHeartbeat 1000000000) lateSample ∧
      Reported (lateHeartbeat 31000000000) lateSample) ∧
    ((sanitizeTelemetryWindow (arrival (lateHeartbeat 1000000000) 0 50000000)
      (lateHeartbeat 1000000000)).2.telemetry.samples.map (·.collectedAt) = [0] ∧
    (sanitizeTelemetryWindow (arrival (lateHeartbeat 31000000000) 0 200000000)
      (lateHeartbeat 31000000000)).2.telemetry.samples.map (·.collectedAt) = [1000000000]) :=
  ⟨reported_lateHeartbeat, by decide⟩

end Lxcup.Heartbeats
