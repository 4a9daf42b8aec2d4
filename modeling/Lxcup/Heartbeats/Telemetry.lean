import Lxcup.Agent.Heartbeat
import Lxcup.Lib.Lists

/-!
# Accepting the telemetry of a heartbeat

`sanitize_telemetry_window` takes telemetry as it comes and discards what cannot be used: all but
the last 32 samples, samples that are too old or ahead of their heartbeat, and values out of range.
The others are moved to the clock of the controller, rounded down to a second and sorted, and of
the samples of one second the first stays.  A summary counts what became of every sample, and gaps
in the time line are counted as missing samples.

## Main definitions

* `TelemetrySanitizationSummary`, `SampleVerdict`.
* `judgeSample` — what becomes of one sample.
* `retainSamples`, `missingSamples` — the loops over the samples.
* `sanitizeTelemetryWindow` — the function, for a heartbeat and the time it is received.
* `Accounted` — the books are in order.

## Main results

* `Retained.count` — the loop over the samples counts or keeps every one of them.
* `telemetry_accounted` — the books are in order for every heartbeat and every time.
-/

namespace Lxcup.Heartbeats

open Lxcup.Lib Lxcup.Core Lxcup.Agent

/-! ### The function -/

/-- What became of the samples of a heartbeat. -/
structure TelemetrySanitizationSummary where
  received : Nat
  accepted : Nat
  stale : Nat
  future : Nat
  outOfRange : Nat
  missingSamples : Nat
  duplicates : Nat
  truncated : Nat
  deriving DecidableEq, Repr, Inhabited

/-- `rejected`. -/
def TelemetrySanitizationSummary.rejected (summary : TelemetrySanitizationSummary) : Nat :=
  summary.stale + summary.future + summary.outOfRange + summary.duplicates + summary.truncated

/-- `MAX_SAMPLES`. -/
def maxSamples : Nat := 32

/-- What becomes of a sample. -/
inductive SampleVerdict
  | stale
  | future
  | outOfRange
  /-- It stays, at its time by the clock of the controller. -/
  | kept (sample : SystemTelemetrySample)
  deriving DecidableEq, Repr

/-- A share above one hundred per cent. -/
def exceedsRange (basisPoints : Option UInt16) : Bool := basisPoints.any fun value => value > 10000

/-- `with_nanosecond(0)`. -/
def wholeSecond (time : Timestamp) : Timestamp := time / second * second

/-- The decision on one sample, in a heartbeat sent and received at the given times. -/
def judgeSample (receivedAt sentAt : Timestamp) (sample : SystemTelemetrySample) :
    SampleVerdict :=
  let sampleAge := sentAt - sample.collectedAt
  if sampleAge > TelemetryBuffer.windowSeconds * second then .stale
  else if sampleAge < -5 * second then .future
  else if exceedsRange sample.cpuBasisPoints || exceedsRange sample.memoryBasisPoints
      || exceedsRange sample.storageBasisPoints then .outOfRange
  else .kept { sample with collectedAt := wholeSecond (receivedAt - sampleAge) }

/-- The loop over the samples, with the summary so far: the summary and the samples that stay. -/
def retainSamples (receivedAt sentAt : Timestamp) :
    TelemetrySanitizationSummary → List SystemTelemetrySample →
      TelemetrySanitizationSummary × List SystemTelemetrySample
  | summary, [] => (summary, [])
  | summary, sample :: samples =>
    match judgeSample receivedAt sentAt sample with
    | .stale => retainSamples receivedAt sentAt { summary with stale := summary.stale + 1 } samples
    | .future =>
      retainSamples receivedAt sentAt { summary with future := summary.future + 1 } samples
    | .outOfRange =>
      retainSamples receivedAt sentAt { summary with outOfRange := summary.outOfRange + 1 } samples
    | .kept sample =>
      let retained := retainSamples receivedAt sentAt summary samples
      (retained.1, sample :: retained.2)

/-- `num_milliseconds` of the time between two samples. -/
def gapMilliseconds (left right : SystemTelemetrySample) : Int :=
  (right.collectedAt - left.collectedAt).tdiv 1000000

/-- The samples that are missing between neighbours, at one every five seconds. -/
def missingSamples : List SystemTelemetrySample → Nat
  | left :: right :: rest =>
    let gap := gapMilliseconds left right
    (if gap > 7500 then ((gap + 4999).tdiv 5000 - 1).toNat else 0) + missingSamples (right :: rest)
  | _ => 0

/-- `sort_by_key`, which keeps the order of samples at the same time. -/
def sortSamples (samples : List SystemTelemetrySample) : List SystemTelemetrySample :=
  samples.insertionSort fun a b => a.collectedAt ≤ b.collectedAt

/-- The samples that are looked at, the last 32. -/
def lastSamples (heartbeat : AgentHeartbeat) : List SystemTelemetrySample :=
  heartbeat.telemetry.samples.drop (heartbeat.telemetry.samples.length - maxSamples)

/-- `sanitize_telemetry_window`: the summary, and the heartbeat afterwards. -/
def sanitizeTelemetryWindow (receivedAt : Timestamp) (heartbeat : AgentHeartbeat) :
    TelemetrySanitizationSummary × AgentHeartbeat :=
  let received := heartbeat.telemetry.samples.length
  let truncated := received - maxSamples
  let isPartial := heartbeat.telemetry.isPartial || truncated > 0
  let (summary, samples) := retainSamples receivedAt heartbeat.sentAt
    ⟨received, 0, 0, 0, 0, 0, 0, truncated⟩ (lastSamples heartbeat)
  let isPartial := isPartial || summary.stale + summary.future + summary.outOfRange > 0
  -- after the rounding samples may have one time
  let (duplicates, samples) := dedupByKey (·.collectedAt) (sortSamples samples)
  let isPartial := isPartial || duplicates > 0
  let missing := missingSamples samples
  ({ summary with duplicates, missingSamples := missing, accepted := samples.length },
    { heartbeat with telemetry := ⟨samples, isPartial || missing > 0⟩ })

/-! ### The books -/

/-- The books of a heartbeat are in order. -/
structure Accounted (heartbeat : AgentHeartbeat) (summary : TelemetrySanitizationSummary)
    (remaining : SystemTelemetryWindow) : Prop where
  /-- All samples are accounted for. -/
  received : summary.received = heartbeat.telemetry.samples.length
  /-- Every sample is accepted or rejected for one reason. -/
  balance : summary.received = summary.accepted + summary.stale + summary.future
    + summary.outOfRange + summary.duplicates + summary.truncated
  accepted : summary.accepted = remaining.samples.length
  bounded : remaining.samples.length ≤ 32
  /-- The times are strictly increasing. -/
  increasing : remaining.samples.Pairwise fun a b => a.collectedAt < b.collectedAt
  /-- The times are whole seconds. -/
  wholeSeconds : ∀ sample ∈ remaining.samples, sample.collectedAt % second = 0
  inRange : ∀ sample ∈ remaining.samples,
    ∀ value ∈ [sample.cpuBasisPoints, sample.memoryBasisPoints, sample.storageBasisPoints],
      ∀ basisPoints ∈ value, basisPoints ≤ 10000
  /-- Only the times of samples are changed. -/
  origin : ∀ sample ∈ remaining.samples, ∃ original ∈ lastSamples heartbeat,
    sample = { original with collectedAt := sample.collectedAt }
  /-- A window with losses or gaps is marked as partial, and no other is. -/
  marked : remaining.isPartial =
    (heartbeat.telemetry.isPartial || decide (summary.rejected > 0 ∨ summary.missingSamples > 0))

/-! ### The loop -/

/-- What the loop over the samples makes of a summary. -/
structure Retained (receivedAt sentAt : Timestamp) (summary : TelemetrySanitizationSummary)
    (samples : List SystemTelemetrySample)
    (result : TelemetrySanitizationSummary × List SystemTelemetrySample) : Prop where
  /-- Every sample is counted or stays. -/
  count : result.1.stale + result.1.future + result.1.outOfRange + result.2.length
    = summary.stale + summary.future + summary.outOfRange + samples.length
  /-- The other counters are left alone. -/
  frame : result.1.received = summary.received ∧ result.1.truncated = summary.truncated
  /-- What stays was judged so. -/
  origin : ∀ kept ∈ result.2, ∃ sample ∈ samples,
    judgeSample receivedAt sentAt sample = .kept kept
  /-- What was judged so stays. -/
  complete : ∀ sample ∈ samples, ∀ kept, judgeSample receivedAt sentAt sample = .kept kept →
    kept ∈ result.2

variable {receivedAt sentAt : Timestamp} {summary : TelemetrySanitizationSummary}
  {samples : List SystemTelemetrySample}

/-- A sample that is counted and not kept adds one to the counters. -/
theorem Retained.reject {sample : SystemTelemetrySample} {counted : TelemetrySanitizationSummary}
    {result : TelemetrySanitizationSummary × List SystemTelemetrySample}
    (h : Retained receivedAt sentAt counted samples result)
    (hjudge : ∀ kept, judgeSample receivedAt sentAt sample ≠ .kept kept)
    (hcount : counted.stale + counted.future + counted.outOfRange
      = summary.stale + summary.future + summary.outOfRange + 1)
    (hframe : counted.received = summary.received ∧ counted.truncated = summary.truncated) :
    Retained receivedAt sentAt summary (sample :: samples) result where
  count := by
    have hrest := h.count
    rw [List.length_cons]
    omega
  frame := ⟨h.frame.1.trans hframe.1, h.frame.2.trans hframe.2⟩
  origin := by
    intro kept hkept
    obtain ⟨original, hmem, horiginal⟩ := h.origin kept hkept
    exact ⟨original, List.mem_cons_of_mem _ hmem, horiginal⟩
  complete := by
    intro original hmem kept hkept
    rcases List.mem_cons.mp hmem with rfl | hrest
    · exact absurd hkept (hjudge kept)
    · exact h.complete original hrest kept hkept

/-- **The loop counts or keeps every sample.** -/
theorem retained_retainSamples (receivedAt sentAt : Timestamp)
    (summary : TelemetrySanitizationSummary) (samples : List SystemTelemetrySample) :
    Retained receivedAt sentAt summary samples
      (retainSamples receivedAt sentAt summary samples) := by
  induction samples generalizing summary with
  | nil => exact ⟨rfl, ⟨rfl, rfl⟩, by simp [retainSamples], by simp⟩
  | cons sample samples ih =>
    unfold retainSamples
    split
    · rename_i hjudge
      refine (ih _).reject (by simp [hjudge]) ?_ ⟨rfl, rfl⟩
      show summary.stale + 1 + summary.future + summary.outOfRange = _
      omega
    · rename_i hjudge
      refine (ih _).reject (by simp [hjudge]) ?_ ⟨rfl, rfl⟩
      show summary.stale + (summary.future + 1) + summary.outOfRange = _
      omega
    · rename_i hjudge
      refine (ih _).reject (by simp [hjudge]) ?_ ⟨rfl, rfl⟩
      show summary.stale + summary.future + (summary.outOfRange + 1) = _
      omega
    · rename_i kept hjudge
      have hrest := ih summary
      refine ⟨?_, hrest.frame, ?_, ?_⟩
      · have hcount := hrest.count
        simp only [List.length_cons]
        omega
      · intro other hother
        rcases List.mem_cons.mp hother with rfl | hmem
        · exact ⟨sample, List.mem_cons_self, hjudge⟩
        · obtain ⟨original, hmem, horiginal⟩ := hrest.origin other hmem
          exact ⟨original, List.mem_cons_of_mem _ hmem, horiginal⟩
      · intro original hmem other hother
        rcases List.mem_cons.mp hmem with rfl | hmem
        · rw [hjudge] at hother
          cases hother
          exact List.mem_cons_self
        · exact List.mem_cons_of_mem _ (hrest.complete original hmem other hother)

/-- What a sample is that stays. -/
theorem judgeSample_kept {sample kept : SystemTelemetrySample}
    (h : judgeSample receivedAt sentAt sample = .kept kept) :
    kept = { sample with
        collectedAt := wholeSecond (receivedAt - (sentAt - sample.collectedAt)) } ∧
      exceedsRange sample.cpuBasisPoints = false ∧
      exceedsRange sample.memoryBasisPoints = false ∧
      exceedsRange sample.storageBasisPoints = false := by
  unfold judgeSample at h
  dsimp only at h
  split at h
  · cases h
  split at h
  · cases h
  split at h
  · cases h
  · rename_i hrange
    simp only [Bool.or_eq_true, not_or, Bool.not_eq_true] at hrange
    exact ⟨(SampleVerdict.kept.inj h).symm, hrange.1.1, hrange.1.2, hrange.2⟩

/-- A share that is no more than one hundred per cent. -/
theorem le_of_exceedsRange {value : Option UInt16} (h : exceedsRange value = false)
    {basisPoints : UInt16} (hvalue : basisPoints ∈ value) : basisPoints ≤ 10000 := by
  rw [Option.mem_def] at hvalue
  subst hvalue
  simpa [exceedsRange] using h

theorem wholeSecond_mod (time : Timestamp) : wholeSecond time % second = 0 :=
  Int.mul_emod_left _ _

theorem mem_sortSamples {sample : SystemTelemetrySample} :
    sample ∈ sortSamples samples ↔ sample ∈ samples :=
  List.mem_insertionSort _

theorem length_sortSamples : (sortSamples samples).length = samples.length :=
  List.length_insertionSort _ _

theorem sorted_sortSamples :
    (sortSamples samples).Pairwise fun a b => a.collectedAt ≤ b.collectedAt :=
  List.pairwise_insertionSort _ _

/-! ### The result -/

/-- The summary before the loop over the samples. -/
def receivedSummary (heartbeat : AgentHeartbeat) : TelemetrySanitizationSummary :=
  ⟨heartbeat.telemetry.samples.length, 0, 0, 0, 0, 0, 0,
    heartbeat.telemetry.samples.length - maxSamples⟩

/-- The summary before duplicates are counted, and the samples that are not too old, ahead of their
time or out of range. -/
def retainedOf (receivedAt : Timestamp) (heartbeat : AgentHeartbeat) :
    TelemetrySanitizationSummary × List SystemTelemetrySample :=
  retainSamples receivedAt heartbeat.sentAt (receivedSummary heartbeat) (lastSamples heartbeat)

/-- The samples that remain, with the number of duplicates. -/
def dedupedOf (receivedAt : Timestamp) (heartbeat : AgentHeartbeat) :
    Nat × List SystemTelemetrySample :=
  dedupByKey (·.collectedAt) (sortSamples (retainedOf receivedAt heartbeat).2)

theorem retained_retainedOf (receivedAt : Timestamp) (heartbeat : AgentHeartbeat) :
    Retained receivedAt heartbeat.sentAt (receivedSummary heartbeat) (lastSamples heartbeat)
      (retainedOf receivedAt heartbeat) :=
  retained_retainSamples ..

/-- Every sample that stays is a duplicate or remains. -/
theorem count_dedupedOf (receivedAt : Timestamp) (heartbeat : AgentHeartbeat) :
    (dedupedOf receivedAt heartbeat).1 + (dedupedOf receivedAt heartbeat).2.length
      = (retainedOf receivedAt heartbeat).2.length :=
  (count_dedupByKey _).trans length_sortSamples

theorem length_lastSamples (heartbeat : AgentHeartbeat) :
    (lastSamples heartbeat).length = heartbeat.telemetry.samples.length
      - (heartbeat.telemetry.samples.length - maxSamples) :=
  List.length_drop

/-- A sample that remains is one of the last ones received, judged to stay. -/
theorem origin_of_mem_dedupedOf {heartbeat : AgentHeartbeat} {kept : SystemTelemetrySample}
    (h : kept ∈ (dedupedOf receivedAt heartbeat).2) :
    ∃ sample ∈ lastSamples heartbeat,
      judgeSample receivedAt heartbeat.sentAt sample = .kept kept :=
  (retained_retainedOf receivedAt heartbeat).origin kept
    (mem_sortSamples.mp (mem_of_mem_dedupByKey h))

/-- What the heartbeat becomes, and its summary. -/
theorem sanitizeTelemetryWindow_eq (receivedAt : Timestamp) (heartbeat : AgentHeartbeat) :
    sanitizeTelemetryWindow receivedAt heartbeat
      = ({ (retainedOf receivedAt heartbeat).1 with
            duplicates := (dedupedOf receivedAt heartbeat).1
            missingSamples := missingSamples (dedupedOf receivedAt heartbeat).2
            accepted := (dedupedOf receivedAt heartbeat).2.length },
          { heartbeat with
            telemetry := ⟨(dedupedOf receivedAt heartbeat).2,
              heartbeat.telemetry.isPartial
                || decide (heartbeat.telemetry.samples.length - maxSamples > 0)
                || decide ((retainedOf receivedAt heartbeat).1.stale
                  + (retainedOf receivedAt heartbeat).1.future
                  + (retainedOf receivedAt heartbeat).1.outOfRange > 0)
                || decide ((dedupedOf receivedAt heartbeat).1 > 0)
                || decide (missingSamples (dedupedOf receivedAt heartbeat).2 > 0)⟩ }) := by
  unfold sanitizeTelemetryWindow
  rfl

/-- The counters of the loop, from zero on. -/
theorem counted_retainedOf (receivedAt : Timestamp) (heartbeat : AgentHeartbeat) :
    (retainedOf receivedAt heartbeat).1.stale + (retainedOf receivedAt heartbeat).1.future
        + (retainedOf receivedAt heartbeat).1.outOfRange
        + (retainedOf receivedAt heartbeat).2.length = (lastSamples heartbeat).length ∧
      (retainedOf receivedAt heartbeat).1.received = heartbeat.telemetry.samples.length ∧
      (retainedOf receivedAt heartbeat).1.truncated
        = heartbeat.telemetry.samples.length - maxSamples := by
  obtain ⟨hcount, ⟨hreceived, htruncated⟩, -, -⟩ := retained_retainedOf receivedAt heartbeat
  simp only [receivedSummary, Nat.zero_add] at hcount
  exact ⟨hcount, hreceived, htruncated⟩

theorem length_dedupedOf_le (receivedAt : Timestamp) (heartbeat : AgentHeartbeat) :
    (dedupedOf receivedAt heartbeat).2.length ≤ 32 := by
  have hcount := (counted_retainedOf receivedAt heartbeat).1
  have hdeduped := count_dedupedOf receivedAt heartbeat
  have hlast := length_lastSamples heartbeat
  have hbound : maxSamples = 32 := rfl
  omega

/-- The shares of a sample that stays. -/
theorem inRange_of_judgeSample {sample kept : SystemTelemetrySample}
    (h : judgeSample receivedAt sentAt sample = .kept kept) :
    ∀ value ∈ [kept.cpuBasisPoints, kept.memoryBasisPoints, kept.storageBasisPoints],
      ∀ basisPoints ∈ value, basisPoints ≤ 10000 := by
  intro value hvalue basisPoints hbasis
  obtain ⟨rfl, hcpu, hmemory, hstorage⟩ := judgeSample_kept h
  simp only [List.mem_cons, List.not_mem_nil, or_false] at hvalue
  rcases hvalue with rfl | rfl | rfl
  · exact le_of_exceedsRange hcpu hbasis
  · exact le_of_exceedsRange hmemory hbasis
  · exact le_of_exceedsRange hstorage hbasis

/-- **The telemetry of every heartbeat is accounted for**, whenever it is received. -/
theorem telemetry_accounted (receivedAt : Timestamp) (heartbeat : AgentHeartbeat) :
    Accounted heartbeat (sanitizeTelemetryWindow receivedAt heartbeat).1
      (sanitizeTelemetryWindow receivedAt heartbeat).2.telemetry := by
  obtain ⟨hcount, hreceived, htruncated⟩ := counted_retainedOf receivedAt heartbeat
  have hdeduped := count_dedupedOf receivedAt heartbeat
  rw [sanitizeTelemetryWindow_eq]
  refine
    { received := hreceived
      balance := ?_
      accepted := rfl
      bounded := length_dedupedOf_le receivedAt heartbeat
      increasing := pairwise_dedupByKey sorted_sortSamples
      wholeSeconds := ?_
      inRange := ?_
      origin := ?_
      marked := ?_ }
  · have hlast := length_lastSamples heartbeat
    dsimp only
    omega
  · intro sample hsample
    obtain ⟨original, -, hkept⟩ := origin_of_mem_dedupedOf hsample
    rw [(judgeSample_kept hkept).1]
    exact wholeSecond_mod _
  · intro sample hsample
    obtain ⟨original, -, hkept⟩ := origin_of_mem_dedupedOf hsample
    exact inRange_of_judgeSample hkept
  · intro sample hsample
    obtain ⟨original, hmem, hkept⟩ := origin_of_mem_dedupedOf hsample
    exact ⟨original, hmem, by rw [(judgeSample_kept hkept).1]⟩
  · -- a loss is a truncation, a rejection in the loop or a duplicate
    unfold TelemetrySanitizationSummary.rejected
    dsimp only
    rw [htruncated]
    cases heartbeat.telemetry.isPartial with
    | true => rfl
    | false =>
      rw [Bool.eq_iff_iff]
      simp only [Bool.false_or, Bool.or_eq_true, decide_eq_true_eq]
      omega

end Lxcup.Heartbeats
