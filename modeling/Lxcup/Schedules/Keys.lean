import Lxcup.Lib.Numerals
import Lxcup.Server.Producers
import Lxcup.Server.Schedules

/-!
# The keys of scheduled jobs

`scheduled_job_request` puts the id of the schedule, the id of the target and the time of the slot
into one key.  The id of a schedule is a text of its owner's choice, which may have dashes, digits
and whole UUIDs in it.  The key can be read from its end all the same: the seconds have no dash, and
the text of a UUID has one length.

## Main definitions

* `scheduleKey` — the key.
* `InCalendar` — the times from 1970 to 9999.
* `KeyAccepted` — what a request for a job asks of a key.

## Main results

* `scheduleKey_accepted` — the key of a schedule with a valid id is accepted.
* `scheduleKey_inj` — a key of a target is that of one schedule and one slot.
-/

namespace Lxcup.Schedules

open Lxcup.Lib Lxcup.Core Lxcup.Ansible Lxcup.Server

/-- The idempotency key of a run of a schedule on a target. -/
def scheduleKey (scheduleId : String) (targetId : TargetId) (slot : Timestamp) : String :=
  "schedule-" ++ scheduleId ++ "-" ++ idText targetId.uuid ++ "-" ++ toString (slot / 1000000000)

/-- The times from the year 1970 to the year 9999. -/
def InCalendar (slot : Timestamp) : Prop := 0 ≤ slot ∧ slot < 253402300800 * 1000000000

/-- The key is not blank and not too long, and no request that has it is refused because of it. -/
structure KeyAccepted (key : String) : Prop where
  notBlank : trim key.toList ≠ []
  bounded : key.utf8ByteSize ≤ 200
  accepted : ∀ request id now, (∃ job, AnsibleJob.fromRequest request id now = .ok job) →
    ∃ job, AnsibleJob.fromRequest { request with idempotencyKey := key } id now = .ok job

/-- A scheduled job has this key. -/
theorem key_of_scheduledJobRequest {store : WorkflowStore} {schedule : JobSchedule}
    {target : Target} {now : Timestamp} {request : AnsibleJobRequest}
    (h : scheduledJobRequest store schedule target now = some request) :
    request.idempotencyKey = scheduleKey schedule.id target.id schedule.nextRunAt := by
  unfold scheduledJobRequest at h
  dsimp only at h
  split at h
  · obtain rfl := Option.some.inj h
    rfl
  · obtain ⟨secret, -, rfl⟩ := Option.map_eq_some_iff.mp h
    rfl
  · simp only [Option.bind_eq_bind, Option.bind_eq_some_iff, pure, Option.some.injEq] at h
    obtain ⟨packages, -, secret, -, rfl⟩ := h
    rfl
  · cases h

/-! ### Lengths -/

theorem mem_hyphenate {widths : List Nat} {cs : List Char} {c : Char}
    (h : c ∈ Uuid.hyphenate widths cs) : c = '-' ∨ c ∈ cs := by
  induction widths generalizing cs with
  | nil => exact .inr h
  | cons width widths ih =>
    cases widths with
    | nil => exact .inr h
    | cons width' widths =>
      simp only [Uuid.hyphenate, List.mem_append, List.mem_cons] at h
      rcases h with hfront | rfl | hrest
      · exact .inr (List.mem_of_mem_take hfront)
      · exact .inl rfl
      · rcases ih hrest with hdash | hdigit
        · exact .inl hdash
        · exact .inr (List.mem_of_mem_drop hdigit)

theorem ascii_toText (uuid : Uuid) : ∀ c ∈ uuid.toText, c.val ≤ 127 := by
  intro c hc
  rcases mem_hyphenate hc with rfl | hdigit
  · decide
  · exact ascii_toHex 32 _ c hdigit

theorem utf8ByteSize_idText (uuid : Uuid) : (idText uuid).utf8ByteSize = 36 := by
  have hsize : (idText uuid).utf8ByteSize = (idText uuid).toList.length :=
    utf8ByteSize_of_ascii (by simpa [idText] using ascii_toText uuid)
  rw [hsize]
  simp [idText, Uuid.length_toText]

/-- The seconds of the slot. -/
theorem seconds_of_inCalendar {slot : Timestamp} (h : InCalendar slot) :
    0 ≤ slot / 1000000000 ∧ slot / 1000000000 < 10 ^ 12 := by
  obtain ⟨hfrom, hto⟩ := h
  have hseconds : ∀ n : Int, 0 ≤ n → n < 253402300800 * 1000000000 →
      0 ≤ n / 1000000000 ∧ n / 1000000000 < 1000000000000 := by
    intro n hfrom hto
    omega
  exact hseconds slot hfrom hto

theorem utf8ByteSize_scheduleKey_le (scheduleId : String) (targetId : TargetId) {slot : Timestamp}
    (h : InCalendar slot) :
    (scheduleKey scheduleId targetId slot).utf8ByteSize ≤ scheduleId.utf8ByteSize + 59 := by
  obtain ⟨hnonneg, hlt⟩ := seconds_of_inCalendar h
  have hsize : (toString (slot / 1000000000)).utf8ByteSize
      = (toString (slot / 1000000000)).toList.length :=
    utf8ByteSize_of_ascii (ascii_toString hnonneg)
  have hdigits := length_toString_le hnonneg (by decide) hlt
  have huuid := utf8ByteSize_idText targetId.uuid
  have hpre : "schedule-".utf8ByteSize = 9 := by rfl
  have hdash : "-".utf8ByteSize = 1 := by rfl
  unfold scheduleKey
  simp only [String.utf8ByteSize_append]
  omega

/-! ### The checks on keys -/

theorem keyAccepted_of {key : String} (hblank : trim key.toList ≠ [])
    (hsize : key.utf8ByteSize ≤ 200) : KeyAccepted key where
  notBlank := hblank
  bounded := hsize
  accepted := by
    rintro request id now ⟨job, hjob⟩
    obtain ⟨haccepts, -⟩ := AnsibleJob.fromRequest_ok.mp hjob
    refine ⟨_, AnsibleJob.fromRequest_ok.mpr ⟨?_, rfl⟩⟩
    obtain ⟨hsupports, hgrants, hlifecycle, hconfirmed, -, -⟩ :=
      validateAction_ok.mp haccepts.action
    have hlength : key.toList.length ≤ 200 := (length_le_utf8ByteSize key).trans hsize
    exact
      { parameters := haccepts.parameters
        key := ⟨hblank, hsize⟩
        mode := haccepts.mode
        action := validateAction_ok.mpr
          ⟨hsupports, hgrants, hlifecycle, hconfirmed, hblank, hlength⟩
        confirmed := haccepts.confirmed
        secrets := haccepts.secrets }

theorem utf8ByteSize_of_validateScheduleIdentity {request : CreateScheduleRequest}
    (h : validateScheduleIdentity request = .ok ()) : request.id.utf8ByteSize ≤ 128 := by
  unfold validateScheduleIdentity at h
  split at h
  · cases h
  · rename_i hid
    simp only [not_or, not_lt] at hid
    exact hid.2

/-- **The key of a schedule with a valid id is accepted.** -/
theorem scheduleKey_accepted {request : CreateScheduleRequest}
    (h : validateScheduleIdentity request = .ok ()) (targetId : TargetId) {slot : Timestamp}
    (hslot : InCalendar slot) : KeyAccepted (scheduleKey request.id targetId slot) := by
  have hid := utf8ByteSize_of_validateScheduleIdentity h
  have hsize := utf8ByteSize_scheduleKey_le request.id targetId hslot
  refine keyAccepted_of (trim_ne_nil (c := 's') ?_ (by decide)) (by omega)
  unfold scheduleKey
  simp only [String.append_assoc]
  rw [String.toList_append]
  exact List.mem_append_left _ (by decide)

/-! ### Reading keys -/

/-- **A key of a target is that of one schedule and one second.** -/
theorem scheduleKey_inj {scheduleId scheduleId' : String} {targetId : TargetId}
    {slot slot' : Timestamp} (hslot : InCalendar slot) (hslot' : InCalendar slot')
    (h : scheduleKey scheduleId targetId slot = scheduleKey scheduleId' targetId slot') :
    scheduleId = scheduleId' ∧ slot / 1000000000 = slot' / 1000000000 := by
  have hnonneg := (seconds_of_inCalendar hslot).1
  have hnonneg' := (seconds_of_inCalendar hslot').1
  have hdash : ∀ {n : Int}, 0 ≤ n → '-' ∉ (toString n).toList := by
    intro n hn hmem
    exact absurd (isDigit_of_mem_toString hn hmem) (by decide)
  have htext := congrArg String.toList h
  have hcut : "-".toList = ['-'] := by rfl
  simp only [scheduleKey, String.toList_append, hcut, List.append_assoc,
    List.singleton_append] at htext
  have htext := List.append_cancel_left htext
  simp only [← List.append_assoc] at htext
  obtain ⟨hfront, hseconds⟩ := eq_of_append_separator (hdash hnonneg) (hdash hnonneg') htext
  constructor
  · -- before the seconds there is the same text of the target in both
    exact String.toList_inj.mp (List.append_cancel_right hfront)
  · exact toString_injective_of_nonneg hnonneg hnonneg' hseconds

end Lxcup.Schedules
