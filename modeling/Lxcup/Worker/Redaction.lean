import Lxcup.Worker.PlaybookOutput

/-!
# No secret in the logs of the worker

The secrets of an invocation are replaced one after the other, each in the text that the ones
before have left.  A replacement removes every occurrence of its secret, and joins what stood
around it with a mark in brackets.  A secret without brackets that is no part of the word in the
mark cannot reach into a mark, so it occurs afterwards only where it occurred before: what is gone
stays gone.

## Main definitions

* `Redactable` — the secrets that a mark cannot bring back.

## Main results

* `not_infix_redactSecret` — a replacement removes its secret.
* `infix_of_infix_redactSecret` — and brings no other one back.
* `redactOutput_absent` — no secret is left in a text.
* `redactOutput_spec` — or in a log of the streams of a playbook.
-/

namespace Lxcup.Worker

open Lxcup.Lib Lxcup.Core Lxcup.Ansible Lxcup.Agent Lxcup.Apt

/-- The word in the mark. -/
def redactedWord : List Char := "REDACTED".toList

theorem redacted_eq : redacted = '[' :: (redactedWord ++ [']']) := by decide

/-- A secret that a mark cannot bring back: there are no brackets in it, and it is no part of the
word between them. -/
structure Redactable (secret : List Char) : Prop where
  opened : '[' ∉ secret
  closed : ']' ∉ secret
  word : ¬ secret <:+: redactedWord

variable {text secret other : List Char}

/-- What occurs after a replacement occurs in a part between the occurrences of the secret. -/
theorem infix_replaceText (h : Redactable other) (hne : other ≠ [])
    (hoccurs : other <:+: replaceText secret redacted text) :
    ∃ part ∈ splitOnText secret 0 text, other <:+: part := by
  rw [replaceText, redacted_eq] at hoccurs
  obtain hword | hpart := infix_intercalate_bracketed h.opened h.closed hne _ _ hoccurs
  · exact absurd hword h.word
  · exact hpart

/-- A replacement removes its secret. -/
theorem not_infix_redactSecret (h : Redactable secret) (hne : secret ≠ []) :
    ¬ secret <:+: redactSecret text secret := by
  rw [redactSecret, if_neg hne]
  intro hoccurs
  obtain ⟨part, hmem, hpart⟩ := infix_replaceText h hne hoccurs
  exact (of_mem_splitOnText hne text.length text le_rfl hmem).2 hpart

/-- A replacement brings no secret back. -/
theorem infix_of_infix_redactSecret (h : Redactable other) (hne : other ≠ [])
    (hoccurs : other <:+: redactSecret text secret) : other <:+: text := by
  rw [redactSecret] at hoccurs
  split at hoccurs
  · exact hoccurs
  · rename_i hsecret
    obtain ⟨part, hmem, hpart⟩ := infix_replaceText h hne hoccurs
    exact hpart.trans (of_mem_splitOnText hsecret text.length text le_rfl hmem).1

/-- What is gone stays gone, whatever is replaced afterwards. -/
theorem infix_of_infix_redactAll (h : Redactable other) (hne : other ≠ []) (secrets : List String)
    (hoccurs : other <:+: secrets.foldl (fun text secret => redactSecret text secret.toList) text) :
    other <:+: text := by
  induction secrets generalizing text with
  | nil => exact hoccurs
  | cons secret secrets ih => exact infix_of_infix_redactSecret h hne (ih hoccurs)

/-- After all replacements none of the secrets is left. -/
theorem not_infix_redactAll (secrets : List String) {secret : String} (hmem : secret ∈ secrets)
    (h : Redactable secret.toList) (hne : secret.toList ≠ []) :
    ¬ secret.toList <:+:
      secrets.foldl (fun text secret => redactSecret text secret.toList) text := by
  induction secrets generalizing text with
  | nil => cases hmem
  | cons first secrets ih =>
    rw [List.foldl_cons]
    obtain rfl | hmem := List.mem_cons.mp hmem
    · intro hoccurs
      exact not_infix_redactSecret h hne (infix_of_infix_redactAll h hne secrets hoccurs)
    · exact ih hmem

/-- No secret is left in a text. -/
theorem redactOutput_absent (output : String) (secrets : List (Option String)) {secret : String}
    (hmem : some secret ∈ secrets) (h : Redactable secret.toList) (hne : secret ≠ "") :
    ¬ secret.toList <:+: (redactOutput output secrets).toList := by
  rw [redactOutput, String.toList_ofList]
  refine not_infix_redactAll _ (List.mem_filterMap.mpr ⟨some secret, hmem, rfl⟩) h ?_
  rw [ne_eq, String.toList_eq_nil_iff]
  exact hne

/-- The logs of the streams of a playbook are redacted texts. -/
theorem exists_output_of_streamEvents {reader : OutputReader} {out : Output}
    {source message : String} (h : .workerLog source message ∈ streamEvents reader out) :
    ∃ output, message = reader.redact output := by
  rw [streamEvents, List.mem_filterMap] at h
  obtain ⟨⟨source, output⟩, -, hevent⟩ := h
  dsimp only at hevent
  split at hevent
  · cases hevent
  · exact ⟨output, (JobEventKind.workerLog.inj (Option.some_inj.mp hevent)).2.symm⟩

/-- **No secret occurs in a redacted output, and so neither the credential nor the agent's token of
an invocation in a log of the streams of its playbook**, as long as a mark cannot bring it back. -/
theorem redactOutput_spec (secrets : List (Option String))
    (h : ∀ secret, some secret ∈ secrets → secret ≠ "" → Redactable secret.toList) :
    ∀ secret, some secret ∈ secrets → secret ≠ "" →
      (∀ output, ¬ secret.toList <:+: (redactOutput output secrets).toList) ∧
      ∀ (context : InvocationContext) out source message, context.redactions = secrets →
        .workerLog source message ∈ streamEvents (outputReader context) out →
        ¬ secret.toList <:+: message.toList := by
  intro secret hmem hne
  have habsent : ∀ output, ¬ secret.toList <:+: (redactOutput output secrets).toList :=
    fun output => redactOutput_absent output secrets hmem (h secret hmem hne) hne
  refine ⟨habsent, fun context out source message hcontext hevent => ?_⟩
  obtain ⟨output, rfl⟩ := exists_output_of_streamEvents hevent
  subst hcontext
  exact habsent output

/-- A password and the token of an agent, in one line of output. -/
theorem redactOutput_secrets :
    ¬ "hunter2".toList <:+:
        (redactOutput "login hunter2 with 7f3a ok" [some "hunter2", none, some "7f3a"]).toList ∧
      ¬ "7f3a".toList <:+:
        (redactOutput "login hunter2 with 7f3a ok" [some "hunter2", none, some "7f3a"]).toList := by
  have hsecrets : ∀ secret, some secret ∈ [some "hunter2", none, some "7f3a"] → secret ≠ "" →
      Redactable secret.toList := by
    intro secret hmem _
    obtain rfl | rfl : secret = "hunter2" ∨ secret = "7f3a" := by simpa using hmem
    · exact ⟨by decide, by decide, by decide⟩
    · exact ⟨by decide, by decide, by decide⟩
  have hspec := redactOutput_spec [some "hunter2", none, some "7f3a"] hsecrets
  exact ⟨(hspec "hunter2" (by simp) (by decide)).1 _, (hspec "7f3a" (by simp) (by decide)).1 _⟩

end Lxcup.Worker
