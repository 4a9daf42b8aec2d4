import Lxcup.Agent.WorkflowRounds
import Lxcup.Apt.Texts

/-!
# Exact package ids

The server takes a package of a Windows host under its exact `winget` id, such as `Vendor.Package`.
`safe_winget_id` reads the id character by character and only remembers whether the current segment
has one yet.  What it accepts is a grammar: segments with dots between them.

The agent has a second check, `safe_package`, which it makes of every command before it is run.  It
is written for the packages of all hosts and knows no segments.

## Main definitions

* `IsWingetSegment`, `IsWingetId` — the grammar.

## Main results

* `wingetSegments_iff` — what the loop accepts from the middle of a segment on.
* `safeWingetId_grammar` — the check accepts the grammar, and the agent refuses nothing of it.
-/

namespace Lxcup.Agent

open Lxcup.Lib Lxcup.Core Lxcup.Apt

/-! ### The grammar -/

/-- A character of a segment. -/
def isSegmentChar (c : Char) : Bool := isAsciiAlphanumeric c || c ∈ ['-', '_', '+']

/-- What stands between two dots. -/
structure IsWingetSegment (segment : List Char) : Prop where
  nonempty : segment ≠ []
  chars : ∀ c ∈ segment, isSegmentChar c = true

/-- Two segments or more with dots between them, which are no option of a command and not too
long. -/
structure IsWingetId (value : String) : Prop where
  short : value.utf8ByteSize ≤ 128
  noOption : value.toList.head? ≠ some '-'
  segments : ∃ segments, 2 ≤ segments.length ∧ (∀ segment ∈ segments, IsWingetSegment segment) ∧
    value.toList = ['.'].intercalate segments

theorem IsWingetSegment.dot {segment : List Char} (h : IsWingetSegment segment) :
    '.' ∉ segment := by
  intro hdot
  exact absurd (h.chars '.' hdot) (by decide)

/-- A text that is split at its dots has a dot if it has two parts. -/
theorem dot_mem_iff {cs : List Char} : '.' ∈ cs ↔ 2 ≤ (splitOn '.' cs).length := by
  constructor
  · intro hdot
    obtain ⟨front, back, rfl, -⟩ := List.eq_append_cons_of_mem hdot
    have hfront := List.length_pos_iff.mpr (splitOn_ne_nil '.' front)
    have hback := List.length_pos_iff.mpr (splitOn_ne_nil '.' back)
    rw [splitOn_append, List.length_append]
    omega
  · intro htwo
    by_contra hdot
    rw [splitOn_eq_singleton hdot, List.length_singleton] at htwo
    omega

/-! ### The loop -/

/-- The step of the loop at a dot. -/
theorem wingetSegments_dot (started : Bool) (cs : List Char) :
    wingetSegments started ('.' :: cs) = if started then wingetSegments false cs else none := by
  cases started with
  | false =>
    rw [wingetSegments]
    simp only [Bool.false_eq_true, and_false, if_false]
    rw [if_neg (by decide)]
  | true => rw [wingetSegments, if_pos ⟨rfl, rfl⟩, if_pos rfl]

/-- The step of the loop at any other character. -/
theorem wingetSegments_char {c : Char} (hc : c ≠ '.') (started : Bool) (cs : List Char) :
    wingetSegments started (c :: cs)
      = if isSegmentChar c then wingetSegments true cs else none := by
  rw [wingetSegments, if_neg fun h => hc h.1]
  rfl

/-- The loop accepts what is left of the current segment, and whole segments behind it. -/
theorem wingetSegments_iff {started : Bool} {cs first : List Char} {rest : List (List Char)}
    (h : splitOn '.' cs = first :: rest) : wingetSegments started cs = some true ↔
      (started = true ∨ first ≠ []) ∧ (∀ c ∈ first, isSegmentChar c = true) ∧
        ∀ segment ∈ rest, IsWingetSegment segment := by
  induction cs generalizing started first rest with
  | nil =>
    obtain ⟨rfl, rfl⟩ := List.cons.inj h
    simp [wingetSegments]
  | cons c cs ih =>
    obtain ⟨part, parts, hparts⟩ := List.exists_cons_of_ne_nil (splitOn_ne_nil '.' cs)
    rw [splitOn, hparts] at h
    by_cases hc : c = '.'
    · rw [if_pos hc] at h
      obtain ⟨rfl, rfl⟩ := List.cons.inj h
      rw [hc, wingetSegments_dot]
      cases started with
      | false => simp
      | true =>
        rw [if_pos rfl, ih hparts]
        constructor
        · rintro ⟨hne, hchars, hrest⟩
          have hpart : IsWingetSegment part := ⟨by simpa using hne, hchars⟩
          exact ⟨.inl rfl, by simp, List.forall_mem_cons.mpr ⟨hpart, hrest⟩⟩
        · rintro ⟨-, -, hall⟩
          obtain ⟨hpart, hrest⟩ := List.forall_mem_cons.mp hall
          exact ⟨.inr hpart.nonempty, hpart.chars, hrest⟩
    · rw [if_neg hc] at h
      obtain ⟨rfl, rfl⟩ := List.cons.inj h
      rw [wingetSegments_char hc, List.forall_mem_cons]
      by_cases hchar : isSegmentChar c = true
      · rw [if_pos hchar, ih hparts]
        simp [hchar]
      · rw [if_neg hchar]
        simp [hchar]

/-- The loop accepts a text if all its parts are segments. -/
theorem wingetSegments_false_iff {cs : List Char} : wingetSegments false cs = some true ↔
    ∀ segment ∈ splitOn '.' cs, IsWingetSegment segment := by
  obtain ⟨first, rest, hsplit⟩ := List.exists_cons_of_ne_nil (splitOn_ne_nil '.' cs)
  rw [wingetSegments_iff hsplit, hsplit, List.forall_mem_cons]
  constructor
  · rintro ⟨hne, hchars, hrest⟩
    exact ⟨⟨by simpa using hne, hchars⟩, hrest⟩
  · rintro ⟨hfirst, hrest⟩
    exact ⟨.inr hfirst.nonempty, hfirst.chars, hrest⟩

/-! ### The two checks -/

/-- The check of the server, by the parts of the text. -/
theorem safeWingetId_eq_true {value : String} : safeWingetId value = true ↔
    value.utf8ByteSize ≤ 128 ∧ value.toList.head? ≠ some '-' ∧
      2 ≤ (splitOn '.' value.toList).length ∧
        ∀ segment ∈ splitOn '.' value.toList, IsWingetSegment segment := by
  rw [← wingetSegments_false_iff, ← dot_mem_iff]
  unfold safeWingetId
  split
  · rename_i hshape
    constructor
    · rintro ⟨⟩
    · rintro ⟨hshort, hoption, hdot, -⟩
      rcases hshape with hnil | hlong | hdash
      · rw [hnil] at hdot
        cases hdot
      · omega
      · exact absurd hdash hoption
  · rename_i hshape
    simp only [not_or, Nat.not_lt] at hshape
    cases hloop : wingetSegments false value.toList with
    | none => simp
    | some finished => simp [hshape.2.1, hshape.2.2, and_comm]

/-- The check of the server accepts the grammar. -/
theorem safeWingetId_eq_true_iff {value : String} :
    safeWingetId value = true ↔ IsWingetId value := by
  rw [safeWingetId_eq_true]
  constructor
  · rintro ⟨hshort, hoption, htwo, hall⟩
    exact ⟨hshort, hoption, splitOn '.' value.toList, htwo, hall, (intercalate_splitOn '.' _).symm⟩
  · rintro ⟨hshort, hoption, segments, htwo, hall, hjoin⟩
    have hne : segments ≠ [] := by
      rintro rfl
      simp at htwo
    rw [hjoin, splitOn_intercalate hne fun segment hsegment => (hall segment hsegment).dot, ← hjoin]
    exact ⟨hshort, hoption, htwo, hall⟩

/-- The answer of the agent to a command whose packages it refuses. -/
def invalidPackageSelection : Int × String × String := (2, "", "invalid package selection")

/-- A command for exact ids is refused by its process at most. -/
theorem workflowOutput_eq_invalid {platform : AgentPlatform} {version : String}
    {command : AgentWorkflowCommand} {outcome : HostOutcome}
    (hexact : ∀ package ∈ command.packages, safeWingetId package = true)
    (h : workflowOutput platform version command outcome = invalidPackageSelection) :
    runLocalCommand platform command.action command.packages outcome
      = invalidPackageSelection := by
  have hsafe := any_not_safePackage hexact
  unfold workflowOutput at h
  split at h
  · exact absurd h (by decide)
  · -- the answers to the check of a version
    split at h
    · exact absurd h (by decide)
    · split at h
      · exact absurd (congrArg Prod.fst h) (by simp [invalidPackageSelection])
      · exact absurd (congrArg Prod.fst h) (by simp [invalidPackageSelection])
  · split at h
    · exact absurd h (by decide)
    · rwa [if_neg (by simp [hsafe])] at h

/-- An update of exact ids is run. -/
theorem workflowOutput_apply {version : String} {command : AgentWorkflowCommand}
    (hexact : ∀ package ∈ command.packages, safeWingetId package = true)
    (hne : command.packages ≠ []) (haction : command.action = .apply) (platform : AgentPlatform)
    (outcome : HostOutcome) : workflowOutput platform version command outcome = outcome.output := by
  have hids : (command.packages.any fun package => !safeWingetId package) = false := by
    rw [List.any_eq_false]
    intro package hpackage
    rw [hexact package hpackage]
    decide
  simp only [workflowOutput, haction, any_not_safePackage hexact]
  cases platform with
  | linux => simp [runLocalCommand, runLinuxCommand, hne]
  | windows => simp [runLocalCommand, runWindowsWingetCommand, hne, hids]

/-- **The check of package ids is the grammar of segments, and the agent refuses no such id**: an
update of packages that have passed the check is run, and a command for them is refused by the
process on the host at most. -/
theorem safeWingetId_grammar :
    (∀ value, (safeWingetId value = true ↔ IsWingetId value) ∧
      (safeWingetId value = true → safePackage value = true)) ∧
    ∀ platform version command outcome,
      (∀ package ∈ command.packages, safeWingetId package = true) →
        (workflowOutput platform version command outcome = invalidPackageSelection →
          runLocalCommand platform command.action command.packages outcome
            = invalidPackageSelection) ∧
        (command.packages ≠ [] → command.action = .apply →
          workflowOutput platform version command outcome = outcome.output) := by
  refine ⟨fun value => ⟨safeWingetId_eq_true_iff, safePackage_of_safeWingetId⟩, ?_⟩
  intro platform version command outcome hexact
  refine ⟨workflowOutput_eq_invalid hexact, fun hne haction => ?_⟩
  exact workflowOutput_apply hexact hne haction platform outcome

end Lxcup.Agent
