import Lxcup.Core.Ids

/-!
# Commands of the agent

The wire types between the controller and the agent, and the checks on package and
version texts that both sides make.

## Main definitions

* `AgentPlatform`, `AgentAction`, `AgentCommandRequest`, `AgentCommandResponse`,
  `AgentWorkflowCommand`.
* `safePackage`, `safeWingetId`, `validAgentVersion`, `safeAgentVersion`, `safeDetail`.

## Main results

* `safePackage_of_safeWingetId` — exact ids of `winget` are safe on a command line.
-/

namespace Lxcup.Agent

open Lxcup.Lib Lxcup.Core

/-- The platform an agent runs on. -/
inductive AgentPlatform
  | linux | windows
  deriving DecidableEq, Repr, Inhabited

/-- What an agent can be told to do. -/
inductive AgentAction
  | scan | apply | health | updateAgent
  deriving DecidableEq, Repr, Inhabited

/-- A command over the agent's own HTTP interface. -/
structure AgentCommandRequest where
  action : AgentAction
  packages : List String
  idempotencyKey : String
  deriving DecidableEq, Repr, Inhabited

/-- The outcome of a command. -/
structure AgentCommandResponse where
  requestId : Uuid
  success : Bool
  exitCode : Int
  stdout : String
  stderr : String
  rebootRequired : Bool
  durationMs : Nat
  deriving DecidableEq, Repr, Inhabited

/-- A task that a Windows agent has claimed over its outbound connection. -/
structure AgentWorkflowCommand where
  jobId : Uuid
  action : AgentAction
  packages : List String
  agentVersion : Option String
  deriving DecidableEq, Repr, Inhabited

/-! ### Texts -/

/-- ASCII digits. -/
def isAsciiDigit (c : Char) : Bool := 48 ≤ c.toNat && c.toNat ≤ 57

/-- ASCII letters and digits. -/
def isAsciiAlphanumeric (c : Char) : Bool :=
  isAsciiDigit c || (65 ≤ c.toNat && c.toNat ≤ 90) || (97 ≤ c.toNat && c.toNat ≤ 122)

/-- The parts of a text between the occurrences of a character. -/
def splitOn (sep : Char) : List Char → List (List Char)
  | [] => [[]]
  | c :: cs =>
    if c = sep then [] :: splitOn sep cs
    else
      match splitOn sep cs with
      | [] => [[c]]
      | part :: parts => (c :: part) :: parts

/-- `safe_package`: what may be put on a package manager's command line. -/
def safePackage (value : String) : Bool :=
  value.toList ≠ [] && value.utf8ByteSize ≤ 128
    && value.toList.all (fun c => isAsciiAlphanumeric c || c ∈ ".+_:@/-".toList)
    && value.toList.head? ≠ some '-'

/-- The loop of `safe_winget_id`: whether the current segment has a character yet, `none` once
a character is refused. -/
def wingetSegments : Bool → List Char → Option Bool
  | hasCharacter, [] => some hasCharacter
  | hasCharacter, c :: cs =>
    if c = '.' ∧ hasCharacter then wingetSegments false cs
    else if isAsciiAlphanumeric c || c ∈ "-_+".toList then wingetSegments true cs
    else none

/-- `safe_winget_id`: exact package ids of `winget`. -/
def safeWingetId (value : String) : Bool :=
  if value.toList = [] ∨ value.utf8ByteSize > 128 ∨ value.toList.head? = some '-' then false
  else
    match wingetSegments false value.toList with
    | some hasCharacter => hasCharacter && value.toList.contains '.'
    | none => false

/-- A version component: digits, and at least one. -/
def isNumeric (part : List Char) : Bool := part ≠ [] && part.all isAsciiDigit

/-- `valid_agent_version`, the check when a job is handed to a Windows agent. -/
def validAgentVersion (version : String) : Bool :=
  (splitOn '.' version.toList).length = 3 && (splitOn '.' version.toList).all isNumeric
    && version.utf8ByteSize ≤ 50

/-- The parts of a text before and after the first occurrence of a character. -/
def splitOnce (sep : Char) : List Char → Option (List Char × List Char)
  | [] => none
  | c :: cs => if c = sep then some ([], cs) else (splitOnce sep cs).map fun p => (c :: p.1, p.2)

/-- `safe_agent_version`, the check of the agent: three numeric components and an optional
prerelease part. -/
def safeAgentVersion (version : String) : Bool :=
  let parts := (splitOnce '-' version.toList).getD (version.toList, [])
  version.utf8ByteSize ≤ 50
    && (splitOn '.' parts.1).length = 3 && (splitOn '.' parts.1).all isNumeric
    && parts.2.all fun c => isAsciiAlphanumeric c || c = '.' || c = '-'

/-- `safe_detail`: one line of at most 240 characters. -/
def safeDetail (value : String) : String :=
  String.ofList ((value.toList.map fun c => if c = '\r' ∨ c = '\n' then ' ' else c).take 240)

/-! ### Ids of packages -/

/-- Ids of packages are made of characters that are safe on a command line. -/
theorem safe_of_wingetSegments {started finished : Bool} {cs : List Char}
    (h : wingetSegments started cs = some finished) :
    ∀ c ∈ cs, (isAsciiAlphanumeric c || c ∈ ".+_:@/-".toList) = true := by
  induction cs generalizing started with
  | nil => simp
  | cons c cs ih =>
    intro d hd
    rw [wingetSegments] at h
    rcases List.mem_cons.mp hd with rfl | hd
    · split at h
      · rename_i hdot
        rw [hdot.1]
        decide
      · split at h
        · rename_i hsafe
          simp only [Bool.or_eq_true, decide_eq_true_eq] at hsafe ⊢
          rcases hsafe with halnum | hmark
          · exact .inl halnum
          · right
            change d ∈ ['-', '_', '+'] at hmark
            simp only [List.mem_cons, List.not_mem_nil, or_false] at hmark
            rcases hmark with rfl | rfl | rfl <;> decide
        · cases h
    · split at h
      · exact ih h d hd
      · split at h
        · exact ih h d hd
        · cases h

/-- Exact ids of `winget` may stand on a command line. -/
theorem safePackage_of_safeWingetId {value : String} (h : safeWingetId value = true) :
    safePackage value = true := by
  unfold safeWingetId at h
  split at h
  · cases h
  · rename_i hshape
    simp only [not_or, Nat.not_lt] at hshape
    obtain ⟨hne, hsize, hhead⟩ := hshape
    split at h
    · rename_i hasCharacter hsegments
      have hsafe := safe_of_wingetSegments hsegments
      simp only [safePackage, Bool.and_eq_true, decide_eq_true_eq, List.all_eq_true]
      exact ⟨⟨⟨hne, hsize⟩, hsafe⟩, hhead⟩
    · cases h

/-- The agent's check passes over a command for exact ids. -/
theorem any_not_safePackage {packages : List String}
    (h : ∀ package ∈ packages, safeWingetId package = true) :
    (packages.any fun package => !safePackage package) = false := by
  rw [List.any_eq_false]
  intro package hpackage
  rw [safePackage_of_safeWingetId (h package hpackage)]
  decide

end Lxcup.Agent
