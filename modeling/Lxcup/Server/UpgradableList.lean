import Lxcup.Apt.Texts
import Lxcup.Server.Inventory

/-!
# Reading a listing of upgradable packages

The agent takes each line of `apt list --upgradable` apart and writes a record of it, the
server splits the records at blank lines and colons.  No character of a Debian name or version
is taken for a separator on the way.  Whether an update is a security update is told from the
whole line, so that a package with `security` in its name is taken for one.

## Main definitions

* `isDebianVersion`, `AptList` — listings of well-formed lines below a heading.
* `AptLine.Mentions` — a word occurs in a line outside its suites.
* `StandsFor` — a record has the name, the versions and the classification of a line.

## Main results

* `parseOutput_normalizeAptList` — the records of a listing.
* `standsFor_iff` — the records stand for the lines if and only if no line of another suite
  mentions `security`.
* `support_package_misread` — a package that is taken for a security update.
-/

namespace Lxcup.Server

open Lxcup.Lib Lxcup.Core Lxcup.Agent Lxcup.Apt

/-! ### Listings with a heading -/

/-- The characters of Debian versions, with a colon only behind a numeric epoch. -/
def isDebianVersion (version : String) : Bool :=
  version.toList ≠ [] && version.toList.all (fun c => isAsciiAlphanumeric c || c ∈ ".+-~:".toList)
    && match splitOnce ':' version.toList with
      | some (epoch, _) => isNumeric epoch
      | none => true

/-- An output of `apt list --upgradable`: a heading that begins with `Listing`, and lines of
packages with Debian versions. -/
structure AptList where
  heading : String
  lines : List AptLine
  headingLine : '\n' ∉ heading.toList
  versions : ∀ line ∈ lines,
    isDebianVersion line.candidate.value = true ∧ isDebianVersion line.installed.value = true

/-- The output as `apt` prints it. -/
def AptList.text (list : AptList) : String :=
  String.ofList ("Listing".toList ++ list.heading.toList
    ++ '\n' :: list.lines.flatMap fun line => line.text.toList ++ ['\n'])

/-- The text has the word `security` in it. -/
def mentionsSecurity (text : String) : Bool := (splitAtText "security".toList text.toList).isSome

namespace AptLine

/-- The word `security` occurs in a field other than the suites. -/
def MentionsElsewhere (line : AptLine) : Prop :=
  mentionsSecurity line.name.value ∨ mentionsSecurity line.candidate.value
    ∨ mentionsSecurity line.arch ∨ mentionsSecurity line.installed.value

instance (line : AptLine) : Decidable line.MentionsElsewhere := by
  unfold MentionsElsewhere
  infer_instance

/-- The record of a line, given whether it is taken for a security update. -/
def record (line : AptLine) (security : Bool) : AptPackageRecord where
  package := line.name.value
  installedVersion := line.installed.value
  candidateVersion := some line.candidate.value
  classification := if security then .security else .normal
  held := false
  authenticated := true

/-- What the agent writes for a line. -/
def entry (line : AptLine) : List Char :=
  "Package: ".toList ++ line.name.value.toList ++ "\nInstalled: ".toList
    ++ line.installed.value.toList ++ "\nCandidate: ".toList ++ line.candidate.value.toList
    ++ "\nSecurity: ".toList ++ (if mentionsSecurity line.text then "yes" else "no").toList
    ++ "\nHeld: no\nAuthenticated: yes".toList

end AptLine

/-- The record has the name and the versions of the line, and is a security update if and only
if the line has a security suite. -/
def StandsFor (record : AptPackageRecord) (line : AptLine) : Prop :=
  record.package = line.name.value ∧ record.installedVersion = line.installed.value
    ∧ record.candidateVersion = some line.candidate.value
    ∧ record.classification = if mentionsSecurity line.suite then .security else .normal

/-! ### Characters of the fields -/

theorem not_mem_of_all {p : Char → Bool} {c : Char} {cs : List Char} (h : cs.all p = true)
    (hc : p c = false) : c ∉ cs := by
  intro hmem
  rw [List.all_eq_true.mp h c hmem] at hc
  cases hc

theorem not_mem_of_isWhitespace {c : Char} {cs : List Char}
    (h : ∀ d ∈ cs, isWhitespace d = false) (hc : isWhitespace c = true) : c ∉ cs := by
  intro hmem
  rw [h c hmem] at hc
  cases hc

theorem isWord_iff {text : String} :
    isWord text = true ↔ text.toList ≠ [] ∧ ∀ c ∈ text.toList, isWhitespace c = false := by
  simp [isWord]

theorem marker_eq : "[upgradable from: ".toList = '[' :: "upgradable from: ".toList := rfl

/-- The marker does not begin in a version. -/
theorem not_mem_of_isDebianVersion {version : String} (h : isDebianVersion version = true) :
    '[' ∉ version.toList := by
  simp only [isDebianVersion, Bool.and_eq_true] at h
  exact not_mem_of_all h.1.2 (by decide)

/-- The epoch of a version is not the end of the marker. -/
theorem not_prefix_of_isDebianVersion {version : String} (hword : isWord version = true)
    (h : isDebianVersion version = true) (b : List Char) :
    ¬ "from: ".toList <+: version.toList ++ ' ' :: b := by
  have hblank : ' ' ∉ version.toList :=
    not_mem_of_isWhitespace (isWord_iff.mp hword).2 (by decide)
  intro hprefix
  have heq := ((prefix_append_cons_iff (u := "from:".toList) (by decide) hblank [] b).mp hprefix).1
  rw [← String.ext heq] at h
  exact absurd h (by decide)

namespace AptLine

variable (line : AptLine)

theorem name_ne_nil : line.name.value.toList ≠ [] := by
  intro hnil
  exact line.name.notBlank (by rw [hnil]; rfl)

theorem isWhitespace_name : ∀ c ∈ line.name.value.toList, isWhitespace c = false := by
  simpa using line.name.noWhitespace

/-- The first word of a line. -/
theorem isWhitespace_first :
    ∀ c ∈ line.name.value.toList ++ '/' :: line.suite.toList, isWhitespace c = false := by
  intro c hc
  rcases List.mem_append.mp hc with hname | hsuite
  · exact line.isWhitespace_name c hname
  · rcases List.mem_cons.mp hsuite with rfl | hsuite
    · decide
    · exact (isWord_iff.mp line.suiteWord).2 c hsuite

theorem toList_text : line.text.toList
    = (line.name.value.toList ++ '/' :: line.suite.toList) ++ ' ' :: (line.candidate.value.toList
      ++ ' ' :: (line.arch.toList ++ ' ' :: ("[upgradable from: ".toList
        ++ (line.installed.value.toList ++ [']'])))) := by
  simp [text, String.toList_append]

/-- A line has no line ends and no white space at its own ends. -/
theorem not_mem_text : '\n' ∉ line.text.toList := by
  have hfirst := not_mem_of_isWhitespace line.isWhitespace_first (c := '\n') (by decide)
  have hcandidate := not_mem_of_isWhitespace (isWord_iff.mp line.candidateWord).2 (c := '\n')
    (by decide)
  have harch := not_mem_of_isWhitespace (isWord_iff.mp line.archWord).2 (c := '\n') (by decide)
  have hinstalled := not_mem_of_isWhitespace (isWord_iff.mp line.installedWord).2 (c := '\n')
    (by decide)
  rw [List.mem_append, not_or] at hfirst
  rw [toList_text]
  simp [hfirst.1, hcandidate, harch, hinstalled]
  simpa using hfirst.2

theorem getLast?_text : line.text.toList.getLast? = some ']' := by
  rw [toList_text]
  simp [List.getLast?_append, List.getLast?_cons]

theorem head?_text : line.text.toList.head? = line.name.value.toList.head? := by
  rw [toList_text, List.append_assoc, List.head?_append_of_ne_nil _ line.name_ne_nil]

theorem trim_text : trim line.text.toList = line.text.toList := by
  refine trim_eq_self (fun c hc => ?_) fun c hc => ?_
  · rw [head?_text] at hc
    exact line.isWhitespace_name c (List.mem_of_mem_head? hc)
  · rw [getLast?_text, Option.mem_some_iff] at hc
    subst hc
    decide

/-- A line is no heading: names have no capitals. -/
theorem stripPrefix_text : stripPrefix "Listing".toList line.text.toList = none := by
  rw [stripPrefix_eq_none]
  rintro ⟨rest, hrest⟩
  have hhead : some 'L' = line.name.value.toList.head? := by
    rw [← head?_text, ← hrest]
    rfl
  exact not_mem_of_all line.nameChars (c := 'L') (by decide) (List.mem_of_mem_head? hhead.symm)

theorem splitOnce_text : ∃ rest,
    splitOnce '/' line.text.toList = some (line.name.value.toList, rest) := by
  have hname : '/' ∉ line.name.value.toList := not_mem_of_all line.nameChars (by decide)
  rw [toList_text, List.append_assoc, List.cons_append]
  exact ⟨_, splitOnce_append hname _⟩

theorem words_text : (words line.text.toList)[1]? = some line.candidate.value.toList := by
  have hfirst : line.name.value.toList ++ '/' :: line.suite.toList ≠ [] := by simp
  obtain ⟨hne, hcandidate⟩ := isWord_iff.mp line.candidateWord
  have hblank : isWhitespace ' ' = true := by decide
  rw [toList_text, words_append hblank, words_append hblank,
    words_eq_singleton hfirst line.isWhitespace_first, words_eq_singleton hne hcandidate]
  rfl

/-- The marker does not begin in the architecture, whatever that is. -/
theorem splitAtText_arch (rest : List Char) :
    splitAtText "[upgradable from: ".toList
        (line.arch.toList ++ ' ' :: ("[upgradable from: ".toList ++ rest))
      = some (line.arch.toList ++ [' '], rest) := by
  have harch : ' ' ∉ line.arch.toList :=
    not_mem_of_isWhitespace (isWord_iff.mp line.archWord).2 (by decide)
  have hnext : ¬ "from: ".toList <+: "[upgradable from: ".toList ++ rest := by
    rintro ⟨front, hfront⟩
    cases hfront
  have hwords : "[upgradable from: ".toList = "[upgradable".toList ++ ' ' :: "from: ".toList := rfl
  have hskip := @splitAtText_skip_word ' ' "[upgradable".toList _ _ _ (by decide) harch hnext
  rw [← hwords, splitAtText_append _ _ (by decide)] at hskip
  exact hskip

/-- **The first marker of a line is the one before the installed version.** -/
theorem splitAtText_text (hversion : isDebianVersion line.candidate.value = true) :
    ∃ front, splitAtText "[upgradable from: ".toList line.text.toList
      = some (front, line.installed.value.toList ++ [']']) := by
  have hfirst : ' ' ∉ line.name.value.toList ++ '/' :: line.suite.toList :=
    not_mem_of_isWhitespace line.isWhitespace_first (by decide)
  have hcandidate : '[' ∉ line.candidate.value.toList ++ [' '] := by
    simpa using not_mem_of_isDebianVersion hversion
  have hskip := @splitAtText_skip '[' "upgradable from: ".toList _ hcandidate
    (line.arch.toList ++ ' ' :: ("[upgradable from: ".toList
      ++ (line.installed.value.toList ++ [']'])))
  rw [← marker_eq, splitAtText_arch, List.append_assoc, List.singleton_append] at hskip
  have hword := @splitAtText_skip_word ' ' "[upgradable".toList _ _ _ (by decide) hfirst
    (not_prefix_of_isDebianVersion line.candidateWord hversion (line.arch.toList ++ ' ' ::
      ("[upgradable from: ".toList ++ (line.installed.value.toList ++ [']']))))
  have hwords : "[upgradable from: ".toList = "[upgradable".toList ++ ' ' :: "from: ".toList := rfl
  rw [← hwords, hskip] at hword
  rw [toList_text, hword]
  exact ⟨_, rfl⟩

/-- **What the agent writes for a line.** -/
theorem aptEntry_text (hcandidate : isDebianVersion line.candidate.value = true)
    (hinstalled : isDebianVersion line.installed.value = true) :
    aptEntry line.text.toList = some line.entry := by
  obtain ⟨rest, hname⟩ := line.splitOnce_text
  obtain ⟨front, hmarker⟩ := line.splitAtText_text hcandidate
  have hopen : '[' ∉ line.installed.value.toList ++ [']'] := by
    simpa using not_mem_of_isDebianVersion hinstalled
  have hlast : splitAtText "[upgradable from: ".toList (line.installed.value.toList ++ [']'])
      = none := by
    rw [marker_eq]
    exact splitAtText_eq_none hopen
  have hclosed : ((line.installed.value.toList ++ [']']).reverse.dropWhile (· = ']')).reverse
      = line.installed.value.toList := by
    have hkept : line.installed.value.toList.reverse.dropWhile (· = ']')
        = line.installed.value.toList.reverse := by
      refine dropWhile_eq_self fun c hc => decide_eq_false ?_
      rintro rfl
      exact line.installedClosed (List.mem_reverse.mp (List.mem_of_mem_head? hc))
    rw [List.reverse_append, List.reverse_singleton, List.singleton_append,
      List.dropWhile_cons_of_pos (by decide), hkept, List.reverse_reverse]
  have hheading : ¬ (line.text.toList = [] ∨
      (stripPrefix "Listing".toList line.text.toList).isSome) := by
    rw [stripPrefix_text, not_or]
    refine ⟨fun hnil => ?_, by simp⟩
    have hend := line.getLast?_text
    rw [hnil] at hend
    cases hend
  unfold aptEntry
  dsimp only
  rw [trim_text, if_neg hheading, hname, words_text, hmarker]
  simp only [Option.bind_eq_bind, Option.bind_some]
  rw [hlast]
  simp only [Option.map_none, Option.getD_none]
  rw [hclosed]
  rfl

/-! ### Reading an entry -/

/-- A line of an entry. -/
def field (key : String) (value : List Char) : List Char := key.toList ++ (": ".toList ++ value)

/-- The lines of an entry. -/
def entryLines : List (List Char) :=
  [field "Package" line.name.value.toList, field "Installed" line.installed.value.toList,
    field "Candidate" line.candidate.value.toList,
    field "Security" (if mentionsSecurity line.text then "yes" else "no").toList,
    field "Held" "no".toList, field "Authenticated" "yes".toList]

theorem entry_eq : line.entry = ['\n'].intercalate line.entryLines := by
  have hpackage : "Package: ".toList = "Package".toList ++ ": ".toList := rfl
  have hinstalled : "\nInstalled: ".toList = ['\n'] ++ ("Installed".toList ++ ": ".toList) := rfl
  have hcandidate : "\nCandidate: ".toList = ['\n'] ++ ("Candidate".toList ++ ": ".toList) := rfl
  have hsecurity : "\nSecurity: ".toList = ['\n'] ++ ("Security".toList ++ ": ".toList) := rfl
  have hflags : "\nHeld: no\nAuthenticated: yes".toList = ['\n'] ++ ("Held".toList ++ (": ".toList
      ++ ("no".toList ++ (['\n'] ++ ("Authenticated".toList ++ (": ".toList ++ "yes".toList)))))) :=
    rfl
  unfold entry entryLines
  generalize (if mentionsSecurity line.text then "yes" else "no").toList = security
  rw [hpackage, hinstalled, hcandidate, hsecurity, hflags]
  simp only [field, List.intercalate_cons_cons, List.intercalate_singleton, List.append_assoc]

theorem isLine_field {value : List Char} (key : String) (hkey : '\n' ∉ key.toList)
    (hne : value ≠ []) (h : ∀ c ∈ value, isWhitespace c = false) : IsLine (field key value) := by
  refine ⟨by simp [field], ?_, ?_⟩
  · rw [field, List.mem_append, List.mem_append, not_or, not_or]
    exact ⟨hkey, by decide, not_mem_of_isWhitespace h (by decide)⟩
  · rw [field, ← List.append_assoc, List.getLast?_append_of_ne_nil _ hne]
    intro hlast
    exact not_mem_of_isWhitespace h (c := '\r') (by decide) (List.mem_of_mem_getLast? hlast)

theorem isLine_of_mem_entryLines : ∀ l ∈ line.entryLines, IsLine l := by
  obtain ⟨hcandidate, hcandidateChars⟩ := isWord_iff.mp line.candidateWord
  obtain ⟨hinstalled, hinstalledChars⟩ := isWord_iff.mp line.installedWord
  have hflag : ∀ flag : Bool, IsLine (field "Security" (if flag then "yes" else "no").toList) := by
    intro flag
    cases flag <;>
      exact isLine_field _ (by decide) (by decide) (any_isWhitespace_eq_false.mp (by decide))
  intro l hl
  simp only [entryLines, List.mem_cons, List.not_mem_nil, or_false] at hl
  rcases hl with rfl | rfl | rfl | rfl | rfl | rfl
  · exact isLine_field _ (by decide) line.name_ne_nil line.isWhitespace_name
  · exact isLine_field _ (by decide) hinstalled hinstalledChars
  · exact isLine_field _ (by decide) hcandidate hcandidateChars
  · exact hflag _
  · exact isLine_field _ (by decide) (by decide) (any_isWhitespace_eq_false.mp (by decide))
  · exact isLine_field _ (by decide) (by decide) (any_isWhitespace_eq_false.mp (by decide))

/-- An entry is not blank. -/
theorem trim_entry : trim line.entry ≠ [] := by
  refine trim_ne_nil (c := 'P') ?_ (by decide)
  have hfield : 'P' ∈ field "Package" line.name.value.toList :=
    List.mem_append_left _ (by decide)
  rw [entry_eq, entryLines, List.intercalate_cons_cons]
  exact List.mem_append_left _ (List.mem_append_left _ hfield)

/-- **A field is split behind its key**: the colons of a version come later. -/
theorem splitOnce_field {key : String} (hkey : ':' ∉ key.toList) (value : List Char) :
    splitOnce ':' (field key value) = some (key.toList, ' ' :: value) :=
  splitOnce_append hkey (' ' :: value)

/-- The value of the `Security` field. -/
theorem parseBool_flag (flag : Bool) :
    parseBool (trim (' ' :: (if flag then "yes" else "no").toList)) = .ok flag := by
  cases flag <;> decide

theorem foldlM_entryLines : line.entryLines.foldlM Fields.read {}
    = .ok ⟨some line.name.value.toList, some line.installed.value.toList,
        some line.candidate.value.toList, mentionsSecurity line.text, false, true⟩ := by
  obtain ⟨hcandidateNe, hcandidateChars⟩ := isWord_iff.mp line.candidateWord
  have hname := trim_blank_cons line.isWhitespace_name
  have hinstalled := trim_blank_cons (isWord_iff.mp line.installedWord).2
  have hcandidate := trim_blank_cons hcandidateChars
  have hsecurity := parseBool_flag (mentionsSecurity line.text)
  have hheld : parseBool (trim (' ' :: "no".toList)) = .ok false := by decide
  have hauthenticated : parseBool (trim (' ' :: "yes".toList)) = .ok true := by decide
  have hkeys : ∀ key ∈ ["Package", "Installed", "Candidate", "Security", "Held", "Authenticated"],
      ':' ∉ key.toList ∧ String.ofList (trim key.toList) = key := by decide
  simp only [List.forall_mem_cons] at hkeys
  unfold entryLines
  generalize (if mentionsSecurity line.text then "yes" else "no").toList = flag at hsecurity
  simp only [List.foldlM_cons, List.foldlM_nil, Fields.read, splitOnce_field, hkeys, hname,
    hinstalled, hcandidate, hcandidateNe, hsecurity, hheld, hauthenticated, bind, Except.bind,
    pure, Except.pure, not_false_eq_true, if_false]

/-- **The server reads the record of a line in its entry.** -/
theorem parseBlock_entry :
    parseBlock line.entry = .ok (line.record (mentionsSecurity line.text)) := by
  obtain ⟨hinstalledNe, -⟩ := isWord_iff.mp line.installedWord
  have hkept : ∀ {value : List Char}, value ≠ [] → (some value).filter (· ≠ []) = some value := by
    intro value hne
    simp [hne]
  rw [parseBlock, entry_eq, lines_intercalate line.isLine_of_mem_entryLines, foldlM_entryLines]
  simp only [bind, Except.bind, Fields.record, hkept line.name_ne_nil, hkept hinstalledNe, pure,
    Except.pure, Option.isNone_some, Bool.not_true, Bool.or_false, Bool.false_eq_true, if_false,
    Option.map_some, String.ofList_toList, record]

/-! ### The word `security` -/

theorem mentionsSecurity_iff {text : String} :
    mentionsSecurity text = true ↔ "security".toList <:+: text.toList := isSome_splitAtText

/-- **A line mentions `security` in one of its fields**: the word does not reach over a
separator. -/
theorem mentionsSecurity_text : mentionsSecurity line.text = true
    ↔ mentionsSecurity line.suite = true ∨ line.MentionsElsewhere := by
  have hmarker : "[upgradable from: ".toList
      = "[upgradable".toList ++ ' ' :: ("from:".toList ++ [' ']) := rfl
  have hslash : '/' ∉ "security".toList := by decide
  have hblank : ' ' ∉ "security".toList := by decide
  have hclose : ']' ∉ "security".toList := by decide
  have hupgradable : ¬ "security".toList <:+: "[upgradable".toList := by decide
  have hfrom : ¬ "security".toList <:+: "from:".toList := by decide
  have hnil : ¬ "security".toList <:+: [] := by decide
  simp only [MentionsElsewhere, mentionsSecurity_iff]
  rw [toList_text, hmarker, infix_append_cons hblank, infix_append_cons hslash,
    infix_append_cons hblank, infix_append_cons hblank, List.append_assoc, List.cons_append,
    infix_append_cons hblank, List.append_assoc, List.singleton_append,
    infix_append_cons hblank, infix_append_cons hclose]
  simp only [hupgradable, hfrom, hnil, false_or, or_false]
  constructor
  · rintro ((hname | hsuite) | hcandidate | harch | hinstalled)
    · exact .inr (.inl hname)
    · exact .inl hsuite
    · exact .inr (.inr (.inl hcandidate))
    · exact .inr (.inr (.inr (.inl harch)))
    · exact .inr (.inr (.inr (.inr hinstalled)))
  · rintro (hsuite | hname | hcandidate | harch | hinstalled)
    · exact .inl (.inr hsuite)
    · exact .inl (.inl hname)
    · exact .inr (.inl hcandidate)
    · exact .inr (.inr (.inl harch))
    · exact .inr (.inr (.inr hinstalled))

end AptLine

/-! ### The listing -/

/-- The heading of a listing is no package. -/
theorem aptEntry_heading (rest : List Char) : aptEntry ("Listing".toList ++ rest) = none := by
  obtain ⟨rest', hrest'⟩ := @exists_trim_append "Listing".toList (by decide)
    (any_isWhitespace_eq_false.mp (by decide)) rest
  unfold aptEntry
  dsimp only
  rw [hrest', if_pos (.inr (by rw [stripPrefix_append]; rfl))]

theorem lines_flatMap_text (ls : List AptLine) :
    lines (ls.flatMap fun line => line.text.toList ++ ['\n'])
      = ls.map fun line => line.text.toList := by
  induction ls with
  | nil => rfl
  | cons line ls ih =>
    have hreturn : line.text.toList.getLast? ≠ some '\r' := by
      rw [line.getLast?_text]
      decide
    rw [List.flatMap_cons, List.append_assoc, List.singleton_append,
      lines_append_of_ne line.not_mem_text hreturn, ih, List.map_cons]

/-- The lines of a listing, below what is left of its heading. -/
theorem lines_text (list : AptList) : ∃ heading,
    lines list.text.toList = ("Listing".toList ++ heading)
      :: list.lines.map fun line => line.text.toList := by
  have hline : '\n' ∉ "Listing".toList ++ list.heading.toList := by
    rw [List.mem_append, not_or]
    exact ⟨by decide, list.headingLine⟩
  have htext : list.text.toList = "Listing".toList ++ list.heading.toList
      ++ '\n' :: list.lines.flatMap fun line => line.text.toList ++ ['\n'] :=
    String.toList_ofList
  rw [htext, lines_append hline, lines_flatMap_text]
  split
  · rename_i hreturn
    -- the return of the heading is behind its first word
    have hne : list.heading.toList ≠ [] := by
      intro hnil
      rw [hnil, List.append_nil] at hreturn
      exact absurd hreturn (by decide)
    exact ⟨list.heading.toList.dropLast, by rw [List.dropLast_append_of_ne_nil hne]⟩
  · exact ⟨list.heading.toList, rfl⟩

/-- **What the agent writes for a listing.** -/
theorem normalizeAptList_text (list : AptList) : (normalizeAptList list.text).toList
    = "\n\n".toList.intercalate (list.lines.map AptLine.entry) := by
  obtain ⟨heading, hlines⟩ := lines_text list
  have hentries : ∀ line ∈ list.lines, aptEntry line.text.toList = some line.entry :=
    fun line hline => line.aptEntry_text (list.versions line hline).1 (list.versions line hline).2
  have hfilter : (list.lines.map fun line => line.text.toList).filterMap aptEntry
      = list.lines.map AptLine.entry := by
    rw [List.filterMap_map, Function.comp_def, List.filterMap_congr hentries,
      List.filterMap_eq_map']
  have htext : (normalizeAptList list.text).toList
      = "\n\n".toList.intercalate ((lines list.text.toList).filterMap aptEntry) :=
    String.toList_ofList
  rw [htext, hlines, List.filterMap_cons_none (aptEntry_heading heading), hfilter]

/-- **What the server reads in the listing of the agent**: one record for each line, which is a
security update if and only if its line has the word `security` anywhere. -/
theorem parseOutput_normalizeAptList (list : AptList) :
    parseOutput (normalizeAptList list.text)
      = .ok (list.lines.map fun line => line.record (mentionsSecurity line.text)) := by
  have hblocks : ∀ ls : List AptLine, (splitOnText "\n\n".toList 0
      ("\n\n".toList.intercalate (ls.map AptLine.entry))).filter (fun block => trim block ≠ [])
        = ls.map AptLine.entry := by
    intro ls
    cases ls with
    | nil => rfl
    | cons line ls =>
      rw [splitOnText_intercalate (by simp) fun block hblock => ?_, List.filter_eq_self]
      · intro block hblock
        obtain ⟨line, -, rfl⟩ := List.mem_map.mp hblock
        exact decide_eq_true line.trim_entry
      · obtain ⟨line, -, rfl⟩ := List.mem_map.mp hblock
        exact ⟨line.entryLines, by simp [AptLine.entryLines], line.isLine_of_mem_entryLines,
          line.entry_eq⟩
  have hread : ∀ ls : List AptLine, (ls.map AptLine.entry).mapM parseBlock
      = .ok (ls.map fun line => line.record (mentionsSecurity line.text)) := by
    intro ls
    induction ls with
    | nil => rfl
    | cons line ls ih =>
      rw [List.map_cons, List.mapM_cons, line.parseBlock_entry, ih]
      rfl
  rw [parseOutput, normalizeAptList_text, hblocks, hread]

/-- The record of a line stands for it unless the line of another suite mentions `security`. -/
theorem standsFor_record (line : AptLine) :
    StandsFor (line.record (mentionsSecurity line.text)) line
      ↔ (line.MentionsElsewhere → mentionsSecurity line.suite = true) := by
  have htext := line.mentionsSecurity_text
  have hclass : ∀ a b : Bool, ((if a then .security else .normal : UpdateClassification)
      = if b then .security else .normal) ↔ a = b := by decide
  simp only [StandsFor, AptLine.record, true_and, hclass]
  rw [Bool.eq_iff_iff, htext]
  constructor
  · intro h helsewhere
    exact h.mp (.inr helsewhere)
  · intro h
    refine ⟨?_, .inl⟩
    rintro (hsuite | helsewhere)
    · exact hsuite
    · exact h helsewhere

/-- **The records stand for the lines of a listing if and only if every line with `security` in
its name, its architecture or one of its versions has a security suite.** -/
theorem standsFor_iff (list : AptList) :
    (∃ records, parseOutput (normalizeAptList list.text) = .ok records
        ∧ List.Forall₂ StandsFor records list.lines)
      ↔ ∀ line ∈ list.lines, line.MentionsElsewhere → mentionsSecurity line.suite = true := by
  rw [parseOutput_normalizeAptList]
  constructor
  · rintro ⟨records, hok, hall⟩ line hmem
    obtain rfl := Except.ok.inj hok
    rw [List.forall₂_map_left_iff, List.forall₂_same] at hall
    exact (standsFor_record line).mp (hall line hmem)
  · intro hlines
    refine ⟨_, rfl, ?_⟩
    rw [List.forall₂_map_left_iff, List.forall₂_same]
    intro line hmem
    exact (standsFor_record line).mpr (hlines line hmem)

/-- The package that reports on security support, from a suite of no security updates:
`debian-security-support/stable 1:13+2025 all [upgradable from: 1:12+2023]`. -/
def supportLine : AptLine where
  name := ⟨"debian-security-support", by decide, by decide⟩
  suite := "stable"
  candidate := ⟨"1:13+2025", by decide⟩
  arch := "all"
  installed := ⟨"1:12+2023", by decide⟩
  nameChars := by decide
  suiteWord := by decide
  candidateWord := by decide
  archWord := by decide
  installedWord := by decide
  installedClosed := by decide

theorem support_package_misread :
    ¬ ∃ records, parseOutput (normalizeAptList
        (AptList.text ⟨"...", [supportLine], by decide, by decide⟩)) = .ok records
      ∧ List.Forall₂ StandsFor records [supportLine] := by
  rw [parseOutput_normalizeAptList]
  rintro ⟨records, hok, hall⟩
  obtain rfl := Except.ok.inj hok
  rw [List.forall₂_map_left_iff, List.forall₂_same] at hall
  have hsuite := (standsFor_record supportLine).mp (hall supportLine List.mem_cons_self)
    (.inl (by decide))
  exact absurd hsuite (by decide)

end Lxcup.Server
