import Lxcup.Apt.Texts
import Mathlib.Data.List.TakeWhile

/-!
# The summaries of a support bundle

Log messages go into a support bundle without what looks like a secret.  A message is filtered line
by line: the lines of a PEM block go, and so does a line with one of the listed words, with a user
and a password in a URL, or with something shaped like a token.  The lines that are left are joined
by blanks and cut after 500 characters.

What the filter looks for can arise again when the lines are joined and cut, and of the URLs of a
line it looks at the first one only.  Both gaps are described exactly.

## Main definitions

* `containsSensitiveMaterial`, `hasUrlUserinfo`, `isCredentialToken` — the test of a line.
* `keptLines`, `sanitizeSummary` — the filter.
* `shownLines` — the lines of a summary, the last one as far as it is shown.
* `Resurfaces`, `UrlCredentials` — what is not filtered.

## Main results

* `toList_sanitizeSummary` — a summary is its shown lines.
* `sanitizeSummary_closed_iff` — when a summary passes the test of its lines.
* `sanitizeSummary_urlCredentials_iff` — when it shows no user and password of a URL.
-/

namespace Lxcup.Server

open Lxcup.Lib Lxcup.Agent Lxcup.Apt

/-! ### The source -/

/-- `MAX_SUMMARY_CHARS`. -/
def maxSummaryChars : Nat := 500

/-- The words that a line is searched for. -/
def sensitiveMarkers : List String :=
  ["password", "passwd", "token", "secret", "api_key", "api-key", "api key", "access_key",
    "access-key", "access key", "private key", "private-key", "authorization", "bearer ",
    "-----begin"]

/-- The beginnings of a token of GitHub. -/
def githubPrefixes : List String := ["ghp_", "gho_", "ghu_", "ghs_", "ghr_", "github_pat_"]

/-- The mark before the authority of a URL. -/
def schemeMark : List Char := "://".toList

/-- A character of a token. -/
def isTokenChar (c : Char) : Bool := isAsciiAlphanumeric c || c = '_' || c = '-' || c = '.'

/-- `starts_with`, on a token. -/
def tokenStartsWith (start : String) (cs : List Char) : Bool := (stripPrefix start.toList cs).isSome

/-- Upper case letters and digits, as in the id of an access key. -/
def isKeyIdChar (c : Char) : Bool := isAsciiDigit c || (65 ≤ c.toNat && c.toNat ≤ 90)

/-- A token is ASCII, so that its bytes are its characters. -/
def isCredentialToken (token : List Char) : Bool :=
  let lower := toAsciiLowercase token
  if githubPrefixes.any fun start =>
      (stripPrefix start.toList lower).any fun suffix => suffix.length ≥ 10 then true
  else if tokenStartsWith "AKIA" token && token.length ≥ 20
      && ((token.drop 4).take 16).all isKeyIdChar then true
  else if tokenStartsWith "xox" lower || tokenStartsWith "ya29." lower then true
  else
    match splitOn '.' token with
    | [header, payload, signature] =>
      tokenStartsWith "eyJ" header && payload.length ≥ 8 && signature.length ≥ 8
        && token.all isTokenChar
    | _ => false

/-- What stands before the first character that ends an authority. -/
def urlAuthority (cs : List Char) : List Char :=
  cs.takeWhile fun c => !(['/', '?', '#', ' '].contains c)

/-- The user information of an authority has a password. -/
def hasPassword (authority : List Char) : Bool :=
  (splitOnce '@' authority).any fun parts => parts.1.contains ':'

def hasUrlUserinfo (line : List Char) : Bool :=
  let rest := ((splitAtText schemeMark line).map (·.2)).getD line
  hasPassword (urlAuthority rest)

/-- The pieces of a line that may be tokens. -/
def tokensOf (line : List Char) : List (List Char) := line.splitOnP fun c => !isTokenChar c

def containsSensitiveMaterial (line : List Char) : Bool :=
  let lower := toAsciiLowercase line
  (sensitiveMarkers.any fun marker => containsText marker.toList lower) || hasUrlUserinfo line
    || (tokensOf line).any isCredentialToken

/-- The filter of the lines, with whether a PEM block has begun. -/
def keptLines : Bool → List (List Char) → List (List Char)
  | _, [] => []
  | insidePemBlock, line :: rest =>
    let lower := toAsciiLowercase line
    if insidePemBlock then keptLines (!containsText "-----end".toList lower) rest
    else if containsText "-----begin".toList lower then keptLines true rest
    else if containsSensitiveMaterial line then keptLines false rest
    else line :: keptLines false rest

def sanitizeSummary (message : String) : String :=
  String.ofList
    (([' '].intercalate (keptLines false (lines message.toList))).take maxSummaryChars)

/-! ### What is shown -/

/-- The lines of a summary, the last one as far as it is shown. -/
def shownLines (message : String) : List (List Char) :=
  cutParts maxSummaryChars (keptLines false (lines message.toList))

/-- A summary is its shown lines. -/
theorem toList_sanitizeSummary (message : String) :
    (sanitizeSummary message).toList = [' '].intercalate (shownLines message) := by
  rw [sanitizeSummary, String.toList_ofList, take_intercalate, shownLines]

theorem not_sensitive_of_mem_keptLines {inside : Bool} {ls : List (List Char)} {line : List Char}
    (h : line ∈ keptLines inside ls) : containsSensitiveMaterial line = false := by
  induction ls generalizing inside with
  | nil => cases h
  | cons first rest ih =>
    rw [keptLines] at h
    split at h
    · exact ih h
    · split at h
      · exact ih h
      · split at h
        · exact ih h
        · rename_i hclean
          obtain rfl | hmem := List.mem_cons.mp h
          · exact Bool.not_eq_true _ ▸ hclean
          · exact ih hmem

/-- A line that passes the test. -/
theorem containsSensitiveMaterial_eq_false {line : List Char} :
    containsSensitiveMaterial line = false ↔
      (∀ marker ∈ sensitiveMarkers, ¬ marker.toList <:+: toAsciiLowercase line) ∧
        hasUrlUserinfo line = false ∧ ∀ token ∈ tokensOf line, isCredentialToken token = false := by
  simp only [containsSensitiveMaterial, Bool.or_eq_false_iff, List.any_eq_false, Bool.not_eq_true,
    ← containsText_iff, and_assoc]

/-- Every shown line is the beginning of a line that passes the test. -/
theorem exists_kept_of_mem_shownLines {message : String} {shown : List Char}
    (h : shown ∈ shownLines message) :
    ∃ line, containsSensitiveMaterial line = false ∧ shown <+: line := by
  obtain ⟨line, hmem, hbegins⟩ := exists_of_mem_cutParts h
  exact ⟨line, not_sensitive_of_mem_keptLines hmem, hbegins⟩

/-- All but the last one pass it. -/
theorem not_sensitive_of_mem_dropLast {message : String} {shown : List Char}
    (h : shown ∈ (shownLines message).dropLast) : containsSensitiveMaterial shown = false :=
  not_sensitive_of_mem_keptLines (mem_of_mem_dropLast_cutParts h)

/-! ### Words across a line break -/

/-- The words of the list that have a blank in them, before and behind it. -/
def joinedMarkers : List (List Char × List Char) :=
  [("api".toList, "key".toList), ("access".toList, "key".toList), ("private".toList, "key".toList),
    ("bearer".toList, [])]

/-- What is checked for the words of the list, and for those of these. -/
theorem checked_markers :
    (∀ marker ∈ sensitiveMarkers, marker.toList ≠ [] ∧ (' ' ∉ marker.toList ∨
      ∃ halves ∈ joinedMarkers, marker.toList = halves.1 ++ ' ' :: halves.2)) ∧
    ∀ halves ∈ joinedMarkers,
      String.ofList (halves.1 ++ ' ' :: halves.2) ∈ sensitiveMarkers ∧
        ' ' ∉ halves.1 ∧ ' ' ∉ halves.2 := by
  decide +kernel

/-- A word of the list has no blank in it, or it is one of these. -/
theorem sensitiveMarkers_blank : ∀ marker ∈ sensitiveMarkers,
    ' ' ∉ marker.toList ∨
      ∃ halves ∈ joinedMarkers, marker.toList = halves.1 ++ ' ' :: halves.2 :=
  fun marker hmarker => (checked_markers.1 marker hmarker).2

theorem joinedMarkers_listed : ∀ halves ∈ joinedMarkers,
    String.ofList (halves.1 ++ ' ' :: halves.2) ∈ sensitiveMarkers ∧
      ' ' ∉ halves.1 ∧ ' ' ∉ halves.2 :=
  checked_markers.2

theorem sensitiveMarkers_ne_nil : ∀ marker ∈ sensitiveMarkers, marker.toList ≠ [] :=
  fun marker hmarker => (checked_markers.1 marker hmarker).1

theorem toAsciiLowercase_intercalate (parts : List (List Char)) :
    toAsciiLowercase ([' '].intercalate parts) =
      [' '].intercalate (parts.map toAsciiLowercase) := by
  induction parts with
  | nil => rfl
  | cons part parts ih =>
    cases parts with
    | nil => simp
    | cons next parts =>
      rw [List.map_cons, List.map_cons, List.intercalate_cons_cons, List.intercalate_cons_cons,
        ← List.map_cons, ← ih]
      simp [toAsciiLowercase]

/-- Neighbouring lines that make one of the words of the list when they are joined. -/
def Joined (shown : List (List Char)) : Prop :=
  ∃ halves ∈ joinedMarkers, ∃ left right, [left, right] <:+: shown ∧
    halves.1 <:+ toAsciiLowercase left ∧ halves.2 <+: toAsciiLowercase right

/-- Two neighbours of a list whose elements are mapped. -/
theorem pair_infix_map {f : List Char → List Char} {parts : List (List Char)}
    {left right : List Char} : [left, right] <:+: parts.map f ↔
      ∃ a b, [a, b] <:+: parts ∧ f a = left ∧ f b = right := by
  constructor
  · rintro ⟨before, behind, heq⟩
    obtain ⟨front, back, rfl, hfront, -⟩ := List.map_eq_append_iff.mp heq.symm
    obtain ⟨first, pair, rfl, -, hpair⟩ := List.map_eq_append_iff.mp hfront
    obtain ⟨a, single, rfl, ha, hsingle⟩ := List.map_eq_cons_iff.mp hpair
    obtain ⟨b, rfl, hb⟩ := List.map_eq_singleton_iff.mp hsingle
    exact ⟨a, b, ⟨first, back, rfl⟩, ha, hb⟩
  · rintro ⟨a, b, hoccurs, rfl, rfl⟩
    exact hoccurs.map f

/-- Of lines without a word of the list, one arises exactly where neighbours make it. -/
theorem marker_infix_iff {shown : List (List Char)}
    (hclean : ∀ line ∈ shown, ∀ marker ∈ sensitiveMarkers,
      ¬ marker.toList <:+: toAsciiLowercase line) :
    (∃ marker ∈ sensitiveMarkers,
      marker.toList <:+: toAsciiLowercase ([' '].intercalate shown)) ↔ Joined shown := by
  have hpart : ∀ marker ∈ sensitiveMarkers,
      ¬ ∃ part ∈ shown.map toAsciiLowercase, marker.toList <:+: part := by
    rintro marker hmarker ⟨_, hmem, hoccurs⟩
    obtain ⟨line, hline, rfl⟩ := List.mem_map.mp hmem
    exact hclean line hline marker hmarker hoccurs
  rw [toAsciiLowercase_intercalate]
  constructor
  · rintro ⟨marker, hmarker, hoccurs⟩
    obtain hblank | ⟨halves, hhalves, heq⟩ := sensitiveMarkers_blank marker hmarker
    · rw [infix_intercalate_singleton hblank (sensitiveMarkers_ne_nil marker hmarker)] at hoccurs
      exact absurd hoccurs (hpart marker hmarker)
    · obtain ⟨-, hleft, hright⟩ := joinedMarkers_listed halves hhalves
      rw [heq, infix_intercalate_cons hleft hright, ← heq] at hoccurs
      obtain hoccurs | ⟨_, _, hpair, hsuffix, hbegins⟩ := hoccurs
      · exact absurd hoccurs (hpart marker hmarker)
      · obtain ⟨left, right, hlines, rfl, rfl⟩ := pair_infix_map.mp hpair
        exact ⟨halves, hhalves, left, right, hlines, hsuffix, hbegins⟩
  · rintro ⟨halves, hhalves, left, right, hpair, hsuffix, hbegins⟩
    obtain ⟨hlisted, hleft, hright⟩ := joinedMarkers_listed halves hhalves
    refine ⟨_, hlisted, ?_⟩
    rw [String.toList_ofList, infix_intercalate_cons hleft hright]
    exact .inr ⟨_, _, hpair.map toAsciiLowercase, hsuffix, hbegins⟩

/-! ### URLs -/

theorem schemeMark_ne_nil : schemeMark ≠ [] := by decide

theorem blank_notMem_schemeMark : ' ' ∉ schemeMark := by decide

theorem splitAtText_eq_none_iff {marker cs : List Char} :
    splitAtText marker cs = none ↔ ¬ marker <:+: cs := by
  rw [← isSome_splitAtText, Bool.not_eq_true, Option.isSome_eq_false_iff,
    Option.isNone_iff_eq_none]

theorem hasUrlUserinfo_of_some {line a b : List Char}
    (h : splitAtText schemeMark line = some (a, b)) :
    hasUrlUserinfo line = hasPassword (urlAuthority b) := by
  rw [hasUrlUserinfo, h]
  rfl

theorem hasUrlUserinfo_of_none {line : List Char} (h : splitAtText schemeMark line = none) :
    hasUrlUserinfo line = hasPassword (urlAuthority line) := by
  rw [hasUrlUserinfo, h]
  rfl

/-- A blank ends an authority. -/
theorem urlAuthority_append_blank (a b : List Char) :
    urlAuthority (a ++ ' ' :: b) = urlAuthority a :=
  before_append_cons (by decide) a b

/-- A longer text has the longer authority. -/
theorem urlAuthority_begins {a b : List Char} (h : a <+: b) :
    urlAuthority a <+: urlAuthority b :=
  before_prefix_before h

/-- What has a password still has it when it goes on. -/
theorem hasPassword_of_prefix {a b : List Char} (h : a <+: b) (hpassword : hasPassword a = true) :
    hasPassword b = true := by
  obtain ⟨rest, rfl⟩ := h
  rw [hasPassword, Option.any_eq_true] at hpassword ⊢
  obtain ⟨⟨user, host⟩, hsplit, hcolon⟩ := hpassword
  exact ⟨_, splitOnce_append_right hsplit rest, hcolon⟩

/-- Behind its mark, a line that is cut has no password that the line has not. -/
theorem hasUrlUserinfo_of_prefix {shown line : List Char} (h : shown <+: line)
    (hmark : schemeMark <:+: shown) (hclean : hasUrlUserinfo line = false) :
    hasUrlUserinfo shown = false := by
  obtain ⟨rest, rfl⟩ := h
  obtain ⟨⟨a, b⟩, hsplit⟩ := Option.isSome_iff_exists.mp (isSome_splitAtText.mpr hmark)
  rw [hasUrlUserinfo_of_some (splitAtText_append_right schemeMark_ne_nil hsplit rest)] at hclean
  rw [hasUrlUserinfo_of_some hsplit]
  by_contra hpassword
  rw [Bool.not_eq_false] at hpassword
  have hmore := hasPassword_of_prefix (urlAuthority_begins (List.prefix_append b rest)) hpassword
  rw [hclean] at hmore
  cases hmore

/-- In joined lines the first mark is that of the first line with one, and its authority ends
there. -/
theorem hasUrlUserinfo_intercalate {parts : List (List Char)}
    (hclean : ∀ part ∈ parts, schemeMark <:+: part → hasUrlUserinfo part = false)
    (hmark : schemeMark <:+: [' '].intercalate parts) :
    hasUrlUserinfo ([' '].intercalate parts) = false := by
  induction parts with
  | nil => exact absurd (List.infix_nil.mp hmark) schemeMark_ne_nil
  | cons part parts ih =>
    cases parts with
    | nil =>
      rw [List.intercalate_singleton] at hmark ⊢
      exact hclean part (by simp) hmark
    | cons next parts =>
      rw [List.intercalate_cons_cons, List.append_assoc, List.singleton_append] at hmark ⊢
      cases hsplit : splitAtText schemeMark part with
      | some halves =>
        obtain ⟨a, b⟩ := halves
        have hpart := hclean part List.mem_cons_self
          (isSome_splitAtText.mp (by rw [hsplit]; rfl))
        rw [hasUrlUserinfo_of_some hsplit] at hpart
        rw [hasUrlUserinfo_of_some (splitAtText_append_right schemeMark_ne_nil hsplit _),
          urlAuthority_append_blank, hpart]
      | none =>
        have hrest : schemeMark <:+: [' '].intercalate (next :: parts) := by
          rw [infix_append_cons blank_notMem_schemeMark] at hmark
          exact hmark.resolve_left (splitAtText_eq_none_iff.mp hsplit)
        have hskip := splitAtText_append_cons schemeMark_ne_nil blank_notMem_schemeMark hsplit
          ([' '].intercalate (next :: parts))
        obtain ⟨⟨a, b⟩, hsome⟩ := Option.isSome_iff_exists.mp (isSome_splitAtText.mpr hrest)
        have hclean := ih (fun other hother => hclean other (List.mem_cons_of_mem _ hother)) hrest
        rw [hasUrlUserinfo_of_some hsome] at hclean
        rw [hsome, Option.map_some] at hskip
        rw [hasUrlUserinfo_of_some hskip, hclean]

/-! ### The test of a summary -/

/-- What the test finds in a summary although no line had it: a word that neighbours make, a user
and a password in a single line whose mark is cut off, and a token at the end of what is shown that
is cut. -/
inductive Resurfaces (shown : List (List Char)) : Prop
  | joined (h : Joined shown)
  | userinfo {line : List Char} (h : shown = [line]) (huserinfo : hasUrlUserinfo line = true)
  | token {line token : List Char} (hline : line ∈ shown.getLast?) (htoken : token ∈ tokensOf line)
    (h : isCredentialToken token = true)

variable {message : String}

theorem marker_not_infix_of_mem_shownLines {shown : List Char} (h : shown ∈ shownLines message) :
    ∀ marker ∈ sensitiveMarkers, ¬ marker.toList <:+: toAsciiLowercase shown := by
  obtain ⟨line, hclean, hbegins⟩ := exists_kept_of_mem_shownLines h
  intro marker hmarker hoccurs
  exact (containsSensitiveMaterial_eq_false.mp hclean).1 marker hmarker
    (hoccurs.trans (hbegins.map Char.toLower).isInfix)

/-- No shown line has a user and a password behind a mark. -/
theorem hasUrlUserinfo_of_mem_shownLines {shown : List Char} (h : shown ∈ shownLines message)
    (hmark : schemeMark <:+: shown) : hasUrlUserinfo shown = false := by
  obtain ⟨line, hclean, hbegins⟩ := exists_kept_of_mem_shownLines h
  exact hasUrlUserinfo_of_prefix hbegins hmark (containsSensitiveMaterial_eq_false.mp hclean).2.1

/-- A summary has a user and a password where it is one line that has. -/
theorem hasUrlUserinfo_sanitizeSummary :
    hasUrlUserinfo ([' '].intercalate (shownLines message)) = true ↔
      ∃ line, shownLines message = [line] ∧ hasUrlUserinfo line = true := by
  have hmarked : ∀ part ∈ shownLines message, schemeMark <:+: part →
      hasUrlUserinfo part = false := fun part => hasUrlUserinfo_of_mem_shownLines
  have hkept := fun line => @not_sensitive_of_mem_dropLast message line
  generalize shownLines message = shown at hmarked hkept ⊢
  obtain _ | ⟨first, _ | ⟨second, rest⟩⟩ := shown
  · simp [hasUrlUserinfo, splitAtText, schemeMark, stripPrefix, urlAuthority, hasPassword,
      splitOnce]
  · simp
  · refine iff_of_false ?_ (by simp)
    rw [Bool.not_eq_true]
    by_cases hmark : schemeMark <:+: [' '].intercalate (first :: second :: rest)
    · exact hasUrlUserinfo_intercalate hmarked hmark
    · -- without a mark it is the beginning of the first line that is looked at
      have hfirst := (containsSensitiveMaterial_eq_false.mp (hkept first (by simp))).2.1
      rw [hasUrlUserinfo_of_none (splitAtText_eq_none_iff.mpr hmark)]
      rw [List.intercalate_cons_cons, List.append_assoc, List.singleton_append] at hmark ⊢
      rw [infix_append_cons blank_notMem_schemeMark, not_or] at hmark
      rw [hasUrlUserinfo_of_none (splitAtText_eq_none_iff.mpr hmark.1)] at hfirst
      rw [urlAuthority_append_blank, hfirst]

/-- A summary has a token where its last line has one. -/
theorem token_sanitizeSummary :
    (∃ token ∈ tokensOf ([' '].intercalate (shownLines message)), isCredentialToken token = true) ↔
      ∃ line ∈ (shownLines message).getLast?, ∃ token ∈ tokensOf line,
        isCredentialToken token = true := by
  have hkept := fun line => @not_sensitive_of_mem_dropLast message line
  generalize shownLines message = shown at hkept ⊢
  cases shown using List.reverseRecOn with
  | nil =>
    have hempty : ∀ token ∈ tokensOf [], isCredentialToken token = false := by decide
    refine iff_of_false ?_ (by simp)
    rintro ⟨token, hmem, htoken⟩
    rw [List.intercalate_nil] at hmem
    rw [hempty token hmem] at htoken
    cases htoken
  | append_singleton front last =>
    rw [List.dropLast_concat] at hkept
    rw [tokensOf, splitOnP_intercalate (by decide) (by simp), List.getLast?_concat]
    constructor
    · rintro ⟨token, hmem, htoken⟩
      obtain ⟨line, hline, hmem⟩ := List.mem_flatMap.mp hmem
      obtain hfront | hlast := List.mem_append.mp hline
      · rw [(containsSensitiveMaterial_eq_false.mp (hkept line hfront)).2.2 token hmem] at htoken
        cases htoken
      · exact ⟨line, congrArg some (List.mem_singleton.mp hlast).symm, token, hmem, htoken⟩
    · rintro ⟨line, hline, token, hmem, htoken⟩
      obtain rfl := Option.some_inj.mp hline
      exact ⟨token, List.mem_flatMap.mpr ⟨last, by simp, hmem⟩, htoken⟩

/-- **A summary passes the test of its lines unless something resurfaces when they are joined and
cut.** -/
theorem sanitizeSummary_closed_iff (message : String) :
    containsSensitiveMaterial (sanitizeSummary message).toList = false ↔
      ¬Resurfaces (shownLines message) := by
  have hmarkers := marker_infix_iff fun line hline =>
    @marker_not_infix_of_mem_shownLines message line hline
  have htokens := @token_sanitizeSummary message
  have huserinfo := @hasUrlUserinfo_sanitizeSummary message
  rw [toList_sanitizeSummary, containsSensitiveMaterial_eq_false]
  constructor
  · rintro ⟨hnone, hurl, hclean⟩ (hjoined | ⟨hline, hpassword⟩ | ⟨hline, hmem, htoken⟩)
    · obtain ⟨marker, hmarker, hoccurs⟩ := hmarkers.mpr hjoined
      exact hnone marker hmarker hoccurs
    · rw [huserinfo.mpr ⟨_, hline, hpassword⟩] at hurl
      cases hurl
    · obtain ⟨token, hmem, htoken⟩ := htokens.mpr ⟨_, hline, _, hmem, htoken⟩
      rw [hclean token hmem] at htoken
      cases htoken
  · intro hnot
    refine ⟨fun marker hmarker hoccurs => ?_, ?_, fun token hmem => ?_⟩
    · exact hnot (.joined (hmarkers.mp ⟨marker, hmarker, hoccurs⟩))
    · rw [← Bool.not_eq_true, huserinfo]
      rintro ⟨line, hline, hpassword⟩
      exact hnot (.userinfo hline hpassword)
    · rw [← Bool.not_eq_true]
      intro htoken
      obtain ⟨line, hline, token, hmem, htoken⟩ := htokens.mp ⟨token, hmem, htoken⟩
      exact hnot (.token hline hmem htoken)

/-- The two halves of "api key" on two lines are one in the summary. -/
theorem sanitizeSummary_split_marker :
    containsSensitiveMaterial (sanitizeSummary "api\nkey 5").toList = true := by
  decide +kernel

/-! ### Users and passwords of URLs -/

/-- A character of a user or of a password, where they stand for themselves. -/
def IsUserinfoChar (c : Char) : Prop := c ∉ ['/', '?', '#', '@', ' ']

/-- A text of the form `user:password@`. -/
def userAndPassword (user password : List Char) : List Char :=
  user ++ ':' :: (password ++ ['@'])

/-- A user and a password of a URL, somewhere in a text. -/
def UrlCredentials (cs : List Char) : Prop :=
  ∃ user password : List Char, user ≠ [] ∧ password ≠ [] ∧ (∀ c ∈ user, IsUserinfoChar c) ∧
    (∀ c ∈ password, IsUserinfoChar c) ∧ schemeMark ++ userAndPassword user password <:+: cs

theorem UrlCredentials.mono {a b : List Char} (h : UrlCredentials a) (hab : a <:+: b) :
    UrlCredentials b := by
  obtain ⟨user, password, huser, hpassword, huserChars, hpasswordChars, hoccurs⟩ := h
  exact ⟨user, password, huser, hpassword, huserChars, hpasswordChars, hoccurs.trans hab⟩

theorem schemeMark_eq : schemeMark = [':', '/', '/'] := by decide

theorem blank_notMem_userAndPassword {user password : List Char}
    (huser : ∀ c ∈ user, IsUserinfoChar c) (hpassword : ∀ c ∈ password, IsUserinfoChar c) :
    ' ' ∉ schemeMark ++ userAndPassword user password := by
  have huserBlank : ' ' ∉ user := fun hmem => huser ' ' hmem (by decide)
  have hpasswordBlank : ' ' ∉ password := fun hmem => hpassword ' ' hmem (by decide)
  simp [schemeMark_eq, userAndPassword, huserBlank, hpasswordBlank]

/-- They have no blank in them, and so stand in one line. -/
theorem urlCredentials_intercalate (parts : List (List Char)) :
    UrlCredentials ([' '].intercalate parts) ↔ ∃ part ∈ parts, UrlCredentials part := by
  have hone : ∀ user password : List Char, (∀ c ∈ user, IsUserinfoChar c) →
      (∀ c ∈ password, IsUserinfoChar c) →
      (schemeMark ++ userAndPassword user password <:+: [' '].intercalate parts ↔
        ∃ part ∈ parts, schemeMark ++ userAndPassword user password <:+: part) :=
    fun user password huserChars hpasswordChars => infix_intercalate_singleton
      (blank_notMem_userAndPassword huserChars hpasswordChars) (by simp [schemeMark_eq]) parts
  constructor
  · rintro ⟨user, password, huser, hpassword, huserChars, hpasswordChars, hoccurs⟩
    obtain ⟨part, hmem, hpart⟩ := (hone user password huserChars hpasswordChars).mp hoccurs
    exact ⟨part, hmem, user, password, huser, hpassword, huserChars, hpasswordChars, hpart⟩
  · rintro ⟨part, hmem, user, password, huser, hpassword, huserChars, hpasswordChars, hpart⟩
    exact ⟨user, password, huser, hpassword, huserChars, hpasswordChars,
      (hone user password huserChars hpasswordChars).mpr ⟨part, hmem, hpart⟩⟩

/-- A password behind the first mark is seen. -/
theorem hasPassword_userAndPassword {user password b : List Char}
    (huser : ∀ c ∈ user, IsUserinfoChar c) (hpassword : ∀ c ∈ password, IsUserinfoChar c)
    (h : userAndPassword user password <+: b) : hasPassword (urlAuthority b) = true := by
  have hkeep : ∀ {c}, IsUserinfoChar c → (!(['/', '?', '#', ' '].contains c)) = true := by
    intro c hc
    simp only [IsUserinfoChar, List.mem_cons, List.not_mem_nil, or_false, not_or] at hc
    simp [hc]
  have hall : urlAuthority (userAndPassword user password) = userAndPassword user password := by
    refine List.takeWhile_eq_self_iff.mpr fun c hmem => ?_
    simp only [userAndPassword, List.mem_append, List.mem_cons, List.not_mem_nil, or_false] at hmem
    obtain hmem | rfl | hmem | rfl := hmem
    exacts [hkeep (huser c hmem), by decide, hkeep (hpassword c hmem), by decide]
  have hat : '@' ∉ user ++ ':' :: password := by
    have huserAt : '@' ∉ user := fun hmem => huser '@' hmem (by decide)
    have hpasswordAt : '@' ∉ password := fun hmem => hpassword '@' hmem (by decide)
    simp [huserAt, hpasswordAt]
  refine hasPassword_of_prefix (hall ▸ urlAuthority_begins h) ?_
  have hsplit : splitOnce '@' (userAndPassword user password) =
      some (user ++ ':' :: password, []) := by
    rw [userAndPassword, ← List.cons_append, ← List.append_assoc]
    exact splitOnce_append hat []
  rw [hasPassword, hsplit, Option.any_some]
  simp

/-- Of a line that is shown the first URL has no user and password, so they are in a later one. -/
theorem urlCredentials_of_mem_shownLines {shown : List Char} (h : shown ∈ shownLines message) :
    UrlCredentials shown ↔
      ∃ a b, splitAtText schemeMark shown = some (a, b) ∧ UrlCredentials b := by
  constructor
  · rintro ⟨user, password, huser, hpassword, huserChars, hpasswordChars, hoccurs⟩
    have hbegin : schemeMark <+: schemeMark ++ userAndPassword user password :=
      List.prefix_append _ _
    have hmark : schemeMark <:+: shown := hbegin.isInfix.trans hoccurs
    obtain ⟨⟨a, b⟩, hsplit⟩ := Option.isSome_iff_exists.mp (isSome_splitAtText.mpr hmark)
    refine ⟨a, b, hsplit, user, password, huser, hpassword, huserChars, hpasswordChars, ?_⟩
    have hclean := hasUrlUserinfo_of_mem_shownLines h hmark
    rw [hasUrlUserinfo_of_some hsplit] at hclean
    have hword := infix_of_splitAtText hbegin hsplit hoccurs
    rw [schemeMark_eq] at hword ⊢
    obtain hbegins | hoccurs := List.infix_cons_iff.mp hword
    · -- the first URL
      have hpair : userAndPassword user password <+: b := by simpa using hbegins
      rw [hasPassword_userAndPassword huserChars hpasswordChars hpair] at hclean
      cases hclean
    · simpa [List.infix_cons_iff] using hoccurs
  · rintro ⟨a, b, hsplit, hcredentials⟩
    obtain ⟨rfl, -⟩ := splitAtText_eq_some schemeMark_ne_nil hsplit
    exact hcredentials.mono (List.infix_append_of_infix_right List.infix_append_right)

/-- **A summary shows no user and password of a URL exactly where no line that is shown has them
behind its first URL.** -/
theorem sanitizeSummary_urlCredentials_iff (message : String) :
    ¬UrlCredentials (sanitizeSummary message).toList ↔
      ∀ line ∈ shownLines message, ∀ a b, splitAtText schemeMark line = some (a, b) →
        ¬UrlCredentials b := by
  rw [toList_sanitizeSummary, urlCredentials_intercalate]
  constructor
  · intro hnone line hmem a b hsplit hcredentials
    exact hnone ⟨line, hmem,
      (urlCredentials_of_mem_shownLines hmem).mpr ⟨a, b, hsplit, hcredentials⟩⟩
  · rintro hlater ⟨line, hmem, hcredentials⟩
    obtain ⟨a, b, hsplit, hbehind⟩ := (urlCredentials_of_mem_shownLines hmem).mp hcredentials
    exact hlater line hmem a b hsplit hbehind

/-- The second URL of a line keeps its user and password. -/
theorem sanitizeSummary_second_url :
    UrlCredentials (sanitizeSummary "see http://a and http://u:p@h").toList := by
  have hsame : (sanitizeSummary "see http://a and http://u:p@h").toList =
      "see http://a and http://u:p@h".toList := by decide +kernel
  have hchar : ∀ c : Char, c ∉ ['/', '?', '#', '@', ' '] → ∀ d ∈ [c], IsUserinfoChar d :=
    fun c hc d hd => List.mem_singleton.mp hd ▸ hc
  rw [hsame]
  exact ⟨['u'], ['p'], by decide, by decide, hchar 'u' (by decide), hchar 'p' (by decide),
    by decide⟩

end Lxcup.Server
