import Mathlib.Data.List.Basic
import Lxcup.Lib.Occurrences

/-!
# Paths and patterns of paths

A path is a text in which every segment stands behind a slash.  A pattern has a text or a parameter
for each segment, and a path fits it when it has the texts, with any segment that is not empty for a
parameter.

Some tests of a path have one result for all paths that fit a pattern.  This result can be read off
the pattern.

## Main definitions

* `pathText`, `segmentsOf` — a path as a text, and its segments.
* `Pattern`, `Pattern.fits`.
* `PathTest` with `holds` and `on` — tests of a path, and their results for a pattern, where there
  are any.

## Main results

* `PathTest.holds_of_on` — the result for a pattern is the one for every path that fits.
-/

namespace Lxcup.Lib

/-! ### Segments -/

/-- The path with these segments. -/
def pathText (segments : List String) : List Char :=
  segments.flatMap fun segment => '/' :: segment.toList

/-- The segments of a path, which begins with a slash. -/
def segmentsOf : List Char → Option (List String)
  | '/' :: rest => some ((rest.splitOn '/').map String.ofList)
  | _ => none

/-- No segment contains a slash. -/
def Segments (segments : List String) : Prop := ∀ segment ∈ segments, '/' ∉ segment.toList

theorem Segments.tail {segment : String} {segments : List String}
    (h : Segments (segment :: segments)) : Segments segments :=
  fun other hmem => h other (.tail _ hmem)

theorem pathText_cons (segment : String) (segments : List String) :
    pathText (segment :: segments) = '/' :: (segment.toList ++ pathText segments) := rfl

/-- What is behind a segment begins with a slash. -/
theorem pathText_eq_nil_or (segments : List String) :
    pathText segments = [] ∨ ∃ rest, pathText segments = '/' :: rest := by
  cases segments with
  | nil => exact .inl rfl
  | cons segment segments => exact .inr ⟨_, rfl⟩

/-- A segment ends where the next slash is. -/
theorem append_pathText_inj {a b : List Char} {as bs : List String} (ha : '/' ∉ a) (hb : '/' ∉ b)
    (h : a ++ pathText as = b ++ pathText bs) : a = b ∧ pathText as = pathText bs := by
  have htake : ∀ (c : List Char) (cs : List String), '/' ∉ c →
      (c ++ pathText cs).takeWhile (· != '/') = c := by
    intro c cs hc
    have hall : ∀ x ∈ c, (x != '/') = true := by
      intro x hx
      rw [bne_iff_ne]
      rintro rfl
      exact hc hx
    rw [List.takeWhile_append_of_pos hall]
    obtain hnil | ⟨rest, hrest⟩ := pathText_eq_nil_or cs
    · rw [hnil, List.takeWhile_nil, List.append_nil]
    · rw [hrest, List.takeWhile_cons_of_neg (by simp), List.append_nil]
  have heq : a = b := by rw [← htake a as ha, h, htake b bs hb]
  subst heq
  exact ⟨rfl, List.append_cancel_left h⟩

theorem pathText_injective {as bs : List String} (ha : Segments as) (hb : Segments bs)
    (h : pathText as = pathText bs) : as = bs := by
  induction as generalizing bs with
  | nil =>
    cases bs with
    | nil => rfl
    | cons b bs => cases h
  | cons a as ih =>
    cases bs with
    | nil => cases h
    | cons b bs =>
      obtain ⟨hab, hrest⟩ := append_pathText_inj (ha a List.mem_cons_self) (hb b List.mem_cons_self)
        (List.cons.inj h).2
      rw [String.toList_inj.mp hab, ih ha.tail hb.tail hrest]

/-- The pieces between slashes, each behind a slash. -/
theorem flatMap_splitOn (cs : List Char) :
    (cs.splitOn '/').flatMap (fun piece => '/' :: piece) = '/' :: cs := by
  induction cs with
  | nil => rfl
  | cons c cs ih =>
    rw [List.splitOn_eq_splitOnP] at ih ⊢
    rw [List.splitOnP_cons_eq_if_modifyHead]
    split
    case isTrue hslash =>
      obtain rfl := eq_of_beq hslash
      rw [List.flatMap_cons, ih]
      rfl
    case isFalse =>
      cases hsplit : cs.splitOnP (· == '/') with
      | nil => exact absurd hsplit (List.splitOnP_ne_nil _ _)
      | cons piece pieces =>
        rw [hsplit, List.flatMap_cons] at ih
        rw [List.modifyHead_cons, List.flatMap_cons]
        exact congrArg (fun rest => '/' :: c :: rest) (List.cons.inj ih).2

theorem notMem_of_mem_splitOn {cs piece : List Char} (h : piece ∈ cs.splitOn '/') :
    '/' ∉ piece := by
  induction cs generalizing piece with
  | nil =>
    obtain rfl := List.mem_singleton.mp h
    exact List.not_mem_nil
  | cons c cs ih =>
    rw [List.splitOn_eq_splitOnP] at h ih
    rw [List.splitOnP_cons_eq_if_modifyHead] at h
    split at h
    case isTrue =>
      obtain rfl | h := List.mem_cons.mp h
      · exact List.not_mem_nil
      · exact ih h
    case isFalse hslash =>
      cases hsplit : cs.splitOnP (· == '/') with
      | nil => exact absurd hsplit (List.splitOnP_ne_nil _ _)
      | cons first pieces =>
        rw [hsplit] at h ih
        obtain rfl | h := List.mem_cons.mp h
        · intro hmem
          obtain rfl | hmem := List.mem_cons.mp hmem
          · exact hslash rfl
          · exact ih List.mem_cons_self hmem
        · exact ih (.tail _ h)

/-- **The segments of a path are those of its text.** -/
theorem pathText_of_segmentsOf {path : List Char} {segments : List String}
    (h : segmentsOf path = some segments) : pathText segments = path ∧ Segments segments := by
  unfold segmentsOf at h
  split at h
  case h_2 => cases h
  case h_1 rest =>
    obtain rfl := Option.some.inj h
    constructor
    · rw [pathText, List.flatMap_map]
      simpa only [String.toList_ofList] using flatMap_splitOn rest
    · intro segment hmem
      obtain ⟨piece, hpiece, rfl⟩ := List.mem_map.mp hmem
      rw [String.toList_ofList]
      exact notMem_of_mem_splitOn hpiece

/-! ### Beginnings and ends of a path -/

section Ends

variable {start segment : String} {starts segments : List String}

/-- The last segment of a beginning may go on in the path. -/
theorem prefix_pathText_singleton (hstart : '/' ∉ start.toList) :
    pathText [start] <+: pathText (segment :: segments) ↔ start.toList <+: segment.toList := by
  rw [pathText_cons, pathText_cons, List.cons_prefix_cons]
  have hnil : pathText [] = [] := rfl
  rw [hnil, List.append_nil]
  obtain hrest | ⟨rest, hrest⟩ := pathText_eq_nil_or segments
  · rw [hrest, List.append_nil]
    exact and_iff_right rfl
  · rw [hrest, prefix_append_cons hstart]
    exact and_iff_right rfl

/-- The segments before are those of the path. -/
theorem prefix_pathText_cons {next : String} (hstart : '/' ∉ start.toList)
    (hsegment : '/' ∉ segment.toList) :
    pathText (start :: next :: starts) <+: pathText (segment :: segments) ↔
      start = segment ∧ pathText (next :: starts) <+: pathText segments := by
  rw [pathText_cons, pathText_cons segment, List.cons_prefix_cons, ← String.toList_inj]
  obtain ⟨front, hfront⟩ : ∃ front, pathText (next :: starts) = '/' :: front := ⟨_, rfl⟩
  obtain hrest | ⟨rest, hrest⟩ := pathText_eq_nil_or segments
  · rw [hrest, hfront, List.append_nil]
    constructor
    · rintro ⟨-, h⟩
      exact absurd (h.subset (List.mem_append_right _ List.mem_cons_self)) hsegment
    · rintro ⟨-, h⟩
      exact absurd h (by simp)
  · rw [hrest, hfront, prefix_append_cons_iff hstart hsegment, List.cons_prefix_cons]
    exact ⟨fun h => ⟨h.2.1, rfl, h.2.2⟩, fun h => ⟨rfl, h.1, h.2.2⟩⟩

/-- The last segment of a path is what is behind the last slash. -/
theorem suffix_pathText_singleton (hstart : '/' ∉ start.toList) (h : Segments segments) :
    pathText [start] <:+ pathText segments ↔ segments.getLast? = some start := by
  obtain rfl | ⟨front, last, rfl⟩ := segments.eq_nil_or_concat'
  · simp [pathText]
  · have hlast : '/' ∉ last.toList := h last (List.mem_append_right _ List.mem_cons_self)
    have htext : pathText (front ++ [last]) = pathText front ++ '/' :: last.toList := by
      simp [pathText]
    have hstartText : pathText [start] = '/' :: start.toList := by simp [pathText]
    have hreverse : ∀ word : String, '/' ∉ word.toList → '/' ∉ word.toList.reverse :=
      fun word hword hmem => hword (List.mem_reverse.mp hmem)
    -- read from the end, both begin with a word and a slash
    rw [htext, hstartText, List.getLast?_concat, Option.some_inj, ← List.reverse_prefix,
      List.reverse_cons, List.reverse_append, List.reverse_cons, List.append_assoc,
      List.singleton_append, prefix_append_cons_iff (hreverse _ hstart) (hreverse _ hlast),
      List.reverse_inj, String.toList_inj]
    exact (and_iff_left List.nil_prefix).trans eq_comm

end Ends

/-! ### Patterns -/

/-- A text or a parameter for every segment. -/
abbrev Pattern := List (Option String)

namespace Pattern

/-- The segments have the texts of the pattern; a parameter stands for any segment but the empty
one. -/
def fits : Pattern → List String → Bool
  | [], [] => true
  | some text :: pattern, segment :: segments => text = segment && fits pattern segments
  | none :: pattern, segment :: segments => segment ≠ "" && fits pattern segments
  | _, _ => false

/-- Whether the paths of a pattern are a given one. -/
def is : Pattern → List String → Option Bool
  | [], [] => some true
  | some text :: pattern, segment :: segments =>
    if text = segment then is pattern segments else some false
  | none :: pattern, _ :: segments => if is pattern segments = some false then some false else none
  | _, _ => some false

/-- Whether the paths of a pattern begin with a given one. -/
def starts : Pattern → List String → Option Bool
  | _, [] => some true
  | [], _ :: _ => some false
  | some text :: _, [start] => some (start.toList.isPrefixOf text.toList)
  | none :: _, [start] => if start = "" then some true else none
  | some text :: pattern, start :: next :: rest =>
    if start = text then starts pattern (next :: rest) else some false
  | none :: pattern, _ :: next :: rest =>
    if starts pattern (next :: rest) = some false then some false else none

/-- Whether the paths of a pattern end with a given segment. -/
def ends (pattern : Pattern) (segment : String) : Option Bool :=
  match pattern.getLast? with
  | some (some text) => some (text = segment)
  | some none => none
  | none => some false

end Pattern

/-- A test of a path. -/
inductive PathTest
  /-- The path has these segments. -/
  | is (segments : List String)
  /-- The text of the path begins with the one of these segments. -/
  | starts (segments : List String)
  /-- The path ends with this segment. -/
  | ends (segment : String)
  | either (a b : PathTest)
  | both (a b : PathTest)

namespace PathTest

def holds : PathTest → List Char → Bool
  | is segments, path => path = pathText segments
  | starts segments, path => (pathText segments).isPrefixOf path
  | ends segment, path => (pathText [segment]).isSuffixOf path
  | either a b, path => a.holds path || b.holds path
  | both a b, path => a.holds path && b.holds path

/-- The result for all paths of a pattern, if there is one. -/
def on : PathTest → Pattern → Option Bool
  | is segments, pattern => pattern.is segments
  | starts segments, pattern => pattern.starts segments
  | ends segment, pattern => pattern.ends segment
  | either a b, pattern =>
    match a.on pattern, b.on pattern with
    | some true, _ | _, some true => some true
    | some false, some false => some false
    | _, _ => none
  | both a b, pattern =>
    match a.on pattern, b.on pattern with
    | some false, _ | _, some false => some false
    | some true, some true => some true
    | _, _ => none

/-- The texts of a test have no slashes. -/
def wellFormed : PathTest → Bool
  | is segments | starts segments => segments.all fun segment => '/' ∉ segment.toList
  | ends segment => '/' ∉ segment.toList
  | either a b | both a b => a.wellFormed && b.wellFormed

@[simp] theorem holds_either (a b : PathTest) (path : List Char) :
    (either a b).holds path = (a.holds path || b.holds path) := rfl

@[simp] theorem holds_both (a b : PathTest) (path : List Char) :
    (both a b).holds path = (a.holds path && b.holds path) := rfl

end PathTest

section Fits

variable {pattern : Pattern} {segments : List String}

theorem is_of_fits {other : List String} {result : Bool} (hfits : pattern.fits segments = true)
    (his : pattern.is other = some result) : decide (segments = other) = result := by
  induction pattern generalizing segments other with
  | nil =>
    cases segments with
    | cons segment segments => cases hfits
    | nil => cases other <;> cases his <;> rfl
  | cons text? pattern ih =>
    cases segments with
    | nil => cases text? <;> cases hfits
    | cons segment segments =>
      cases other with
      | nil => cases text? <;> cases his <;> rfl
      | cons first other =>
        cases text? with
        | some text =>
          rw [Pattern.fits, Bool.and_eq_true, decide_eq_true_eq] at hfits
          obtain ⟨rfl, hfits⟩ := hfits
          rw [Pattern.is] at his
          split at his
          case isTrue heq =>
            subst heq
            rw [← ih hfits his]
            simp
          case isFalse hne =>
            cases his
            simp [hne]
        | none =>
          rw [Pattern.fits, Bool.and_eq_true] at hfits
          rw [Pattern.is] at his
          split at his
          case isFalse => cases his
          case isTrue hother =>
            cases his
            have hne := of_decide_eq_false (ih hfits.2 hother)
            simp [hne]

theorem starts_of_fits {other : List String} {result : Bool} (hsegments : Segments segments)
    (hother : Segments other) (hfits : pattern.fits segments = true)
    (hstarts : pattern.starts other = some result) :
    pathText other <+: pathText segments ↔ result = true := by
  induction pattern generalizing segments other with
  | nil =>
    cases segments with
    | cons segment segments => cases hfits
    | nil =>
      cases other with
      | nil => cases hstarts; simp
      | cons first other => cases hstarts; simp [pathText]
  | cons text? pattern ih =>
    cases segments with
    | nil => cases text? <;> cases hfits
    | cons segment segments =>
      have hsegment := hsegments segment List.mem_cons_self
      match other with
      | [] =>
        rw [Pattern.starts] at hstarts
        cases hstarts
        simp [pathText]
      | [start] =>
        rw [prefix_pathText_singleton (hother start List.mem_cons_self)]
        cases text? with
        | some text =>
          rw [Pattern.fits, Bool.and_eq_true, decide_eq_true_eq] at hfits
          obtain ⟨rfl, -⟩ := hfits
          rw [Pattern.starts] at hstarts
          cases hstarts
          exact List.isPrefixOf_iff_prefix.symm
        | none =>
          rw [Pattern.starts] at hstarts
          split at hstarts
          case isTrue hempty =>
            cases hstarts
            subst hempty
            simp
          case isFalse => cases hstarts
      | start :: next :: rest =>
        rw [prefix_pathText_cons (hother start List.mem_cons_self) hsegment]
        cases text? with
        | some text =>
          rw [Pattern.fits, Bool.and_eq_true, decide_eq_true_eq] at hfits
          obtain ⟨rfl, hfits⟩ := hfits
          rw [Pattern.starts] at hstarts
          split at hstarts
          case isTrue heq => rw [ih hsegments.tail hother.tail hfits hstarts, and_iff_right heq]
          case isFalse hne =>
            cases hstarts
            simp [hne]
        | none =>
          rw [Pattern.fits, Bool.and_eq_true] at hfits
          rw [Pattern.starts] at hstarts
          split at hstarts
          case isTrue hrest =>
            cases hstarts
            rw [ih hsegments.tail hother.tail hfits.2 hrest]
            simp
          case isFalse => cases hstarts

theorem getLast?_of_fits (hfits : pattern.fits segments = true) :
    match pattern.getLast? with
    | some (some text) => segments.getLast? = some text
    | some none => segments ≠ []
    | none => segments = [] := by
  induction pattern generalizing segments with
  | nil => cases segments <;> first | rfl | cases hfits
  | cons text? pattern ih =>
    cases segments with
    | nil => cases text? <;> cases hfits
    | cons segment segments =>
      cases pattern with
      | nil =>
        cases segments with
        | cons => cases text? <;> simp [Pattern.fits] at hfits
        | nil =>
          cases text? with
          | none => simp
          | some text =>
            rw [Pattern.fits, Bool.and_eq_true, decide_eq_true_eq] at hfits
            obtain ⟨rfl, -⟩ := hfits
            rfl
      | cons next pattern =>
        have hrest : Pattern.fits (next :: pattern) segments = true := by
          cases text? <;> exact (Bool.and_eq_true_iff.mp hfits).2
        obtain ⟨second, segments, rfl⟩ : ∃ second rest, segments = second :: rest := by
          cases segments with
          | nil => cases next <;> cases hrest
          | cons second rest => exact ⟨second, rest, rfl⟩
        have h := ih hrest
        rw [List.getLast?_cons_cons, List.getLast?_cons_cons]
        split at h
        case h_1 => exact h
        case h_2 => exact List.cons_ne_nil _ _
        case h_3 => cases h

theorem ends_of_fits {segment : String} {result : Bool} (hsegments : Segments segments)
    (hsegment : '/' ∉ segment.toList) (hfits : pattern.fits segments = true)
    (hends : pattern.ends segment = some result) :
    pathText [segment] <:+ pathText segments ↔ result = true := by
  rw [suffix_pathText_singleton hsegment hsegments]
  have hlast := getLast?_of_fits hfits
  unfold Pattern.ends at hends
  split at hends
  case h_1 text htext =>
    rw [htext] at hlast
    cases hends
    rw [hlast, Option.some_inj, decide_eq_true_eq]
  case h_2 => cases hends
  case h_3 hnone =>
    rw [hnone] at hlast
    cases hends
    simp [hlast]

/-- **The result for a pattern is the one for every path that fits it.** -/
theorem PathTest.holds_of_on {test : PathTest} {result : Bool} (htest : test.wellFormed = true)
    (hsegments : Segments segments) (hfits : pattern.fits segments = true)
    (hon : test.on pattern = some result) : test.holds (pathText segments) = result := by
  have hslashes : ∀ {texts : List String}, (texts.all fun text => '/' ∉ text.toList) = true →
      Segments texts := fun h text hmem => of_decide_eq_true (List.all_eq_true.mp h text hmem)
  induction test generalizing result with
  | is other =>
    have hinj : pathText segments = pathText other ↔ segments = other :=
      ⟨pathText_injective hsegments (hslashes htest), congrArg pathText⟩
    rw [PathTest.holds, decide_eq_decide.mpr hinj]
    exact is_of_fits hfits hon
  | starts other =>
    rw [Bool.eq_iff_iff, PathTest.holds, List.isPrefixOf_iff_prefix]
    exact starts_of_fits hsegments (hslashes htest) hfits hon
  | ends segment =>
    rw [Bool.eq_iff_iff, PathTest.holds, List.isSuffixOf_iff_suffix]
    exact ends_of_fits hsegments (of_decide_eq_true htest) hfits hon
  | either a b iha ihb =>
    obtain ⟨ha, hb⟩ := Bool.and_eq_true_iff.mp htest
    rw [PathTest.on] at hon
    rw [PathTest.holds]
    split at hon
    case h_1 h => cases hon; rw [iha ha h, Bool.true_or]
    case h_2 h _ => cases hon; rw [ihb hb h, Bool.or_true]
    case h_3 h h' => cases hon; rw [iha ha h, ihb hb h', Bool.or_false]
    case h_4 => cases hon
  | both a b iha ihb =>
    obtain ⟨ha, hb⟩ := Bool.and_eq_true_iff.mp htest
    rw [PathTest.on] at hon
    rw [PathTest.holds]
    split at hon
    case h_1 h => cases hon; rw [iha ha h, Bool.false_and]
    case h_2 h _ => cases hon; rw [ihb hb h, Bool.and_false]
    case h_3 h h' => cases hon; rw [iha ha h, ihb hb h', Bool.and_true]
    case h_4 => cases hon

end Fits

end Lxcup.Lib
