import Lxcup.Apt.Output
import Lxcup.Lib.Occurrences

/-!
# Splitting texts

The splits of the agent and of the server undo the joins of the texts they are given, as long
as no part of a text holds what it is split at.  The splits at a marker of several characters
are all told by the first occurrence of the marker, `splitAtText`.

## Main results

* `lines_append`, `words_append`, `splitOnce_append` — the splits at a character.
* `infix_iff_lines` — what occurs in a text occurs in one of its lines.
* `isSome_splitAtText` — a marker occurs where its first occurrence is found.
* `splitAtText_skip`, `splitAtText_skip_word` — parts of a text in which no marker begins.
* `splitOnText_of_some`, `of_mem_splitOnText` — the parts between markers, from the first
  occurrence on.
* `lines_intercalate`, `splitOnText_intercalate` — joined lines, and blocks of them, are split
  again.
-/

namespace Lxcup.Apt

open Lxcup.Lib Lxcup.Agent

/-! ### White space -/

theorem dropWhile_eq_self {p : Char → Bool} {cs : List Char} (hhead : ∀ c ∈ cs.head?, p c = false) :
    cs.dropWhile p = cs := by
  cases cs with
  | nil => rfl
  | cons c cs => rw [List.dropWhile_cons_of_neg (by simp [hhead c rfl])]

theorem trim_eq_self {cs : List Char} (hhead : ∀ c ∈ cs.head?, isWhitespace c = false)
    (hlast : ∀ c ∈ cs.getLast?, isWhitespace c = false) : trim cs = cs := by
  have hback : ∀ c ∈ cs.reverse.head?, isWhitespace c = false := by rwa [List.head?_reverse]
  rw [trim, dropWhile_eq_self hhead, dropWhile_eq_self hback, List.reverse_reverse]

theorem trim_of_all {cs : List Char} (h : ∀ c ∈ cs, isWhitespace c = false) : trim cs = cs :=
  trim_eq_self (fun c hc => h c (List.mem_of_mem_head? hc))
    fun c hc => h c (List.mem_of_mem_getLast? hc)

/-- The blank behind the colon of a field is no part of its value. -/
theorem trim_blank_cons {cs : List Char} (h : ∀ c ∈ cs, isWhitespace c = false) :
    trim (' ' :: cs) = cs := by
  have hblank : trim (' ' :: cs) = trim cs := by
    rw [trim, List.dropWhile_cons_of_pos (by decide), trim]
  rw [hblank, trim_of_all h]

/-- A beginning without white space is kept. -/
theorem exists_trim_append {pre : List Char} (hne : pre ≠ [])
    (h : ∀ c ∈ pre, isWhitespace c = false) (rest : List Char) :
    ∃ rest', trim (pre ++ rest) = pre ++ rest' := by
  have hfront : (pre ++ rest).dropWhile isWhitespace = pre ++ rest := by
    refine dropWhile_eq_self fun c hc => h c ?_
    rw [List.head?_append_of_ne_nil pre hne] at hc
    exact List.mem_of_mem_head? hc
  have hback : pre.reverse.dropWhile isWhitespace = pre.reverse :=
    dropWhile_eq_self fun c hc => h c (List.mem_reverse.mp (List.mem_of_mem_head? hc))
  rw [trim, hfront, List.reverse_append, List.dropWhile_append]
  split
  · exact ⟨[], by rw [hback, List.reverse_reverse, List.append_nil]⟩
  · exact ⟨(rest.reverse.dropWhile isWhitespace).reverse, by
      rw [List.reverse_append, List.reverse_reverse]⟩

/-- White space behind a text is trimmed. -/
theorem trim_append_blanks {cs blanks : List Char} (hhead : ∀ c ∈ cs.head?, isWhitespace c = false)
    (hlast : ∀ c ∈ cs.getLast?, isWhitespace c = false) (hne : cs ≠ [])
    (hblanks : ∀ c ∈ blanks, isWhitespace c = true) : trim (cs ++ blanks) = cs := by
  have hfront : (cs ++ blanks).dropWhile isWhitespace = cs ++ blanks := by
    refine dropWhile_eq_self fun c hc => hhead c ?_
    rwa [List.head?_append_of_ne_nil cs hne] at hc
  have hback : cs.reverse.dropWhile isWhitespace = cs.reverse :=
    dropWhile_eq_self fun c hc => hlast c (by rwa [List.head?_reverse] at hc)
  have hdrop : blanks.reverse.dropWhile isWhitespace = [] :=
    List.dropWhile_eq_nil_iff.mpr fun c hc => hblanks c (List.mem_reverse.mp hc)
  rw [trim, hfront, List.reverse_append, List.dropWhile_append, hdrop, List.isEmpty_nil, if_pos rfl,
    hback, List.reverse_reverse]

/-! ### Splitting at a character -/

theorem splitOn_ne_nil (sep : Char) (cs : List Char) : splitOn sep cs ≠ [] := by
  cases cs with
  | nil => simp [splitOn]
  | cons c cs =>
    rw [splitOn]
    split
    · simp
    · split <;> simp

/-- A separator ends a part, whatever stands around it. -/
theorem splitOn_append (sep : Char) (a b : List Char) :
    splitOn sep (a ++ sep :: b) = splitOn sep a ++ splitOn sep b := by
  induction a with
  | nil => simp [splitOn]
  | cons c a ih =>
    rw [List.cons_append, splitOn, splitOn, ih]
    obtain ⟨part, parts, hparts⟩ := List.exists_cons_of_ne_nil (splitOn_ne_nil sep a)
    split
    · rfl
    · rw [hparts, List.cons_append]
      rfl

/-- The parts between the separators make up the text. -/
theorem intercalate_splitOn (sep : Char) (cs : List Char) :
    [sep].intercalate (splitOn sep cs) = cs := by
  induction cs with
  | nil => simp [splitOn]
  | cons c cs ih =>
    obtain ⟨part, parts, hparts⟩ := List.exists_cons_of_ne_nil (splitOn_ne_nil sep cs)
    rw [splitOn, hparts]
    rw [hparts] at ih
    split
    · rename_i heq
      rw [List.intercalate_cons_cons, ih, heq]
      rfl
    · cases parts with
      | nil =>
        rw [List.intercalate_singleton] at ih ⊢
        rw [ih]
      | cons next parts =>
        rw [List.intercalate_cons_cons] at ih ⊢
        rw [← ih]
        rfl

/-- Joined parts are split again, if no part holds the separator. -/
theorem splitOn_intercalate {sep : Char} {parts : List (List Char)} (hne : parts ≠ [])
    (h : ∀ part ∈ parts, sep ∉ part) : splitOn sep ([sep].intercalate parts) = parts := by
  induction parts with
  | nil => exact absurd rfl hne
  | cons part parts ih =>
    have hpart : sep ∉ part := h part List.mem_cons_self
    cases parts with
    | nil => rw [List.intercalate_singleton, splitOn_eq_singleton hpart]
    | cons next parts =>
      have hrest := ih (List.cons_ne_nil _ _) fun other hother =>
        h other (List.mem_cons_of_mem _ hother)
      rw [List.intercalate_cons_cons, List.append_assoc, List.singleton_append, splitOn_append,
        splitOn_eq_singleton hpart, hrest]
      rfl

/-- No part between the separators holds one. -/
theorem notMem_of_mem_splitOn {sep : Char} {cs part : List Char} (h : part ∈ splitOn sep cs) :
    sep ∉ part := by
  induction cs generalizing part with
  | nil =>
    rw [splitOn, List.mem_singleton] at h
    rw [h]
    exact List.not_mem_nil
  | cons c cs ih =>
    obtain ⟨first, parts, hparts⟩ := List.exists_cons_of_ne_nil (splitOn_ne_nil sep cs)
    rw [splitOn, hparts] at h
    rw [hparts] at ih
    split at h
    · obtain rfl | hmem := List.mem_cons.mp h
      · exact List.not_mem_nil
      · exact ih hmem
    · rename_i hne
      obtain rfl | hmem := List.mem_cons.mp h
      · rw [List.mem_cons, not_or]
        exact ⟨fun heq => hne heq.symm, ih List.mem_cons_self⟩
      · exact ih (List.mem_cons_of_mem _ hmem)

/-- A word without a line end occurs in a text if and only if it does in one of its lines. -/
theorem infix_iff_lines {u : List Char} (hne : u ≠ []) (hline : '\n' ∉ u) (hreturn : '\r' ∉ u)
    (cs : List Char) : u <:+: cs ↔ ∃ line ∈ lines cs, u <:+: line := by
  -- what is stripped off a line is no part of the word
  have hstrip : ∀ part : List Char,
      u <:+: (if part.getLast? = some '\r' then part.dropLast else part) ↔ u <:+: part := by
    intro part
    split
    · rename_i hlast
      have hsplit := List.dropLast_append_getLast? '\r' hlast
      have hoccurs := infix_append_cons hreturn part.dropLast []
      rw [hsplit, List.infix_nil] at hoccurs
      rw [hoccurs, or_iff_left hne]
    · rfl
  have hparts := infix_intercalate_singleton hline hne (splitOn '\n' cs)
  rw [intercalate_splitOn] at hparts
  obtain ⟨front, last, hsplit⟩ : ∃ front last, splitOn '\n' cs = front ++ [last] :=
    ⟨_, _, (List.dropLast_append_getLast (splitOn_ne_nil '\n' cs)).symm⟩
  rw [hparts, lines, hsplit, List.dropLast_concat, List.getLast?_concat]
  simp only [List.mem_append, List.mem_map, List.mem_singleton, Option.mem_toList,
    Option.filter_eq_some_iff, Option.some_inj, decide_eq_true_eq]
  constructor
  · rintro ⟨part, hfront | rfl, hoccurs⟩
    · exact ⟨_, .inl ⟨part, hfront, rfl⟩, (hstrip part).mpr hoccurs⟩
    · refine ⟨part, .inr ⟨rfl, ?_⟩, hoccurs⟩
      rintro rfl
      exact hne (List.infix_nil.mp hoccurs)
  · rintro ⟨line, ⟨part, hfront, rfl⟩ | ⟨rfl, -⟩, hoccurs⟩
    · exact ⟨part, .inl hfront, (hstrip part).mp hoccurs⟩
    · exact ⟨last, .inr rfl, hoccurs⟩

/-- The end of a line, whatever follows. -/
theorem lines_append {a : List Char} (hline : '\n' ∉ a) (b : List Char) :
    lines (a ++ '\n' :: b)
      = (if a.getLast? = some '\r' then a.dropLast else a) :: lines b := by
  obtain ⟨part, parts, hparts⟩ := List.exists_cons_of_ne_nil (splitOn_ne_nil '\n' b)
  rw [lines, splitOn_append, splitOn_eq_singleton hline, hparts, lines, hparts]
  rfl

theorem lines_append_of_ne {a : List Char} (hline : '\n' ∉ a) (hreturn : a.getLast? ≠ some '\r')
    (b : List Char) : lines (a ++ '\n' :: b) = a :: lines b := by
  rw [lines_append hline, if_neg hreturn]

/-- White space ends a word, whatever stands around it. -/
theorem words_append {c : Char} (hc : isWhitespace c = true) (a b : List Char) :
    words (a ++ c :: b) = words a ++ words b := by
  simp only [words, List.map_append, List.map_cons, hc, if_true, splitOn_append,
    List.filter_append]

theorem words_eq_singleton {a : List Char} (hne : a ≠ [])
    (h : ∀ c ∈ a, isWhitespace c = false) : words a = [a] := by
  have hkeep : ∀ c ∈ a, (if isWhitespace c then ' ' else c) = c := by
    intro c hc
    rw [h c hc]
    rfl
  have hmap : a.map (fun c => if isWhitespace c then ' ' else c) = a :=
    (List.map_congr_left hkeep).trans (List.map_id' a)
  have hblank : ' ' ∉ a := fun hmem => absurd (h ' ' hmem) (by decide)
  rw [words, hmap, splitOn_eq_singleton hblank]
  simp [hne]

theorem splitOnce_of_notMem {sep : Char} {cs : List Char} (h : sep ∉ cs) :
    splitOnce sep cs = none := by
  induction cs with
  | nil => rfl
  | cons c cs ih =>
    rw [List.mem_cons, not_or] at h
    simp [splitOnce, Ne.symm h.1, ih h.2]

theorem splitOnce_append {sep : Char} {a : List Char} (h : sep ∉ a) (b : List Char) :
    splitOnce sep (a ++ sep :: b) = some (a, b) := by
  induction a with
  | nil => simp [splitOnce]
  | cons c a ih =>
    rw [List.mem_cons, not_or] at h
    simp [splitOnce, Ne.symm h.1, ih h.2]

/-- The first occurrence of a separator. -/
theorem splitOnce_eq_some {sep : Char} {cs a b : List Char} :
    splitOnce sep cs = some (a, b) ↔ cs = a ++ sep :: b ∧ sep ∉ a := by
  constructor
  · intro h
    by_cases hsep : sep ∈ cs
    · obtain ⟨front, back, rfl, hfront⟩ := List.eq_append_cons_of_mem hsep
      rw [splitOnce_append hfront] at h
      obtain ⟨rfl, rfl⟩ := Prod.mk.inj (Option.some_inj.mp h)
      exact ⟨rfl, hfront⟩
    · rw [splitOnce_of_notMem hsep] at h
      cases h
  · rintro ⟨rfl, hsep⟩
    exact splitOnce_append hsep b

theorem splitOnce_append_right {sep : Char} {cs a b : List Char}
    (h : splitOnce sep cs = some (a, b)) (rest : List Char) :
    splitOnce sep (cs ++ rest) = some (a, b ++ rest) := by
  obtain ⟨rfl, hsep⟩ := splitOnce_eq_some.mp h
  rw [List.append_assoc, List.cons_append]
  exact splitOnce_append hsep (b ++ rest)

/-! ### Markers -/

theorem stripPrefix_eq_some {pre cs rest : List Char} :
    stripPrefix pre cs = some rest ↔ cs = pre ++ rest := by
  constructor
  · intro h
    induction pre generalizing cs with
    | nil => simpa [stripPrefix] using h
    | cons p pre ih =>
      cases cs with
      | nil => cases h
      | cons c cs =>
        rw [stripPrefix] at h
        split at h
        · rename_i heq
          rw [heq, ih h, List.cons_append]
        · cases h
  · rintro rfl
    exact stripPrefix_append pre rest

theorem isSome_stripPrefix {pre cs : List Char} : (stripPrefix pre cs).isSome ↔ pre <+: cs := by
  rw [Option.isSome_iff_exists]
  constructor
  · rintro ⟨rest, hrest⟩
    exact ⟨rest, (stripPrefix_eq_some.mp hrest).symm⟩
  · rintro ⟨rest, rfl⟩
    exact ⟨rest, stripPrefix_append pre rest⟩

theorem stripPrefix_eq_none {pre cs : List Char} : stripPrefix pre cs = none ↔ ¬ pre <+: cs := by
  rw [← isSome_stripPrefix, Bool.not_eq_true, Option.isSome_eq_false_iff, Option.isNone_iff_eq_none]

/-- **A marker occurs in a text if and only if its first occurrence is found.** -/
theorem isSome_splitAtText {marker cs : List Char} :
    (splitAtText marker cs).isSome ↔ marker <:+: cs := by
  induction cs with
  | nil => simp [splitAtText, isSome_stripPrefix]
  | cons c cs ih =>
    rw [splitAtText, List.infix_cons_iff, ← isSome_stripPrefix]
    split
    · rename_i rest hrest
      simp [hrest]
    · rename_i hnone
      simp [hnone, ih]

theorem splitAtText_append (marker rest : List Char) (hne : marker ≠ []) :
    splitAtText marker (marker ++ rest) = some ([], rest) := by
  obtain ⟨c, cs, rfl⟩ := List.exists_cons_of_ne_nil hne
  rw [List.cons_append, splitAtText, ← List.cons_append, stripPrefix_append]

/-- No marker begins in a text without its first character. -/
theorem splitAtText_skip {c : Char} {marker a : List Char} (h : c ∉ a) (b : List Char) :
    splitAtText (c :: marker) (a ++ b)
      = (splitAtText (c :: marker) b).map fun parts => (a ++ parts.1, parts.2) := by
  induction a with
  | nil => simp
  | cons d a ih =>
    rw [List.mem_cons, not_or] at h
    rw [List.cons_append, splitAtText, stripPrefix, if_neg h.1, ih h.2, Option.map_map]
    rfl

theorem splitAtText_eq_none {c : Char} {marker a : List Char} (h : c ∉ a) :
    splitAtText (c :: marker) a = none := by
  have hskip := @splitAtText_skip c marker a h []
  simpa [splitAtText, stripPrefix] using hskip

/-- A marker of several words does not begin in a word before a text that it does not go on
with. -/
theorem splitAtText_skip_word {sep : Char} {u a m b : List Char} (hu : sep ∉ u) (ha : sep ∉ a)
    (hb : ¬ m <+: b) :
    splitAtText (u ++ sep :: m) (a ++ sep :: b)
      = (splitAtText (u ++ sep :: m) b).map fun parts => (a ++ sep :: parts.1, parts.2) := by
  have hnone : ∀ w : List Char, sep ∉ w →
      stripPrefix (u ++ sep :: m) (w ++ sep :: b) = none := by
    intro w hw
    rw [stripPrefix_eq_none, prefix_append_cons_iff hu hw]
    exact fun hbegins => hb hbegins.2
  induction a with
  | nil =>
    have hfirst := hnone [] ha
    rw [List.nil_append] at hfirst ⊢
    rw [splitAtText, hfirst]
    rfl
  | cons c a ih =>
    have hfirst := hnone (c :: a) ha
    rw [List.mem_cons, not_or] at ha
    rw [List.cons_append] at hfirst ⊢
    rw [splitAtText, hfirst]
    dsimp only
    rw [ih ha.2, Option.map_map]
    rfl

/-! ### The parts between markers -/

/-- Characters that are still to be skipped. -/
theorem splitOnText_skip {marker a : List Char} (b : List Char) :
    splitOnText marker a.length (a ++ b) = splitOnText marker 0 b := by
  induction a with
  | nil => rfl
  | cons c a ih => simpa [splitOnText] using ih

theorem splitOnText_of_none {marker cs : List Char} (h : splitAtText marker cs = none) :
    splitOnText marker 0 cs = [cs] := by
  induction cs with
  | nil => rfl
  | cons c cs ih =>
    rw [splitAtText] at h
    split at h
    · cases h
    · rename_i hnone
      have hrest := ih (Option.map_eq_none_iff.mp h)
      rw [stripPrefix_eq_none, ← List.isPrefixOf_iff_prefix] at hnone
      rw [splitOnText, if_neg hnone, hrest]

/-- **The first part ends at the first marker, and the others are those behind it.** -/
theorem splitOnText_of_some {marker cs a b : List Char} (hne : marker ≠ [])
    (h : splitAtText marker cs = some (a, b)) :
    splitOnText marker 0 cs = a :: splitOnText marker 0 b := by
  obtain ⟨m, ms, rfl⟩ := List.exists_cons_of_ne_nil hne
  induction cs generalizing a with
  | nil => cases h
  | cons c cs ih =>
    rw [splitAtText] at h
    split at h
    · -- the marker is here
      rename_i rest hrest
      obtain ⟨rfl, rfl⟩ : [] = a ∧ rest = b := by simpa using h
      rw [stripPrefix_eq_some, List.cons_append, List.cons.injEq] at hrest
      obtain ⟨rfl, rfl⟩ := hrest
      have hmarker : (c :: ms).isPrefixOf (c :: (ms ++ rest)) = true := by
        rw [List.isPrefixOf_iff_prefix]
        exact List.prefix_append (c :: ms) rest
      rw [splitOnText, if_pos hmarker]
      exact congrArg ([] :: ·) (splitOnText_skip rest)
    · rename_i hnone
      obtain ⟨⟨a, b⟩, hparts, heq⟩ := Option.map_eq_some_iff.mp h
      obtain ⟨rfl, rfl⟩ := Prod.mk.inj heq
      rw [stripPrefix_eq_none, ← List.isPrefixOf_iff_prefix] at hnone
      rw [splitOnText, if_neg hnone, ih hparts]

/-- A marker that is found is the first one, so none stands before it. -/
theorem splitAtText_eq_some {marker cs a b : List Char} (hne : marker ≠ [])
    (h : splitAtText marker cs = some (a, b)) : cs = a ++ (marker ++ b) ∧ ¬ marker <:+: a := by
  induction cs generalizing a with
  | nil =>
    rw [splitAtText, Option.map_eq_some_iff] at h
    obtain ⟨rest, hrest, -⟩ := h
    exact absurd (List.append_eq_nil_iff.mp (stripPrefix_eq_some.mp hrest).symm).1 hne
  | cons c cs ih =>
    rw [splitAtText] at h
    split at h
    · rename_i rest hrest
      obtain ⟨rfl, rfl⟩ : [] = a ∧ rest = b := by simpa using h
      rw [List.nil_append]
      exact ⟨stripPrefix_eq_some.mp hrest, fun hoccurs => hne (List.infix_nil.mp hoccurs)⟩
    · rename_i hnone
      obtain ⟨⟨front, back⟩, hparts, heq⟩ := Option.map_eq_some_iff.mp h
      obtain ⟨rfl, rfl⟩ := Prod.mk.inj heq
      obtain ⟨rfl, hfront⟩ := ih hparts
      refine ⟨rfl, fun hoccurs => ?_⟩
      obtain hbegins | hoccurs := List.infix_cons_iff.mp hoccurs
      · exact stripPrefix_eq_none.mp hnone (hbegins.trans (List.prefix_append (c :: front) _))
      · exact hfront hoccurs

/-- What follows a text does not change its first marker. -/
theorem splitAtText_append_right {marker cs a b : List Char} (hne : marker ≠ [])
    (h : splitAtText marker cs = some (a, b)) (rest : List Char) :
    splitAtText marker (cs ++ rest) = some (a, b ++ rest) := by
  induction cs generalizing a with
  | nil =>
    obtain ⟨heq, -⟩ := splitAtText_eq_some hne h
    exact absurd (List.append_eq_nil_iff.mp (List.append_eq_nil_iff.mp heq.symm).2).1 hne
  | cons c cs ih =>
    rw [splitAtText] at h
    rw [List.cons_append, splitAtText]
    split at h
    · rename_i back hback
      obtain ⟨rfl, rfl⟩ : [] = a ∧ back = b := by simpa using h
      have hmore : stripPrefix marker (c :: (cs ++ rest)) = some (back ++ rest) := by
        rw [stripPrefix_eq_some, ← List.append_assoc, ← stripPrefix_eq_some.mp hback]
        rfl
      rw [hmore]
    · rename_i hnone
      obtain ⟨⟨front, back⟩, hparts, heq⟩ := Option.map_eq_some_iff.mp h
      obtain ⟨rfl, rfl⟩ := Prod.mk.inj heq
      have hmore : stripPrefix marker (c :: (cs ++ rest)) = none := by
        -- the marker would begin here and reach beyond the text, but it ends within
        obtain ⟨rfl, -⟩ := splitAtText_eq_some hne hparts
        rw [stripPrefix_eq_none] at hnone ⊢
        intro hbegins
        refine hnone (List.prefix_of_prefix_length_le hbegins
          (List.prefix_append (c :: (front ++ (marker ++ back))) rest) ?_)
        simp only [List.length_cons, List.length_append]
        omega
      rw [hmore, ih hparts]
      rfl

/-- In a text without a marker before a separator, the first one is behind it. -/
theorem splitAtText_append_cons {sep : Char} {marker a : List Char} (hne : marker ≠ [])
    (hsep : sep ∉ marker) (h : splitAtText marker a = none) (b : List Char) :
    splitAtText marker (a ++ sep :: b)
      = (splitAtText marker b).map fun parts => (a ++ sep :: parts.1, parts.2) := by
  induction a with
  | nil =>
    have hnone : stripPrefix marker (sep :: b) = none := by
      rw [stripPrefix_eq_none, ← List.nil_append (sep :: b), prefix_append_cons hsep,
        List.prefix_nil]
      exact hne
    rw [List.nil_append, splitAtText, hnone]
    rfl
  | cons c a ih =>
    rw [splitAtText] at h
    split at h
    · cases h
    · rename_i hstrip
      have hnone : stripPrefix marker (c :: (a ++ sep :: b)) = none := by
        rw [stripPrefix_eq_none] at hstrip ⊢
        rwa [← List.cons_append, prefix_append_cons hsep]
      rw [List.cons_append, splitAtText, hnone]
      dsimp only
      rw [ih (Option.map_eq_none_iff.mp h), Option.map_map]
      rfl

/-- What begins with a marker does not begin before the first one. -/
theorem infix_of_splitAtText {marker word cs a b : List Char} (hbegin : marker <+: word)
    (h : splitAtText marker cs = some (a, b)) (hword : word <:+: cs) :
    word <:+: marker ++ b := by
  induction cs generalizing a with
  | nil =>
    obtain rfl := List.infix_nil.mp hword
    exact List.nil_infix
  | cons c cs ih =>
    rw [splitAtText] at h
    split at h
    · rename_i rest hrest
      obtain ⟨rfl, rfl⟩ : [] = a ∧ rest = b := by simpa using h
      rwa [← stripPrefix_eq_some.mp hrest]
    · rename_i hnone
      obtain ⟨⟨front, back⟩, hparts, heq⟩ := Option.map_eq_some_iff.mp h
      obtain ⟨rfl, rfl⟩ := Prod.mk.inj heq
      obtain hbegins | hoccurs := List.infix_cons_iff.mp hword
      · exact absurd (hbegin.trans hbegins) (stripPrefix_eq_none.mp hnone)
      · exact ih hparts hoccurs

/-- The parts between markers are parts of the text, and no marker is left in them. -/
theorem of_mem_splitOnText {marker part : List Char} (hne : marker ≠ []) (n : Nat) :
    ∀ cs : List Char, cs.length ≤ n → part ∈ splitOnText marker 0 cs →
      part <:+: cs ∧ ¬ marker <:+: part := by
  induction n with
  | zero =>
    intro cs hlength hmem
    obtain rfl := List.length_eq_zero_iff.mp (Nat.le_zero.mp hlength)
    rw [splitOnText, List.mem_singleton] at hmem
    rw [hmem]
    exact ⟨List.infix_refl _, fun hoccurs => hne (List.infix_nil.mp hoccurs)⟩
  | succ n ih =>
    intro cs hlength hmem
    cases hparts : splitAtText marker cs with
    | none =>
      rw [splitOnText_of_none hparts, List.mem_singleton] at hmem
      rw [hmem]
      refine ⟨List.infix_refl _, fun hoccurs => ?_⟩
      rw [← isSome_splitAtText, hparts] at hoccurs
      cases hoccurs
    | some parts =>
      obtain ⟨a, b⟩ := parts
      obtain ⟨rfl, hfirst⟩ := splitAtText_eq_some hne hparts
      rw [splitOnText_of_some hne hparts] at hmem
      obtain rfl | hmem := List.mem_cons.mp hmem
      · exact ⟨(List.prefix_append _ _).isInfix, hfirst⟩
      · have hmarker := List.length_pos_of_ne_nil hne
        simp only [List.length_append] at hlength
        obtain ⟨hoccurs, hpart⟩ := ih b (by omega) hmem
        rw [← List.append_assoc]
        exact ⟨List.infix_append_of_infix_right hoccurs, hpart⟩

/-- `str::contains`. -/
def containsText (marker cs : List Char) : Bool := (splitAtText marker cs).isSome

theorem containsText_iff {marker cs : List Char} :
    containsText marker cs = true ↔ marker <:+: cs :=
  isSome_splitAtText

/-! ### Joined lines -/

/-- A line that stays one when it is joined with others. -/
def IsLine (cs : List Char) : Prop := cs ≠ [] ∧ '\n' ∉ cs ∧ cs.getLast? ≠ some '\r'

/-- Joined lines are split again. -/
theorem lines_intercalate {ls : List (List Char)} (h : ∀ l ∈ ls, IsLine l) :
    lines (['\n'].intercalate ls) = ls := by
  induction ls with
  | nil => rfl
  | cons l ls ih =>
    obtain ⟨hne, hline, hreturn⟩ := h l List.mem_cons_self
    have hrest := ih fun l' hl' => h l' (List.mem_cons_of_mem l hl')
    cases ls with
    | nil => rw [List.intercalate_singleton, lines_eq_singleton hline hne]
    | cons l' ls =>
      rw [List.intercalate_cons_cons, List.append_assoc, List.singleton_append,
        lines_append_of_ne hline hreturn, hrest]

/-- There is no blank line in joined lines. -/
theorem splitAtText_intercalate {ls : List (List Char)} (hne : ls ≠ []) (h : ∀ l ∈ ls, IsLine l)
    (b : List Char) :
    splitAtText "\n\n".toList (['\n'].intercalate ls ++ b)
      = (splitAtText "\n\n".toList b).map fun parts =>
          (['\n'].intercalate ls ++ parts.1, parts.2) := by
  have hmarker : "\n\n".toList = '\n' :: ['\n'] := rfl
  induction ls with
  | nil => exact absurd rfl hne
  | cons l ls ih =>
    have hline := (h l List.mem_cons_self).2.1
    cases ls with
    | nil => rw [List.intercalate_singleton, hmarker, splitAtText_skip hline]
    | cons l' ls =>
      have hrest := ih (by simp) fun l'' hl'' => h l'' (List.mem_cons_of_mem l hl'')
      -- the next line begins with a character of its own
      have hnext : ¬ ['\n'] <+: ['\n'].intercalate (l' :: ls) ++ b := by
        obtain ⟨hne', hline', -⟩ := h l' (List.mem_cons_of_mem l List.mem_cons_self)
        obtain ⟨c, cs, rfl⟩ := List.exists_cons_of_ne_nil hne'
        rw [List.intercalate_cons_cons_left, List.cons_append, List.cons_prefix_cons]
        rintro ⟨rfl, -⟩
        exact hline' List.mem_cons_self
      have hskip := @splitAtText_skip_word '\n' [] l ['\n'] _ (by simp) hline hnext
      rw [List.intercalate_cons_cons, List.append_assoc, List.append_assoc, List.singleton_append]
      rw [List.nil_append, ← hmarker, hrest, Option.map_map] at hskip
      rw [hskip]
      simp only [Function.comp_def, List.append_assoc, List.cons_append, List.nil_append]

/-- **Blocks of lines that are joined with blank lines are split again.** -/
theorem splitOnText_intercalate {blocks : List (List Char)} (hne : blocks ≠ [])
    (h : ∀ block ∈ blocks, ∃ ls ≠ [], (∀ l ∈ ls, IsLine l) ∧ block = ['\n'].intercalate ls) :
    splitOnText "\n\n".toList 0 ("\n\n".toList.intercalate blocks) = blocks := by
  induction blocks with
  | nil => exact absurd rfl hne
  | cons block blocks ih =>
    obtain ⟨ls, hls, hlines, rfl⟩ := h block List.mem_cons_self
    cases blocks with
    | nil =>
      have hnone := splitAtText_intercalate hls hlines []
      rw [List.append_nil] at hnone
      rw [List.intercalate_singleton]
      exact splitOnText_of_none hnone
    | cons block blocks =>
      have hrest := ih (by simp) fun block' hblock' => h block' (List.mem_cons_of_mem _ hblock')
      have hsome := splitAtText_intercalate hls hlines
        ("\n\n".toList ++ "\n\n".toList.intercalate (block :: blocks))
      rw [splitAtText_append _ _ (by decide), Option.map_some, List.append_nil] at hsome
      rw [List.intercalate_cons_cons, List.append_assoc, splitOnText_of_some (by decide) hsome,
        hrest]

end Lxcup.Apt
