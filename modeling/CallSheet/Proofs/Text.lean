import CallSheet.Text.Blank
import CallSheet.Text.Lines

/-!
# Laws of cutting a text

What the cuts of `Text.Split`, `Text.Blank` and `Text.Lines` do to a text that
is put together from parts.

There are four groups.

* Marks.  `dropStart?` answers exactly for the texts that start with the mark,
  and `cutAt` cuts exactly at the first mark (`cutAt_eq_some_iff`).
* Separators.  `splitOn_append_cons` cuts a text at one given separator, and
  `splitOn_join` takes the parts back out of a joined text.
* Blanks.  A text whose last character is no blank keeps its end, and blanks are
  cut off once (`trim_trim`).  `Trims` says what is left of a text between the blanks
  around it (`trims_iff`).
* Lines.  `Ended` says that a text is a list of lines, each with one of the two
  line endings, and `lines_of_ended` reads those lines back.  `Separated` and
  `lines_of_separated` are the same for line endings between the lines, and
  `fieldLines_of_separated` is the same for fields, but for blank lines.  Every text is
  one of ended lines and a last one (`exists_ended`), and so its field lines are known
  (`fieldLines_of_ended`).
  `firstLines` is the text of the first lines of a text.
-/

namespace CallSheet.Text

/-! ## Marks -/

@[simp] theorem dropStart?_append (mark rest : List Char) :
    dropStart? mark (mark ++ rest) = some rest :=
  dropStart?_eq_some_iff.2 rfl

theorem dropStart?_eq_none_iff {mark text : List Char} :
    dropStart? mark text = none ↔ ¬ mark <+: text := by
  constructor
  · rintro h ⟨rest, rfl⟩
    rw [dropStart?_append] at h
    exact absurd h (by simp)
  · intro h
    cases hd : dropStart? mark text with
    | none => rfl
    | some rest => exact absurd ⟨rest, (dropStart?_eq_some_iff.1 hd).symm⟩ h

/-- The cut is at a given mark, if the mark does not stand earlier: neither in
the text before it nor across the end of that text. -/
theorem cutAt_append {mark text : List Char} (h : ¬ mark <:+: text ++ mark.dropLast)
    (after : List Char) : cutAt mark (text ++ (mark ++ after)) = some (text, after) := by
  induction text with
  | nil =>
    cases mark with
    | nil => exact absurd List.nil_infix h
    | cons m mark =>
      have hstart : dropStart? (m :: mark) (m :: (mark ++ after)) = some after :=
        dropStart?_append (m :: mark) after
      simp only [List.nil_append, List.cons_append, cutAt, hstart]
  | cons c text ih =>
    have hlater : ¬ mark <:+: text ++ mark.dropLast :=
      fun hin => h (hin.trans (List.suffix_cons c _).isInfix)
    have hstart : ¬ mark <+: c :: (text ++ (mark ++ after)) := by
      intro hprefix
      have hopen : c :: text ++ mark.dropLast <+: c :: text ++ (mark ++ after) :=
        (List.prefix_append_right_inj (c :: text)).2
          ((List.dropLast_prefix mark).trans (List.prefix_append mark after))
      have hlength : mark.length ≤ (c :: text ++ mark.dropLast).length := by
        simp only [List.length_append, List.length_cons, List.length_dropLast]
        omega
      exact h (List.prefix_of_prefix_length_le hprefix hopen hlength).isInfix
    rw [List.cons_append, cutAt, dropStart?_eq_none_iff.2 hstart, ih hlater]
    rfl

/-- The cut is at the first occurrence of the mark, the mark's own characters counted. -/
theorem cutAt_eq_some_iff {mark text before after : List Char} (hmark : mark ≠ []) :
    cutAt mark text = some (before, after) ↔
      text = before ++ (mark ++ after) ∧ ¬ mark <:+: before ++ mark.dropLast := by
  refine ⟨fun h => ⟨by simpa using eq_of_cutAt h, ?_⟩, ?_⟩
  · induction text generalizing before with
    | nil => simp [cutAt, hmark] at h
    | cons c rest ih =>
      simp only [cutAt] at h
      split at h
      · obtain ⟨rfl, -⟩ : [] = before ∧ _ := by simpa using h
        intro hin
        have := hin.length_le
        have := List.length_pos_iff.2 hmark
        simp only [List.nil_append, List.length_dropLast] at *
        omega
      · next hstart =>
        obtain ⟨⟨before', after'⟩, hcut, heq⟩ := Option.map_eq_some_iff.1 h
        obtain ⟨rfl, rfl⟩ : c :: before' = before ∧ after' = after := by simpa using heq
        rw [List.cons_append, List.infix_cons_iff, not_or]
        refine ⟨fun hpre => ?_, ih hcut⟩
        have htext : rest = before' ++ (mark ++ after') := by simpa using eq_of_cutAt hcut
        have hopen : c :: (before' ++ mark.dropLast) <+: c :: rest := by
          rw [htext]
          exact (List.prefix_append_right_inj (c :: before')).2
            ((List.dropLast_prefix mark).trans (List.prefix_append mark after'))
        exact dropStart?_eq_none_iff.1 hstart (hpre.trans hopen)
  · rintro ⟨rfl, h⟩
    exact cutAt_append h after

theorem cutAt_eq_none_iff {mark text : List Char} : cutAt mark text = none ↔ ¬ mark <:+: text := by
  induction text with
  | nil => simp [cutAt]
  | cons c rest ih =>
    rw [List.infix_cons_iff, not_or, ← ih, ← dropStart?_eq_none_iff]
    simp only [cutAt]
    cases dropStart? mark (c :: rest) <;> simp

/-- A mark stands nowhere before the cut. -/
theorem length_le_of_cutAt {mark text before after other later : List Char} (hmark : mark ≠ [])
    (h : cutAt mark text = some (before, after)) (hother : text = other ++ (mark ++ later)) :
    before.length ≤ other.length := by
  obtain ⟨htext, hfirst⟩ := (cutAt_eq_some_iff hmark).1 h
  refine Nat.le_of_not_lt fun hlt => ?_
  have hleft : other ++ mark <+: text := ⟨later, by rw [hother, List.append_assoc]⟩
  have hright : before ++ mark.dropLast <+: text := by
    rw [htext]
    exact (List.prefix_append_right_inj before).2
      ((List.dropLast_prefix mark).trans (List.prefix_append mark after))
  have hpre : other ++ mark <+: before ++ mark.dropLast := by
    refine List.prefix_of_prefix_length_le hleft hright ?_
    simp only [List.length_append, List.length_dropLast]
    have := List.length_pos_iff.2 hmark
    omega
  exact hfirst ((List.suffix_append other mark).isInfix.trans hpre.isInfix)

/-! ## Separators -/

/-- A separator in the middle of a text divides its parts into those before it
and those after it. -/
theorem splitOn_append_cons (sep : Char) (before after : List Char) :
    splitOn sep (before ++ sep :: after) = splitOn sep before ++ splitOn sep after := by
  induction before with
  | nil => simp [splitOn]
  | cons c before ih =>
    by_cases h : c = sep
    · simp [splitOn, h, ih]
    · cases hs : splitOn sep before with
      | nil => exact absurd hs (splitOn_ne_nil sep before)
      | cons part parts =>
        rw [hs] at ih
        simp [splitOn, h, ih, hs]

/-- A text without the separator is its only part. -/
theorem splitOn_eq_singleton {sep : Char} {text : List Char} (h : sep ∉ text) :
    splitOn sep text = [text] := by
  induction text with
  | nil => rfl
  | cons c text ih =>
    rw [List.mem_cons, not_or] at h
    have hc : ¬ c = sep := fun e => h.1 e.symm
    simp [splitOn, hc, ih h.2]

/-- Joined parts come apart again if no part holds the separator. -/
theorem splitOn_join {sep : Char} {parts : List (List Char)} (hne : parts ≠ [])
    (h : ∀ part ∈ parts, sep ∉ part) : splitOn sep (join sep parts) = parts := by
  induction parts with
  | nil => exact absurd rfl hne
  | cons part parts ih =>
    have hpart : sep ∉ part := h part (by simp)
    cases parts with
    | nil => exact splitOn_eq_singleton hpart
    | cons next parts =>
      rw [join_cons_cons, splitOn_append_cons, splitOn_eq_singleton hpart,
        ih (by simp) (fun p hp => h p (List.mem_cons_of_mem _ hp))]
      rfl

theorem not_mem_of_mem_splitOn {sep : Char} {text part : List Char}
    (h : part ∈ splitOn sep text) : sep ∉ part := by
  induction text generalizing part with
  | nil =>
    have hp : part = [] := by simpa [splitOn] using h
    simp [hp]
  | cons c text ih =>
    cases hs : splitOn sep text with
    | nil => exact absurd hs (splitOn_ne_nil sep text)
    | cons first parts =>
      have ih' : ∀ p ∈ first :: parts, sep ∉ p := fun p hp => ih (hs ▸ hp)
      by_cases hc : c = sep
      · simp only [splitOn, hc, ↓reduceIte, hs, List.mem_cons] at h
        rcases h with rfl | h
        · simp
        · exact ih' part (by simpa using h)
      · simp only [splitOn, hc, ↓reduceIte, hs, List.mem_cons] at h
        rcases h with rfl | h
        · have hfirst : sep ∉ first := ih' first (by simp)
          rw [List.mem_cons, not_or]
          exact ⟨fun e => hc e.symm, hfirst⟩
        · exact ih' part (by simp [h])

/-- A text has one part more than it has separators. -/
theorem length_splitOn (sep : Char) (text : List Char) :
    (splitOn sep text).length = text.count sep + 1 := by
  induction text with
  | nil => rfl
  | cons c text ih =>
    cases hs : splitOn sep text with
    | nil => exact absurd hs (splitOn_ne_nil sep text)
    | cons part parts =>
      rw [hs] at ih
      by_cases h : c = sep
      · simp [splitOn, h, hs, ← ih]
      · simp [splitOn, h, hs, ← ih]

/-- The first cut falls at the separator that follows a text without one. -/
theorem splitOnce_append_cons {sep : Char} {before : List Char} (h : sep ∉ before)
    (after : List Char) : splitOnce sep (before ++ sep :: after) = some (before, after) := by
  induction before with
  | nil => simp [splitOnce]
  | cons c before ih =>
    rw [List.mem_cons, not_or] at h
    have hc : ¬ c = sep := fun e => h.1 e.symm
    simp [splitOnce, hc, ih h.2]

/-- The two sides of the first cut and the separator between them are the text. -/
theorem eq_of_splitOnce {sep : Char} {text before after : List Char}
    (h : splitOnce sep text = some (before, after)) : text = before ++ sep :: after := by
  induction text generalizing before with
  | nil => cases h
  | cons c rest ih =>
    rw [splitOnce] at h
    split at h
    · next hc =>
      cases h
      rw [hc, List.nil_append]
    · obtain ⟨⟨before', after'⟩, hcut, heq⟩ := Option.map_eq_some_iff.1 h
      cases heq
      rw [ih hcut, List.cons_append]

theorem splitOnce_eq_none_iff {sep : Char} {text : List Char} :
    splitOnce sep text = none ↔ sep ∉ text := by
  induction text with
  | nil => simp [splitOnce]
  | cons c rest ih =>
    by_cases hc : c = sep
    · simp [splitOnce, hc]
    · have hc' : ¬ sep = c := fun e => hc e.symm
      simp [splitOnce, hc, hc', ih]

/-- The cut is at the first separator. -/
theorem splitOnce_eq_some_iff {sep : Char} {text before after : List Char} :
    splitOnce sep text = some (before, after) ↔ text = before ++ sep :: after ∧ sep ∉ before := by
  refine ⟨fun h => ⟨eq_of_splitOnce h, ?_⟩, fun ⟨htext, hfree⟩ => ?_⟩
  · induction text generalizing before with
    | nil => cases h
    | cons c rest ih =>
      rw [splitOnce] at h
      split at h
      · cases h
        exact List.not_mem_nil
      · next hc =>
        obtain ⟨⟨before', after'⟩, hcut, heq⟩ := Option.map_eq_some_iff.1 h
        cases heq
        rw [List.mem_cons, not_or]
        exact ⟨fun e => hc e.symm, ih hcut⟩
  · rw [htext, splitOnce_append_cons hfree]

/-! ## Blanks -/

/-- A text keeps its end if it is empty or its last character is no blank. -/
theorem trimEnd_eq_self {text : List Char} (h : ∀ c ∈ text.getLast?, isBlank c = false) :
    trimEnd text = text := by
  rw [trimEnd]
  have hd : text.reverse.dropWhile isBlank = text.reverse := by
    cases hr : text.reverse with
    | nil => rfl
    | cons c rest =>
      have hc : isBlank c = false := by
        apply h
        rw [← List.head?_reverse, hr]
        rfl
      simp [hc]
  rw [hd, List.reverse_reverse]

/-- A text keeps its start if it is empty or its first character is no blank. -/
theorem trimStart_eq_self {text : List Char} (h : ∀ c ∈ text.head?, isBlank c = false) :
    trimStart text = text := by
  cases text with
  | nil => rfl
  | cons c rest =>
    have hc : isBlank c = false := h c rfl
    simp [trimStart, hc]

/-- Cutting the blanks off the end leaves a start of the text. -/
theorem trimEnd_prefix (text : List Char) : trimEnd text <+: text := by
  rw [trimEnd, ← List.reverse_suffix, List.reverse_reverse]
  exact List.dropWhile_suffix isBlank

/-- The first character that is left at an end is no blank. -/
theorem isBlank_of_mem_head?_trimStart (text : List Char) {c : Char}
    (h : c ∈ (trimStart text).head?) : isBlank c = false := by
  have hnot := List.head?_dropWhile_not isBlank text
  rw [← trimStart, Option.mem_def.1 h] at hnot
  exact hnot

theorem isBlank_of_mem_head?_trim (text : List Char) {c : Char} (h : c ∈ (trim text).head?) :
    isBlank c = false := by
  obtain ⟨rest, hrest⟩ := trimEnd_prefix (trimStart text)
  apply isBlank_of_mem_head?_trimStart text
  have hhead : (trimEnd (trimStart text)).head? = some c := h
  rw [← hrest, List.head?_append, hhead]
  rfl

theorem isBlank_of_mem_getLast?_trim (text : List Char) {c : Char} (h : c ∈ (trim text).getLast?) :
    isBlank c = false := by
  apply isBlank_of_mem_head?_trimStart (trimStart text).reverse
  rw [trim, trimEnd, List.getLast?_reverse] at h
  exact h

/-- A text without blanks at its ends has none to cut off. -/
@[simp] theorem trim_trim (text : List Char) : trim (trim text) = trim text := by
  have hstart : trimStart (trim text) = trim text :=
    trimStart_eq_self fun _ hc => isBlank_of_mem_head?_trim text hc
  have hend : trimEnd (trim text) = trim text :=
    trimEnd_eq_self fun _ hc => isBlank_of_mem_getLast?_trim text hc
  rw [trim, hstart, hend]

theorem trimEnd_eq_nil_iff {text : List Char} :
    trimEnd text = [] ↔ ∀ c ∈ text, isBlank c = true := by
  rw [trimEnd, List.reverse_eq_nil_iff]
  exact (trimStart_eq_nil_iff text.reverse).trans (by simp [allBlank])

/-- Nothing is left of a text if it holds nothing but blanks. -/
theorem trim_eq_nil_iff {text : List Char} : trim text = [] ↔ ∀ c ∈ text, isBlank c = true := by
  rw [trim, trimEnd_eq_nil_iff]
  refine ⟨fun h => ?_, fun h c hc => h c ((List.dropWhile_suffix isBlank).subset hc)⟩
  have hstart : trimStart text = [] := by
    cases hs : trimStart text with
    | nil => rfl
    | cons c rest =>
      -- the first character that is left would be a blank
      have hblank := h c (by rw [hs]; exact List.mem_cons_self)
      rw [isBlank_of_mem_head?_trimStart text (c := c) (by rw [hs]; rfl)] at hblank
      cases hblank
  simpa [allBlank] using (trimStart_eq_nil_iff text).1 hstart

theorem trimStart_append {before : List Char} (h : ∀ c ∈ before, isBlank c = true)
    (rest : List Char) : trimStart (before ++ rest) = trimStart rest :=
  List.dropWhile_append_of_pos h

theorem trimEnd_append {after : List Char} (h : ∀ c ∈ after, isBlank c = true)
    (rest : List Char) : trimEnd (rest ++ after) = trimEnd rest := by
  have hreverse : ∀ c ∈ after.reverse, isBlank c = true :=
    fun c hc => h c (List.mem_reverse.1 hc)
  rw [trimEnd, List.reverse_append, List.dropWhile_append_of_pos hreverse, ← trimEnd]

/-- Of a text with blanks around it, the text is left. -/
theorem trim_padded {before text after : List Char} (hbefore : ∀ c ∈ before, isBlank c = true)
    (hafter : ∀ c ∈ after, isBlank c = true) (hne : text ≠ [])
    (hfirst : ∀ c ∈ text.head?, isBlank c = false)
    (hlast : ∀ c ∈ text.getLast?, isBlank c = false) : trim (before ++ (text ++ after)) = text := by
  have hstart : trimStart (text ++ after) = text ++ after := by
    apply trimStart_eq_self
    cases text with
    | nil => exact absurd rfl hne
    | cons c rest => exact hfirst
  rw [trim, trimStart_append hbefore, hstart, trimEnd_append hafter, trimEnd_eq_self hlast]

theorem exists_trimEnd_append (text : List Char) :
    ∃ after, text = trimEnd text ++ after ∧ ∀ c ∈ after, isBlank c = true := by
  refine ⟨(text.reverse.takeWhile isBlank).reverse, ?_, fun c hc => ?_⟩
  · rw [trimEnd, ← List.reverse_append, List.takeWhile_append_dropWhile, List.reverse_reverse]
  · exact List.all_eq_true.1 List.all_takeWhile c (List.mem_reverse.1 hc)

/-- What is left of a text without the blanks around it. -/
structure Trims (text core : List Char) : Prop where
  around : ∃ before after, text = before ++ (core ++ after) ∧
    (∀ c ∈ before, isBlank c = true) ∧ ∀ c ∈ after, isBlank c = true
  first : ∀ c ∈ core.head?, isBlank c = false
  last : ∀ c ∈ core.getLast?, isBlank c = false

theorem trims_trim (text : List Char) : Trims text (trim text) where
  around := by
    obtain ⟨after, hafter, hblank⟩ := exists_trimEnd_append (trimStart text)
    refine ⟨text.takeWhile isBlank, after, ?_, List.all_eq_true.1 List.all_takeWhile, hblank⟩
    rw [trim, ← hafter, trimStart, List.takeWhile_append_dropWhile]
  first _ hc := isBlank_of_mem_head?_trim text hc
  last _ hc := isBlank_of_mem_getLast?_trim text hc

theorem trims_iff {text core : List Char} : Trims text core ↔ core = trim text := by
  constructor
  · rintro ⟨⟨before, after, rfl, hbefore, hafter⟩, hfirst, hlast⟩
    by_cases hne : core = []
    · subst hne
      symm
      rw [trim_eq_nil_iff, List.nil_append]
      exact fun c hc => (List.mem_append.1 hc).elim (hbefore c) (hafter c)
    · exact (trim_padded hbefore hafter hne hfirst hlast).symm
  · rintro rfl
    exact trims_trim text

/-! ## Lines -/

theorem lines_ne_nil (text : List Char) : lines text ≠ [] := by
  rw [lines, ne_eq, List.map_eq_nil_iff]
  exact splitOn_ne_nil '\n' text

@[simp] theorem dropCr_append_cr (line : List Char) : dropCr (line ++ ['\r']) = line := by
  simp [dropCr]

theorem dropCr_eq_self {line : List Char} (h : line.getLast? ≠ some '\r') : dropCr line = line := by
  simp [dropCr, h]

@[simp] theorem dropCr_nil : dropCr [] = [] := rfl

theorem lines_append_lineFeed (before after : List Char) :
    lines (before ++ '\n' :: after) = lines before ++ lines after := by
  rw [lines, splitOn_append_cons, List.map_append]
  rfl

theorem lines_eq_singleton {line : List Char} (h : '\n' ∉ line) : lines line = [dropCr line] := by
  rw [lines, splitOn_eq_singleton h]
  rfl

/-- Before a line feed there is a line, without the carriage return at its end. -/
theorem lines_line_append {line : List Char} (h : '\n' ∉ line) (text : List Char) :
    lines (line ++ '\n' :: text) = dropCr line :: lines text := by
  rw [lines_append_lineFeed, lines_eq_singleton h]
  rfl

theorem lines_crlf_append {line : List Char} (h : '\n' ∉ line) (text : List Char) :
    lines (line ++ '\r' :: '\n' :: text) = line :: lines text := by
  have hfree : '\n' ∉ line ++ ['\r'] := by simpa using h
  have hline := lines_line_append hfree text
  rw [dropCr_append_cr] at hline
  rw [← hline, List.append_assoc]
  rfl

/-- After a text that is empty or ends in a line feed, the lines of the rest
follow.  There are as many lines before them as the text has line feeds. -/
theorem lines_append_of_complete {text : List Char}
    (h : text = [] ∨ text.getLast? = some '\n') :
    ∃ complete : List (List Char), complete.length = text.count '\n' ∧
      ∀ rest, lines (text ++ rest) = complete ++ lines rest := by
  rcases h with rfl | h
  · exact ⟨[], rfl, fun _ => rfl⟩
  obtain ⟨before, rfl⟩ := List.getLast?_eq_some_iff.1 h
  refine ⟨lines before, ?_, ?_⟩
  · rw [lines, List.length_map, length_splitOn, List.count_append]
    rfl
  · intro rest
    rw [List.append_assoc, List.singleton_append, lines_append_lineFeed]

/-- No line holds a line feed. -/
theorem lineFeed_not_mem_of_mem_lines {text line : List Char} (h : line ∈ lines text) :
    '\n' ∉ line := by
  obtain ⟨part, hpart, rfl⟩ := List.mem_map.1 h
  intro hmem
  refine not_mem_of_mem_splitOn hpart ?_
  rw [dropCr] at hmem
  split at hmem
  · exact (List.dropLast_sublist part).subset hmem
  · exact hmem

/-- The first lines of a text, without the line break after the last of
them. -/
def firstLines (count : Nat) (text : List Char) : List Char :=
  join '\n' ((splitOn '\n' text).take count)

theorem lines_firstLines {count : Nat} (h : 0 < count) (text : List Char) :
    lines (firstLines count text) = (lines text).take count := by
  have hne : (splitOn '\n' text).take count ≠ [] := by
    rw [ne_eq, List.take_eq_nil_iff, not_or]
    exact ⟨by omega, splitOn_ne_nil '\n' text⟩
  have hfree : ∀ part ∈ (splitOn '\n' text).take count, '\n' ∉ part :=
    fun part hpart => not_mem_of_mem_splitOn (List.mem_of_mem_take hpart)
  rw [lines, firstLines, splitOn_join hne hfree, lines, List.map_take]

theorem dropCr_append {mark : List Char} (h : mark.getLast? ≠ some '\r') (rest : List Char) :
    dropCr (mark ++ rest) = mark ++ dropCr rest := by
  cases rest with
  | nil => rw [List.append_nil, dropCr_eq_self h, dropCr_nil, List.append_nil]
  | cons c rest =>
    have hlast : (mark ++ c :: rest).getLast? = (c :: rest).getLast? := by
      rw [List.getLast?_append, List.getLast?_cons]
      rfl
    rw [dropCr, dropCr, hlast]
    split
    · rw [List.dropLast_append_cons]
    · rfl

/-- A mark at the start of a text is the start of its first line. -/
theorem lines_mark_append {mark : List Char} (hfree : '\n' ∉ mark)
    (h : mark.getLast? ≠ some '\r') (rest : List Char) :
    ∃ title more, lines (mark ++ rest) = (mark ++ title) :: more := by
  have hsplit : ∃ part parts, splitOn '\n' (mark ++ rest) = (mark ++ part) :: parts := by
    clear h
    induction mark with
    | nil =>
      cases hs : splitOn '\n' rest with
      | nil => exact absurd hs (splitOn_ne_nil '\n' rest)
      | cons part parts => exact ⟨part, parts, hs⟩
    | cons c mark ih =>
      rw [List.mem_cons, not_or] at hfree
      have hc : ¬ c = '\n' := fun e => hfree.1 e.symm
      obtain ⟨part, parts, hs⟩ := ih hfree.2
      exact ⟨part, parts, by simp [splitOn, hc, hs]⟩
  obtain ⟨part, parts, hs⟩ := hsplit
  exact ⟨dropCr part, parts.map dropCr, by rw [lines, hs, List.map_cons, dropCr_append h]⟩

/-- A text is a list of lines, each with a line ending after it.  A line that
ends in a carriage return is not followed by a bare line feed, because the two
would be one ending. -/
inductive Ended : List (List Char) → List Char → Prop where
  | nil : Ended [] []
  | lf {line : List Char} {rest : List (List Char)} {text : List Char}
      (hline : line.getLast? ≠ some '\r') (hrest : Ended rest text) :
      Ended (line :: rest) (line ++ '\n' :: text)
  | crlf {line : List Char} {rest : List (List Char)} {text : List Char}
      (hrest : Ended rest text) :
      Ended (line :: rest) (line ++ '\r' :: '\n' :: text)

/-- Ends every line, with a carriage return where the mark says so. -/
def endLines : List (List Char × Bool) → List Char
  | [] => []
  | (line, true) :: rest => line ++ '\r' :: '\n' :: endLines rest
  | (line, false) :: rest => line ++ '\n' :: endLines rest

/-- Every choice of line endings gives a text of ended lines. -/
theorem ended_endLines {marked : List (List Char × Bool)}
    (h : ∀ entry ∈ marked, entry.2 = false → entry.1.getLast? ≠ some '\r') :
    Ended (marked.map Prod.fst) (endLines marked) := by
  induction marked with
  | nil => exact .nil
  | cons entry marked ih =>
    rw [List.forall_mem_cons] at h
    obtain ⟨line, mark⟩ := entry
    cases mark with
    | true => exact .crlf (ih h.2)
    | false => exact .lf (h.1 rfl) (ih h.2)

/-- The lines of a text of ended lines are these lines and the empty line
after the last ending. -/
theorem lines_of_ended {ended : List (List Char)} {text : List Char} (h : Ended ended text)
    (hfree : ∀ line ∈ ended, '\n' ∉ line) : lines text = ended ++ [[]] := by
  induction h with
  | nil => rfl
  | lf hline _ ih =>
    rw [List.forall_mem_cons] at hfree
    rw [lines_line_append hfree.1, dropCr_eq_self hline, ih hfree.2]
    rfl
  | crlf _ ih =>
    rw [List.forall_mem_cons] at hfree
    rw [lines_crlf_append hfree.1, ih hfree.2]
    rfl

/-- A text is a list of lines with one of the two line endings between every two of
them. -/
inductive Separated : List (List Char) → List Char → Prop where
  | last (line : List Char) : Separated [line] line
  | lf {line : List Char} {rest : List (List Char)} {text : List Char}
      (hrest : Separated rest text) : Separated (line :: rest) (line ++ '\n' :: text)
  | crlf {line : List Char} {rest : List (List Char)} {text : List Char}
      (hrest : Separated rest text) : Separated (line :: rest) (line ++ '\r' :: '\n' :: text)

theorem Separated.ne_nil {separated : List (List Char)} {text : List Char}
    (h : Separated separated text) : separated ≠ [] := by
  cases h <;> exact List.cons_ne_nil _ _

/-- The lines of a text of separated lines are these lines. -/
theorem lines_of_separated {separated : List (List Char)} {text : List Char}
    (h : Separated separated text) (hfree : ∀ line ∈ separated, '\n' ∉ line)
    (hcr : ∀ line ∈ separated, line.getLast? ≠ some '\r') : lines text = separated := by
  induction h with
  | last line =>
    have hline := hfree line List.mem_cons_self
    rw [lines_eq_singleton hline, dropCr_eq_self (hcr line List.mem_cons_self)]
  | lf _ ih =>
    rw [List.forall_mem_cons] at hfree hcr
    rw [lines_line_append hfree.1, dropCr_eq_self hcr.1, ih hfree.2 hcr.2]
  | crlf _ ih =>
    rw [List.forall_mem_cons] at hfree hcr
    rw [lines_crlf_append hfree.1, ih hfree.2 hcr.2]

theorem fieldLines_line_append {line : List Char} (h : '\n' ∉ line) (text : List Char) :
    fieldLines (line ++ '\n' :: text) = dropCr line :: fieldLines text := by
  rw [fieldLines, splitOn_append_cons, splitOn_eq_singleton h, fieldLines]
  cases hparts : splitOn '\n' text with
  | nil => exact absurd hparts (splitOn_ne_nil '\n' text)
  | cons part parts => rfl

theorem fieldLines_crlf_append {line : List Char} (h : '\n' ∉ line) (text : List Char) :
    fieldLines (line ++ '\r' :: '\n' :: text) = line :: fieldLines text := by
  have hfree : '\n' ∉ line ++ ['\r'] := by simpa using h
  have hline := fieldLines_line_append hfree text
  rw [dropCr_append_cr] at hline
  rw [← hline, List.append_assoc]
  rfl

/-- Of the lines of a field, those that hold something are the separated lines that do. -/
theorem fieldLines_of_separated {separated : List (List Char)} {text : List Char}
    (h : Separated separated text) (hfree : ∀ line ∈ separated, '\n' ∉ line)
    (hcr : ∀ line ∈ separated, line.getLast? ≠ some '\r') :
    (fieldLines text).filter (!allBlank ·) = separated.filter (!allBlank ·) := by
  induction h with
  | last line =>
    -- an empty last line is no line of a field, and it is blank
    rw [fieldLines, splitOn_eq_singleton (hfree line List.mem_cons_self), endedLines]
    cases line <;> rfl
  | lf _ ih =>
    rw [List.forall_mem_cons] at hfree hcr
    rw [fieldLines_line_append hfree.1, dropCr_eq_self hcr.1, List.filter_cons, List.filter_cons,
      ih hfree.2 hcr.2]
  | crlf _ ih =>
    rw [List.forall_mem_cons] at hfree hcr
    rw [fieldLines_crlf_append hfree.1, List.filter_cons, List.filter_cons, ih hfree.2 hcr.2]

/-- Every text is one of ended lines and a last one, which can be empty. -/
theorem exists_ended (text : List Char) :
    ∃ ended before last, text = before ++ last ∧ Ended ended before ∧
      (∀ line ∈ ended, '\n' ∉ line) ∧ '\n' ∉ last := by
  induction text with
  | nil => exact ⟨[], [], [], rfl, .nil, by simp, by simp⟩
  | cons c text ih =>
    obtain ⟨ended, before, last, rfl, hended, hfree, hlast⟩ := ih
    by_cases hc : c = '\n'
    · subst hc
      exact ⟨[] :: ended, '\n' :: before, last, rfl, .lf (by simp) hended,
        by simpa using hfree, hlast⟩
    -- the character comes before the first line
    cases hended with
    | nil =>
      refine ⟨[], [], c :: last, rfl, .nil, hfree, ?_⟩
      simpa [Ne.symm hc] using hlast
    | @lf line rest text hcr hrest =>
      rw [List.forall_mem_cons] at hfree
      by_cases hend : (c :: line).getLast? = some '\r'
      · obtain ⟨rfl, rfl⟩ : line = [] ∧ c = '\r' := by
          cases line with
          | nil => exact ⟨rfl, by simpa using hend⟩
          | cons d line => exact absurd (by simpa using hend) hcr
        exact ⟨[] :: rest, '\r' :: '\n' :: text, last, rfl, .crlf hrest,
          by simpa using hfree.2, hlast⟩
      · refine ⟨(c :: line) :: rest, (c :: line) ++ '\n' :: text, last, rfl, .lf hend hrest, ?_,
          hlast⟩
        rw [List.forall_mem_cons]
        exact ⟨by simpa [Ne.symm hc] using hfree.1, hfree.2⟩
    | @crlf line rest text hrest =>
      rw [List.forall_mem_cons] at hfree
      refine ⟨(c :: line) :: rest, (c :: line) ++ '\r' :: '\n' :: text, last, rfl, .crlf hrest, ?_,
        hlast⟩
      rw [List.forall_mem_cons]
      exact ⟨by simpa [Ne.symm hc] using hfree.1, hfree.2⟩

/-- The lines of a field are the ended ones, and the last one if it is not empty. -/
theorem fieldLines_of_ended {ended : List (List Char)} {before last : List Char}
    (h : Ended ended before) (hfree : ∀ line ∈ ended, '\n' ∉ line) (hlast : '\n' ∉ last) :
    fieldLines (before ++ last) = ended ++ if last = [] then [] else [last] := by
  induction h with
  | nil =>
    rw [List.nil_append, fieldLines, splitOn_eq_singleton hlast, endedLines]
    cases last <;> rfl
  | @lf line rest text hline _ ih =>
    rw [List.forall_mem_cons] at hfree
    rw [List.append_assoc, List.cons_append, fieldLines_line_append hfree.1, dropCr_eq_self hline,
      ih hfree.2]
    rfl
  | @crlf line rest text _ ih =>
    rw [List.forall_mem_cons] at hfree
    rw [List.append_assoc, List.cons_append, List.cons_append, fieldLines_crlf_append hfree.1,
      ih hfree.2]
    rfl

/-- Lines joined by line feeds are separated lines. -/
theorem separated_join {joined : List (List Char)} (h : joined ≠ []) :
    Separated joined (join '\n' joined) := by
  induction joined with
  | nil => exact absurd rfl h
  | cons line rest ih =>
    cases rest with
    | nil => exact .last line
    | cons next rest => exact .lf (ih (List.cons_ne_nil next rest))

/-- A text of separated lines starts with the first line. -/
theorem Separated.starts {line text : List Char} {rest : List (List Char)}
    (h : Separated (line :: rest) text) : line <+: text := by
  cases h with
  | last => exact List.prefix_rfl
  | lf _ => exact List.prefix_append _ _
  | crlf _ => exact List.prefix_append _ _

/-- A text of separated lines ends with the last line. -/
theorem Separated.ends {separated : List (List Char)} {line text : List Char}
    (h : Separated separated text) (hlast : separated.getLast? = some line) : line <:+ text := by
  induction h with
  | last _ =>
    obtain rfl := Option.some.inj hlast
    exact List.suffix_rfl
  | lf hrest ih =>
    rw [List.getLast?_cons_of_ne_nil hrest.ne_nil] at hlast
    exact (ih hlast).trans ((List.suffix_cons _ _).trans (List.suffix_append _ _))
  | crlf hrest ih =>
    rw [List.getLast?_cons_of_ne_nil hrest.ne_nil] at hlast
    have htail := (ih hlast).trans ((List.suffix_cons '\n' _).trans (List.suffix_cons '\r' _))
    exact htail.trans (List.suffix_append _ _)

end CallSheet.Text
