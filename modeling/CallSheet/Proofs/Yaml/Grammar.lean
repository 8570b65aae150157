import CallSheet.Text.Digits
import Mathlib.Data.List.DropRight

/-!
# A grammar for YAML

The part of YAML 1.1 that block mappings of texts need, as relations between a text and
what can be read in it, and that there is at most one reading.

A scalar is read as a text whatever its characters look like.  Lines are not folded, so a
quoted scalar goes on behind the end of a line only where the line ends with a separator
of lines or paragraphs, which a reader keeps.

There are two groups.

* Grammar.  Each relation says what can be read at the start of a text, and what is left
  of the text after it.  `Spells` is about a whole text.
* One reading.  The text determines what a relation reads, by one lemma for each relation
  up to `Spells.unique`.
-/

namespace CallSheet.Yaml

open Text

/-! ## Grammar -/

/-- The blanks within a line. -/
def blanks : List Char := [' ', '\t']

/-- The characters that end a line. -/
def breaks : List Char := ['\n', '\r', '\u0085', '\u2028', '\u2029']

/-- The characters that can stand in a text as they are. -/
def IsPrintable (c : Char) : Prop :=
  c ∈ blanks ∨ c ∈ breaks ∨ 0x20 ≤ c.toNat ∧ c.toNat ≤ 0x7E ∨
    0xA0 ≤ c.toNat ∧ c.toNat ≤ 0xD7FF ∨
    0xE000 ≤ c.toNat ∧ c.toNat ≤ 0xFFFD ∧ c.toNat ≠ 0xFEFF ∨ 0x10000 ≤ c.toNat

/-- What the end of a line at the start of a text counts as, and what is left after it.
The separators of lines and paragraphs stand for themselves, and all others for a line
feed. -/
def lineEnd? : List Char → Option (Char × List Char)
  | '\r' :: '\n' :: left => some ('\n', left)
  | c :: left =>
    if c ∈ breaks then some (if c = '\u2028' ∨ c = '\u2029' then c else '\n', left) else none
  | [] => none

/-- A text starts with a blank or the end of a line, or it is empty. -/
def Separated (text : List Char) : Prop := ∀ c ∈ text.head?, c ∈ blanks ∨ c ∈ breaks

/-- A scalar without quotes ends here: behind blanks, the line ends, a colon is set apart
from what follows, or a comment starts. -/
def EndsPlain (text : List Char) : Prop :=
  let rest := text.dropWhile (· ∈ blanks)
  (∀ c ∈ rest.head?, c ∈ breaks) ∨ (∃ after, rest = ':' :: after ∧ Separated after) ∨
    (rest.head? = some '#' ∧ rest ≠ text)

/-- The characters with a meaning at the start of a scalar. -/
def indicators : List Char := "-?:,[]\x7b\x7d#&*!|>'\"%@\x60".toList

/-- A scalar without quotes can start here.  Three indicators are like any other character
unless a blank follows. -/
def StartsPlain (text : List Char) : Prop :=
  ∃ c rest, text = c :: rest ∧ c ∉ blanks ∧ c ∉ breaks ∧
    (c ∈ indicators → c ∈ ['-', '?', ':'] ∧ ¬ Separated rest)

/-- The characters of a scalar without quotes. -/
inductive ReadsPlain : List Char → List Char → List Char → Prop where
  | stop {left : List Char} (hend : EndsPlain left) : ReadsPlain left [] left
  | char {c : Char} {text chars left : List Char} (hmore : ¬ EndsPlain (c :: text))
      (hc : IsPrintable c) (rest : ReadsPlain text chars left) :
      ReadsPlain (c :: text) (c :: chars) left

/-- The characters of a scalar between single quotes, and the closing quote.  Blanks at the
start of a line do not count, and there are none at the end of one. -/
inductive ReadsSingle : List Char → List Char → List Char → Prop where
  | close {left : List Char} (hend : left.head? ≠ some '\'') : ReadsSingle ('\'' :: left) [] left
  | quote {text chars left : List Char} (rest : ReadsSingle text chars left) :
      ReadsSingle ('\'' :: '\'' :: text) ('\'' :: chars) left
  | char {c : Char} {text chars left : List Char} (hquote : c ≠ '\'') (hbreak : c ∉ breaks)
      (hblank : c ∈ blanks → lineEnd? (text.dropWhile (· ∈ blanks)) = none) (hc : IsPrintable c)
      (rest : ReadsSingle text chars left) : ReadsSingle (c :: text) (c :: chars) left
  | line {c : Char} {text chars left : List Char} (hc : c = '\u2028' ∨ c = '\u2029')
      (rest : ReadsSingle (text.dropWhile (· ∈ blanks)) chars left) :
      ReadsSingle (c :: text) (c :: chars) left

/-- What a character after a backslash stands for. -/
def shortEscapes : List (Char × Char) :=
  [('0', '\x00'), ('a', '\x07'), ('b', '\x08'), ('t', '\t'), ('n', '\n'), ('v', '\x0b'),
    ('f', '\x0c'), ('r', '\r'), ('e', '\x1b'), (' ', ' '), ('"', '"'), ('/', '/'), ('\\', '\\'),
    ('N', '\u0085'), ('_', '\u00a0'), ('L', '\u2028'), ('P', '\u2029')]

/-- How many digits come after a letter after a backslash. -/
def codeWidths : List (Char × Nat) := [('x', 2), ('u', 4), ('U', 8)]

/-- The characters of a scalar between double quotes, and the closing quote. -/
inductive ReadsDouble : List Char → List Char → List Char → Prop where
  | close (left : List Char) : ReadsDouble ('"' :: left) [] left
  | char {c : Char} {text chars left : List Char} (hquote : c ≠ '"') (hmark : c ≠ '\\')
      (hbreak : c ∉ breaks) (hc : IsPrintable c) (rest : ReadsDouble text chars left) :
      ReadsDouble (c :: text) (c :: chars) left
  | short {mark c : Char} {text chars left : List Char}
      (hmark : shortEscapes.lookup mark = some c) (rest : ReadsDouble text chars left) :
      ReadsDouble ('\\' :: mark :: text) (c :: chars) left
  | code {mark : Char} {width n : Nat} {text digits after chars left : List Char}
      (hmark : codeWidths.lookup mark = some width) (htext : text = digits ++ after)
      (hwidth : digits.length = width) (hn : digits? 16 digits = some n)
      (rest : ReadsDouble after chars left) :
      ReadsDouble ('\\' :: mark :: text) (Char.ofNat n :: chars) left

/-- A scalar that is not a block. -/
inductive ReadsInline : List Char → List Char → List Char → Prop where
  | plain {text chars left : List Char} (hstart : StartsPlain text)
      (h : ReadsPlain text chars left) : ReadsInline text chars left
  | single {text chars left : List Char} (h : ReadsSingle text chars left) :
      ReadsInline ('\'' :: text) chars left
  | double {text chars left : List Char} (h : ReadsDouble text chars left) :
      ReadsInline ('"' :: text) chars left

/-- The lines of a block that are indented by a number of spaces, from the start of a line
or from within one. -/
inductive ReadsLines (width : Nat) : Bool → List Char → List Char → List Char → Prop where
  | stop {left : List Char} (hwidth : ¬ List.replicate width ' ' <+: left)
      (hend : lineEnd? (left.dropWhile (· == ' ')) = none) : ReadsLines width true left [] left
  | empty {c : Char} {text after chars left : List Char}
      (hwidth : ¬ List.replicate width ' ' <+: text)
      (hend : lineEnd? (text.dropWhile (· == ' ')) = some (c, after))
      (rest : ReadsLines width true after chars left) : ReadsLines width true text (c :: chars) left
  | indented {text after chars left : List Char}
      (htext : text = List.replicate width ' ' ++ after)
      (rest : ReadsLines width false after chars left) : ReadsLines width true text chars left
  | char {c : Char} {text chars left : List Char} (hbreak : c ∉ breaks) (hc : IsPrintable c)
      (rest : ReadsLines width false text chars left) :
      ReadsLines width false (c :: text) (c :: chars) left
  | line {c : Char} {text after chars left : List Char} (hend : lineEnd? text = some (c, after))
      (rest : ReadsLines width true after chars left) :
      ReadsLines width false text (c :: chars) left
  | finish : ReadsLines width false [] [] []

/-- What becomes of the line ends behind the last line of a block. -/
inductive Ending where
  /-- One of them counts. -/
  | clip
  | strip
  | keep

/-- The sign for the line ends in the header of a block, and what is left after it. -/
def Ending.read : List Char → Ending × List Char
  | '-' :: left => (.strip, left)
  | '+' :: left => (.keep, left)
  | left => (.clip, left)

/-- The text of a block with these lines. -/
def Ending.cut (ending : Ending) (lines : List Char) : List Char :=
  let content := lines.rdropWhile (· ∈ breaks)
  match ending with
  | .clip => if content = [] then [] else lines.take (content.length + 1)
  | .strip => content
  | .keep => lines

/-- The number of spaces in the header of a block, and what is left after it. -/
def widthHint : List Char → Option Nat × List Char
  | c :: left => if c ∈ "123456789".toList then (digitValue? c, left) else (none, c :: left)
  | [] => (none, [])

/-- The lines of a block are indented as the header says, or else as the first line is,
which is not empty then. -/
inductive Indented : Option Nat → List Char → Nat → Prop where
  | said (width : Nat) (text : List Char) : Indented (some width) text width
  | shown {c : Char} {text rest : List Char} (hfirst : text.dropWhile (· == ' ') = c :: rest)
      (hc : c ∉ breaks) : Indented none text (text.takeWhile (· == ' ')).length

/-- A scalar of any style, and the end of its last line. -/
inductive ReadsNode : List Char → List Char → List Char → Prop where
  | inline {c : Char} {text chars after left : List Char} (h : ReadsInline text chars after)
      (hend : lineEnd? (after.dropWhile (· ∈ blanks)) = some (c, left)) : ReadsNode text chars left
  | block {ending : Ending} {width : Nat} {header text lines left : List Char}
      (hending : Ending.read (widthHint header).2 = (ending, '\n' :: text))
      (hpos : 0 < width) (hwidth : Indented (widthHint header).1 text width)
      (h : ReadsLines width true text lines left) :
      ReadsNode ('|' :: header) (ending.cut lines) left

/-- What starts here would start or end a document. -/
def IsMarker (text : List Char) : Prop :=
  (text.take 3 = ['-', '-', '-'] ∨ text.take 3 = ['.', '.', '.']) ∧ Separated (text.drop 3)

/-- The most characters of a name that has no question mark before it. -/
def longestName : Nat := 1024

/-- An entry of a block mapping. -/
inductive ReadsEntry : List Char → List Char × List Char → List Char → Prop where
  | short {text source name value after left : List Char} (hmarker : ¬ IsMarker text)
      (hname : ReadsInline text name (':' :: ' ' :: after))
      (htext : text = source ++ ':' :: ' ' :: after) (hline : ∀ c ∈ source, c ∉ breaks)
      (hlength : source.length ≤ longestName) (hvalue : ReadsNode after value left) :
      ReadsEntry text (name, value) left
  | long {text name value after left : List Char}
      (hname : ReadsNode text name (':' :: ' ' :: after)) (hvalue : ReadsNode after value left) :
      ReadsEntry ('?' :: ' ' :: text) (name, value) left

/-- The entries of a block mapping, up to the end of the text. -/
inductive ReadsEntries : List Char → List (List Char × List Char) → Prop where
  | none : ReadsEntries [] []
  | more {text left : List Char} {entry : List Char × List Char}
      {entries : List (List Char × List Char)} (h : ReadsEntry text entry left)
      (rest : ReadsEntries left entries) : ReadsEntries text (entry :: entries)

/-- A text spells a mapping. -/
inductive Spells : List Char → List (List Char × List Char) → Prop where
  | empty : Spells ['\x7b', '\x7d', '\n'] []
  | block {text : List Char} {entries : List (List Char × List Char)} (hne : entries ≠ [])
      (h : ReadsEntries text entries) : Spells text entries

/-! ## One reading -/

variable {text chars chars' left left' name value rest : List Char} {c d : Char}

theorem ReadsPlain.unique (h : ReadsPlain text chars left) (h' : ReadsPlain text chars' left') :
    chars' = chars ∧ left' = left := by
  induction h generalizing chars' with
  | stop hend =>
    cases h' with
    | stop => exact ⟨rfl, rfl⟩
    | char hmore => exact absurd hend hmore
  | char hmore hc rest ih =>
    cases h' with
    | stop hend => exact absurd hend hmore
    | char _ _ rest' =>
      obtain ⟨rfl, rfl⟩ := ih rest'
      exact ⟨rfl, rfl⟩

theorem mem_breaks_of_separator (h : c = '\u2028' ∨ c = '\u2029') : c ∈ breaks := by
  rcases h with rfl | rfl <;> decide

theorem ne_quote_of_separator (h : c = '\u2028' ∨ c = '\u2029') : c ≠ '\'' := by
  rcases h with rfl | rfl <;> decide

theorem ReadsSingle.unique (h : ReadsSingle text chars left) (h' : ReadsSingle text chars' left') :
    chars' = chars ∧ left' = left := by
  induction h generalizing chars' with
  | close hend =>
    cases h' with
    | close => exact ⟨rfl, rfl⟩
    | quote => exact absurd rfl hend
    | char hquote => exact absurd rfl hquote
    | line hc => exact absurd rfl (ne_quote_of_separator hc)
  | quote rest ih =>
    cases h' with
    | close hend => exact absurd rfl hend
    | quote rest' =>
      obtain ⟨rfl, rfl⟩ := ih rest'
      exact ⟨rfl, rfl⟩
    | char hquote => exact absurd rfl hquote
    | line hc => exact absurd rfl (ne_quote_of_separator hc)
  | char hquote hbreak _ _ rest ih =>
    cases h' with
    | close | quote => exact absurd rfl hquote
    | char _ _ _ _ rest' =>
      obtain ⟨rfl, rfl⟩ := ih rest'
      exact ⟨rfl, rfl⟩
    | line hc => exact absurd (mem_breaks_of_separator hc) hbreak
  | line hc rest ih =>
    cases h' with
    | close | quote => exact absurd rfl (ne_quote_of_separator hc)
    | char _ hbreak => exact absurd (mem_breaks_of_separator hc) hbreak
    | line _ rest' =>
      obtain ⟨rfl, rfl⟩ := ih rest'
      exact ⟨rfl, rfl⟩

/-- No letter stands both for a character and for a code. -/
theorem lookup_codeWidths_eq_none (h : shortEscapes.lookup c = some d) :
    codeWidths.lookup c = none := by
  have hnone : ∀ code ∈ codeWidths, shortEscapes.lookup code.1 = none := by decide
  rw [List.lookup_eq_none_iff]
  intro code hcode
  rw [bne_iff_ne]
  rintro rfl
  rw [hnone code hcode] at h
  cases h

theorem ReadsDouble.unique (h : ReadsDouble text chars left) (h' : ReadsDouble text chars' left') :
    chars' = chars ∧ left' = left := by
  induction h generalizing chars' with
  | close left =>
    cases h' with
    | close => exact ⟨rfl, rfl⟩
    | char hquote => exact absurd rfl hquote
  | char hquote hmark _ _ rest ih =>
    cases h' with
    | close => exact absurd rfl hquote
    | char _ _ _ _ rest' =>
      obtain ⟨rfl, rfl⟩ := ih rest'
      exact ⟨rfl, rfl⟩
    | short | code => exact absurd rfl hmark
  | short hmark rest ih =>
    cases h' with
    | char _ hmark' => exact absurd rfl hmark'
    | short hmark' rest' =>
      rw [hmark] at hmark'
      obtain rfl := Option.some.inj hmark'
      obtain ⟨rfl, rfl⟩ := ih rest'
      exact ⟨rfl, rfl⟩
    | code hmark' =>
      rw [lookup_codeWidths_eq_none hmark] at hmark'
      cases hmark'
  | code hmark htext hwidth hn rest ih =>
    cases h' with
    | char _ hmark' => exact absurd rfl hmark'
    | short hmark' =>
      rw [lookup_codeWidths_eq_none hmark'] at hmark
      cases hmark
    | code hmark' htext' hwidth' hn' rest' =>
      rw [hmark] at hmark'
      obtain rfl := Option.some.inj hmark'
      obtain ⟨rfl, rfl⟩ := List.append_inj (htext.symm.trans htext') (hwidth.trans hwidth'.symm)
      rw [hn] at hn'
      obtain rfl := Option.some.inj hn'
      obtain ⟨rfl, rfl⟩ := ih rest'
      exact ⟨rfl, rfl⟩

theorem not_startsPlain (hc : c ∈ indicators) (hother : c ∉ ['-', '?', ':']) :
    ¬ StartsPlain (c :: text) := by
  rintro ⟨first, rest, heq, -, -, hfirst⟩
  obtain ⟨rfl, rfl⟩ := List.cons.inj heq
  exact hother (hfirst hc).1

theorem ReadsInline.unique (h : ReadsInline text chars left)
    (h' : ReadsInline text chars' left') : chars' = chars ∧ left' = left := by
  cases h with
  | plain hstart h =>
    cases h' with
    | plain _ h' => exact h.unique h'
    | single | double => exact absurd hstart (not_startsPlain (by decide) (by decide))
  | single h =>
    cases h' with
    | plain hstart => exact absurd hstart (not_startsPlain (by decide) (by decide))
    | single h' => exact h.unique h'
  | double h =>
    cases h' with
    | plain hstart => exact absurd hstart (not_startsPlain (by decide) (by decide))
    | double h' => exact h.unique h'

theorem lineEnd?_cons_of_not_mem (hc : c ∉ breaks) (text : List Char) :
    lineEnd? (c :: text) = none := by
  have hreturn : c ≠ '\r' := by
    rintro rfl
    exact hc (by decide)
  unfold lineEnd?
  split
  · next heq => exact absurd (List.cons.inj heq).1 hreturn
  · next heq =>
    obtain ⟨rfl, rfl⟩ := List.cons.inj heq
    rw [if_neg hc]
  · rfl

theorem ReadsLines.unique {width : Nat} {atStart : Bool}
    (h : ReadsLines width atStart text chars left)
    (h' : ReadsLines width atStart text chars' left') : chars' = chars ∧ left' = left := by
  induction h generalizing chars' with
  | stop hwidth hend =>
    cases h' with
    | stop => exact ⟨rfl, rfl⟩
    | empty _ hend' =>
      rw [hend] at hend'
      cases hend'
    | indented htext => exact absurd ⟨_, htext.symm⟩ hwidth
  | empty hwidth hend rest ih =>
    cases h' with
    | stop _ hend' =>
      rw [hend] at hend'
      cases hend'
    | empty _ hend' rest' =>
      rw [hend] at hend'
      cases hend'
      obtain ⟨rfl, rfl⟩ := ih rest'
      exact ⟨rfl, rfl⟩
    | indented htext => exact absurd ⟨_, htext.symm⟩ hwidth
  | indented htext rest ih =>
    cases h' with
    | stop hwidth | empty hwidth => exact absurd ⟨_, htext.symm⟩ hwidth
    | indented htext' rest' =>
      obtain rfl := List.append_cancel_left (htext.symm.trans htext')
      exact ih rest'
  | char hbreak _ rest ih =>
    cases h' with
    | char _ _ rest' =>
      obtain ⟨rfl, rfl⟩ := ih rest'
      exact ⟨rfl, rfl⟩
    | line hend =>
      rw [lineEnd?_cons_of_not_mem hbreak] at hend
      cases hend
  | line hend rest ih =>
    cases h' with
    | char hbreak =>
      rw [lineEnd?_cons_of_not_mem hbreak] at hend
      cases hend
    | line hend' rest' =>
      rw [hend] at hend'
      cases hend'
      obtain ⟨rfl, rfl⟩ := ih rest'
      exact ⟨rfl, rfl⟩
    | finish => cases hend
  | finish =>
    cases h' with
    | line hend => cases hend
    | finish => exact ⟨rfl, rfl⟩

theorem Indented.unique {hint : Option Nat} {width width' : Nat} (h : Indented hint text width)
    (h' : Indented hint text width') : width' = width := by
  cases h with
  | said =>
    cases h'
    rfl
  | shown =>
    cases h'
    rfl

theorem ReadsNode.unique (h : ReadsNode text chars left) (h' : ReadsNode text chars' left') :
    chars' = chars ∧ left' = left := by
  have hbar : ∀ {header chars left : List Char}, ¬ ReadsInline ('|' :: header) chars left := by
    rintro header chars left (⟨hstart, -⟩ | _ | _)
    exact absurd hstart (not_startsPlain (by decide) (by decide))
  cases h with
  | inline h hend =>
    cases h' with
    | inline h' hend' =>
      obtain ⟨rfl, rfl⟩ := h.unique h'
      rw [hend] at hend'
      cases hend'
      exact ⟨rfl, rfl⟩
    | block => exact absurd h hbar
  | block hending hpos hwidth h =>
    cases h' with
    | inline h' => exact absurd h' hbar
    | block hending' hpos' hwidth' h' =>
      rw [hending] at hending'
      cases hending'
      obtain rfl := hwidth.unique hwidth'
      obtain ⟨rfl, rfl⟩ := h.unique h'
      exact ⟨rfl, rfl⟩

theorem ReadsEntry.unique {entry entry' : List Char × List Char} (h : ReadsEntry text entry left)
    (h' : ReadsEntry text entry' left') : entry' = entry ∧ left' = left := by
  have hmark : ∀ {after chars left : List Char},
      ¬ ReadsInline ('?' :: ' ' :: after) chars left := by
    rintro after chars left (⟨⟨c, rest, heq, -, -, hc⟩, -⟩ | _ | _)
    obtain ⟨rfl, rfl⟩ := List.cons.inj heq
    exact (hc (by decide)).2 fun c hfirst => .inl (by
      obtain rfl := Option.some.inj hfirst
      decide)
  cases h with
  | short _ hname _ _ _ hvalue =>
    cases h' with
    | short _ hname' _ _ _ hvalue' =>
      obtain ⟨rfl, heq⟩ := hname.unique hname'
      cases heq
      obtain ⟨rfl, rfl⟩ := hvalue.unique hvalue'
      exact ⟨rfl, rfl⟩
    | long => exact absurd hname hmark
  | long hname hvalue =>
    cases h' with
    | short _ hname' => exact absurd hname' hmark
    | long hname' hvalue' =>
      obtain ⟨rfl, heq⟩ := hname.unique hname'
      cases heq
      obtain ⟨rfl, rfl⟩ := hvalue.unique hvalue'
      exact ⟨rfl, rfl⟩

/-- No entry starts with a brace, a blank or the end of a line. -/
theorem ReadsEntry.exists_cons {entry : List Char × List Char} (h : ReadsEntry text entry left) :
    ∃ c rest, text = c :: rest ∧ c ≠ '\x7b' ∧ c ∉ blanks ∧ c ∉ breaks := by
  cases h with
  | short _ hname =>
    cases hname with
    | plain hstart =>
      obtain ⟨c, rest, rfl, hblank, hbreak, hc⟩ := hstart
      refine ⟨c, rest, rfl, ?_, hblank, hbreak⟩
      rintro rfl
      exact absurd (hc (by decide)).1 (by decide)
    | single | double => exact ⟨_, _, rfl, by decide⟩
  | long => exact ⟨_, _, rfl, by decide⟩

theorem ReadsEntries.unique {entries entries' : List (List Char × List Char)}
    (h : ReadsEntries text entries) (h' : ReadsEntries text entries') : entries' = entries := by
  induction h generalizing entries' with
  | none =>
    cases h' with
    | none => rfl
    | more h' =>
      obtain ⟨c, rest, heq, -⟩ := h'.exists_cons
      cases heq
  | more h rest ih =>
    cases h' with
    | none =>
      obtain ⟨c, rest, heq, -⟩ := h.exists_cons
      cases heq
    | more h' rest' =>
      obtain ⟨rfl, rfl⟩ := h.unique h'
      rw [ih rest']

/-- A text spells one mapping. -/
theorem Spells.unique {entries entries' : List (List Char × List Char)} (h : Spells text entries)
    (h' : Spells text entries') : entries' = entries := by
  have hbrace : ∀ {rest : List Char} {entries : List (List Char × List Char)}, entries ≠ [] →
      ¬ ReadsEntries ('\x7b' :: rest) entries := by
    rintro rest entries hne (_ | ⟨h, -⟩)
    obtain ⟨c, after, heq, hc, -⟩ := h.exists_cons
    exact hc (List.cons.inj heq).1.symm
  cases h with
  | empty =>
    cases h' with
    | empty => rfl
    | block hne h' => exact absurd h' (hbrace hne)
  | block hne h =>
    cases h' with
    | empty => exact absurd h (hbrace hne)
    | block _ h' => exact h.unique h'

end CallSheet.Yaml
