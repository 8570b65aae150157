import CallSheet.Converter
import CallSheet.Shell.Token

/-!
# Quoted texts are inert

A shell that reads a text between quotes gets the text back, whatever stands in
it, if the text went through the converter for these quotes.

* Reading.  `marks` states the rules of quoting: it says what each character of
  a script does.  It is a reader of its own, so that the converters are not
  measured by the characters that they know themselves.
* Styles.  `Style` is one of the two quotes with its converter.
* Laws.  `marks_double` and `spelled?_single` read an escaped text up to the
  quote after it, and `word?_enclose` says that a quoted text is one word.
-/

namespace CallSheet.Text.ShellQuote

open Shell (Quotes endsWord)

/-! ## Reading -/

/-- What a character of a script does. -/
inductive Mark where
  /-- It stands for itself and means nothing else. -/
  | literal (c : Char)
  /-- It is outside quotes, where it may mean something to a later reader, such
  as a pattern. -/
  | bare (c : Char)
  | opens (quotes : Quotes)
  | closes (quotes : Quotes)
  /-- It starts an expansion. -/
  | expands (c : Char)
  /-- It ends a word. -/
  | divides (c : Char)
  /-- The script ends inside quotes. -/
  | unclosed (quotes : Quotes)
  deriving DecidableEq, Repr

/-- Whether an expansion starts here. -/
def startsExpansion (c : Char) : Bool := c == '$' || c == '\x60'

/-- Whether a backslash between double quotes escapes a character. -/
def isEscapable (c : Char) : Bool := "$\x60\"\\\n".toList.contains c

/-- Reads a script that starts inside the given quotes.  A backslash before the
end of a line takes both away, except between single quotes. -/
def marks : Quotes → List Char → List Mark
  | .none, [] => []
  | quotes, [] => [.unclosed quotes]
  | .none, '\\' :: c :: rest =>
    if c = '\n' then marks .none rest else .literal c :: marks .none rest
  | .none, c :: rest =>
    if c = '\x27' then .opens .single :: marks .single rest
    else if c = '"' then .opens .double :: marks .double rest
    else if startsExpansion c then .expands c :: marks .none rest
    else if endsWord c then .divides c :: marks .none rest
    else .bare c :: marks .none rest
  | .single, c :: rest =>
    if c = '\x27' then .closes .single :: marks .none rest
    else .literal c :: marks .single rest
  | .double, '\\' :: c :: rest =>
    if c = '\n' then marks .double rest
    else if isEscapable c then .literal c :: marks .double rest
    else .literal '\\' :: .literal c :: marks .double rest
  | .double, c :: rest =>
    if c = '"' then .closes .double :: marks .none rest
    else if startsExpansion c then .expands c :: marks .double rest
    else .literal c :: marks .double rest

/-- The characters that some marks spell, if they are literal and nothing but
quotes stands between them. -/
def spelled? : List Mark → Option (List Char)
  | [] => some []
  | .literal c :: rest => (spelled? rest).map (c :: ·)
  | .opens _ :: rest => spelled? rest
  | .closes _ :: rest => spelled? rest
  | _ => none

/-- The word that a script is, if it is one word of literal characters.  Quotes
with nothing between them are a word, too. -/
def word? (script : List Char) : Option (List Char) :=
  match marks .none script with
  | [] => none
  | mark :: rest => spelled? (mark :: rest)

/-! ## Escaped texts -/

theorem isEscapable_of_isActive {c : Char} (h : isActive c = true) :
    isEscapable c = true ∧ c ≠ '\n' := by
  simp only [isActive, Bool.or_eq_true, beq_iff_eq] at h
  rcases h with ((rfl | rfl) | rfl) | rfl <;> decide

/-- One escaped character between double quotes is read as the character. -/
theorem marks_doubleChar (c : Char) (rest : List Char) :
    marks .double (doubleChar c ++ rest) = .literal c :: marks .double rest := by
  rw [doubleChar]
  split
  · next h =>
    obtain ⟨hescapable, hbreak⟩ := isEscapable_of_isActive h
    simp [marks, hescapable, hbreak]
  · next h =>
    simp only [isActive, Bool.not_eq_true, Bool.or_eq_false_iff, beq_eq_false_iff_ne, ne_eq] at h
    simp [marks, startsExpansion, h]

/-- A text that is escaped for double quotes is read as it is, up to the quote
after it. -/
theorem marks_double (text rest : List Char) :
    marks .double (double text ++ '"' :: rest) =
      text.map .literal ++ .closes .double :: marks .none rest := by
  induction text with
  | nil => simp [double, marks]
  | cons c text ih =>
    rw [double, List.flatMap_cons, List.append_assoc, marks_doubleChar, ← double, ih]
    rfl

/-- One escaped character between single quotes spells the character; a quote
is read outside quotes. -/
theorem spelled?_singleChar (c : Char) (rest : List Char) :
    spelled? (marks .single (singleChar c ++ rest)) =
      (spelled? (marks .single rest)).map (c :: ·) := by
  rw [singleChar]
  split
  · next h =>
    subst h
    simp [marks, spelled?]
  · next h => simp [marks, spelled?, h]

/-- A text that is escaped for single quotes spells itself, up to the quote
after it. -/
theorem spelled?_single (text rest : List Char) :
    spelled? (marks .single (single text ++ '\x27' :: rest)) =
      (spelled? (marks .none rest)).map (text ++ ·) := by
  induction text with
  | nil => simp [single, marks, spelled?]
  | cons c text ih =>
    rw [single, List.flatMap_cons, List.append_assoc, spelled?_singleChar, ← single, ih,
      Option.map_map]
    rfl

theorem spelled?_literals (text : List Char) (rest : List Mark) :
    spelled? (text.map .literal ++ rest) = (spelled? rest).map (text ++ ·) := by
  induction text with
  | nil => simp
  | cons c text ih =>
    rw [List.map_cons, List.cons_append, spelled?, ih, Option.map_map]
    rfl

/-! ## Styles -/

/-- The quotes that a text is put between. -/
inductive Style where
  | single
  | double
  deriving DecidableEq, Repr

namespace Style

/-- The character of the quotes. -/
def quote : Style → Char
  | .single => '\x27'
  | .double => '"'

/-- What a shell is in after the opening quote. -/
def quotes : Style → Quotes
  | .single => .single
  | .double => .double

/-- A text as it is written between the quotes. -/
def escape : Style → List Char → List Char
  | .single => ShellQuote.single
  | .double => ShellQuote.double

/-- The name of the converter. -/
def converter : Style → String
  | .single => "shell_single"
  | .double => "shell_double"

/-- A text with its quotes. -/
def enclose (style : Style) (text : List Char) : List Char :=
  style.quote :: (style.escape text ++ [style.quote])

/-- The converter of a style is always there, and refuses nothing. -/
theorem apply_converter (style : Style) (value : String) :
    Converter.Registry.builtin.apply value [style.converter] =
      .ok (String.ofList (style.escape value.toList)) := by
  cases style <;> rfl

end Style

/-! ## Quoted texts -/

/-- A quoted text in a script is read between its quotes. -/
theorem marks_enclose (style : Style) (text rest : List Char) :
    marks .none (style.enclose text ++ rest) =
      .opens style.quotes :: marks style.quotes (style.escape text ++ style.quote :: rest) := by
  cases style <;> simp [Style.enclose, Style.quote, Style.quotes, marks]

/-- In a script, a quoted text spells itself, and then the script goes on
outside quotes. -/
theorem spelled?_enclose (style : Style) (text rest : List Char) :
    spelled? (marks .none (style.enclose text ++ rest)) =
      (spelled? (marks .none rest)).map (text ++ ·) := by
  rw [marks_enclose, spelled?]
  cases style with
  | single => exact spelled?_single text rest
  | double =>
    rw [Style.quotes, Style.escape, Style.quote, marks_double, spelled?_literals, spelled?]

/-- A quoted text is one word, and the word is the text. -/
theorem word?_enclose (style : Style) (text : List Char) :
    word? (style.enclose text) = some text := by
  have hspelled := spelled?_enclose style text []
  have hmarks := marks_enclose style text []
  rw [List.append_nil] at hspelled hmarks
  rw [hmarks] at hspelled
  rw [word?, hmarks]
  simpa [marks, spelled?] using hspelled

/-- Between double quotes, the quotes are closed by the last character only,
and nothing is expanded. -/
theorem marks_enclose_double (text : List Char) :
    marks .none (Style.double.enclose text) =
      .opens .double :: (text.map .literal ++ [.closes .double]) := by
  have hmarks := marks_enclose .double text []
  rw [List.append_nil] at hmarks
  rw [hmarks, Style.quotes, Style.escape, Style.quote, marks_double, marks]

end CallSheet.Text.ShellQuote
