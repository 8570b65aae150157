import CallSheet.Proofs.Document.Trace

/-!
# Faults of a text

What an error says about the text that cannot be read.

There are three groups.

* Lines that cannot be read.  `Reader.Fails` lists the ways in which a step
  fails, and `fails_of_step_eq_error` says that there are no others.
* Runs that fail.  A run ends at the first line that cannot be read, or else
  between two fences (`stops_of_parse`).  In both cases the reader that comes to
  the line of the error is outside every fence, so the lines before it are a
  text that can be read.
* Errors.  `ParseError.Explains` says what an error tells of its line, and
  `Document.fault_of_parse` is the result.
-/

namespace CallSheet

open Text

/-! ## Lines that cannot be read -/

namespace Reader

variable {reader next : Reader} {name : SectionName} {number : Nat} {line title : List Char}
  {error : ParseError}

/-- The ways in which a line cannot be read. -/
inductive Fails (reader : Reader) (number : Nat) (line : List Char) : ParseError → Prop where
  /-- The mark of a section that was opened before. -/
  | again (hf : reader.place.isFenced = false) {title : List Char}
      (hl : line = sectionMark ++ title) {name : SectionName}
      (ht : SectionName.ofTitle? title = some name) {first : Nat}
      (hfirst : (name, first) ∈ reader.opened) :
      Fails reader number line (.duplicateSection number name first)
  /-- The mark of the action's section without a kind. -/
  | action (hf : reader.place.isFenced = false) {title : List Char}
      (hl : line = sectionMark ++ title) (ht : SectionName.ofTitle? title = some .type)
      (hk : actionKind? title = none) :
      Fails reader number line (.invalidActionHeader number (String.ofList line))
  /-- The header of a component that does not follow the grammar. -/
  | malformed {name : SectionName} {body : Body} (hp : reader.place = .inside name body)
      (hf : reader.place.isFenced = false) {title : List Char}
      (hl : line = componentMark ++ title) (hr : Header.read title = .error .malformed) :
      Fails reader number line (.invalidComponentHeader number (String.ofList line))
  /-- The header of a component of an unknown kind. -/
  | unknown {name : SectionName} {body : Body} (hp : reader.place = .inside name body)
      (hf : reader.place.isFenced = false) {title : List Char}
      (hl : line = componentMark ++ title) {kind : String}
      (hr : Header.read title = .error (.unknownKind kind)) :
      Fails reader number line (.unknownComponentKind number kind)
  /-- The header of a component with a name that the section has already. -/
  | known {name : SectionName} {body : Body} (hp : reader.place = .inside name body)
      (hf : reader.place.isFenced = false) {title : List Char}
      (hl : line = componentMark ++ title) {header : Header}
      (hr : Header.read title = .ok header) {existing : Component}
      (hmem : existing ∈ reader.settle.document.components name)
      (hname : existing.name = header.name) :
      Fails reader number line (.duplicateComponent number header.name existing.line)

/-- An entry that is found under a key is one of the entries. -/
theorem mem_of_lookup_eq_some {entries : List (SectionName × Nat)} {first : Nat}
    (h : entries.lookup name = some first) : (name, first) ∈ entries := by
  obtain ⟨before, after, rfl, -⟩ := List.lookup_eq_some_iff.1 h
  exact List.mem_append_right before List.mem_cons_self

theorem fails_of_openSection (hf : reader.place.isFenced = false)
    (h : reader.settle.openSection number title = .error error) :
    Fails reader number (sectionMark ++ title) error := by
  cases ht : SectionName.ofTitle? title with
  | none =>
    rw [openSection_unknown ht] at h
    cases h
  | some name =>
    cases ho : reader.settle.opened.lookup name with
    | some first =>
      rw [openSection_again ht ho] at h
      cases h
      rw [settle_opened] at ho
      exact .again hf rfl ht (mem_of_lookup_eq_some ho)
    | none =>
      by_cases hname : name = .type
      · subst hname
        cases hk : actionKind? title with
        | some kind =>
          rw [openSection_type ht ho hk] at h
          cases h
        | none =>
          simp only [openSection, ht, ho, hk, ↓reduceIte] at h
          cases h
          exact .action hf rfl ht hk
      · rw [openSection_new ht ho hname] at h
        cases h

theorem fails_of_openComponent {body : Body} (hp : reader.place = .inside name body)
    (hf : reader.place.isFenced = false)
    (h : reader.settle.openComponent name number title = .error error) :
    Fails reader number (componentMark ++ title) error := by
  rw [openComponent] at h
  cases hr : Header.read title with
  | error fault =>
    cases fault with
    | malformed =>
      simp only [hr] at h
      cases h
      exact .malformed hp hf rfl hr
    | unknownKind kind =>
      simp only [hr] at h
      cases h
      exact .unknown hp hf rfl hr
  | ok header =>
    simp only [hr] at h
    cases hfind : (reader.settle.document.components name).find? (·.name == header.name) with
    | none => simp [hfind] at h
    | some existing =>
      simp only [hfind] at h
      cases h
      have hname : existing.name = header.name := by simpa using List.find?_some hfind
      exact .known hp hf rfl hr (List.mem_of_find?_eq_some hfind) hname

/-- There are no other ways in which a line cannot be read.  Between two fences
every line can be read. -/
theorem fails_of_step_eq_error (h : reader.step number line = .error error) :
    reader.place.isFenced = false ∧ Fails reader number line error := by
  cases hf : reader.place.isFenced with
  | true =>
    obtain ⟨name, header, at', opened, kind, lines, hp⟩ := Position.exists_of_isFenced hf
    by_cases hl : fenceMark <+: line
    · obtain ⟨label, rfl⟩ := hl
      rw [step_close hp] at h
      cases h
    · rw [step_content hp hl] at h
      cases h
  | false =>
    refine ⟨rfl, ?_⟩
    by_cases hs : sectionMark <+: line
    · obtain ⟨title, rfl⟩ := hs
      rw [step_section hf] at h
      exact fails_of_openSection hf h
    cases hp : reader.place with
    | outside =>
      rw [step_outside hp hs] at h
      cases h
    | inside name body =>
      by_cases hc : componentMark <+: line
      · obtain ⟨title, rfl⟩ := hc
        rw [step_component hp hf] at h
        exact fails_of_openComponent hp hf h
      · rw [step_inside hp hf hs hc] at h
        cases h

/-- The error is about the line that cannot be read. -/
theorem Fails.line_eq (h : Fails reader number line error) : error.line = number := by
  cases h <;> rfl

/-! ## Runs that fail -/

/-- A run that fails reads the lines before one that cannot be read. -/
theorem readLines_eq_error {lines : List (List Char)}
    (h : reader.readLines number lines = .error error) :
    ∃ before line rest middle, lines = before ++ line :: rest ∧
      reader.readLines number before = .ok middle ∧
      middle.step (number + before.length) line = .error error := by
  induction lines generalizing reader number with
  | nil => cases h
  | cons line lines ih =>
    cases hs : reader.step number line with
    | error found =>
      rw [readLines, hs] at h
      cases h
      exact ⟨[], line, lines, reader, rfl, rfl, hs⟩
    | ok next =>
      rw [readLines_cons_of_ok hs] at h
      obtain ⟨before, failing, rest, middle, rfl, hread, hfail⟩ := ih h
      refine ⟨line :: before, failing, rest, middle, rfl, ?_, ?_⟩
      · rw [readLines_cons_of_ok hs, hread]
      · rw [← hfail, List.length_cons]
        congr 1
        omega

/-- After the last line, only an open fence is an error. -/
theorem finish_eq_error (h : reader.finish = .error error) :
    ∃ name header at' opened kind lines,
      reader.place = .inside name (.fenced header at' opened kind lines) ∧
      error = .unterminatedFence opened := by
  cases hf : reader.place.isFenced with
  | false =>
    rw [finish_of_not_fenced hf] at h
    cases h
  | true =>
    obtain ⟨name, header, at', opened, kind, lines, hp⟩ := Position.exists_of_isFenced hf
    rw [finish, hp] at h
    cases h
    exact ⟨name, header, at', opened, kind, lines, hp, rfl⟩

/-- Outside every fence, empty lines change nothing. -/
theorem readLines_replicate_empty (hf : reader.place.isFenced = false) (number count : Nat) :
    reader.readLines number (List.replicate count []) = .ok reader := by
  induction count generalizing number with
  | zero => rfl
  | succ count ih => rw [List.replicate_succ, readLines_cons_of_ok (step_empty hf number), ih]

end Reader

namespace Document

variable {text : String} {reader : Reader} {before : List (List Char)} {error : ParseError}

/-- A text that cannot be read has a line that its error is about.  The reader
that comes to this line is outside every fence, and it cannot read the line, or
the line opens a fence that is never closed. -/
theorem stops_of_parse (h : Document.parse text = .error error) :
    ∃ reader line, Meets (lines text.toList) error.line reader line ∧
      reader.place.isFenced = false ∧
      (reader.step error.line line = .error error ∨
        error = .unterminatedFence error.line ∧
          OpensFence (lines text.toList) error.line) := by
  rw [Document.parse, ofLines] at h
  cases hr : Reader.readLines {} 1 (lines text.toList) with
  | error found =>
    simp only [hr] at h
    cases h
    obtain ⟨before, line, rest, middle, hlines, hread, hstep⟩ := Reader.readLines_eq_error hr
    obtain ⟨hf, hfails⟩ := Reader.fails_of_step_eq_error hstep
    have hline : error.line = 1 + before.length := hfails.line_eq
    refine ⟨middle, line, ⟨before, rest, hlines, by omega, hread⟩, hf, Or.inl ?_⟩
    rw [hline, hstep]
  | ok reader =>
    simp only [hr] at h
    obtain ⟨name, header, at', opened, kind, content, hp, rfl⟩ := Reader.finish_eq_error h
    cases (Reader.traced_of_readLines hr).body hp with
    | fenced _ _ hopened =>
      obtain ⟨⟨start, label, hmeets, hf⟩, -⟩ := id hopened
      exact ⟨start, fenceMark ++ label, hmeets, hf, Or.inr ⟨rfl, hopened⟩⟩

/-- Lines that were read outside every fence are a text that can be read, also
with empty lines after them. -/
theorem parse_of_lines (hr : Reader.readLines {} 1 before = .ok reader)
    (hf : reader.place.isFenced = false) (count : Nat)
    (hl : lines text.toList = before ++ List.replicate count []) :
    Document.parse text = .ok reader.settle.document := by
  refine parse_of_readLines ?_ hf
  rw [hl, Reader.readLines_append_of_ok hr, Reader.readLines_replicate_empty hf]

/-- A line that cannot be read is an error of every text with the same lines up
to it. -/
theorem parse_of_step_eq_error {number : Nat} {line : List Char}
    (hm : Meets (lines text.toList) number reader line)
    (hs : reader.step number line = .error error) {other : String}
    (hsame : (lines other.toList).take number = (lines text.toList).take number) :
    Document.parse other = .error error := by
  obtain ⟨before, rest, hlines, rfl, hread⟩ := hm
  have htake : (lines other.toList).take (before.length + 1) = before ++ [line] := by
    rw [hsame, hlines, List.take_length_add_append]
    rfl
  rw [Document.parse, ofLines, ← List.take_append_drop (before.length + 1) (lines other.toList),
    htake, List.append_assoc, Reader.readLines_append_of_ok hread, Nat.add_comm 1]
  simp only [List.cons_append, Reader.readLines, hs]

/-- The first lines of a text are a text with these lines, but the first no
lines are a text with one empty line. -/
theorem lines_firstLines_eq {rest : List (List Char)} (h : lines text.toList = before ++ rest) :
    ∃ count, lines (firstLines before.length text.toList) =
      before ++ List.replicate count [] := by
  cases before with
  | nil => exact ⟨1, rfl⟩
  | cons line before =>
    refine ⟨0, ?_⟩
    rw [lines_firstLines (by simp), h, List.take_left, List.replicate_zero, List.append_nil]

/-- The lines before one that is met outside every fence are a text that can be
read, whether a line break follows them or not. -/
theorem parse_firstLines {number : Nat} {line : List Char}
    (hm : Meets (lines text.toList) number reader line) (hf : reader.place.isFenced = false) :
    Document.parse (String.ofList (firstLines (number - 1) text.toList)) =
        .ok reader.settle.document ∧
      Document.parse (String.ofList (firstLines (number - 1) text.toList ++ ['\n'])) =
        .ok reader.settle.document := by
  obtain ⟨before, rest, hlines, rfl, hread⟩ := hm
  obtain ⟨count, hcount⟩ := lines_firstLines_eq hlines
  rw [Nat.add_sub_cancel]
  constructor
  · refine parse_of_lines hread hf count ?_
    rw [String.toList_ofList, hcount]
  · refine parse_of_lines hread hf (count + 1) ?_
    rw [String.toList_ofList, lines_append_lineFeed, hcount, List.replicate_succ',
      List.append_assoc]
    rfl

end Document

/-! ## Errors -/

/-- What an error tells of the lines of a text. -/
def ParseError.Explains (lines : List (List Char)) : ParseError → Prop
  | .invalidComponentHeader line header =>
    ∃ title, lines[line - 1]? = some (componentMark ++ title) ∧
      header.toList = componentMark ++ title ∧ Header.read title = .error .malformed
  | .unknownComponentKind line kind =>
    ∃ title, lines[line - 1]? = some (componentMark ++ title) ∧
      Header.read title = .error (.unknownKind kind)
  | .invalidActionHeader line header =>
    ∃ title, lines[line - 1]? = some (sectionMark ++ title) ∧
      header.toList = sectionMark ++ title ∧ SectionName.ofTitle? title = some .type ∧
      actionKind? title = none
  | .unterminatedFence line =>
    (∃ label, lines[line - 1]? = some (fenceMark ++ label)) ∧
      ∀ later ∈ lines.drop line, ¬ fenceMark <+: later
  | .duplicateComponent line name first =>
    first < line ∧ ∃ sectionName header again,
      OpensComponent lines first sectionName header ∧ header.name = name ∧
      OpensComponent lines line sectionName again ∧ again.name = name ∧
      ∀ between, first < between → between < line → ¬ MarksSection lines between
  | .duplicateSection line name first =>
    first < line ∧ OpensSection lines first name ∧ OpensSection lines line name

/-- An error of a line that cannot be read is explained. -/
theorem Reader.Fails.explains {lines : List (List Char)} {number : Nat} {reader : Reader}
    {line : List Char} {error : ParseError} (h : reader.Fails number line error)
    (hm : Meets lines number reader line) : error.Explains lines := by
  obtain ⟨before, rest, hlines, hnumber, hread⟩ := id hm
  have htraced : Traced before reader := traced_of_readLines hread
  cases h with
  | @again hf title hl name ht first hfirst =>
    subst hl
    have ho : OpensSection before first name := htraced.opened hfirst
    have hlt := ho.le_length
    refine ⟨by omega, ?_, ⟨reader, title, hm, hf, ht⟩⟩
    rw [hlines]
    exact ho.append _
  | @action hf title hl ht hk =>
    subst hl
    exact ⟨title, hm.getElem?, String.toList_ofList, ht, hk⟩
  | @malformed name body hp hf title hl hr =>
    subst hl
    exact ⟨title, hm.getElem?, String.toList_ofList, hr⟩
  | @unknown name body hp hf title hl kind hr =>
    subst hl
    exact ⟨title, hm.getElem?, hr⟩
  | @known name body hp hf title hl header hr existing hmem hname =>
    subst hl
    have ho : OpensComponent before existing.line name existing.header :=
      (htraced.settle.known hmem).header
    have hlt := ho.le_length
    have ho' : OpensComponent lines existing.line name existing.header := by
      rw [hlines]
      exact ho.append _
    refine ⟨by omega, name, existing.header, header, ho', hname,
      ⟨reader, body, title, hm, hp, hf, hr⟩, rfl, ?_⟩
    intro between hfirst hlater
    exact ho'.not_marksSection hm hp hfirst hlater

/-- A text that cannot be read has its error at a line of its own.  The lines
before it are a text that can be read, with a line break after them or without.
Every text with the same lines up to it has the same error, unless the line
opens a fence; in that case no later line closes it.  The line is the one that
the error tells of. -/
theorem Document.fault_of_parse {text : String} {error : ParseError}
    (h : Document.parse text = .error error) :
    1 ≤ error.line ∧ error.line ≤ (lines text.toList).length ∧
      (∃ document,
        Document.parse (String.ofList (firstLines (error.line - 1) text.toList)) =
            .ok document ∧
          Document.parse (String.ofList (firstLines (error.line - 1) text.toList ++ ['\n'])) =
            .ok document) ∧
      ((∀ line, error ≠ .unterminatedFence line) → ∀ other : String,
        (lines other.toList).take error.line = (lines text.toList).take error.line →
          Document.parse other = .error error) ∧
      error.Explains (lines text.toList) := by
  obtain ⟨reader, line, hm, hf, hend⟩ := stops_of_parse h
  refine ⟨hm.pos, hm.le_length, ⟨_, parse_firstLines hm hf⟩, ?_, ?_⟩
  · intro hnot other hsame
    rcases hend with hstep | ⟨hfence, -⟩
    · exact parse_of_step_eq_error hm hstep hsame
    · exact absurd hfence (hnot _)
  · rcases hend with hstep | ⟨hfence, ⟨start, label, hmeets, -⟩, hlater⟩
    · exact (Reader.fails_of_step_eq_error hstep).2.explains hm
    · rw [hfence]
      exact ⟨⟨label, hmeets.getElem?⟩, hlater⟩

/-- A text with a name that is declared twice, and once more between two
fences. -/
def repeatedText : String :=
  "intro\n## vars\r\n### env[list]\n- a\n### url\n\x60\x60\x60\n### env\n\x60\x60\x60\n### env:x\r\n- b\n"

/-- A text with a fence that the headers after it do not close. -/
def unclosedText : String := "## vars\n### url\nprose\n\x60\x60\x60sh\n### url\n## vars\n- \x60\x60\x60"

/-- The second declaration is reported, whatever follows it, and so is the
fence. -/
theorem fault_of_repeatedText :
    (Document.parse repeatedText = .error (.duplicateComponent 9 "env" 3) ∧
      (∃ document, Document.parse (String.ofList (firstLines 8 repeatedText.toList)) =
        .ok document) ∧
      (∀ other : String,
        (lines other.toList).take 9 = (lines repeatedText.toList).take 9 →
          Document.parse other = .error (.duplicateComponent 9 "env" 3)) ∧
      ParseError.Explains (lines repeatedText.toList) (.duplicateComponent 9 "env" 3)) ∧
    Document.parse unclosedText = .error (.unterminatedFence 4) ∧
      (∃ document, Document.parse (String.ofList (firstLines 3 unclosedText.toList)) =
        .ok document) ∧
      ParseError.Explains (lines unclosedText.toList) (.unterminatedFence 4) := by
  have hrepeated : Document.parse repeatedText = .error (.duplicateComponent 9 "env" 3) := by rfl
  have hunclosed : Document.parse unclosedText = .error (.unterminatedFence 4) := by rfl
  obtain ⟨-, -, ⟨document, hbefore, -⟩, hsame, hexplains⟩ := Document.fault_of_parse hrepeated
  obtain ⟨-, -, ⟨document', hbefore', -⟩, -, hexplains'⟩ := Document.fault_of_parse hunclosed
  refine ⟨⟨hrepeated, ⟨document, hbefore⟩, hsame ?_, hexplains⟩, hunclosed,
    ⟨document', hbefore'⟩, hexplains'⟩
  intro line he
  cases he

end CallSheet
