import CallSheet.Proofs.Document.Trace

/-!
# Documents that are read

What holds of every document that is read from a text.

* `Component.WellFormed` and `Document.WellFormed` are about a document alone:
  names, converters, and the values that each kind of component has.
* `Document.PlacedIn` ties a document to the lines of its text: the line of every
  component is the header of this component, and lines are in order.

`Document.wellFormed_of_parse` is the result.  Nearly all of it is read off
`Reader.Traced`; the kind of the action has an invariant of its own
(`Reader.ActionNamed`).
-/

namespace CallSheet

open Text

/-! ## Well-formed documents -/

/-- A component as it can be read. -/
structure Component.WellFormed (component : Component) : Prop where
  header : component.header.WellFormed
  /-- A list has values of one line each, which are not marked. -/
  items : component.kind = .list → ∀ value ∈ component.values,
    value.contentKind = textContent ∧ '\n' ∉ value.content.toList
  /-- Every other component has one value. -/
  single : component.kind ≠ .list → ∃ value, component.values = [value] ∧ value.Trimmed

/-- A document as it can be read. -/
structure Document.WellFormed (document : Document) : Prop where
  nodup : ∀ name, ((document.components name).map Component.name).Nodup
  components : ∀ name, ∀ component ∈ document.components name, component.WellFormed
  action : ∀ action, document.action = some action → isName action.kind.toList = true

/-- The components of a document stand on lines. -/
structure Document.PlacedIn (document : Document) (lines : List (List Char)) : Prop where
  /-- The components of a section stand in the order of their lines. -/
  increasing : ∀ name, ((document.components name).map Component.line).Pairwise (· < ·)
  /-- Two sections have no line in common. -/
  apart : ∀ {first second}, first ≠ second → ∀ a ∈ document.components first,
    ∀ b ∈ document.components second, a.line ≠ b.line
  /-- The line of a component is its header. -/
  header : ∀ name, ∀ component ∈ document.components name, 1 ≤ component.line ∧
    ∃ title, lines[component.line - 1]? = some (componentMark ++ title) ∧
      Header.read title = .ok component.header
  /-- It was met as such, in the component's section and outside every fence. -/
  opens : ∀ name, ∀ component ∈ document.components name,
    OpensComponent lines component.line name component.header

theorem OpensComponent.header_wellFormed {lines : List (List Char)} {number : Nat}
    {name : SectionName} {header : Header} (h : OpensComponent lines number name header) :
    header.WellFormed := by
  obtain ⟨_, _, title, -, -, -, hread⟩ := h
  exact Header.wellFormed_of_read hread

/-- A component that comes from the lines of a text is well formed. -/
theorem Declared.wellFormed {text : List Char} {name : SectionName} {component : Component}
    (h : Declared (lines text) name component) : component.WellFormed where
  header := h.header.header_wellFormed
  items hk value hvalue := by
    have hitem := h.items hk value hvalue
    have hfree : '\n' ∉ itemMark ++ value.content.toList :=
      lineFeed_not_mem_of_mem_lines hitem.line
    rw [List.mem_append, not_or] at hfree
    exact ⟨hitem.kind, hfree.2⟩
  single := h.single

/-- A component of a document that is read has a header that can be read. -/
theorem Document.header_of_parse {text : String} {document : Document} {name : SectionName}
    {component : Component} (h : Document.parse text = .ok document)
    (hmem : component ∈ document.components name) : component.header.WellFormed := by
  obtain ⟨reader, hr, -, rfl⟩ := Document.parse_eq_ok h
  exact ((Reader.traced_of_readLines hr).settle.known hmem).header.header_wellFormed

/-! ## The kind of the action -/

namespace Reader

variable {reader next : Reader} {number : Nat} {line title : List Char}

/-- The kind of the action is a name. -/
def ActionNamed (reader : Reader) : Prop :=
  ∀ kind ∈ reader.document.action.map Action.kind, isName kind.toList = true

theorem ActionNamed.add (h : reader.ActionNamed) (name : SectionName) (component : Component)
    (place : Position) :
    ActionNamed { reader with
      document := reader.document.add name component, place := place } := by
  rw [ActionNamed, Document.action_add_kind]
  exact h

theorem ActionNamed.settle (h : reader.ActionNamed) : reader.settle.ActionNamed := by
  rcases settle_cases_component reader with hs | ⟨name, _, component, -, -, hs⟩
  · rwa [hs]
  · rw [hs]
    exact h.add name component _

theorem ActionNamed.openSection (h : reader.ActionNamed)
    (ho : reader.openSection number title = .ok next) : next.ActionNamed := by
  rcases openSection_eq_ok ho with ⟨-, rfl⟩ | ⟨name, -, -, -, -, hdoc⟩
  · exact h
  rcases hdoc with ⟨-, hdoc⟩ | ⟨-, kind, hkind, hdoc⟩
  · rwa [ActionNamed, hdoc]
  · intro found hfound
    rw [hdoc] at hfound
    obtain rfl : kind = found := by simpa using hfound
    exact isName_of_actionKind? hkind

/-- Every step keeps the action's kind a name. -/
theorem ActionNamed.step (h : reader.ActionNamed) (hs : Step reader number line next) :
    next.ActionNamed := by
  cases hs with
  | skip _ _ => exact h
  | title _ _ ho => exact h.settle.openSection ho
  | header _ _ _ ho =>
    obtain ⟨header, -, -, rfl⟩ := openComponent_eq_ok ho
    exact h.settle
  | plain _ _ _ _ => exact h
  | close _ _ => exact h.add _ _ _
  | content _ _ => exact h

end Reader

/-! ## Documents of texts -/

/-- A document that is read from a text is well formed, and its components
stand on the lines of the text. -/
theorem Document.wellFormed_of_parse {text : String} {document : Document}
    (h : Document.parse text = .ok document) :
    document.WellFormed ∧ document.PlacedIn (lines text.toList) := by
  have hnodup := Document.nodup_names_of_parse h
  obtain ⟨reader, hr, -, rfl⟩ := Document.parse_eq_ok h
  have htraced : Reader.Traced (lines text.toList) reader.settle :=
    (Reader.traced_of_readLines hr).settle
  have hnamed : reader.settle.ActionNamed :=
    (Reader.readLines_keeps (fun h hs => h.step hs) (by simp [Reader.ActionNamed]) hr :
      reader.ActionNamed).settle
  refine ⟨⟨hnodup, ?_, ?_⟩, ⟨htraced.increasing, ?_, ?_, ?_⟩⟩
  · intro name component hmem
    exact (htraced.known hmem).wellFormed
  · intro action haction
    exact hnamed action.kind (by simp [haction])
  · intro first second hne a ha b hb hline
    have hb' := (htraced.known hb).header
    rw [← hline] at hb'
    exact hne ((htraced.known ha).header.section_unique hb')
  · intro name component hmem
    obtain ⟨_, _, title, hmeets, -, -, hread⟩ := (htraced.known hmem).header
    exact ⟨hmeets.pos, title, hmeets.getElem?, hread⟩
  · intro name component hmem
    exact (htraced.known hmem).header

/-- A text with sections out of order, a fence that is missing, a label that is
blank and both line endings. -/
def mixedText : String :=
  "## after\n### log[script]:trim\n\x60\x60\x60 \t\r\n cat x \r\n\x60\x60\x60\n## notes\n### no\n" ++
    "## type[http] \n### url\nprose\n## vars\r\n### env[list]\n- a \n-b\n### a:upper\n"

/-- The document of the text. -/
def mixedDocument : Document where
  vars := [⟨"env", .list, [], [Value.text "a "], 12⟩, ⟨"a", .text, ["upper"], [Value.text ""], 15⟩]
  after := [⟨"log", .script, ["trim"], [Value.text "cat x"], 2⟩]
  action := some ⟨"http", [⟨"url", .text, [], [Value.text ""], 9⟩]⟩

theorem wellFormed_mixedDocument :
    Document.parse mixedText = .ok mixedDocument ∧ mixedDocument.WellFormed ∧
      mixedDocument.PlacedIn (lines mixedText.toList) := by
  have hparse : Document.parse mixedText = .ok mixedDocument := by decide +kernel
  exact ⟨hparse, Document.wellFormed_of_parse hparse⟩

end CallSheet
