import CallSheet.Proofs.Document.Writing
import Mathlib.Data.List.Induction

/-!
# The lines behind a reader

A reader does not keep the lines that it has read.  This file says what those
lines were.

There are four groups.

* Lines that were met.  `Meets` names the reader that comes to a line, and
  `MarksSection`, `OpensSection`, `OpensComponent` and `OpensFence` say what
  that reader takes the line for.
* Bodies.  `Body.component?` is the component that a body is completed to, and
  `Body.Traced` says from which lines a body comes.
* The invariant.  `Reader.Traced` says that every part of a reader comes from a
  line of the kind, and that the components of a section stand in the order of
  their lines.  `traced_of_readLines` is the induction over the lines.
* Sections.  Once a section was left, the reader does not come back to it
  (`Left`), so no section starts between two components of one section.
-/

namespace CallSheet

open Text

/-! ## Lines that were met -/

/-- Reading lines from the start, the reader comes to the line of a number,
which counts from one. -/
def Meets (lines : List (List Char)) (number : Nat) (reader : Reader) (line : List Char) : Prop :=
  ∃ before rest, lines = before ++ line :: rest ∧ number = before.length + 1 ∧
    Reader.readLines {} 1 before = .ok reader

/-- The line of a number starts with the section mark and is not between two
fences. -/
def MarksSection (lines : List (List Char)) (number : Nat) : Prop :=
  ∃ reader title, Meets lines number reader (sectionMark ++ title) ∧
    reader.place.isFenced = false

/-- The line of a number is the mark of a section that means something. -/
def OpensSection (lines : List (List Char)) (number : Nat) (name : SectionName) : Prop :=
  ∃ reader title, Meets lines number reader (sectionMark ++ title) ∧
    reader.place.isFenced = false ∧ SectionName.ofTitle? title = some name

/-- The line of a number is the header of a component of a section. -/
def OpensComponent (lines : List (List Char)) (number : Nat) (name : SectionName)
    (header : Header) : Prop :=
  ∃ reader body title, Meets lines number reader (componentMark ++ title) ∧
    reader.place = .inside name body ∧ reader.place.isFenced = false ∧
    Header.read title = .ok header

/-- The line of a number opens a fence that no line after it closes. -/
def OpensFence (lines : List (List Char)) (number : Nat) : Prop :=
  (∃ reader label, Meets lines number reader (fenceMark ++ label) ∧
    reader.place.isFenced = false) ∧
  ∀ later ∈ lines.drop number, ¬ fenceMark <+: later

section Meets

variable {lines : List (List Char)} {line line' : List Char} {reader reader' : Reader}
  {number : Nat} {name name' : SectionName} {header header' : Header}

theorem Meets.of_readLines (h : Reader.readLines {} 1 lines = .ok reader) (line : List Char) :
    Meets (lines ++ [line]) (lines.length + 1) reader line :=
  ⟨lines, [], rfl, rfl, h⟩

theorem Meets.append (h : Meets lines number reader line) (more : List (List Char)) :
    Meets (lines ++ more) number reader line := by
  obtain ⟨before, rest, rfl, hnumber, hread⟩ := h
  exact ⟨before, rest ++ more, by simp, hnumber, hread⟩

theorem Meets.pos (h : Meets lines number reader line) : 1 ≤ number := by
  obtain ⟨before, rest, -, rfl, -⟩ := h
  omega

theorem Meets.le_length (h : Meets lines number reader line) : number ≤ lines.length := by
  obtain ⟨before, rest, rfl, rfl, -⟩ := h
  simp

theorem Meets.getElem? (h : Meets lines number reader line) :
    lines[number - 1]? = some line := by
  obtain ⟨before, rest, rfl, rfl, -⟩ := h
  simp

/-- One reader comes to the line of a number. -/
theorem Meets.unique (h : Meets lines number reader line) (h' : Meets lines number reader' line') :
    reader = reader' ∧ line = line' := by
  obtain ⟨before, rest, rfl, rfl, hread⟩ := h
  obtain ⟨before', rest', hlines, hnumber, hread'⟩ := h'
  obtain ⟨rfl, htail⟩ := List.append_inj hlines (by omega)
  rw [hread] at hread'
  exact ⟨Except.ok.inj hread', (List.cons.inj htail).1⟩

theorem OpensSection.append (h : OpensSection lines number name) (more : List (List Char)) :
    OpensSection (lines ++ more) number name := by
  obtain ⟨reader, title, hmeets, hrest⟩ := h
  exact ⟨reader, title, hmeets.append more, hrest⟩

theorem OpensComponent.append (h : OpensComponent lines number name header)
    (more : List (List Char)) : OpensComponent (lines ++ more) number name header := by
  obtain ⟨reader, body, title, hmeets, hrest⟩ := h
  exact ⟨reader, body, title, hmeets.append more, hrest⟩

theorem OpensSection.le_length (h : OpensSection lines number name) : number ≤ lines.length := by
  obtain ⟨reader, title, hmeets, -⟩ := h
  exact hmeets.le_length

theorem OpensComponent.le_length (h : OpensComponent lines number name header) :
    number ≤ lines.length := by
  obtain ⟨reader, body, title, hmeets, -⟩ := h
  exact hmeets.le_length

/-- A line is a component's header in one section only. -/
theorem OpensComponent.section_unique (h : OpensComponent lines number name header)
    (h' : OpensComponent lines number name' header') : name = name' := by
  obtain ⟨reader, body, title, hmeets, hplace, -⟩ := h
  obtain ⟨reader', body', title', hmeets', hplace', -⟩ := h'
  obtain ⟨rfl, -⟩ := hmeets.unique hmeets'
  rw [hplace] at hplace'
  cases hplace'
  rfl

/-- One more line that is no fence leaves a fence open. -/
theorem OpensFence.append (h : OpensFence lines number) (hl : ¬ fenceMark <+: line) :
    OpensFence (lines ++ [line]) number := by
  obtain ⟨⟨reader, label, hmeets, hf⟩, hlater⟩ := h
  refine ⟨⟨reader, label, hmeets.append _, hf⟩, ?_⟩
  intro later hmem
  rw [List.drop_append_of_le_length hmeets.le_length, List.mem_append, List.mem_singleton] at hmem
  rcases hmem with hmem | rfl
  · exact hlater later hmem
  · exact hl

end Meets

/-! ## Components and their lines -/

/-- A value without blanks at the ends of its content and of its content kind,
which is not empty. -/
structure Value.Trimmed (value : Value) : Prop where
  content : trim value.content.toList = value.content.toList
  kind : trim value.contentKind.toList = value.contentKind.toList
  kind_ne : value.contentKind ≠ ""

/-- A value is an item that stands on one of the lines. -/
structure Value.ItemOf (lines : List (List Char)) (value : Value) : Prop where
  kind : value.contentKind = textContent
  line : itemMark ++ value.content.toList ∈ lines

/-- A component of a section comes from lines: its header is the line of its
number, and its values were read from the lines after it. -/
structure Declared (lines : List (List Char)) (name : SectionName) (component : Component) :
    Prop where
  header : OpensComponent lines component.line name component.header
  items : component.kind = .list → ∀ value ∈ component.values, value.ItemOf lines
  single : component.kind ≠ .list → ∃ value, component.values = [value] ∧ value.Trimmed

/-- The value of a missing fence. -/
theorem trimmed_text_empty : (Value.text "").Trimmed := ⟨by decide, by decide, by decide⟩

/-- A label stands for itself without blanks, or else for unmarked content. -/
theorem Reader.contentKind_cases (label : List Char) :
    contentKind label = textContent ∨
      trim label ≠ [] ∧ contentKind label = String.ofList (trim label) := by
  rw [contentKind]
  split
  · exact Or.inl rfl
  · next h => exact Or.inr ⟨fun he => h (List.isEmpty_iff.2 he), rfl⟩

/-- The value between two fences. -/
theorem trimmed_contentKind (content label : List Char) :
    Value.Trimmed ⟨String.ofList (trim content), Reader.contentKind label⟩ := by
  have hcontent : trim (String.ofList (trim content)).toList =
      (String.ofList (trim content)).toList := by
    rw [String.toList_ofList, trim_trim]
  rcases Reader.contentKind_cases label with hk | ⟨hne, hk⟩
  · have htrim : trim textContent.toList = textContent.toList := by decide
    have hne : textContent ≠ "" := by decide
    rw [hk]
    exact ⟨hcontent, htrim, hne⟩
  · rw [hk]
    refine ⟨hcontent, by rw [String.toList_ofList, trim_trim], ?_⟩
    intro hempty
    exact hne (String.ofList_eq_empty_iff.1 hempty)

theorem Value.ItemOf.append {lines : List (List Char)} {value : Value} (h : value.ItemOf lines)
    (more : List (List Char)) : value.ItemOf (lines ++ more) :=
  ⟨h.kind, List.mem_append_left more h.line⟩

theorem Declared.append {lines : List (List Char)} {name : SectionName} {component : Component}
    (h : Declared lines name component) (more : List (List Char)) :
    Declared (lines ++ more) name component :=
  ⟨h.header.append more, fun hk value hvalue => (h.items hk value hvalue).append more, h.single⟩

/-! ## Bodies and their lines -/

/-- The component that a body is completed to, if the next line completes it. -/
def Body.component? : Body → Option Component
  | .idle => none
  | .items header line values => some (header.component line values)
  | .unfenced header line => some (header.component line [Value.text ""])
  | .fenced header line _ kind lines =>
    some (header.component line [⟨String.ofList (trim (join '\n' lines)), kind⟩])

/-- The line of the header that a body belongs to. -/
def Body.line? : Body → Option Nat
  | .idle => none
  | .items _ line _ => some line
  | .unfenced _ line => some line
  | .fenced _ line _ _ _ => some line

theorem Body.line?_of_component? {body : Body} {component : Component}
    (h : body.component? = some component) : body.line? = some component.line := by
  cases body with
  | idle => cases h
  | items | unfenced | fenced =>
    cases h
    rfl

@[simp] theorem Reader.line?_readBody (number : Nat) (line : List Char) (body : Body) :
    (readBody number line body).line? = body.line? := by
  cases body with
  | idle | fenced => rfl
  | items | unfenced =>
    rw [readBody]
    split <;> rfl

@[simp] theorem Reader.line?_bodyOf (header : Header) (number : Nat) :
    (bodyOf header number).line? = some number := by
  rw [bodyOf]
  split <;> rfl

/-- A body comes from lines: its header is the line of its number, its items
stand on lines, and its fence is still open. -/
inductive Body.Traced (lines : List (List Char)) (name : SectionName) : Body → Prop where
  | idle : Body.Traced lines name .idle
  | items {header : Header} {at' : Nat} {values : List Value} (hk : header.kind = .list)
      (ho : OpensComponent lines at' name header) (hv : ∀ value ∈ values, value.ItemOf lines) :
      Body.Traced lines name (.items header at' values)
  | unfenced {header : Header} {at' : Nat} (hk : header.kind ≠ .list)
      (ho : OpensComponent lines at' name header) :
      Body.Traced lines name (.unfenced header at')
  | fenced {header : Header} {at' opened : Nat} {label : List Char} {content : List (List Char)}
      (hk : header.kind ≠ .list) (ho : OpensComponent lines at' name header)
      (hopened : OpensFence lines opened) :
      Body.Traced lines name (.fenced header at' opened (Reader.contentKind label) content)

namespace Body.Traced

variable {lines : List (List Char)} {name : SectionName} {body : Body} {reader : Reader}
  {header : Header} {line : List Char}

/-- A body that comes from lines is completed to a component that does. -/
theorem declared {component : Component} (h : body.Traced lines name)
    (hc : body.component? = some component) : Declared lines name component := by
  cases h with
  | idle => cases hc
  | items hk ho hv =>
    cases hc
    exact ⟨ho, fun _ => hv, fun hn => absurd hk hn⟩
  | unfenced hk ho =>
    cases hc
    exact ⟨ho, fun hlist => absurd hlist hk, fun _ => ⟨_, rfl, trimmed_text_empty⟩⟩
  | fenced hk ho =>
    cases hc
    exact ⟨ho, fun hlist => absurd hlist hk, fun _ => ⟨_, rfl, trimmed_contentKind _ _⟩⟩

/-- The body after a header. -/
theorem bodyOf {number : Nat} (ho : OpensComponent lines number name header) :
    (Reader.bodyOf header number).Traced lines name := by
  rw [Reader.bodyOf]
  split
  · next hk => exact .items hk ho (by simp)
  · next hk => exact .unfenced hk ho

/-- The body after a line that is no header. -/
theorem readBody (h : body.Traced lines name) (hr : Reader.readLines {} 1 lines = .ok reader)
    (hp : reader.place = .inside name body) (hf : reader.place.isFenced = false)
    (line : List Char) :
    (Reader.readBody (lines.length + 1) line body).Traced (lines ++ [line]) name := by
  cases h with
  | idle => exact .idle
  | @items header at' values hk ho hv =>
    have hkeep : ∀ value ∈ values, value.ItemOf (lines ++ [line]) :=
      fun value hvalue => (hv value hvalue).append [line]
    rw [Reader.readBody]
    cases hi : dropStart? itemMark line with
    | none => exact .items hk (ho.append _) hkeep
    | some item =>
      refine .items hk (ho.append _) ?_
      intro value hvalue
      rcases List.mem_append.1 hvalue with hvalue | hvalue
      · exact hkeep value hvalue
      · obtain rfl := List.mem_singleton.1 hvalue
        refine ⟨rfl, ?_⟩
        rw [dropStart?_eq_some_iff.1 hi, Value.text, String.toList_ofList]
        exact List.mem_append_right lines List.mem_cons_self
  | @unfenced header at' hk ho =>
    rw [Reader.readBody]
    cases hi : dropStart? fenceMark line with
    | none => exact .unfenced hk (ho.append _)
    | some label =>
      obtain rfl := dropStart?_eq_some_iff.1 hi
      refine .fenced hk (ho.append _) ⟨⟨reader, label, .of_readLines hr _, hf⟩, ?_⟩
      intro later hlater
      simp at hlater
  | fenced => simp [hp, Position.isFenced] at hf

/-- The body after a line between two fences. -/
theorem content {at' opened : Nat} {kind : String} {content : List (List Char)}
    (h : (Body.fenced header at' opened kind content).Traced lines name)
    (hl : ¬ fenceMark <+: line) :
    (Body.fenced header at' opened kind (content ++ [line])).Traced (lines ++ [line]) name := by
  cases h with
  | fenced hk ho hopened => exact .fenced hk (ho.append _) (hopened.append hl)

end Body.Traced

/-! ## The invariant -/

namespace Reader

variable {reader next : Reader} {name : SectionName} {body : Body} {number : Nat}
  {lines : List (List Char)} {line : List Char}

/-- Settling changes nothing, or it adds the component that the body is
completed to. -/
theorem settle_cases_component (reader : Reader) :
    reader.settle = reader ∨
      ∃ name body component, reader.place = .inside name body ∧
        body.component? = some component ∧
        reader.settle =
          { reader with
            document := reader.document.add name component, place := .inside name .idle } := by
  cases hp : reader.place with
  | outside => exact Or.inl (settle_of_outside hp)
  | inside name body =>
    cases body with
    | idle => exact Or.inl (settle_of_idle hp)
    | items => exact Or.inr ⟨name, _, _, rfl, rfl, settle_of_items hp⟩
    | unfenced => exact Or.inr ⟨name, _, _, rfl, rfl, settle_of_unfenced hp⟩
    | fenced => exact Or.inl (by rw [settle, hp])

/-- Everything that a reader holds comes from the lines that it has read. -/
structure Traced (lines : List (List Char)) (reader : Reader) : Prop where
  /-- An opened section has its mark on its line. -/
  opened : ∀ {name number}, (name, number) ∈ reader.opened → OpensSection lines number name
  /-- A complete component has its header on its line. -/
  known : ∀ {name component}, component ∈ reader.document.components name →
    Declared lines name component
  /-- The components of a section stand in the order of their lines. -/
  increasing : ∀ name, ((reader.document.components name).map Component.line).Pairwise (· < ·)
  /-- So does the body of the component that is being read. -/
  body : ∀ {name body}, reader.place = .inside name body → body.Traced lines name
  /-- It comes after the components that are complete. -/
  later : ∀ {name body number}, reader.place = .inside name body → body.line? = some number →
    ∀ known ∈ reader.document.components name, known.line < number

namespace Traced

theorem start : Traced [] {} where
  opened h := by simp at h
  known := by
    intro name component h
    cases name <;> simp [Document.components] at h
  increasing name := by cases name <;> simp [Document.components]
  body h := by simp at h
  later h := by simp at h

/-- One more line, which changes at most the place. -/
theorem extend (h : Traced lines reader) {place : Position}
    (hbody : ∀ {name body}, place = .inside name body → body.Traced (lines ++ [line]) name)
    (hlater : ∀ {name body number}, place = .inside name body → body.line? = some number →
      ∀ known ∈ reader.document.components name, known.line < number) :
    Traced (lines ++ [line]) { reader with place := place } where
  opened hmem := (h.opened hmem).append [line]
  known hmem := (h.known hmem).append [line]
  increasing := h.increasing
  body := hbody
  later := hlater

/-- Completing the component that is being read. -/
theorem add (h : Traced lines reader) (hp : reader.place = .inside name body)
    {component : Component} (hc : body.component? = some component) :
    Traced lines { reader with
      document := reader.document.add name component, place := .inside name .idle } where
  opened := h.opened
  known := by
    intro other known hmem
    rcases Document.components_add_cases reader.document name other component with
      he | ⟨rfl, he⟩
    · exact h.known (he ▸ hmem)
    · rw [he, List.mem_append, List.mem_singleton] at hmem
      rcases hmem with hmem | rfl
      · exact h.known hmem
      · exact (h.body hp).declared hc
  increasing := by
    intro other
    rcases Document.components_add_cases reader.document name other component with
      he | ⟨rfl, he⟩
    · rw [he]
      exact h.increasing other
    · rw [he, List.map_append, List.pairwise_append]
      refine ⟨h.increasing other, by simp, ?_⟩
      intro earlier hearlier last hlast
      obtain ⟨known, hknown, rfl⟩ := List.mem_map.1 hearlier
      have hline : last = component.line := by simpa using hlast
      rw [hline]
      exact h.later hp (Body.line?_of_component? hc) known hknown
  body := by
    rintro _ _ he
    cases he
    exact .idle
  later := by
    rintro _ _ _ he hline
    cases he
    cases hline

theorem settle (h : Traced lines reader) : Traced lines reader.settle := by
  rcases settle_cases_component reader with hs | ⟨name, body, component, hp, hc, hs⟩
  · rwa [hs]
  · rw [hs]
    exact h.add hp hc

/-- A title leaves every section, or it is the mark of the section that it
opens. -/
theorem openSection (h : Traced lines reader) {title : List Char}
    (ho : reader.openSection number title = .ok next)
    (hmark : ∀ {name}, SectionName.ofTitle? title = some name →
      OpensSection (lines ++ [line]) number name) :
    Traced (lines ++ [line]) next := by
  rcases openSection_eq_ok ho with ⟨-, rfl⟩ | ⟨name, ht, -, hopened, hplace, hdoc⟩
  · exact h.extend (fun he => by cases he) (fun he => by cases he)
  have hcomponents : ∀ other, next.document.components other = [] ∨
      next.document.components other = reader.document.components other := by
    intro other
    rcases hdoc with ⟨-, hdoc⟩ | ⟨-, kind, -, hdoc⟩
    · exact Or.inr (by rw [hdoc])
    · rw [hdoc]
      cases other with
      | vars | after => exact Or.inr rfl
      | type => exact Or.inl rfl
  constructor
  · intro other start hmem
    rw [hopened, List.mem_append, List.mem_singleton] at hmem
    rcases hmem with hmem | hmem
    · exact (h.opened hmem).append [line]
    · obtain ⟨rfl, rfl⟩ := Prod.mk.inj hmem
      exact hmark ht
  · intro other component hmem
    rcases hcomponents other with he | he
    · simp [he] at hmem
    · exact (h.known (he ▸ hmem)).append [line]
  · intro other
    rcases hcomponents other with he | he
    · simp [he]
    · rw [he]
      exact h.increasing other
  · intro other body he
    rw [hplace] at he
    cases he
    exact .idle
  · intro other body start he hline
    rw [hplace] at he
    cases he
    cases hline

/-- Every step keeps the invariant, with the line that it reads. -/
theorem step (h : Traced lines reader) (hr : readLines {} 1 lines = .ok reader)
    (hs : Step reader (lines.length + 1) line next) : Traced (lines ++ [line]) next := by
  cases hs with
  | skip hp _ =>
    have hsame : reader = { reader with place := .outside } := by rw [← hp]
    rw [hsame]
    exact h.extend (fun he => by cases he) (fun he => by cases he)
  | @title hf title hl next ho =>
    subst hl
    exact h.settle.openSection ho fun ht => ⟨reader, title, .of_readLines hr _, hf, ht⟩
  | @header name body hp hf title hl next ho =>
    subst hl
    obtain ⟨header, hread, -, rfl⟩ := openComponent_eq_ok ho
    have hopens : OpensComponent (lines ++ [componentMark ++ title]) (lines.length + 1) name
        header := ⟨reader, body, title, .of_readLines hr _, hp, hf, hread⟩
    refine h.settle.extend ?_ ?_
    · rintro _ _ he
      cases he
      exact .bodyOf hopens
    · rintro _ _ start he hline known hknown
      cases he
      have hstart : lines.length + 1 = start := by simpa using hline
      have hbound := (h.settle.known hknown).header.le_length
      omega
  | @plain name body hp hf _ _ =>
    refine h.extend ?_ ?_
    · rintro _ _ he
      cases he
      exact (h.body hp).readBody hr hp hf line
    · rintro _ _ start he hline
      cases he
      rw [line?_readBody] at hline
      exact h.later hp hline
  | close hp _ =>
    refine (h.add hp rfl).extend ?_ ?_
    · rintro _ _ he
      cases he
      exact .idle
    · rintro _ _ _ he hline
      cases he
      cases hline
  | content hp hl =>
    refine h.extend ?_ ?_
    · rintro _ _ he
      cases he
      exact (h.body hp).content hl
    · rintro _ _ start he hline
      cases he
      exact h.later hp hline

end Traced

/-- A run over lines and one more is a run over the lines and then a step. -/
theorem readLines_concat_eq_ok (h : reader.readLines number (lines ++ [line]) = .ok next) :
    ∃ middle, reader.readLines number lines = .ok middle ∧
      Step middle (number + lines.length) line next := by
  rw [readLines_append] at h
  cases hm : reader.readLines number lines with
  | error error =>
    rw [hm] at h
    cases h
  | ok middle =>
    rw [hm] at h
    obtain ⟨last, -, hs, hlast⟩ := readLines_cons_eq_ok h
    cases hlast
    exact ⟨middle, rfl, hs⟩

/-- What a reader holds comes from the lines of the run that led to it.  The
induction goes over the lines from the last one, because every step refers to
all lines before it. -/
theorem traced_of_readLines (h : readLines {} 1 lines = .ok reader) : Traced lines reader := by
  induction lines using List.reverseRecOn generalizing reader with
  | nil =>
    cases h
    exact .start
  | append_singleton lines line ih =>
    obtain ⟨middle, hm, hs⟩ := readLines_concat_eq_ok h
    rw [Nat.add_comm] at hs
    exact (ih hm).step hm hs

/-! ## Sections that were left -/

/-- A section was opened, and the reader is not inside it. -/
structure Left (name : SectionName) (reader : Reader) : Prop where
  opened : name ∈ reader.openedNames
  outside : ∀ {body}, reader.place ≠ .inside name body

theorem Left.openSection {title : List Char} (hopened : name ∈ reader.openedNames)
    (ho : reader.openSection number title = .ok next) : Left name next := by
  rcases openSection_eq_ok ho with ⟨-, rfl⟩ | ⟨other, -, hnew, hnext, hplace, -⟩
  · exact ⟨hopened, by simp⟩
  refine ⟨?_, ?_⟩
  · rw [openedNames, hnext, List.map_append]
    exact List.mem_append_left _ hopened
  · intro body hp
    rw [hplace] at hp
    cases hp
    exact not_mem_of_lookup_eq_none hnew hopened

/-- A reader inside another section stays in it while it reads a component. -/
theorem Left.inside (h : Left name reader) {other : SectionName}
    (hp : reader.place = .inside other body) (document : Document) (next : Body) :
    Left name { reader with document := document, place := .inside other next } where
  opened := h.opened
  outside := by
    intro _ he
    cases he
    exact h.outside hp

/-- A section that was left stays left. -/
theorem Left.step (h : Left name reader) (hs : Step reader number line next) :
    Left name next := by
  cases hs with
  | skip _ _ => exact h
  | title _ _ ho => exact .openSection (by rw [openedNames_settle]; exact h.opened) ho
  | header hp _ _ ho =>
    obtain ⟨header, -, -, rfl⟩ := openComponent_eq_ok ho
    refine ⟨by rw [openedNames, settle_opened]; exact h.opened, ?_⟩
    intro body he
    cases he
    exact h.outside hp
  | plain hp _ _ _ => exact h.inside hp _ _
  | close hp _ => exact h.inside hp _ _
  | content hp _ => exact h.inside hp _ _

end Reader

section Between

variable {lines : List (List Char)} {line line' : List Char} {reader next : Reader}
  {name : SectionName} {body : Body} {header : Header} {number later first : Nat}

/-- Between two lines that are met lies a run, which starts with the first of
them. -/
theorem Meets.run (h : Meets lines number reader line) (h' : Meets lines later next line')
    (hlt : number < later) :
    ∃ more, reader.readLines number (line :: more) = .ok next := by
  obtain ⟨before, rest, rfl, rfl, hread⟩ := h
  obtain ⟨before', rest', hlines, rfl, hread'⟩ := h'
  rcases List.append_eq_append_iff.1 hlines with ⟨between, hbefore', htail⟩ | ⟨between, hbefore, -⟩
  · cases between with
    | nil =>
      rw [hbefore', List.append_nil] at hlt
      omega
    | cons c between =>
      obtain ⟨rfl, -⟩ := List.cons.inj htail
      refine ⟨between, ?_⟩
      rw [hbefore', Reader.readLines_append_of_ok hread, Nat.add_comm] at hread'
      exact hread'
  · rw [hbefore, List.length_append] at hlt
    omega

/-- Between the header of a component and a later line in its section, no
section starts. -/
theorem OpensComponent.not_marksSection (ho : OpensComponent lines first name header)
    (hm : Meets lines later reader line) (hp : reader.place = .inside name body)
    (hfirst : first < number) (hlater : number < later) : ¬ MarksSection lines number := by
  rintro ⟨middle, title, hmiddle, hf⟩
  obtain ⟨start, startBody, _, hstart, hplace, -⟩ := ho
  have hco : start.Coherent := by
    obtain ⟨_, _, -, -, hread⟩ := hstart
    exact Reader.Coherent.start.readLines hread
  obtain ⟨_, hrun⟩ := hstart.run hmiddle hfirst
  have hopened : name ∈ middle.settle.openedNames := by
    rw [Reader.openedNames_settle]
    exact ((Reader.opened_prefix_of_readLines hrun).map Prod.fst).subset (hco.inside hplace)
  obtain ⟨_, hrest⟩ := hmiddle.run hm hlater
  obtain ⟨after, hstep, -, hrest⟩ := Reader.readLines_cons_eq_ok hrest
  rw [Reader.step_section hf] at hstep
  have hleft : Reader.Left name reader :=
    Reader.readLines_keeps (fun h hs => h.step hs) (.openSection hopened hstep) hrest
  exact hleft.outside hp

end Between

end CallSheet
