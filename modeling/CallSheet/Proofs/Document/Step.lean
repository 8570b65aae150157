import CallSheet.Document.Parse
import CallSheet.Proofs.Text

/-!
# Steps and runs of the reader

What one line does to the reader, and what a list of lines does.

There are three groups.

* Steps by the kind of the line.  `step_section`, `step_component`,
  `step_outside`, `step_inside`, `step_close` and `step_content` give the
  reader after a line of which the mark is known.
* All steps.  `Reader.Step` lists the six ways in which a line can be read, and
  `step_of_eq_ok` says that there are no others.  `openSection_eq_ok` and
  `openComponent_eq_ok` say what the two kinds of header do.
* Runs.  `readLines_append` cuts a run in two, and `readLines_keeps` is the
  induction for whatever a step preserves.
-/

namespace CallSheet

open Text

/-! ## Documents -/

@[simp] theorem Document.action_add_isSome (document : Document) (name : SectionName)
    (component : Component) :
    (document.add name component).action.isSome = document.action.isSome := by
  cases name <;> simp [Document.add]

@[simp] theorem Document.action_add_kind (document : Document) (name : SectionName)
    (component : Component) :
    (document.add name component).action.map Action.kind = document.action.map Action.kind := by
  cases name <;> simp [Document.add, Function.comp_def]

/-- A component is put at the end of its section. -/
theorem Document.components_add_self {document : Document} {name : SectionName}
    (h : name = .type → document.action.isSome) (component : Component) :
    (document.add name component).components name = document.components name ++ [component] := by
  cases name with
  | vars => rfl
  | after => rfl
  | type =>
    obtain ⟨action, haction⟩ := Option.isSome_iff_exists.1 (h rfl)
    simp [Document.add, Document.components, haction]

/-- The other sections do not change. -/
theorem Document.components_add_of_ne {document : Document} {name other : SectionName}
    (h : other ≠ name) (component : Component) :
    (document.add name component).components other = document.components other := by
  cases name <;> cases other <;> first | rfl | exact absurd rfl h

/-- A document is its sections and the kind of its action. -/
theorem Document.ext_components {first second : Document}
    (hcomponents : ∀ name, first.components name = second.components name)
    (hkind : first.action.map Action.kind = second.action.map Action.kind) : first = second := by
  obtain ⟨vars, after, action⟩ := first
  obtain ⟨vars', after', action'⟩ := second
  obtain rfl : vars = vars' := hcomponents .vars
  obtain rfl : after = after' := hcomponents .after
  have hfields := hcomponents .type
  cases action with
  | none =>
    cases action' with
    | none => rfl
    | some _ => simp at hkind
  | some action =>
    cases action' with
    | none => simp at hkind
    | some action' =>
      obtain ⟨kind, fields⟩ := action
      obtain ⟨kind', fields'⟩ := action'
      obtain rfl : kind = kind' := by simpa using hkind
      obtain rfl : fields = fields' := hfields
      rfl

/-! ## Places -/

/-- Whether a place is between two fences. -/
def Position.isFenced : Position → Bool
  | .inside _ (.fenced ..) => true
  | _ => false

theorem Position.exists_of_isFenced {position : Position} (h : position.isFenced = true) :
    ∃ name header at' opened kind lines,
      position = .inside name (.fenced header at' opened kind lines) := by
  cases position with
  | outside => cases h
  | inside name body =>
    cases body with
    | idle | items | unfenced => cases h
    | fenced header at' opened kind lines => exact ⟨name, header, at', opened, kind, lines, rfl⟩

/-- The header of the component that is being read. -/
def Body.header? : Body → Option Header
  | .idle => none
  | .items header _ _ => some header
  | .unfenced header _ => some header
  | .fenced header _ _ _ _ => some header

namespace Reader

variable {reader next last : Reader} {name : SectionName} {body : Body} {number : Nat}
  {line title : List Char}

/-! ## Settling -/

theorem settle_of_outside (h : reader.place = .outside) : reader.settle = reader := by
  rw [settle, h]

theorem settle_of_idle (h : reader.place = .inside name .idle) : reader.settle = reader := by
  rw [settle, h]

theorem settle_of_items {header : Header} {at' : Nat} {values : List Value}
    (h : reader.place = .inside name (.items header at' values)) :
    reader.settle =
      { reader with
        document := reader.document.add name (header.component at' values)
        place := .inside name .idle } := by
  rw [settle, h]

theorem settle_of_unfenced {header : Header} {at' : Nat}
    (h : reader.place = .inside name (.unfenced header at')) :
    reader.settle =
      { reader with
        document := reader.document.add name (header.component at' [Value.text ""])
        place := .inside name .idle } := by
  rw [settle, h]

/-- Settling changes nothing, or it completes the component that is being
read. -/
theorem settle_cases (reader : Reader) :
    reader.settle = reader ∨
      ∃ name body header at' values, reader.place = .inside name body ∧
        body.header? = some header ∧
        reader.settle =
          { reader with
            document := reader.document.add name (header.component at' values)
            place := .inside name .idle } := by
  cases hp : reader.place with
  | outside => exact Or.inl (settle_of_outside hp)
  | inside name body =>
    cases body with
    | idle => exact Or.inl (settle_of_idle hp)
    | items header at' values =>
      exact Or.inr ⟨name, _, header, at', values, rfl, rfl, settle_of_items hp⟩
    | unfenced header at' =>
      exact Or.inr ⟨name, _, header, at', [Value.text ""], rfl, rfl, settle_of_unfenced hp⟩
    | fenced => exact Or.inl (by rw [settle, hp])

@[simp] theorem settle_opened (reader : Reader) : reader.settle.opened = reader.opened := by
  rcases settle_cases reader with h | ⟨name, body, header, at', values, -, -, h⟩ <;> rw [h]

/-- Settling leaves the section, unless the reader is between two fences. -/
theorem settle_place_of_inside (h : reader.place = .inside name body)
    (hf : reader.place.isFenced = false) : reader.settle.place = .inside name .idle := by
  cases body with
  | idle => rw [settle_of_idle h, h]
  | items => rw [settle_of_items h]
  | unfenced => rw [settle_of_unfenced h]
  | fenced => simp [h, Position.isFenced] at hf

/-! ## Steps by the kind of the line -/

theorem step_section (h : reader.place.isFenced = false) (number : Nat) (title : List Char) :
    reader.step number (sectionMark ++ title) = reader.settle.openSection number title := by
  rw [step]
  split
  · next hp => simp [hp, Position.isFenced] at h
  · next hp => simp only [dropStart?_append, settle_of_outside hp]
  · simp only [dropStart?_append]

theorem step_component (hp : reader.place = .inside name body)
    (h : reader.place.isFenced = false) (number : Nat) (title : List Char) :
    reader.step number (componentMark ++ title) =
      reader.settle.openComponent name number title := by
  have hs : dropStart? sectionMark (componentMark ++ title) = none := rfl
  cases body with
  | fenced => simp [hp, Position.isFenced] at h
  | idle | items | unfenced => simp only [step, hp, hs, dropStart?_append]

theorem step_outside (hp : reader.place = .outside) (hs : ¬ sectionMark <+: line) :
    reader.step number line = .ok reader := by
  simp only [step, hp, dropStart?_eq_none_iff.2 hs]

theorem step_inside (hp : reader.place = .inside name body) (h : reader.place.isFenced = false)
    (hs : ¬ sectionMark <+: line) (hc : ¬ componentMark <+: line) :
    reader.step number line =
      .ok { reader with place := .inside name (readBody number line body) } := by
  cases body with
  | fenced => simp [hp, Position.isFenced] at h
  | idle | items | unfenced =>
    simp only [step, hp, dropStart?_eq_none_iff.2 hs, dropStart?_eq_none_iff.2 hc]

section Fenced

variable {header : Header} {at' opened : Nat} {kind : String} {lines : List (List Char)}

theorem step_close (hp : reader.place = .inside name (.fenced header at' opened kind lines))
    (number : Nat) (label : List Char) :
    reader.step number (fenceMark ++ label) =
      .ok { reader with
        document := reader.document.add name
          (header.component at' [⟨String.ofList (trim (join '\n' lines)), kind⟩])
        place := .inside name .idle } := by
  simp only [step, hp, dropStart?_append]

theorem step_content (hp : reader.place = .inside name (.fenced header at' opened kind lines))
    (h : ¬ fenceMark <+: line) :
    reader.step number line =
      .ok { reader with
        place := .inside name (.fenced header at' opened kind (lines ++ [line])) } := by
  simp only [step, hp, dropStart?_eq_none_iff.2 h]

end Fenced

/-! ## All steps -/

/-- The ways in which a line can be read. -/
inductive Step (reader : Reader) (number : Nat) (line : List Char) : Reader → Prop where
  /-- Outside every section, a line that opens none. -/
  | skip (hp : reader.place = .outside) (hs : ¬ sectionMark <+: line) :
      Step reader number line reader
  /-- A line that starts with the section mark. -/
  | title (hf : reader.place.isFenced = false) {title : List Char}
      (hl : line = sectionMark ++ title) {next : Reader}
      (ho : reader.settle.openSection number title = .ok next) :
      Step reader number line next
  /-- Inside a section, a line that starts with the component mark. -/
  | header {name : SectionName} {body : Body} (hp : reader.place = .inside name body)
      (hf : reader.place.isFenced = false) {title : List Char}
      (hl : line = componentMark ++ title) {next : Reader}
      (ho : reader.settle.openComponent name number title = .ok next) :
      Step reader number line next
  /-- Inside a section, a line that is no header. -/
  | plain {name : SectionName} {body : Body} (hp : reader.place = .inside name body)
      (hf : reader.place.isFenced = false) (hs : ¬ sectionMark <+: line)
      (hc : ¬ componentMark <+: line) :
      Step reader number line { reader with place := .inside name (readBody number line body) }
  /-- The line that closes a fence. -/
  | close {name : SectionName} {header : Header} {at' opened : Nat} {kind : String}
      {lines : List (List Char)}
      (hp : reader.place = .inside name (.fenced header at' opened kind lines))
      {label : List Char} (hl : line = fenceMark ++ label) :
      Step reader number line
        { reader with
          document := reader.document.add name
            (header.component at' [⟨String.ofList (trim (join '\n' lines)), kind⟩])
          place := .inside name .idle }
  /-- A line between two fences. -/
  | content {name : SectionName} {header : Header} {at' opened : Nat} {kind : String}
      {lines : List (List Char)}
      (hp : reader.place = .inside name (.fenced header at' opened kind lines))
      (hl : ¬ fenceMark <+: line) :
      Step reader number line
        { reader with
          place := .inside name (.fenced header at' opened kind (lines ++ [line])) }

/-- A line that is not between two fences opens a section, or opens a component,
or is neither. -/
theorem step_of_not_fenced (hf : reader.place.isFenced = false)
    (h : reader.step number line = .ok next) : Step reader number line next := by
  by_cases hs : sectionMark <+: line
  · obtain ⟨title, rfl⟩ := hs
    rw [step_section hf] at h
    exact .title hf rfl h
  cases hp : reader.place with
  | outside =>
    rw [step_outside hp hs] at h
    cases h
    exact .skip hp hs
  | inside name body =>
    by_cases hc : componentMark <+: line
    · obtain ⟨title, rfl⟩ := hc
      rw [step_component hp hf] at h
      exact .header hp hf rfl h
    · rw [step_inside hp hf hs hc] at h
      cases h
      exact .plain hp hf hs hc

/-- There are no other ways to read a line. -/
theorem step_of_eq_ok (h : reader.step number line = .ok next) : Step reader number line next := by
  cases hf : reader.place.isFenced with
  | false => exact step_of_not_fenced hf h
  | true =>
    obtain ⟨name, header, at', opened, kind, lines, hp⟩ := Position.exists_of_isFenced hf
    by_cases hl : fenceMark <+: line
    · obtain ⟨label, rfl⟩ := hl
      rw [step_close hp] at h
      cases h
      exact .close hp rfl
    · rw [step_content hp hl] at h
      cases h
      exact .content hp hl

/-! ## Headers -/

/-- A title that means nothing leaves every section. -/
theorem openSection_unknown (ht : SectionName.ofTitle? title = none) (number : Nat) :
    reader.openSection number title = .ok { reader with place := .outside } := by
  simp only [openSection, ht]

theorem openSection_again {first : Nat} (ht : SectionName.ofTitle? title = some name)
    (ho : reader.opened.lookup name = some first) (number : Nat) :
    reader.openSection number title = .error (.duplicateSection number name first) := by
  simp only [openSection, ht, ho]

theorem openSection_new (ht : SectionName.ofTitle? title = some name)
    (ho : reader.opened.lookup name = none) (hname : name ≠ .type) (number : Nat) :
    reader.openSection number title =
      .ok { reader with
        opened := reader.opened ++ [(name, number)], place := .inside name .idle } := by
  simp only [openSection, ht, ho, hname, ↓reduceIte]

theorem openSection_type {kind : String} (ht : SectionName.ofTitle? title = some .type)
    (ho : reader.opened.lookup .type = none) (hk : actionKind? title = some kind)
    (number : Nat) :
    reader.openSection number title =
      .ok { reader with
        document := { reader.document with action := some ⟨kind, []⟩ }
        opened := reader.opened ++ [(.type, number)]
        place := .inside .type .idle } := by
  simp only [openSection, ht, ho, hk, ↓reduceIte]

/-- What a section's title does: it leaves every section, or opens one that was
not opened before. -/
theorem openSection_eq_ok (h : reader.openSection number title = .ok next) :
    (SectionName.ofTitle? title = none ∧ next = { reader with place := .outside }) ∨
      ∃ name, SectionName.ofTitle? title = some name ∧ reader.opened.lookup name = none ∧
        next.opened = reader.opened ++ [(name, number)] ∧ next.place = .inside name .idle ∧
        (name ≠ .type ∧ next.document = reader.document ∨
          name = .type ∧ ∃ kind, actionKind? title = some kind ∧
            next.document = { reader.document with action := some ⟨kind, []⟩ }) := by
  cases ht : SectionName.ofTitle? title with
  | none =>
    rw [openSection_unknown ht] at h
    cases h
    exact Or.inl ⟨rfl, rfl⟩
  | some name =>
    cases ho : reader.opened.lookup name with
    | some first =>
      rw [openSection_again ht ho] at h
      cases h
    | none =>
      refine Or.inr ⟨name, rfl, ho, ?_⟩
      by_cases hname : name = .type
      · subst hname
        cases hk : actionKind? title with
        | none => simp [openSection, ht, ho, hk] at h
        | some kind =>
          rw [openSection_type ht ho hk] at h
          cases h
          exact ⟨rfl, rfl, Or.inr ⟨rfl, kind, rfl, rfl⟩⟩
      · rw [openSection_new ht ho hname] at h
        cases h
        exact ⟨rfl, rfl, Or.inl ⟨hname, rfl⟩⟩

/-- The body that follows a header. -/
def bodyOf (header : Header) (number : Nat) : Body :=
  if header.kind = .list then .items header number [] else .unfenced header number

@[simp] theorem header?_bodyOf (header : Header) (number : Nat) :
    (bodyOf header number).header? = some header := by
  rw [bodyOf]
  split <;> rfl

/-- What a component's header does: it opens a component of a new name. -/
theorem openComponent_eq_ok (h : reader.openComponent name number title = .ok next) :
    ∃ header, Header.read title = .ok header ∧
      (reader.document.components name).find? (·.name == header.name) = none ∧
      next = { reader with place := .inside name (bodyOf header number) } := by
  rw [openComponent] at h
  cases hr : Header.read title with
  | error fault => cases fault <;> simp [hr] at h
  | ok header =>
    simp only [hr] at h
    cases hfind : (reader.document.components name).find? (·.name == header.name) with
    | some existing => simp [hfind] at h
    | none =>
      simp only [hfind] at h
      cases h
      exact ⟨header, rfl, hfind, rfl⟩

@[simp] theorem header?_readBody (number : Nat) (line : List Char) (body : Body) :
    (readBody number line body).header? = body.header? := by
  cases body with
  | idle | fenced => rfl
  | items | unfenced =>
    rw [readBody]
    split <;> rfl

/-- A step opens at most one section. -/
theorem opened_of_step (hs : Step reader number line next) :
    next.opened = reader.opened ∨
      ∃ title name, line = sectionMark ++ title ∧ SectionName.ofTitle? title = some name ∧
        reader.place.isFenced = false ∧ next.opened = reader.opened ++ [(name, number)] := by
  cases hs with
  | skip _ _ => exact Or.inl rfl
  | @title hf title hl next ho =>
    rcases openSection_eq_ok ho with ⟨-, rfl⟩ | ⟨name, ht, -, hopened, -, -⟩
    · exact Or.inl (settle_opened reader)
    · rw [settle_opened] at hopened
      exact Or.inr ⟨title, name, hl, ht, hf, hopened⟩
  | header _ _ _ ho =>
    obtain ⟨header, -, -, rfl⟩ := openComponent_eq_ok ho
    exact Or.inl (settle_opened reader)
  | plain _ _ _ _ => exact Or.inl rfl
  | close _ _ => exact Or.inl rfl
  | content _ _ => exact Or.inl rfl

theorem opened_prefix_of_step (hs : Step reader number line next) :
    reader.opened <+: next.opened := by
  rcases opened_of_step hs with h | ⟨_, _, -, -, -, h⟩
  · exact ⟨[], by rw [h, List.append_nil]⟩
  · exact ⟨_, h.symm⟩

/-! ## Runs -/

/-- A run over two lists of lines is a run over the first and then one over the
second. -/
theorem readLines_append (reader : Reader) (number : Nat) (first second : List (List Char)) :
    reader.readLines number (first ++ second) =
      (reader.readLines number first).bind fun next =>
        next.readLines (number + first.length) second := by
  induction first generalizing reader number with
  | nil => rfl
  | cons line first ih =>
    simp only [List.cons_append, readLines]
    cases reader.step number line with
    | error error => rfl
    | ok next =>
      simp only [ih, List.length_cons]
      rw [Nat.add_right_comm, Nat.add_assoc number]

theorem readLines_append_of_ok {first second : List (List Char)}
    (h : reader.readLines number first = .ok next) :
    reader.readLines number (first ++ second) =
      next.readLines (number + first.length) second := by
  rw [readLines_append, h]
  rfl

theorem readLines_cons_of_ok {rest : List (List Char)} (h : reader.step number line = .ok next) :
    reader.readLines number (line :: rest) = next.readLines (number + 1) rest := by
  rw [readLines, h]

/-- A run that succeeds starts with a step. -/
theorem readLines_cons_eq_ok {rest : List (List Char)}
    (h : reader.readLines number (line :: rest) = .ok last) :
    ∃ next, reader.step number line = .ok next ∧ Step reader number line next ∧
      next.readLines (number + 1) rest = .ok last := by
  cases hstep : reader.step number line with
  | error error => simp [readLines, hstep] at h
  | ok next =>
    rw [readLines_cons_of_ok hstep] at h
    exact ⟨next, rfl, step_of_eq_ok hstep, h⟩

/-- Outside every fence, an empty line changes nothing. -/
theorem step_empty (hf : reader.place.isFenced = false) (number : Nat) :
    reader.step number [] = .ok reader := by
  cases hp : reader.place with
  | outside => exact step_outside hp (by simp [sectionMark])
  | inside name body =>
    rw [step_inside hp hf (by simp [sectionMark]) (by simp [componentMark])]
    have hbody : readBody number [] body = body := by
      cases body <;> rfl
    rw [hbody, ← hp]

/-- A reader that is outside every fence after an empty line was there before,
and has not changed. -/
theorem eq_of_readLines_empty (h : reader.readLines number [[]] = .ok next)
    (hf : next.place.isFenced = false) : reader.place.isFenced = false ∧ reader = next := by
  cases hr : reader.place.isFenced with
  | false =>
    rw [readLines_cons_of_ok (step_empty hr number)] at h
    cases h
    exact ⟨rfl, rfl⟩
  | true =>
    obtain ⟨name, header, at', opened, kind, lines, hp⟩ := Position.exists_of_isFenced hr
    rw [readLines_cons_of_ok (step_content hp (by simp [fenceMark]))] at h
    cases h
    simp [Position.isFenced] at hf

/-- What every step preserves holds after a run. -/
theorem readLines_keeps {P : Reader → Prop}
    (hstep : ∀ {reader number line next}, P reader → Step reader number line next → P next)
    {lines : List (List Char)} (hP : P reader) (h : reader.readLines number lines = .ok next) :
    P next := by
  induction lines generalizing reader number with
  | nil =>
    cases h
    exact hP
  | cons line lines ih =>
    obtain ⟨middle, -, hs, hrest⟩ := readLines_cons_eq_ok h
    exact ih (hstep hP hs) hrest

/-- A run only adds to the opened sections. -/
theorem opened_prefix_of_readLines {lines : List (List Char)}
    (h : reader.readLines number lines = .ok last) : reader.opened <+: last.opened := by
  have hkeep : ∀ {middle number line next}, reader.opened <+: middle.opened →
      Step middle number line next → reader.opened <+: next.opened :=
    fun hm hs => hm.trans (opened_prefix_of_step hs)
  exact readLines_keeps hkeep (List.prefix_refl _) h

theorem finish_of_not_fenced (h : reader.place.isFenced = false) :
    reader.finish = .ok reader.settle.document := by
  rw [finish]
  split
  · next hp => simp [hp, Position.isFenced] at h
  · rfl

/-- The document of a text that can be read: the reader is not between two
fences after the last line, and the document is what it has then. -/
theorem finish_eq_ok {document : Document} (h : reader.finish = .ok document) :
    reader.place.isFenced = false ∧ document = reader.settle.document := by
  cases hf : reader.place.isFenced with
  | false =>
    rw [finish_of_not_fenced hf] at h
    cases h
    exact ⟨rfl, rfl⟩
  | true =>
    obtain ⟨name, header, at', opened, kind, lines, hp⟩ := Position.exists_of_isFenced hf
    rw [finish, hp] at h
    cases h

end Reader

/-- A text that can be read is a run to its last line that ends outside every
fence. -/
theorem Document.parse_eq_ok {text : String} {document : Document}
    (h : Document.parse text = .ok document) :
    ∃ reader : Reader, Reader.readLines {} 1 (lines text.toList) = .ok reader ∧
      reader.place.isFenced = false ∧ document = reader.settle.document := by
  rw [Document.parse, Document.ofLines] at h
  cases hr : Reader.readLines {} 1 (lines text.toList) with
  | error error => simp [hr] at h
  | ok reader =>
    simp only [hr] at h
    exact ⟨reader, rfl, Reader.finish_eq_ok h⟩

theorem Document.parse_of_readLines {text : String} {reader : Reader}
    (h : Reader.readLines {} 1 (lines text.toList) = .ok reader)
    (hf : reader.place.isFenced = false) :
    Document.parse text = .ok reader.settle.document := by
  rw [Document.parse, Document.ofLines, h]
  exact Reader.finish_of_not_fenced hf

end CallSheet
