import CallSheet.Proofs.Document.Grammar
import CallSheet.Proofs.Document.Invariants

/-!
# Writing a document

A document can be written down in many ways.  The sections come in any order,
lines that mean nothing stand between the lines that do, sections that nobody
knows stand between the sections, and every line has one of two endings.  The
relations of this file describe all of them.

* `ItemLines` and `FenceLines` are the bodies of a component, `ComponentLines`
  the components of a section, `SectionLines` the sections, and `DocumentLines`
  a whole document.  They carry the number of the first line, because a
  component is read with the number of its header's line.
* `Document.Writable` says which documents can be written at all.

The main result is `parse_of_documentLines`: reading a written document gives
the document, each component at the line of its header.
-/

namespace CallSheet

open Text

/-! ## Documents that can be written -/

/-- A value that fits between two fences. -/
structure Value.Fenceable (value : Value) : Prop where
  trimmed : trim value.content.toList = value.content.toList
  lines : ∀ line ∈ splitOn '\n' value.content.toList,
    ¬ fenceMark <+: line ∧ line.getLast? ≠ some '\r'
  kind_ne : value.contentKind ≠ ""
  kind_trimmed : trim value.contentKind.toList = value.contentKind.toList
  kind_line : '\n' ∉ value.contentKind.toList

/-- A value that fits on the line of a list's item. -/
structure Value.Listable (value : Value) : Prop where
  kind : value.contentKind = textContent
  line : '\n' ∉ value.content.toList
  ending : value.content.toList.getLast? ≠ some '\r'

/-- The header of a component. -/
def Component.header (component : Component) : Header :=
  ⟨component.name, component.kind, component.converters⟩

/-- A component that can be written. -/
structure Component.Writable (component : Component) : Prop where
  header : component.header.WellFormed
  items : component.kind = .list → ∀ value ∈ component.values, value.Listable
  single : component.kind ≠ .list → ∃ value, component.values = [value] ∧ value.Fenceable

/-- A document that can be written. -/
structure Document.Writable (document : Document) : Prop where
  nodup : ∀ name, ((document.components name).map Component.name).Nodup
  components : ∀ name, ∀ component ∈ document.components name, component.Writable
  action : ∀ action, document.action = some action → isName action.kind.toList = true

/-! ## Line numbers -/

/-- Components at the given lines. -/
def placedAt (components : List Component) (starts : List Nat) : List Component :=
  List.zipWith (fun component start => { component with line := start }) components starts

/-- A document with its components at the given lines. -/
def Document.placedAt (document : Document) (starts : SectionName → List Nat) : Document where
  vars := CallSheet.placedAt document.vars (starts .vars)
  after := CallSheet.placedAt document.after (starts .after)
  action := document.action.map fun action =>
    { action with fields := CallSheet.placedAt action.fields (starts .type) }

@[simp] theorem Document.components_placedAt (document : Document)
    (starts : SectionName → List Nat) (name : SectionName) :
    (document.placedAt starts).components name =
      CallSheet.placedAt (document.components name) (starts name) := by
  cases name with
  | vars | after => rfl
  | type =>
    rw [Document.placedAt, components, components]
    cases document.action <;> rfl

@[simp] theorem Document.kind_placedAt (document : Document) (starts : SectionName → List Nat) :
    (document.placedAt starts).action.map Action.kind = document.action.map Action.kind := by
  simp [Document.placedAt, Function.comp_def]

/-! ## The written lines -/

/-- A line that opens neither a section nor a component. -/
structure Filler (line : List Char) : Prop where
  free : '\n' ∉ line
  noSection : ¬ sectionMark <+: line
  noComponent : ¬ componentMark <+: line

/-- The lines after the header of a list. -/
inductive ItemLines : List Value → List (List Char) → Prop where
  | nil : ItemLines [] []
  | filler {line : List Char} {values : List Value} {rest : List (List Char)} (hf : Filler line)
      (hi : ¬ itemMark <+: line) (hrest : ItemLines values rest) :
      ItemLines values (line :: rest)
  | item {value : Value} {values : List Value} {rest : List (List Char)}
      (hrest : ItemLines values rest) :
      ItemLines (value :: values) ((itemMark ++ value.content.toList) :: rest)

/-- The lines after the header of a component with a fence. -/
inductive FenceLines (value : Value) : List (List Char) → Prop where
  | mk {before after : List (List Char)}
      (hbefore : ∀ line ∈ before, Filler line ∧ ¬ fenceMark <+: line)
      (hafter : ∀ line ∈ after, Filler line) :
      FenceLines value
        (before ++ (fenceMark ++ value.contentKind.toList) ::
          (splitOn '\n' value.content.toList ++ fenceMark :: after))

/-- The lines after the header of a component. -/
inductive BodyLines (component : Component) : List (List Char) → Prop where
  | list {body : List (List Char)} (hk : component.kind = .list)
      (hb : ItemLines component.values body) : BodyLines component body
  | fenced {value : Value} {body : List (List Char)} (hk : component.kind ≠ .list)
      (hv : component.values = [value]) (hb : FenceLines value body) : BodyLines component body

/-- The lines of components, the first of which has the given number, and the
numbers of their headers' lines. -/
inductive ComponentLines : Nat → List Component → List Nat → List (List Char) → Prop where
  | nil {number : Nat} : ComponentLines number [] [] []
  | cons {number : Nat} {component : Component} {components : List Component}
      {starts : List Nat} {body rest : List (List Char)} (hb : BodyLines component body)
      (hrest : ComponentLines (number + 1 + body.length) components starts rest) :
      ComponentLines number (component :: components) (number :: starts)
        ((componentMark ++ component.header.written) :: (body ++ rest))

/-- The title of a section of a document, if the document has that section. -/
def Document.title? (document : Document) : SectionName → Option (List Char)
  | .vars => some ['v', 'a', 'r', 's']
  | .after => some ['a', 'f', 't', 'e', 'r']
  | .type => document.action.map fun action => actionTitle action.kind

/-- The lines of sections, the first of which has the given number.  Sections
with other titles may stand between them. -/
inductive SectionLines (document : Document) (starts : SectionName → List Nat) :
    Nat → List SectionName → List (List Char) → Prop where
  | nil {number : Nat} : SectionLines document starts number [] []
  | known {number : Nat} {name : SectionName} {names : List SectionName} {title : List Char}
      {fillers body rest : List (List Char)} (ht : document.title? name = some title)
      (hf : ∀ line ∈ fillers, Filler line)
      (hb : ComponentLines (number + 1 + fillers.length) (document.components name) (starts name)
        body)
      (hrest : SectionLines document starts (number + 1 + fillers.length + body.length) names
        rest) :
      SectionLines document starts number (name :: names)
        ((sectionMark ++ title) :: (fillers ++ (body ++ rest)))
  | unknown {number : Nat} {names : List SectionName} {title : List Char}
      {fillers rest : List (List Char)} (ht : SectionName.ofTitle? title = none)
      (hl : '\n' ∉ title) (hf : ∀ line ∈ fillers, '\n' ∉ line ∧ ¬ sectionMark <+: line)
      (hrest : SectionLines document starts (number + 1 + fillers.length) names rest) :
      SectionLines document starts number names ((sectionMark ++ title) :: (fillers ++ rest))

/-- The lines of a document.  A section without components may be left out,
unless it is the action's. -/
inductive DocumentLines (document : Document) (starts : SectionName → List Nat) :
    List (List Char) → Prop where
  | mk {names : List SectionName} {fillers rest : List (List Char)}
      (hf : ∀ line ∈ fillers, '\n' ∉ line ∧ ¬ sectionMark <+: line)
      (hs : SectionLines document starts (1 + fillers.length) names rest) (hnodup : names.Nodup)
      (hempty : ∀ name, name ∉ names → document.components name = [])
      (haction : document.action.isSome → .type ∈ names) :
      DocumentLines document starts (fillers ++ rest)

/-! ## No line feeds -/

theorem ItemLines.free {values : List Value} {lines : List (List Char)}
    (h : ItemLines values lines) (hv : ∀ value ∈ values, value.Listable) :
    ∀ line ∈ lines, '\n' ∉ line := by
  induction h with
  | nil => simp
  | filler hf _ _ ih =>
    rw [List.forall_mem_cons]
    exact ⟨hf.free, ih hv⟩
  | @item value values rest _ ih =>
    rw [List.forall_mem_cons] at hv ⊢
    refine ⟨?_, ih hv.2⟩
    simp [itemMark, hv.1.line]

theorem FenceLines.free {value : Value} {lines : List (List Char)} (h : FenceLines value lines)
    (hv : value.Fenceable) : ∀ line ∈ lines, '\n' ∉ line := by
  obtain ⟨hbefore, hafter⟩ := h
  intro line hline
  rcases List.mem_append.1 hline with hline | hline
  · exact (hbefore line hline).1.free
  rcases List.mem_cons.1 hline with rfl | hline
  · simp [fenceMark, hv.kind_line]
  rcases List.mem_append.1 hline with hline | hline
  · exact not_mem_of_mem_splitOn hline
  rcases List.mem_cons.1 hline with rfl | hline
  · simp [fenceMark]
  · exact (hafter line hline).free

theorem BodyLines.free {component : Component} {lines : List (List Char)}
    (h : BodyLines component lines) (hw : component.Writable) : ∀ line ∈ lines, '\n' ∉ line := by
  cases h with
  | list hk hb => exact hb.free (hw.items hk)
  | fenced hk hv hb =>
    obtain ⟨value, hvalue, hfence⟩ := hw.single hk
    obtain rfl : _ = value := by simpa [hv] using hvalue
    exact hb.free hfence

theorem Header.lineFeed_not_mem_written {header : Header} (h : header.WellFormed) :
    '\n' ∉ header.written := by
  intro hc
  exact absurd (not_blank_of_mem_written h hc) (by decide)

theorem ComponentLines.free {number : Nat} {components : List Component} {starts : List Nat}
    {lines : List (List Char)} (h : ComponentLines number components starts lines)
    (hw : ∀ component ∈ components, component.Writable) : ∀ line ∈ lines, '\n' ∉ line := by
  induction h with
  | nil => simp
  | cons hb _ ih =>
    rw [List.forall_mem_cons] at hw ⊢
    refine ⟨?_, ?_⟩
    · simp [componentMark, Header.lineFeed_not_mem_written hw.1.header]
    · intro line hline
      rcases List.mem_append.1 hline with hline | hline
      · exact hb.free hw.1 line hline
      · exact ih hw.2 line hline

theorem Document.Writable.lineFeed_not_mem_title {document : Document} (hw : document.Writable)
    {name : SectionName} {title : List Char} (ht : document.title? name = some title) :
    '\n' ∉ title := by
  cases name with
  | vars | after =>
    obtain rfl := Option.some.inj ht
    decide
  | type =>
    obtain ⟨action, haction, rfl⟩ := Option.map_eq_some_iff.1 ht
    have hkind : '\n' ∉ action.kind.toList := by
      intro hc
      exact absurd (isNameChar_of_isName (hw.action action haction) hc) (by decide)
    simp [actionTitle, hkind]

theorem SectionLines.free {document : Document} {starts : SectionName → List Nat} {number : Nat}
    {names : List SectionName} {lines : List (List Char)}
    (h : SectionLines document starts number names lines) (hw : document.Writable) :
    ∀ line ∈ lines, '\n' ∉ line := by
  induction h with
  | nil => simp
  | known ht hf hb _ ih =>
    rw [List.forall_mem_cons]
    refine ⟨?_, ?_⟩
    · simp [sectionMark, hw.lineFeed_not_mem_title ht]
    · intro line hline
      rcases List.mem_append.1 hline with hline | hline
      · exact (hf line hline).free
      rcases List.mem_append.1 hline with hline | hline
      · exact hb.free (hw.components _) line hline
      · exact ih line hline
  | unknown _ hl hf _ ih =>
    rw [List.forall_mem_cons]
    refine ⟨?_, ?_⟩
    · simp [sectionMark, hl]
    · intro line hline
      rcases List.mem_append.1 hline with hline | hline
      · exact (hf line hline).1
      · exact ih line hline

/-- No line of a written document holds a line feed. -/
theorem DocumentLines.free {document : Document} {starts : SectionName → List Nat}
    {lines : List (List Char)} (h : DocumentLines document starts lines) (hw : document.Writable) :
    ∀ line ∈ lines, '\n' ∉ line := by
  obtain ⟨hf, hs, -, -, -⟩ := h
  intro line hline
  rcases List.mem_append.1 hline with hline | hline
  · exact (hf line hline).1
  · exact hs.free hw line hline

/-! ## Reading a body -/

namespace Reader

variable {reader : Reader} {name : SectionName} {body : Body} {header : Header} {at' number : Nat}

/-- Outside every section, lines that open none change nothing. -/
theorem readLines_outside (hp : reader.place = .outside) {lines : List (List Char)}
    (hl : ∀ line ∈ lines, ¬ sectionMark <+: line) (number : Nat) :
    reader.readLines number lines = .ok reader := by
  induction lines generalizing number with
  | nil => rfl
  | cons line lines ih =>
    rw [List.forall_mem_cons] at hl
    rw [readLines_cons_of_ok (step_outside hp hl.1)]
    exact ih hl.2 (number + 1)

/-- Inside a section, lines that a body passes over change nothing. -/
theorem readLines_passed (hp : reader.place = .inside name body)
    (hf : reader.place.isFenced = false) {lines : List (List Char)}
    (hl : ∀ line ∈ lines, Filler line ∧ ∀ number, readBody number line body = body)
    (number : Nat) : reader.readLines number lines = .ok reader := by
  induction lines generalizing number with
  | nil => rfl
  | cons line lines ih =>
    rw [List.forall_mem_cons] at hl
    have hstep : reader.step number line = .ok reader := by
      rw [step_inside hp hf hl.1.1.noSection hl.1.1.noComponent, hl.1.2 number, ← hp]
    rw [readLines_cons_of_ok hstep]
    exact ih hl.2 (number + 1)

/-- The items of a list are read one after the other. -/
theorem readLines_items {values : List Value} {lines : List (List Char)}
    (h : ItemLines values lines) (hv : ∀ value ∈ values, value.contentKind = textContent)
    {known : List Value} (hp : reader.place = .inside name (.items header at' known))
    (number : Nat) :
    reader.readLines number lines =
      .ok { reader with place := .inside name (.items header at' (known ++ values)) } := by
  induction h generalizing reader known number with
  | nil => rw [readLines, List.append_nil, ← hp]
  | @filler line values rest hf hi _ ih =>
    have hstep : reader.step number line = .ok reader := by
      rw [step_inside hp (by rw [hp]; rfl) hf.noSection hf.noComponent, readBody,
        dropStart?_eq_none_iff.2 hi, ← hp]
    rw [readLines_cons_of_ok hstep]
    exact ih hv hp (number + 1)
  | @item value values rest _ ih =>
    rw [List.forall_mem_cons] at hv
    have hvalue : Value.text value.content = value := by
      rw [Value.text, ← hv.1]
    have hstep : reader.step number (itemMark ++ value.content.toList) =
        .ok { reader with place := .inside name (.items header at' (known ++ [value])) } := by
      rw [step_inside hp (by rw [hp]; rfl) (by simp [sectionMark, itemMark])
        (by simp [componentMark, itemMark]), readBody, dropStart?_append]
      simp [String.ofList_toList, hvalue]
    rw [readLines_cons_of_ok hstep, ih hv.2 rfl]
    simp

/-- The lines between two fences are kept. -/
theorem readLines_content {lines known : List (List Char)} {opened : Nat} {kind : String}
    (hp : reader.place = .inside name (.fenced header at' opened kind known))
    (hl : ∀ line ∈ lines, ¬ fenceMark <+: line) (number : Nat) :
    reader.readLines number lines =
      .ok { reader with
        place := .inside name (.fenced header at' opened kind (known ++ lines)) } := by
  induction lines generalizing reader known number with
  | nil => rw [readLines, List.append_nil, ← hp]
  | cons line lines ih =>
    rw [List.forall_mem_cons] at hl
    rw [readLines_cons_of_ok (step_content hp hl.1), ih rfl hl.2]
    simp

/-- The label of a fence is its content kind. -/
theorem contentKind_toList {kind : String} (hne : kind ≠ "")
    (htrim : trim kind.toList = kind.toList) : contentKind kind.toList = kind := by
  have hempty : kind.toList.isEmpty = false := by
    rw [List.isEmpty_eq_false_iff]
    intro h
    exact hne (String.toList_eq_nil_iff.1 h)
  simp only [contentKind, htrim, hempty, Bool.false_eq_true, ↓reduceIte, String.ofList_toList]

/-- A fenced value is read, and the component is complete after it. -/
theorem readLines_fence {value : Value} {lines : List (List Char)} (h : FenceLines value lines)
    (hv : value.Fenceable) (hp : reader.place = .inside name (.unfenced header at'))
    (number : Nat) :
    reader.readLines number lines =
      .ok { reader with
        document := reader.document.add name (header.component at' [value])
        place := .inside name .idle } := by
  obtain @⟨before, after, hbefore, hafter⟩ := h
  have hfirst : reader.readLines number before = .ok reader := by
    refine readLines_passed hp (by rw [hp]; rfl) ?_ number
    intro line hline
    refine ⟨(hbefore line hline).1, ?_⟩
    intro number
    rw [readBody, dropStart?_eq_none_iff.2 (hbefore line hline).2]
  have hopen : reader.step (number + before.length) (fenceMark ++ value.contentKind.toList) =
      .ok { reader with
        place := .inside name
          (.fenced header at' (number + before.length) value.contentKind []) } := by
    rw [step_inside hp (by rw [hp]; rfl) (by simp [sectionMark, fenceMark])
      (by simp [componentMark, fenceMark]), readBody, dropStart?_append]
    simp only [contentKind_toList hv.kind_ne hv.kind_trimmed]
  have hvalue : (⟨String.ofList (trim (join '\n' ([] ++ splitOn '\n' value.content.toList))),
      value.contentKind⟩ : Value) = value := by
    rw [List.nil_append, join_splitOn, hv.trimmed, String.ofList_toList]
  rw [readLines_append_of_ok hfirst, readLines_cons_of_ok hopen,
    readLines_append_of_ok (readLines_content rfl (fun line hline => (hv.lines line hline).1) _),
    readLines_cons_of_ok (by
      rw [← List.append_nil fenceMark]
      exact step_close rfl _ [])]
  simp only [hvalue]
  refine readLines_passed rfl rfl ?_ _
  intro line hline
  exact ⟨hafter line hline, fun _ => rfl⟩

/-- The body of a component is read, and settling completes the component. -/
theorem readLines_body {component : Component} {lines : List (List Char)}
    (h : BodyLines component lines) (hw : component.Writable)
    (hp : reader.place = .inside name (bodyOf component.header at')) (number : Nat) :
    ∃ next body, reader.readLines number lines = .ok next ∧ next.place = .inside name body ∧
      next.place.isFenced = false ∧ next.opened = reader.opened ∧
      next.settle.document = reader.document.add name { component with line := at' } := by
  cases h with
  | list hk hb =>
    have hk' : component.header.kind = .list := hk
    have hp' : reader.place = .inside name (.items component.header at' []) := by
      rw [hp, bodyOf, if_pos hk']
    have hv : ∀ value ∈ component.values, value.contentKind = textContent :=
      fun value hvalue => (hw.items hk value hvalue).kind
    refine ⟨_, _, readLines_items hb hv hp' number, rfl, rfl, rfl, ?_⟩
    rw [settle_of_items rfl]
    rfl
  | @fenced value _ hk hv hb =>
    have hk' : component.header.kind ≠ .list := hk
    have hp' : reader.place = .inside name (.unfenced component.header at') := by
      rw [hp, bodyOf, if_neg hk']
    obtain ⟨value', hvalue, hfence⟩ := hw.single hk
    obtain rfl : value = value' := by simpa [hv] using hvalue
    refine ⟨_, _, readLines_fence hb hfence hp' number, rfl, rfl, rfl, ?_⟩
    rw [settle_of_idle rfl, ← hv]
    rfl

/-! ## Reading components -/

end Reader

/-- Puts components at the end of a section, one after the other. -/
def Document.addAll (document : Document) (name : SectionName) (components : List Component) :
    Document :=
  components.foldl (fun document component => document.add name component) document

theorem Document.addAll_cons (document : Document) (name : SectionName) (component : Component)
    (components : List Component) :
    document.addAll name (component :: components) =
      (document.add name component).addAll name components := rfl

@[simp] theorem Document.action_addAll_kind (document : Document) (name : SectionName)
    (components : List Component) :
    (document.addAll name components).action.map Action.kind =
      document.action.map Action.kind := by
  induction components generalizing document with
  | nil => rfl
  | cons component components ih => rw [addAll_cons, ih, action_add_kind]

theorem Document.components_addAll_self {document : Document} {name : SectionName}
    (h : name = .type → document.action.isSome) (components : List Component) :
    (document.addAll name components).components name =
      document.components name ++ components := by
  induction components generalizing document with
  | nil => simp [addAll]
  | cons component components ih =>
    rw [addAll_cons, ih (by rwa [action_add_isSome]), components_add_self h]
    simp

theorem Document.components_addAll_of_ne {document : Document} {name other : SectionName}
    (h : other ≠ name) (components : List Component) :
    (document.addAll name components).components other = document.components other := by
  induction components generalizing document with
  | nil => rfl
  | cons component components ih => rw [addAll_cons, ih, components_add_of_ne h]

namespace Reader

variable {reader : Reader} {name : SectionName} {body : Body} {number : Nat}

/-- The header of a component with a new name opens that component. -/
theorem openComponent_written {component : Component} (hw : component.Writable)
    (hnew : component.name ∉ (reader.document.components name).map Component.name) :
    reader.openComponent name number component.header.written =
      .ok { reader with place := .inside name (bodyOf component.header number) } := by
  have hfind : (reader.document.components name).find? (·.name == component.header.name) =
      none := by
    rw [List.find?_eq_none]
    intro existing hexisting heq
    have hname : existing.name = component.name := eq_of_beq heq
    exact hnew (hname ▸ List.mem_map_of_mem hexisting)
  rw [openComponent, Header.read_written hw.header]
  simp only [hfind]
  rfl

/-- The components of a section are read one after the other. -/
theorem readLines_componentLines {components : List Component} {starts : List Nat}
    {lines : List (List Char)} (h : ComponentLines number components starts lines)
    (hw : ∀ component ∈ components, component.Writable)
    (hp : reader.place = .inside name body) (hf : reader.place.isFenced = false)
    (haction : name = .type → reader.settle.document.action.isSome)
    (hnodup : ((reader.settle.document.components name ++ components).map Component.name).Nodup) :
    ∃ next body', reader.readLines number lines = .ok next ∧ next.place = .inside name body' ∧
      next.place.isFenced = false ∧ next.opened = reader.opened ∧
      next.settle.document = reader.settle.document.addAll name (placedAt components starts) := by
  induction h generalizing reader body with
  | nil => exact ⟨reader, body, rfl, hp, hf, rfl, rfl⟩
  | @cons number component components starts lines rest hb _ ih =>
    rw [List.forall_mem_cons] at hw
    have hnew : component.name ∉ (reader.settle.document.components name).map Component.name :=
      name_not_mem_before hnodup
    have hstep : reader.step number (componentMark ++ component.header.written) =
        .ok { reader.settle with place := .inside name (bodyOf component.header number) } := by
      rw [step_component hp hf, openComponent_written hw.1 hnew]
    have hbody : ({ reader.settle with
        place := .inside name (bodyOf component.header number) } : Reader).place =
          .inside name (bodyOf component.header number) := rfl
    obtain ⟨middle, body', hread, hplace, hfenced, hopened, hdocument⟩ :=
      readLines_body hb hw.1 hbody (number + 1)
    have haction' : name = .type → middle.settle.document.action.isSome := by
      rw [hdocument, Document.action_add_isSome]
      exact haction
    have hnodup' : ((middle.settle.document.components name ++ components).map
        Component.name).Nodup := by
      rw [hdocument, Document.components_add_self haction]
      simpa using hnodup
    obtain ⟨next, body'', hread', hplace', hfenced', hopened', hdocument'⟩ :=
      ih hw.2 hplace hfenced haction' hnodup'
    refine ⟨next, body'', ?_, hplace', hfenced', ?_, ?_⟩
    · rw [readLines_cons_of_ok hstep, readLines_append_of_ok hread]
      exact hread'
    · rw [hopened', hopened]
      exact settle_opened reader
    · rw [hdocument', hdocument]
      rfl

/-! ## Reading sections -/

/-- The title of a section that was not opened before opens it. -/
theorem openSection_written {document : Document} (hw : document.Writable) {title : List Char}
    (ht : document.title? name = some title) (hco : reader.Coherent)
    (hnew : name ∉ reader.openedNames) (number : Nat) :
    ∃ next, reader.openSection number title = .ok next ∧ next.place = .inside name .idle ∧
      next.openedNames = reader.openedNames ++ [name] ∧ next.document.components name = [] ∧
      (∀ other, other ≠ name →
        next.document.components other = reader.document.components other) ∧
      next.document.action.map Action.kind =
        if name = .type then document.action.map Action.kind
        else reader.document.action.map Action.kind := by
  have hlookup : reader.opened.lookup name = none := lookup_eq_none_of_not_mem hnew
  cases name with
  | vars =>
    obtain rfl := Option.some.inj ht
    have htitle : SectionName.ofTitle? ['v', 'a', 'r', 's'] = some .vars := rfl
    refine ⟨_, openSection_new htitle hlookup (by decide) number, rfl, ?_,
      hco.components hnew, fun _ _ => rfl, rfl⟩
    simp [openedNames]
  | after =>
    obtain rfl := Option.some.inj ht
    have htitle : SectionName.ofTitle? ['a', 'f', 't', 'e', 'r'] = some .after := rfl
    refine ⟨_, openSection_new htitle hlookup (by decide) number, rfl, ?_,
      hco.components hnew, fun _ _ => rfl, rfl⟩
    simp [openedNames]
  | type =>
    obtain ⟨action, haction, rfl⟩ := Option.map_eq_some_iff.1 ht
    have hkind : actionKind? (actionTitle action.kind) = some action.kind :=
      actionKind?_actionTitle (hw.action action haction)
    refine ⟨_, openSection_type (ofTitle?_actionTitle action.kind) hlookup hkind number, rfl, ?_,
      rfl, ?_, ?_⟩
    · simp [openedNames]
    · intro other hother
      cases other with
      | vars | after => rfl
      | type => exact absurd rfl hother
    · simp [haction]

/-- One section of a document is read, and settling completes its last
component. -/
theorem readLines_section {document : Document} {starts : SectionName → List Nat}
    (hw : document.Writable) {title : List Char} (ht : document.title? name = some title)
    {fillers body : List (List Char)} (hfillers : ∀ line ∈ fillers, Filler line)
    (hb : ComponentLines (number + 1 + fillers.length) (document.components name) (starts name)
      body)
    (hf : reader.place.isFenced = false) (hco : reader.Coherent)
    (hnew : name ∉ reader.openedNames) :
    ∃ next, reader.readLines number ((sectionMark ++ title) :: (fillers ++ body)) = .ok next ∧
      next.place.isFenced = false ∧ next.openedNames = reader.openedNames ++ [name] ∧
      next.settle.document.components name = (document.placedAt starts).components name ∧
      (∀ other, other ≠ name →
        next.settle.document.components other = reader.settle.document.components other) ∧
      next.settle.document.action.map Action.kind =
        if name = .type then document.action.map Action.kind
        else reader.settle.document.action.map Action.kind := by
  obtain ⟨opened, hopen, hplace, hnames, hempty, hothers, hkind⟩ :=
    openSection_written hw ht hco.settle (by rwa [openedNames_settle]) number
  have hstep : reader.step number (sectionMark ++ title) = .ok opened := by
    rw [step_section hf, hopen]
  have hskip : opened.readLines (number + 1) fillers = .ok opened :=
    readLines_passed hplace (by rw [hplace]; rfl)
      (fun line hline => ⟨hfillers line hline, fun _ => rfl⟩) _
  have haction : name = .type → opened.document.action.isSome :=
    (hco.settle.openSection hopen).action_isSome hplace
  have hidle : opened.settle = opened := settle_of_idle hplace
  obtain ⟨next, _, hread, -, hfenced, hsame, hdocument⟩ :=
    readLines_componentLines hb (hw.components name) hplace (by rw [hplace]; rfl)
      (by rwa [hidle]) (by rw [hidle, hempty, List.nil_append]; exact hw.nodup name)
  rw [hidle] at hdocument
  refine ⟨next, ?_, hfenced, ?_, ?_, ?_, ?_⟩
  · rw [readLines_cons_of_ok hstep, readLines_append_of_ok hskip]
    exact hread
  · rw [openedNames, hsame, ← openedNames_settle, ← hnames, openedNames]
  · rw [hdocument, Document.components_addAll_self haction, hempty, List.nil_append,
      Document.components_placedAt]
  · intro other hother
    rw [hdocument, Document.components_addAll_of_ne hother, hothers other hother]
  · rw [hdocument, Document.action_addAll_kind, hkind]

/-- The sections of a document are read one after the other.  Each of them gets
its components, and the other sections stay as they are. -/
theorem readLines_sectionLines {document : Document} {starts : SectionName → List Nat}
    {names : List SectionName} {lines : List (List Char)}
    (h : SectionLines document starts number names lines) (hw : document.Writable)
    (hf : reader.place.isFenced = false) (hco : reader.Coherent) (hnodup : names.Nodup)
    (hnew : ∀ name ∈ names, name ∉ reader.openedNames) :
    ∃ next, reader.readLines number lines = .ok next ∧ next.place.isFenced = false ∧
      (∀ name, next.settle.document.components name =
        if name ∈ names then (document.placedAt starts).components name
        else reader.settle.document.components name) ∧
      next.settle.document.action.map Action.kind =
        if .type ∈ names then document.action.map Action.kind
        else reader.settle.document.action.map Action.kind := by
  induction h generalizing reader with
  | nil => exact ⟨reader, rfl, hf, by simp, by simp⟩
  | @known number name names title fillers body rest ht hfillers hb _ ih =>
    rw [List.nodup_cons] at hnodup
    rw [List.forall_mem_cons] at hnew
    obtain ⟨middle, hread, hfenced, hnames, hself, hothers, hkind⟩ :=
      readLines_section hw ht hfillers hb hf hco hnew.1
    have hnewmiddle : ∀ other ∈ names, other ∉ middle.openedNames := by
      intro other hother hmem
      rw [hnames, List.mem_append, List.mem_singleton] at hmem
      rcases hmem with hmem | rfl
      · exact hnew.2 other hother hmem
      · exact hnodup.1 hother
    obtain ⟨next, hrest, hfnext, hcomponents, haction⟩ :=
      ih hfenced (hco.readLines hread) hnodup.2 hnewmiddle
    refine ⟨next, ?_, hfnext, ?_, ?_⟩
    · rw [← List.append_assoc, ← List.cons_append, readLines_append_of_ok hread, ← hrest]
      simp only [List.length_cons, List.length_append]
      congr 1
      omega
    · intro other
      rw [hcomponents]
      simp only [List.mem_cons]
      by_cases hother : other ∈ names
      · simp [hother]
      by_cases hname : other = name
      · subst hname
        simp [hother, hself]
      · simp [hother, hname, hothers other hname]
    · rw [haction, hkind]
      simp only [List.mem_cons]
      by_cases htype : .type ∈ names
      · simp [htype]
      by_cases hname : name = .type
      · simp [hname]
      · have hname' : ¬ SectionName.type = name := fun e => hname e.symm
        simp [htype, hname, hname']
  | @unknown number names title fillers rest ht _ hfillers _ ih =>
    have hstep : reader.step number (sectionMark ++ title) =
        .ok { reader.settle with place := .outside } := by
      rw [step_section hf, openSection_unknown ht]
    have hout : Coherent { reader.settle with place := .outside } :=
      hco.settle.openSection (openSection_unknown ht number)
    obtain ⟨next, hrest, hfnext, hcomponents, haction⟩ :=
      ih (by rfl) hout hnodup (by
        intro name hname
        have := hnew name hname
        rwa [← openedNames_settle] at this)
    refine ⟨next, ?_, hfnext, hcomponents, haction⟩
    rw [readLines_cons_of_ok hstep,
      readLines_append_of_ok (readLines_outside rfl (fun line hline => (hfillers line hline).2) _)]
    exact hrest

end Reader

/-! ## Reading a document -/

/-- Reading undoes writing.  Whatever the order of the sections, the lines in
between and the line endings are, a document that can be written is read back,
with each component at the line of its header. -/
theorem parse_of_documentLines {document : Document} (hw : document.Writable)
    {starts : SectionName → List Nat} {lines : List (List Char)}
    (hlines : DocumentLines document starts lines) {text : String}
    (htext : Ended lines text.toList) :
    Document.parse text = .ok (document.placedAt starts) := by
  have hread : Text.lines text.toList = lines ++ [[]] := lines_of_ended htext (hlines.free hw)
  obtain @⟨names, fillers, rest, hfillers, hsections, hnodup, hempty, haction⟩ := hlines
  obtain ⟨next, hnext, hfenced, hcomponents, hkind⟩ :=
    Reader.readLines_sectionLines hsections hw (by rfl) Reader.Coherent.start hnodup
      (fun _ _ => by simp [Reader.openedNames])
  have hskip : Reader.readLines {} 1 fillers = .ok {} :=
    Reader.readLines_outside rfl (fun line hline => (hfillers line hline).2) 1
  have hall : Reader.readLines {} 1 (fillers ++ rest) = .ok next := by
    rw [Reader.readLines_append_of_ok hskip]
    exact hnext
  have hrun : Reader.readLines {} 1 (Text.lines text.toList) = .ok next := by
    rw [hread, Reader.readLines_append_of_ok hall,
      Reader.readLines_cons_of_ok (Reader.step_empty hfenced _)]
    rfl
  rw [Document.parse_of_readLines hrun hfenced]
  congr 1
  refine Document.ext_components ?_ ?_
  · intro name
    rw [hcomponents]
    by_cases hname : name ∈ names
    · simp [hname]
    · rw [if_neg hname, Document.components_placedAt, hempty name hname]
      cases name <;> rfl
  · rw [hkind, Document.kind_placedAt]
    by_cases htype : .type ∈ names
    · simp [htype]
    · have hnone : document.action = none := by
        cases hactions : document.action with
        | none => rfl
        | some action => exact absurd (haction (by simp [hactions])) htype
      rw [if_neg htype, hnone]
      rfl

/-! ## A written document -/

/-- A document with a list and with a fenced content that looks like a header
and an item. -/
def sampleDocument : Document where
  vars := [⟨"env", .list, ["upper"], [Value.text "a", Value.text ""], 0⟩]
  action := some ⟨"http", [⟨"url", .text, [], [⟨"## vars\n- b", "sh"⟩], 0⟩]⟩

/-- The lines of the headers in `sampleText`. -/
def sampleStarts : SectionName → List Nat
  | .vars => [13]
  | .after => []
  | .type => [4]

/-- One way to write `sampleDocument`: the action stands first, and between the
two sections stands one that means nothing. -/
def sampleLines : List (List Char) :=
  ["intro", "## type[http]", "prose", "### url[text]", "prose", "\x60\x60\x60sh", "## vars", "- b",
    "\x60\x60\x60", "## notes", "### x[", "## vars", "### env[list]:upper", "- a", "-b",
    "- "].map String.toList

/-- `sampleLines` with both line endings. -/
def sampleText : String :=
  "intro\n## type[http]\r\nprose\n### url[text]\r\nprose\r\n\x60\x60\x60sh\n## vars\r\n- b\n" ++
    "\x60\x60\x60\r\n## notes\n### x[\n## vars\r\n### env[list]:upper\n- a\r\n-b\n- \n"

theorem sampleDocument_writable : sampleDocument.Writable where
  nodup name := by cases name <;> decide
  components name := by
    cases name with
    | vars =>
      intro component hcomponent
      obtain rfl := List.mem_singleton.1 hcomponent
      refine ⟨⟨by decide, by decide⟩, ?_, fun hk => absurd rfl hk⟩
      intro _ value hvalue
      have hcases : value = Value.text "a" ∨ value = Value.text "" := by simpa using hvalue
      rcases hcases with rfl | rfl <;> exact ⟨rfl, by decide, by decide⟩
    | after =>
      intro component hcomponent
      exact absurd hcomponent List.not_mem_nil
    | type =>
      intro component hcomponent
      obtain rfl := List.mem_singleton.1 hcomponent
      refine ⟨⟨by decide, by decide⟩, fun hk => absurd hk (by decide), fun _ => ⟨_, rfl, ?_⟩⟩
      exact ⟨by decide, by decide, by decide, by decide, by decide⟩
  action := by
    rintro _ ⟨⟩
    decide

theorem filler_prose : Filler "prose".toList := ⟨by decide, by decide, by decide⟩

theorem sampleLines_written : DocumentLines sampleDocument sampleStarts sampleLines := by
  have hprose : ∀ line ∈ ["prose".toList], Filler line := by
    intro line hline
    obtain rfl := List.mem_singleton.1 hline
    exact filler_prose
  have hitems : ItemLines [Value.text "a", Value.text ""]
      ["- a".toList, "-b".toList, "- ".toList] :=
    .item (.filler ⟨by decide, by decide, by decide⟩ (by decide) (.item .nil))
  have hfence : FenceLines ⟨"## vars\n- b", "sh"⟩
      (["prose".toList] ++ "\x60\x60\x60sh".toList ::
        (["## vars".toList, "- b".toList] ++ ["\x60\x60\x60".toList])) := by
    refine .mk ?_ (fun _ hline => absurd hline List.not_mem_nil)
    intro line hline
    obtain rfl := List.mem_singleton.1 hline
    exact ⟨filler_prose, by decide⟩
  have hlist : BodyLines ⟨"env", .list, ["upper"], [Value.text "a", Value.text ""], 0⟩
      ["- a".toList, "-b".toList, "- ".toList] :=
    .list rfl hitems
  have henv : ComponentLines 13 sampleDocument.vars [13] (sampleLines.drop 12) :=
    .cons hlist .nil
  have hurl : ComponentLines 4 (sampleDocument.components .type) [4]
      ((sampleLines.drop 3).take 6) :=
    .cons (.fenced (by decide) rfl hfence) .nil
  have hvars : SectionLines sampleDocument sampleStarts 12 [.vars]
      ((sectionMark ++ "vars".toList) :: ([] ++ (sampleLines.drop 12 ++ []))) := by
    have ht : sampleDocument.title? .vars = some "vars".toList := by decide
    have hnone : ∀ line ∈ ([] : List (List Char)), Filler line :=
      fun _ hline => absurd hline List.not_mem_nil
    exact .known ht hnone henv .nil
  have hnotes : SectionLines sampleDocument sampleStarts 10 [.vars] (sampleLines.drop 9) := by
    have hheader : ∀ line ∈ ["### x[".toList], '\n' ∉ line ∧ ¬ sectionMark <+: line := by decide
    have ht : SectionName.ofTitle? "notes".toList = none := by decide
    exact .unknown ht (by decide) hheader hvars
  have htype : SectionLines sampleDocument sampleStarts 2 [.type, .vars]
      ((sectionMark ++ "type[http]".toList) ::
        (["prose".toList] ++ ((sampleLines.drop 3).take 6 ++ sampleLines.drop 9))) := by
    have ht : sampleDocument.title? .type = some "type[http]".toList := by decide
    exact .known ht hprose hurl hnotes
  have hintro : ∀ line ∈ ["intro".toList], '\n' ∉ line ∧ ¬ sectionMark <+: line := by decide
  refine .mk hintro htype (by decide) ?_ (fun _ => by decide)
  intro name hname
  cases name with
  | vars | type => exact absurd hname (by decide)
  | after => rfl

/-- Which lines of `sampleText` end in a carriage return. -/
def sampleMarks : List (List Char × Bool) :=
  sampleLines.zip
    [false, true, false, true, true, false, true, false, true, false, false, true, false, true,
      false, false]

theorem sampleText_ended : Ended sampleLines sampleText.toList := by
  have htext : sampleText.toList = endLines sampleMarks := by decide +kernel
  have hended : Ended (sampleMarks.map Prod.fst) (endLines sampleMarks) :=
    ended_endLines (by decide)
  rw [htext]
  exact hended

/-- The sample is read back from its text. -/
theorem parse_sampleText :
    sampleDocument.Writable ∧ DocumentLines sampleDocument sampleStarts sampleLines ∧
      Ended sampleLines sampleText.toList ∧
      Document.parse sampleText = .ok
        { vars := [⟨"env", .list, ["upper"], [Value.text "a", Value.text ""], 13⟩]
          action := some ⟨"http", [⟨"url", .text, [], [⟨"## vars\n- b", "sh"⟩], 4⟩]⟩ } :=
  ⟨sampleDocument_writable, sampleLines_written, sampleText_ended,
    parse_of_documentLines sampleDocument_writable sampleLines_written sampleText_ended⟩

end CallSheet
