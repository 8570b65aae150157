import CallSheet.Proofs.Document.Invariants

/-!
# A reader behind another

`Reader.behind` is a reader that started where another one had stopped: its
document has the components of both, its sections were opened by either, and
its line numbers are further down.

The main statements say that the two ways of reading agree.  As long as no
section is opened twice, `step_behind` and `readLines_behind` let the reader
behind another do what it does alone.  At the first section that the other one
had opened before, `readLines_behind_again` ends the run.
-/

namespace CallSheet

open Text

/-! ## Line numbers further down -/

/-- A component that stands some lines further down. -/
def Component.shifted (component : Component) (offset : Nat) : Component :=
  { component with line := component.line + offset }

/-- A document that starts some lines further down. -/
def Document.shifted (document : Document) (offset : Nat) : Document where
  vars := document.vars.map (·.shifted offset)
  after := document.after.map (·.shifted offset)
  action := document.action.map fun action =>
    { action with fields := action.fields.map (·.shifted offset) }

def Body.shifted (body : Body) (offset : Nat) : Body :=
  match body with
  | .idle => .idle
  | .items header line values => .items header (line + offset) values
  | .unfenced header line => .unfenced header (line + offset)
  | .fenced header line opened kind lines =>
    .fenced header (line + offset) (opened + offset) kind lines

def Position.shifted (position : Position) (offset : Nat) : Position :=
  match position with
  | .outside => .outside
  | .inside name body => .inside name (body.shifted offset)

/-- Sections with their marks some lines further down. -/
def shiftedMarks (opened : List (SectionName × Nat)) (offset : Nat) : List (SectionName × Nat) :=
  opened.map fun entry => (entry.1, entry.2 + offset)

@[simp] theorem map_fst_shiftedMarks (opened : List (SectionName × Nat)) (offset : Nat) :
    (shiftedMarks opened offset).map Prod.fst = opened.map Prod.fst := by
  simp [shiftedMarks, Function.comp_def]

@[simp] theorem Document.components_shifted (document : Document) (offset : Nat)
    (name : SectionName) :
    (document.shifted offset).components name =
      (document.components name).map (·.shifted offset) := by
  cases name with
  | vars | after => rfl
  | type =>
    rw [shifted, components, components]
    cases document.action <;> rfl

theorem Document.shifted_add (document : Document) (name : SectionName) (component : Component)
    (offset : Nat) :
    (document.add name component).shifted offset =
      (document.shifted offset).add name (component.shifted offset) := by
  cases name <;> simp [add, shifted, Function.comp_def]

@[simp] theorem Position.isFenced_shifted (position : Position) (offset : Nat) :
    (position.shifted offset).isFenced = position.isFenced := by
  cases position with
  | outside => rfl
  | inside name body => cases body <;> rfl

/-! ## Documents side by side -/

/-- Two documents as one, the components of the first before those of the
second. -/
def Document.beside (first second : Document) : Document where
  vars := first.vars ++ second.vars
  after := first.after ++ second.after
  action := first.action.or second.action

/-- With an action on one side only, every section has the components of
both. -/
theorem Document.components_beside {first second : Document}
    (h : first.action = none ∨ second.action = none) (name : SectionName) :
    (first.beside second).components name =
      first.components name ++ second.components name := by
  cases name with
  | vars | after => rfl
  | type =>
    simp only [beside, components]
    rcases h with h | h
    · simp [h]
    · cases hf : first.action <;> simp [h]

theorem Document.beside_add {first second : Document} {name : SectionName}
    (h : name = .type → first.action = none) (component : Component) :
    (first.beside second).add name component = first.beside (second.add name component) := by
  cases name with
  | vars | after => simp [beside, add]
  | type => simp [beside, add, h rfl]

@[simp] theorem Document.beside_empty (document : Document) : document.beside {} = document := by
  simp [beside]

namespace Reader

/-- A reader that started where another one had stopped. -/
def behind (reader first : Reader) (offset : Nat) : Reader where
  document := first.document.beside (reader.document.shifted offset)
  opened := first.opened ++ shiftedMarks reader.opened offset
  place := reader.place.shifted offset

variable {reader next last first : Reader} {name : SectionName} {body : Body} {number : Nat}
  {line title : List Char}

@[simp] theorem openedNames_behind (reader first : Reader) (offset : Nat) :
    (reader.behind first offset).openedNames = first.openedNames ++ reader.openedNames := by
  simp [openedNames, behind]

@[simp] theorem isFenced_behind (reader first : Reader) (offset : Nat) :
    (reader.behind first offset).place.isFenced = reader.place.isFenced := by
  simp [behind]

theorem place_behind_of_outside (hp : reader.place = .outside) (first : Reader) (offset : Nat) :
    (reader.behind first offset).place = .outside := by
  rw [behind, hp]
  rfl

theorem place_behind_of_inside (hp : reader.place = .inside name body) (first : Reader)
    (offset : Nat) :
    (reader.behind first offset).place = .inside name (body.shifted offset) := by
  rw [behind, hp]
  rfl

/-- No section was opened by both. -/
def Apart (first reader : Reader) : Prop :=
  ∀ name ∈ reader.openedNames, name ∉ first.openedNames

/-- The action of the first reader is not there while the reader behind it is
in the action's section. -/
theorem Coherent.action_eq_none (hfirst : first.Coherent) (hco : reader.Coherent)
    (hapart : Apart first reader) (hp : reader.place = .inside name body) :
    name = .type → first.document.action = none := by
  rintro rfl
  have htype : .type ∉ first.openedNames := hapart .type (hco.inside hp)
  rw [← hfirst.action] at htype
  simpa using htype

/-- Only one of the two readers has an action. -/
theorem Coherent.action_none_or (hfirst : first.Coherent) (hco : reader.Coherent)
    (hapart : Apart first reader) :
    first.document.action = none ∨ reader.document.action = none := by
  by_cases htype : .type ∈ reader.openedNames
  · have hnot := hapart .type htype
    rw [← hfirst.action] at hnot
    exact Or.inl (by simpa using hnot)
  · rw [← hco.action] at htype
    exact Or.inr (by simpa using htype)

/-! ## Settling and headers -/

/-- Completing a component behind another reader. -/
theorem behind_add (hfirst : first.Coherent) (hco : reader.Coherent) (hapart : Apart first reader)
    (hp : reader.place = .inside name body) (component : Component) (offset : Nat) :
    { reader.behind first offset with
      document := (reader.behind first offset).document.add name (component.shifted offset)
      place := .inside name .idle } =
    behind { reader with
      document := reader.document.add name component
      place := .inside name .idle } first offset := by
  have haction := hfirst.action_eq_none hco hapart hp
  simp only [behind, Document.shifted_add, Document.beside_add haction, Position.shifted,
    Body.shifted]

theorem settle_behind (hfirst : first.Coherent) (hco : reader.Coherent)
    (hapart : Apart first reader) (offset : Nat) :
    (reader.behind first offset).settle = reader.settle.behind first offset := by
  cases hp : reader.place with
  | outside => rw [settle_of_outside hp, settle_of_outside (place_behind_of_outside hp _ _)]
  | inside name body =>
    have hp' := place_behind_of_inside hp first offset
    cases body with
    | idle => rw [settle_of_idle hp, settle_of_idle hp']
    | items header at' values =>
      rw [settle_of_items hp, settle_of_items hp']
      exact behind_add hfirst hco hapart hp (header.component at' values) offset
    | unfenced header at' =>
      rw [settle_of_unfenced hp, settle_of_unfenced hp']
      exact behind_add hfirst hco hapart hp (header.component at' [Value.text ""]) offset
    | fenced =>
      rw [settle, hp', settle, hp]
      rfl

theorem lookup_behind (hnew : name ∉ first.openedNames)
    (ho : reader.opened.lookup name = none) (offset : Nat) :
    (reader.behind first offset).opened.lookup name = none := by
  refine lookup_eq_none_of_not_mem ?_
  have hnames : (reader.behind first offset).opened.map Prod.fst =
      first.openedNames ++ reader.openedNames := openedNames_behind reader first offset
  rw [hnames, List.mem_append]
  rintro (hmem | hmem)
  · exact hnew hmem
  · exact not_mem_of_lookup_eq_none ho hmem

/-- A section that only the reader behind opens is opened in the same way. -/
theorem openSection_behind (hfirst : first.Coherent) (hapart : Apart first next)
    (ho : reader.openSection number title = .ok next) (offset : Nat) :
    (reader.behind first offset).openSection (number + offset) title =
      .ok (next.behind first offset) := by
  rcases openSection_eq_ok ho with ⟨ht, rfl⟩ | ⟨name, ht, hlookup, hopened, hplace, hdoc⟩
  · rw [openSection_unknown ht]
    rfl
  have hnames : next.openedNames = reader.openedNames ++ [name] := by
    simp [openedNames, hopened]
  have hnew : name ∉ first.openedNames := hapart name (by simp [hnames])
  have hbehind := lookup_behind hnew hlookup offset
  have hmarks : (reader.behind first offset).opened ++ [(name, number + offset)] =
      first.opened ++ shiftedMarks next.opened offset := by
    simp [behind, hopened, shiftedMarks]
  rcases hdoc with ⟨hname, hdoc⟩ | ⟨rfl, kind, hkind, hdoc⟩
  · rw [openSection_new ht hbehind hname, hmarks]
    simp only [behind, hdoc, hplace, Position.shifted, Body.shifted]
  · rw [openSection_type ht hbehind hkind, hmarks]
    have haction : first.document.action = none := by
      rw [← hfirst.action] at hnew
      simpa using hnew
    simp [behind, hdoc, hplace, Position.shifted, Body.shifted, Document.beside, Document.shifted,
      haction]

/-- A section that the first reader opened is not opened again. -/
theorem openSection_behind_again {start : Nat} (ht : SectionName.ofTitle? title = some name)
    (hstart : first.opened.lookup name = some start) (number offset : Nat) :
    (reader.behind first offset).openSection number title =
      .error (.duplicateSection number name start) := by
  refine openSection_again ht ?_ number
  rw [behind, List.lookup_append, hstart]
  rfl

theorem openComponent_behind (hfirst : first.Coherent) (hco : reader.Coherent)
    (hapart : Apart first reader) (hp : reader.place = .inside name body)
    (ho : reader.openComponent name number title = .ok next) (offset : Nat) :
    (reader.behind first offset).openComponent name (number + offset) title =
      .ok (next.behind first offset) := by
  obtain ⟨header, hread, hfind, rfl⟩ := openComponent_eq_ok ho
  have hempty : first.document.components name = [] :=
    hfirst.components (hapart name (hco.inside hp))
  have haction : first.document.action = none ∨
      (reader.document.shifted offset).action = none := by
    refine (hfirst.action_none_or hco hapart).imp id ?_
    intro hnone
    simp [Document.shifted, hnone]
  have hcomponents : (reader.behind first offset).document.components name =
      (reader.document.components name).map (·.shifted offset) := by
    rw [behind, Document.components_beside haction, hempty, List.nil_append,
      Document.components_shifted]
  have hfind' : ((reader.behind first offset).document.components name).find?
      (·.name == header.name) = none := by
    rw [hcomponents, List.find?_eq_none]
    intro existing hexisting
    obtain ⟨component, hcomponent, rfl⟩ := List.mem_map.1 hexisting
    exact List.find?_eq_none.1 hfind component hcomponent
  have hbody : bodyOf header (number + offset) = (bodyOf header number).shifted offset := by
    rw [bodyOf, bodyOf]
    split <;> rfl
  rw [openComponent, hread]
  simp only [hfind']
  rw [← bodyOf, hbody]
  rfl

/-! ## Steps -/

theorem readBody_shifted (number : Nat) (line : List Char) (body : Body) (offset : Nat) :
    readBody (number + offset) line (body.shifted offset) =
      (readBody number line body).shifted offset := by
  cases body with
  | idle | fenced => rfl
  | items | unfenced =>
    simp only [Body.shifted, readBody]
    split <;> rfl

theorem Apart.of_prefix (h : Apart first next) (hp : reader.opened <+: next.opened) :
    Apart first reader :=
  fun name hname => h name ((hp.map Prod.fst).subset hname)

/-- Behind another reader, a line is read as it is read alone. -/
theorem step_behind (hfirst : first.Coherent) (hco : reader.Coherent)
    (hs : Step reader number line next) (hapart : Apart first next) (offset : Nat) :
    (reader.behind first offset).step (number + offset) line = .ok (next.behind first offset) := by
  have hreader : Apart first reader := hapart.of_prefix (opened_prefix_of_step hs)
  cases hs with
  | skip hp hnone => exact step_outside (place_behind_of_outside hp first offset) hnone
  | title hf hl ho =>
    rw [hl, step_section (by rwa [isFenced_behind]), settle_behind hfirst hco hreader]
    exact openSection_behind hfirst hapart ho offset
  | header hp hf hl ho =>
    have hsettled : Apart first reader.settle := by
      intro name hname
      rw [openedNames_settle] at hname
      exact hreader name hname
    rw [hl, step_component (place_behind_of_inside hp first offset) (by rwa [isFenced_behind]),
      settle_behind hfirst hco hreader]
    exact openComponent_behind hfirst hco.settle hsettled (settle_place_of_inside hp hf) ho offset
  | plain hp hf hsection hcomponent =>
    rw [step_inside (place_behind_of_inside hp first offset) (by rwa [isFenced_behind]) hsection
      hcomponent, readBody_shifted]
    rfl
  | @close name header at' opened kind lines hp label hl =>
    rw [hl, step_close (place_behind_of_inside hp first offset)]
    exact congrArg Except.ok (behind_add hfirst hco hreader hp
      (header.component at' [⟨String.ofList (trim (join '\n' lines)), kind⟩]) offset)
  | content hp hl =>
    rw [step_content (place_behind_of_inside hp first offset) hl]
    rfl

/-- A line that opens a section for the second time ends the run. -/
theorem step_behind_again (hfirst : first.Coherent) (hco : reader.Coherent)
    (hs : Step reader number line next) (hapart : Apart first reader)
    (hnot : ¬ Apart first next) (offset : Nat) :
    ∃ name start, next.opened = reader.opened ++ [(name, number)] ∧
      first.opened.lookup name = some start ∧
      (reader.behind first offset).step (number + offset) line =
        .error (.duplicateSection (number + offset) name start) := by
  rcases opened_of_step hs with h | ⟨title, name, rfl, ht, hf, h⟩
  · have hsame : next.opened <+: reader.opened := ⟨[], by rw [h, List.append_nil]⟩
    exact absurd (hapart.of_prefix hsame) hnot
  have hmem : name ∈ first.openedNames := by
    refine Classical.byContradiction fun hnew => hnot ?_
    intro other hother
    have hother : other ∈ reader.openedNames ∨ other = name := by
      simpa [openedNames, h] using hother
    rcases hother with hother | rfl
    · exact hapart other hother
    · exact hnew
  cases hlookup : first.opened.lookup name with
  | none => exact absurd hmem (not_mem_of_lookup_eq_none hlookup)
  | some start =>
    refine ⟨name, start, h, hlookup, ?_⟩
    rw [step_section (by rwa [isFenced_behind]), settle_behind hfirst hco hapart]
    exact openSection_behind_again ht hlookup _ offset

/-! ## Runs -/

/-- Behind another reader, lines are read as they are read alone. -/
theorem readLines_behind {lines : List (List Char)} (hfirst : first.Coherent)
    (hco : reader.Coherent) (hr : reader.readLines number lines = .ok last)
    (hapart : Apart first last) (offset : Nat) :
    (reader.behind first offset).readLines (number + offset) lines =
      .ok (last.behind first offset) := by
  induction lines generalizing reader number with
  | nil =>
    cases hr
    rfl
  | cons line lines ih =>
    obtain ⟨next, -, hs, hrest⟩ := readLines_cons_eq_ok hr
    have hnext : Apart first next := hapart.of_prefix (opened_prefix_of_readLines hrest)
    rw [readLines_cons_of_ok (step_behind hfirst hco hs hnext offset), Nat.add_right_comm]
    exact ih (hco.step hs) hrest

/-- Behind another reader, the run ends at the first section that the other one
opened. -/
theorem readLines_behind_again {lines : List (List Char)} (hfirst : first.Coherent)
    (hco : reader.Coherent) (hr : reader.readLines number lines = .ok last)
    (hapart : Apart first reader) (hnot : ¬ Apart first last) (offset : Nat) :
    ∃ name line start,
      last.opened.find? (fun entry => entry.1 ∈ first.openedNames) = some (name, line) ∧
      first.opened.lookup name = some start ∧
      (reader.behind first offset).readLines (number + offset) lines =
        .error (.duplicateSection (line + offset) name start) := by
  induction lines generalizing reader number with
  | nil =>
    cases hr
    exact absurd hapart hnot
  | cons line lines ih =>
    obtain ⟨next, -, hs, hrest⟩ := readLines_cons_eq_ok hr
    by_cases hnext : Apart first next
    · rw [readLines_cons_of_ok (step_behind hfirst hco hs hnext offset), Nat.add_right_comm]
      exact ih (hco.step hs) hrest hnext
    · obtain ⟨name, start, hopened, hlookup, herror⟩ :=
        step_behind_again hfirst hco hs hapart hnext offset
      refine ⟨name, number, start, ?_, hlookup, by rw [readLines, herror]⟩
      obtain ⟨more, hmore⟩ := opened_prefix_of_readLines hrest
      have hname : name ∈ first.openedNames := by
        refine Classical.byContradiction fun hnew => ?_
        rw [lookup_eq_none_of_not_mem hnew] at hlookup
        cases hlookup
      have hbefore : reader.opened.find? (fun entry => entry.1 ∈ first.openedNames) = none := by
        rw [List.find?_eq_none]
        intro entry hentry
        simpa using hapart entry.1 (List.mem_map_of_mem hentry)
      rw [← hmore, hopened, List.find?_append, List.find?_append, hbefore]
      simp [hname]

end Reader

end CallSheet
