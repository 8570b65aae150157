import CallSheet.Proofs.Document.Step

/-!
# Invariants of the reader

Two facts that hold between any two lines.

* `Reader.Coherent`: the document, the list of opened sections and the place
  agree.  A section that was not opened has no components, and there is an
  action exactly if its section was opened.
* `Reader.Distinct`: no two components of a section have the same name, and
  the component that is being read has a name of its own.

Both hold at the start and are kept by every step, so they hold after a run.
`Document.nodup_names_of_parse` is what a document has of the second.
-/

namespace CallSheet

open Text

/-- A list of pairs has no entry under a key that is none of its keys. -/
theorem lookup_eq_none_of_not_mem {entries : List (SectionName × Nat)} {name : SectionName}
    (h : name ∉ entries.map Prod.fst) : entries.lookup name = none := by
  rw [List.lookup_eq_none_iff]
  intro entry hmem
  rw [bne_iff_ne]
  rintro rfl
  exact h (List.mem_map_of_mem hmem)

theorem not_mem_of_lookup_eq_none {entries : List (SectionName × Nat)} {name : SectionName}
    (h : entries.lookup name = none) : name ∉ entries.map Prod.fst := by
  intro hmem
  obtain ⟨entry, hentry, rfl⟩ := List.mem_map.1 hmem
  exact absurd rfl (bne_iff_ne.1 (List.lookup_eq_none_iff.1 h entry hentry))

/-- Adding a component leaves a section as it is or puts the component at its
end. -/
theorem Document.components_add_cases (document : Document) (name other : SectionName)
    (component : Component) :
    (document.add name component).components other = document.components other ∨
      other = name ∧
        (document.add name component).components other =
          document.components other ++ [component] := by
  by_cases ho : other = name
  · subst ho
    by_cases ha : other = .type → document.action.isSome
    · exact Or.inr ⟨rfl, components_add_self ha component⟩
    · obtain ⟨rfl, hnone⟩ := Classical.not_imp.1 ha
      have hnone : document.action = none := by simpa using hnone
      exact Or.inl (by simp [Document.add, Document.components, hnone])
  · exact Or.inl (components_add_of_ne ho component)

/-- Among distinct names, a component's is none of those before it. -/
theorem name_not_mem_before {before after : List Component} {component : Component}
    (h : ((before ++ component :: after).map Component.name).Nodup) :
    component.name ∉ before.map Component.name := by
  rw [List.map_append, List.nodup_append] at h
  intro hmem
  exact h.2.2 _ hmem _ List.mem_cons_self rfl

/-- Among distinct names, a component's is none of those after it. -/
theorem name_not_mem_after {before after : List Component} {component : Component}
    (h : ((before ++ component :: after).map Component.name).Nodup) :
    component.name ∉ after.map Component.name := by
  rw [List.map_append, List.nodup_append, List.map_cons, List.nodup_cons] at h
  exact h.2.1.1

namespace Reader

variable {reader next : Reader} {name : SectionName} {body : Body} {number : Nat}
  {line title : List Char}

/-! ## Agreement of document, sections and place -/

/-- The names of the sections that were opened. -/
def openedNames (reader : Reader) : List SectionName := reader.opened.map Prod.fst

@[simp] theorem openedNames_settle (reader : Reader) :
    reader.settle.openedNames = reader.openedNames := by
  rw [openedNames, settle_opened, openedNames]

/-- The parts of a reader agree. -/
structure Coherent (reader : Reader) : Prop where
  /-- The section that the reader is in was opened. -/
  inside : ∀ {name body}, reader.place = .inside name body → name ∈ reader.openedNames
  /-- A section that was not opened has no components. -/
  components : ∀ {name}, name ∉ reader.openedNames → reader.document.components name = []
  /-- There is an action exactly if its section was opened. -/
  action : reader.document.action.isSome ↔ .type ∈ reader.openedNames

theorem Coherent.start : Coherent {} where
  inside h := by simp at h
  components := by
    intro name _
    cases name <;> rfl
  action := by simp [openedNames]

/-- The action exists while the reader is in its section. -/
theorem Coherent.action_isSome (h : reader.Coherent) (hp : reader.place = .inside name body) :
    name = .type → reader.document.action.isSome := by
  rintro rfl
  exact h.action.2 (h.inside hp)

theorem Coherent.withBody (h : reader.Coherent) (hp : reader.place = .inside name body)
    (other : Body) : Coherent { reader with place := .inside name other } where
  inside := by
    rintro _ _ he
    cases he
    exact h.inside hp
  components := h.components
  action := h.action

/-- Completing a component in the section that the reader is in. -/
theorem Coherent.add (h : reader.Coherent) (hp : reader.place = .inside name body)
    (component : Component) :
    Coherent { reader with
      document := reader.document.add name component
      place := .inside name .idle } where
  inside := by
    rintro _ _ he
    cases he
    exact h.inside hp
  components := by
    intro other hother
    have hne : other ≠ name := by
      rintro rfl
      exact hother (h.inside hp)
    rw [Document.components_add_of_ne hne]
    exact h.components hother
  action := by
    rw [Document.action_add_isSome]
    exact h.action

theorem Coherent.settle (h : reader.Coherent) : reader.settle.Coherent := by
  rcases settle_cases reader with hs | ⟨name, body, header, at', values, hp, -, hs⟩
  · rwa [hs]
  · rw [hs]
    exact h.add hp (header.component at' values)

theorem Coherent.openSection (h : reader.Coherent)
    (ho : reader.openSection number title = .ok next) : next.Coherent := by
  rcases openSection_eq_ok ho with ⟨-, rfl⟩ | ⟨name, -, -, hopened, hplace, hdoc⟩
  · exact ⟨fun he => by simp at he, h.components, h.action⟩
  have hnames : next.openedNames = reader.openedNames ++ [name] := by
    simp [openedNames, hopened]
  constructor
  · intro other body he
    rw [hplace] at he
    cases he
    simp [hnames]
  · intro other hother
    rw [hnames, List.mem_append, not_or, List.mem_singleton] at hother
    have hempty := h.components hother.1
    rcases hdoc with ⟨-, hdoc⟩ | ⟨rfl, kind, -, hdoc⟩
    · rw [hdoc, hempty]
    · cases other with
      | vars | after => rw [hdoc]; exact hempty
      | type => exact absurd rfl hother.2
  · rw [hnames, List.mem_append, List.mem_singleton]
    rcases hdoc with ⟨hne, hdoc⟩ | ⟨rfl, kind, -, hdoc⟩
    · rw [hdoc, h.action]
      constructor
      · exact Or.inl
      · rintro (hmem | rfl)
        · exact hmem
        · exact absurd rfl hne
    · simp [hdoc]

/-- Every step keeps the agreement. -/
theorem Coherent.step (h : reader.Coherent) (hs : Step reader number line next) :
    next.Coherent := by
  cases hs with
  | skip hp _ => exact h
  | title _ _ ho => exact h.settle.openSection ho
  | header hp hf _ ho =>
    obtain ⟨header, -, -, rfl⟩ := openComponent_eq_ok ho
    exact h.settle.withBody (settle_place_of_inside hp hf) _
  | plain hp _ _ _ => exact h.withBody hp _
  | close hp _ => exact h.add hp _
  | content hp _ => exact h.withBody hp _

theorem Coherent.readLines {lines : List (List Char)} (h : reader.Coherent)
    (hr : reader.readLines number lines = .ok next) : next.Coherent :=
  readLines_keeps (fun h hs => h.step hs) h hr

/-! ## Names -/

/-- No name stands twice in a section, the name of the component that is being
read included. -/
structure Distinct (reader : Reader) : Prop where
  nodup : ∀ name, ((reader.document.components name).map Component.name).Nodup
  pending : ∀ {name body header}, reader.place = .inside name body →
    body.header? = some header →
      header.name ∉ (reader.document.components name).map Component.name

theorem Distinct.start : Distinct {} where
  nodup name := by cases name <;> simp [Document.components]
  pending h := by simp at h

theorem Distinct.withBody (h : reader.Distinct) (hp : reader.place = .inside name body)
    {other : Body} (hb : other.header? = body.header?) :
    Distinct { reader with place := .inside name other } where
  nodup := h.nodup
  pending := by
    rintro _ _ header he hheader
    cases he
    exact h.pending hp (hb ▸ hheader)

/-- Completing the component that is being read. -/
theorem Distinct.add (h : reader.Distinct) (hp : reader.place = .inside name body)
    {header : Header} (hb : body.header? = some header) (at' : Nat) (values : List Value) :
    Distinct { reader with
      document := reader.document.add name (header.component at' values)
      place := .inside name .idle } where
  nodup := by
    intro other
    rcases Document.components_add_cases reader.document name other
      (header.component at' values) with he | ⟨rfl, he⟩
    · rw [he]
      exact h.nodup other
    · rw [he, List.map_append, List.nodup_append]
      refine ⟨h.nodup other, by simp, ?_⟩
      intro known hknown new hnew
      have hnew : new = header.name := by simpa [Header.component] using hnew
      rw [hnew]
      rintro rfl
      exact h.pending hp hb hknown
  pending := by
    rintro _ _ _ he hheader
    cases he
    simp [Body.header?] at hheader

theorem Distinct.settle (h : reader.Distinct) : reader.settle.Distinct := by
  rcases settle_cases reader with hs | ⟨name, body, header, at', values, hp, hb, hs⟩
  · rwa [hs]
  · rw [hs]
    exact h.add hp hb at' values

theorem Distinct.openSection (h : reader.Distinct)
    (ho : reader.openSection number title = .ok next) : next.Distinct := by
  rcases openSection_eq_ok ho with ⟨-, rfl⟩ | ⟨name, -, -, -, hplace, hdoc⟩
  · exact ⟨h.nodup, fun he => by simp at he⟩
  constructor
  · intro other
    rcases hdoc with ⟨-, hdoc⟩ | ⟨rfl, kind, -, hdoc⟩
    · rw [hdoc]
      exact h.nodup other
    · rw [hdoc]
      cases other with
      | vars => exact h.nodup .vars
      | after => exact h.nodup .after
      | type => simp [Document.components]
  · intro other body header he hheader
    rw [hplace] at he
    cases he
    simp [Body.header?] at hheader

theorem Distinct.openComponent (h : reader.Distinct)
    (ho : reader.openComponent name number title = .ok next) : next.Distinct := by
  obtain ⟨header, -, hfind, rfl⟩ := openComponent_eq_ok ho
  refine ⟨h.nodup, ?_⟩
  rintro _ _ other he hother
  cases he
  obtain rfl : header = other := by simpa using hother
  intro hmem
  obtain ⟨existing, hexisting, hname⟩ := List.mem_map.1 hmem
  have := List.find?_eq_none.1 hfind existing hexisting
  simp [hname] at this

/-- Every step keeps the names distinct. -/
theorem Distinct.step (h : reader.Distinct) (hs : Step reader number line next) :
    next.Distinct := by
  cases hs with
  | skip hp _ => exact h
  | title _ _ ho => exact h.settle.openSection ho
  | header _ _ _ ho => exact h.settle.openComponent ho
  | plain hp _ _ _ => exact h.withBody hp (header?_readBody _ _ _)
  | close hp _ => exact h.add hp rfl _ _
  | content hp _ => exact h.withBody hp rfl

theorem Distinct.readLines {lines : List (List Char)} (h : reader.Distinct)
    (hr : reader.readLines number lines = .ok next) : next.Distinct :=
  readLines_keeps (fun h hs => h.step hs) h hr

end Reader

/-- No two components of a section have the same name. -/
theorem Document.nodup_names_of_parse {text : String} {document : Document}
    (h : Document.parse text = .ok document) (name : SectionName) :
    ((document.components name).map Component.name).Nodup := by
  obtain ⟨reader, hr, -, rfl⟩ := Document.parse_eq_ok h
  exact (Reader.Distinct.start.readLines hr).settle.nodup name

end CallSheet
