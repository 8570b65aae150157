import CallSheet.Proofs.Document.Loaded
import CallSheet.Proofs.Resolve.Run
import Mathlib.Data.List.Forall2

/-!
# Lists that are put in

What expanding the lists of a document does to it, when it succeeds, and what that
means for resolving.

There are four groups.

* One component.  `FileList.Expanded` says what a component becomes, and
  `FileList.HasItems` which lists can be put in: those whose file is a text that is
  not blank.
* Many components.  `forall₂_of_expand` and `exists_expand_iff` are about a list of
  components.
* Resolving.  A component that is no list in a file is never found to be unexpanded
  (`isFileList_of_unexpanded`).
* The whole.  `load_expands` says all of it about a document that is loaded.
-/

namespace CallSheet

open Text

variable {files : Files} {base path : String}

/-! ## One component -/

namespace FileList

/-- The path of the file that the contents of a component are in. -/
inductive Names (base : String) (component : Component) : String → Prop where
  | relative {value : Value} (kind : component.kind = .fileList)
      (values : component.values = [value]) : Names base component (Path.joined base value.content)
  | absolute {value : Value} (kind : component.kind = .absFileList)
      (values : component.values = [value]) : Names base component value.content

/-- The file of a component is a text, and there is more than blanks in it. -/
def HasItems (files : Files) (base : String) (component : Component) : Prop :=
  ∃ path text, Names base component path ∧ files.readText path = .ok text ∧
    ∃ c ∈ text.toList, isBlank c = false

/-- A component, and what it is once the lists are put in. -/
structure Expanded (files : Files) (base : String) (component expanded : Component) : Prop where
  name : expanded.name = component.name
  converters : expanded.converters = component.converters
  line : expanded.line = component.line
  kind : expanded.kind.isFileList = false
  /-- A component that needs no file stays as it is. -/
  same : component.kind.isFileList = false → expanded = component
  /-- A list in a file becomes a list of the lines of that file. -/
  list : component.kind.isFileList = true → expanded.kind = .list ∧ expanded.values ≠ [] ∧
    ∃ path text, Names base component path ∧ files.readText path = .ok text ∧
      expanded.values = (lines (trim text.toList)).map fun line => .text (String.ofList line)

variable {component expanded : Component}

/-- A list in a file has one value, which is the path of the file. -/
def HasPath (component : Component) : Prop :=
  component.kind.isFileList = true → ∃ value, component.values = [value]

theorem source?_eq_none_iff :
    source? base component = none ↔ component.kind.isFileList = false := by
  cases hk : component.kind <;> simp [source?, hk, ComponentKind.isFileList]

theorem isFileList_of_source? (h : source? base component = some path) :
    component.kind.isFileList = true := by
  have hsome : source? base component ≠ none := h ▸ Option.some_ne_none path
  rwa [ne_eq, source?_eq_none_iff, Bool.not_eq_false] at hsome

theorem source?_eq_some_iff (h : HasPath component) :
    source? base component = some path ↔ Names base component path := by
  constructor
  · intro hsource
    obtain ⟨value, hvalues⟩ := h (isFileList_of_source? hsource)
    cases hkind : component.kind <;>
      simp only [source?, hkind, Component.firstContent, hvalues, Option.some.injEq,
        reduceCtorEq] at hsource
    · exact hsource ▸ .relative hkind hvalues
    · exact hsource ▸ .absolute hkind hvalues
  · rintro (⟨hkind, hvalues⟩ | ⟨hkind, hvalues⟩) <;>
      simp [source?, hkind, Component.firstContent, hvalues]

theorem items?_eq_some_iff {text : List Char} {items : List (List Char)} :
    items? text = some items ↔ (∃ c ∈ text, isBlank c = false) ∧ items = lines (trim text) := by
  have hempty : (trim text).isEmpty = true ↔ ¬ ∃ c ∈ text, isBlank c = false := by
    rw [List.isEmpty_iff, trim_eq_nil_iff]
    simp
  rw [items?]
  split
  · next h => simp [hempty.1 h]
  · next h =>
    rw [hempty, not_not] at h
    exact ⟨fun heq => ⟨h, (Option.some.inj heq).symm⟩, fun heq => heq.2 ▸ rfl⟩

theorem read_eq_ok_iff {items : List String} : read files path = .ok items ↔
    ∃ text, files.readText path = .ok text ∧ (∃ c ∈ text.toList, isBlank c = false) ∧
      items = (lines (trim text.toList)).map String.ofList := by
  rw [read]
  cases files.readText path with
  | error fault => simp
  | ok text =>
    cases hitems : items? text.toList with
    | none =>
      have hblank : ¬ ∃ c ∈ text.toList, isBlank c = false := fun h => by
        rw [items?_eq_some_iff.2 ⟨h, rfl⟩] at hitems
        cases hitems
      simp [hitems, hblank]
    | some found =>
      obtain ⟨hblank, rfl⟩ := items?_eq_some_iff.1 hitems
      simp only [hitems, Except.ok.injEq, exists_eq_left', hblank, true_and]
      exact eq_comm

/-- What expanding a component gives. -/
theorem Expanded.of_expandOne (h : HasPath component)
    (hexpand : expandOne files base component = .ok expanded) :
    Expanded files base component expanded := by
  rw [expandOne] at hexpand
  split at hexpand
  · next hsource =>
    cases hexpand
    have hk := source?_eq_none_iff.1 hsource
    exact ⟨rfl, rfl, rfl, hk, fun _ => rfl, fun hlist => (Bool.eq_false_iff.1 hk hlist).elim⟩
  · next path hsource =>
    split at hexpand
    · cases hexpand
    · next items hread =>
      cases hexpand
      obtain ⟨text, htext, -, rfl⟩ := read_eq_ok_iff.1 hread
      have hk := isFileList_of_source? hsource
      refine ⟨rfl, rfl, rfl, rfl, fun hnot => (Bool.eq_false_iff.1 hnot hk).elim, fun _ =>
        ⟨rfl, ?_, path, text, (source?_eq_some_iff h).1 hsource, htext, ?_⟩⟩
      · simp [lines_ne_nil]
      · simp [Function.comp_def]

/-- A component can be expanded if it needs no file, or if its file has items. -/
theorem exists_expandOne_iff (h : HasPath component) :
    (∃ expanded, expandOne files base component = .ok expanded) ↔
      (component.kind.isFileList = true → HasItems files base component) := by
  cases hsource : source? base component with
  | none => simp [expandOne, hsource, source?_eq_none_iff.1 hsource]
  | some path =>
    have hnames := (source?_eq_some_iff h).1 hsource
    cases hread : read files path with
    | ok items =>
      obtain ⟨text, htext, hblank, -⟩ := read_eq_ok_iff.1 hread
      have hitems : HasItems files base component := ⟨path, text, hnames, htext, hblank⟩
      simp [expandOne, hsource, hread, hitems]
    | error error =>
      refine iff_of_false (by simp [expandOne, hsource, hread]) fun hitems => ?_
      obtain ⟨other, text, hother, htext, hblank⟩ := hitems (isFileList_of_source? hsource)
      rw [(source?_eq_some_iff h).2 hother] at hsource
      cases hsource
      rw [read_eq_ok_iff.2 ⟨text, htext, hblank, rfl⟩] at hread
      cases hread

/-! ## Many components -/

variable {components : List Component}

/-- What expanding components gives, one by one. -/
theorem forall₂_of_expand {expanded : List Component}
    (h : ∀ component ∈ components, HasPath component)
    (hexpand : expand files base components = .ok expanded) :
    List.Forall₂ (Expanded files base) components expanded := by
  induction components generalizing expanded with
  | nil =>
    cases hexpand
    exact .nil
  | cons component components ih =>
    rw [List.forall_mem_cons] at h
    rw [expand] at hexpand
    split at hexpand
    · cases hexpand
    · next first hfirst =>
      cases hrest : expand files base components with
      | error error =>
        rw [hrest] at hexpand
        cases hexpand
      | ok rest =>
        rw [hrest] at hexpand
        cases hexpand
        exact .cons (.of_expandOne h.1 hfirst) (ih h.2 hrest)

/-- Components can be expanded if each of them can. -/
theorem exists_expand_iff (h : ∀ component ∈ components, HasPath component) :
    (∃ expanded, expand files base components = .ok expanded) ↔
      ∀ component ∈ components, component.kind.isFileList = true →
        HasItems files base component := by
  induction components with
  | nil => simp [expand]
  | cons component components ih =>
    rw [List.forall_mem_cons] at h ⊢
    rw [← ih h.2, ← exists_expandOne_iff h.1, expand]
    cases expandOne files base component with
    | error error => simp
    | ok first => cases expand files base components <;> simp [Except.map]

end FileList

/-! ## Resolving -/

namespace Resolver

variable {σ : Type} {resolver : Resolver σ} {force : Bool} {context : Context} {state after : σ}
  {name : String}

theorem isFileList_of_value {component : Component}
    (h : resolver.value force component context state = (.error (.unexpanded name), after)) :
    component.kind.isFileList = true := by
  rw [value] at h
  split at h
  · next value middle _ =>
    have hconvert := (Prod.mk.inj h).1
    rw [convert] at hconvert
    split at hconvert <;> cases hconvert
  · next error middle hsource =>
    obtain ⟨heq, -⟩ := Prod.mk.inj h
    cases heq
    rw [source] at hsource
    split at hsource
    · have hcheck := (Prod.mk.inj hsource).1
      rw [check] at hcheck
      split at hcheck <;> cases hcheck
    · rw [compute] at hsource
      split at hsource
      · assumption
      · dsimp only at hsource
        split at hsource
        · split at hsource <;> cases (Prod.mk.inj hsource).1
        · cases (Prod.mk.inj hsource).1

/-- Only lists that are still in files are found to be unexpanded. -/
theorem isFileList_of_unexpanded {components : List Component}
    (h : (resolver.resolve force context state components).result = .error (.unexpanded name)) :
    ∃ component ∈ components, component.kind.isFileList = true := by
  induction components generalizing context state with
  | nil => cases h
  | cons component components ih =>
    cases hv : resolver.value force component context state with
    | mk outcome after =>
      cases outcome with
      | ok final =>
        rw [resolve_cons_of_ok hv] at h
        obtain ⟨found, hmem, hfound⟩ := ih h
        exact ⟨found, List.mem_cons_of_mem _ hmem, hfound⟩
      | error error =>
        rw [resolve_cons_of_error hv] at h
        cases h
        exact ⟨component, List.mem_cons_self, isFileList_of_value hv⟩

end Resolver

/-! ## The whole -/

namespace Document

variable {document loaded : Document}

/-- A document, and what it is once the lists are put in. -/
structure Expanded (files : Files) (base : String) (document expanded : Document) : Prop where
  action : expanded.action.map Action.kind = document.action.map Action.kind
  components : ∀ name, List.Forall₂ (FileList.Expanded files base) (document.components name)
    (expanded.components name)

/-- A document can be expanded if each of its lists can. -/
theorem exists_expand_of_components
    (h : ∀ name, ∃ expanded, FileList.expand files base (document.components name) = .ok expanded) :
    ∃ loaded, document.expand files base = .ok loaded := by
  obtain ⟨vars, hvars⟩ := h .vars
  obtain ⟨after, hafter⟩ := h .after
  obtain ⟨fields, hfields⟩ := h .type
  simp only [components] at hvars hafter hfields
  rw [expand, hvars, hafter]
  cases haction : document.action with
  | none => exact ⟨_, rfl⟩
  | some action =>
    rw [haction] at hfields
    exact ⟨⟨vars, after, some ⟨action.kind, fields⟩⟩, by simp only [hfields]; rfl⟩

/-- A list in a file that is read from a text has one value. -/
theorem hasPath_of_parse {text : String} (h : parse text = .ok document) (name : SectionName) :
    ∀ component ∈ document.components name, FileList.HasPath component := by
  intro component hmem hk
  have hkind : component.kind ≠ .list := fun hlist => by
    rw [hlist] at hk
    cases hk
  have hformed := (wellFormed_of_parse h).1.components name component hmem
  obtain ⟨value, hvalues, -⟩ := hformed.single hkind
  exact ⟨value, hvalues⟩

theorem expanded_of_load (h : load files path = .ok loaded) : ∃ text document,
    files.readText path = .ok text ∧ parse text = .ok document ∧
      Expanded files (Path.directoryOf path) document loaded := by
  obtain ⟨text, document, htext, hparse, hexpand⟩ := load_eq_ok h
  obtain ⟨haction, hcomponents⟩ := expand_eq_ok hexpand
  exact ⟨text, document, htext, hparse, haction, fun name =>
    FileList.forall₂_of_expand (hasPath_of_parse hparse name) (hcomponents name)⟩

/-- No list of a document that is loaded is still in a file. -/
theorem isFileList_of_load (h : load files path = .ok loaded) (name : SectionName) :
    ∀ component ∈ loaded.components name, component.kind.isFileList = false := by
  obtain ⟨_, document, -, -, hexpanded⟩ := expanded_of_load h
  have hcomponents := hexpanded.components name
  generalize document.components name = components at hcomponents
  generalize loaded.components name = expanded at hcomponents
  induction hcomponents with
  | nil => simp
  | cons hfirst _ ih => exact List.forall_mem_cons.2 ⟨hfirst.kind, ih⟩

/-- A document that is loaded is resolved without a list that is still in a file. -/
theorem resolve_of_load (h : load files path = .ok loaded) (name : SectionName) {σ : Type}
    (resolver : Resolver σ) (force : Bool) (context : Context) (state : σ) (missed : String) :
    (resolver.resolve force context state (loaded.components name)).result ≠
      .error (.unexpanded missed) := by
  intro hmissed
  obtain ⟨component, hmem, hk⟩ := Resolver.isFileList_of_unexpanded hmissed
  rw [isFileList_of_load h name component hmem] at hk
  cases hk

/-- A document that is loaded is the one that was read, with its lists put in: the kind of
the action, and the names, converters and lines of the components are the same, and only
the lists in files have become lists of lines.  A document that can be read is loaded
exactly if each of these files is a text that is not blank.  Nothing that is resolved
afterwards finds a list that was not put in. -/
theorem load_expands (files : Files) (path : String) :
    (∀ loaded, load files path = .ok loaded → ∃ text document,
      files.readText path = .ok text ∧ parse text = .ok document ∧
        Expanded files (Path.directoryOf path) document loaded) ∧
    (∀ text document, files.readText path = .ok text → parse text = .ok document →
      ((∃ loaded, load files path = .ok loaded) ↔
        ∀ name, ∀ component ∈ document.components name, component.kind.isFileList = true →
          FileList.HasItems files (Path.directoryOf path) component)) ∧
    ∀ loaded, load files path = .ok loaded →
      ∀ (σ : Type) (resolver : Resolver σ) (context : Context) (state : σ) (name : String),
        (resolver.vars loaded context state).result ≠ .error (.unexpanded name) ∧
        (resolver.action loaded context state).result ≠ .error (.unexpanded name) ∧
        (resolver.after loaded context state).result ≠ .error (.unexpanded name) := by
  refine ⟨fun loaded => expanded_of_load, fun text document htext hparse => ?_,
    fun loaded h σ resolver context state name => ⟨?_, ?_, ?_⟩⟩
  · have hpath := hasPath_of_parse hparse
    constructor
    · rintro ⟨loaded, h⟩ name
      obtain ⟨_, _, htext', hparse', hexpand⟩ := load_eq_ok h
      cases htext.symm.trans htext'
      cases hparse.symm.trans hparse'
      exact (FileList.exists_expand_iff (hpath name)).1 ⟨_, (expand_eq_ok hexpand).2 name⟩
    · intro h
      obtain ⟨loaded, hexpand⟩ :
          ∃ loaded, document.expand files (Path.directoryOf path) = .ok loaded :=
        exists_expand_of_components fun name => (FileList.exists_expand_iff (hpath name)).2 (h name)
      exact ⟨loaded, by simp only [load, htext, hparse, hexpand]⟩
  · exact resolve_of_load h .vars resolver false context state name
  · rw [Resolver.action]
    cases haction : loaded.action with
    | none => simp
    | some action =>
      have := resolve_of_load h .type resolver true context state name
      simpa [components, haction] using this
  · exact resolve_of_load h .after resolver true context state name

/-! A document with a list beside it and a list at a place of its own. -/

/-- A document with two lists in files. -/
def hostsText : String :=
  "## vars\n### host[file_list]:upper\n\x60\x60\x60\nhosts\n\x60\x60\x60\n## after\n" ++
    "### user[abs_file_list]\n\x60\x60\x60\n/users\n\x60\x60\x60\n"

/-- The document and the two files. -/
def hostsFiles : Files :=
  ⟨[(["in"], .directory), (["in", "api.md"], .file (Utf8.encode hostsText.toList)),
    (["in", "hosts"], .file (Utf8.encode "\na\r\nb \n".toList)),
    (["users"], .file (Utf8.encode "root".toList))], []⟩

/-- The document with the lines of the two files. -/
def hostsDocument : Document :=
  ⟨[⟨"host", .list, ["upper"], [.text "a", .text "b"], 2⟩],
    [⟨"user", .list, [], [.text "root"], 7⟩], none⟩

theorem load_expands_hosts :
    load hostsFiles "in/api.md" = .ok hostsDocument ∧
      (∃ text document, hostsFiles.readText "in/api.md" = .ok text ∧ parse text = .ok document ∧
        Expanded hostsFiles (Path.directoryOf "in/api.md") document hostsDocument) ∧
      ∀ (answers : List (Except CommandError String)) (name : String),
        (Resolver.prepared.vars hostsDocument Context.empty answers).result ≠
          .error (.unexpanded name) := by
  have hload : load hostsFiles "in/api.md" = .ok hostsDocument := by decide +kernel
  obtain ⟨hexpanded, -, hresolved⟩ := load_expands hostsFiles "in/api.md"
  exact ⟨hload, hexpanded _ hload, fun answers name =>
    (hresolved _ hload _ Resolver.prepared Context.empty answers name).1⟩

end Document

end CallSheet
