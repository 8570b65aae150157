import CallSheet.Document.Load
import CallSheet.Proofs.Document.WellFormed
import CallSheet.Proofs.Files.Walk
import CallSheet.Proofs.Steps

/-!
# Documents that are loaded

What loading adds to reading: the lists that are in files are put in, one list of
components after the other (`Document.expand_eq_ok`).  It changes no name, so that every
name of a loaded document can be the name of a file (`Document.isName_of_load`).
-/

namespace CallSheet

open Text

variable {files : Files} {base path : String} {document loaded : Document}

theorem name_of_expandOne {component expanded : Component}
    (h : FileList.expandOne files base component = .ok expanded) :
    expanded.name = component.name := by
  rw [FileList.expandOne] at h
  split at h
  · cases h
    rfl
  · split at h
    · cases h
    · cases h
      rfl

/-- Expanding changes no name. -/
theorem names_of_expand {components expanded : List Component}
    (h : FileList.expand files base components = .ok expanded) :
    expanded.map Component.name = components.map Component.name := by
  induction components generalizing expanded with
  | nil =>
    cases h
    rfl
  | cons component components ih =>
    rw [FileList.expand] at h
    split at h
    · cases h
    · next first hfirst =>
      cases hrest : FileList.expand files base components with
      | error error =>
        rw [hrest] at h
        cases h
      | ok rest =>
        rw [hrest] at h
        cases h
        rw [List.map_cons, List.map_cons, name_of_expandOne hfirst, ih hrest]

/-- A document that is expanded is expanded list by list. -/
theorem Document.expand_eq_ok (h : document.expand files base = .ok loaded) :
    loaded.action.map Action.kind = document.action.map Action.kind ∧
      ∀ name, FileList.expand files base (document.components name) =
        .ok (loaded.components name) := by
  rw [Document.expand] at h
  cases haction : document.action with
  | none =>
    simp only [haction] at h
    obtain ⟨action, hfields, h⟩ := bind_eq_ok h
    obtain ⟨vars, hvars, h⟩ := bind_eq_ok h
    obtain ⟨after, hafter, h⟩ := bind_eq_ok h
    cases hfields
    cases h
    refine ⟨rfl, fun name => ?_⟩
    cases name with
    | vars => exact hvars
    | after => exact hafter
    | type => simp [Document.components, haction, FileList.expand]
  | some found =>
    simp only [haction] at h
    obtain ⟨action, hfields, h⟩ := bind_eq_ok h
    obtain ⟨vars, hvars, h⟩ := bind_eq_ok h
    obtain ⟨after, hafter, h⟩ := bind_eq_ok h
    cases hexpand : FileList.expand files base found.fields with
    | error error =>
      rw [hexpand] at hfields
      cases hfields
    | ok fields =>
      rw [hexpand] at hfields
      cases hfields
      cases h
      refine ⟨rfl, fun name => ?_⟩
      cases name with
      | vars => exact hvars
      | after => exact hafter
      | type => simpa [Document.components, haction] using hexpand

/-- A name is the name of a file. -/
theorem Files.isName_of_isName {name : String} (h : isName name.toList = true) :
    Files.IsName name := by
  rw [CallSheet.isName, Bool.and_eq_true] at h
  have hchar : ∀ c ∈ name.toList, isNameChar c = true := List.all_eq_true.1 h.2
  refine ⟨?_, ?_, fun hslash => absurd (hchar _ hslash) (by decide)⟩
  · rintro (rfl | rfl)
    · exact absurd h.1 (by decide)
    · exact absurd (hchar '.' (by decide)) (by decide)
  · rintro rfl
    exact absurd (hchar '.' (by decide)) (by decide)

theorem Document.load_eq_ok (h : Document.load files path = .ok loaded) : ∃ text document,
    files.readText path = .ok text ∧ Document.parse text = .ok document ∧
      document.expand files (Path.directoryOf path) = .ok loaded := by
  rw [Document.load] at h
  split at h
  · cases h
  next text htext =>
  split at h
  · cases h
  next document hparse =>
  split at h
  · cases h
  next expanded hexpand =>
  cases h
  exact ⟨text, document, htext, hparse, hexpand⟩

/-- The names of the variables after the action are names of files. -/
theorem Document.isName_of_load (h : Document.load files path = .ok loaded) :
    ∀ component ∈ loaded.after, Files.IsName component.name := by
  obtain ⟨_, document, -, hparse, hexpand⟩ := load_eq_ok h
  have hnames := names_of_expand ((expand_eq_ok hexpand).2 .after)
  intro component hmem
  have hname : component.name ∈ (document.components .after).map Component.name :=
    hnames ▸ List.mem_map_of_mem hmem
  obtain ⟨original, horiginal, heq⟩ := List.mem_map.1 hname
  rw [← heq]
  exact Files.isName_of_isName (Document.header_of_parse hparse horiginal).name

end CallSheet
