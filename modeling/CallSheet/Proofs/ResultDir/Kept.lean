import CallSheet.Proofs.ResultDir.Write

/-!
# What is left of results

How the results in a directory come through a run.

There are two groups.

* Untouched.  What leaves the folder of results and the way to it as they were.
* Left.  `Kept` says that the result which was there is a backup now and that no
  other one has changed, `Left` also says what is in the new one.  Preparing leaves it
  empty (`Prepared.left`), and files that are written are added (`Left.writeFiles`).
-/

namespace CallSheet.ResultDir

open Files (IsName bare directoryWith)

variable {dir : ResultDir} {files before middle after : Files} {home : Place}
  {contents outputs : List (String × List UInt8)}

/-! ## Untouched -/

/-- The folder of results is as it was. -/
def SameResults (home : Place) (before after : Files) : Prop :=
  after.below (home ++ [folder]) = before.below (home ++ [folder])

theorem SameResults.refl (home : Place) (files : Files) : SameResults home files files := rfl

theorem SameResults.trans (h : SameResults home before middle)
    (h' : SameResults home middle after) : SameResults home before after :=
  Eq.trans h' h

/-- A way to the document that does not lead through its result stays one. -/
def SameWay (dir : ResultDir) (home : Place) (before after : Files) : Prop :=
  before.LeadsBeside (dir.place home) dir.currentDir home →
    after.LeadsBeside (dir.place home) dir.currentDir home

/-- The folder of results is as it was, and so is the way to it. -/
structure Untouched (dir : ResultDir) (home : Place) (before after : Files) : Prop where
  folder : SameResults home before after
  leads : SameWay dir home before after

theorem Untouched.refl (dir : ResultDir) (home : Place) (files : Files) :
    dir.Untouched home files files :=
  ⟨rfl, id⟩

theorem Untouched.trans (h : dir.Untouched home before middle)
    (h' : dir.Untouched home middle after) : dir.Untouched home before after :=
  ⟨h.folder.trans h'.folder, fun hleads => h'.leads (h.leads hleads)⟩

theorem Untouched.result_eq (h : dir.Untouched home before after) :
    after.result home = before.result home := by
  funext name rest
  rw [← Files.below_folder, ← Files.below_folder, h.folder]

theorem Untouched.site (h : dir.Untouched home before after) (hsite : dir.Site home before) :
    dir.Site home after :=
  ⟨hsite.proper, h.leads hsite.leads, h.folder ▸ hsite.tree⟩

/-! ## Left -/

/-- No result that was there is lost. -/
structure Kept (dir : ResultDir) (home : Place) (before after : Files) : Prop where
  /-- The document's own is under its first free backup name, as it was. -/
  backup : before.result home dir.currentFile ≠ bare →
    ∃ number, dir.IsFirstFree home before number ∧
      after.result home (dir.backupName number) = before.result home dir.currentFile
  others : ∀ name, name ≠ dir.currentFile → before.result home name ≠ bare →
    after.result home name = before.result home name

/-- No result that was there is lost, and the document's own holds some files and
nothing else. -/
structure Left (dir : ResultDir) (home : Place) (before after : Files)
    (contents : List (String × List UInt8)) : Prop extends Kept dir home before after where
  fresh : after.result home dir.currentFile = directoryWith contents

theorem Kept.of_agree (h : dir.Kept home before middle)
    (hothers : ∀ name, name ≠ dir.currentFile →
      after.result home name = middle.result home name) : dir.Kept home before after where
  backup hthere := by
    obtain ⟨number, hfirst, hbackup⟩ := h.backup hthere
    exact ⟨number, hfirst, (hothers _ (backupName_ne dir number)).trans hbackup⟩
  others name hname hthere := (hothers name hname).trans (h.others name hname hthere)

theorem IsFirstFree.congr {number : Nat} (h : dir.IsFirstFree home before number)
    (heq : after.result home = before.result home) : dir.IsFirstFree home after number :=
  ⟨h.pos, heq ▸ h.free, heq ▸ h.least⟩

theorem Left.after_untouched (h : dir.Left home before middle contents)
    (huntouched : dir.Untouched home middle after) : dir.Left home before after contents where
  toKept := h.of_agree fun _ _ => by rw [huntouched.result_eq]
  fresh := by rw [huntouched.result_eq, h.fresh]

/-- What is left by a run that was begun when everything was still untouched. -/
theorem Prepared.left (h : dir.Prepared home middle after)
    (huntouched : dir.Untouched home before middle) : dir.Left home before after [] where
  backup hthere := by
    rw [← huntouched.result_eq] at hthere ⊢
    rcases h.results with ⟨hbare, -⟩ | ⟨-, number, hfirst, hresults⟩
    · exact absurd hbare hthere
    · refine ⟨number, hfirst.congr huntouched.result_eq.symm, ?_⟩
      rw [hresults, Function.update_of_ne (backupName_ne dir number), Function.update_self]
  others name hname hthere := by
    rw [← huntouched.result_eq] at hthere ⊢
    rcases h.results with ⟨-, hresults⟩ | ⟨-, number, hfirst, hresults⟩
    · rw [hresults, Function.update_of_ne hname]
    · rw [hresults, Function.update_of_ne hname, Function.update_of_ne]
      rintro rfl
      exact hthere hfirst.free
  fresh := h.result_self

theorem Kept.writeFiles (h : dir.Kept home before files) (hsite : dir.Site home files)
    (hnames : ∀ output ∈ outputs, IsName output.1) :
    dir.Kept home before (dir.writeFiles files outputs).2 :=
  h.of_agree (hsite.writeFiles hnames).2

/-- Files are written up to the first that cannot be written. -/
theorem Left.writeFiles (h : dir.Left home before files contents) (hsite : dir.Site home files)
    (hnames : ∀ output ∈ outputs, IsName output.1)
    (hnodup : ((contents ++ outputs).map Prod.fst).Nodup) :
    ∃ written, written <+: outputs ∧
      dir.Left home before (dir.writeFiles files outputs).2 (contents ++ written) ∧
      ((dir.writeFiles files outputs).1 = .ok () ↔ written = outputs) := by
  obtain ⟨written, hpre, hfresh, hok⟩ := hsite.writeFiles_fresh hnames hnodup h.fresh
  exact ⟨written, hpre, ⟨h.toKept.writeFiles hsite hnames, hfresh⟩, hok⟩

end CallSheet.ResultDir
