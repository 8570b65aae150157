import CallSheet.Proofs.Files.Beneath
import CallSheet.ResultDir

/-!
# The results in a directory

The folder of results in a directory as a function from names to trees, and what
a document's paths lead to in it.

There are four groups.

* Names.  `ResultDir.IsProper` says that the name of a document can be the name of a
  directory; the backups have such names too, and no two of them the same.
* Results.  `Files.result` is the result of a name.  Putting and moving replace
  results (`result_put`, `result_moveAt`).
* Sites.  `ResultDir.Site` says where a document's results are and that there are
  no links in them.
* Looking up.  `Site.find_eq` is the look-up of a path in the folder, and `Site.look`
  takes apart what a result's name leads to.
-/

namespace CallSheet

open Files (IsName IsTree bare)

namespace ResultDir

variable {dir : ResultDir} {files before after : Files} {home : Place} {name : String}

/-! ## Names -/

/-- The document's name can be the name of a directory, and the path of the result
is made of it. -/
structure IsProper (dir : ResultDir) : Prop where
  path_eq : dir.path = Path.beneath dir.currentDir [folder, dir.currentFile]
  name : IsName dir.currentFile

/-- The name of a document has no slash. -/
theorem slash_not_mem_currentFile (path : String) :
    '/' ∉ (forDocument path).currentFile.toList := by
  have hstem : ∀ stem, (Path.ofString path).stem? = some stem → '/' ∉ stem := by
    intro stem h
    obtain ⟨name, hname, rfl⟩ := Option.map_eq_some_iff.1 h
    have hmem : name ∈ (Path.ofString path).segments := Path.mem_segments_of_name? hname
    exact fun hslash => Path.slash_not_mem_segment hmem ((Path.stemOf_prefix name).subset hslash)
  simp only [forDocument, String.toList_ofList]
  cases hpath : (Path.ofString path).stem? with
  | none => simp
  | some stem => exact hstem stem hpath

/-- Nearly all documents have a name that a directory can have. -/
theorem isProper_forDocument {path : String}
    (h : (forDocument path).currentFile ∉ ["", ".", ".."]) : (forDocument path).IsProper where
  path_eq := rfl
  name := by
    simp only [List.mem_cons, List.not_mem_nil, or_false, not_or] at h
    exact ⟨not_or.2 ⟨h.1, h.2.1⟩, h.2.2, slash_not_mem_currentFile path⟩

/-- The name of the backup with a number. -/
def backupName (dir : ResultDir) (number : Nat) : String :=
  dir.currentFile ++ "_" ++ toString number

theorem backup_eq (dir : ResultDir) (number : Nat) :
    dir.backup number = Path.beneath dir.currentDir [folder, dir.backupName number] := rfl

theorem IsProper.fileAt_eq (h : dir.IsProper) (name : String) :
    dir.fileAt name = Path.beneath dir.currentDir [folder, dir.currentFile, name] := by
  rw [fileAt, h.path_eq]
  rfl

theorem isName_folder : IsName folder := ⟨by decide, by decide, by decide⟩

theorem digits_injective : Function.Injective (toString : Nat → String) := by
  intro a b h
  have hdigits : Nat.toDigits 10 a = Nat.toDigits 10 b := by
    simpa only [Nat.toString_eq_repr, Nat.toList_repr] using congrArg String.toList h
  have hread := congrArg (fun digits => Nat.ofDigitChars 10 digits 0) hdigits
  simpa using hread

theorem isDigit_of_mem_digits {c : Char} {n : Nat} (h : c ∈ (toString n).toList) :
    c.isDigit = true := by
  rw [Nat.toString_eq_repr, Nat.toList_repr] at h
  exact Nat.isDigit_of_mem_toDigits (by decide) (by decide) h

theorem toList_backupName (dir : ResultDir) (number : Nat) :
    (dir.backupName number).toList =
      dir.currentFile.toList ++ '_' :: (toString number).toList := by
  simp [backupName]

theorem isName_backupName (h : dir.IsProper) (number : Nat) : IsName (dir.backupName number) := by
  have hmem : '_' ∈ (dir.backupName number).toList := by
    rw [toList_backupName]
    simp
  refine ⟨?_, ?_, ?_⟩
  · rintro (hempty | hpoint)
    · rw [hempty] at hmem
      exact absurd hmem (by decide)
    · rw [hpoint] at hmem
      exact absurd hmem (by decide)
  · intro hup
    rw [hup] at hmem
    exact absurd hmem (by decide)
  · rw [toList_backupName, List.mem_append, List.mem_cons]
    rintro (hslash | hslash | hslash)
    · exact h.name.no_slash hslash
    · exact absurd hslash (by decide)
    · exact absurd (isDigit_of_mem_digits hslash) (by decide)

/-- Two lists with the same last mark are the same before it and after it. -/
theorem eq_of_last_mark {α : Type} {mark : α} {x x' z z' : List α} (hz : mark ∉ z)
    (hz' : mark ∉ z') (h : x ++ mark :: z = x' ++ mark :: z') : x = x' ∧ z = z' := by
  rcases List.append_eq_append_iff.1 h with ⟨between, hx, hrest⟩ | ⟨between, hx, hrest⟩
  · cases between with
    | nil => exact ⟨by simpa using hx.symm, (List.cons.inj hrest).2⟩
    | cons head between => exact absurd ((List.cons.inj hrest).2 ▸ by simp) hz
  · cases between with
    | nil => exact ⟨by simpa using hx, (List.cons.inj hrest).2.symm⟩
    | cons head between => exact absurd ((List.cons.inj hrest).2 ▸ by simp) hz'

/-- A document's name and a number can be told from their backup name. -/
theorem backupName_inj {other : ResultDir} {number number' : Nat}
    (h : dir.backupName number = other.backupName number') :
    dir.currentFile = other.currentFile ∧ number = number' := by
  have hlist := congrArg String.toList h
  rw [toList_backupName, toList_backupName] at hlist
  -- The numbers have no underscore, so the last one is in the same place on both sides.
  have hfree : ∀ n : Nat, '_' ∉ (toString n).toList := fun n hmem =>
    absurd (isDigit_of_mem_digits hmem) (by decide)
  obtain ⟨hname, htail⟩ := eq_of_last_mark (hfree number) (hfree number') hlist
  exact ⟨String.toList_inj.1 hname, digits_injective (String.toList_inj.1 htail)⟩

theorem backupName_ne (dir : ResultDir) (number : Nat) :
    dir.backupName number ≠ dir.currentFile := by
  intro h
  have hlength := congrArg (fun s => s.toList.length) h
  simp only [toList_backupName, List.length_append, List.length_cons] at hlength
  omega

end ResultDir

/-! ## Results -/

namespace Files

open ResultDir (folder)

variable {files : Files} {home : Place} {name old new : String}

/-- The result of a name. -/
def result (files : Files) (home : Place) (name : String) : Place → Option Entry :=
  files.below (home ++ [folder, name])

theorem below_folder (files : Files) (home : Place) (name : String) (rest : Place) :
    files.below (home ++ [folder]) (name :: rest) = files.result home name rest := by
  simp [below, result]

/-- What is put in a result changes no other one. -/
theorem result_put (files : Files) (home : Place) (name : String) (rest : Place) (entry : Entry) :
    (files.put (home ++ folder :: name :: rest) entry).result home =
      Function.update (files.result home) name
        (Function.update (files.result home name) rest (some entry)) := by
  have hput := below_put (home ++ [folder]) (name :: rest) (by simp) files entry
  rw [List.append_assoc, List.singleton_append] at hput
  funext other place
  rw [← below_folder, hput, Function.update_apply, Function.update_apply]
  by_cases hother : other = name
  · subst hother
    rw [if_pos rfl, Function.update_apply, below_folder]
    simp
  · rw [if_neg (by simp [hother]), if_neg hother, below_folder]

/-- The folder itself is no part of a result. -/
theorem result_put_folder (files : Files) (home : Place) (entry : Entry) :
    (files.put (home ++ [folder]) entry).result home = files.result home := by
  funext other place
  rw [result, below, entryAt?_put (by simp), if_neg (by simp)]
  rfl

theorem entryAt?_folder_put (files : Files) (home : Place) (name : String) (rest : Place)
    (entry : Entry) :
    (files.put (home ++ folder :: name :: rest) entry).entryAt? (home ++ [folder]) =
      files.entryAt? (home ++ [folder]) := by
  rw [entryAt?_put (by simp), if_neg (by simp)]

theorem prefix_result_iff {home rest : Place} {name other : String} :
    home ++ [folder, name] <+: home ++ [folder, other] ++ rest ↔ name = other := by
  rw [List.append_assoc, List.prefix_append_right_inj]
  simp

/-- A result that is moved to a name without one is there then, and not where it
was. -/
theorem result_moveAt (hne : old ≠ new) (hnew : files.result home new = bare) :
    (files.moveAt (home ++ [folder, old]) (home ++ [folder, new])).result home =
      Function.update (Function.update (files.result home) new (files.result home old)) old
        bare := by
  funext other place
  rw [result, below, entryAt?_moveAt (by simp) (vacant_iff.2 hnew)]
  by_cases hold : other = old
  · subst hold
    rw [if_neg (mt prefix_result_iff.1 hne.symm), if_pos (prefix_result_iff.2 rfl),
      Function.update_self]
    rfl
  rw [Function.update_of_ne hold]
  by_cases hother : other = new
  · subst hother
    rw [if_pos (prefix_result_iff.2 rfl), List.drop_left, Function.update_self]
    rfl
  · rw [if_neg (mt prefix_result_iff.1 (Ne.symm hother)),
      if_neg (mt prefix_result_iff.1 (Ne.symm hold)), Function.update_of_ne hother]
    rfl

theorem entryAt?_folder_moveAt (hnew : files.result home new = bare) :
    (files.moveAt (home ++ [folder, old]) (home ++ [folder, new])).entryAt? (home ++ [folder]) =
      files.entryAt? (home ++ [folder]) := by
  have hpre : ∀ name, ¬ home ++ [folder, name] <+: home ++ [folder] := by
    intro name h
    have := h.length_le
    simp at this
  rw [entryAt?_moveAt (by simp) (vacant_iff.2 hnew), if_neg (hpre new), if_neg (hpre old)]

/-- Trees in a directory make up a tree. -/
theorem isTree_folder (hfolder : files.entryAt? (home ++ [folder]) = some .directory)
    (hresults : ∀ name, IsTree (files.result home name)) :
    IsTree (files.below (home ++ [folder])) := by
  have htop : files.below (home ++ [folder]) [] = some .directory := by
    rw [below, List.append_nil, hfolder]
  refine isTree_of_branches (fun target h => ?_) (fun name _ => htop) fun name => ?_
  · rw [htop] at h
    cases h
  · simpa only [below_folder] using hresults name

end Files

/-! ## Sites -/

namespace ResultDir

open Files (AgreesOff)

variable {dir : ResultDir} {files before after : Files} {home : Place} {name : String}

/-- The place of a document's result in the document's directory. -/
def place (dir : ResultDir) (home : Place) : Place := home ++ [folder, dir.currentFile]

theorem place_ne_nil (dir : ResultDir) (home : Place) : dir.place home ≠ [] := by simp [place]

/-- Where the results of a document are. -/
structure Site (dir : ResultDir) (home : Place) (files : Files) : Prop where
  proper : dir.IsProper
  /-- The way to the document's directory does not lead through the result. -/
  leads : files.LeadsBeside (dir.place home) dir.currentDir home
  /-- There are no links in the folder of results. -/
  tree : IsTree (files.below (home ++ [folder]))

theorem Site.find_home (h : dir.Site home files) :
    files.find true dir.currentDir = .ok (.entry home .directory) :=
  h.leads.find (place_ne_nil dir home)

theorem Site.entryAt?_home (h : dir.Site home files) : files.entryAt? home = some .directory :=
  Files.entryAt?_of_find h.find_home

theorem Site.isTree (h : dir.Site home files) (name : String) :
    IsTree (files.result home name) := by
  simpa only [Files.below_folder, List.singleton_append] using h.tree.part [name]

/-- There are no results without a folder. -/
theorem Site.result_eq_bare (h : dir.Site home files)
    (hfolder : files.entryAt? (home ++ [folder]) ≠ some .directory) (name : String) :
    files.result home name = bare := by
  refine (h.isTree name).eq_bare ?_
  by_contra hsome
  rw [← Files.below_folder] at hsome
  have := h.tree.nested [] name hsome
  rw [Files.below, List.append_nil] at this
  exact hfolder this

theorem Site.folder_of_result (h : dir.Site home files) (hresult : files.result home name ≠ bare) :
    files.entryAt? (home ++ [folder]) = some .directory := by
  by_contra hfolder
  exact hresult (h.result_eq_bare hfolder name)

/-! ## Looking up -/

/-- Looking up a path in the folder is a descent from the document's directory. -/
theorem Site.find_eq (h : dir.Site home files) {names : List String}
    (hnames : ∀ name ∈ names, IsName name) (follow : Bool) :
    files.find follow (Path.beneath dir.currentDir (folder :: names)) =
      match Files.refusal? (Path.beneath dir.currentDir (folder :: names)) with
      | some fault => .error fault
      | none => files.descend home (folder :: names) := by
  refine Files.find_beneath h.find_home (by simp) ?_ ?_ follow
  · simpa using ⟨isName_folder, hnames⟩
  · intro below hbelow hne target
    obtain ⟨rest, rfl⟩ : ∃ rest, below = folder :: rest := by
      cases below with
      | nil => exact absurd rfl hne
      | cons first rest => exact ⟨rest, by rw [(List.cons_prefix_cons.1 hbelow).1]⟩
    simpa [Files.below] using h.tree.linkless rest target

/-- The path of a name in the folder is not refused, and the name is not too long. -/
structure Fits (dir : ResultDir) (name : String) : Prop where
  accepted : Files.refusal? (Path.beneath dir.currentDir [folder, name]) = none
  short : Files.width name ≤ Files.longestName

/-- There is a folder of results, or it can be made. -/
def HasRoom (home : Place) (files : Files) : Prop :=
  files.entryAt? (home ++ [folder]) = none ∨ files.entryAt? (home ++ [folder]) = some .directory

/-- What the path of a name in the folder can lead to. -/
inductive Look (dir : ResultDir) (home : Place) (files : Files) (name : String) :
    Except Fault Files.Found → Prop where
  | there (hfits : dir.Fits name) (hfolder : files.entryAt? (home ++ [folder]) = some .directory)
      (entry : Entry) (h : files.result home name [] = some entry) :
      Look dir home files name (.ok (.entry (home ++ [folder, name]) entry))
  | vacant (hfits : dir.Fits name) (hfolder : files.entryAt? (home ++ [folder]) = some .directory)
      (h : files.result home name = bare) :
      Look dir home files name (.ok (.vacant (home ++ [folder]) name))
  | noFolder (haccepted : Files.refusal? (Path.beneath dir.currentDir [folder, name]) = none)
      (hfolder : files.entryAt? (home ++ [folder]) = none) :
      Look dir home files name (.error .missing)
  | refused (fault : Fault) (hfault : fault ≠ .missing)
      (hwhy : dir.Fits name → ¬ HasRoom home files) : Look dir home files name (.error fault)

theorem descend_folder (hhome : files.entryAt? home = some .directory) (name : String)
    (rest : List String) :
    files.descend home (folder :: name :: rest) =
      if files.entryAt? (home ++ [folder]) = none then .error .missing
      else files.descend (home ++ [folder]) (name :: rest) := by
  rw [Files.descend, if_neg (by simp [hhome]), if_neg (by decide)]
  cases files.entryAt? (home ++ [folder]) <;> rfl

/-- In the folder, a name that fits leads to its result. -/
theorem Site.find_of_fits (h : dir.Site home files) (hname : IsName name) (hfits : dir.Fits name)
    (hfolder : files.entryAt? (home ++ [folder]) = some .directory) (follow : Bool) :
    files.find follow (Path.beneath dir.currentDir [folder, name]) =
      match files.result home name [] with
      | some entry => .ok (.entry (home ++ [folder, name]) entry)
      | none => .ok (.vacant (home ++ [folder]) name) := by
  rw [h.find_eq (by simpa using hname), hfits.accepted]
  simp only
  rw [descend_folder h.entryAt?_home, if_neg (by simp [hfolder]), Files.descend_singleton hfolder,
    if_neg (Nat.not_lt.2 hfits.short), ← Files.below_folder, Files.below, List.append_assoc]
  rfl

theorem Site.look (h : dir.Site home files) (hname : IsName name) (follow : Bool) :
    dir.Look home files name (files.find follow (Path.beneath dir.currentDir [folder, name])) := by
  cases haccepted : Files.refusal? (Path.beneath dir.currentDir [folder, name]) with
  | some fault =>
    rw [Files.find_of_refused haccepted]
    refine .refused fault ?_ fun hfits => absurd hfits.accepted (by simp [haccepted])
    rintro rfl
    refine Files.refusal?_ne_missing (Files.beneath_ne_empty ?_ ?_) haccepted
    · exact Files.ne_empty_of_find h.find_home
    · simpa using ⟨isName_folder, hname⟩
  | none =>
    by_cases hfolder : files.entryAt? (home ++ [folder]) = some .directory
    · by_cases hshort : Files.width name ≤ Files.longestName
      · rw [h.find_of_fits hname ⟨haccepted, hshort⟩ hfolder]
        cases hresult : files.result home name [] with
        | some entry => exact .there ⟨haccepted, hshort⟩ hfolder entry hresult
        | none => exact .vacant ⟨haccepted, hshort⟩ hfolder ((h.isTree name).eq_bare hresult)
      · rw [h.find_eq (by simpa using hname), haccepted]
        simp only
        rw [descend_folder h.entryAt?_home, if_neg (by simp [hfolder]), Files.descend,
          if_neg (by simp [hfolder]), if_pos (by omega)]
        exact .refused .tooLong (by decide) fun hfits => absurd hfits.short hshort
    · rw [h.find_eq (by simpa using hname), haccepted]
      simp only
      rw [descend_folder h.entryAt?_home]
      by_cases hnone : files.entryAt? (home ++ [folder]) = none
      · rw [if_pos hnone]
        exact .noFolder haccepted hnone
      · rw [if_neg hnone, Files.descend, if_pos hfolder]
        exact .refused .notDirectory (by decide) fun _ => not_or.2 ⟨hnone, hfolder⟩

end ResultDir

end CallSheet
