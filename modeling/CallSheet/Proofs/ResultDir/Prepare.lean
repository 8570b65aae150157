import CallSheet.Proofs.ResultDir.Results
import Mathlib.Data.List.Nodup
import Mathlib.Data.List.Perm.Subperm

/-!
# Preparing a result directory

What `ResultDir.prepare` does to the results in a directory.

There are four groups.

* The number of the backup.  `Site.isFirstFree_backupNumber`: it is the first free
  one, because there are more numbers to try than there are entries.
* Directories.  What making nested directories does, from what looking them up
  gives.
* Keeping.  `Site.move_backup`: the result that is there is moved away as a whole.
* The whole.  `Prepared` says everything that a successful preparation does.
  `Site.prepare_cases`: preparing succeeds if the result is `Ready` for it, and else
  it makes the folder at most.
-/

namespace CallSheet

open Files (IsName IsTree bare directoryWith AgreesOff)

namespace ResultDir

variable {dir : ResultDir} {files before after : Files} {home : Place} {name : String}
  {number : Nat} {fault : Fault}

/-! ## The number of the backup -/

theorem has_iff {path : String} :
    files.has path = true ↔ ∃ place entry, files.find true path = .ok (.entry place entry) := by
  rw [Files.has, Files.locate]
  cases files.find true path with
  | error fault => simp
  | ok found => cases found <;> simp

theorem Site.has_iff (h : dir.Site home files) (hname : IsName name) :
    files.has (Path.beneath dir.currentDir [folder, name]) = true ↔
      dir.Fits name ∧ files.result home name ≠ bare := by
  rw [ResultDir.has_iff]
  constructor
  · rintro ⟨place, entry, hfind⟩
    have hlook := h.look hname true
    rw [hfind] at hlook
    cases hlook with
    | there hfits hfolder _ hresult =>
      refine ⟨hfits, fun hbare => ?_⟩
      rw [hbare] at hresult
      cases hresult
  · rintro ⟨hfits, hresult⟩
    rw [h.find_of_fits hname hfits (h.folder_of_result hresult)]
    cases htop : files.result home name [] with
    | none => exact absurd ((h.isTree name).eq_bare htop) hresult
    | some entry => exact ⟨_, _, rfl⟩

/-- What a search for a free number has found. -/
theorem firstFree_spec (dir : ResultDir) (files : Files) (steps number : Nat) :
    (∀ taken, number ≤ taken → taken < dir.firstFree files steps number →
      files.has (dir.backup taken) = true) ∧
    (files.has (dir.backup (dir.firstFree files steps number)) = false ∨
      dir.firstFree files steps number = number + steps) ∧
    number ≤ dir.firstFree files steps number := by
  induction steps generalizing number with
  | zero => exact ⟨fun taken h h' => absurd h' (by rw [firstFree]; omega), .inr rfl, le_refl _⟩
  | succ steps ih =>
    rw [firstFree]
    split
    · next htaken =>
      obtain ⟨hbelow, hend, hle⟩ := ih (number + 1)
      refine ⟨fun taken h h' => ?_, hend.imp_right fun h => by omega, by omega⟩
      rcases Nat.eq_or_lt_of_le h with rfl | h
      · exact htaken
      · exact hbelow taken h h'
    · next hfree => exact ⟨fun taken h h' => by omega, .inl (by simpa using hfree), le_refl _⟩

/-- A number is the first one whose backup is free. -/
structure IsFirstFree (dir : ResultDir) (home : Place) (files : Files) (number : Nat) : Prop where
  pos : 1 ≤ number
  free : files.result home (dir.backupName number) = bare
  least : ∀ taken, 1 ≤ taken → taken < number → files.result home (dir.backupName taken) ≠ bare

theorem Site.has_backup_iff (h : dir.Site home files) (number : Nat) :
    files.has (dir.backup number) = true ↔
      dir.Fits (dir.backupName number) ∧ files.result home (dir.backupName number) ≠ bare :=
  h.has_iff (isName_backupName h.proper number)

/-- The place of the backup with a number. -/
def backupPlace (dir : ResultDir) (home : Place) (number : Nat) : Place :=
  home ++ [folder, dir.backupName number]

theorem backupPlace_injective (dir : ResultDir) (home : Place) :
    Function.Injective (dir.backupPlace home) := by
  intro a b h
  have hname := (List.cons.inj (List.cons.inj (List.append_cancel_left h)).2).1
  exact (backupName_inj hname).2

theorem Site.mem_of_has (h : dir.Site home files) (hhas : files.has (dir.backup number) = true) :
    dir.backupPlace home number ∈ files.entries.map Prod.fst := by
  have hresult := ((h.has_backup_iff number).1 hhas).2
  by_contra hnot
  refine hresult ((h.isTree _).eq_bare ?_)
  rw [Files.result, Files.below, List.append_nil, Files.entryAt?_eq_lookup (by simp),
    Files.lookup_eq_none_iff]
  rintro known hknown heq
  exact hnot (by rw [backupPlace, ← heq]; exact List.mem_map_of_mem hknown)

/-- The number that the search comes to is free: if it was not, there would be more
backups than entries. -/
theorem Site.has_backupNumber (h : dir.Site home files) :
    files.has (dir.backup (dir.backupNumber files)) = false := by
  by_contra htaken
  rw [Bool.not_eq_false] at htaken
  obtain ⟨hbelow, hend, -⟩ := firstFree_spec dir files files.entries.length 1
  change files.has (dir.backup (dir.firstFree files files.entries.length 1)) = true at htaken
  have hend := hend.resolve_left (by rw [htaken]; simp)
  have hmem : (List.range' 1 (files.entries.length + 1)).map (dir.backupPlace home) ⊆
      files.entries.map Prod.fst := by
    intro place hplace
    obtain ⟨number, hnumber, rfl⟩ := List.mem_map.1 hplace
    rw [List.mem_range'_1] at hnumber
    refine h.mem_of_has ?_
    rcases Nat.lt_or_ge number (dir.firstFree files files.entries.length 1) with hlt | hge
    · exact hbelow number hnumber.1 hlt
    · rwa [show number = dir.firstFree files files.entries.length 1 by omega]
  have hnodup : ((List.range' 1 (files.entries.length + 1)).map (dir.backupPlace home)).Nodup :=
    (List.nodup_range' _).map (backupPlace_injective dir home)
  have hlength := (List.subperm_of_subset hnodup hmem).length_le
  rw [List.length_map, List.length_map, List.length_range'] at hlength
  omega

/-- If the backup with the number that the search comes to can be made, the number
is the first free one. -/
theorem Site.isFirstFree_backupNumber (h : dir.Site home files)
    (hfits : dir.Fits (dir.backupName (dir.backupNumber files))) :
    dir.IsFirstFree home files (dir.backupNumber files) := by
  obtain ⟨hbelow, -, hpos⟩ := firstFree_spec dir files files.entries.length 1
  refine ⟨hpos, ?_, fun taken hle hlt => ((h.has_backup_iff taken).1 (hbelow taken hle hlt)).2⟩
  by_contra hresult
  have := (h.has_backup_iff _).2 ⟨hfits, hresult⟩
  rw [h.has_backupNumber] at this
  cases this

/-! ## Directories -/

theorem makeDirectory_joined {base : String} {parent : Place} {next : String} (hbase : base ≠ "")
    (hname : IsName name)
    (hfind : files.find false (Path.joined base name) = .ok (.vacant parent next)) :
    files.makeDirectory (Path.joined base name) =
      (.ok (), files.put (parent ++ [next]) .directory) := by
  rw [Files.makeDirectory, Files.withoutSlashes_joined hbase hname, hfind]

theorem makeDirectory_joined_of_error {base : String} (hbase : base ≠ "") (hname : IsName name)
    (hfind : files.find false (Path.joined base name) = .error fault) :
    files.makeDirectory (Path.joined base name) = (.error fault, files) := by
  rw [Files.makeDirectory, Files.withoutSlashes_joined hbase hname, hfind]

theorem isDirectory_of_find_error {path : String} (hfind : files.find true path = .error fault) :
    files.isDirectory path = false := by
  rw [Files.isDirectory, Files.locate, hfind]

variable {path : String} {outer : List String} {middle : Files}

theorem makeNested_of_ok (hpath : path ≠ "") (h : files.makeDirectory path = (.ok (), after))
    (outer : List String) : files.makeNested (path :: outer) = (.ok (), after) := by
  rw [Files.makeNested, if_neg hpath]
  simp only [h]

theorem makeNested_of_error (hpath : path ≠ "")
    (h : files.makeDirectory path = (.error fault, files)) (hfault : fault ≠ .missing)
    (hno : files.isDirectory path = false) (outer : List String) :
    files.makeNested (path :: outer) = (.error fault, files) := by
  rw [Files.makeNested, if_neg hpath]
  simp [h, hfault, hno]

theorem makeNested_of_missing (hpath : path ≠ "")
    (h : files.makeDirectory path = (.error .missing, before))
    (houter : files.makeNested outer = (.ok (), middle))
    (hno : ∀ fault after, middle.makeDirectory path = (.error fault, after) →
      after.isDirectory path = false) :
    files.makeNested (path :: outer) = middle.makeDirectory path := by
  rw [Files.makeNested, if_neg hpath]
  simp only [h, if_true, houter]
  cases hmiddle : middle.makeDirectory path with
  | mk outcome after =>
    cases outcome with
    | ok done => rfl
    | error fault => simp [hno fault after hmiddle]

theorem outward_of_parent {path parent : Path} (h : path.parent? = some parent) (steps : Nat) :
    ∃ outer, Files.outward (steps + 2) path = path.toString :: parent.toString :: outer := by
  rw [Files.outward, h]
  simp only [Files.outward]
  exact ⟨_, rfl⟩

/-- The directories to make for a result are the result's own and the folder, and
then those that the folder is in. -/
theorem IsProper.makeDirectories_eq (h : dir.IsProper) (hdir : dir.currentDir ≠ "") :
    ∃ outer, ∀ files : Files,
      files.makeDirectories dir.path =
        files.makeNested (dir.path :: Path.beneath dir.currentDir [folder] :: outer) := by
  have hparent : (Path.ofString dir.path).parent? =
      some (Path.ofString (Path.beneath dir.currentDir [folder])) := by
    rw [h.path_eq]
    exact Path.parent?_joined hdir isName_folder h.name
  have htext : ∀ path : String, (Path.ofString path).toString = path := fun path => by
    rw [Path.toString, Path.ofString, Path.text_ofText, String.ofList_toList]
  obtain ⟨outer, houter⟩ := outward_of_parent hparent (Path.ofString dir.path).segments.length
  exact ⟨outer, fun files => by rw [Files.makeDirectories, houter, htext, htext]⟩

/-! ## Making -/

theorem folder_prefix_place (dir : ResultDir) (home : Place) :
    home ++ [folder] <+: dir.place home := ⟨[dir.currentFile], by simp [place]⟩

/-- A site is kept by putting an entry where there was none, or in the result. -/
theorem Site.put (h : dir.Site home files) {target : Place} {entry : Entry}
    (htarget : target ≠ []) (hold : files.entryAt? target = none ∨ dir.place home <+: target)
    (htree : IsTree ((files.put target entry).below (home ++ [folder]))) :
    dir.Site home (files.put target entry) := by
  refine ⟨h.proper, h.leads.mono (Files.within_without (place_ne_nil dir home) ?_) ?_, htree⟩
  · intro other known hother hknown
    rw [Files.entryAt?_put htarget, if_neg, hknown]
    rintro rfl
    rcases hold with hold | hold
    · rw [hold] at hknown
      cases hknown
    · exact hother hold
  · rw [Files.start, Files.start, Files.here_put]

/-- The folder of results is put where there was nothing, if at all. -/
def MayAddFolder (home : Place) (before after : Files) : Prop :=
  after = before ∨
    before.entryAt? (home ++ [folder]) = none ∧ after = before.put (home ++ [folder]) .directory

theorem MayAddFolder.confined (h : MayAddFolder home before after) :
    Files.Confined (home ++ [folder]) before after := by
  rcases h with rfl | ⟨-, rfl⟩
  · exact .refl _ _
  · exact Files.confined_put (by simp) List.prefix_rfl _ _

theorem MayAddFolder.result_eq (h : MayAddFolder home before after) :
    after.result home = before.result home := by
  rcases h with rfl | ⟨-, rfl⟩
  · rfl
  · exact Files.result_put_folder _ _ _

theorem MayAddFolder.site (hadd : MayAddFolder home before after) (h : dir.Site home before) :
    dir.Site home after := by
  rcases hadd with rfl | ⟨hnone, rfl⟩
  · exact h
  · refine h.put (by simp) (.inl hnone) (Files.isTree_folder ?_ fun name => ?_)
    · rw [Files.entryAt?_put (by simp), if_pos rfl]
    · rw [Files.result_put_folder]
      exact h.isTree name

theorem Site.look_path (h : dir.Site home files) (follow : Bool) :
    dir.Look home files dir.currentFile (files.find follow dir.path) := by
  rw [h.proper.path_eq]
  exact h.look h.proper.name follow

theorem Site.folderPath_ne_empty (h : dir.Site home files) :
    Path.beneath dir.currentDir [folder] ≠ "" :=
  Files.joined_ne_empty (Files.ne_empty_of_find h.find_home) isName_folder

theorem Site.path_ne_empty (h : dir.Site home files) : dir.path ≠ "" := by
  rw [h.proper.path_eq]
  exact Files.joined_ne_empty h.folderPath_ne_empty h.proper.name

theorem Site.makeDirectory_folder (h : dir.Site home files)
    (haccepted : Files.refusal? (Path.beneath dir.currentDir [folder]) = none)
    (hnone : files.entryAt? (home ++ [folder]) = none) :
    files.makeDirectory (Path.beneath dir.currentDir [folder]) =
      (.ok (), files.put (home ++ [folder]) .directory) := by
  refine makeDirectory_joined (Files.ne_empty_of_find h.find_home) isName_folder ?_
  have hfind := h.find_eq (fun name hmem => absurd hmem List.not_mem_nil) false
  rw [haccepted] at hfind
  simp only [Files.descend, hnone] at hfind
  rwa [if_neg (by simp [h.entryAt?_home]), if_neg (by decide)] at hfind

/-- What making the directory of a result that is not there can come to. -/
theorem Site.makeDirectory_path (h : dir.Site home files)
    (hbare : files.result home dir.currentFile = bare) :
    (files.entryAt? (home ++ [folder]) = some .directory ∧
      files.makeDirectory dir.path = (.ok (), files.put (dir.place home) .directory)) ∨
    (files.entryAt? (home ++ [folder]) = none ∧
      Files.refusal? dir.path = none ∧ files.makeDirectory dir.path = (.error .missing, files)) ∨
    ∃ fault, fault ≠ .missing ∧ (dir.Fits dir.currentFile → ¬ HasRoom home files) ∧
      files.isDirectory dir.path = false ∧
      files.makeDirectory dir.path = (.error fault, files) := by
  have hname := h.proper.name
  have hplace : home ++ [folder] ++ [dir.currentFile] = dir.place home := by simp [place]
  have hlook := h.look_path false
  rw [h.proper.path_eq] at hlook ⊢
  generalize hfind : files.find false (Path.beneath dir.currentDir [folder, dir.currentFile]) =
    found at hlook
  cases hlook with
  | there _ _ entry hresult =>
    rw [hbare] at hresult
    cases hresult
  | vacant hfits hfolder _ =>
    refine .inl ⟨hfolder, ?_⟩
    rw [← hplace]
    exact makeDirectory_joined h.folderPath_ne_empty hname hfind
  | noFolder haccepted hfolder =>
    exact .inr (.inl ⟨hfolder, haccepted,
      makeDirectory_joined_of_error h.folderPath_ne_empty hname hfind⟩)
  | refused fault hfault hwhy =>
    refine .inr (.inr ⟨fault, hfault, hwhy, ?_,
      makeDirectory_joined_of_error h.folderPath_ne_empty hname hfind⟩)
    rw [h.find_eq (by simpa using hname)] at hfind
    apply isDirectory_of_find_error
    rw [h.find_eq (by simpa using hname), hfind]

/-- Making the directory of a result that is not there either puts it in the folder,
which is made if it is missing, or fails and puts no more than the folder. -/
theorem Site.makeDirectories_cases (h : dir.Site home files)
    (hbare : files.result home dir.currentFile = bare) :
    ∃ made, MayAddFolder home files made ∧
      (made.entryAt? (home ++ [folder]) = some .directory ∧
          files.makeDirectories dir.path = (.ok (), made.put (dir.place home) .directory) ∨
        ∃ fault, files.makeDirectories dir.path = (.error fault, made) ∧
          (dir.Fits dir.currentFile → ¬ HasRoom home files)) := by
  have hdir := Files.ne_empty_of_find h.find_home
  obtain ⟨outer, houter⟩ := h.proper.makeDirectories_eq hdir
  rw [houter]
  rcases h.makeDirectory_path hbare with ⟨hfolder, hmake⟩ | ⟨hnone, haccepted, hmake⟩ |
    ⟨fault, hfault, hwhy, hno, hmake⟩
  · exact ⟨files, .inl rfl, .inl ⟨hfolder, makeNested_of_ok h.path_ne_empty hmake _⟩⟩
  · have hadd : MayAddFolder home files (files.put (home ++ [folder]) .directory) :=
      .inr ⟨hnone, rfl⟩
    have hfolderAccepted : Files.refusal? (Path.beneath dir.currentDir [folder]) = none := by
      rw [h.proper.path_eq] at haccepted
      have hnames : ∀ name ∈ [folder] ++ [dir.currentFile], IsName name := by
        simpa using ⟨isName_folder, h.proper.name⟩
      exact Files.refusal?_beneath_append hdir hnames haccepted
    have hnested := makeNested_of_ok h.folderPath_ne_empty
      (h.makeDirectory_folder hfolderAccepted hnone) outer
    refine ⟨_, hadd, ?_⟩
    rcases (hadd.site h).makeDirectory_path (hadd.result_eq ▸ hbare) with ⟨hfolder, hmake'⟩ |
      ⟨hnone', -, -⟩ | ⟨fault, -, hwhy, hno, hmake'⟩
    · rw [makeNested_of_missing h.path_ne_empty hmake hnested (by rw [hmake']; simp), hmake']
      exact .inl ⟨hfolder, rfl⟩
    · rw [Files.entryAt?_put (by simp), if_pos rfl] at hnone'
      cases hnone'
    · rw [makeNested_of_missing h.path_ne_empty hmake hnested, hmake']
      · refine .inr ⟨fault, rfl, fun hfits => absurd ?_ (hwhy hfits)⟩
        exact .inr (by rw [Files.entryAt?_put (by simp), if_pos rfl])
      · intro fault' after heq
        rw [hmake'] at heq
        rwa [← (Prod.mk.inj heq).2]
  · exact ⟨files, .inl rfl,
      .inr ⟨fault, makeNested_of_error h.path_ne_empty hmake hfault hno _, hwhy⟩⟩

/-- If the first backup is free, it is the one that is made. -/
theorem backupNumber_eq_one (h : files.has (dir.backup 1) = false) :
    dir.backupNumber files = 1 := by
  rw [backupNumber]
  cases files.entries.length with
  | zero => rfl
  | succ steps => rw [firstFree, if_neg (by simp [h])]

/-! ## Keeping -/

theorem move_joined {base base' name name' : String} {place parent : Place} {entry : Entry}
    {next : String} (hbase : base ≠ "") (hbase' : base' ≠ "") (hname : IsName name)
    (hname' : IsName name')
    (hold : files.find false (Path.joined base name) = .ok (.entry place entry))
    (hnew : files.find false (Path.joined base' name') = .ok (.vacant parent next))
    (hinto : ¬ place <+: parent ++ [next]) :
    files.move (Path.joined base name) (Path.joined base' name') =
      (.ok (), files.moveAt place (parent ++ [next])) := by
  have hpre : place.isPrefixOf (parent ++ [next]) = false := by
    rw [Bool.eq_false_iff, ne_eq, List.isPrefixOf_iff_prefix]
    exact hinto
  simp only [Files.move, Files.withoutSlashes_joined hbase hname,
    Files.withoutSlashes_joined hbase' hname', hold, hnew, Files.endsInPoints_joined hbase hname,
    Files.endsInPoints_joined hbase' hname', Files.endsInSlash_joined hbase hname,
    Files.endsInSlash_joined hbase' hname', hpre]
  simp

theorem move_joined_of_error {base base' name name' : String} {place : Place} {entry : Entry}
    (hbase : base ≠ "") (hbase' : base' ≠ "") (hname : IsName name) (hname' : IsName name')
    (hold : files.find false (Path.joined base name) = .ok (.entry place entry))
    (hnew : files.find false (Path.joined base' name') = .error fault) :
    files.move (Path.joined base name) (Path.joined base' name') = (.error fault, files) := by
  simp only [Files.move, Files.withoutSlashes_joined hbase hname,
    Files.withoutSlashes_joined hbase' hname', hold, hnew]

/-- A result under the name of a backup, and none under its own name. -/
theorem Site.keep (h : dir.Site home files)
    (hfree : files.result home (dir.backupName number) = bare)
    (hfolder : files.entryAt? (home ++ [folder]) = some .directory) :
    dir.Site home (files.moveAt (dir.place home) (dir.backupPlace home number)) := by
  have hnew : files.Vacant (dir.backupPlace home number) := Files.vacant_iff.2 hfree
  refine ⟨h.proper, ?_, Files.isTree_folder ?_ fun name => ?_⟩
  · refine h.leads.mono (Files.within_without (place_ne_nil dir home) ?_) ?_
    · intro other entry hother hentry
      rw [Files.entryAt?_moveAt (place_ne_nil dir home) hnew, if_neg, if_neg hother, hentry]
      intro hpre
      rw [hnew.entryAt? hpre] at hentry
      cases hentry
    · exact h.leads.start_moveAt (place_ne_nil dir home) List.prefix_rfl _
  · exact (Files.entryAt?_folder_moveAt hfree).trans hfolder
  · rw [place, backupPlace, Files.result_moveAt (backupName_ne dir number).symm hfree]
    by_cases hname : name = dir.currentFile
    · rw [hname, Function.update_self]
      exact Files.isTree_bare
    rw [Function.update_of_ne hname]
    by_cases hback : name = dir.backupName number
    · rw [hback, Function.update_self]
      exact h.isTree _
    · rw [Function.update_of_ne hback]
      exact h.isTree _

/-- The result that is there is moved to the first free backup, or nothing happens. -/
theorem Site.move_backup (h : dir.Site home files) (hfits : dir.Fits dir.currentFile)
    (hresult : files.result home dir.currentFile ≠ bare) :
    (dir.IsFirstFree home files (dir.backupNumber files) ∧
      files.move dir.path (dir.backup (dir.backupNumber files)) =
        (.ok (), files.moveAt (dir.place home) (dir.backupPlace home (dir.backupNumber files)))) ∨
    ∃ fault, files.move dir.path (dir.backup (dir.backupNumber files)) = (.error fault, files) ∧
      ¬ dir.Fits (dir.backupName (dir.backupNumber files)) := by
  have hname := h.proper.name
  have hback := isName_backupName h.proper (dir.backupNumber files)
  have hfolder := h.folder_of_result hresult
  obtain ⟨entry, hentry⟩ : ∃ entry, files.result home dir.currentFile [] = some entry := by
    rw [← Option.ne_none_iff_exists']
    exact fun hnone => hresult ((h.isTree _).eq_bare hnone)
  have hold := h.find_of_fits hname hfits hfolder false
  rw [hentry] at hold
  have hlook := h.look hback false
  rw [h.proper.path_eq, backup_eq]
  generalize hnew : files.find false (Path.beneath dir.currentDir
    [folder, dir.backupName (dir.backupNumber files)]) = found at hlook
  cases hlook with
  | there hfits' _ _ htaken =>
    have := h.isFirstFree_backupNumber hfits'
    rw [this.free] at htaken
    cases htaken
  | vacant hfits' _ _ =>
    refine .inl ⟨h.isFirstFree_backupNumber hfits', ?_⟩
    have hplace : home ++ [folder] ++ [dir.backupName (dir.backupNumber files)] =
        dir.backupPlace home (dir.backupNumber files) := by simp [backupPlace]
    rw [← hplace]
    refine move_joined h.folderPath_ne_empty h.folderPath_ne_empty hname hback hold hnew ?_
    rw [hplace, backupPlace, place, ← List.append_nil (home ++ [folder, dir.backupName _]),
      Files.prefix_result_iff]
    exact (backupName_ne dir _).symm
  | noFolder _ hnone =>
    rw [hnone] at hfolder
    cases hfolder
  | refused fault _ hwhy =>
    exact .inr ⟨fault, move_joined_of_error h.folderPath_ne_empty h.folderPath_ne_empty hname
      hback hold hnew, fun hfits' => hwhy hfits' (.inr hfolder)⟩

/-! ## The whole -/

/-- What a successful preparation does. -/
structure Prepared (dir : ResultDir) (home : Place) (before after : Files) : Prop where
  site : dir.Site home after
  confined : Files.Confined (home ++ [folder]) before after
  folder : after.entryAt? (home ++ [folder]) = some .directory
  /-- There was no result, or it is under the first free backup name now; its place
  is taken by an empty directory. -/
  results :
    before.result home dir.currentFile = bare ∧
        after.result home =
          Function.update (before.result home) dir.currentFile (directoryWith []) ∨
      before.result home dir.currentFile ≠ bare ∧ ∃ number, dir.IsFirstFree home before number ∧
        after.result home =
          Function.update (Function.update (before.result home) (dir.backupName number)
            (before.result home dir.currentFile)) dir.currentFile (directoryWith [])

/-- The new result is an empty directory. -/
theorem Prepared.result_self (h : dir.Prepared home before after) :
    after.result home dir.currentFile = directoryWith [] := by
  rcases h.results with ⟨-, hresults⟩ | ⟨-, number, -, hresults⟩
  · rw [hresults, Function.update_self]
  · rw [hresults, Function.update_self]

theorem result_put_place (files : Files) (hbare : files.result home dir.currentFile = bare) :
    (files.put (dir.place home) .directory).result home =
      Function.update (files.result home) dir.currentFile (directoryWith []) := by
  rw [place, Files.result_put files home dir.currentFile [], hbare, Files.update_bare]

theorem Site.makeDirectories_of_fits (h : dir.Site home files) (hfits : dir.Fits dir.currentFile)
    (hbare : files.result home dir.currentFile = bare)
    (hfolder : files.entryAt? (home ++ [folder]) = some .directory) :
    files.makeDirectories dir.path = (.ok (), files.put (dir.place home) .directory) := by
  have hfind := h.find_of_fits h.proper.name hfits hfolder false
  simp only [hbare, bare] at hfind
  have hmake := makeDirectory_joined h.folderPath_ne_empty h.proper.name hfind
  obtain ⟨outer, houter⟩ := h.proper.makeDirectories_eq (Files.ne_empty_of_find h.find_home)
  rw [houter]
  refine makeNested_of_ok h.path_ne_empty ?_ _
  have hplace : home ++ [folder] ++ [dir.currentFile] = dir.place home := by simp [place]
  rw [h.proper.path_eq, ← hplace]
  exact hmake

/-- A result directory that is put in the folder. -/
theorem Site.put_place (h : dir.Site home files)
    (hbare : files.result home dir.currentFile = bare)
    (hfolder : files.entryAt? (home ++ [folder]) = some .directory) :
    dir.Site home (files.put (dir.place home) .directory) ∧
      Files.Confined (home ++ [folder]) files (files.put (dir.place home) .directory) ∧
      (files.put (dir.place home) .directory).entryAt? (home ++ [folder]) = some .directory := by
  have hfolder' : (files.put (dir.place home) .directory).entryAt? (home ++ [folder]) =
      some .directory := by
    rw [place, Files.entryAt?_folder_put files home dir.currentFile [], hfolder]
  refine ⟨h.put (place_ne_nil dir home) (.inr List.prefix_rfl)
    (Files.isTree_folder hfolder' fun name => ?_),
    Files.confined_put (by simp) (folder_prefix_place dir home) _ _, hfolder'⟩
  rw [result_put_place files hbare]
  by_cases hname : name = dir.currentFile
  · rw [hname, Function.update_self]
    exact Files.isTree_directoryWith []
  · rw [Function.update_of_ne hname]
    exact h.isTree name

theorem Site.has_path_iff (h : dir.Site home files) :
    files.has dir.path = true ↔
      dir.Fits dir.currentFile ∧ files.result home dir.currentFile ≠ bare := by
  rw [h.proper.path_eq]
  exact h.has_iff h.proper.name

/-- When the result is kept, an empty one is put in its place. -/
theorem Site.makeDirectories_kept (h : dir.Site home files) (hfits : dir.Fits dir.currentFile)
    (hresult : files.result home dir.currentFile ≠ bare)
    (hfirst : dir.IsFirstFree home files number) :
    ∃ after,
      (files.moveAt (dir.place home) (dir.backupPlace home number)).makeDirectories dir.path =
        (.ok (), after) ∧ dir.Prepared home files after := by
  have hfolder := h.folder_of_result hresult
  have hmoved := h.keep hfirst.free hfolder
  have hfolder' : (files.moveAt (dir.place home) (dir.backupPlace home number)).entryAt?
      (home ++ [folder]) = some .directory :=
    (Files.entryAt?_folder_moveAt hfirst.free).trans hfolder
  have hresults : (files.moveAt (dir.place home) (dir.backupPlace home number)).result home = _ :=
    Files.result_moveAt (backupName_ne dir number).symm hfirst.free
  have hconfined : Files.Confined (home ++ [folder]) files
      (files.moveAt (dir.place home) (dir.backupPlace home number)) :=
    Files.confined_moveAt (by simp) (folder_prefix_place dir home) (Files.vacant_iff.2 hfirst.free)
      ⟨[dir.backupName number], by simp [backupPlace]⟩
  generalize files.moveAt (dir.place home) (dir.backupPlace home number) = moved at *
  have hbare : moved.result home dir.currentFile = bare := by rw [hresults, Function.update_self]
  obtain ⟨hsite, hconfined', hfolder''⟩ := hmoved.put_place hbare hfolder'
  refine ⟨_, hmoved.makeDirectories_of_fits hfits hbare hfolder', hsite,
    hconfined.trans hconfined', hfolder'', .inr ⟨hresult, number, hfirst, ?_⟩⟩
  rw [result_put_place moved hbare, hresults, Function.update_idem]

/-- A result that cannot be looked up can neither be made. -/
theorem Site.makeDirectories_of_unfit (h : dir.Site home files)
    (hresult : files.result home dir.currentFile ≠ bare) (hunfit : ¬ dir.Fits dir.currentFile) :
    ∃ fault, files.makeDirectories dir.path = (.error fault, files) := by
  have hlook := h.look_path false
  obtain ⟨outer, houter⟩ := h.proper.makeDirectories_eq (Files.ne_empty_of_find h.find_home)
  generalize hfind : files.find false dir.path = found at hlook
  cases hlook with
  | there hfits _ _ _ => exact absurd hfits hunfit
  | vacant _ _ hbare => exact absurd hbare hresult
  | noFolder _ hnone => exact absurd (h.result_eq_bare (by simp [hnone]) _) hresult
  | refused fault hfault _ =>
    refine ⟨fault, ?_⟩
    rw [houter]
    refine makeNested_of_error h.path_ne_empty ?_ hfault ?_ _
    · rw [h.proper.path_eq] at hfind ⊢
      exact makeDirectory_joined_of_error h.folderPath_ne_empty h.proper.name hfind
    · apply isDirectory_of_find_error
      rw [← hfind, h.proper.path_eq, h.find_eq (by simpa using h.proper.name),
        h.find_eq (by simpa using h.proper.name)]

/-- Nothing is in the way of preparing the result directory. -/
structure Ready (dir : ResultDir) (home : Place) (files : Files) : Prop where
  room : HasRoom home files
  fits : dir.Fits dir.currentFile
  backup : files.result home dir.currentFile ≠ bare →
    dir.Fits (dir.backupName (dir.backupNumber files))

/-- Preparing a result directory succeeds unless something is in the way, and then no
more than the folder is made. -/
theorem Site.prepare_cases (h : dir.Site home files) :
    (∃ after, dir.prepare files = (.ok (), after) ∧ dir.Prepared home files after) ∨
      ∃ fault after, dir.prepare files = (.error fault, after) ∧ MayAddFolder home files after ∧
        ¬ dir.Ready home files := by
  rw [prepare]
  split
  · next hhas =>
    obtain ⟨hfits, hresult⟩ := h.has_path_iff.1 hhas
    rcases h.move_backup hfits hresult with ⟨hfirst, hmove⟩ | ⟨fault, hmove, hunfit⟩
    · rw [hmove]
      exact .inl (h.makeDirectories_kept hfits hresult hfirst)
    · rw [hmove]
      exact .inr ⟨fault, files, rfl, .inl rfl, fun hready => hunfit (hready.backup hresult)⟩
  · next hhas =>
    by_cases hbare : files.result home dir.currentFile = bare
    · obtain ⟨made, hadd, ⟨hfolder, hmake⟩ | ⟨fault, hmake, hwhy⟩⟩ := h.makeDirectories_cases hbare
      · have hbare' : made.result home dir.currentFile = bare := hadd.result_eq ▸ hbare
        obtain ⟨hsite, hconfined, hfolder'⟩ := (hadd.site h).put_place hbare' hfolder
        refine .inl ⟨_, hmake, hsite, hadd.confined.trans hconfined, hfolder', .inl ⟨hbare, ?_⟩⟩
        rw [result_put_place made hbare', hadd.result_eq]
      · exact .inr ⟨fault, made, hmake, hadd, fun hready => hwhy hready.fits hready.room⟩
    · have hunfit : ¬ dir.Fits dir.currentFile := fun hfits =>
        hhas (h.has_path_iff.2 ⟨hfits, hbare⟩)
      obtain ⟨fault, hmake⟩ := h.makeDirectories_of_unfit hbare hunfit
      exact .inr ⟨fault, files, hmake, .inl rfl, fun hready => hunfit hready.fits⟩

theorem Site.prepared_of_ok (h : dir.Site home before)
    (hprepare : dir.prepare before = (.ok (), after)) : dir.Prepared home before after := by
  rcases h.prepare_cases with ⟨_, heq, hprepared⟩ | ⟨_, _, heq, -, -⟩
  · cases hprepare.symm.trans heq
    exact hprepared
  · cases hprepare.symm.trans heq

theorem Site.mayAddFolder_of_error (h : dir.Site home before)
    (hprepare : dir.prepare before = (.error fault, after)) : MayAddFolder home before after := by
  rcases h.prepare_cases with ⟨_, heq, -⟩ | ⟨_, _, heq, hadd, -⟩
  · cases hprepare.symm.trans heq
  · cases hprepare.symm.trans heq
    exact hadd

theorem Site.prepare_of_ready (h : dir.Site home files) (hready : dir.Ready home files) :
    ∃ after, dir.prepare files = (.ok (), after) ∧ dir.Prepared home files after := by
  rcases h.prepare_cases with hok | ⟨fault, after, -, -, hnot⟩
  · exact hok
  · exact absurd hready hnot

/-- The first backup is free as long as it is not there. -/
theorem Site.backupNumber_eq_one (h : dir.Site home files)
    (hfree : files.result home (dir.backupName 1) = bare) : dir.backupNumber files = 1 := by
  refine ResultDir.backupNumber_eq_one ?_
  rw [Bool.eq_false_iff, ne_eq, h.has_backup_iff]
  exact fun hthere => hthere.2 hfree

/-- The first result of a document. -/
theorem Site.prepare_of_bare (h : dir.Site home files) (hready : dir.Ready home files)
    (hbare : files.result home dir.currentFile = bare) :
    ∃ after, dir.prepare files = (.ok (), after) ∧ dir.Prepared home files after ∧
      after.result home =
        Function.update (files.result home) dir.currentFile (directoryWith []) := by
  obtain ⟨after, heq, hprepared⟩ := h.prepare_of_ready hready
  refine ⟨after, heq, hprepared, ?_⟩
  rcases hprepared.results with ⟨-, hresults⟩ | ⟨hthere, -⟩
  · exact hresults
  · exact absurd hbare hthere

/-- The first backup of a document. -/
theorem Site.prepare_of_there (h : dir.Site home files) (hready : dir.Ready home files)
    (hthere : files.result home dir.currentFile ≠ bare)
    (hfree : files.result home (dir.backupName 1) = bare) :
    ∃ after, dir.prepare files = (.ok (), after) ∧ dir.Prepared home files after ∧
      after.result home =
        Function.update (Function.update (files.result home) (dir.backupName 1)
          (files.result home dir.currentFile)) dir.currentFile (directoryWith []) := by
  obtain ⟨after, heq, hprepared⟩ := h.prepare_of_ready hready
  refine ⟨after, heq, hprepared, ?_⟩
  rcases hprepared.results with ⟨hbare, -⟩ | ⟨-, number, hfirst, hresults⟩
  · exact absurd hbare hthere
  · have hone : number = 1 := by
      by_contra hne
      exact hfirst.least 1 le_rfl (by have := hfirst.pos; omega) hfree
    rw [hresults, hone]

end ResultDir

end CallSheet
