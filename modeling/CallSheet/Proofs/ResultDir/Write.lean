import CallSheet.Action.Request
import CallSheet.Proofs.ResultDir.Prepare

/-!
# Writing to a result directory

What writing files does to a result.

There are two groups.

* One file.  `Site.write`: a file is put in the result, or nothing changes.
* Many files.  `writeFiles` writes files up to the first that cannot be written, and
  `Site.writeFiles_fresh` says that the result then holds those before it.
-/

namespace CallSheet

open Files (IsName IsTree bare directoryWith)
open Text

namespace ResultDir

variable {dir : ResultDir} {files before after : Files} {home : Place} {name : String}
  {content : List UInt8}

/-! ## One file -/

theorem write_joined {base : String} (hbase : base ≠ "") (hname : IsName name)
    (content : List UInt8) :
    files.write (Path.joined base name) content =
      match files.find true (Path.joined base name) with
      | .ok (.entry place (.file _)) => (.ok (), files.put place (.file content))
      | .ok (.entry _ .directory) => (.error .isDirectory, files)
      | .ok (.entry _ _) => (.ok (), files)
      | .ok (.vacant parent next) => (.ok (), files.put (parent ++ [next]) (.file content))
      | .error fault => (.error fault, files) := by
  rw [Files.write, Files.writeWith, Files.endsInSlash_joined hbase hname]
  rfl

/-- A file in the result can only be looked up if the result is a directory. -/
theorem Site.find_fileAt (h : dir.Site home files) (hname : IsName name)
    {found : Files.Found} (hfind : files.find true (dir.fileAt name) = .ok found) :
    files.result home dir.currentFile [] = some .directory ∧
      (files.result home dir.currentFile [name] = none ∧ found = .vacant (dir.place home) name ∨
        ∃ entry, files.result home dir.currentFile [name] = some entry ∧
          found = .entry (dir.place home ++ [name]) entry) := by
  have hplace : home ++ [folder] ++ [dir.currentFile] = dir.place home := by simp [place]
  rw [h.proper.fileAt_eq, h.find_eq (by simpa using ⟨h.proper.name, hname⟩)] at hfind
  split at hfind
  · cases hfind
  obtain ⟨-, ⟨-, hrest, -⟩ | hfolder⟩ := Files.descend_cons_eq_ok hfind
  · cases hrest
  obtain ⟨-, ⟨-, hrest, -⟩ | hresult⟩ := Files.descend_cons_eq_ok hfolder
  · cases hrest
  rw [hplace] at hresult
  obtain ⟨hdirectory, hlast⟩ := Files.descend_cons_eq_ok hresult
  refine ⟨by rwa [Files.result, Files.below, List.append_nil], ?_⟩
  rcases hlast with ⟨hnone, -, hfound⟩ | hlast
  · exact .inl ⟨hnone, hfound⟩
  · exact .inr (Files.descend_nil_eq_ok hlast)

/-- The path of a file in the result is not refused, and no name on it is too long. -/
structure FitsFile (dir : ResultDir) (name : String) : Prop where
  accepted : Files.refusal? (dir.fileAt name) = none
  short : Files.width name ≤ Files.longestName
  shortResult : Files.width dir.currentFile ≤ Files.longestName

/-- In a result that is a directory, a name that fits leads to what is under it. -/
theorem Site.find_fileAt_of_fits (h : dir.Site home files) (hname : IsName name)
    (hfits : dir.FitsFile name) (htop : files.result home dir.currentFile [] = some .directory) :
    files.find true (dir.fileAt name) =
      match files.result home dir.currentFile [name] with
      | some entry => .ok (.entry (dir.place home ++ [name]) entry)
      | none => .ok (.vacant (dir.place home) name) := by
  have hfolder := h.folder_of_result fun hbare => by rw [hbare] at htop; cases htop
  have hplace : home ++ [folder] ++ [dir.currentFile] = dir.place home := by simp [place]
  have hentry : files.entryAt? (dir.place home) = some .directory := by
    rwa [Files.result, Files.below, List.append_nil] at htop
  have haccepted := hfits.accepted
  rw [h.proper.fileAt_eq] at haccepted ⊢
  rw [h.find_eq (by simpa using ⟨h.proper.name, hname⟩), haccepted]
  simp only
  rw [descend_folder h.entryAt?_home, if_neg (by simp [hfolder]), Files.descend,
    if_neg (by simp [hfolder]), if_neg (Nat.not_lt.2 hfits.shortResult), hplace, hentry]
  simp only
  rw [Files.descend_singleton hentry, if_neg (Nat.not_lt.2 hfits.short)]
  rfl

/-- What writing to a file in the result can come to. -/
inductive Writes (dir : ResultDir) (home : Place) (files : Files) (name : String)
    (content : List UInt8) : Except Fault Unit × Files → Prop where
  /-- The file is put in the result. -/
  | done (htop : files.result home dir.currentFile [] = some .directory)
      (hold : ∀ entry, files.result home dir.currentFile [name] = some entry → ∃ old,
        entry = .file old) :
      Writes dir home files name content
        (.ok (), files.put (dir.place home ++ [name]) (.file content))
  | failed (fault : Fault) : Writes dir home files name content (.error fault, files)
  /-- What is there takes everything and keeps nothing. -/
  | lost (hsink : files.result home dir.currentFile [name] = some .sink) :
      Writes dir home files name content (.ok (), files)

theorem Site.write (h : dir.Site home files) (hname : IsName name) (content : List UInt8) :
    dir.Writes home files name content (files.write (dir.fileAt name) content) := by
  have hbase : dir.path ≠ "" := h.path_ne_empty
  have hfound : ∀ found, files.find true (dir.fileAt name) = .ok found → _ :=
    fun found hfind => h.find_fileAt hname hfind
  rw [fileAt] at hfound ⊢
  rw [write_joined hbase hname]
  cases hfind : files.find true (Path.joined dir.path name) with
  | error fault => exact .failed fault
  | ok found =>
    obtain ⟨htop, ⟨hnone, rfl⟩ | ⟨entry, hentry, rfl⟩⟩ := hfound found hfind
    · exact .done htop fun entry hentry => by rw [hnone] at hentry; cases hentry
    · cases entry with
      | file old =>
        refine .done htop fun other hother => ?_
        rw [hentry] at hother
        exact ⟨old, (Option.some.inj hother).symm⟩
      | directory => exact .failed _
      | sink => exact .lost hentry
      | link target => exact absurd hentry ((h.isTree _).linkless _ _)

/-- In a result that is a directory, a file can be written under a name that fits and
that is free. -/
theorem Site.write_of_fits (h : dir.Site home files) (hname : IsName name)
    (hfits : dir.FitsFile name) (htop : files.result home dir.currentFile [] = some .directory)
    (hfree : files.result home dir.currentFile [name] = none) (content : List UInt8) :
    files.write (dir.fileAt name) content =
      (.ok (), files.put (dir.place home ++ [name]) (.file content)) := by
  have hfind := h.find_fileAt_of_fits hname hfits htop
  rw [hfree, fileAt] at hfind
  rw [fileAt, write_joined h.path_ne_empty hname, hfind]

theorem result_put_file (files : Files) (dir : ResultDir) (home : Place) (name : String)
    (content : List UInt8) :
    (files.put (dir.place home ++ [name]) (.file content)).result home =
      Function.update (files.result home) dir.currentFile
        (Function.update (files.result home dir.currentFile) [name] (some (.file content))) := by
  rw [← Files.result_put, place, List.append_assoc]
  rfl

/-- A file that is put in the result. -/
theorem Site.put_file (h : dir.Site home files)
    (htop : files.result home dir.currentFile [] = some .directory)
    (hold : ∀ entry, files.result home dir.currentFile [name] = some entry → ∃ old,
      entry = .file old) (content : List UInt8) :
    dir.Site home (files.put (dir.place home ++ [name]) (.file content)) ∧
      Files.Confined (home ++ [folder]) files
        (files.put (dir.place home ++ [name]) (.file content)) := by
  have hpre : dir.place home <+: dir.place home ++ [name] := List.prefix_append _ _
  have hresult : files.result home dir.currentFile ≠ bare := fun hbare => by
    rw [hbare] at htop
    cases htop
  have hfolder := h.folder_of_result hresult
  refine ⟨h.put (by simp) (.inr hpre) (Files.isTree_folder ?_ fun other => ?_),
    Files.confined_put (by simp) ((folder_prefix_place dir home).trans hpre) _ _⟩
  · rw [← hfolder, place, List.append_assoc]
    exact Files.entryAt?_folder_put files home dir.currentFile [name] _
  · rw [result_put_file]
    by_cases hother : other = dir.currentFile
    · rw [hother, Function.update_self]
      rw [← List.nil_append [name]]
      refine (h.isTree dir.currentFile).update htop (fun hdirectory => ?_) fun target => by simp
      obtain ⟨old, heq⟩ := hold _ hdirectory
      cases heq
    · rw [Function.update_of_ne hother]
      exact h.isTree other

/-- Writing to the result leaves everything else alone. -/
theorem Writes.kept {outcome : Except Fault Unit × Files} (h : dir.Site home files)
    (hwrite : dir.Writes home files name content outcome) :
    dir.Site home outcome.2 ∧ Files.Confined (home ++ [folder]) files outcome.2 ∧
      ∀ other, other ≠ dir.currentFile →
        outcome.2.result home other = files.result home other := by
  cases hwrite with
  | done htop hold =>
    obtain ⟨hsite, hconfined⟩ := h.put_file htop hold content
    refine ⟨hsite, hconfined, fun other hother => ?_⟩
    rw [result_put_file, Function.update_of_ne hother]
  | failed | lost => exact ⟨h, .refl _ _, fun _ _ => rfl⟩

/-- Among files with other names, a file is written or not. -/
theorem Writes.fresh {outcome : Except Fault Unit × Files} {contents : List (String × List UInt8)}
    (hresult : files.result home dir.currentFile = directoryWith contents)
    (hnew : name ∉ contents.map Prod.fst) (hwrite : dir.Writes home files name content outcome) :
    (∃ fault, outcome = (.error fault, files)) ∨
      ∃ after, outcome = (.ok (), after) ∧
        after.result home dir.currentFile = directoryWith (contents ++ [(name, content)]) := by
  cases hwrite with
  | done htop hold =>
    refine .inr ⟨_, rfl, ?_⟩
    rw [result_put_file, Function.update_self, hresult, Files.update_directoryWith hnew]
  | failed fault => exact .inl ⟨fault, rfl⟩
  | lost hsink =>
    -- among files there is nothing that takes everything
    rw [hresult, directoryWith] at hsink
    cases hlook : contents.lookup name <;> rw [hlook] at hsink <;> cases hsink

/-! ## Many files -/

/-- Writes files to the result directory, up to the first that cannot be written. -/
def writeFiles (dir : ResultDir) (files : Files) :
    List (String × List UInt8) → Except (String × Fault) Unit × Files
  | [] => (.ok (), files)
  | (name, content) :: rest =>
    match files.write (dir.fileAt name) content with
    | (.ok (), files) => dir.writeFiles files rest
    | (.error fault, files) => (.error (name, fault), files)

theorem writeFiles_cons_of_ok {middle : Files}
    (h : files.write (dir.fileAt name) content = (.ok (), middle))
    (rest : List (String × List UInt8)) :
    dir.writeFiles files ((name, content) :: rest) = dir.writeFiles middle rest := by
  simp only [writeFiles, h]

theorem writeFiles_cons_of_error {middle : Files} {fault : Fault}
    (h : files.write (dir.fileAt name) content = (.error fault, middle))
    (rest : List (String × List UInt8)) :
    dir.writeFiles files ((name, content) :: rest) = (.error (name, fault), middle) := by
  simp only [writeFiles, h]

theorem Site.writeFiles (h : dir.Site home files) {outputs : List (String × List UInt8)}
    (hnames : ∀ output ∈ outputs, IsName output.1) :
    dir.Site home (dir.writeFiles files outputs).2 ∧
      ∀ other, other ≠ dir.currentFile →
        (dir.writeFiles files outputs).2.result home other = files.result home other := by
  induction outputs generalizing files with
  | nil => exact ⟨h, fun _ _ => rfl⟩
  | cons output outputs ih =>
    obtain ⟨name, content⟩ := output
    have hkept := (h.write (hnames _ List.mem_cons_self) content).kept h
    cases hwrite : files.write (dir.fileAt name) content with
    | mk outcome middle =>
      rw [hwrite] at hkept
      obtain ⟨hsite, -, hothers⟩ := hkept
      cases outcome with
      | error fault =>
        rw [writeFiles_cons_of_error hwrite]
        exact ⟨hsite, hothers⟩
      | ok done =>
        rw [writeFiles_cons_of_ok hwrite]
        obtain ⟨hsite', hothers'⟩ := ih hsite fun output hmem => hnames output (.tail _ hmem)
        exact ⟨hsite', fun other hother => (hothers' other hother).trans (hothers other hother)⟩

/-- The files that are written come behind those that are there, in order. -/
theorem Site.writeFiles_fresh (h : dir.Site home files)
    {contents outputs : List (String × List UInt8)}
    (hnames : ∀ output ∈ outputs, IsName output.1)
    (hnodup : ((contents ++ outputs).map Prod.fst).Nodup)
    (hresult : files.result home dir.currentFile = directoryWith contents) :
    ∃ written, written <+: outputs ∧
      (dir.writeFiles files outputs).2.result home dir.currentFile =
        directoryWith (contents ++ written) ∧
      ((dir.writeFiles files outputs).1 = .ok () ↔ written = outputs) := by
  induction outputs generalizing files contents with
  | nil => exact ⟨[], List.prefix_rfl, by rwa [List.append_nil], by simp [ResultDir.writeFiles]⟩
  | cons output outputs ih =>
    obtain ⟨name, content⟩ := output
    have hwrite := h.write (hnames _ List.mem_cons_self) content
    have hnew : name ∉ contents.map Prod.fst := by
      rw [List.map_append, List.map_cons, List.nodup_append] at hnodup
      exact fun hmem => hnodup.2.2 name hmem name List.mem_cons_self rfl
    rcases hwrite.fresh hresult hnew with ⟨fault, heq⟩ | ⟨middle, heq, hmiddle⟩
    · rw [writeFiles_cons_of_error heq]
      exact ⟨[], List.nil_prefix, by simpa using hresult, by simp⟩
    · have hsite := (hwrite.kept h).1
      rw [heq] at hsite
      obtain ⟨written, hpre, hafter, hok⟩ := ih hsite
        (fun output hmem => hnames output (.tail _ hmem)) (by simpa using hnodup) hmiddle
      rw [writeFiles_cons_of_ok heq]
      exact ⟨(name, content) :: written, by simpa using hpre, by simpa using hafter,
        by simpa using hok⟩

/-- The values of a run are one file. -/
theorem writeVars_eq (dir : ResultDir) (context : Context) (files : Files) :
    dir.writeVars context files =
      let outcome := dir.writeFiles files [(varsFile, Utf8.encode context.toJson.toList)]
      (outcome.1.mapError Prod.snd, outcome.2) := by
  rw [writeVars, writeText]
  cases hwrite : files.write (dir.fileAt varsFile) (Utf8.encode context.toJson.toList) with
  | mk outcome after =>
    cases outcome with
    | error fault =>
      rw [writeFiles_cons_of_error hwrite]
      rfl
    | ok done =>
      rw [writeFiles_cons_of_ok hwrite]
      rfl

/-- The files of components, with their values. -/
def valueFiles (context : Context) (components : List Component) :
    List (String × List UInt8) :=
  components.map fun component =>
    (component.name, Utf8.encode ((context.get? component.name).getD "").toList)

theorem writeValues_eq (dir : ResultDir) (context : Context) (files : Files)
    (components : List Component) :
    dir.writeValues context files components =
      let outcome := dir.writeFiles files (valueFiles context components)
      (outcome.1.mapError Prod.snd, outcome.2) := by
  induction components generalizing files with
  | nil => rfl
  | cons component components ih =>
    rw [valueFiles, List.map_cons, ← valueFiles]
    cases hwrite : files.write (dir.fileAt component.name)
        (Utf8.encode ((context.get? component.name).getD "").toList) with
    | mk outcome after =>
      cases outcome with
      | error fault =>
        rw [writeFiles_cons_of_error hwrite]
        simp only [writeValues, writeText, hwrite]
        rfl
      | ok done =>
        rw [writeFiles_cons_of_ok hwrite, ← ih]
        simp only [writeValues, writeText, hwrite]

/-- An action that is told of a result directory writes its files there. -/
theorem writeAll_eq {context : Context} (h : context.resultDir? = some dir.path) (files : Files)
    (outputs : List (String × List UInt8)) :
    Action.Request.writeAll context files outputs =
      let outcome := dir.writeFiles files outputs
      (outcome.1.mapError fun failed => .file (dir.fileAt failed.1) failed.2, outcome.2) := by
  induction outputs generalizing files with
  | nil => rfl
  | cons output outputs ih =>
    obtain ⟨name, content⟩ := output
    cases hwrite : files.write (dir.fileAt name) content with
    | mk outcome after =>
      have hwrite' := hwrite
      rw [fileAt] at hwrite'
      cases outcome with
      | error fault =>
        rw [writeFiles_cons_of_error hwrite]
        simp only [Action.Request.writeAll, Action.writeResult, h, hwrite']
        rfl
      | ok done =>
        rw [writeFiles_cons_of_ok hwrite, ← ih]
        simp only [Action.Request.writeAll, Action.writeResult, h, hwrite']

end ResultDir

end CallSheet
