import CallSheet.Action.Kind
import CallSheet.Proofs.Files.Order
import CallSheet.Proofs.Text.Utf8
import Mathlib.Data.List.Sort

/-!
# Kinds that are found

Which kinds a configuration directory gives, and that the order in which it is listed
makes no difference to them.

There are four groups.

* Files of a kind.  `Qualifies` are the names of the kinds, and `Defines` says what the
  files of a kind make it.
* Loading.  `Readable.load` is one directory, and `exists_loadAll` all of them.
* Order.  Sorted kinds are the same, whatever the order of the listing was
  (`exists_discover`).
* Looking up.  `discover_registry` is about the list of all kinds, and what is found in it.
-/

namespace CallSheet

open Text
open Files (IsName)

/-! ## Files of a kind -/

namespace Files

/-- A directory has a file of a name, perhaps through links. -/
def HoldsFile (files : Files) (place : Place) (name : String) : Prop :=
  ∃ links found content, files.Way links place [name] found (.file content)

/-- A directory has a file of a name with a text. -/
def HoldsText (files : Files) (place : Place) (name text : String) : Prop :=
  ∃ links found, files.Way links place [name] found (.file (Utf8.encode text.toList))

variable {files : Files} {path : String}

theorem isFile_iff : files.isFile path = true ↔
    ∃ found content, files.find true path = .ok (.entry found (.file content)) := by
  rw [isFile, locate]
  cases files.find true path with
  | error fault => simp
  | ok outcome =>
    cases outcome with
    | vacant parent name => simp
    | entry found entry => cases entry <;> simp

/-- The text that is read at a path is the one of the file there. -/
theorem exists_find_of_readText {text : String} (h : files.readText path = .ok text) :
    ∃ found entry, files.find true path = .ok (.entry found entry) ∧
      ∀ content, entry = .file content → content = Utf8.encode text.toList := by
  rw [readText, read, locate] at h
  cases hfind : files.find true path with
  | error fault =>
    rw [hfind] at h
    cases h
  | ok outcome =>
    cases outcome with
    | vacant parent name =>
      rw [hfind] at h
      cases h
    | entry found entry =>
      refine ⟨found, entry, rfl, ?_⟩
      rintro content rfl
      rw [hfind] at h
      cases hdecode : Utf8.decode content with
      | error _ =>
        simp only [hdecode] at h
        cases h
      | ok chars =>
        simp only [hdecode] at h
        rw [← Except.ok.inj h, String.toList_ofList]
        exact Utf8.decode_eq_ok_iff.1 hdecode

end Files

namespace Action.Custom

/-- A directory gives a kind: it is a directory itself and no link to one, and it has
both files that a kind needs. -/
structure Qualifies (files : Files) (place : Place) (name : String) : Prop where
  directory : files.entryAt? (place ++ [name]) = some .directory
  command : files.HoldsFile (place ++ [name]) commandFile
  skeleton : files.HoldsFile (place ++ [name]) skeletonFile

/-- A kind is what the files in the directory of its name say. -/
structure Defines (files : Files) (place : Place) (kind : Custom) : Prop where
  command : files.HoldsText (place ++ [kind.name]) commandFile kind.command
  skeleton : files.HoldsText (place ++ [kind.name]) skeletonFile kind.skeleton
  fields : (∃ text, files.HoldsText (place ++ [kind.name]) fieldsFile text ∧
      kind.fields = fieldsOf text) ∨
    ¬ files.HoldsFile (place ++ [kind.name]) fieldsFile ∧ kind.fields = []

/-- The path of a file of a kind. -/
def pathOf (configDir name file : String) : String :=
  Path.joined (Path.joined configDir name) file

/-- The names of the files that a kind has. -/
def fileNames : List String := [commandFile, skeletonFile, fieldsFile]

/-- A path leads to a configuration directory whose kinds can be read. -/
structure Readable (files : Files) (configDir : String) (place : Place) : Prop where
  located : files.find true configDir = .ok (.entry place .directory)
  once : files.ListsOnce
  /-- The directories in it have names that a path can have. -/
  named : ∀ name, files.entryAt? (place ++ [name]) = some .directory → IsName name
  /-- The files of its kinds are texts. -/
  texts : ∀ name, Qualifies files place name → ∀ file ∈ fileNames,
    files.HoldsFile (place ++ [name]) file →
      ∃ text, files.readText (pathOf configDir name file) = .ok text

variable {files : Files} {configDir name file : String} {place : Place}

theorem isName_of_mem_fileNames (h : file ∈ fileNames) : IsName file := by
  have hall : ∀ file ∈ fileNames, ¬ Files.IsHollow file ∧ file ≠ ".." ∧ '/' ∉ file.toList := by
    decide
  obtain ⟨hhollow, hup, hslash⟩ := hall file h
  exact ⟨hhollow, hup, hslash⟩

/-- The path of a file of a kind leads to an entry in the directory of the kind. -/
theorem Readable.exists_way (h : Readable files configDir place)
    (hdirectory : files.entryAt? (place ++ [name]) = some .directory) (hfile : file ∈ fileNames)
    {found : Place} {entry : Entry}
    (hfind : files.find true (pathOf configDir name file) = .ok (.entry found entry)) :
    ∃ links, files.Way links (place ++ [name]) [file] found entry := by
  have hname := h.named name hdirectory
  have hnames : ∀ part ∈ [name, file], IsName part := by
    simp [hname, isName_of_mem_fileNames hfile]
  obtain ⟨links, hwalk⟩ := Files.exists_find_beneath h.located (by simp) hnames
  have hfind' := (hwalk true).symm.trans hfind
  split at hfind'
  · cases hfind'
  · cases Files.way_of_walk hfind' with
    | hollow _ hhollow => exact absurd hhollow hname.not_hollow
    | up => exact absurd rfl hname.ne_up
    | into _ _ _ _ way => exact ⟨_, way⟩
    | link _ _ hlink =>
      rw [hdirectory] at hlink
      cases hlink

/-- A file at the path of a file of a kind is in the directory of the kind. -/
theorem Readable.holdsFile (h : Readable files configDir place)
    (hdirectory : files.entryAt? (place ++ [name]) = some .directory) (hfile : file ∈ fileNames)
    (hisFile : files.isFile (pathOf configDir name file) = true) :
    files.HoldsFile (place ++ [name]) file := by
  obtain ⟨found, content, hfind⟩ := Files.isFile_iff.1 hisFile
  obtain ⟨links, way⟩ := h.exists_way hdirectory hfile hfind
  exact ⟨links, found, content, way⟩

/-- A file of a kind is at its path, and its text is read there. -/
theorem Readable.readFile (h : Readable files configDir place)
    (hname : Qualifies files place name) (hfile : file ∈ fileNames)
    (hholds : files.HoldsFile (place ++ [name]) file) :
    files.isFile (pathOf configDir name file) = true ∧
      ∃ text, Custom.readFile files (pathOf configDir name file) = .ok text ∧
        files.HoldsText (place ++ [name]) file text := by
  obtain ⟨text, htext⟩ := h.texts name hname file hfile hholds
  obtain ⟨found, entry, hfind, hentry⟩ := Files.exists_find_of_readText htext
  obtain ⟨links, way⟩ := h.exists_way hname.directory hfile hfind
  obtain ⟨_, _, content, way'⟩ := hholds
  obtain ⟨rfl, rfl⟩ := way.unique way'
  obtain rfl := hentry content rfl
  exact ⟨Files.isFile_iff.2 ⟨_, _, hfind⟩, text, by rw [Custom.readFile, htext], links, _, way⟩

/-! ## Loading -/

/-- The fields of a kind are read. -/
theorem Readable.readFields (h : Readable files configDir place)
    (hname : Qualifies files place name) :
    ∃ fields, Custom.readFields files (Path.joined configDir name) = .ok fields ∧
      ((∃ text, files.HoldsText (place ++ [name]) fieldsFile text ∧ fields = fieldsOf text) ∨
        ¬ files.HoldsFile (place ++ [name]) fieldsFile ∧ fields = []) := by
  have hfile : fieldsFile ∈ fileNames := by decide
  by_cases hholds : files.HoldsFile (place ++ [name]) fieldsFile
  · obtain ⟨hisFile, text, hread, htext⟩ := h.readFile hname hfile hholds
    refine ⟨fieldsOf text, ?_, .inl ⟨text, htext, rfl⟩⟩
    rw [pathOf] at hisFile hread
    simp only [Custom.readFields, hisFile, ↓reduceIte, hread, Except.map]
  · refine ⟨[], ?_, .inr ⟨hholds, rfl⟩⟩
    exact if_neg fun hisFile => hholds (h.holdsFile hname.directory hfile hisFile)

/-- A directory that gives a kind is loaded as this kind, and another one as none. -/
theorem Readable.load (h : Readable files configDir place)
    (hdirectory : files.entryAt? (place ++ [name]) = some .directory) :
    (∃ kind, Custom.load files name (Path.joined configDir name) = .ok (some kind) ∧
        kind.name = name ∧ Qualifies files place name ∧ Defines files place kind) ∨
      Custom.load files name (Path.joined configDir name) = .ok none ∧
        ¬ Qualifies files place name := by
  have hcommandName : commandFile ∈ fileNames := by decide
  have hskeletonName : skeletonFile ∈ fileNames := by decide
  by_cases hname : Qualifies files place name
  · obtain ⟨hcommandFile, command, hcommand, hcommandText⟩ :=
      h.readFile hname hcommandName hname.command
    obtain ⟨hskeletonFile, skeleton, hskeleton, hskeletonText⟩ :=
      h.readFile hname hskeletonName hname.skeleton
    obtain ⟨fields, hfields, hdefines⟩ := h.readFields hname
    rw [pathOf] at hcommandFile hcommand hskeletonFile hskeleton
    refine .inl ⟨⟨name, command, skeleton, fields⟩, ?_, rfl, hname, hcommandText, hskeletonText,
      hdefines⟩
    simp only [Custom.load, hcommandFile, hskeletonFile, Bool.and_self, ↓reduceIte, hfields,
      hcommand, hskeleton]
    rfl
  · refine .inr ⟨if_neg fun hboth => hname ?_, hname⟩
    obtain ⟨hcommandFile, hskeletonFile⟩ := Bool.and_eq_true_iff.1 hboth
    exact ⟨hdirectory, h.holdsFile hdirectory hcommandName hcommandFile,
      h.holdsFile hdirectory hskeletonName hskeletonFile⟩

/-- The directory of its name is loaded as a kind. -/
def Gives (files : Files) (configDir : String) (kind : Custom) : Prop :=
  Custom.load files kind.name (Path.joined configDir kind.name) = .ok (some kind)

/-- A kind that its directory gives has the files that define it. -/
theorem Readable.of_gives (h : Readable files configDir place) {kind : Custom}
    (hdirectory : files.entryAt? (place ++ [kind.name]) = some .directory)
    (hgives : Gives files configDir kind) :
    Qualifies files place kind.name ∧ Defines files place kind := by
  rcases h.load hdirectory with ⟨known, hload, -, hname, hdefines⟩ | ⟨hnone, -⟩
  · rw [Gives, hload] at hgives
    cases hgives
    exact ⟨hname, hdefines⟩
  · rw [Gives, hnone] at hgives
    cases hgives

theorem Readable.exists_gives (h : Readable files configDir place)
    (hname : Qualifies files place name) :
    ∃ kind, kind.name = name ∧ Gives files configDir kind := by
  rcases h.load hname.directory with ⟨kind, hload, rfl, -⟩ | ⟨-, hnot⟩
  · exact ⟨kind, rfl, hload⟩
  · exact absurd hname hnot

/-- Directories are loaded one after the other, and the kinds are those that they give. -/
theorem Readable.exists_loadAll (h : Readable files configDir place) {names : List String}
    (hnames : ∀ name ∈ names, files.entryAt? (place ++ [name]) = some .directory) :
    ∃ kinds, loadAll files configDir names = .ok kinds ∧ (kinds.map Custom.name).Sublist names ∧
      ∀ kind, kind ∈ kinds ↔ kind.name ∈ names ∧ Gives files configDir kind := by
  induction names with
  | nil => exact ⟨[], rfl, .slnil, by simp⟩
  | cons name names ih =>
    obtain ⟨kinds, hload, hsublist, hmem⟩ := ih fun name hname => hnames name (.tail _ hname)
    rcases h.load (hnames name List.mem_cons_self) with ⟨kind, hkind, rfl, -⟩ | ⟨hnone, -⟩
    · refine ⟨kind :: kinds, by simp only [loadAll, hkind, hload]; rfl, hsublist.cons_cons _, ?_⟩
      intro other
      rw [List.mem_cons, List.mem_cons, hmem]
      constructor
      · rintro (rfl | ⟨hname, hgives⟩)
        · exact ⟨.inl rfl, hkind⟩
        · exact ⟨.inr hname, hgives⟩
      · rintro ⟨hname | hname, hgives⟩
        · rw [Gives, hname, hkind] at hgives
          exact .inl (Option.some.inj (Except.ok.inj hgives)).symm
        · exact .inr ⟨hname, hgives⟩
    · refine ⟨kinds, by simp only [loadAll, hnone, hload]; rfl, hsublist.cons _, ?_⟩
      intro other
      rw [List.mem_cons, hmem]
      constructor
      · rintro ⟨hname, hgives⟩
        exact ⟨.inr hname, hgives⟩
      · rintro ⟨rfl | hname, hgives⟩
        · rw [Gives, hnone] at hgives
          cases hgives
        · exact ⟨hname, hgives⟩

/-! ## Order -/

variable {other : Files}

theorem mem_directories {entries : List (String × Entry)} :
    name ∈ directories entries ↔ (name, .directory) ∈ entries := by
  simp [directories, List.mem_filterMap]

theorem nodup_directories {entries : List (String × Entry)} (h : (entries.map Prod.fst).Nodup) :
    (directories entries).Nodup := by
  rw [List.Nodup, directories, List.pairwise_filterMap]
  refine (List.pairwise_map.1 h).imp ?_
  rintro ⟨name, entry⟩ ⟨name', entry'⟩ hne found hfound found' hfound' rfl
  simp only [Option.ite_none_right_eq_some, Option.some.injEq] at hfound hfound'
  exact hne (hfound.2.trans hfound'.2.symm)

/-- Kinds in the order of their names. -/
abbrev Ascending (kinds : List Custom) : Prop := kinds.Pairwise fun a b => a.name < b.name

/-- Kinds of different names are put into the order of their names. -/
theorem ascending_mergeSort {kinds : List Custom} (h : (kinds.map Custom.name).Nodup) :
    Ascending (kinds.mergeSort fun a b => a.name ≤ b.name) := by
  have hsorted : (kinds.mergeSort fun a b => a.name ≤ b.name).Pairwise fun a b =>
      decide (a.name ≤ b.name) = true := by
    refine List.pairwise_mergeSort (fun a b c hab hbc => ?_) (fun a b => ?_) kinds
    · exact decide_eq_true (String.le_trans (of_decide_eq_true hab) (of_decide_eq_true hbc))
    · simpa using String.le_total a.name b.name
  have hperm := List.mergeSort_perm kinds fun a b => a.name ≤ b.name
  have hdistinct := List.pairwise_map.1 ((hperm.map Custom.name).nodup_iff.2 h)
  refine (hsorted.and hdistinct).imp ?_
  rintro a b ⟨hle, hne⟩
  exact Std.lt_of_le_of_ne (of_decide_eq_true hle) hne

/-- Only one list has some kinds in the order of their names. -/
theorem Ascending.unique {kinds kinds' : List Custom} (h : Ascending kinds)
    (h' : Ascending kinds') (hmem : ∀ kind, kind ∈ kinds ↔ kind ∈ kinds') : kinds = kinds' := by
  have hirrefl : Std.Irrefl fun a b : Custom => a.name < b.name := ⟨fun a => String.lt_irrefl _⟩
  have hantisymm : Std.Antisymm fun a b : Custom => a.name < b.name :=
    ⟨fun a b hab hba => absurd hba (String.lt_asymm hab)⟩
  exact List.Pairwise.eq_of_mem_iff h h' hmem

/-- A directory is loaded in the same way. -/
theorem load_of_reordered (h : files.Reordered other) (honce : files.ListsOnce) :
    Custom.load other = Custom.load files := by
  have hlocate : other.locate = files.locate := by
    funext path
    rw [Files.locate, Files.locate, h.find_eq honce]
  have hisFile : other.isFile = files.isFile := by
    funext path
    rw [Files.isFile, Files.isFile, hlocate]
  have hreadFile : Custom.readFile other = Custom.readFile files := by
    funext path
    rw [Custom.readFile, Custom.readFile, Files.readText, Files.readText, Files.read, Files.read,
      hlocate]
  funext name dir
  unfold Custom.load Custom.readFields
  rw [hisFile, hreadFile]

theorem loadAll_of_reordered (h : files.Reordered other) (honce : files.ListsOnce)
    (names : List String) : loadAll other configDir names = loadAll files configDir names := by
  induction names with
  | nil => rfl
  | cons name names ih => rw [loadAll, loadAll, load_of_reordered h honce, ih]

/-- In whatever order a directory is listed, the kinds that are found in it are those that
its directories give, in the order of their names. -/
theorem Readable.exists_discover (h : Readable files configDir place)
    (hother : files.Reordered other) :
    ∃ kinds, Custom.discover other configDir = .ok kinds ∧ Ascending kinds ∧
      ∀ kind, kind ∈ kinds ↔ files.entryAt? (place ++ [kind.name]) = some .directory ∧
        Gives files configDir kind := by
  have honce := hother.listsOnce h.once
  have hlocate : other.locate configDir = .ok (place, .directory) := by
    rw [Files.locate, hother.find_eq h.once, h.located]
  have hdirectories : ∀ name, name ∈ directories (other.childrenAt place) ↔
      files.entryAt? (place ++ [name]) = some .directory := by
    intro name
    rw [mem_directories, Files.mem_childrenAt, ← honce.entryAt?_eq_some_iff (by simp),
      hother.entryAt?_eq h.once]
  obtain ⟨kinds, hload, hsublist, hmem⟩ := h.exists_loadAll fun name => (hdirectories name).1
  have hnodup := (nodup_directories (honce.nodup_childrenAt place)).sublist hsublist
  refine ⟨_, ?_, ascending_mergeSort hnodup, fun kind => ?_⟩
  · simp only [Custom.discover, Files.isDirectory, Files.list, hlocate, ↓reduceIte,
      loadAll_of_reordered hother h.once, hload, Except.map]
  · rw [List.mem_mergeSort, hmem, hdirectories]

/-! ## Looking up -/

/-- The kinds that the directories in a configuration directory define. -/
structure Registered (files : Files) (place : Place) (kinds : List Custom) : Prop where
  ascending : Ascending kinds
  /-- Every directory that gives a kind gives one of them, and nothing else does. -/
  names : ∀ name, name ∈ kinds.map Custom.name ↔ Qualifies files place name
  defines : ∀ kind ∈ kinds, Defines files place kind

/-- The kinds that are found are those that the directories define, in whatever order the
entries are listed. -/
theorem Readable.exists_registered (h : Readable files configDir place) :
    ∃ kinds, Registered files place kinds ∧
      ∀ other, files.Reordered other → Custom.discover other configDir = .ok kinds := by
  obtain ⟨kinds, -, hascending, hmem⟩ := h.exists_discover (.refl files)
  refine ⟨kinds, ⟨hascending, fun name => ?_, fun kind hkind => ?_⟩, fun other hother => ?_⟩
  · rw [List.mem_map]
    constructor
    · rintro ⟨kind, hkind, rfl⟩
      obtain ⟨hdirectory, hgives⟩ := (hmem kind).1 hkind
      exact (h.of_gives hdirectory hgives).1
    · intro hname
      obtain ⟨kind, rfl, hgives⟩ := h.exists_gives hname
      exact ⟨kind, (hmem kind).2 ⟨hname.directory, hgives⟩, rfl⟩
  · obtain ⟨hdirectory, hgives⟩ := (hmem kind).1 hkind
    exact (h.of_gives hdirectory hgives).2
  · obtain ⟨kinds', hdiscover, hascending', hmem'⟩ := h.exists_discover hother
    rw [hdiscover, hascending.unique hascending' fun kind => by rw [hmem, hmem']]

end Action.Custom

namespace Action.Kind

open Custom

/-- The kind that a name has in a list of all kinds: the one that is always there, or the
one that a directory defines, or none. -/
structure Finds (files : Files) (place : Place) (kinds : List Custom) (name : String) :
    Prop where
  http : name = "http" → find (builtin ++ kinds.map .custom) name = .ok .http
  sh : name = "sh" → find (builtin ++ kinds.map .custom) name = .ok .sh
  custom : name ≠ "http" → name ≠ "sh" → Qualifies files place name →
    ∃ kind ∈ kinds, kind.name = name ∧
      find (builtin ++ kinds.map .custom) name = .ok (.custom kind)
  unknown : name ≠ "http" → name ≠ "sh" → ¬ Qualifies files place name →
    find (builtin ++ kinds.map .custom) name = .error (.unknownAction name)

variable {files : Files} {configDir name : String} {place : Place} {kinds : List Custom}

/-- A name that is not one of a kind that is always there is looked for in the others. -/
theorem find?_of_ne (hhttp : name ≠ "http") (hsh : name ≠ "sh") :
    (builtin ++ kinds.map Kind.custom).find? (·.name == name) =
      (kinds.find? (·.name == name)).map Kind.custom := by
  have hbuiltin : builtin.find? (·.name == name) = none := by
    simp [builtin, Kind.name, hhttp.symm, hsh.symm]
  rw [List.find?_append, hbuiltin, Option.none_or, List.find?_map]
  rfl

/-- Every name is found as the kind that it has. -/
theorem finds_of_registered (h : Registered files place kinds) (name : String) :
    Finds files place kinds name where
  http := by
    rintro rfl
    rfl
  sh := by
    rintro rfl
    rfl
  custom hhttp hsh hname := by
    obtain ⟨known, hknown, rfl⟩ := List.mem_map.1 ((h.names name).2 hname)
    cases hfind : kinds.find? (·.name == known.name) with
    | none => exact absurd (beq_self_eq_true known.name) (List.find?_eq_none.1 hfind known hknown)
    | some kind =>
      refine ⟨kind, List.mem_of_find?_eq_some hfind, by simpa using List.find?_some hfind, ?_⟩
      rw [find, find?_of_ne hhttp hsh, hfind, Option.map_some]
  unknown hhttp hsh hname := by
    have hnone : kinds.find? (·.name == name) = none := by
      refine List.find?_eq_none.2 fun kind hkind hsame => hname ?_
      exact (h.names name).1 (List.mem_map.2 ⟨kind, hkind, beq_iff_eq.1 hsame⟩)
    rw [find, find?_of_ne hhttp hsh, hnone, Option.map_none]

/-- The list of all kinds has those that are always there and then those that the
directories define, in the order of their names, in whatever order the entries are listed.
What is found under a name is never another kind than the one that is always there. -/
theorem discover_registry (h : Readable files configDir place) :
    ∃ kinds, Registered files place kinds ∧
      (∀ other, files.Reordered other →
        discover other configDir = .ok (builtin ++ kinds.map .custom)) ∧
      ∀ name, Finds files place kinds name := by
  obtain ⟨kinds, hregistered, hdiscover⟩ := h.exists_registered
  refine ⟨kinds, hregistered, fun other hother => ?_, finds_of_registered hregistered⟩
  rw [discover, hdiscover other hother]
  rfl

/-! ### A directory with five names -/

/-- A configuration directory with two kinds, one of which has the name of one that is
always there, a directory without a command, a link to a kind and a file. -/
def fiveFiles : Files :=
  ⟨[(["conf"], .directory), (["conf", "ping"], .directory),
    (["conf", "ping", "run.tmpl"], .file (Utf8.encode "ping".toList)),
    (["conf", "ping", "new_api.md"], .file (Utf8.encode "# New".toList)),
    (["conf", "ping", "vars"], .file (Utf8.encode "host".toList)),
    (["conf", "http"], .directory), (["conf", "http", "run.tmpl"], .link "../ping/run.tmpl"),
    (["conf", "http", "new_api.md"], .file (Utf8.encode "# Web".toList)),
    (["conf", "bare"], .directory), (["conf", "bare", "new_api.md"], .file []),
    (["conf", "alias"], .link "ping"), (["conf", "note"], .file [])], []⟩

theorem readText_fiveFiles :
    ∀ known ∈ [("ping", "run.tmpl", "ping"), ("ping", "new_api.md", "# New"),
        ("ping", "vars", "host"), ("http", "run.tmpl", "ping"), ("http", "new_api.md", "# Web")],
      fiveFiles.readText (pathOf "conf" known.1 known.2.1) = .ok known.2.2 := by
  decide +kernel

theorem readable_fiveFiles : Readable fiveFiles "conf" ["conf"] := by
  have honce : fiveFiles.ListsOnce := by
    rw [Files.ListsOnce]
    decide
  have hnames : ∀ name, fiveFiles.entryAt? (["conf"] ++ [name]) = some .directory →
      name = "ping" ∨ name = "http" ∨ name = "bare" := by
    intro name hdirectory
    rw [honce.entryAt?_eq_some_iff (by simp)] at hdirectory
    simpa [fiveFiles] using hdirectory
  refine ⟨by decide +kernel, honce, ?_, ?_⟩
  · intro name hdirectory
    rcases hnames name hdirectory with rfl | rfl | rfl <;>
      exact ⟨by decide, by decide, by decide⟩
  · intro name hname file hfile hholds
    simp only [fileNames, List.mem_cons, List.not_mem_nil, or_false] at hfile
    rcases hnames name hname.directory with rfl | rfl | rfl
    · rcases hfile with rfl | rfl | rfl
      · exact ⟨_, readText_fiveFiles ("ping", "run.tmpl", "ping") (by simp)⟩
      · exact ⟨_, readText_fiveFiles ("ping", "new_api.md", "# New") (by simp)⟩
      · exact ⟨_, readText_fiveFiles ("ping", "vars", "host") (by simp)⟩
    · rcases hfile with rfl | rfl | rfl
      · exact ⟨_, readText_fiveFiles ("http", "run.tmpl", "ping") (by simp)⟩
      · exact ⟨_, readText_fiveFiles ("http", "new_api.md", "# Web") (by simp)⟩
      · -- There are no fields.
        obtain ⟨links, found, content, way⟩ := hholds
        exact absurd (by decide) (way.entryAt?_ne_none ⟨by decide, by decide, by decide⟩)
    · -- There is no command.
      obtain ⟨links, found, content, way⟩ := hname.command
      exact absurd (by decide) (way.entryAt?_ne_none ⟨by decide, by decide, by decide⟩)

/-- The kinds in the directory are found in it, in any order of its entries. -/
theorem discover_registry_five :
    Readable fiveFiles "conf" ["conf"] ∧
      ∃ kinds, Registered fiveFiles ["conf"] kinds ∧
        (∀ other, fiveFiles.Reordered other →
          discover other "conf" = .ok (builtin ++ kinds.map .custom)) ∧
        ∀ name, Finds fiveFiles ["conf"] kinds name :=
  ⟨readable_fiveFiles, discover_registry readable_fiveFiles⟩

end Action.Kind

end CallSheet
