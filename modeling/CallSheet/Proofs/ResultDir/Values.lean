import CallSheet.Proofs.Document.Loaded
import CallSheet.Proofs.Resolve.Written
import CallSheet.Proofs.ResultDir.Write

/-!
# The values in a result directory

What writing the values of a document's components does to the files, whatever way leads
to the directory.

There are four groups.

* Overwriting.  `Files.overwrite` is what a write changes where it may write.  What was
  written is read (`Files.read_of_write`), and `Files.Stores` says what some files look
  like after others were written to a directory.
* One file.  `ResultDir.Receives` says that files can be written under some names.
  `Receives.write` is one write, and `Receives.overwrite` says that the others are still
  possible after it.
* Many files.  `Receives.writeFiles` writes up to the first name that is too long.
* The whole.  `writeAfter_stores` puts this together with what reading says about the
  names and resolving about the values.
-/

namespace CallSheet

open Files (IsName)
open Text

/-! ## Overwriting -/

namespace Files

variable {files : Files} {place other : Place} {content : List UInt8}
  {outputs : List (String × List UInt8)}

/-- The files after a write to a place.  What takes everything and keeps nothing stays. -/
def overwrite (files : Files) (place : Place) (content : List UInt8) : Files :=
  if files.entryAt? place = some .sink then files else files.put place (.file content)

/-- The files after writes to names in a directory, one after the other. -/
def overwriteAll (files : Files) (place : Place) (outputs : List (String × List UInt8)) : Files :=
  outputs.foldl (fun files output => files.overwrite (place ++ [output.1]) output.2) files

@[simp] theorem here_overwrite (files : Files) (place : Place) (content : List UInt8) :
    (files.overwrite place content).here = files.here := by
  unfold overwrite
  split <;> simp

theorem entryAt?_overwrite (hplace : place ≠ []) (files : Files) (content : List UInt8)
    (other : Place) :
    (files.overwrite place content).entryAt? other =
      if other = place ∧ files.entryAt? place ≠ some .sink then some (.file content)
      else files.entryAt? other := by
  unfold overwrite
  by_cases hsink : files.entryAt? place = some .sink
  · rw [if_pos hsink, if_neg fun h => h.2 hsink]
  · rw [if_neg hsink, entryAt?_put hplace]
    simp [hsink]

/-- A write changes nothing but a file, if it is not to a directory or a link. -/
theorem frameWithin_overwrite (hplace : place ≠ [])
    (hdirectory : files.entryAt? place ≠ some .directory)
    (hlink : ∀ target, files.entryAt? place ≠ some (.link target)) (content : List UInt8) :
    files.FrameWithin (files.overwrite place content) := by
  intro other entry hentry hthere
  rw [entryAt?_overwrite hplace, if_neg, hthere]
  rintro ⟨rfl, hsink⟩
  cases entry with
  | file known => exact hentry known rfl
  | directory => exact hdirectory hthere
  | link target => exact hlink target hthere
  | sink => exact hsink hthere

/-- A path to a file leads to it also with another content. -/
theorem find_put_file {path : String} {known : List UInt8}
    (hfound : files.find true path = .ok (.entry place (.file known))) (content : List UInt8) :
    (files.put place (.file content)).find true path = .ok (.entry place (.file content)) := by
  obtain ⟨haccepted, hway⟩ := find_entry_iff.1 hfound
  have hknown := hway.entryAt?_eq
  have hplace : place ≠ [] := by
    rintro rfl
    simp at hknown
  have hframe : files.FrameWithin (files.overwrite place content) :=
    frameWithin_overwrite hplace (by simp [hknown]) (by simp [hknown]) content
  rw [overwrite, if_neg (by simp [hknown])] at hframe
  have hthere : (files.put place (.file content)).entryAt? place = some (.file content) := by
    rw [entryAt?_put hplace, if_pos rfl]
  rw [find_entry_iff, start, here_put]
  exact ⟨haccepted, hway.file_frame hframe hthere⟩

/-- A path to where an entry is missing leads to the file that is put there. -/
theorem find_put_vacant {path name : String}
    (hfound : files.find true path = .ok (.vacant place name)) (content : List UInt8) :
    (files.put (place ++ [name]) (.file content)).find true path =
      .ok (.entry (place ++ [name]) (.file content)) := by
  obtain ⟨haccepted, hwalk⟩ := find_vacant_iff.1 hfound
  have hnone := entryAt?_of_walk_vacant hwalk
  have hput := entryAt?_put (List.concat_ne_nil name place) files (.file content)
  have hwithin : files.Within (files.put (place ++ [name]) (.file content)) := by
    intro other entry hentry
    rw [hput, if_neg, hentry]
    rintro rfl
    rw [hnone] at hentry
    cases hentry
  have hthere := hput (place ++ [name])
  rw [if_pos rfl] at hthere
  rw [find_entry_iff, start, here_put]
  exact ⟨haccepted, way_of_walk_vacant hwithin hthere (by simp) hwalk⟩

/-- What was written to a file is read from it, unless something else that can be written
to was at the path. -/
theorem read_of_write {path : String} {after : Files}
    (hfile : files.has path = true → files.isFile path = true)
    (h : files.write path content = (.ok (), after)) : after.read path = .ok content := by
  have hread : ∀ {place}, after.find true path = .ok (.entry place (.file content)) →
      after.read path = .ok content := fun hfound => by rw [read, locate, hfound]
  rw [write, writeWith] at h
  split at h
  · split at h <;> cases h
  split at h
  · next place known hfound =>
    obtain rfl := (Prod.mk.inj h).2
    exact hread (find_put_file hfound content)
  · cases h
  · next place entry hnofile hnodirectory hfound =>
    -- Here the write keeps nothing, because there is no file at the path.
    have hisFile := hfile (by rw [has, locate, hfound])
    rw [isFile, locate, hfound] at hisFile
    cases entry with
    | file content => exact absurd rfl (hnofile content)
    | directory | link | sink => cases hisFile
  · next parent name hfound =>
    obtain rfl := (Prod.mk.inj h).2
    exact hread (find_put_vacant hfound content)
  · cases h

/-- Files were written to names in a directory, and nothing else has changed. -/
structure Stores (place : Place) (outputs : List (String × List UInt8)) (before after : Files) :
    Prop where
  /-- The files were written one after the other. -/
  eq : after = before.overwriteAll place outputs
  /-- No file was written twice. -/
  once : (outputs.map Prod.fst).Nodup
  /-- Each of them is there, except in the place of what keeps nothing. -/
  held : ∀ output ∈ outputs, before.entryAt? (place ++ [output.1]) ≠ some .sink →
    after.entryAt? (place ++ [output.1]) = some (.file output.2)
  sink : ∀ other, before.entryAt? other = some .sink → after.entryAt? other = some .sink
  /-- Everything else is as it was. -/
  kept : ∀ other, (∀ output ∈ outputs, other ≠ place ++ [output.1]) →
    after.entryAt? other = before.entryAt? other

theorem stores_overwriteAll (honce : (outputs.map Prod.fst).Nodup) (files : Files)
    (place : Place) : Stores place outputs files (files.overwriteAll place outputs) := by
  induction outputs generalizing files with
  | nil => exact ⟨rfl, List.nodup_nil, by simp, fun _ h => h, fun _ _ => rfl⟩
  | cons output outputs ih =>
    obtain ⟨hnew, hrest⟩ := List.nodup_cons.1 honce
    have hne : place ++ [output.1] ≠ [] := by simp
    have hfirst := entryAt?_overwrite hne files output.2
    have hstores := ih hrest (files.overwrite (place ++ [output.1]) output.2)
    -- The later names are others, so what the first write leaves there stays.
    have hlater : ∀ later ∈ outputs, place ++ [later.1] ≠ place ++ [output.1] := by
      intro later hmem heq
      have hsame : later.1 = output.1 := by simpa using heq
      exact hnew (hsame ▸ List.mem_map_of_mem hmem)
    refine ⟨rfl, honce, ?_, ?_, ?_⟩
    · intro stored hmem hsink
      rcases List.mem_cons.1 hmem with rfl | hmem
      · refine (hstores.kept _ fun later hmem => (hlater later hmem).symm).trans ?_
        rw [hfirst, if_pos ⟨rfl, hsink⟩]
      · refine hstores.held stored hmem ?_
        rwa [hfirst, if_neg fun h => hlater stored hmem h.1]
    · intro other hsink
      refine hstores.sink other ?_
      rw [hfirst, if_neg, hsink]
      rintro ⟨rfl, hne⟩
      exact hne hsink
    · intro other hother
      refine (hstores.kept other fun later hmem => hother later (.tail _ hmem)).trans ?_
      rw [hfirst, if_neg fun h => hother output List.mem_cons_self h.1]

end Files

namespace ResultDir

variable {dir : ResultDir} {place : Place} {names : List String} {name : String} {files : Files}
  {outputs : List (String × List UInt8)}

/-! ## One file -/

/-- Whether a name and its path in the directory are short enough for the system. -/
def accepts (dir : ResultDir) (name : String) : Bool :=
  Files.width name ≤ Files.longestName && Files.width (dir.fileAt name) ≤ Files.longestPath

theorem accepts_iff : dir.accepts name = true ↔
    Files.width name ≤ Files.longestName ∧ Files.width (dir.fileAt name) ≤ Files.longestPath := by
  simp [accepts]

/-- There is a directory at the path, and none of some names is that of a directory or a
link in it. -/
structure Receives (dir : ResultDir) (place : Place) (names : List String) (files : Files) :
    Prop where
  found : files.find true dir.path = .ok (.entry place .directory)
  no_directory : ∀ name ∈ names, files.entryAt? (place ++ [name]) ≠ some .directory
  no_link : ∀ name ∈ names, ∀ target, files.entryAt? (place ++ [name]) ≠ some (.link target)

theorem nul_not_mem_of_isName (h : isName name.toList = true) : '\x00' ∉ name.toList := by
  intro hmem
  rw [isName, Bool.and_eq_true] at h
  exact absurd (List.all_eq_true.1 h.2 _ hmem) (by decide)

/-- In the directory a name that is accepted leads to what is under it. -/
theorem Receives.find_fileAt (h : dir.Receives place names files) (hmem : name ∈ names)
    (hname : isName name.toList = true) :
    files.find true (dir.fileAt name) =
      if dir.accepts name then
        match files.entryAt? (place ++ [name]) with
        | some entry => .ok (.entry (place ++ [name]) entry)
        | none => .ok (.vacant place name)
      else .error .tooLong := by
  have hplain := Files.isName_of_isName hname
  have haccepted := (Files.find_entry_iff.1 h.found).1
  have hlinks : ∀ below, below <+: [name] → below ≠ [] →
      ∀ target, files.entryAt? (place ++ below) ≠ some (.link target) := by
    intro below hbelow hne
    obtain rfl | ⟨rest, rfl, hrest⟩ := List.prefix_cons_iff.1 hbelow
    · exact absurd rfl hne
    · rw [List.prefix_nil.1 hrest]
      exact h.no_link name hmem
  have hfind := Files.find_beneath h.found (List.cons_ne_nil name []) (by simpa using hplain)
    hlinks true
  have hbeneath : Path.beneath dir.path [name] = Path.joined dir.path name := rfl
  rw [hbeneath, Files.refusal?_joined haccepted hplain (nul_not_mem_of_isName hname),
    Files.descend_singleton (Files.entryAt?_of_find h.found)] at hfind
  change files.find true (dir.fileAt name) = _ at hfind
  by_cases hpath : Files.longestPath < Files.width (Path.joined dir.path name)
  · have hno : ¬ dir.accepts name = true := fun hyes =>
      Nat.not_lt.2 (accepts_iff.1 hyes).2 hpath
    rw [hfind, if_pos hpath, if_neg hno]
  rw [if_neg hpath] at hfind
  by_cases hshort : Files.longestName < Files.width name
  · have hno : ¬ dir.accepts name = true := fun hyes =>
      Nat.not_lt.2 (accepts_iff.1 hyes).1 hshort
    rw [if_neg hno]
    exact hfind.trans (if_pos hshort)
  · have hyes : dir.accepts name = true :=
      accepts_iff.2 ⟨Nat.le_of_not_lt hshort, Nat.le_of_not_lt hpath⟩
    rw [if_pos hyes]
    exact hfind.trans (if_neg hshort)

/-- A write under a name overwrites what is there, unless the name is too long. -/
theorem Receives.write (h : dir.Receives place names files) (hmem : name ∈ names)
    (hname : isName name.toList = true) (content : List UInt8) :
    files.write (dir.fileAt name) content =
      if dir.accepts name then (.ok (), files.overwrite (place ++ [name]) content)
      else (.error .tooLong, files) := by
  have hplain := Files.isName_of_isName hname
  have hfind := h.find_fileAt hmem hname
  rw [fileAt] at hfind ⊢
  rw [write_joined (Files.ne_empty_of_find h.found) hplain, hfind]
  by_cases haccepts : dir.accepts name = true
  · rw [if_pos haccepts, if_pos haccepts, Files.overwrite]
    cases hentry : files.entryAt? (place ++ [name]) with
    | none => rfl
    | some entry =>
      cases entry with
      | directory => exact absurd hentry (h.no_directory name hmem)
      | link target => exact absurd hentry (h.no_link name hmem target)
      | file known => rfl
      | sink => rfl
  · rw [if_neg haccepts, if_neg haccepts]

/-- After a write under one of the names, all of them can still be written to. -/
theorem Receives.overwrite (h : dir.Receives place names files) (hmem : name ∈ names)
    (content : List UInt8) :
    dir.Receives place names (files.overwrite (place ++ [name]) content) where
  found := by
    have hframe := Files.frameWithin_overwrite (by simp) (h.no_directory name hmem)
      (h.no_link name hmem) content
    exact Files.find_frame hframe (Files.here_overwrite _ _ _) h.found
  no_directory other hother := by
    rw [Files.entryAt?_overwrite (by simp)]
    split
    · simp
    · exact h.no_directory other hother
  no_link other hother target := by
    rw [Files.entryAt?_overwrite (by simp)]
    split
    · simp
    · exact h.no_link other hother target

/-! ## Many files -/

/-- Files are written up to the first name that is too long. -/
theorem Receives.writeFiles (h : dir.Receives place names files)
    (hmem : ∀ output ∈ outputs, output.1 ∈ names)
    (hnames : ∀ output ∈ outputs, isName output.1.toList = true) :
    (dir.writeFiles files outputs).1.mapError Prod.snd =
        (if outputs.all (fun output => dir.accepts output.1) then .ok () else .error .tooLong) ∧
      (dir.writeFiles files outputs).2 =
        files.overwriteAll place (outputs.takeWhile fun output => dir.accepts output.1) := by
  induction outputs generalizing files with
  | nil => exact ⟨rfl, rfl⟩
  | cons output outputs ih =>
    obtain ⟨name, content⟩ := output
    have hwrite := h.write (hmem _ List.mem_cons_self) (hnames _ List.mem_cons_self) content
    by_cases haccepts : dir.accepts name = true
    · rw [if_pos haccepts] at hwrite
      obtain ⟨hresult, hfiles⟩ := ih (h.overwrite (hmem _ List.mem_cons_self) content)
        (fun output hmem' => hmem output (.tail _ hmem'))
        (fun output hmem' => hnames output (.tail _ hmem'))
      rw [writeFiles_cons_of_ok hwrite, List.all_cons, haccepts, Bool.true_and,
        List.takeWhile_cons_of_pos (by exact haccepts)]
      exact ⟨hresult, hfiles⟩
    · rw [if_neg haccepts] at hwrite
      rw [writeFiles_cons_of_error hwrite, List.all_cons, Bool.eq_false_iff.2 haccepts,
        Bool.false_and, List.takeWhile_cons_of_neg (by exact haccepts)]
      exact ⟨rfl, rfl⟩

/-- Values are written up to the first name that is too long. -/
theorem Receives.writeValues {components : List Component}
    (h : dir.Receives place (components.map Component.name) files)
    (hnames : ∀ component ∈ components, isName component.name.toList = true)
    (honce : (components.map Component.name).Nodup) (context : Context) :
    (dir.writeValues context files components).1 =
        (if components.all (fun component => dir.accepts component.name) then .ok ()
          else .error .tooLong) ∧
      Files.Stores place
        (valueFiles context (components.takeWhile fun component => dir.accepts component.name))
        files (dir.writeValues context files components).2 := by
  have hname : ∀ output ∈ valueFiles context components, output.1 ∈ components.map Component.name ∧
      isName output.1.toList = true := by
    intro output hmem
    obtain ⟨component, hcomponent, rfl⟩ := List.mem_map.1 hmem
    exact ⟨List.mem_map_of_mem hcomponent, hnames component hcomponent⟩
  obtain ⟨hresult, hfiles⟩ := h.writeFiles (fun output hmem => (hname output hmem).1)
    (fun output hmem => (hname output hmem).2)
  rw [writeValues_eq]
  dsimp only
  rw [hresult, hfiles, valueFiles, List.all_map, List.takeWhile_map]
  refine ⟨rfl, Files.stores_overwriteAll ?_ files place⟩
  rw [valueFiles, List.map_map]
  exact honce.sublist ((List.takeWhile_sublist _).map _)

/-! ## The whole -/

/-- **The values of a document's components go to the files of their names, and nowhere
else.**  When the components after the action of a document that was read are resolved, all
of them have a value and a name of their own, which is a plain one.  In a directory where
none of these names is that of a directory or a link, writing stops at the first name that
is too long for the system, if there is one.  The values before it are in the files of their
names then, each of them written once, and everything else is as it was. -/
theorem writeAfter_stores {σ : Type} (resolver : Resolver σ) (dir : ResultDir) (place : Place)
    (files : Files) (context : Context) (state : σ) {text : String} {document : Document}
    (hparse : Document.parse text = .ok document)
    (hafter : (resolver.after document context state).result = .ok ())
    (hdir : dir.Receives place (document.after.map Component.name) files) :
    let final := (resolver.after document context state).context
    let written := document.after.takeWhile fun component => dir.accepts component.name
    (document.after.map Component.name).Nodup ∧
      (∀ component ∈ document.after, IsName component.name ∧ component.name ≠ varsFile ∧
        ∃ value, final.get? component.name = some value) ∧
      (dir.writeAfter document final files).1 =
        (if document.after.all (fun component => dir.accepts component.name) then .ok ()
          else .error .tooLong) ∧
      ∃ values : List (String × String), values.map Prod.fst = written.map Component.name ∧
        (∀ entry ∈ values, final.get? entry.1 = some entry.2) ∧
        Files.Stores place (values.map fun entry => (entry.1, Utf8.encode entry.2.toList)) files
          (dir.writeAfter document final files).2 := by
  intro final written
  have hwritten : resolver.Written true context state document.after final :=
    Resolver.written_of_ok hafter
  have hnames : ∀ component ∈ document.after, isName component.name.toList = true := by
    intro component hmem
    have hafterMem : component ∈ document.components .after := hmem
    exact (Document.header_of_parse hparse hafterMem).name
  have honce : (document.after.map Component.name).Nodup :=
    Document.nodup_names_of_parse hparse .after
  have hvalue : ∀ component ∈ document.after, ∃ value,
      final.get? component.name = some value := by
    intro component hmem
    obtain ⟨_, _, _, value, -, -, -, -, hget⟩ :=
      hwritten.last component.name (List.mem_map_of_mem hmem)
    exact ⟨value, hget⟩
  obtain ⟨hresult, hstores⟩ := hdir.writeValues hnames honce final
  refine ⟨honce, ?_, hresult, written.map fun component =>
    (component.name, (final.get? component.name).getD ""), ?_, ?_, ?_⟩
  · intro component hmem
    have hname := hnames component hmem
    refine ⟨Files.isName_of_isName hname, ?_, hvalue component hmem⟩
    intro hvars
    rw [hvars] at hname
    exact absurd hname (by decide)
  · rw [List.map_map]
    rfl
  · intro entry hmem
    obtain ⟨component, hcomponent, rfl⟩ := List.mem_map.1 hmem
    obtain ⟨value, hget⟩ := hvalue component ((List.takeWhile_sublist _).subset hcomponent)
    simp only [hget, Option.getD_some]
  · rw [List.map_map]
    exact hstores

/-! ### A result with other files -/

/-- A document that computes two values after its action. -/
def answerText : String :=
  "## after\n### a\n\x60\x60\x60\nx\n\x60\x60\x60\n" ++
    "### b[script]\n\x60\x60\x60\necho \x7b\x7ba\x7d\x7d\n\x60\x60\x60\n"

/-- The document as it is read. -/
def answerDocument : Document :=
  ⟨[], [⟨"a", .text, [], [.text "x"], 2⟩, ⟨"b", .script, [], [.text "echo \x7b\x7ba\x7d\x7d"], 6⟩],
    none⟩

/-- A result with a file of the first name, the values of a run and a directory, and a
file of the second name outside. -/
def answerFiles : Files :=
  ⟨[([".result"], .directory), ([".result", "api"], .directory),
    ([".result", "api", "a"], .file [0x31]), ([".result", "api", ".vars"], .file [0x32]),
    ([".result", "api", "sub"], .directory), (["b"], .file [0x33])], []⟩

/-- Both values are written, one of them over the file that is there. -/
theorem writeAfter_stores_answer :
    let dir := forDocument "api.md"
    let place := [".result", "api"]
    let run := Resolver.prepared.after answerDocument Context.empty [.ok "y"]
    Document.parse answerText = .ok answerDocument ∧ run.result = .ok () ∧
      dir.Receives place ["a", "b"] answerFiles ∧
      (dir.writeAfter answerDocument run.context answerFiles).1 = .ok () ∧
      ∃ values : List (String × String), values.map Prod.fst = ["a", "b"] ∧
        (∀ entry ∈ values, run.context.get? entry.1 = some entry.2) ∧
        Files.Stores place (values.map fun entry => (entry.1, Utf8.encode entry.2.toList))
          answerFiles (dir.writeAfter answerDocument run.context answerFiles).2 := by
  intro dir place run
  have hparse : Document.parse answerText = .ok answerDocument := by decide +kernel
  have hrun : run.result = .ok () := by rfl
  have hdir : dir.Receives place ["a", "b"] answerFiles := by
    exact ⟨by decide +kernel, by decide, by simp [answerFiles, place, Files.entryAt?, List.lookup_cons]⟩
  obtain ⟨-, -, hresult, hvalues⟩ := writeAfter_stores Resolver.prepared dir place answerFiles
    Context.empty [.ok "y"] hparse hrun hdir
  have haccepts : answerDocument.after.all (fun component => dir.accepts component.name) = true := by
    decide +kernel
  rw [haccepts, if_pos rfl] at hresult
  have hwritten : answerDocument.after.takeWhile (fun component => dir.accepts component.name) =
      answerDocument.after := by
    decide +kernel
  rw [hwritten] at hvalues
  exact ⟨hparse, hrun, hdir, hresult, hvalues⟩

/-! ### A name that is too long -/

/-- So many letters that they cannot be the name of a file. -/
def longLetters : List Char := List.replicate 256 'a'

/-- A name of these letters. -/
def longName : String := String.ofList longLetters

/-- The characters of a document that computes a value of this name. -/
def longLines : List Char :=
  "## after\n### ".toList ++ longLetters ++ "\n\x60\x60\x60\nx\n\x60\x60\x60\n".toList

/-- The document. -/
def longText : String := String.ofList longLines

/-- The document as it is read. -/
def longDocument : Document := ⟨[], [⟨longName, .text, [], [.text "x"], 2⟩], none⟩

/-- An empty result. -/
def emptyFiles : Files := ⟨[([".result"], .directory), ([".result", "api"], .directory)], []⟩

theorem toList_longName : longName.toList = longLetters := String.toList_ofList

theorem parse_longText : Document.parse longText = .ok longDocument := by
  have hlines : Document.ofLines (lines longLines) = .ok longDocument := by decide +kernel
  simp only [Document.parse, longText, String.toList_ofList, hlines]

theorem accepts_longName (dir : ResultDir) : dir.accepts longName = false := by
  have hwidth : Files.width longName = 256 := by
    rw [Files.width, toList_longName]
    decide +kernel
  rw [accepts, hwidth]
  exact Bool.false_and _

/-- The value of the long name is not written, although there is nothing in its place. -/
theorem writeAfter_longName :
    let dir := forDocument "api.md"
    let run := Resolver.prepared.after longDocument Context.empty []
    Document.parse longText = .ok longDocument ∧ run.result = .ok () ∧
      dir.Receives [".result", "api"] [longName] emptyFiles ∧
      run.context.get? longName = some "x" ∧
      dir.writeAfter longDocument run.context emptyFiles = (.error .tooLong, emptyFiles) := by
  intro dir run
  have hdir : dir.Receives [".result", "api"] (longDocument.after.map Component.name)
      emptyFiles := by
    exact ⟨by decide +kernel, by decide +kernel,
      by simp [emptyFiles, longDocument, Files.entryAt?, List.lookup_cons]⟩
  have hname : ∀ component ∈ longDocument.after, isName component.name.toList = true := by
    have hletters : isName longLetters = true := by decide +kernel
    simpa [longDocument, toList_longName] using hletters
  obtain ⟨hresult, hstores⟩ := hdir.writeValues hname (List.nodup_singleton _) run.context
  have hall : longDocument.after.all (fun component => dir.accepts component.name) = false := by
    simp [longDocument, accepts_longName]
  have hnone : longDocument.after.takeWhile (fun component => dir.accepts component.name) = [] := by
    simp [longDocument, accepts_longName]
  rw [hall, if_neg Bool.false_ne_true] at hresult
  rw [hnone] at hstores
  exact ⟨parse_longText, by rfl, hdir, by decide +kernel, Prod.ext hresult hstores.eq⟩

end ResultDir

end CallSheet
