import CallSheet.Proofs.Cli.Failures
import CallSheet.Proofs.ResultDir.Interleaving

/-!
# Backups

Preparing a result directory loses no result, however often it is done and whatever
happens to the results in between.

There are three groups.

* Entries.  `Renewed` says what preparing does to every entry (`Prepared.renewed`).
* Histories.  A `History` goes on by preparing results and by using them.  Each step keeps
  the backups that are there (`History.keepsBackups`), so that every result that was there
  when a new one was prepared is under a backup name of its own (`History.stored`).
* The whole.  `prepare_keeps_results` says this about a document whose way does not lead
  through its own result.  Otherwise something is left in the new result, which should be
  empty (`prepare_through_result`).
-/

namespace CallSheet.ResultDir

open Files (IsTree AgreesOff bare directoryWith)

variable {dir : ResultDir} {files start before after now : Files} {home other : Place}
  {name : String} {number : Nat} {earlier : List (Place → Option Entry)}

/-! ## Entries -/

/-- What preparing a result does to the entries. -/
structure Renewed (dir : ResultDir) (home : Place) (before after : Files) : Prop where
  /-- The result is an empty directory. -/
  empty : after.below (dir.place home) = directoryWith []
  /-- What was there is under the first free backup name, and nothing else has changed. -/
  kept : before.entryAt? (dir.place home) ≠ none →
    ∃ number, dir.IsFirstFree home before number ∧
      after.below (dir.backupPlace home number) = before.below (dir.place home) ∧
      ∀ other, ¬ dir.place home <+: other → ¬ dir.backupPlace home number <+: other →
        after.entryAt? other = before.entryAt? other
  /-- If nothing was there, the folder of results may be new, and nothing else is. -/
  made : before.entryAt? (dir.place home) = none →
    after.entryAt? (home ++ [folder]) = some .directory ∧
      ∀ other, ¬ dir.place home <+: other → other ≠ home ++ [folder] →
        after.entryAt? other = before.entryAt? other

/-- An entry is the same if it is in no result that has changed. -/
theorem entryAt?_eq_of_results (hagrees : AgreesOff (home ++ [folder]) before after)
    (hfolder : other = home ++ [folder] → after.entryAt? other = before.entryAt? other)
    (hresult : ∀ name rest, other = home ++ [folder, name] ++ rest →
      after.result home name = before.result home name) :
    after.entryAt? other = before.entryAt? other := by
  by_cases hin : home ++ [folder] <+: other
  · obtain ⟨rest, rfl⟩ := hin
    cases rest with
    | nil => exact hfolder (List.append_nil _)
    | cons name rest =>
      have hplace : home ++ [folder] ++ name :: rest = home ++ [folder, name] ++ rest := by simp
      rw [hplace]
      exact congrFun (hresult name rest hplace) rest
  · exact hagrees other hin

theorem Site.entryAt?_place_eq_none_iff (h : dir.Site home files) :
    files.entryAt? (dir.place home) = none ↔ files.result home dir.currentFile = bare := by
  have htop : files.result home dir.currentFile [] = files.entryAt? (dir.place home) := by
    rw [Files.result, Files.below, List.append_nil, place]
  rw [← htop]
  exact ⟨(h.isTree _).eq_bare, fun hbare => by rw [hbare]; rfl⟩

theorem Prepared.renewed (h : dir.Prepared home before after) (hsite : dir.Site home before) :
    Renewed dir home before after where
  empty := h.result_self
  kept hthere := by
    rw [ne_eq, hsite.entryAt?_place_eq_none_iff] at hthere
    rcases h.results with ⟨hbare, -⟩ | ⟨-, number, hfirst, hresults⟩
    · exact absurd hbare hthere
    refine ⟨number, hfirst, ?_, fun other hother hbackup => ?_⟩
    · change after.result home (dir.backupName number) = before.result home dir.currentFile
      rw [hresults, Function.update_of_ne (backupName_ne dir number), Function.update_self]
    · refine entryAt?_eq_of_results h.confined.agrees (fun hfolder => ?_) fun name rest hplace => ?_
      · rw [hfolder, h.folder, hsite.folder_of_result hthere]
      · rw [hresults, Function.update_of_ne, Function.update_of_ne]
        · rintro rfl
          exact hbackup ⟨rest, hplace.symm⟩
        · rintro rfl
          exact hother ⟨rest, hplace.symm⟩
  made hnone := by
    rw [hsite.entryAt?_place_eq_none_iff] at hnone
    rcases h.results with ⟨-, hresults⟩ | ⟨hthere, -⟩
    · refine ⟨h.folder, fun other hother hfolder => ?_⟩
      refine entryAt?_eq_of_results h.confined.agrees (fun h => absurd h hfolder)
        fun name rest hplace => ?_
      rw [hresults, Function.update_of_ne]
      rintro rfl
      exact hother ⟨rest, hplace.symm⟩
    · exact absurd hnone hthere

/-! ## Histories -/

/-- A result is used: it changes in whatever way, and nothing else does.  No link comes
into the folder of results. -/
structure Used (dir : ResultDir) (home : Place) (before after : Files) : Prop where
  agrees : AgreesOff (dir.place home) before after
  here : after.here = before.here
  tree : IsTree (after.below (home ++ [folder]))

theorem Used.site (h : dir.Used home before after) (hsite : dir.Site home before) :
    dir.Site home after where
  proper := hsite.proper
  leads := hsite.leads.mono (h.agrees.within_without (place_ne_nil dir home))
    (by rw [Files.start, Files.start, h.here])
  tree := h.tree

theorem Used.result_eq (h : dir.Used home before after) (hname : name ≠ dir.currentFile) :
    after.result home name = before.result home name :=
  funext fun _ => h.agrees _ (mt Files.prefix_result_iff.1 hname.symm)

/-- The result that is there, if there is one. -/
def present (dir : ResultDir) (home : Place) (files : Files) : List (Place → Option Entry) :=
  if files.entryAt? (dir.place home) = none then [] else [files.below (dir.place home)]

/-- What comes about when results are prepared and used, and the results that were there
whenever a new one was prepared, the last one first. -/
inductive History (dir : ResultDir) (home : Place) (start : Files) :
    List (Place → Option Entry) → Files → Prop where
  | start : History dir home start [] start
  | prepare {earlier : List (Place → Option Entry)} {before after : Files}
      (history : History dir home start earlier before)
      (h : dir.prepare before = (.ok (), after)) :
      History dir home start (dir.present home before ++ earlier) after
  /-- A result could not be prepared. -/
  | fail {earlier : List (Place → Option Entry)} {before after : Files} {fault : Fault}
      (history : History dir home start earlier before)
      (h : dir.prepare before = (.error fault, after)) : History dir home start earlier after
  | use {earlier : List (Place → Option Entry)} {before after : Files}
      (history : History dir home start earlier before) (h : dir.Used home before after) :
      History dir home start earlier after

theorem History.site (history : History dir home start earlier now) (h : dir.Site home start) :
    dir.Site home now := by
  induction history with
  | start => exact h
  | prepare _ hprepare ih => exact (ih.prepared_of_ok hprepare).site
  | fail _ hprepare ih => exact (ih.mayAddFolder_of_error hprepare).site ih
  | use _ hused ih => exact hused.site ih

/-- The backups that are there are there afterwards, as they were. -/
def KeepsBackups (dir : ResultDir) (home : Place) (before after : Files) : Prop :=
  ∀ number, before.below (dir.backupPlace home number) ≠ bare →
    after.below (dir.backupPlace home number) = before.below (dir.backupPlace home number)

theorem Prepared.keepsBackups (h : dir.Prepared home before after) :
    KeepsBackups dir home before after := fun number hthere =>
  h.result_of_spared ⟨backupName_ne dir number, fun hbare => absurd hbare hthere⟩

theorem MayAddFolder.keepsBackups (h : MayAddFolder home before after) (dir : ResultDir) :
    KeepsBackups dir home before after := fun number _ =>
  congrFun h.result_eq (dir.backupName number)

theorem Used.keepsBackups (h : dir.Used home before after) : KeepsBackups dir home before after :=
  fun number _ => h.result_eq (backupName_ne dir number)

theorem KeepsBackups.trans (h : KeepsBackups dir home start before)
    (h' : KeepsBackups dir home before after) : KeepsBackups dir home start after :=
  fun number hthere => (h' number (by rwa [h number hthere])).trans (h number hthere)

/-- A backup keeps its name and its contents. -/
theorem History.keepsBackups (history : History dir home start earlier now)
    (h : dir.Site home start) : KeepsBackups dir home start now := by
  induction history with
  | start => exact fun _ _ => rfl
  | prepare history hprepare ih =>
    exact ih.trans ((history.site h).prepared_of_ok hprepare).keepsBackups
  | fail history hprepare ih =>
    exact ih.trans (((history.site h).mayAddFolder_of_error hprepare).keepsBackups dir)
  | use _ hused ih => exact ih.trans hused.keepsBackups

/-- Results are the backups with some numbers. -/
structure Stored (dir : ResultDir) (home : Place) (files : Files)
    (results : List (Place → Option Entry)) (numbers : List Nat) : Prop where
  /-- Each result has a number of its own. -/
  nodup : numbers.Nodup
  pos : ∀ number ∈ numbers, 1 ≤ number
  there : ∀ number ∈ numbers, files.below (dir.backupPlace home number) ≠ bare
  results : numbers.map (fun number => files.below (dir.backupPlace home number)) = results

variable {numbers : List Nat}

theorem Stored.mono (h : dir.Stored home before earlier numbers)
    (hkept : KeepsBackups dir home before after) : dir.Stored home after earlier numbers where
  nodup := h.nodup
  pos := h.pos
  there number hmem := by
    rw [hkept number (h.there number hmem)]
    exact h.there number hmem
  results := by
    rw [← h.results]
    exact List.map_congr_left fun number hmem => hkept number (h.there number hmem)

/-- The result that is there becomes one more backup. -/
theorem Stored.prepare (h : dir.Stored home before earlier numbers) (hsite : dir.Site home before)
    (hprepared : dir.Prepared home before after) :
    ∃ numbers, dir.Stored home after (dir.present home before ++ earlier) numbers := by
  have hkept := h.mono hprepared.keepsBackups
  rw [present]
  split
  · exact ⟨numbers, hkept⟩
  · next hthere =>
    obtain ⟨number, hfirst, hmoved, -⟩ := (hprepared.renewed hsite).kept hthere
    -- the number was free, so it is none of those that are taken
    have hnew : number ∉ numbers := fun hmem => h.there number hmem hfirst.free
    refine ⟨number :: numbers, List.nodup_cons.2 ⟨hnew, h.nodup⟩,
      List.forall_mem_cons.2 ⟨hfirst.pos, h.pos⟩, List.forall_mem_cons.2 ⟨?_, hkept.there⟩, ?_⟩
    · rw [hmoved]
      exact mt hsite.entryAt?_place_eq_none_iff.2 hthere
    · rw [List.map_cons, hmoved, hkept.results]
      rfl

/-- Every result that was there when a new one was prepared is a backup. -/
theorem History.stored (history : History dir home start earlier now) (h : dir.Site home start) :
    ∃ numbers, dir.Stored home now earlier numbers := by
  induction history with
  | start => exact ⟨[], List.nodup_nil, by simp, by simp, rfl⟩
  | prepare history hprepare ih =>
    obtain ⟨numbers, hstored⟩ := ih
    exact hstored.prepare (history.site h) ((history.site h).prepared_of_ok hprepare)
  | fail history hprepare ih =>
    obtain ⟨numbers, hstored⟩ := ih
    exact ⟨numbers, hstored.mono
      (((history.site h).mayAddFolder_of_error hprepare).keepsBackups dir)⟩
  | use _ hused ih =>
    obtain ⟨numbers, hstored⟩ := ih
    exact ⟨numbers, hstored.mono hused.keepsBackups⟩

/-! ## The whole -/

/-- The search for a backup name ends at the first one that is free. -/
theorem Site.search_ends (h : dir.Site home files) :
    files.has (dir.backup (dir.backupNumber files)) = false ∧
      ∀ taken, 1 ≤ taken → taken < dir.backupNumber files → files.has (dir.backup taken) = true :=
  ⟨h.has_backupNumber, (firstFree_spec dir files files.entries.length 1).1⟩

/-- **Preparing loses no result.**  The search for a backup name ends.  When nothing is in
the way, the result that is there is moved to the first free backup name as it is, an empty
one takes its place, and nothing else changes.  However results are prepared and used, what
was there when a new one was prepared is under a backup name of its own, and every backup
keeps its name and its contents.  The way to the document must not lead through its own
result, and its name must be one that a directory can have. -/
theorem prepare_keeps_results (path : String) (files : Files) (home : Place)
    (hname : (forDocument path).currentFile ∉ ["", ".", ".."])
    (hleads : files.LeadsBeside ((forDocument path).place home) (forDocument path).currentDir home)
    (htree : IsTree (files.below (home ++ [folder]))) :
    (files.has ((forDocument path).backup ((forDocument path).backupNumber files)) = false ∧
      ∀ taken, 1 ≤ taken → taken < (forDocument path).backupNumber files →
        files.has ((forDocument path).backup taken) = true) ∧
    ((forDocument path).Ready home files → ∃ after,
      (forDocument path).prepare files = (.ok (), after) ∧
        Renewed (forDocument path) home files after) ∧
    ∀ earlier now, History (forDocument path) home files earlier now →
      (∃ numbers, (forDocument path).Stored home now earlier numbers) ∧
        KeepsBackups (forDocument path) home files now := by
  have hsite : (forDocument path).Site home files := ⟨isProper_forDocument hname, hleads, htree⟩
  refine ⟨hsite.search_ends, fun hready => ?_, fun earlier now history =>
    ⟨history.stored hsite, history.keepsBackups hsite⟩⟩
  obtain ⟨after, hprepare, hprepared⟩ := hsite.prepare_of_ready hready
  exact ⟨after, hprepare, hprepared.renewed hsite⟩

/-- A result with one file becomes a backup, and stays one when a file is written to the new
result. -/
theorem prepare_keeps_results_script :
    let dir := forDocument "api.md"
    let changed := Cli.scriptBegun.put (dir.place [] ++ ["body"]) (.file [0x32])
    dir.currentFile ∉ ["", ".", ".."] ∧
      Cli.scriptFiles.LeadsBeside (dir.place []) dir.currentDir [] ∧
      IsTree (Cli.scriptFiles.below ([] ++ [folder])) ∧ dir.Ready [] Cli.scriptFiles ∧
      Renewed dir [] Cli.scriptFiles Cli.scriptBegun ∧
      ∃ numbers, dir.Stored [] changed [directoryWith [("body", [0x31])]] numbers := by
  have hdir := Cli.forDocument_script
  have hname : (forDocument "api.md").currentFile ∉ ["", ".", ".."] := by
    rw [hdir]
    decide
  have hleads : Cli.scriptFiles.LeadsBeside ((forDocument "api.md").place [])
      (forDocument "api.md").currentDir [] := by
    rw [hdir]
    exact Files.find_point rfl true
  have hsite : (forDocument "api.md").Site [] Cli.scriptFiles :=
    ⟨isProper_forDocument hname, hleads, Cli.isTree_filesWith _⟩
  have hresult : Cli.scriptFiles.result [] (forDocument "api.md").currentFile =
      directoryWith [("body", [0x31])] := by
    rw [hdir, Cli.scriptFiles, Cli.result_filesWith]
    rfl
  have hback : (forDocument "api.md").backupName 1 = "api_1" := by
    rw [hdir]
    decide +kernel
  have hready : (forDocument "api.md").Ready [] Cli.scriptFiles := by
    refine ⟨.inr rfl, fits_here ?_ ?_, fun _ => ?_⟩
    · rw [hdir]
    · rw [hdir]
      simp
    · rw [hsite.backupNumber_eq_one, hback]
      · refine fits_here ?_ (by simp)
        rw [hdir]
      · rw [hback, Cli.scriptFiles, Cli.result_filesWith]
        rfl
  obtain ⟨-, hprepare, hhistory⟩ :=
    prepare_keeps_results "api.md" Cli.scriptFiles [] hname hleads (Cli.isTree_filesWith _)
  obtain ⟨after, heq, hrenewed⟩ := hprepare hready
  cases Cli.prepare_script.symm.trans heq
  have hbegun := (History.prepare .start Cli.prepare_script).site hsite
  have htop :
      Cli.scriptBegun.result [] (forDocument "api.md").currentFile [] = some .directory := by
    rw [hdir]
    rfl
  have hnone : Cli.scriptBegun.result [] (forDocument "api.md").currentFile ["body"] = none := by
    rw [hdir]
    rfl
  have hused : (forDocument "api.md").Used [] Cli.scriptBegun
      (Cli.scriptBegun.put ((forDocument "api.md").place [] ++ ["body"]) (.file [0x32])) :=
    ⟨Files.agreesOff_put (place_ne_nil _ _) (List.prefix_append _ _) _ _, Files.here_put _ _ _,
      (hbegun.put_file htop (fun entry h => by rw [hnone] at h; cases h) [0x32]).1.tree⟩
  have hpresent : (forDocument "api.md").present [] Cli.scriptFiles ++ [] =
      [directoryWith [("body", [0x31])]] := by
    rw [present, if_neg, ← hresult]
    · rfl
    · rw [hsite.entryAt?_place_eq_none_iff, hresult]
      exact fun h => by simpa [bare, directoryWith] using congrFun h []
  have hstored := (hhistory _ _ (.use (.prepare .start Cli.prepare_script) hused)).1
  rw [hpresent] at hstored
  exact ⟨hname, hleads, Cli.isTree_filesWith _, hready, hrenewed, hstored⟩

/-- When the way to a document leads through its own result, the directories of that way are
made again, and the new result is not empty.  No link is needed for it. -/
theorem prepare_through_result :
    (∀ entry ∈ Cli.detourFiles.entries, ∀ target, entry.2 ≠ .link target) ∧
      Cli.detourFiles.entryAt? [folder] = some .directory ∧
      (forDocument Cli.detourPath).currentFile = "api" ∧
      ((forDocument Cli.detourPath).prepare Cli.detourFiles).1 = .ok () ∧
      ((forDocument Cli.detourPath).prepare Cli.detourFiles).2.result [] "api" ≠
        directoryWith [] := by
  rw [Cli.prepare_detour]
  refine ⟨?_, rfl, by decide +kernel, rfl, fun h => ?_⟩
  · simp [Cli.detourFiles]
  · have : Cli.detourBegun.result [] "api" ["sub"] = some .directory := rfl
    rw [h] at this
    cases this

end CallSheet.ResultDir
