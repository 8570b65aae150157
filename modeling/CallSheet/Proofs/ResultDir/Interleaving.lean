import CallSheet.Proofs.ResultDir.Write

/-!
# Results side by side

The results and the backups of all documents in a directory are next to each other
in one folder.  This module says what the steps for one document do to the results
of the others.

There are three groups.

* One step.  `Act` is what is done for a document, and `Site.perform` says that a
  step leaves every other result that is there alone.
* Many steps.  `Tenants` is the invariant of two documents in one directory, and
  `Tenants.run_backup` keeps a backup through every interleaving.
* The whole.  `undisturbed_of_run` puts this together for two documents that start
  without results, where the name of the second is not a backup name of the first.
  Without that condition it is false: the second document's result takes the place of
  the first one's backup, and its own backup takes it away
  (`backup_taken_away`).
-/

namespace CallSheet

open Files (IsName IsTree bare directoryWith)

namespace ResultDir

variable {dir s t : ResultDir} {files before after : Files} {home : Place} {name : String}

/-! ## One step -/

/-- What is done for a document. -/
inductive Act where
  | prepare
  | write (name : String) (content : List UInt8)
  deriving DecidableEq, Repr

/-- An act writes only files with plain names. -/
def Act.IsPlain : Act → Prop
  | .prepare => True
  | .write name _ => IsName name

/-- The files after an act, also one that failed. -/
def perform (dir : ResultDir) (files : Files) : Act → Files
  | .prepare => (dir.prepare files).2
  | .write name content => (files.write (dir.fileAt name) content).2

/-- A result that an act for a document leaves alone: it is not the document's, and it
is there or cannot become a backup. -/
def Spared (dir : ResultDir) (home : Place) (files : Files) (name : String) : Prop :=
  name ≠ dir.currentFile ∧
    (files.result home name = bare → ∀ number, 1 ≤ number → name ≠ dir.backupName number)

theorem Prepared.result_of_spared (h : dir.Prepared home before after)
    (hspared : dir.Spared home before name) : after.result home name = before.result home name := by
  rcases h.results with ⟨-, hresults⟩ | ⟨-, number, hfirst, hresults⟩
  · rw [hresults, Function.update_of_ne hspared.1]
  · rw [hresults, Function.update_of_ne hspared.1, Function.update_of_ne]
    rintro rfl
    exact hspared.2 hfirst.free number hfirst.pos rfl

/-- A step for a document leaves the other results alone, and everything outside the
folder. -/
theorem Site.perform (h : dir.Site home files) {act : Act} (hact : act.IsPlain) :
    dir.Site home (dir.perform files act) ∧
      Files.Confined (home ++ [folder]) files (dir.perform files act) ∧
      ∀ name, dir.Spared home files name →
        (dir.perform files act).result home name = files.result home name := by
  cases act with
  | prepare =>
    rw [ResultDir.perform]
    rcases h.prepare_cases with ⟨after, heq, hprepared⟩ | ⟨fault, after, heq, hadd, -⟩
    · rw [heq]
      exact ⟨hprepared.site, hprepared.confined, fun name => hprepared.result_of_spared⟩
    · rw [heq]
      exact ⟨hadd.site h, hadd.confined, fun name _ => congrFun hadd.result_eq name⟩
  | write name content =>
    rw [ResultDir.perform]
    obtain ⟨hsite, hconfined, hothers⟩ := (h.write hact content).kept h
    exact ⟨hsite, hconfined, fun name hspared => hothers name hspared.1⟩

/-! ## Many steps -/

/-- The files after steps, each for a document. -/
def run (files : Files) (steps : List (ResultDir × Act)) : Files :=
  steps.foldl (fun files step => step.1.perform files step.2) files

/-- A document in a directory; the way to it does not lead through the folder of
results. -/
structure Tenant (dir : ResultDir) (home : Place) (files : Files) : Prop where
  proper : dir.IsProper
  leads : files.LeadsBeside (home ++ [folder]) dir.currentDir home

theorem Tenant.site (h : dir.Tenant home files) (htree : IsTree (files.below (home ++ [folder]))) :
    dir.Site home files where
  proper := h.proper
  leads := h.leads.mono
    (Files.within_without_of_prefix (by simp) (folder_prefix_place dir home) files) rfl
  tree := htree

theorem Tenant.of_confined (h : dir.Tenant home before)
    (hconfined : Files.Confined (home ++ [folder]) before after) : dir.Tenant home after :=
  ⟨h.proper, hconfined.leads _ _ h.leads⟩

/-- Two documents in one directory. -/
structure Tenants (s t : ResultDir) (home : Place) (files : Files) : Prop where
  first : s.Tenant home files
  second : t.Tenant home files
  tree : IsTree (files.below (home ++ [folder]))

/-- A step for one of two documents. -/
structure IsStep (s t : ResultDir) (step : ResultDir × Act) : Prop where
  of_two : step.1 = s ∨ step.1 = t
  plain : step.2.IsPlain

theorem Tenants.site (h : Tenants s t home files) (hdir : dir = s ∨ dir = t) :
    dir.Site home files := by
  rcases hdir with rfl | rfl
  · exact h.first.site h.tree
  · exact h.second.site h.tree

theorem Tenants.perform (h : Tenants s t home files) {step : ResultDir × Act}
    (hstep : IsStep s t step) : Tenants s t home (step.1.perform files step.2) := by
  obtain ⟨hsite, hconfined, -⟩ := (h.site hstep.of_two).perform hstep.plain
  exact ⟨h.first.of_confined hconfined, h.second.of_confined hconfined, hsite.tree⟩

theorem Tenants.run (h : Tenants s t home files) {steps : List (ResultDir × Act)}
    (hsteps : ∀ step ∈ steps, IsStep s t step) : Tenants s t home (run files steps) := by
  induction steps generalizing files with
  | nil => exact h
  | cons step steps ih =>
    exact ih (h.perform (hsteps step List.mem_cons_self))
      fun step hstep => hsteps step (List.mem_cons_of_mem _ hstep)

/-- A backup of the first document is spared by the steps for both. -/
theorem spared_backup (hfree : ∀ number, 1 ≤ number → t.currentFile ≠ s.backupName number)
    {number : Nat} (hpos : 1 ≤ number) (hdir : dir = s ∨ dir = t)
    (hthere : files.result home (s.backupName number) ≠ bare) :
    dir.Spared home files (s.backupName number) := by
  refine ⟨?_, fun hbare => absurd hbare hthere⟩
  rcases hdir with rfl | rfl
  · exact backupName_ne dir number
  · exact (hfree number hpos).symm

/-- A backup of the first document stays as it is through every interleaving. -/
theorem Tenants.run_backup (h : Tenants s t home files)
    (hfree : ∀ number, 1 ≤ number → t.currentFile ≠ s.backupName number)
    {number : Nat} (hpos : 1 ≤ number)
    (hthere : files.result home (s.backupName number) ≠ bare) {steps : List (ResultDir × Act)}
    (hsteps : ∀ step ∈ steps, IsStep s t step) :
    (ResultDir.run files steps).result home (s.backupName number) =
      files.result home (s.backupName number) := by
  induction steps generalizing files with
  | nil => rfl
  | cons step steps ih =>
    have hstep := hsteps step List.mem_cons_self
    have hkept := ((h.site hstep.of_two).perform hstep.plain).2.2 _
      (spared_backup hfree hpos hstep.of_two hthere)
    rw [← hkept]
    exact ih (h.perform hstep) (hkept ▸ hthere)
      fun step hmem => hsteps step (List.mem_cons_of_mem _ hmem)

/-! ## The whole -/

/-- Results and backups that are not there are no tenants' concern. -/
theorem tenants_of_vacant (hs : s.IsProper) (ht : t.IsProper)
    (hleads : files.find true s.currentDir = .ok (.entry home .directory))
    (hleads' : files.find true t.currentDir = .ok (.entry home .directory))
    (hvacant : files.Vacant (home ++ [folder])) : Tenants s t home files := by
  have hwithin : files.Within (files.without (home ++ [folder])) := fun other entry hentry => by
    rw [Files.entryAt?_without (by simp), if_neg, hentry]
    intro hpre
    rw [hvacant.entryAt? hpre] at hentry
    cases hentry
  refine ⟨⟨hs, Files.find_mono hwithin rfl hleads⟩, ⟨ht, Files.find_mono hwithin rfl hleads'⟩, ?_⟩
  rw [Files.vacant_iff.1 hvacant]
  exact Files.isTree_bare

/-- The results of one document are not disturbed, neither by what is done for it
nor by what is done for another one. -/
structure Undisturbed (s t : ResultDir) (home : Place) (now : Files) : Prop where
  /-- A result that is there when a new one is prepared becomes a backup as a whole. -/
  created : now.result home s.currentFile ≠ bare → (s.prepare now).1 = .ok () →
    ∃ number, 1 ≤ number ∧ now.result home (s.backupName number) = bare ∧
      (s.prepare now).2.result home (s.backupName number) = now.result home s.currentFile
  /-- A backup keeps its name and its contents for ever. -/
  kept : ∀ number, 1 ≤ number → now.result home (s.backupName number) ≠ bare →
    ∀ later, (∀ step ∈ later, IsStep s t step) →
      (run now later).result home (s.backupName number) = now.result home (s.backupName number)
  /-- No step for the other document renames, changes or removes the result. -/
  result : ∀ act : Act, act.IsPlain → now.result home s.currentFile ≠ bare →
    (t.perform now act).result home s.currentFile = now.result home s.currentFile
  /-- Nor does it rename, change, remove or make a backup. -/
  backups : ∀ act : Act, act.IsPlain → ∀ number, 1 ≤ number →
    (t.perform now act).result home (s.backupName number) = now.result home (s.backupName number)

theorem Tenants.created (h : Tenants s t home files)
    (hthere : files.result home s.currentFile ≠ bare) (hok : (s.prepare files).1 = .ok ()) :
    ∃ number, 1 ≤ number ∧ files.result home (s.backupName number) = bare ∧
      (s.prepare files).2.result home (s.backupName number) = files.result home s.currentFile := by
  rcases (h.site (.inl rfl)).prepare_cases with ⟨after, heq, hprepared⟩ | ⟨fault, after, heq, -, -⟩
  · rcases hprepared.results with ⟨hbare, -⟩ | ⟨-, number, hfirst, hresults⟩
    · exact absurd hbare hthere
    · refine ⟨number, hfirst.pos, hfirst.free, ?_⟩
      rw [heq, hresults, Function.update_of_ne (backupName_ne s number), Function.update_self]
  · rw [heq] at hok
    cases hok

/-- Two documents in one directory do not disturb each other's results, whatever is
done for them in whatever order, unless the second one has the name of a backup of the
first one. -/
theorem undisturbed_of_run (p q : String) (files : Files) (home : Place)
    (hp : (forDocument p).currentFile ∉ ["", ".", ".."])
    (hq : (forDocument q).currentFile ∉ ["", ".", ".."])
    (hne : (forDocument q).currentFile ≠ (forDocument p).currentFile)
    (hfree : ∀ number, 1 ≤ number →
      (forDocument q).currentFile ≠ (forDocument p).backupName number)
    (hleads : files.find true (forDocument p).currentDir = .ok (.entry home .directory))
    (hleads' : files.find true (forDocument q).currentDir = .ok (.entry home .directory))
    (hvacant : files.Vacant (home ++ [folder])) (steps : List (ResultDir × Act))
    (hsteps : ∀ step ∈ steps, IsStep (forDocument p) (forDocument q) step) :
    Undisturbed (forDocument p) (forDocument q) home (run files steps) := by
  have hstart := tenants_of_vacant (isProper_forDocument hp) (isProper_forDocument hq) hleads
    hleads' hvacant
  have hnow := hstart.run hsteps
  refine ⟨hnow.created, fun number hpos hthere later hlater => ?_, fun act hact hthere => ?_,
    fun act hact number hpos => ?_⟩
  · exact hnow.run_backup hfree hpos hthere hlater
  · exact ((hnow.site (.inr rfl)).perform hact).2.2 _
      ⟨hne.symm, fun hbare => absurd hbare hthere⟩
  · refine ((hnow.site (.inr rfl)).perform hact).2.2 _ ⟨?_, fun _ other _ hsame => ?_⟩
    · exact (hfree number hpos).symm
    · exact hne (backupName_inj hsame).1.symm

theorem find_here {path : String} (h : path = ".") :
    (Files.mk [] []).find true path = .ok (.entry [] .directory) := by
  subst h
  exact Files.find_point rfl true

theorem vacant_empty (place : Place) (h : place ≠ []) : (Files.mk [] []).Vacant place := by
  intro below
  rw [Files.entryAt?_eq_lookup (by simp [h])]
  rfl

/-- Two documents in an empty directory. -/
theorem undisturbed_of_two_documents :
    let s := forDocument "api.md"
    let t := forDocument "other.md"
    s.currentFile ∉ ["", ".", ".."] ∧ t.currentFile ≠ s.currentFile ∧
      (∀ number, 1 ≤ number → t.currentFile ≠ s.backupName number) ∧
      Undisturbed s t [] (run ⟨[], []⟩
        [(s, .prepare), (s, .write "body" [0x31]), (t, .prepare), (s, .prepare)]) := by
  have hs : (forDocument "api.md").currentFile = "api" := by decide +kernel
  have ht : (forDocument "other.md").currentFile = "other" := by decide +kernel
  have hne : (forDocument "other.md").currentFile ≠ (forDocument "api.md").currentFile := by
    rw [hs, ht]
    decide
  have hfree : ∀ number, 1 ≤ number →
      (forDocument "other.md").currentFile ≠ (forDocument "api.md").backupName number := by
    intro number _ h
    have hfirst := congrArg (fun name => name.toList.head?) h
    simp [toList_backupName, hs, ht] at hfirst
  refine ⟨by rw [hs]; decide, hne, hfree, undisturbed_of_run _ _ _ _ (by rw [hs]; decide)
    (by rw [ht]; decide) hne hfree (find_here (by decide +kernel)) (find_here (by decide +kernel))
    (vacant_empty _ (by decide)) _ ?_⟩
  have hbody : IsName "body" := ⟨by decide, by decide, by decide⟩
  simp only [List.forall_mem_cons]
  exact ⟨⟨.inl rfl, trivial⟩, ⟨.inl rfl, hbody⟩, ⟨.inr rfl, trivial⟩, ⟨.inl rfl, trivial⟩, by simp⟩

/-! ## A backup taken away -/

theorem fits_here (hdir : dir.currentDir = ".") (h : name ∈ ["api", "api_1", "api_1_1"]) :
    dir.Fits name := by
  simp only [List.mem_cons, List.not_mem_nil, or_false] at h
  rcases h with rfl | rfl | rfl
  all_goals
    refine ⟨?_, by decide⟩
    rw [hdir]
    simp [Files.refusal?, Path.beneath, Path.joined, Path.joinText, folder, Path.isAbsolute,
      Files.longestPath, Files.width, Text.Utf8.encode, Text.Utf8.encodeChar]

/-- A document that has the name of a backup takes the backup away: its own result is
in its place. -/
theorem Prepared.result_backup (h : t.Prepared home before after) {number : Nat}
    (hname : t.currentFile = s.backupName number) :
    after.result home (s.backupName number) = directoryWith [] := by
  rw [← hname]
  exact h.result_self

/-- A document is prepared, gets a result and is prepared again, so that the result is
under its backup name.  When another document of that name is prepared, it is not
there any more. -/
theorem backup_taken (h : Tenants s t home files) (hroom : HasRoom home files)
    (hbare : ∀ name, files.result home name = bare) (hname : t.currentFile = s.backupName 1)
    (hs : s.Fits s.currentFile) (hs' : s.Fits (s.backupName 1)) (ht : t.Fits t.currentFile)
    (ht' : t.Fits (t.backupName 1))
    (hfile : IsName name) (hfits : s.FitsFile name) (content : List UInt8) :
    let now := run files [(s, .prepare), (s, .write name content), (s, .prepare)]
    now.result home (s.backupName 1) [name] = some (.file content) ∧
      (t.perform now .prepare).result home (s.backupName 1) [name] = none := by
  have hne : s.backupName 1 ≠ s.currentFile := backupName_ne s 1
  have hmine : ∀ {step}, step = (s, Act.prepare) ∨ step = (s, Act.write name content) →
      IsStep s t step := by
    rintro _ (rfl | rfl)
    · exact ⟨.inl rfl, trivial⟩
    · exact ⟨.inl rfl, hfile⟩
  -- The result is prepared.
  obtain ⟨one, hprepare, hone, hresultOne⟩ := (h.site (.inl rfl)).prepare_of_bare
    ⟨hroom, hs, fun hthere => absurd (hbare _) hthere⟩ (hbare _)
  have hself : one.result home s.currentFile = directoryWith [] := hone.result_self
  have htenantsOne := h.perform (hmine (.inl rfl))
  simp only [perform, hprepare] at htenantsOne
  -- It gets a file.
  have hwrite := hone.site.write_of_fits hfile hfits (by rw [hself]; rfl) (by rw [hself]; rfl)
    content
  have hresultTwo := result_put_file one s home name content
  have htenantsTwo := htenantsOne.perform (hmine (.inr rfl))
  simp only [perform, hwrite] at htenantsTwo
  generalize one.put (s.place home ++ [name]) (.file content) = two at *
  have hfile : two.result home s.currentFile [name] = some (.file content) := by
    rw [hresultTwo, Function.update_self, Function.update_self]
  have hthere : two.result home s.currentFile ≠ bare := fun hnone => by
    rw [hnone] at hfile
    cases hfile
  -- It becomes the first backup.
  have hothers : ∀ other, other ≠ s.currentFile → two.result home other = bare := by
    intro other hother
    rw [hresultTwo, Function.update_of_ne hother, hresultOne, Function.update_of_ne hother, hbare]
  have hsiteTwo := htenantsTwo.site (.inl rfl)
  obtain ⟨three, hprepare', hthree, hresultThree⟩ := hsiteTwo.prepare_of_there
    ⟨.inr (hsiteTwo.folder_of_result hthere), hs, fun _ => by
      rwa [hsiteTwo.backupNumber_eq_one (hothers _ hne)]⟩
    hthere (hothers _ hne)
  have htenantsThree := htenantsTwo.perform (hmine (.inl rfl))
  simp only [perform, hprepare'] at htenantsThree
  have hbackup : three.result home (s.backupName 1) [name] = some (.file content) := by
    rw [hresultThree, Function.update_of_ne hne, Function.update_self, hfile]
  -- The other document takes its place.
  have hsiteThree := htenantsThree.site (.inr rfl)
  have hfree : three.result home (t.backupName 1) = bare := by
    have hne' : t.backupName 1 ≠ s.backupName 1 := hname ▸ backupName_ne t 1
    have hne'' : t.backupName 1 ≠ s.currentFile := by
      intro hsame
      have hlength := congrArg (fun name => name.toList.length) hsame
      simp only [toList_backupName, hname, List.length_append, List.length_cons] at hlength
      omega
    rw [hresultThree, Function.update_of_ne hne'', Function.update_of_ne hne', hothers _ hne'']
  obtain ⟨four, hprepare'', hfour⟩ := hsiteThree.prepare_of_ready
    ⟨.inr hthree.folder, ht, fun _ => by rwa [hsiteThree.backupNumber_eq_one hfree]⟩
  have hrun : run files [(s, .prepare), (s, .write name content), (s, .prepare)] = three := by
    simp only [run, List.foldl_cons, List.foldl_nil, perform, hprepare, hwrite, hprepare']
  rw [hrun]
  refine ⟨hbackup, ?_⟩
  rw [perform, hprepare'', hfour.result_backup hname]
  rfl

/-- The backup of a document and the result of another one are in the same place. -/
theorem backup_taken_away :
    let s := forDocument "api.md"
    let t := forDocument "api_1.md"
    let now := run ⟨[], []⟩ [(s, .prepare), (s, .write "body" [0x31]), (s, .prepare)]
    t.currentFile ≠ s.currentFile ∧
      now.result [] (s.backupName 1) ["body"] = some (.file [0x31]) ∧
      (t.perform now .prepare).result [] (s.backupName 1) ["body"] = none := by
  have hs : forDocument "api.md" = ⟨".", "api", "./.result/api"⟩ := by decide +kernel
  have ht : forDocument "api_1.md" = ⟨".", "api_1", "./.result/api_1"⟩ := by decide +kernel
  have hstart : Tenants (forDocument "api.md") (forDocument "api_1.md") [] ⟨[], []⟩ :=
    tenants_of_vacant (isProper_forDocument (by rw [hs]; decide))
      (isProper_forDocument (by rw [ht]; decide)) (find_here (by rw [hs]))
      (find_here (by rw [ht])) (vacant_empty _ (by decide))
  have hnone : ∀ name, (Files.mk [] []).result [] name = bare := fun name =>
    Files.vacant_iff.1 (vacant_empty _ (by simp))
  have hback : (ResultDir.mk "." "api" "./.result/api").backupName 1 = "api_1" := by decide +kernel
  have hback' : (ResultDir.mk "." "api_1" "./.result/api_1").backupName 1 = "api_1_1" := by
    decide +kernel
  have hfits : (ResultDir.mk "." "api" "./.result/api").FitsFile "body" := by
    refine ⟨?_, by decide, by decide⟩
    simp [Files.refusal?, fileAt, Path.joined, Path.joinText, Path.isAbsolute,
      Files.longestPath, Files.width, Text.Utf8.encode, Text.Utf8.encodeChar]
  rw [hs, ht] at hstart ⊢
  exact ⟨by decide, backup_taken hstart (.inl rfl) hnone hback.symm
    (fits_here rfl (by simp)) (fits_here rfl (by rw [hback]; simp)) (fits_here rfl (by simp))
    (fits_here rfl (by rw [hback']; simp)) ⟨by decide, by decide, by decide⟩ hfits _⟩

end ResultDir

end CallSheet
