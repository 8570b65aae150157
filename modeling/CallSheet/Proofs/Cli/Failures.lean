import CallSheet.Proofs.Cli.Deeds
import CallSheet.Proofs.ResultDir.Kept

/-!
# Runs that fail

What a run that fails leaves of the results, whatever stage it fails in.

There are five groups.

* Services.  `Spares` says what commands and requests leave alone, and what they leave alone
  the stages do that only use services.
* Stages.  `FailsSafely` says for every failure what is left.
  `failsSafely_of_conclude` and `failsSafely_of_performIn` go through the stages after
  the target is resolved, from the last one back.
* The whole.  `failsSafely_of_run` is for all runs.  Only for what fails in the result
  directory, or in preparing it, must the document be `WellPlaced` and stay so.
* Two actions that fail in their new result directory and keep the earlier result: a script
  without an answer and a request whose answer breaks off.
* A way through the result.  Of a document that is reached that way the statement is
  false (`run_through_result`).
-/

namespace CallSheet.Cli

open CallSheet.Action (Call Answer)
open ResultDir (folder SameResults SameWay Untouched)
open Files (IsTree)
open Text

variable {ρ : Type} {setting : Setting ρ} {services : Services ρ} {target : Target}
  {world : World ρ} {resolved : Resolved} {dir : ResultDir} {home : Place} {failure : Failure}
  {kept : Files → Files → Prop}

/-! ## Services -/

/-- What there was before a command or a request is kept. -/
structure Spares (services : Services ρ) (kept : Files → Files → Prop) : Prop where
  runner : ∀ command world, kept world.files (services.runner command world).2.files
  transport : ∀ request world, kept world.files (services.transport request world).2.files

theorem Spares.untouched (hresults : Spares services (SameResults home))
    (hway : Spares services (SameWay dir home)) : Spares services (dir.Untouched home) where
  runner command world := ⟨hresults.runner command world, hway.runner command world⟩
  transport request world := ⟨hresults.transport request world, hway.transport request world⟩

theorem Spares.answer (h : Spares services kept) (call : Call) (world : World ρ) :
    kept world.files (call.answer services world).2.files := by
  cases call with
  | command text =>
    have hkept := h.runner text world
    rw [Call.answer]
    cases hrun : services.runner text world with
    | mk outcome after =>
      rw [hrun] at hkept
      cases outcome <;> exact hkept
  | request sent =>
    have hkept := h.transport sent world
    rw [Call.answer]
    cases hsend : services.transport sent world with
    | mk outcome after =>
      rw [hsend] at hkept
      cases outcome <;> exact hkept

section

variable (hrefl : ∀ files, kept files files)
  (htrans : ∀ {before middle after}, kept before middle → kept middle after → kept before after)

include hrefl htrans

theorem Spares.leave (h : Spares setting.services kept) (world : World ρ)
    (commands : List String) :
    kept world.files (setting.resolver.leave world commands).files := by
  induction commands generalizing world with
  | nil => exact hrefl _
  | cons command commands ih => exact htrans (h.runner command world) (ih _)

theorem Spares.resolveTarget (h : Spares setting.services kept) (target : Target)
    (world : World ρ) : kept world.files (resolveTarget setting target world).2.files := by
  rw [resolveTarget_eq_replay, ← leave_eq_replay]
  exact h.leave hrefl htrans world _

theorem Spares.after (h : Spares setting.services kept) (document : Document)
    (context : Context) (world : World ρ) :
    kept world.files (setting.resolver.after document context world).state.files := by
  rw [Resolver.after, Resolver.leave_resolve]
  exact h.leave hrefl htrans world _

end

/-! ## Stages -/

/-- What the action of a target is answered with. -/
structure Answers (setting : Setting ρ) (target : Target) (world : World ρ) (dir : ResultDir)
    (resolved : Resolved) (answer : Answer) : Prop where
  resolves : (resolveTarget setting target world).1 = .ok resolved
  answered : ∃ kind call,
    kindOf setting resolved.document (Cli.resolveTarget setting target world).2.files = .ok kind ∧
    kind.call resolved.context (calledIn setting target world dir).files = .ok call ∧
    (call.answer setting.services (calledIn setting target world dir)).1 = answer
  /-- There are no values among its files. -/
  names : answer.HasNames

/-- What a run leaves when it fails. -/
def FailsSafely (setting : Setting ρ) (target : Target) (world : World ρ) (dir : ResultDir)
    (home : Place) (after : Files) : Failure → Prop
  -- Nothing was done to the results.
  | .load .. | .vars _ | .fields _ | .actionKinds .. | .unknownKind _ =>
    after.below (home ++ [folder]) = world.files.below (home ++ [folder])
  | .resultDir .. => after.result home = world.files.result home
  -- There is nothing but some first files of the answer, if there is one; an answer that
  -- breaks off has fewer of them.
  | .run .. => ∃ written, dir.Left home world.files after written ∧
    (written = [] ∨
      ∃ resolved answer, Answers setting target world dir resolved answer ∧
        written <+: answer.outputs)
  | .writeVars _ => ∃ resolved outputs,
    Answers setting target world dir resolved ⟨outputs, .ok ()⟩ ∧
    dir.Left home world.files after outputs
  -- There are the files of the answer and the values of the run, and nothing else.
  | .after _ => ∃ resolved outputs,
    Answers setting target world dir resolved ⟨outputs, .ok ()⟩ ∧
    dir.Left home world.files after
      (outputs ++ [(ResultDir.varsFile, Utf8.encode resolved.context.toJson.toList)])
  | .writeAfter _ => dir.Kept home world.files after
  -- A run does not fail in any other way.
  | _ => False

theorem failsSafely_of_isEarly {after : Files}
    (h : after.below (home ++ [folder]) = world.files.below (home ++ [folder]))
    (hfailure : failure.IsEarly) :
    FailsSafely setting target world dir home after failure := by
  match failure, hfailure with
  | .load .., _ | .vars _, _ | .fields _, _ | .actionKinds .., _ | .unknownKind _, _ => exact h

/-- The files of an answer and the values of a run have different names. -/
theorem nodup_of_answer {answer : Answer} (h : answer.HasNames) (content : List UInt8) :
    ((answer.outputs ++ [(ResultDir.varsFile, content)]).map Prod.fst).Nodup := by
  rw [List.map_append, List.nodup_append]
  have hnames : (answer.outputs.map Prod.fst).Nodup ∧
      ResultDir.varsFile ∉ answer.outputs.map Prod.fst := by
    rcases h with h | h
    · exact ⟨h.sublist.nodup (by decide), fun hmem => absurd (h.subset hmem) (by decide)⟩
    · exact ⟨h.sublist.nodup (by decide), fun hmem => absurd (h.subset hmem) (by decide)⟩
  refine ⟨hnames.1, by simp, fun name hname other hother hsame => ?_⟩
  obtain rfl : other = ResultDir.varsFile := by simpa using hother
  exact hnames.2 (hsame ▸ hname)

/-- Once the files of the answer are written, nothing is lost any more. -/
theorem failsSafely_of_conclude {outputs : List (String × List UInt8)} {acted after : World ρ}
    (hservices : Spares setting.services (dir.Untouched home)) (hdir : resolved.resultDir = dir)
    (hlate : ∀ component ∈ resolved.document.after, Files.IsName component.name)
    (hanswers : Answers setting target world dir resolved ⟨outputs, .ok ()⟩)
    (hsite : dir.Site home acted.files) (hleft : dir.Left home world.files acted.files outputs)
    (h : conclude setting resolved acted = (.error failure, after)) :
    FailsSafely setting target world dir home after.files failure := by
  subst hdir
  have hnames : ∀ file ∈ [(ResultDir.varsFile, Utf8.encode resolved.context.toJson.toList)],
      Files.IsName file.1 := by
    simpa using isName_varsFile
  obtain ⟨written, hpre, hleft', hok⟩ := hleft.writeFiles hsite hnames
    (nodup_of_answer hanswers.names _)
  have hsite' := (hsite.writeFiles hnames).1
  have hcourse := conclude_concluding setting resolved acted
  rw [h] at hcourse
  generalize hrest : ((.error failure, after) : Except Failure String × World ρ) = outcome
    at hcourse
  cases hcourse with
  | unnoted fault noted hnote =>
    cases hrest
    obtain ⟨hfiles, hfailed⟩ := writeFiles_of_withFiles (ResultDir.writeVars_eq _ _ _) hnote
    rw [hok] at hfailed
    rw [← hfiles] at hleft'
    -- the only file is not written
    rcases List.prefix_cons_iff.1 hpre with rfl | ⟨rest, rfl, hrest⟩
    · rw [List.append_nil] at hleft'
      exact ⟨resolved, outputs, hanswers, hleft'⟩
    · rw [List.prefix_nil.1 hrest] at hfailed
      cases hfailed.1 rfl
  | unresolved noted last error context hnote hafter =>
    cases hrest
    obtain ⟨hfiles, hdone⟩ := writeFiles_of_withFiles (ResultDir.writeVars_eq _ _ _) hnote
    obtain rfl := hok.1 (hdone.2 rfl)
    rw [← hfiles] at hleft'
    have huntouched := hservices.after (Untouched.refl _ home) Untouched.trans resolved.document
      resolved.context noted
    rw [hafter] at huntouched
    exact ⟨resolved, outputs, hanswers, hleft'.after_untouched huntouched⟩
  | unwritten noted ready last context fault hnote hafter hwrite =>
    cases hrest
    obtain ⟨hfiles, -⟩ := writeFiles_of_withFiles (ResultDir.writeVars_eq _ _ _) hnote
    rw [← hfiles] at hleft' hsite'
    have huntouched := hservices.after (Untouched.refl _ home) Untouched.trans resolved.document
      resolved.context noted
    rw [hafter] at huntouched
    obtain ⟨hfiles', -⟩ := writeFiles_of_withFiles (ResultDir.writeValues_eq _ _ _ _) hwrite
    rw [hfiles']
    refine (hleft'.after_untouched huntouched).toKept.writeFiles (huntouched.site hsite') ?_
    intro file hfile
    obtain ⟨component, hcomponent, rfl⟩ := List.mem_map.1 hfile
    exact hlate component hcomponent
  | done => cases hrest

theorem failsSafely_of_performIn {kind : Action.Kind} {ready begun after : World ρ}
    (hservices : Spares setting.services (dir.Untouched home)) (hdir : resolved.resultDir = dir)
    (hlate : ∀ component ∈ resolved.document.after, Files.IsName component.name)
    (htold : resolved.context.resultDir? = some dir.path)
    (hresolve : resolveTarget setting target world = (.ok resolved, ready))
    (hkind : kindOf setting resolved.document ready.files = .ok kind)
    (hprepare : ready.withFiles resolved.resultDir.prepare = (.ok (), begun))
    (hsite : dir.Site home begun.files) (hleft : dir.Left home world.files begun.files [])
    (h : performIn setting resolved kind ready = (.error failure, after)) :
    FailsSafely setting target world dir home after.files failure := by
  have hanswers : ∀ {call answer answered}, kind.call resolved.context begun.files = .ok call →
      call.answer setting.services begun = (answer, answered) →
      Answers setting target world dir resolved answer := by
    intro call answer answered hcall hanswer
    have hcalled := calledIn_eq hresolve hprepare
    rw [hdir] at hcalled
    refine ⟨by rw [hresolve], ⟨kind, call, ?_, ?_, ?_⟩, ?_⟩
    · rw [hresolve]
      exact hkind
    · rw [hcalled]
      exact hcall
    · rw [hcalled, hanswer]
    · have hnames := Call.hasNames_answer setting.services call begun
      rwa [hanswer] at hnames
  -- whatever the answer is, some first files of it are written and nothing else
  have hwritten : ∀ {call answer answered last outcome},
      kind.call resolved.context begun.files = .ok call →
      call.answer setting.services begun = (answer, answered) →
      (answered.withFiles fun files =>
        Action.Request.writeAll resolved.context files answer.outputs) = (outcome, last) →
      dir.Site home last.files ∧ ∃ written, written <+: answer.outputs ∧
        dir.Left home world.files last.files written ∧
        (outcome = .ok () → written = answer.outputs) := by
    intro call answer answered last outcome hcall hanswer hwrite
    have huntouched := hservices.answer call begun
    rw [hanswer] at huntouched
    have hhas := (hanswers hcall hanswer).names
    have hnames := isName_of_answer hhas
    have hnodup : (([] ++ answer.outputs).map Prod.fst).Nodup :=
      (nodup_of_answer hhas []).sublist ((List.sublist_append_left _ _).map _)
    obtain ⟨written, hpre, hleft', hok⟩ := (hleft.after_untouched huntouched).writeFiles
      (huntouched.site hsite) hnames hnodup
    obtain ⟨hfiles, hdone⟩ := writeFiles_of_withFiles (ResultDir.writeAll_eq htold _ _) hwrite
    rw [hfiles]
    exact ⟨((huntouched.site hsite).writeFiles hnames).1, written, hpre, hleft',
      fun houtcome => hok.1 (hdone.2 houtcome)⟩
  have hcourse := performIn_acting setting kind hprepare
  rw [h] at hcourse
  generalize hrest : ((.error failure, after) : Except Failure String × World ρ) = outcome
    at hcourse
  cases hcourse with
  | uncalled error hcall =>
    cases hrest
    exact ⟨[], hleft, .inl rfl⟩
  | unwritten call answer answered last error hcall hanswer hwrite =>
    cases hrest
    obtain ⟨-, written, hpre, hleft', -⟩ := hwritten hcall hanswer hwrite
    exact ⟨written, hleft', .inr ⟨resolved, answer, hanswers hcall hanswer, hpre⟩⟩
  | interrupted call answer answered last error hcall hanswer hwrite hending =>
    cases hrest
    obtain ⟨-, written, hpre, hleft', -⟩ := hwritten hcall hanswer hwrite
    exact ⟨written, hleft', .inr ⟨resolved, answer, hanswers hcall hanswer, hpre⟩⟩
  | acted call outputs answered acted hcall hanswer hwrite =>
    obtain ⟨hsite', written, -, hleft', hall⟩ := hwritten hcall hanswer hwrite
    obtain rfl := hall rfl
    exact failsSafely_of_conclude hservices hdir hlate (hanswers hcall hanswer) hsite' hleft'
      hrest.symm

/-! ## The whole -/

/-- The result of a document is apart from the way to the document, and from what the
document and the command line say. -/
structure WellPlaced (target : Target) (files : Files) (home : Place) : Prop where
  /-- The document's name can be the name of a directory. -/
  name : (ResultDir.forDocument target.file).currentFile ∉ ["", ".", ".."]
  /-- Whatever is in the folder of results is in a directory there. -/
  tree : IsTree (files.below (home ++ [folder]))
  /-- The way to the document does not lead through its own result. -/
  leads : ∀ document, load files target.file = .ok document →
    files.LeadsBeside ((ResultDir.forDocument target.file).place home)
      (ResultDir.forDocument target.file).currentDir home
  /-- Nobody sets `RESULTDIR`. -/
  overrides : Context.resultDirName ∉ target.overrides.map Prod.fst
  declared : ∀ document, load files target.file = .ok document →
    Context.resultDirName ∉ declaredNames document

theorem WellPlaced.site {document : Document} {files : Files} (h : WellPlaced target files home)
    (hload : load files target.file = .ok document) :
    (ResultDir.forDocument target.file).Site home files :=
  ⟨ResultDir.isProper_forDocument h.name, h.leads document hload, h.tree⟩

/-- **A run fails without a loss.**  A run that fails before its directory is prepared
leaves all results as they are.  One that fails later leaves the earlier results and
those files that it has written so far, when the document is well placed and stays so. -/
theorem failsSafely_of_run {after : World ρ}
    (hservices : Spares setting.services (SameResults home))
    (hplaced : failure.IsEarly ∨ WellPlaced target world.files home ∧
      Spares setting.services (SameWay (ResultDir.forDocument target.file) home))
    (hrun : run setting target world = (.error failure, after)) :
    FailsSafely setting target world (ResultDir.forDocument target.file) home after.files
      failure := by
  have hsame := hservices.resolveTarget (SameResults.refl home) SameResults.trans target world
  have hcourse := run_course setting target world
  rw [hrun] at hcourse
  generalize hrest : ((.error failure, after) : Except Failure String × World ρ) = outcome
    at hcourse
  cases hcourse with
  | unresolved other last hresolve =>
    cases hrest
    rw [hresolve] at hsame
    exact failsSafely_of_isEarly hsame (isResolution_of_resolveTarget hresolve).isEarly
  | unknown resolved ready other hresolve hkind =>
    cases hrest
    rw [hresolve] at hsame
    obtain ⟨action, -, -, -, -, haction, -⟩ := resolveTarget_eq_ok hresolve
    rcases kindOf_eq_error haction hkind with ⟨_, _, rfl⟩ | rfl
    · exact hsame
    · exact hsame
  | unprepared resolved ready last kind fault hresolve hkind hprepare =>
    cases hrest
    obtain ⟨hwell, hway⟩ := hplaced.resolve_left id
    have huntouched := (hservices.untouched hway).resolveTarget (Untouched.refl _ home)
      Untouched.trans target world
    rw [hresolve] at huntouched
    obtain ⟨_, _, _, hload, hdir, -⟩ := resolveTarget_eq_ok hresolve
    have hsite := huntouched.site (hwell.site hload)
    have hfailed := eq_of_withFiles hprepare
    rw [hdir] at hfailed
    rcases hsite.prepare_cases with ⟨_, heq, -⟩ | ⟨_, _, heq, hadd, -⟩
    · rw [heq] at hfailed
      cases hfailed
    · rw [heq] at hfailed
      obtain ⟨-, rfl⟩ := Prod.mk.inj hfailed
      exact hadd.result_eq.trans huntouched.result_eq
  | begun resolved ready begun kind hresolve hkind hprepare =>
    have hlate := not_isEarly_of_performIn hprepare (congrArg Prod.fst hrest.symm)
    obtain ⟨hwell, hway⟩ := hplaced.resolve_left hlate
    have huntouched := (hservices.untouched hway).resolveTarget (Untouched.refl _ home)
      Untouched.trans target world
    rw [hresolve] at huntouched
    obtain ⟨_, _, _, hload, hdir, -⟩ := resolveTarget_eq_ok hresolve
    have hsite := huntouched.site (hwell.site hload)
    have hprepared := eq_of_withFiles hprepare
    rw [hdir] at hprepared
    rcases hsite.prepare_cases with ⟨_, heq, hprepared'⟩ | ⟨_, _, heq, -, -⟩
    · rw [heq] at hprepared
      obtain ⟨-, rfl⟩ := Prod.mk.inj hprepared
      have htold := resultDir?_of_resolveTarget hresolve hwell.overrides
        (hwell.declared _ hload)
      rw [hdir] at htold
      exact failsSafely_of_performIn (hservices.untouched hway) hdir
        (Document.isName_of_load (load_eq_ok hload)) htold hresolve hkind hprepare
        hprepared'.site (hprepared'.left huntouched) hrest.symm
    · rw [heq] at hprepared
      cases hprepared

/-! ## Two actions that fail -/

/-- The earlier result is a file in a directory. -/
theorem result_filesWith (text name : String) : (filesWith text).result [] name =
    if name = "api" then Files.directoryWith [("body", [0x31])] else Files.bare := by
  funext rest
  by_cases hname : name = "api"
  · rw [if_pos hname, hname]
    match rest with
    | [] => rfl
    | [other] =>
      by_cases hother : other = "body"
      · rw [hother]
        rfl
      · have hbody : (other == "body") = false := by simpa using hother
        simp [Files.result, Files.below, Files.entryAt?, filesWith, folder, Files.directoryWith,
          List.lookup_cons, hbody]
    | _ :: _ :: _ =>
      simp [Files.result, Files.below, Files.entryAt?, filesWith, folder, Files.directoryWith,
        List.lookup_cons]
  · have hapi : (name == "api") = false := by simpa using hname
    simp [Files.result, Files.below, Files.entryAt?, filesWith, folder, List.lookup_cons, hname,
      hapi, Files.bare]

theorem isTree_filesWith (text : String) : IsTree ((filesWith text).below ([] ++ [folder])) := by
  refine Files.isTree_folder rfl fun name => ?_
  rw [result_filesWith]
  split
  · exact Files.isTree_directoryWith _
  · exact Files.isTree_bare

theorem wellPlaced_filesWith {text : String} {document : Document}
    (hload : load (filesWith text) "api.md" = .ok document)
    (hdeclared : Context.resultDirName ∉ declaredNames document) :
    WellPlaced ⟨"api.md", []⟩ (filesWith text) [] where
  name := by
    rw [forDocument_script]
    decide
  tree := isTree_filesWith text
  leads _ _ := by
    rw [forDocument_script]
    exact Files.find_point rfl true
  overrides := by simp
  declared other hother := by
    rw [hload] at hother
    cases hother
    exact hdeclared

/-- A document whose action is a request. -/
def pageText : String := "## type[http]\n### url\n\x60\x60\x60\nhttp://h/\n\x60\x60\x60\n"

def pageDocument : Document :=
  ⟨[], [], some ⟨"http", [⟨"url", .text, [], [.text "http://h/"], 2⟩]⟩⟩

/-- Every response has a body that breaks off. -/
def brokenSetting : Setting Unit :=
  ⟨⟨fun _ world => (.ok "", world), fun _ world => (.ok ⟨200, [], .error (.system 104)⟩, world)⟩,
    none⟩

/-- The earlier result is kept when the script fails, and when the answer to the request
breaks off; of this one there are the status and the headers. -/
theorem failsSafely_of_script :
    scriptFiles.result [] "api" ["body"] = some (.file [0x31]) ∧
      (∃ failure after,
        run (constantSetting (.error (.failed (.exited 3) ""))) ⟨"api.md", []⟩ ⟨scriptFiles, ()⟩ =
          (.error failure, after) ∧
        failure = .run "sh" (.command (.failed (.exited 3) "")) ∧
        FailsSafely (constantSetting (.error (.failed (.exited 3) ""))) ⟨"api.md", []⟩
          ⟨scriptFiles, ()⟩ (ResultDir.forDocument "api.md") [] after.files failure) ∧
      ∃ failure after,
        run brokenSetting ⟨"api.md", []⟩ ⟨filesWith pageText, ()⟩ = (.error failure, after) ∧
        failure = .run "http" (.http (.body (.system 104))) ∧
        after.files.entryAt? [".result", "api", "status"] =
          some (.file (Utf8.encode "200 OK".toList)) ∧
        after.files.entryAt? [".result", "api", "headers"] = some (.file []) ∧
        after.files.entryAt? [".result", "api", "body"] = none ∧
        FailsSafely brokenSetting ⟨"api.md", []⟩ ⟨filesWith pageText, ()⟩
          (ResultDir.forDocument "api.md") [] after.files failure := by
  have hscript : (run (constantSetting (.error (.failed (.exited 3) ""))) ⟨"api.md", []⟩
      ⟨scriptFiles, ()⟩).1 = .error (.run "sh" (.command (.failed (.exited 3) ""))) := by
    rw [run, resolveTarget_of_load (load_script _)]
    decide +kernel
  have hrun : run _ _ _ = (.error _, _) := Prod.ext hscript rfl
  have hload : load (filesWith pageText) "api.md" = .ok pageDocument := by decide +kernel
  have hpage : (run brokenSetting ⟨"api.md", []⟩ ⟨filesWith pageText, ()⟩).1 =
        .error (.run "http" (.http (.body (.system 104)))) ∧
      (run brokenSetting ⟨"api.md", []⟩ ⟨filesWith pageText, ()⟩).2.files.entryAt?
        [".result", "api", "status"] = some (.file (Utf8.encode "200 OK".toList)) ∧
      (run brokenSetting ⟨"api.md", []⟩ ⟨filesWith pageText, ()⟩).2.files.entryAt?
        [".result", "api", "headers"] = some (.file []) ∧
      (run brokenSetting ⟨"api.md", []⟩ ⟨filesWith pageText, ()⟩).2.files.entryAt?
        [".result", "api", "body"] = none := by
    have hthere : load (World.mk (filesWith pageText) ()).files (Target.mk "api.md" []).file =
        .ok pageDocument := hload
    rw [run, resolveTarget_of_load hthere]
    decide +kernel
  have hbroken : run _ _ _ = (.error _, _) := Prod.ext hpage.1 rfl
  refine ⟨?_, ⟨_, _, hrun, rfl, ?_⟩, ⟨_, _, hbroken, rfl, hpage.2.1, hpage.2.2.1, hpage.2.2.2, ?_⟩⟩
  · rw [scriptFiles, result_filesWith]
    rfl
  · exact failsSafely_of_run ⟨fun _ _ => rfl, fun _ _ => rfl⟩
      (.inr ⟨wellPlaced_filesWith load_scriptFiles (by decide), fun _ _ => id, fun _ _ => id⟩) hrun
  · exact failsSafely_of_run ⟨fun _ _ => rfl, fun _ _ => rfl⟩
      (.inr ⟨wellPlaced_filesWith hload (by decide), fun _ _ => id, fun _ _ => id⟩) hbroken

/-! ## A way through the result -/

/-- The way to the document leads through the document's earlier result. -/
def detourPath : String := ".result/api/sub/../../../api.md"

def detourFiles : Files :=
  ⟨[(["api.md"], .file (Utf8.encode scriptText.toList)), ([".result"], .directory),
    ([".result", "api"], .directory), ([".result", "api", "sub"], .directory)], []⟩

/-- A run ends with the error of its action. -/
theorem run_of_action_error {kind : Action.Kind} {ready begun after : World ρ}
    {error : ActionError} (hresolve : resolveTarget setting target world = (.ok resolved, ready))
    (hkind : kindOf setting resolved.document ready.files = .ok kind)
    (hprepare : ready.withFiles resolved.resultDir.prepare = (.ok (), begun))
    (hact : kind.run setting.services resolved.context begun = (.error error, after)) :
    run setting target world = (.error (.run kind.name error), after) := by
  simp only [run, hresolve, hkind, performIn, hprepare, hact]

/-- To make the new result, its directories are made again. -/
def detourBegun : Files :=
  ⟨[(["api.md"], .file (Utf8.encode scriptText.toList)), ([".result"], .directory),
    ([".result", "api_1"], .directory), ([".result", "api_1", "sub"], .directory),
    ([".result", "api"], .directory), ([".result", "api", "sub"], .directory)], []⟩

theorem prepare_detour :
    (ResultDir.forDocument detourPath).prepare detourFiles = (.ok (), detourBegun) := by
  have hdir : ResultDir.forDocument detourPath =
      ⟨".result/api/sub/../../..", "api", ".result/api/sub/../../../.result/api"⟩ := by
    decide +kernel
  have hthere : detourFiles.has ".result/api/sub/../../../.result/api" = true := by decide +kernel
  have hback : (ResultDir.mk ".result/api/sub/../../.." "api"
      ".result/api/sub/../../../.result/api").backup 1 =
        ".result/api/sub/../../../.result/api_1" := by decide +kernel
  have hfree : detourFiles.has ".result/api/sub/../../../.result/api_1" = false := by
    decide +kernel
  have hmove : detourFiles.move ".result/api/sub/../../../.result/api"
      ".result/api/sub/../../../.result/api_1" =
        (.ok (), ⟨detourBegun.entries.take 4, []⟩) := by decide +kernel
  have hmake : (Files.mk (detourBegun.entries.take 4) []).makeDirectories
      ".result/api/sub/../../../.result/api" = (.ok (), detourBegun) := by decide +kernel
  rw [hdir, ResultDir.prepare, if_pos hthere,
    ResultDir.backupNumber_eq_one (by rw [hback, hfree]), hback, hmove]
  exact hmake

/-- When the way to a document leads through its own result, a run that fails leaves
something in the new result that nobody has written. -/
theorem run_through_result :
    ∃ failure after,
      run (constantSetting (.error (.failed (.exited 3) ""))) ⟨detourPath, []⟩
        ⟨detourFiles, ()⟩ = (.error failure, after) ∧
      failure = .run "sh" (.command (.failed (.exited 3) "")) ∧
      (ResultDir.forDocument detourPath).currentFile = "api" ∧
      after.files.result [] "api" ["sub"] = some .directory := by
  have hresolve : resolveTarget (constantSetting (.error (.failed (.exited 3) "")))
      ⟨detourPath, []⟩ ⟨detourFiles, ()⟩ = (.ok ⟨scriptDocument, ResultDir.forDocument detourPath,
        (startContext ⟨detourPath, []⟩).insert "script" "echo hi"⟩, ⟨detourFiles, ()⟩) := by
    decide +kernel
  have hprepare : (World.mk detourFiles ()).withFiles (ResultDir.forDocument detourPath).prepare =
      (.ok (), ⟨detourBegun, ()⟩) := withFiles_of_eq prepare_detour
  have hact : Action.Kind.sh.run (constantSetting (.error (.failed (.exited 3) ""))).services
      ((startContext ⟨detourPath, []⟩).insert "script" "echo hi") ⟨detourBegun, ()⟩ =
        (.error (.command (.failed (.exited 3) "")), ⟨detourBegun, ()⟩) := by
    decide +kernel
  exact ⟨_, _, run_of_action_error hresolve rfl hprepare hact, rfl, by decide +kernel,
    by decide +kernel⟩

end CallSheet.Cli
