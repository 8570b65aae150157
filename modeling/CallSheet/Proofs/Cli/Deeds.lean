import CallSheet.Proofs.Cli.Course
import CallSheet.Proofs.Cli.Recording
import CallSheet.Proofs.Document.Loaded
import CallSheet.Proofs.ResultDir.Write
import CallSheet.Proofs.Template

/-!
# What a run does to the world

A successful run as a list of deeds: calls, the preparation of the result directory,
and files that are written.  The world after the run is what these deeds leave.

There are four groups.

* Deeds.  `replay` does deeds one after the other.
* Stages.  The deeds of each stage of a run.
* The whole.  `one_directory`: one directory is prepared and printed, and every file
  that is written is in it, unless `RESULTDIR` is set.
* A script.  A document, files and services to run it with: once in one directory,
  and once with `RESULTDIR` set, so that the answer goes elsewhere (`run_elsewhere`).
-/

namespace CallSheet.Cli

open CallSheet.Action (Call Answer)
open Text

variable {ρ : Type}

/-! ## Deeds -/

/-- Something that is done to the world. -/
inductive Deed where
  | call (call : Call)
  | prepare (dir : ResultDir)
  | write (path : String) (content : List UInt8)

/-- The world after a deed. -/
def Deed.apply (services : Services ρ) (world : World ρ) : Deed → World ρ
  | .call asked => (asked.answer services world).2
  | .prepare dir => { world with files := (dir.prepare world.files).2 }
  | .write path content => { world with files := (world.files.write path content).2 }

/-- The world after some deeds. -/
def replay (services : Services ρ) (world : World ρ) (deeds : List Deed) : World ρ :=
  deeds.foldl (Deed.apply services) world

theorem replay_append (services : Services ρ) (world : World ρ) (first second : List Deed) :
    replay services world (first ++ second) =
      replay services (replay services world first) second :=
  List.foldl_append

/-- A command as a deed. -/
def Deed.command (text : String) : Deed := .call (.command text)

/-- A file in a result directory as a deed. -/
def Deed.file (dir : ResultDir) (output : String × List UInt8) : Deed :=
  .write (dir.fileAt output.1) output.2

/-- A deed that leaves everything outside a result directory to the services. -/
def Deed.IsIn (dir : ResultDir) : Deed → Prop
  | .call _ => True
  | .prepare other => other = dir
  | .write path _ => ∃ name, Files.IsName name ∧ path = dir.fileAt name

/-! ## Stages -/

variable {setting : Setting ρ} {target : Target} {world : World ρ} {resolved : Resolved}

theorem apply_command (services : Services ρ) (world : World ρ) (text : String) :
    (Deed.command text).apply services world = (services.runner text world).2 := by
  rw [Deed.command, Deed.apply, Call.answer]
  cases services.runner text world with
  | mk outcome after => cases outcome <;> rfl

theorem leave_eq_replay (setting : Setting ρ) (world : World ρ) (commands : List String) :
    setting.resolver.leave world commands =
      replay setting.services world (commands.map .command) := by
  rw [Resolver.leave, replay, List.foldl_map]
  simp only [apply_command]
  rfl

theorem action_eq_leave (setting : Setting ρ) (document : Document) (context : Context)
    (world : World ρ) :
    (setting.resolver.action document context world).state =
      setting.resolver.leave world (fieldCommands setting document context world) := by
  rw [Resolver.action, fieldCommands]
  cases document.action with
  | none => rfl
  | some action => exact Resolver.leave_resolve ..

theorem resolveTarget_eq_replay (setting : Setting ρ) (target : Target) (world : World ρ) :
    (resolveTarget setting target world).2 =
      replay setting.services world ((targetCommands setting target world).map .command) := by
  rw [← leave_eq_replay, targetCommands]
  cases hload : load world.files target.file with
  | error failure =>
    rw [resolveTarget_of_load_error hload]
    rfl
  | ok document =>
    have hleave : (setting.resolver.vars document (startContext target) world).state =
        setting.resolver.leave world
          (setting.resolver.commands false (startContext target) world document.vars) :=
      Resolver.leave_resolve ..
    rw [resolveTarget_of_load hload]
    simp only [Resolver.leave_append, ← hleave]
    cases setting.resolver.vars document (startContext target) world with
    | mk result context middle =>
      cases result with
      | error error => rfl
      | ok done =>
        have hfields := action_eq_leave setting document context middle
        simp only
        rw [← hfields]
        cases setting.resolver.action document context middle with
        | mk result final last => cases result <;> rfl

theorem eq_of_withFiles {ε : Type} {world after : World ρ} {outcome : Except ε Unit}
    {change : Files → Except ε Unit × Files} (h : world.withFiles change = (outcome, after)) :
    change world.files = (outcome, after.files) := by
  obtain ⟨rfl, rfl⟩ := Prod.mk.inj h
  rfl

theorem withFiles_of_eq {ε : Type} {world : World ρ} {files : Files} {outcome : Except ε Unit}
    {change : Files → Except ε Unit × Files} (h : change world.files = (outcome, files)) :
    world.withFiles change = (outcome, { world with files := files }) := by
  rw [World.withFiles, h]

theorem withFiles_prepare {ready begun : World ρ} {dir : ResultDir}
    (h : ready.withFiles dir.prepare = (.ok (), begun)) (services : Services ρ) :
    begun = replay services ready [.prepare dir] := by
  rw [World.withFiles] at h
  exact (Prod.mk.inj h).2.symm

/-- Writing all of some files is one deed for each. -/
theorem writeFiles_eq_replay {dir : ResultDir} {world : World ρ}
    {outputs : List (String × List UInt8)} {files : Files}
    (h : dir.writeFiles world.files outputs = (.ok (), files)) (services : Services ρ) :
    { world with files := files } = replay services world (outputs.map (.file dir)) := by
  induction outputs generalizing world with
  | nil =>
    cases h
    rfl
  | cons output outputs ih =>
    obtain ⟨name, content⟩ := output
    cases hwrite : world.files.write (dir.fileAt name) content with
    | mk outcome middle =>
      cases outcome with
      | error fault =>
        rw [ResultDir.writeFiles_cons_of_error hwrite] at h
        cases h
      | ok done =>
        rw [ResultDir.writeFiles_cons_of_ok hwrite] at h
        have hstep : (Deed.file dir (name, content)).apply services world =
            { world with files := middle } := by
          rw [Deed.file, Deed.apply, hwrite]
        have hrest : dir.writeFiles ({ world with files := middle } : World ρ).files outputs =
            (.ok (), files) := h
        rw [List.map_cons, replay, List.foldl_cons, hstep]
        exact ih hrest

/-- What comes of changing the files by writing to the result directory. -/
theorem writeFiles_of_withFiles {ε : Type} {dir : ResultDir} {world after : World ρ}
    {outputs : List (String × List UInt8)} {outcome : Except ε Unit}
    {change : Files → Except ε Unit × Files} {wrap : String × Fault → ε}
    (hchange : change world.files =
      ((dir.writeFiles world.files outputs).1.mapError wrap,
        (dir.writeFiles world.files outputs).2))
    (h : world.withFiles change = (outcome, after)) :
    after.files = (dir.writeFiles world.files outputs).2 ∧
      ((dir.writeFiles world.files outputs).1 = .ok () ↔ outcome = .ok ()) := by
  have heq := eq_of_withFiles h
  rw [hchange] at heq
  obtain ⟨houtcome, hfiles⟩ := Prod.mk.inj heq
  refine ⟨hfiles.symm, ?_⟩
  rw [← houtcome]
  cases (dir.writeFiles world.files outputs).1 <;> simp [Except.mapError]

/-- Writing all of some files is one deed for each, however it is done. -/
theorem withFiles_eq_replay {ε : Type} {dir : ResultDir} {world after : World ρ}
    {outputs : List (String × List UInt8)} {change : Files → Except ε Unit × Files}
    {wrap : String × Fault → ε}
    (hchange : change world.files =
      ((dir.writeFiles world.files outputs).1.mapError wrap,
        (dir.writeFiles world.files outputs).2))
    (h : world.withFiles change = (.ok (), after)) (services : Services ρ) :
    after = replay services world (outputs.map (.file dir)) := by
  obtain ⟨hfiles, hok⟩ := writeFiles_of_withFiles hchange h
  obtain ⟨-, rfl⟩ := Prod.mk.inj h
  exact writeFiles_eq_replay (Prod.ext (hok.2 rfl) hfiles.symm) services

/-! ## The whole -/

/-- Everything that a run does: the target is resolved, the directory is prepared, the
call is answered, the files of the answer and the values of the run are written, and
then the variables after the action are resolved and written. -/
def deedsOf (setting : Setting ρ) (target : Target) (world : World ρ) (dir : ResultDir)
    (call : Call) (outputs values late : List (String × List UInt8)) (commands : List String) :
    List Deed :=
  (targetCommands setting target world).map .command ++ [.prepare dir] ++ [.call call] ++
    outputs.map (.file dir) ++ values.map (.file dir) ++ commands.map .command ++
    late.map (.file dir)

/-- The world that an action is called in: the target is resolved and the directory is
prepared. -/
def calledIn (setting : Setting ρ) (target : Target) (world : World ρ) (dir : ResultDir) :
    World ρ :=
  ((resolveTarget setting target world).2.withFiles dir.prepare).2

theorem calledIn_eq {dir : ResultDir} {outcome : Except Failure Resolved}
    {done : Except Fault Unit} {ready begun : World ρ}
    (hresolve : resolveTarget setting target world = (outcome, ready))
    (hprepare : ready.withFiles dir.prepare = (done, begun)) :
    calledIn setting target world dir = begun := by
  rw [calledIn, hresolve, hprepare]

/-- What a successful run does, with a document's result directory. -/
structure InDirectory (setting : Setting ρ) (target : Target) (world : World ρ) (output : String)
    (after : World ρ) (dir : ResultDir) (resolved : Resolved) (call : Call)
    (outputs values late : List (String × List UInt8)) (commands : List String) : Prop where
  resolves : (resolveTarget setting target world).1 = .ok resolved
  /-- The action is told of the directory. -/
  told : resolved.context.resultDir? = some dir.path
  /-- What it is told is what it makes up its call from. -/
  calls : ∃ kind,
    kindOf setting resolved.document (resolveTarget setting target world).2.files = .ok kind ∧
    kind.call resolved.context (calledIn setting target world dir).files = .ok call
  /-- The answer to the call is what it writes. -/
  answered : (call.answer setting.services (calledIn setting target world dir)).1 =
    ⟨outputs, .ok ()⟩
  deeds : after = replay setting.services world
    (deedsOf setting target world dir call outputs values late commands)
  inside : ∀ deed ∈ deedsOf setting target world dir call outputs values late commands,
    deed.IsIn dir
  outputNames : outputs.map Prod.fst = [Action.bodyFile] ∨
    outputs.map Prod.fst = ["status", "headers", Action.bodyFile]
  values : values = [(ResultDir.varsFile, Utf8.encode resolved.context.toJson.toList)]
  lateNames : late.map Prod.fst = resolved.document.after.map Component.name
  prints : output = dir.path ++ "\n"

/-- The files of every answer have names of files. -/
theorem isName_of_answer {answer : Answer} (h : answer.HasNames) :
    ∀ output ∈ answer.outputs, Files.IsName output.1 := by
  have hnames : ∀ name ∈ ["status", "headers", Action.bodyFile], Files.IsName name := by
    simp only [List.forall_mem_cons]
    exact ⟨⟨by decide, by decide, by decide⟩, ⟨by decide, by decide, by decide⟩,
      ⟨by decide, by decide, by decide⟩, by simp⟩
  intro output hmem
  have hname : output.1 ∈ answer.outputs.map Prod.fst := List.mem_map_of_mem hmem
  rcases h with h | h
  · exact hnames _ (List.mem_of_mem_tail (List.mem_of_mem_tail (h.subset hname)))
  · exact hnames _ (h.subset hname)

theorem isName_varsFile : Files.IsName ResultDir.varsFile :=
  ⟨by decide, by decide, by decide⟩

theorem map_fst_valueFiles (context : Context) (components : List Component) :
    (ResultDir.valueFiles context components).map Prod.fst = components.map Component.name := by
  rw [ResultDir.valueFiles, List.map_map]
  rfl

/-- Files with names of files are written in the directory. -/
theorem isIn_of_file {dir : ResultDir} {files : List (String × List UInt8)}
    (h : ∀ file ∈ files, Files.IsName file.1) {deed : Deed} (hdeed : deed ∈ files.map (.file dir)) :
    deed.IsIn dir := by
  obtain ⟨file, hmem, rfl⟩ := List.mem_map.1 hdeed
  exact ⟨file.1, h file hmem, rfl⟩

theorem isIn_of_deedsOf {dir : ResultDir} {call : Call}
    {outputs values late : List (String × List UInt8)} {commands : List String}
    (houtputs : ∀ file ∈ outputs, Files.IsName file.1)
    (hvalues : ∀ file ∈ values, Files.IsName file.1)
    (hlate : ∀ file ∈ late, Files.IsName file.1) :
    ∀ deed ∈ deedsOf setting target world dir call outputs values late commands,
      deed.IsIn dir := by
  intro deed hdeed
  simp only [deedsOf, List.mem_append, List.mem_cons, List.not_mem_nil, or_false] at hdeed
  have hcommand : ∀ texts : List String, deed ∈ texts.map Deed.command → deed.IsIn dir := by
    intro texts hmem
    obtain ⟨text, -, rfl⟩ := List.mem_map.1 hmem
    trivial
  rcases hdeed with (((((hdeed | rfl) | rfl) | hdeed) | hdeed) | hdeed) | hdeed
  · exact hcommand _ hdeed
  · rfl
  · trivial
  · exact isIn_of_file houtputs hdeed
  · exact isIn_of_file hvalues hdeed
  · exact hcommand _ hdeed
  · exact isIn_of_file hlate hdeed

/-- The stages of a successful run. -/
theorem run_eq_ok {output : String} {after : World ρ}
    (hrun : run setting target world = (.ok output, after)) :
    ∃ resolved kind call outputs context ready begun answered acted noted late,
      resolveTarget setting target world = (.ok resolved, ready) ∧
      kindOf setting resolved.document ready.files = .ok kind ∧
      ready.withFiles resolved.resultDir.prepare = (.ok (), begun) ∧
      Action.Kind.call kind resolved.context begun.files = .ok call ∧
      call.answer setting.services begun = (⟨outputs, .ok ()⟩, answered) ∧
      (answered.withFiles fun files =>
        Action.Request.writeAll resolved.context files outputs) = (.ok (), acted) ∧
      acted.withFiles (resolved.resultDir.writeVars resolved.context) = (.ok (), noted) ∧
      setting.resolver.after resolved.document resolved.context noted = ⟨.ok (), context, late⟩ ∧
      late.withFiles (resolved.resultDir.writeAfter resolved.document context) = (.ok (), after) ∧
      output = lines [resolved.resultDir.path] := by
  have hcourse := run_course setting target world
  rw [hrun] at hcourse
  generalize hrest : ((.ok output, after) : Except Failure String × World ρ) = outcome at hcourse
  cases hcourse with
  | unresolved | unknown | unprepared => cases hrest
  | begun resolved ready begun kind hresolve hkind hprepare =>
  have hacting := performIn_acting setting kind hprepare
  rw [← hrest] at hacting
  clear hrest
  generalize hrest : ((.ok output, after) : Except Failure String × World ρ) = outcome at hacting
  cases hacting with
  | uncalled | unwritten | interrupted => cases hrest
  | acted call outputs answered acted hcall hanswer hwrite =>
  have hconcluding := conclude_concluding setting resolved acted
  rw [← hrest] at hconcluding
  cases hconcluding with
  | done noted late _ context hnote hlate hwriteLate =>
    exact ⟨resolved, kind, call, outputs, context, ready, begun, answered, acted, noted, late,
      hresolve, hkind, hprepare, hcall, hanswer, hwrite, hnote, hlate, hwriteLate, rfl⟩

/-- **One run, one directory.**  Unless an override or the document sets `RESULTDIR`,
the action of a successful run is told of the document's result directory; this one is
prepared and printed, and everything that the run writes is a file in it. -/
theorem one_directory {output : String} {after : World ρ}
    (hoverrides : Context.resultDirName ∉ target.overrides.map Prod.fst)
    (hdeclared : ∀ document, load world.files target.file = .ok document →
      Context.resultDirName ∉ declaredNames document)
    (hrun : run setting target world = (.ok output, after)) :
    ∃ resolved call outputs values late commands,
      InDirectory setting target world output after (ResultDir.forDocument target.file) resolved
        call outputs values late commands := by
  obtain ⟨resolved, kind, call, outputs, context, ready, begun, answered, acted, noted, last,
    hresolve, hkind, hprepare, hcall, hanswer, hwrite, hnote, hlate, hwriteLate, hprints⟩ :=
    run_eq_ok hrun
  obtain ⟨_, _, _, hload, hdir, -⟩ := resolveTarget_eq_ok hresolve
  have htold : resolved.context.resultDir? = some resolved.resultDir.path :=
    resultDir?_of_resolveTarget hresolve hoverrides (hdeclared _ hload)
  have hnames := Call.hasNames_answer setting.services call begun
  rw [hanswer] at hnames
  have hlateNames : ∀ file ∈ ResultDir.valueFiles context resolved.document.after,
      Files.IsName file.1 := by
    intro file hfile
    obtain ⟨component, hcomponent, rfl⟩ := List.mem_map.1 hfile
    exact Document.isName_of_load (load_eq_ok hload) component hcomponent
  -- one stage after the other, each from the world that the one before it leaves
  have hready : ready = replay setting.services world
      ((targetCommands setting target world).map .command) := by
    rw [← resolveTarget_eq_replay, hresolve]
  have hbegun := withFiles_prepare hprepare setting.services
  have hanswered : answered = replay setting.services begun [.call call] :=
    (congrArg Prod.snd hanswer).symm
  have hacted := withFiles_eq_replay (ResultDir.writeAll_eq htold _ _) hwrite setting.services
  have hnoted := withFiles_eq_replay (ResultDir.writeVars_eq _ _ _) hnote setting.services
  have hlast : last = replay setting.services noted
      ((setting.resolver.commands true resolved.context noted resolved.document.after).map
        .command) := by
    rw [← leave_eq_replay, ← Resolver.leave_resolve]
    exact (congrArg Resolver.Outcome.state hlate).symm
  have hafter := withFiles_eq_replay (ResultDir.writeValues_eq _ _ _ _) hwriteLate setting.services
  rw [hdir] at htold hbegun hacted hnoted hafter hprints
  refine ⟨resolved, call, outputs,
    [(ResultDir.varsFile, Utf8.encode resolved.context.toJson.toList)],
    ResultDir.valueFiles context resolved.document.after,
    setting.resolver.commands true resolved.context noted resolved.document.after, ?_, htold,
    ⟨kind, ?_, ?_⟩, ?_, ?_, isIn_of_deedsOf (isName_of_answer hnames) ?_ hlateNames,
    Call.names_of_answer hanswer, rfl, map_fst_valueFiles _ _, ?_⟩
  · rw [hresolve]
  · rw [hresolve]
    exact hkind
  · rw [← hdir, calledIn_eq hresolve hprepare]
    exact hcall
  · rw [← hdir, calledIn_eq hresolve hprepare, hanswer]
  · rw [hafter, hlast, hnoted, hacted, hanswered, hbegun, hready]
    simp only [deedsOf, replay_append]
  · simpa using isName_varsFile
  · rw [hprints]
    rfl

/-! ## A script -/

/-- A document whose action is a script. -/
def scriptText : String := "## type[sh]\n### script\n\x60\x60\x60\necho hi\n\x60\x60\x60\n"

def scriptDocument : Document :=
  ⟨[], [], some ⟨"sh", [⟨"script", .text, [], [.text "echo hi"], 2⟩]⟩⟩

/-- A document, a directory and an earlier result. -/
def filesWith (text : String) : Files :=
  ⟨[(["api.md"], .file (Utf8.encode text.toList)), (["out"], .directory),
    ([".result"], .directory), ([".result", "api"], .directory),
    ([".result", "api", "body"], .file [0x31])], []⟩

/-- The document with the script among them. -/
def scriptFiles : Files := filesWith scriptText

/-- The earlier result is kept and a new one is begun. -/
def scriptBegun : Files :=
  ⟨[(["api.md"], .file (Utf8.encode scriptText.toList)), (["out"], .directory),
    ([".result"], .directory), ([".result", "api_1"], .directory),
    ([".result", "api_1", "body"], .file [0x31]), ([".result", "api"], .directory)], []⟩

/-- Every command has the same answer and changes nothing. -/
def constantSetting (answer : Except CommandError String) : Setting Unit :=
  ⟨⟨fun _ world => (answer, world), .offline⟩, none⟩

theorem forDocument_script : ResultDir.forDocument "api.md" = ⟨".", "api", "./.result/api"⟩ := by
  decide +kernel

theorem load_scriptFiles : load scriptFiles "api.md" = .ok scriptDocument := by decide +kernel

/-- Loading the document, for a target. -/
theorem load_script (overrides : List (String × String)) :
    load (World.mk scriptFiles ()).files (Target.mk "api.md" overrides).file =
      .ok scriptDocument := load_scriptFiles

theorem prepare_script :
    (ResultDir.forDocument "api.md").prepare scriptFiles = (.ok (), scriptBegun) := by
  decide +kernel

/-- The script is run in one directory. -/
theorem one_directory_of_script :
    Context.resultDirName ∉ declaredNames scriptDocument ∧
      ∃ output after resolved call outputs values late commands,
        run (constantSetting (.ok "hi")) ⟨"api.md", []⟩ ⟨scriptFiles, ()⟩ = (.ok output, after) ∧
        InDirectory (constantSetting (.ok "hi")) ⟨"api.md", []⟩ ⟨scriptFiles, ()⟩ output after
          (ResultDir.forDocument "api.md") resolved call outputs values late commands := by
  have hdeclared : Context.resultDirName ∉ declaredNames scriptDocument := by decide
  have hprints : (run (constantSetting (.ok "hi")) ⟨"api.md", []⟩ ⟨scriptFiles, ()⟩).1 =
      .ok "./.result/api\n" := by
    rw [run, resolveTarget_of_load (load_script _)]
    decide +kernel
  have hrun : run _ _ _ = (.ok _, _) := Prod.ext hprints rfl
  obtain ⟨resolved, call, outputs, values, late, commands, hone⟩ :=
    one_directory (by simp) (fun document hload => by
      rw [load_scriptFiles] at hload
      cases hload
      exact hdeclared) hrun
  exact ⟨hdeclared, _, _, resolved, call, outputs, values, late, commands, hrun, hone⟩

/-- When `RESULTDIR` is set on the command line, the directory that is printed is not
the one that the action writes to. -/
theorem run_elsewhere :
    ∃ after resolved, run (constantSetting (.ok "hi")) ⟨"api.md", [("RESULTDIR", "out")]⟩
        ⟨scriptFiles, ()⟩ = (.ok "./.result/api\n", after) ∧
      (resolveTarget (constantSetting (.ok "hi")) ⟨"api.md", [("RESULTDIR", "out")]⟩
        ⟨scriptFiles, ()⟩).1 = .ok resolved ∧
      resolved.context.resultDir? = some "out" ∧
      after.files.entryAt? ["out", "body"] = some (.file (Utf8.encode "hi".toList)) ∧
      after.files.entryAt? [".result", "api", "body"] = none := by
  have hrun : (run (constantSetting (.ok "hi")) ⟨"api.md", [("RESULTDIR", "out")]⟩
      ⟨scriptFiles, ()⟩).1 = .ok "./.result/api\n" ∧
      (run (constantSetting (.ok "hi")) ⟨"api.md", [("RESULTDIR", "out")]⟩
        ⟨scriptFiles, ()⟩).2.files.entryAt? ["out", "body"] =
          some (.file (Utf8.encode "hi".toList)) ∧
      (run (constantSetting (.ok "hi")) ⟨"api.md", [("RESULTDIR", "out")]⟩
        ⟨scriptFiles, ()⟩).2.files.entryAt? [".result", "api", "body"] = none := by
    rw [run, resolveTarget_of_load (load_script _)]
    decide +kernel
  have hresolve : (resolveTarget (constantSetting (.ok "hi"))
      ⟨"api.md", [("RESULTDIR", "out")]⟩ ⟨scriptFiles, ()⟩).1 =
        .ok ⟨scriptDocument, ResultDir.forDocument "api.md",
          (startContext ⟨"api.md", [("RESULTDIR", "out")]⟩).insert "script" "echo hi"⟩ := by
    rw [resolveTarget_of_load (load_script _)]
    decide +kernel
  exact ⟨_, _, Prod.ext hrun.1 rfl, hresolve, by decide +kernel, hrun.2.1, hrun.2.2⟩

end CallSheet.Cli
