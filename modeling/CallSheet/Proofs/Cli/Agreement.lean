import CallSheet.Proofs.Cli.Recording
import CallSheet.Proofs.Context.Json
import CallSheet.Proofs.Context.Yaml
import CallSheet.Proofs.ResultDir.Values
import CallSheet.Proofs.Template.Layout

/-!
# Three commands agree

The commands `resolve`, `compile` and `run` start in the same way and then go on
differently.  This module says how far they agree.

There are three groups.

* Errors.  `resolve` and `run` have the errors of the target in common.
* Values.  `Notes` says that a run writes down the text that `resolve` prints as JSON,
  and that this and what `resolve` prints as YAML record the same values.
* Commands.  `HasTemplate` says that the kind of the action has a template.  Its command
  is what `compile` prints, and what a run sends for the action between the commands of
  the target and those of the variables after it.

`agreement` is all of it.
-/

namespace CallSheet.Cli

open Text

variable {ρ : Type} {setting : Setting ρ} {target : Target} {world : World ρ}
  {resolved : Resolved} {kind : Action.Kind}

/-! ## Errors -/

theorem resolve_eq_error_iff {format : Format} {failure : Failure} {after : World ρ} :
    resolve setting target format world = (.error failure, after) ↔
      resolveTarget setting target world = (.error failure, after) := by
  rw [resolve]
  cases resolveTarget setting target world with
  | mk outcome ready => cases outcome <;> simp

/-- A run fails with an error of the target only if there is no target. -/
theorem resolveTarget_of_course {outcome : Except Failure String × World ρ}
    (h : Course setting target world outcome) {failure : Failure}
    (hfailure : outcome.1 = .error failure) (hkind : failure.IsResolution) :
    resolveTarget setting target world = (.error failure, outcome.2) := by
  cases h with
  | unresolved other after hresolve =>
    cases hfailure
    exact hresolve
  | unknown resolved ready other hresolve hunknown =>
    cases hfailure
    obtain ⟨action, -, -, -, -, haction, -⟩ := resolveTarget_eq_ok hresolve
    rcases kindOf_eq_error haction hunknown with ⟨_, _, rfl⟩ | rfl
    · exact hkind.elim
    · exact hkind.elim
  | unprepared =>
    cases hfailure
    exact hkind.elim
  | begun _ _ _ _ _ _ hprepare =>
    exact absurd hkind.isEarly (not_isEarly_of_performIn hprepare hfailure)

/-- `resolve` fails where a run fails in loading the document or in resolving its
variables or fields, with the same error. -/
theorem resolve_error_iff_run {format : Format} {failure : Failure} {after : World ρ} :
    resolve setting target format world = (.error failure, after) ↔
      run setting target world = (.error failure, after) ∧ failure.IsResolution := by
  rw [resolve_eq_error_iff]
  constructor
  · intro h
    refine ⟨?_, isResolution_of_resolveTarget h⟩
    rw [run, h]
  · rintro ⟨hrun, hkind⟩
    have hcourse := run_course setting target world
    rw [hrun] at hcourse
    exact resolveTarget_of_course hcourse rfl hkind

/-! ## Values -/

/-- Whether a run with an outcome has written down its values. -/
def HasNoted : Except Failure String → Prop
  | .ok _ | .error (.after _) | .error (.writeAfter _) => True
  | .error _ => False

/-- A run writes down the values of a target as JSON, and `resolve` prints this text, or
the same values as YAML. -/
structure Notes (setting : Setting ρ) (target : Target) (world : World ρ) (resolved : Resolved)
    (acted noted : World ρ) (json yaml : String) : Prop where
  /-- The values are written after the action, and before anything else is done. -/
  concludes : run setting target world = conclude setting resolved acted
  writes : acted.withFiles (·.write (resolved.resultDir.fileAt ResultDir.varsFile)
    (Utf8.encode json.toList)) = (.ok (), noted)
  /-- They are in the file, unless there was something else than a file before. -/
  stored : (acted.files.has (resolved.resultDir.fileAt ResultDir.varsFile) = true →
      acted.files.isFile (resolved.resultDir.fileAt ResultDir.varsFile) = true) →
    noted.files.read (resolved.resultDir.fileAt ResultDir.varsFile) =
      .ok (Utf8.encode json.toList)
  /-- `resolve` prints what was written. -/
  printed : (resolve setting target .json world).1 = .ok json
  recorded : Json.Records json resolved.context
  /-- In the other format it prints the same names and values, in the same order. -/
  listed : (resolve setting target .yaml world).1 = .ok yaml
  relisted : Yaml.Records yaml resolved.context
  /-- They are those after the variables and the fields. -/
  values : ∃ action context middle ready,
    load world.files target.file = .ok resolved.document ∧
    resolved.document.action = some action ∧
    setting.resolver.resolve false (startContext target) world resolved.document.vars =
      ⟨.ok (), context, middle⟩ ∧
    setting.resolver.resolve true context middle action.fields = ⟨.ok (), resolved.context, ready⟩
  /-- No name is there that only the variables after the action have. -/
  names : ∀ name, resolved.context.get? name ≠ none → name ∈ Context.reserved ∨
    name ∈ target.overrides.map Prod.fst ∨ name ∈ declaredNames resolved.document

theorem exists_noted {acted : World ρ}
    (h : HasNoted (conclude setting resolved acted).1) :
    ∃ noted, acted.withFiles (resolved.resultDir.writeVars resolved.context) = (.ok (), noted) := by
  have hcourse := conclude_concluding setting resolved acted
  generalize conclude setting resolved acted = outcome at *
  cases hcourse with
  | unnoted => exact h.elim
  | unresolved noted _ _ _ hnote => exact ⟨noted, hnote⟩
  | unwritten noted _ _ _ _ hnote => exact ⟨noted, hnote⟩
  | done noted _ _ _ hnote => exact ⟨noted, hnote⟩

theorem resolve_of_resolveTarget {ready : World ρ}
    (h : resolveTarget setting target world = (.ok resolved, ready)) (format : Format) :
    resolve setting target format world = (.ok (formatted resolved.context format), ready) := by
  rw [resolve, h]

/-- The values that a run writes down. -/
theorem notes_of_conclude {ready acted noted : World ρ}
    (hresolve : resolveTarget setting target world = (.ok resolved, ready))
    (hrun : run setting target world = conclude setting resolved acted)
    (hnote : acted.withFiles (resolved.resultDir.writeVars resolved.context) = (.ok (), noted)) :
    Notes setting target world resolved acted noted resolved.context.toJson
      resolved.context.toYaml := by
  obtain ⟨action, context, middle, hload, -, haction, hvars, hfields⟩ :=
    resolveTarget_eq_ok hresolve
  have hwrite : acted.files.write (resolved.resultDir.fileAt ResultDir.varsFile)
      (Utf8.encode resolved.context.toJson.toList) = (.ok (), noted.files) := by
    simp only [World.withFiles, ResultDir.writeVars, ResultDir.writeText] at hnote
    generalize acted.files.write (resolved.resultDir.fileAt ResultDir.varsFile)
      (Utf8.encode resolved.context.toJson.toList) = outcome at *
    obtain ⟨outcome, files⟩ := outcome
    cases hnote
    rfl
  exact {
    concludes := hrun
    writes := hnote
    stored := fun hfile => Files.read_of_write hfile hwrite
    printed := by rw [resolve_of_resolveTarget hresolve, formatted]
    recorded := Json.records_toJson resolved.context
    listed := by rw [resolve_of_resolveTarget hresolve, formatted]
    relisted := Yaml.records_toYaml resolved.context
    values := ⟨action, context, middle, ready, hload, haction, hvars, hfields⟩
    names := fun _ => mem_of_get?_resolveTarget hresolve }

theorem exists_notes (h : HasNoted (run setting target world).1) :
    ∃ resolved acted noted json yaml,
      Notes setting target world resolved acted noted json yaml := by
  have hcourse := run_course setting target world
  generalize hrun : run setting target world = outcome at *
  cases hcourse with
  | unresolved failure after hresolve =>
    have hkind := isResolution_of_resolveTarget hresolve
    cases failure <;> first | exact h.elim | exact hkind.elim
  | unknown resolved ready failure hresolve hunknown =>
    obtain ⟨action, -, -, -, -, haction, -⟩ := resolveTarget_eq_ok hresolve
    rcases kindOf_eq_error haction hunknown with ⟨_, _, rfl⟩ | rfl
    · exact h.elim
    · exact h.elim
  | unprepared => exact h.elim
  | begun resolved ready begun kind hresolve hkind hprepare =>
    have hacting := performIn_acting setting kind hprepare
    generalize hperform : performIn setting resolved kind ready = outcome at *
    cases hacting with
    | uncalled | unwritten | interrupted => exact h.elim
    | acted call outputs answered acted =>
      obtain ⟨noted, hnote⟩ := exists_noted h
      exact ⟨resolved, acted, noted, _, _, notes_of_conclude hresolve hrun hnote⟩

/-! ## Commands -/

/-- A target is resolved, and the kind of its document's action has a template: it is one
of those that the configuration directory defines. -/
structure HasTemplate (setting : Setting ρ) (target : Target) (world : World ρ)
    (resolved : Resolved) (ready : World ρ) (custom : Action.Custom) : Prop where
  resolves : resolveTarget setting target world = (.ok resolved, ready)
  kind : ∃ action dir kinds, resolved.document.action = some action ∧
    setting.configDir = some dir ∧ Action.Kind.discover ready.files dir = .ok kinds ∧
    Action.Kind.find kinds action.kind = .ok (.custom custom)

theorem HasTemplate.kindOf_eq {ready : World ρ} {custom : Action.Custom}
    (h : HasTemplate setting target world resolved ready custom) :
    kindOf setting resolved.document ready.files = .ok (.custom custom) := by
  obtain ⟨action, dir, kinds, haction, hdir, hdiscover, hfind⟩ := h.kind
  simp only [kindOf, haction, Setting.kind, Setting.kinds, hdir, hdiscover, bind, Except.bind,
    hfind]
  rfl

/-- Only the configuration directory defines kinds with a template. -/
theorem kindOf_eq_custom {document : Document} {files : Files} {custom : Action.Custom}
    (h : kindOf setting document files = .ok (.custom custom)) :
    ∃ action dir kinds, document.action = some action ∧ setting.configDir = some dir ∧
      Action.Kind.discover files dir = .ok kinds ∧
      Action.Kind.find kinds action.kind = .ok (.custom custom) := by
  rw [kindOf] at h
  split at h
  · next action haction =>
    simp only [Setting.kind, bind, Except.bind] at h
    split at h
    · cases h
    next kinds hkinds =>
    split at h
    · next found hfind =>
      obtain rfl := Except.ok.inj h
      rw [Setting.kinds] at hkinds
      split at hkinds
      · -- the kinds that are always there have no template
        obtain rfl := Except.ok.inj hkinds
        rw [Action.Kind.find] at hfind
        split at hfind
        · next known hknown =>
          obtain rfl := Except.ok.inj hfind
          have hmem := List.mem_of_find?_eq_some hknown
          simp [Action.Kind.builtin] at hmem
        · cases hfind
      next dir hdir =>
      split at hkinds
      · next discovered hdiscover =>
        obtain rfl := Except.ok.inj hkinds
        exact ⟨action, dir, discovered, haction, hdir, hdiscover, hfind⟩
      · cases hkinds
    · cases h
  · cases h

/-- A target whose command can be printed has a kind with a template. -/
theorem exists_hasTemplate {text : String} (h : (compile setting target world).1 = .ok text) :
    ∃ resolved ready custom, HasTemplate setting target world resolved ready custom := by
  rw [compile] at h
  split at h
  · cases h
  next resolved ready hresolve =>
  split at h
  · cases h
  next kind hkind =>
  cases kind with
  | http | sh => cases h
  | custom custom => exact ⟨resolved, ready, custom, hresolve, kindOf_eq_custom hkind⟩

/-- Commands after the action are only sent when the values are written down. -/
theorem lateCommands_of_not_hasNoted {acted : World ρ}
    (h : ¬ HasNoted (conclude setting resolved acted).1) :
    lateCommands setting resolved acted = [] := by
  have hcourse := conclude_concluding setting resolved acted
  generalize conclude setting resolved acted = outcome at *
  cases hcourse with
  | unnoted fault after hnote => rw [lateCommands, hnote]
  | unresolved | unwritten | done => exact absurd trivial h

/-- The commands that a run sends after the action: none if the values are not written
down, and otherwise those of the variables that come after the action. -/
structure SentLate (setting : Setting ρ) (target : Target) (world : World ρ)
    (resolved : Resolved) (late : List String) : Prop where
  none : ¬ HasNoted (run setting target world).1 → late = []
  after : HasNoted (run setting target world).1 →
    ∃ acted noted json yaml, Notes setting target world resolved acted noted json yaml ∧
      late = setting.resolver.commands true resolved.context noted resolved.document.after

theorem sentLate_of_conclude {ready acted : World ρ}
    (hresolve : resolveTarget setting target world = (.ok resolved, ready))
    (hrun : run setting target world = conclude setting resolved acted) :
    SentLate setting target world resolved (lateCommands setting resolved acted) where
  none hnot := by
    rw [hrun] at hnot
    exact lateCommands_of_not_hasNoted hnot
  after hnoted := by
    rw [hrun] at hnoted
    obtain ⟨noted, hnote⟩ := exists_noted hnoted
    refine ⟨acted, noted, _, _, notes_of_conclude hresolve hrun hnote, ?_⟩
    rw [lateCommands, hnote]

/-- Whether a run with an outcome could not make its result directory. -/
def IsUnprepared (outcome : Except Failure String) : Prop :=
  ∃ path fault, outcome = .error (.resultDir path fault)

/-- A run for a kind with a template sends the commands of the target, the template with
the values, and the commands after the action, unless it cannot make its result
directory. -/
theorem runCommands_of_hasTemplate {ready : World ρ} {custom : Action.Custom}
    (h : HasTemplate setting target world resolved ready custom) :
    IsUnprepared (run setting target world).1 ∧
        runCommands setting target world = targetCommands setting target world ∨
      ∃ late, runCommands setting target world =
          targetCommands setting target world ++ custom.compile resolved.context :: late ∧
        SentLate setting target world resolved late := by
  have hrun : run setting target world = performIn setting resolved (.custom custom) ready := by
    rw [run, h.resolves]
    simp only [h.kindOf_eq]
  rw [runCommands, h.resolves]
  simp only [h.kindOf_eq]
  cases hprepare : ready.withFiles resolved.resultDir.prepare with
  | mk outcome begun =>
    rw [performIn, hprepare] at hrun
    cases outcome with
    | error fault =>
      refine .inl ⟨⟨resolved.resultDir.path, fault, ?_⟩, List.append_nil _⟩
      rw [hrun]
    | ok done =>
      refine .inr ?_
      simp only [actionCommands, Action.Kind.call, Action.Call.commands]
      simp only [Action.Kind.run_eq, Action.Kind.call] at hrun
      cases hcall : (Action.Call.command (custom.compile resolved.context)).run setting.services
          resolved.context begun with
      | mk outcome acted =>
        rw [hcall] at hrun
        cases outcome with
        | error error =>
          refine ⟨[], rfl, fun _ => rfl, fun hnoted => ?_⟩
          rw [hrun] at hnoted
          exact hnoted.elim
        | ok done => exact ⟨_, rfl, sentLate_of_conclude h.resolves hrun⟩

/-! ## All of it -/

/-- The commands that a run sends. -/
def sentByRun (setting : Setting ρ) (target : Target) (world : World ρ) : List String :=
  sent setting world fun setting => run setting target

/-- The commands that are sent before a command is printed. -/
def sentByCompile (setting : Setting ρ) (target : Target) (world : World ρ) : List String :=
  sent setting world fun setting => compile setting target

/-- `resolve`, `compile` and `run` agree on a target. -/
structure Agreement (setting : Setting ρ) (target : Target) (world : World ρ) : Prop where
  /-- `resolve` fails where a run fails in loading the document or in resolving its
  variables or fields, with the same error. -/
  errors : ∀ format failure after,
    resolve setting target format world = (.error failure, after) ↔
      run setting target world = (.error failure, after) ∧ failure.IsResolution
  /-- A run that writes down values writes those that `resolve` prints. -/
  values : HasNoted (run setting target world).1 →
    ∃ resolved acted noted json yaml, Notes setting target world resolved acted noted json yaml
  /-- For a kind with a template, `compile` prints the template with the values in the
  place of its slots.  This is the command that a run sends for the action, between the
  commands of the target and those after the action. -/
  commands : ∀ resolved ready custom,
    HasTemplate setting target world resolved ready custom →
      ∃ command, Template.Fills resolved.context custom.command command ∧
        (compile setting target world).1 = .ok (command ++ "\n") ∧
        (IsUnprepared (run setting target world).1 ∧
            sentByRun setting target world = sentByCompile setting target world ∨
          ∃ late, sentByRun setting target world =
              sentByCompile setting target world ++ command :: late ∧
            SentLate setting target world resolved late)
  /-- For any other kind, `compile` prints no command. -/
  templates : ∀ text, (compile setting target world).1 = .ok text →
    ∃ resolved ready custom, HasTemplate setting target world resolved ready custom

theorem lines_singleton (text : String) : lines [text] = text ++ "\n" := rfl

/-- What `compile` prints for a kind with a template. -/
theorem HasTemplate.compile_eq {ready : World ρ} {custom : Action.Custom}
    (h : HasTemplate setting target world resolved ready custom) :
    compile setting target world = (.ok (custom.compile resolved.context ++ "\n"), ready) := by
  rw [compile, h.resolves]
  simp only [h.kindOf_eq, Action.Kind.compile, lines_singleton]

/-- The commands `resolve`, `compile` and `run` agree on every target. -/
theorem agreement (setting : Setting ρ) (target : Target) (world : World ρ) :
    Agreement setting target world where
  errors _ _ _ := resolve_error_iff_run
  values := exists_notes
  commands resolved ready custom h := by
    refine ⟨custom.compile resolved.context, Template.fills_fill _ _, by rw [h.compile_eq], ?_⟩
    rw [sentByRun, sentByCompile, sent_run, sent_compile]
    exact runCommands_of_hasTemplate h
  templates _ := exists_hasTemplate

/-! ### A kind with a template -/

/-- A document with two variables before the action and one after it. -/
def pingText : String :=
  "## vars\n### host\n\x60\x60\x60\nh\n\x60\x60\x60\n" ++
    "### day[script]\n\x60\x60\x60\ndate\n\x60\x60\x60\n" ++
    "## type[ping]\n## after\n" ++
    "### seen[script]\n\x60\x60\x60\nseen \x7b\x7bhost\x7d\x7d\n\x60\x60\x60\n"

/-- The document, and a directory that defines its kind. -/
def pingFiles : Files :=
  ⟨[(["api.md"], .file (Utf8.encode pingText.toList)), (["conf"], .directory),
    (["conf", "ping"], .directory),
    (["conf", "ping", "run.tmpl"], .file (Utf8.encode "ping \x7b\x7bhost\x7d\x7d".toList)),
    (["conf", "ping", "new_api.md"], .file [])], []⟩

def pingDocument : Document where
  vars := [⟨"host", .text, [], [.text "h"], 2⟩, ⟨"day", .script, [], [.text "date"], 6⟩]
  action := some ⟨"ping", []⟩
  after := [⟨"seen", .script, [], [.text "seen \x7b\x7bhost\x7d\x7d"], 12⟩]

/-- The document with its values. -/
def pingResolved : Resolved where
  document := pingDocument
  resultDir := ⟨".", "api", "./.result/api"⟩
  context := Context.ofList [("CURDIR", "."), ("CURFILE", "api"), ("RESULTDIR", "./.result/api"),
    ("host", "h"), ("day", "pong")]

/-- The values as JSON. -/
def pingJson : String :=
  "\x7b\n  \"CURDIR\": \".\",\n  \"CURFILE\": \"api\",\n  \"RESULTDIR\": \"./.result/api\",\n" ++
    "  \"host\": \"h\",\n  \"day\": \"pong\"\n\x7d"

/-- The values as YAML. -/
def pingYaml : String :=
  "CURDIR: .\nCURFILE: api\nRESULTDIR: ./.result/api\nhost: h\nday: pong\n"

/-- Every command has the same answer. -/
def pingSetting : Setting Unit := ⟨⟨fun _ world => (.ok "pong", world), .offline⟩, some "conf"⟩

def pingTarget : Target := ⟨"api.md", []⟩

def pingWorld : World Unit := ⟨pingFiles, ()⟩

theorem load_ping : load pingWorld.files pingTarget.file = .ok pingDocument := by decide +kernel

theorem resolveTarget_ping :
    resolveTarget pingSetting pingTarget pingWorld = (.ok pingResolved, pingWorld) := by
  rw [resolveTarget_of_load load_ping]
  decide +kernel

/-- A run of the document sends the command that is printed for it, and writes down the
values that are printed for it. -/
theorem agreement_of_ping :
    Agreement pingSetting pingTarget pingWorld ∧
      (∃ ready custom, HasTemplate pingSetting pingTarget pingWorld pingResolved ready custom) ∧
      (compile pingSetting pingTarget pingWorld).1 = .ok "ping h\n" ∧
      (run pingSetting pingTarget pingWorld).1 = .ok "./.result/api\n" ∧
      sentByCompile pingSetting pingTarget pingWorld = ["date"] ∧
      sentByRun pingSetting pingTarget pingWorld = ["date", "ping h", "seen h"] ∧
      (run pingSetting pingTarget pingWorld).2.files.entryAt? [".result", "api", ".vars"] =
        some (.file (Utf8.encode pingJson.toList)) ∧
      ∃ resolved acted noted,
        Notes pingSetting pingTarget pingWorld resolved acted noted pingJson pingYaml := by
  have hagree := agreement pingSetting pingTarget pingWorld
  have hcompile : (compile pingSetting pingTarget pingWorld).1 = .ok "ping h\n" := by
    rw [compile, resolveTarget_ping]
    decide +kernel
  have hrun : (run pingSetting pingTarget pingWorld).1 = .ok "./.result/api\n" ∧
      (run pingSetting pingTarget pingWorld).2.files.entryAt? [".result", "api", ".vars"] =
        some (.file (Utf8.encode pingJson.toList)) := by
    rw [run, resolveTarget_ping]
    decide +kernel
  have hbefore : sentByCompile pingSetting pingTarget pingWorld = ["date"] := by
    rw [sentByCompile, sent_compile, targetCommands, load_ping]
    decide +kernel
  have hsent : sentByRun pingSetting pingTarget pingWorld = ["date", "ping h", "seen h"] := by
    rw [sentByRun, sent_run, runCommands, targetCommands, load_ping, resolveTarget_ping]
    decide +kernel
  have hjson : (resolve pingSetting pingTarget .json pingWorld).1 = .ok pingJson := by
    rw [resolve_of_resolveTarget resolveTarget_ping]
    decide +kernel
  have hyaml : (resolve pingSetting pingTarget .yaml pingWorld).1 = .ok pingYaml := by
    rw [resolve_of_resolveTarget resolveTarget_ping]
    decide +kernel
  have hnoted : HasNoted (run pingSetting pingTarget pingWorld).1 := by
    rw [hrun.1]
    trivial
  obtain ⟨other, ready, custom, htemplate⟩ := hagree.templates _ hcompile
  obtain rfl : other = pingResolved := by
    have hresolves := htemplate.resolves
    rw [resolveTarget_ping] at hresolves
    exact (Except.ok.inj (Prod.mk.inj hresolves).1).symm
  obtain ⟨resolved, acted, noted, json, yaml, hnotes⟩ := hagree.values hnoted
  obtain rfl : json = pingJson := Except.ok.inj (hnotes.printed.symm.trans hjson)
  obtain rfl : yaml = pingYaml := Except.ok.inj (hnotes.listed.symm.trans hyaml)
  exact ⟨hagree, ⟨ready, custom, htemplate⟩, hcompile, hrun.1, hbefore, hsent, hrun.2, resolved,
    acted, noted, hnotes⟩

end CallSheet.Cli
