import CallSheet.Proofs.Cli.Course
import CallSheet.Proofs.Cli.Target

/-!
# The commands of a program

Which commands the program sends to the runner, seen by a runner that keeps a record
of them.

There are three groups.

* Following.  If one runner does what another one does, seen through a function of
  states, then the resolvers do the same (`Follows.resolve`).
* Recording.  `Setting.recording` keeps a record of the commands.
  `resolveTarget_recording` and `run_recording` say that this changes nothing else, and
  how the record grows.
* What is sent.  `sent` is the record of a program that starts without one.
-/

namespace CallSheet

/-! ## Following -/

namespace Resolver

variable {σ τ : Type} {resolver : Resolver σ} {other : Resolver τ} {view : σ → τ}

/-- A resolver does in the view of a state what another one does in the state. -/
structure Follows (other : Resolver τ) (resolver : Resolver σ) (view : σ → τ) : Prop where
  registry : other.registry = resolver.registry
  runner : ∀ command state, other.runner command (view state) =
    ((resolver.runner command state).1, view (resolver.runner command state).2)

theorem Follows.compute (h : Follows other resolver view) (component : Component)
    (context : Context) (state : σ) :
    other.compute component context (view state) =
      ((resolver.compute component context state).1,
        view (resolver.compute component context state).2) := by
  by_cases hk : component.kind = .script
  · rw [compute_script hk, compute_script hk, h.runner]
  · rw [compute_of_not_script hk, compute_of_not_script hk]

theorem Follows.source (h : Follows other resolver view) (force : Bool) (component : Component)
    (context : Context) (state : σ) :
    other.source force component context (view state) =
      ((resolver.source force component context state).1,
        view (resolver.source force component context state).2) := by
  cases hg : given? force component context with
  | some value => rw [source_of_given hg, source_of_given hg]
  | none => rw [source_of_not_given hg, source_of_not_given hg, h.compute]

theorem Follows.value (h : Follows other resolver view) (force : Bool) (component : Component)
    (context : Context) (state : σ) :
    other.value force component context (view state) =
      ((resolver.value force component context state).1,
        view (resolver.value force component context state).2) := by
  rw [Resolver.value, Resolver.value, h.source]
  cases resolver.source force component context state with
  | mk outcome after =>
    cases outcome with
    | error error => rfl
    | ok value => simp only [convert, h.registry]

/-- What follows for one command follows for a list of components. -/
theorem Follows.resolve (h : Follows other resolver view) (force : Bool) (context : Context)
    (state : σ) (components : List Component) :
    other.resolve force context (view state) components =
      ⟨(resolver.resolve force context state components).result,
        (resolver.resolve force context state components).context,
        view (resolver.resolve force context state components).state⟩ := by
  induction components generalizing context state with
  | nil => rfl
  | cons component components ih =>
    have hvalue := h.value force component context state
    cases hv : resolver.value force component context state with
    | mk outcome after =>
      rw [hv] at hvalue
      cases outcome with
      | ok final => rw [resolve_cons_of_ok hvalue, resolve_cons_of_ok hv, ih]
      | error error => rw [resolve_cons_of_error hvalue, resolve_cons_of_error hv]

end Resolver

/-! ## Recording -/

variable {ρ : Type}

/-- A world with a record. -/
def World.withRecord (world : World ρ) (record : List String) : World (ρ × List String) :=
  ⟨world.files, (world.rest, record)⟩

/-- Services that keep a record of the commands; requests leave it alone. -/
def Services.recording (services : Services ρ) : Services (ρ × List String) where
  runner := services.runner.recording
  transport request world :=
    let (outcome, after) := services.transport request ⟨world.files, world.rest.1⟩
    (outcome, after.withRecord world.rest.2)

/-- The commands of a call. -/
def Action.Call.commands : Action.Call → List String
  | .command text => [text]
  | .request _ => []

theorem Services.runner_recording (services : Services ρ) (text : String) (world : World ρ)
    (record : List String) :
    services.recording.runner text (world.withRecord record) =
      ((services.runner text world).1,
        (services.runner text world).2.withRecord (record ++ [text])) := rfl

theorem Services.transport_recording (services : Services ρ) (sent : Http.Request)
    (world : World ρ) (record : List String) :
    services.recording.transport sent (world.withRecord record) =
      ((services.transport sent world).1,
        (services.transport sent world).2.withRecord record) := rfl

theorem Action.Call.answer_recording (services : Services ρ) (call : Action.Call)
    (world : World ρ) (record : List String) :
    call.answer services.recording (world.withRecord record) =
      ((call.answer services world).1,
        (call.answer services world).2.withRecord (record ++ call.commands)) := by
  cases call with
  | command text =>
    rw [answer, answer, Services.runner_recording]
    cases services.runner text world with
    | mk outcome after => cases outcome <;> rfl
  | request sent =>
    rw [answer, answer, Services.transport_recording, commands, List.append_nil]
    cases services.transport sent world with
    | mk outcome after => cases outcome <;> rfl

theorem World.withFiles_withRecord {ε : Type} (world : World ρ) (record : List String)
    (change : Files → Except ε Unit × Files) :
    (world.withRecord record).withFiles change =
      ((world.withFiles change).1, (world.withFiles change).2.withRecord record) := rfl

theorem Action.Call.run_recording (services : Services ρ) (context : Context) (call : Action.Call)
    (world : World ρ) (record : List String) :
    call.run services.recording context (world.withRecord record) =
      ((call.run services context world).1,
        (call.run services context world).2.withRecord (record ++ call.commands)) := by
  rw [run, run, answer_recording]
  rfl

namespace Cli

variable {setting : Setting ρ} {target : Target} {world : World ρ} {record : List String}

/-- A setting that keeps a record of the commands. -/
def Setting.recording (setting : Setting ρ) : Setting (ρ × List String) :=
  ⟨setting.services.recording, setting.configDir⟩

theorem resolver_recording (setting : Setting ρ) :
    Resolver.Follows setting.recording.resolver setting.resolver.recorded
      fun state => state.1.withRecord state.2 where
  registry := rfl
  runner _ _ := rfl

/-- Recording adds the commands of the components to the record and changes nothing
else. -/
theorem resolve_recording (setting : Setting ρ) (force : Bool) (context : Context)
    (world : World ρ) (record : List String) (components : List Component) :
    setting.recording.resolver.resolve force context (world.withRecord record) components =
      ⟨(setting.resolver.resolve force context world components).result,
        (setting.resolver.resolve force context world components).context,
        (setting.resolver.resolve force context world components).state.withRecord
          (record ++ setting.resolver.commands force context world components)⟩ := by
  rw [(resolver_recording setting).resolve force context (world, record) components,
    Resolver.resolve_recorded]

theorem vars_recording (setting : Setting ρ) (document : Document) (context : Context)
    (world : World ρ) (record : List String) :
    setting.recording.resolver.vars document context (world.withRecord record) =
      ⟨(setting.resolver.vars document context world).result,
        (setting.resolver.vars document context world).context,
        (setting.resolver.vars document context world).state.withRecord
          (record ++ setting.resolver.commands false context world document.vars)⟩ :=
  resolve_recording setting false context world record document.vars

theorem after_recording (setting : Setting ρ) (document : Document) (context : Context)
    (world : World ρ) (record : List String) :
    setting.recording.resolver.after document context (world.withRecord record) =
      ⟨(setting.resolver.after document context world).result,
        (setting.resolver.after document context world).context,
        (setting.resolver.after document context world).state.withRecord
          (record ++ setting.resolver.commands true context world document.after)⟩ :=
  resolve_recording setting true context world record document.after

/-- The commands of a document's fields. -/
def fieldCommands (setting : Setting ρ) (document : Document) (context : Context)
    (world : World ρ) : List String :=
  match document.action with
  | none => []
  | some action => setting.resolver.commands true context world action.fields

theorem action_recording (setting : Setting ρ) (document : Document) (context : Context)
    (world : World ρ) (record : List String) :
    setting.recording.resolver.action document context (world.withRecord record) =
      ⟨(setting.resolver.action document context world).result,
        (setting.resolver.action document context world).context,
        (setting.resolver.action document context world).state.withRecord
          (record ++ fieldCommands setting document context world)⟩ := by
  rw [Resolver.action, Resolver.action, fieldCommands]
  cases document.action with
  | none => simp
  | some action => exact resolve_recording setting true context world record action.fields

/-- The commands of a target: those of the variables and, if there are values for all
of them, those of the fields. -/
def targetCommands (setting : Setting ρ) (target : Target) (world : World ρ) : List String :=
  match load world.files target.file with
  | .error _ => []
  | .ok document =>
    let outcome := setting.resolver.vars document (startContext target) world
    setting.resolver.commands false (startContext target) world document.vars ++
      match outcome.result with
      | .error _ => []
      | .ok () => fieldCommands setting document outcome.context outcome.state

theorem resolveTarget_recording (setting : Setting ρ) (target : Target) (world : World ρ)
    (record : List String) :
    resolveTarget setting.recording target (world.withRecord record) =
      ((resolveTarget setting target world).1,
        (resolveTarget setting target world).2.withRecord
          (record ++ targetCommands setting target world)) := by
  rw [targetCommands]
  cases hload : load world.files target.file with
  | error failure =>
    have hload' : load (world.withRecord record).files target.file = .error failure := hload
    rw [resolveTarget_of_load_error hload, resolveTarget_of_load_error hload', List.append_nil]
  | ok document =>
    have hload' : load (world.withRecord record).files target.file = .ok document := hload
    rw [resolveTarget_of_load hload, resolveTarget_of_load hload', vars_recording]
    cases hvars : setting.resolver.vars document (startContext target) world with
    | mk result context middle =>
      cases result with
      | error error => simp [hvars]
      | ok done =>
        simp only [action_recording, hvars]
        cases setting.resolver.action document context middle with
        | mk result final last => cases result <;> simp [List.append_assoc]

/-- The commands after an action: those of the variables that come after it. -/
def lateCommands (setting : Setting ρ) (resolved : Resolved) (acted : World ρ) : List String :=
  match acted.withFiles (resolved.resultDir.writeVars resolved.context) with
  | (.error _, _) => []
  | (.ok (), noted) =>
    setting.resolver.commands true resolved.context noted resolved.document.after

theorem conclude_recording (setting : Setting ρ) (resolved : Resolved) (acted : World ρ)
    (record : List String) :
    conclude setting.recording resolved (acted.withRecord record) =
      ((conclude setting resolved acted).1,
        (conclude setting resolved acted).2.withRecord
          (record ++ lateCommands setting resolved acted)) := by
  rw [conclude, conclude, lateCommands]
  simp only [World.withFiles_withRecord]
  cases acted.withFiles (resolved.resultDir.writeVars resolved.context) with
  | mk outcome noted =>
    cases outcome with
    | error fault => simp
    | ok done =>
      simp only [after_recording]
      cases setting.resolver.after resolved.document resolved.context noted with
      | mk result context ready =>
        cases result with
        | error error => rfl
        | ok done =>
          simp only [World.withFiles_withRecord]
          cases ready.withFiles (resolved.resultDir.writeAfter resolved.document context) with
          | mk outcome after => cases outcome <;> rfl

/-- The commands of an action in a prepared result directory, and those after it. -/
def actionCommands (setting : Setting ρ) (resolved : Resolved) (kind : Action.Kind)
    (begun : World ρ) : List String :=
  match kind.call resolved.context begun.files with
  | .error _ => []
  | .ok call =>
    call.commands ++
      match call.run setting.services resolved.context begun with
      | (.error _, _) => []
      | (.ok (), acted) => lateCommands setting resolved acted

theorem performIn_recording (setting : Setting ρ) (resolved : Resolved) (kind : Action.Kind)
    (ready : World ρ) (record : List String) :
    performIn setting.recording resolved kind (ready.withRecord record) =
      ((performIn setting resolved kind ready).1,
        (performIn setting resolved kind ready).2.withRecord (record ++
          match ready.withFiles resolved.resultDir.prepare with
          | (.error _, _) => []
          | (.ok (), begun) => actionCommands setting resolved kind begun)) := by
  rw [performIn, performIn]
  simp only [World.withFiles_withRecord]
  cases ready.withFiles resolved.resultDir.prepare with
  | mk outcome begun =>
    cases outcome with
    | error fault => simp
    | ok done =>
      have hrun : kind.run setting.recording.services resolved.context (begun.withRecord record) =
          match kind.call resolved.context begun.files with
          | .error error => (.error error, begun.withRecord record)
          | .ok call =>
            call.run setting.recording.services resolved.context (begun.withRecord record) :=
        Action.Kind.run_eq ..
      simp only [hrun, Action.Kind.run_eq, actionCommands]
      cases kind.call resolved.context begun.files with
      | error error => simp
      | ok call =>
        simp only [Setting.recording, Action.Call.run_recording]
        cases call.run setting.services resolved.context begun with
        | mk outcome acted =>
          cases outcome with
          | error error => simp
          | ok done =>
            simp only [← List.append_assoc]
            exact conclude_recording setting resolved acted (record ++ call.commands)

/-- The commands of a run. -/
def runCommands (setting : Setting ρ) (target : Target) (world : World ρ) : List String :=
  targetCommands setting target world ++
    match resolveTarget setting target world with
    | (.error _, _) => []
    | (.ok resolved, ready) =>
      match kindOf setting resolved.document ready.files with
      | .error _ => []
      | .ok kind =>
        match ready.withFiles resolved.resultDir.prepare with
        | (.error _, _) => []
        | (.ok (), begun) => actionCommands setting resolved kind begun

/-- Recording adds the commands of a run to the record and changes nothing else. -/
theorem run_recording (setting : Setting ρ) (target : Target) (world : World ρ)
    (record : List String) :
    run setting.recording target (world.withRecord record) =
      ((run setting target world).1,
        (run setting target world).2.withRecord (record ++ runCommands setting target world)) := by
  rw [run, run, resolveTarget_recording, runCommands]
  cases resolveTarget setting target world with
  | mk outcome ready =>
    cases outcome with
    | error failure => simp
    | ok resolved =>
      have hkind : kindOf setting.recording resolved.document
          (ready.withRecord (record ++ targetCommands setting target world)).files =
            kindOf setting resolved.document ready.files := rfl
      simp only [hkind]
      cases kindOf setting resolved.document ready.files with
      | error failure => simp
      | ok kind =>
        simp only [performIn_recording, List.append_assoc]

/-- Recording adds the commands of the target to the record. -/
theorem compile_recording (setting : Setting ρ) (target : Target) (world : World ρ)
    (record : List String) :
    compile setting.recording target (world.withRecord record) =
      ((compile setting target world).1,
        (compile setting target world).2.withRecord
          (record ++ targetCommands setting target world)) := by
  rw [compile, compile, resolveTarget_recording]
  cases resolveTarget setting target world with
  | mk outcome ready =>
    cases outcome with
    | error failure => rfl
    | ok resolved =>
      have hkind : kindOf setting.recording resolved.document
          (ready.withRecord (record ++ targetCommands setting target world)).files =
            kindOf setting resolved.document ready.files := rfl
      simp only [hkind]
      cases kindOf setting resolved.document ready.files with
      | error failure => rfl
      | ok kind =>
        simp only
        cases kind.compile resolved.context <;> rfl

/-! ## What is sent -/

/-- The commands that a program sends, in order, as a runner sees them that keeps a
record. -/
def sent {α : Type} (setting : Setting ρ) (world : World ρ)
    (program : Setting (ρ × List String) → World (ρ × List String) →
      α × World (ρ × List String)) : List String :=
  (program setting.recording (world.withRecord [])).2.rest.2

theorem sent_run (setting : Setting ρ) (target : Target) (world : World ρ) :
    (sent setting world fun setting => run setting target) = runCommands setting target world := by
  rw [sent, run_recording]
  rfl

theorem sent_compile (setting : Setting ρ) (target : Target) (world : World ρ) :
    (sent setting world fun setting => compile setting target) =
      targetCommands setting target world := by
  rw [sent, compile_recording]
  rfl

end Cli

end CallSheet
