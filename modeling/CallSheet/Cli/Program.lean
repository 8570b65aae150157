import CallSheet.Action.Kind
import CallSheet.Cli.Arguments
import CallSheet.Context.Json
import CallSheet.Context.Yaml
import CallSheet.Document.Load
import CallSheet.ResultDir
import CallSheet.Shell.Runner

/-!
# The program

What every command does and prints.  A command either fails, and then prints the
failure and its causes as errors, or prints its text.
-/

namespace CallSheet.Cli

open Text

/-! ## Failures -/

/-- Why a command failed. -/
inductive Failure where
  /-- There is no directory to go to at a path. -/
  | noDirectory (path : String) (fault : Fault)
  /-- What is at a path cannot be gone to. -/
  | cannotEnter (path : String) (fault : Fault)
  | load (path : String) (error : LoadError)
  | unknownVariable (name : String)
  | outOfBounds (index : Nat) (name : String) (count : Nat)
  | unknownComponentKind (name : String)
  | actionKinds (configDir : String) (error : ActionError)
  | unknownKind (error : ResolveError)
  | vars (error : ResolveError)
  | fields (error : ResolveError)
  | compile (error : ActionError)
  | resultDir (path : String) (fault : Fault)
  | run (kind : String) (error : ActionError)
  | writeVars (fault : Fault)
  | after (error : ResolveError)
  | writeAfter (fault : Fault)
  deriving DecidableEq, Repr

/-- What is wrong, and then what caused it. -/
def Failure.causes : Failure → List String
  | .noDirectory path fault =>
    ["Failed to resolve path for -C/--directory " ++ path, fault.message]
  | .cannotEnter path fault => ["Failed to set work directory to " ++ path, fault.message]
  | .load path error => ("Failed to load " ++ path) :: error.causes
  | .unknownVariable name => ["Unknown variable " ++ name]
  | .outOfBounds index name count =>
    ["Index " ++ toString index ++ " out of bounds, " ++ name ++ " has " ++ toString count ++
      " values"]
  | .unknownComponentKind name => ["Unknown type " ++ name]
  | .actionKinds configDir error =>
    ("Failed to load action types from " ++ configDir) :: error.causes
  | .unknownKind error => error.causes
  | .vars error => "Failed to compute variables" :: error.causes
  | .fields error => "Failed to compute type fields" :: error.causes
  | .compile error => error.causes
  | .resultDir path fault => ["Failed to create result directory " ++ path, fault.message]
  | .run kind error => ("Failed to run " ++ kind) :: error.causes
  | .writeVars fault => ["Failed to write resolved variables", fault.message]
  | .after error => "Failed to compute after variables" :: error.causes
  | .writeAfter fault => ["Failed to write after variables", fault.message]

/-! ## The surroundings of a command -/

/-- What all commands use. -/
structure Setting (ρ : Type) where
  services : Services ρ
  configDir : Option String

namespace Setting

/-- What resolves values. -/
def resolver (setting : Setting ρ) : Resolver (World ρ) := ⟨.builtin, setting.services.runner⟩

/-- The kinds of actions. -/
def kinds (setting : Setting ρ) (files : Files) : Except Failure (List Action.Kind) :=
  match setting.configDir with
  | none => .ok Action.Kind.builtin
  | some dir =>
    match Action.Kind.discover files dir with
    | .ok kinds => .ok kinds
    | .error error => .error (.actionKinds dir error)

/-- The kind of action of a name. -/
def kind (setting : Setting ρ) (files : Files) (name : String) : Except Failure Action.Kind := do
  let kinds ← setting.kinds files
  match Action.Kind.find kinds name with
  | .ok kind => return kind
  | .error error => throw (.unknownKind error)

end Setting

/-- Texts, one a line. -/
def lines (texts : List String) : String := "".intercalate (texts.map (· ++ "\n"))

/-! ## Commands that only look -/

/-- The name of the program. -/
def programName : String := "mdapi"

/-- The name and the version of the program. -/
def versionText : String := programName ++ " 0.1.0\n"

/-- What is printed without a command. -/
def overview : String :=
  let items (names : List String) : List String := names.map (" - " ++ ·)
  lines
    ([programName ++ " calls apis declared in structured markdown files. use --help for details",
        "", "each template supports the following variables"] ++ items Context.reserved ++
      ["", "each variable supports the following converters"] ++
      items Converter.Registry.builtin.names ++
      ["", "built-in action types"] ++ items (Action.Kind.builtin.map (·.name)))

/-- Loads a document. -/
def load (files : Files) (path : String) : Except Failure Document :=
  match Document.load files path with
  | .ok document => .ok document
  | .error error => .error (.load path error)

/-- A variable in a list of variables. -/
def variableLine (component : Component) : String :=
  component.name ++ ":" ++ component.kind.name ++ ":" ++ toString component.values.length

/-- Shows the variables of a document. -/
def showVars (files : Files) (file : String) (name : Option String) (index : Option Nat) :
    Except Failure String := do
  let document ← load files file
  match name with
  | none => return lines (document.vars.map variableLine)
  | some name =>
    match document.find? name with
    | none => throw (.unknownVariable name)
    | some component =>
      match index with
      | none => return lines ["has values: " ++ toString component.values.length]
      | some index =>
        match component.values[index]? with
        | some value => return lines [value.contentKind, value.content]
        | none => throw (.outOfBounds index name component.values.length)

/-- Shows the kinds of components. -/
def showVarTypes : Option String → Except Failure String
  | none => .ok (lines (ComponentKind.all.map (·.name)))
  | some name =>
    match ComponentKind.ofName? name with
    | some kind => .ok (lines [kind.description])
    | none => .error (.unknownComponentKind name)

/-! ## Commands that resolve -/

/-- A document whose variables and fields are resolved. -/
structure Resolved where
  document : Document
  resultDir : ResultDir
  context : Context
  deriving DecidableEq

/-- Loads a document and resolves its variables, some of which have values
already, and the fields of its action. -/
def resolveTarget (setting : Setting ρ) (target : Target) (world : World ρ) :
    Except Failure Resolved × World ρ :=
  match load world.files target.file with
  | .error failure => (.error failure, world)
  | .ok document =>
    let resultDir := ResultDir.forDocument target.file
    let context := resultDir.seed.extend target.overrides
    match setting.resolver.vars document context world with
    | ⟨.error error, _, world⟩ => (.error (.vars error), world)
    | ⟨.ok (), context, world⟩ =>
      match setting.resolver.action document context world with
      | ⟨.error error, _, world⟩ => (.error (.fields error), world)
      | ⟨.ok (), context, world⟩ => (.ok ⟨document, resultDir, context⟩, world)

/-- The kind of the action of a document. -/
def kindOf (setting : Setting ρ) (document : Document) (files : Files) :
    Except Failure Action.Kind :=
  match document.action with
  | some action => setting.kind files action.kind
  | none => .error (.unknownKind .missingAction)

/-- A context in a format. -/
def formatted (context : Context) : Format → String
  | .json => context.toJson
  | .yaml => context.toYaml

/-- Prints the values of a document. -/
def resolve (setting : Setting ρ) (target : Target) (format : Format) (world : World ρ) :
    Except Failure String × World ρ :=
  match resolveTarget setting target world with
  | (.error failure, world) => (.error failure, world)
  | (.ok resolved, world) => (.ok (formatted resolved.context format), world)

/-- Prints the command of a document's action. -/
def compile (setting : Setting ρ) (target : Target) (world : World ρ) :
    Except Failure String × World ρ :=
  match resolveTarget setting target world with
  | (.error failure, world) => (.error failure, world)
  | (.ok resolved, world) =>
    match kindOf setting resolved.document world.files with
    | .error failure => (.error failure, world)
    | .ok kind =>
      match kind.compile resolved.context with
      | .ok command => (.ok (lines [command]), world)
      | .error error => (.error (.compile error), world)

/-! ## Running -/

/-- What follows a successful action: its values are written down, and the
variables that come after it are resolved and written. -/
def conclude (setting : Setting ρ) (resolved : Resolved) (world : World ρ) :
    Except Failure String × World ρ :=
  let dir := resolved.resultDir
  match world.withFiles (dir.writeVars resolved.context) with
  | (.error fault, world) => (.error (.writeVars fault), world)
  | (.ok (), world) =>
    match setting.resolver.after resolved.document resolved.context world with
    | ⟨.error error, _, world⟩ => (.error (.after error), world)
    | ⟨.ok (), context, world⟩ =>
      match world.withFiles (dir.writeAfter resolved.document context) with
      | (.error fault, world) => (.error (.writeAfter fault), world)
      | (.ok (), world) => (.ok (lines [dir.path]), world)

/-- Runs an action of a kind in a new result directory. -/
def performIn (setting : Setting ρ) (resolved : Resolved) (kind : Action.Kind) (world : World ρ) :
    Except Failure String × World ρ :=
  match world.withFiles resolved.resultDir.prepare with
  | (.error fault, world) => (.error (.resultDir resolved.resultDir.path fault), world)
  | (.ok (), world) =>
    match kind.run setting.services resolved.context world with
    | (.error error, world) => (.error (.run kind.name error), world)
    | (.ok (), world) => conclude setting resolved world

/-- Runs a document's action. -/
def run (setting : Setting ρ) (target : Target) (world : World ρ) :
    Except Failure String × World ρ :=
  match resolveTarget setting target world with
  | (.error failure, world) => (.error failure, world)
  | (.ok resolved, world) =>
    match kindOf setting resolved.document world.files with
    | .error failure => (.error failure, world)
    | .ok kind => performIn setting resolved kind world

/-! ## The whole -/

/-- Does what a command says. -/
def execute (setting : Setting ρ) (command : Option Command) (world : World ρ) :
    Except Failure String × World ρ :=
  let look (outcome : Except Failure String) : Except Failure String × World ρ := (outcome, world)
  match command with
  | none => look (.ok overview)
  | some (.vars file name index) => look (showVars world.files file name index)
  | some (.varTypes kind) => look (showVarTypes kind)
  | some .types =>
    look ((setting.kinds world.files).map fun kinds => lines (kinds.map (·.name)))
  | some (.typeVars kind) =>
    look ((setting.kind world.files kind).map fun kind => lines kind.fields)
  | some (.generate kind) =>
    look ((setting.kind world.files kind).map fun kind => lines [kind.skeleton])
  | some (.resolve target format) => resolve setting target format world
  | some (.compile target) => compile setting target world
  | some (.run target) => run setting target world

/-- Goes to directories, one after the other. -/
def enterAll (files : Files) : List String → Except Failure Files
  | [] => .ok files
  | path :: rest =>
    match files.realPath path with
    | .error fault => .error (.noDirectory path fault)
    | .ok place =>
      match files.enter place with
      | .error fault => .error (.cannotEnter place fault)
      | .ok files => enterAll files rest

/-- The name of the variable that gives the home directory. -/
def homeVariable : String := "HOME"

/-- The configuration directory when none is given. -/
def defaultConfigDir (environment : List (String × String)) : Option String :=
  (environment.lookup homeVariable).map fun home =>
    Path.joined (Path.joined home ".config") programName

/-- What a run of the program comes to. -/
structure Report where
  code : Nat
  output : String
  errors : String
  deriving DecidableEq, Repr

/-- The report of an outcome. -/
def Report.of : Except Failure String → Report
  | .ok text => ⟨0, text, ""⟩
  | .error failure => ⟨1, "", lines failure.causes⟩

/-- The report of a command line that asks for nothing to be done. -/
def Report.ofHalt : Halt → Report
  | .usage => ⟨2, "", ""⟩
  | .version => ⟨0, versionText, ""⟩
  | .help => ⟨0, "", ""⟩

/-- Runs the program. -/
def report (environment : List (String × String)) (transport : Http.Transport (World ρ))
    (arguments : List String) (world : World ρ) : Report × World ρ :=
  match read environment arguments with
  | .error halt => (.ofHalt halt, world)
  | .ok invocation =>
    match enterAll world.files invocation.directories with
    | .error failure => (.of (.error failure), world)
    | .ok files =>
      let setting : Setting ρ :=
        ⟨⟨Shell.runner invocation.shell environment, transport⟩,
          invocation.configDir.or (defaultConfigDir environment)⟩
      let (outcome, world) := execute setting invocation.command { world with files := files }
      (.of outcome, world)

end CallSheet.Cli
