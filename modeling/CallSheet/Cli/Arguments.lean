import CallSheet.Shell.Runner
import CallSheet.Text.Split

/-!
# The command line

What a command line asks for.  Its first level has the options that all
commands share, and its second level is a command with its own options and
operands; the shared options may stand on both.  Arguments are read from left to
right, and the first thing that is wrong, or that asks for nothing but the
version, ends the reading.
-/

namespace CallSheet.Cli

open Text

/-! ## What can be asked for -/

/-- How values are printed. -/
inductive Format where
  | json
  | yaml
  deriving DecidableEq, Repr

/-- A document and values that replace those of its variables. -/
structure Target where
  file : String
  overrides : List (String × String)
  deriving DecidableEq, Repr

/-- A command. -/
inductive Command where
  /-- Lists the variables of a document, or shows one of them. -/
  | vars (file : String) (name : Option String) (index : Option Nat)
  /-- Lists the kinds of components, or describes one. -/
  | varTypes (kind : Option String)
  /-- Lists the kinds of actions. -/
  | types
  /-- Lists the fields of a kind of action. -/
  | typeVars (kind : String)
  /-- Prints a first document of a kind of action. -/
  | generate (kind : String)
  /-- Prints the values of a document. -/
  | resolve (target : Target) (format : Format)
  /-- Prints the command of a document's action. -/
  | compile (target : Target)
  /-- Runs a document's action. -/
  | run (target : Target)
  deriving DecidableEq, Repr

/-- The document that a command is about. -/
def Command.file? : Command → Option String
  | .vars file _ _ => some file
  | .resolve target _ | .compile target | .run target => some target.file
  | _ => none

/-- A command line. -/
structure Invocation where
  /-- The directories to go to, one after the other. -/
  directories : List String
  configDir : Option String
  shell : String
  /-- Without a command, an overview is printed. -/
  command : Option Command
  deriving DecidableEq, Repr

/-- Why there is nothing to invoke. -/
inductive Halt where
  /-- The command line is wrong. -/
  | usage
  | version
  | help
  deriving DecidableEq, Repr

/-! ## Options -/

/-- An option. -/
inductive Flag where
  | directory
  | configDir
  | shell
  | file
  | vars
  | format
  | version
  | help
  deriving DecidableEq, Repr

namespace Flag

/-- The long name of an option. -/
def long : Flag → String
  | .directory => "directory"
  | .configDir => "config-dir"
  | .shell => "shell"
  | .file => "file"
  | .vars => "vars"
  | .format => "output-format"
  | .version => "version"
  | .help => "help"

/-- The letter of an option. -/
def short? : Flag → Option Char
  | .directory => some 'C'
  | .file => some 'f'
  | .format => some 'F'
  | .version => some 'V'
  | .help => some 'h'
  | _ => none

/-- Whether an option may stand more than once. -/
def isRepeatable : Flag → Bool
  | .directory | .vars => true
  | _ => false

/-- The name and the value of a text such as `name=value`. -/
def splitValue (text : String) : Option (String × String) :=
  (splitOnce '=' text.toList).map fun (key, value) => (String.ofList key, String.ofList value)

/-- The format of a name. -/
def formatOf? : String → Option Format
  | "json" => some .json
  | "yaml" => some .yaml
  | _ => none

/-- Whether an option can have a value. -/
def accepts (flag : Flag) (value : String) : Bool :=
  match flag with
  | .directory | .configDir | .file => !value.isEmpty
  | .shell => true
  | .vars => (splitValue value).isSome
  | .format => (formatOf? value).isSome
  | .version | .help => false

end Flag

/-- The options of all levels. -/
def shared : List Flag := [.directory, .configDir, .shell, .help]

/-- The options before a command. -/
def rootFlags : List Flag := .version :: shared

/-! ## One level -/

/-- What a level says. -/
structure Level where
  options : List (Flag × String) := []
  operands : List String := []
  deriving DecidableEq, Repr

namespace Level

/-- Adds an option, unless it cannot stand here. -/
def add (level : Level) (flag : Flag) (value : String) : Except Halt Level :=
  if !flag.accepts value then .error .usage
  else if !flag.isRepeatable && level.options.any (·.1 == flag) then .error .usage
  else .ok { level with options := level.options ++ [(flag, value)] }

/-- The values of an option. -/
def values (level : Level) (flag : Flag) : List String :=
  level.options.filterMap fun (known, value) => if known = flag then some value else none

/-- The value of an option. -/
def value? (level : Level) (flag : Flag) : Option String := (level.values flag).head?

/-- Whether an argument can be the value of the option before it. -/
def isValue (argument : String) : Bool :=
  match argument.toList with
  | '-' :: _ :: _ => false
  | _ => true

/-- Reads an option; its value is given with it or is the next argument. -/
def option (level : Level) (flag : Flag) (value : Option String) (rest : List String) :
    Except Halt (Level × List String) :=
  match flag, value, rest with
  | .version, none, _ => .error .version
  | .help, none, _ => .error .help
  | .version, some _, _ | .help, some _, _ => .error .usage
  | flag, some value, rest => (level.add flag value).map fun level => (level, rest)
  | flag, none, next :: rest =>
    if isValue next then (level.add flag next).map fun level => (level, rest)
    else .error .usage
  | _, none, [] => .error .usage

/-- The value that stands right behind an option's letter, if one does. -/
def attached (text : List Char) : Option String :=
  match text with
  | [] => none
  | '=' :: value => some (String.ofList value)
  | value => some (String.ofList value)

/-- Reads an argument that starts with a hyphen. -/
def hyphened (flags : List Flag) (level : Level) (text : List Char) (rest : List String) :
    Except Halt (Level × List String) :=
  match text with
  | '-' :: name =>
    let (name, value) := match splitOnce '=' name with
      | some (name, value) => (String.ofList name, some (String.ofList value))
      | none => (String.ofList name, none)
    match flags.find? (·.long == name) with
    | some flag => level.option flag value rest
    | none => .error .usage
  | letter :: behind =>
    match flags.find? (·.short? == some letter) with
    | some .version => .error .version
    | some .help => .error .help
    | some flag => level.option flag (attached behind) rest
    | none => .error .usage
  | [] => .error .usage

theorem rest_of_map_add {level after : Level} {flag : Flag} {value : String}
    {rest left : List String}
    (h : (level.add flag value).map (fun level => (level, rest)) = .ok (after, left)) :
    left = rest := by
  cases hadd : level.add flag value with
  | error e => rw [hadd] at h; cases h
  | ok l => rw [hadd] at h; cases h; rfl

theorem length_le_of_option {level after : Level} {flag : Flag} {value : Option String}
    {rest left : List String} (h : level.option flag value rest = .ok (after, left)) :
    left.length ≤ rest.length := by
  unfold option at h
  split at h
  · cases h
  · cases h
  · cases h
  · cases h
  · exact Nat.le_of_eq (congrArg List.length (rest_of_map_add h))
  · split at h
    · rw [rest_of_map_add h]
      exact Nat.le_succ _
    · cases h
  · cases h

theorem length_le_of_hyphened {flags : List Flag} {level after : Level} {text : List Char}
    {rest left : List String} (h : hyphened flags level text rest = .ok (after, left)) :
    left.length ≤ rest.length := by
  unfold hyphened at h
  split at h
  · simp only at h
    split at h
    · exact length_le_of_option h
    · cases h
  · split at h
    · cases h
    · cases h
    · exact length_le_of_option h
    · cases h
  · cases h

/-- Reads a level to its end, or to the first operand if that is a command. -/
def read (flags : List Flag) (stops : Bool) (level : Level) (arguments : List String) :
    Except Halt (Level × List String) :=
  match arguments with
  | [] => .ok (level, [])
  | argument :: rest =>
    match argument.toList with
    | ['-', '-'] =>
      if stops then if rest.isEmpty then .ok (level, []) else .error .usage
      else .ok ({ level with operands := level.operands ++ rest }, [])
    | '-' :: c :: more =>
      match h : hyphened flags level (c :: more) rest with
      | .error halt => .error halt
      | .ok (level, left) =>
        have := length_le_of_hyphened h
        read flags stops level left
    | _ =>
      if stops then .ok (level, argument :: rest)
      else read flags stops { level with operands := level.operands ++ [argument] } rest
termination_by arguments.length

end Level

/-! ## Commands -/

/-- The options of a command, if there is one of that name. -/
def commandFlags? : String → Option (List Flag)
  | "vars" => some (.file :: shared)
  | "var-types" | "types" | "type-vars" | "generate" => some shared
  | "resolve" => some (.file :: .vars :: .format :: shared)
  | "compile" | "run" => some (.file :: .vars :: shared)
  | _ => none

/-- The number that an operand stands for; it has to fit in 64 bits. -/
def index? (text : String) : Option Nat :=
  let digits := match text.toList with
    | '+' :: digits => digits
    | digits => digits
  if digits.isEmpty || !digits.all Char.isDigit then none
  else
    let n := digits.foldl (fun n c => n * 10 + (c.toNat - 48)) 0
    if n < Nat.pow 2 64 then some n else none

/-- The document and the values of a level. -/
def targetOf (level : Level) : Except Halt Target :=
  match level.value? .file with
  | some file => .ok ⟨file, (level.values .vars).filterMap Flag.splitValue⟩
  | none => .error .usage

/-- The command of a name and a level. -/
def commandOf (name : String) (level : Level) : Except Halt Command :=
  match name, level.operands with
  | "vars", operands => do
    let target ← targetOf level
    match operands with
    | [] => return .vars target.file none none
    | [wanted] => return .vars target.file (some wanted) none
    | [wanted, index] =>
      match index? index with
      | some n => return .vars target.file (some wanted) (some n)
      | none => throw .usage
    | _ => throw .usage
  | "var-types", [] => .ok (.varTypes none)
  | "var-types", [kind] => .ok (.varTypes (some kind))
  | "types", [] => .ok .types
  | "type-vars", [kind] => .ok (.typeVars kind)
  | "generate", [kind] => .ok (.generate kind)
  | "resolve", [] => do
    let format := ((level.value? .format).bind Flag.formatOf?).getD .yaml
    return .resolve (← targetOf level) format
  | "compile", [] => return .compile (← targetOf level)
  | "run", [] => return .run (← targetOf level)
  | _, _ => .error .usage

/-! ## The whole -/

/-- The name of the variable that gives the configuration directory. -/
def configDirVariable : String := "MDAPI_CONFIG_DIR"

/-- The name of the variable that gives the shell. -/
def shellVariable : String := "MDAPI_SHELL"

/-- Whether a level can take what it does not say from the environment. -/
def completes (environment : List (String × String)) (level : Level) : Bool :=
  match level.value? .configDir, environment.lookup configDirVariable with
  | none, some value => Flag.configDir.accepts value
  | _, _ => true

/-- Puts two levels together; the second one counts first, then the first one,
then the environment. -/
def invocation (environment : List (String × String)) (first second : Level)
    (command : Option Command) : Invocation where
  directories :=
    if (second.values .directory).isEmpty then first.values .directory
    else second.values .directory
  configDir :=
    ((second.value? .configDir).or (first.value? .configDir)).or
      (environment.lookup configDirVariable)
  shell :=
    (((second.value? .shell).or (first.value? .shell)).or
      (environment.lookup shellVariable)).getD Shell.defaultShell
  command := command

/-- Whether there is help on something: on everything, or on one command. -/
def isTopic : List String → Bool
  | [] => true
  | [name] => name = "help" || (commandFlags? name).isSome
  | _ => false

/-- Reads a command line. -/
def read (environment : List (String × String)) (arguments : List String) :
    Except Halt Invocation := do
  let (first, rest) ← Level.read rootFlags true {} arguments
  match rest with
  | [] =>
    if completes environment first then return invocation environment first {} none
    else throw .usage
  | "help" :: topics => throw (if isTopic topics then .help else .usage)
  | name :: rest =>
    match commandFlags? name with
    | none => throw .usage
    | some flags =>
      let (second, _) ← Level.read flags false {} rest
      let command ← commandOf name second
      if completes environment first && completes environment second then
        return invocation environment first second (some command)
      else throw .usage

end CallSheet.Cli
