import CallSheet.Shell.Script
import CallSheet.Shell.Tools

/-!
# The state of a running script

A script sees files, variables and an input, and writes to an output and to an
output for errors, which redirections can send elsewhere.  What ends a script
before its last command is a `Stop`.
-/

namespace CallSheet.Shell

open Text

/-- Where something that is written goes. -/
inductive Target where
  /-- The output of what is running. -/
  | output
  /-- The output of what that is a part of. -/
  | outer
  | errors
  /-- The end of a file. -/
  | file (path : String)
  | nowhere
  deriving DecidableEq, Repr

/-- What `set` turns on and off. -/
structure Settings where
  /-- Whether a failure ends the script. -/
  endsOnFailure : Bool := false
  /-- Whether a variable has to have a value. -/
  needsValues : Bool := false
  deriving DecidableEq, Repr

/-- The number of the first shell's process, as scripts see it. -/
def firstProcess : Nat := 4711

/-- The state of a running script. -/
structure Machine where
  files : Files
  vars : List (String × Bytes) := []
  /-- The variables that other programs see. -/
  exported : List String := []
  functions : List (String × Command) := []
  settings : Settings := {}
  /-- The name that the shell goes by in messages. -/
  name : String
  process : Nat := firstProcess
  arguments : List Bytes := []
  /-- In a function, the values that variables get back after it. -/
  kept : Option (List (String × Option Bytes)) := none
  /-- Whether a failure is only tested for. -/
  tested : Bool := false
  /-- What is done at the end. -/
  atEnd : Option Bytes := none
  input : Bytes := []
  /-- Whether the input is a file. -/
  readsFile : Bool := false
  outputTo : Target := .output
  errorsTo : Target := .errors
  output : Bytes := []
  outer : Bytes := []
  errors : Bytes := []
  status : Nat := 0

/-- What ends a script before its last command. -/
inductive Stop where
  | exit (code : Nat)
  /-- The end of a function. -/
  | back
  /-- A signal to the whole shell. -/
  | killed (signal : Nat)
  /-- The end of so many loops. -/
  | leave (loops : Nat)
  /-- The next round of the last of so many loops. -/
  | next (loops : Nat)
  deriving DecidableEq, Repr

/-- Something that a script does. -/
abbrev Act (α : Type) := ExceptT Stop (StateM Machine) α

namespace Act

/-- Does something and then another thing, however the first one ends. -/
def ensuring (body : Act α) (cleanUp : Act Unit) : Act α :=
  tryCatch (do
    let result ← body
    cleanUp
    return result) fun stop => do
      cleanUp
      throw stop

/-! ## Writing -/

/-- Writes bytes to a target. -/
def writeTo (target : Target) (bytes : Bytes) : Act Unit := do
  match target with
  | .output => modify fun m => { m with output := m.output ++ bytes }
  | .outer => modify fun m => { m with outer := m.outer ++ bytes }
  | .errors => modify fun m => { m with errors := m.errors ++ bytes }
  | .file path => modify fun m => { m with files := (m.files.append path bytes).2 }
  | .nowhere => return

/-- Writes bytes to the output. -/
def write (bytes : Bytes) : Act Unit := do writeTo (← get).outputTo bytes

/-- Writes a text to the output for errors. -/
def complain (text : String) : Act Unit := do writeTo (← get).errorsTo (bytesOf text)

/-- The start of the shell's own messages. -/
def label (line : Nat) : Act String := do return (← get).name ++ ": " ++ toString line ++ ": "

/-- Complains about something on a line and gives a status. -/
def refuse (line status : Nat) (text : String) : Act Unit := do
  complain ((← label line) ++ text ++ "\n")
  modify ({ · with status := status })

/-- Complains about something on a line and ends the script. -/
def abort (line : Nat) (text : String) : Act α := do
  complain ((← label line) ++ text ++ "\n")
  throw (.exit 2)

/-- Sets the status. -/
def setStatus (status : Nat) : Act Unit := modify ({ · with status := status })

/-! ## Variables -/

/-- The value of a variable or of a special name. -/
def valueOf (name : String) : Act (Option Bytes) := do
  let m ← get
  match name with
  | "?" => return some (bytesOf (toString m.status))
  | "$" => return some (bytesOf (toString m.process))
  | "#" => return some (bytesOf (toString m.arguments.length))
  | "0" => return some (bytesOf m.name)
  | "@" | "*" => return if m.arguments.isEmpty then none else some (Bytes.join [32] m.arguments)
  | "-" | "!" => return some []
  | _ =>
    match name.toNat? with
    | some n => return m.arguments[n - 1]?
    | none => return m.vars.lookup name

/-- Gives a variable a value, or takes it from it. -/
def setVariable (name : String) (value : Option Bytes) : Act Unit :=
  modify fun m => { m with
    vars := (value.map (name, ·)).toList ++ m.vars.filter fun v => v.1 != name }

/-- Gives a variable a value. -/
def assign (name : String) (value : Bytes) : Act Unit := setVariable name (some value)

/-- Lets other programs see a variable. -/
def publish (name : String) : Act Unit :=
  modify fun m => { m with exported := name :: m.exported }

/-- The bytes that separate words. -/
def separators : Act Bytes := do return (← valueOf "IFS").getD [32, 9, 10]

/-! ## Parts that run on their own -/

/-- Does something for which a failure is no reason to end the script. -/
def asTest (body : Act α) : Act α := do
  let before := (← get).tested
  modify ({ · with tested := true })
  ensuring body (modify ({ · with tested := before }))

/-- Ends the script after a failure, if it is set to. -/
def endOnFailure : Act Unit := do
  let m ← get
  if m.settings.endsOnFailure && !m.tested && m.status != 0 then throw (.exit m.status)

/-- Runs something on a copy of everything but the files and what is written; an
end of it ends nothing else, unless a signal ended the whole shell. -/
def apart (body : Act Unit) : Act Unit := do
  let before ← get
  let (outcome, after) := body.run.run before
  set { before with
    files := { after.files with here := before.files.here }
    input := after.input
    output := after.output
    outer := after.outer
    errors := after.errors
    status := after.status }
  match outcome with
  | .error (.exit code) => setStatus (code % 256)
  | .error (.killed signal) => throw (.killed signal)
  | _ => return

/-- Runs something on its own and gives what it writes. -/
def captured (body : Act Unit) : Act Bytes := do
  let before ← get
  set { before with
    output := []
    outer := []
    outputTo := .output
    errorsTo := if before.errorsTo = Target.output then Target.outer else before.errorsTo }
  let restore : Act Bytes := do
    let after ← get
    set { after with
      output := before.output ++ after.outer
      outer := before.outer
      outputTo := before.outputTo
      errorsTo := before.errorsTo }
    return after.output
  tryCatch (do
    apart body
    restore) fun stop => do
      let _ ← restore
      throw stop

end Act

end CallSheet.Shell
