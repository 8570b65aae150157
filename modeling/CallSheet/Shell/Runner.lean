import CallSheet.Shell.Run
import CallSheet.World

/-!
# Shells as runners

A runner starts a program by its name or its path and gives it a command.  A
name is looked for among the programs of the machine; a path has to lead to one
of them, since no other file can be run.
-/

namespace CallSheet.Shell

open Text

/-- What a program does with the arguments `-c` and a command. -/
inductive Program where
  /-- Runs the command as a script. -/
  | shell
  | tool (tool : Task → Answer)

/-- The programs of the machine. -/
def programs : List (String × Program) :=
  (Act.shellNames.map fun name => (name, Program.shell)) ++
    [("true", .tool fun _ => {}),
      ("false", .tool fun _ => { status := 1 }),
      ("echo", .tool Tool.plainEcho),
      ("printf", .tool Tool.plainPrintf),
      ("cat", .tool (Tool.withOptions "cat" "" false Tool.cat)),
      ("tr", .tool Tool.tr),
      ("wc", .tool Tool.wc),
      ("test", .tool Tool.test)]

/-- The program that a name or a path starts. -/
def program (files : Files) (name : String) : Except Fault Program :=
  if name.toList.contains '\x00' then .error .nulInArgument
  else if name.toList.contains '/' then
    match programs.lookup (Act.programName name) with
    | some found => .ok found
    | none =>
      match files.locate name with
      | .ok _ => .error .denied
      | .error fault => .error fault
  else if name = "." ∨ name = ".." then .error .denied
  else
    match programs.lookup name with
    | some found => .ok found
    | none => .error .missing

/-- Runs a program with `-c` and a command. -/
def start (found : Program) (name command : String) (environment : List (String × String))
    (files : Files) : Finished :=
  match found with
  | .shell => runScript name command environment files
  | .tool tool =>
    let answer := tool ⟨"", [bytesOf "-c", bytesOf command], [], false, files⟩
    ⟨.exited answer.status, answer.output, bytesOf answer.errors, files⟩

/-- A text without the end of a line at its end. -/
def withoutLastLine (text : List Char) : List Char :=
  if text.getLast? = some '\n' then text.dropLast else text

/-- Runs commands with a shell; their output is a text, less the end of its last
line. -/
def runner (shell : String) (environment : List (String × String)) : Runner (World ρ) :=
  fun command world =>
    let refused (fault : Fault) : Except CommandError String × World ρ :=
      (.error (.spawn shell fault), world)
    if command.toList.contains '\x00' then refused .nulInArgument
    else
      match program world.files shell with
      | .error fault => refused fault
      | .ok found =>
        let finished := start found shell command environment world.files
        let world := { world with files := finished.files }
        if finished.ending.isSuccess then
          (.ok (String.ofList (withoutLastLine (Utf8.decodeLossy finished.output))), world)
        else (.error (.failed finished.ending (stringOf finished.errors)), world)

/-- The shell that is used when none is given. -/
def defaultShell : String := "sh"

end CallSheet.Shell
