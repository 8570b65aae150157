import CallSheet.Command.Ending
import CallSheet.Shell.Redirection

/-!
# The shell's own commands

The commands that change the shell that they run in: its variables, its
directory, its settings and its end.
-/

namespace CallSheet.Shell.Act

open Text

/-! ## Signals -/

/-- The names of the signals, from the first one on. -/
def signalNames : List String :=
  Ending.signalNames.map fun name => String.ofList (name.toList.drop 3)

/-- The number of a signal that is given by number or name. -/
def signal? (text : String) : Option Nat :=
  match text.toNat? with
  | some n => if n ≤ 64 then some n else none
  | none => (signalNames.idxOf? (String.ofList (text.toList.map Char.toUpper))).map (· + 1)

/-- Signals that end no shell. -/
def harmless : List Nat := [0, 17, 18, 23, 28]

/-- How to use `kill`. -/
def killUsage : String :=
  "kill: Usage: kill [-s sigspec | -signum | -sigspec] [pid | job]... or\nkill -l [exitstatus]"

/-- Sends a signal to processes; only the shell itself is there. -/
def sendSignal (line signal : Nat) : List String → Act Unit
  | [] => return
  | target :: rest => do
    if target.startsWith "%" then abort line ("kill: No such job: " ++ target)
    match target.toNat? with
    | none => abort line ("kill: Illegal number: " ++ target)
    | some number =>
      if number = (← get).process then
        unless harmless.contains signal do throw (.killed signal)
      else refuse line 1 "kill: No such process\n"
      sendSignal line signal rest

/-- Writes the name of a signal that is given by its number or by the status of
what it ended. -/
def nameSignal (line : Nat) (text : String) : Act Unit := do
  match text.toNat? with
  | none => abort line ("kill: Illegal number: " ++ text)
  | some n =>
    match signalNames[(if 128 < n then n - 128 else n) - 1]? with
    | some name =>
      if n = 0 then abort line ("kill: invalid signal number or exit status: " ++ text)
      write (bytesOf (name ++ "\n"))
      setStatus 0
    | none => abort line ("kill: invalid signal number or exit status: " ++ text)

/-- Sends a signal to processes, or names one. -/
def kill (line : Nat) (arguments : List String) : Act Unit := do
  let go (signal : Nat) (targets : List String) : Act Unit := do
    if targets.isEmpty then abort line killUsage
    setStatus 0
    sendSignal line signal targets
  match arguments with
  | [] => abort line killUsage
  | "--" :: targets => go 15 targets
  | "-s" :: name :: targets =>
    match signal? name with
    | some signal => go signal targets
    | none => abort line ("kill: invalid signal number or name: " ++ name)
  | "-l" :: text :: _ => nameSignal line text
  | ["-l"] => write (bytesOf ("\n".intercalate ("0" :: signalNames) ++ "\n"))
  | first :: targets =>
    match first.toList with
    | '-' :: letter :: name =>
      match signal? (String.ofList (letter :: name)) with
      | some signal => go signal targets
      | none => abort line ("kill: Illegal option -" ++ String.ofList [letter])
    | _ => go 15 (first :: targets)

/-- What is said of a program that a signal ended. -/
def signalText (signal : Nat) : String :=
  (([(1, "Hangup"), (3, "Quit"), (4, "Illegal instruction"), (6, "Aborted"),
    (8, "Floating point exception"), (9, "Killed"), (10, "User defined signal 1"),
    (11, "Segmentation fault"), (12, "User defined signal 2"), (14, "Alarm clock"),
    (15, "Terminated")] : List (Nat × String)).lookup signal).getD
      ("Signal " ++ toString signal)

/-- Runs something as a program of its own, which a signal can end. -/
def asProgram (body : Act Unit) : Act Unit :=
  tryCatch (apart body) fun stop =>
    match stop with
    | .killed signal => do
      unless signal = 2 ∨ signal = 13 do complain (signalText signal ++ "\n")
      setStatus (128 + signal)
    | stop => throw stop

/-! ## Reading lines -/

/-- A line of the input without its end, and what follows it; a backslash takes
the meaning from the byte after it if `escapes` says so. -/
def lineOf (escapes : Bool) : Bytes → List Glyph × Option Bytes
  | [] => ([], none)
  | [b] => if b = 10 then ([], some []) else ([Glyph.live b], none)
  | b :: c :: rest =>
    if b = 10 then ([], some (c :: rest))
    else if b = 92 ∧ escapes then
      let (line, after) := lineOf escapes rest
      (if c = 10 then line else ⟨c, true⟩ :: line, after)
    else
      let (line, after) := lineOf escapes (c :: rest)
      (Glyph.live b :: line, after)

/-- Gives the words of a line to variables, and all that is left to the last
one. -/
def assignWords (separators : Bytes) (line : List Glyph) : List String → Act Unit
  | [] => return
  | [name] => do
    let isBlank (g : Glyph) : Bool :=
      !g.literal && separators.contains g.byte && Fragment.isBlank g.byte
    assign name (Glyph.bytes ((line.dropWhile isBlank).reverse.dropWhile isBlank).reverse)
  | name :: others => do
    let separates (g : Glyph) : Bool := !g.literal && separators.contains g.byte
    let isBlank (g : Glyph) : Bool := separates g && Fragment.isBlank g.byte
    let line := line.dropWhile isBlank
    assign name (Glyph.bytes (line.takeWhile fun g => !separates g))
    let rest := (line.dropWhile fun g => !separates g).dropWhile isBlank
    let rest := match rest with
      | g :: after => if separates g then after.dropWhile isBlank else rest
      | [] => []
    assignWords separators rest others

/-- Reads a line of the input into variables. -/
def readLine (line : Nat) (arguments : List String) : Act Unit := do
  let names := arguments.filter fun name => !name.startsWith "-"
  if names.isEmpty then refuse line 2 "read: arg count"
  else
    let m ← get
    let (text, after) := lineOf (!arguments.contains "-r") m.input
    set { m with input := after.getD [] }
    assignWords (← separators) text names
    setStatus (if after.isSome then 0 else 1)

/-! ## Variables and settings -/

/-- The name and the value of a text such as `name=value`. -/
def assignmentOf (text : Bytes) : String × Option Bytes :=
  let name := text.takeWhile (· != 61)
  let rest := text.drop name.length
  (stringOf name, if rest.isEmpty then none else some (rest.drop 1))

/-- Gives variables values, for texts such as `name=value`, and does something
with each name before. -/
def assignAll (before : String → Act Unit) : List Bytes → Act Unit
  | [] => setStatus 0
  | text :: rest => do
    let (name, value) := assignmentOf text
    before name
    match value with
    | some value => assign name value
    | none => pure ()
    assignAll before rest

/-- Makes a variable one of a function. -/
def keep (line : Nat) (name : String) : Act Unit := do
  let m ← get
  match m.kept with
  | none => abort line "local: not in a function"
  | some kept => set { m with kept := some ((name, m.vars.lookup name) :: kept) }

/-- Takes the values from variables, or functions from their names. -/
def unset (arguments : List String) : Act Unit := do
  match arguments with
  | "-f" :: names =>
    modify fun m => { m with functions := m.functions.filter fun f => !names.contains f.1 }
  | _ =>
    for name in arguments.filter (· != "-v") do setVariable name none
  setStatus 0

/-- Turns settings on or off. -/
def applySettings (on : Bool) (letters : List Char) : Act Unit :=
  modify fun m => { m with settings := {
    endsOnFailure := if letters.contains 'e' then on else m.settings.endsOnFailure
    needsValues := if letters.contains 'u' then on else m.settings.needsValues } }

/-- Changes settings, and the arguments of the script if any are given. -/
def setAll : List Bytes → Act Unit
  | [] => setStatus 0
  | first :: rest => do
    let replace (arguments : List Bytes) : Act Unit :=
      modify fun m => { m with arguments := arguments, status := 0 }
    match (stringOf first).toList with
    | ['-', '-'] => replace rest
    | '-' :: letters =>
      applySettings true letters
      setAll rest
    | '+' :: letters =>
      applySettings false letters
      setAll rest
    | _ => replace (first :: rest)

/-- A number that a command takes, or another one. -/
def numberOr (default : Nat) : List String → Option Nat
  | [] => some default
  | text :: _ => text.toNat?

/-- Goes past arguments of the script. -/
def shift (line : Nat) (arguments : List String) : Act Unit := do
  let m ← get
  match numberOr 1 arguments with
  | none => abort line ("shift: Illegal number: " ++ arguments.headD "")
  | some n =>
    if m.arguments.length < n then abort line "shift: can\x27t shift that many"
    else set { m with arguments := m.arguments.drop n, status := 0 }

/-- Says what is done at the end. -/
def trap (arguments : List Bytes) : Act Unit := do
  match arguments with
  | action :: signals =>
    if signals.any fun s => stringOf s == "0" || stringOf s == "EXIT" then
      modify ({ · with atEnd := if action = [45] ∨ action.isEmpty then none else some action })
  | [] => return
  setStatus 0

/-- Goes to another directory. -/
def goTo (line : Nat) (path : String) : Act Unit := do
  let m ← get
  match m.files.enter path with
  | .ok files =>
    set { m with files := files }
    setStatus 0
  | .error _ => refuse line 2 ("cd: can\x27t cd to " ++ path)

/-! ## Programs -/

/-- Runs a tool. -/
def useTool (line : Nat) (tool : Task → Answer) (arguments : List Bytes) : Act Unit := do
  let m ← get
  let answer := tool ⟨← label line, arguments, m.input, m.readsFile, m.files⟩
  if answer.readsInput then modify ({ · with input := [] })
  write answer.output
  unless answer.errors.isEmpty do complain answer.errors
  setStatus answer.status

/-- The directories of programs. -/
def programDirs : List String := ["/bin/", "/usr/bin/"]

/-- The name of a program that is given with its directory. -/
def programName (path : String) : String :=
  match programDirs.find? fun dir => path.startsWith dir with
  | some dir => String.ofList (path.toList.drop dir.length)
  | none => path

/-- The names under which a shell can be started. -/
def shellNames : List String := ["sh", "dash", "bash"]

/-- The tool of a name or a path. -/
def tool? (name : String) : Option (Task → Answer) :=
  let program := programName name
  if program = "echo" ∧ name ≠ "echo" then some Tool.plainEcho else Tool.ofName? program

/-- Complains that there is no command of a name; `label` starts the complaint. -/
def refuseName (line : Nat) (label name : String) : Act Unit := do
  if name.toList.contains '/' && (← get).files.has name then
    refuse line 126 (label ++ name ++ ": Permission denied")
  else refuse line 127 (label ++ name ++ ": not found")

/-- The shell's own commands for which an assignment before them stays. -/
def lasting : List String :=
  [":", "break", "continue", "eval", "exec", "exit", "export", "readonly", "return", "set",
    "shift", "trap", "unset"]

end CallSheet.Shell.Act
