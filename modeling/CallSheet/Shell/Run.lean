import CallSheet.Shell.Builtin

/-!
# Running scripts

Commands are run one after the other.  The number of steps is bounded, so that
every run ends; a script that needs more is ended like one that exits.
-/

namespace CallSheet.Shell

open Text

namespace Act

/-- Does something with variables that other programs see too, and gives them
their values back afterwards. -/
def withVariables (values : List (String × Bytes)) (body : Act Unit) : Act Unit := do
  let before ← get
  for (name, value) in values do
    assign name value
    publish name
  ensuring body (do
    modify ({ · with exported := before.exported })
    for (name, _) in values do setVariable name (before.vars.lookup name))

/-- Runs the body of a function with arguments of its own. -/
def asFunction (arguments : List Bytes) (body : Act Unit) : Act Unit := do
  let before ← get
  set { before with arguments := arguments, kept := some [] }
  let restore : Act Unit := do
    for (name, value) in (← get).kept.getD [] do setVariable name value
    modify fun m => { m with arguments := before.arguments, kept := before.kept }
  tryCatch (do
    body
    restore) fun stop => do
      restore
      if stop = .back then return else throw stop

/-- Runs something as a new shell with a name, a number and arguments of its
own. -/
def asShell (name : String) (arguments : List Bytes) (body : Act Unit) : Act Unit :=
  asProgram (do
    modify fun m => { m with
      name := name
      process := m.process + 1
      arguments := arguments
      vars := m.vars.filter fun v => m.exported.contains v.1
      functions := []
      settings := {}
      kept := none
      tested := false
      status := 0 }
    body)

/-- The status that a command of the shell is given, or the one before. -/
def statusOf (line : Nat) (name : String) (before : Nat) (arguments : List String) : Act Nat := do
  match numberOr before arguments with
  | some code => return code % 256
  | none => abort line (name ++ ": Illegal number: " ++ arguments.headD "")

mutual

/-- Runs commands one after the other. -/
def runAll : Nat → List Command → Act Unit
  | 0, _ => throw (.exit 2)
  | _, [] => return
  | fuel + 1, command :: rest => do
    runOne fuel command
    runAll fuel rest

/-- Runs the command lines of a script. -/
def runLines : Nat → List Lexeme → Act Unit
  | 0, _ => throw (.exit 2)
  | _, [] => return
  | fuel + 1, lexemes => do
    match commandLine lexemes with
    | .error (line, message) => abort line message
    | .ok (commands, rest) =>
      runAll fuel commands
      runLines fuel rest

/-- Runs something, and then what it says is done at the end. -/
def runToEnd : Nat → Act Unit → Act Unit
  | 0, _ => throw (.exit 2)
  | fuel + 1, body => do
    modify ({ · with atEnd := none })
    let outcome : Option Stop ← tryCatch (do
      body
      return none) fun stop => return some stop
    match outcome with
    | some (.killed signal) => throw (.killed signal)
    | some (.exit code) => setStatus (code % 256)
    | _ => pure ()
    let m ← get
    match m.atEnd with
    | none => return
    | some action =>
      set { m with atEnd := none }
      runLines fuel (tokenize (Utf8.decodeLossy action))
      setStatus m.status

/-- Runs a script and gives what it writes. -/
def outputOf : Nat → List Char → Act Bytes
  | 0, _ => throw (.exit 2)
  | fuel + 1, script => captured (runToEnd fuel (do
      setStatus 0
      runLines fuel (tokenize script)))

/-- Runs a command. -/
def runOne : Nat → Command → Act Unit
  | 0, _ => throw (.exit 2)
  | fuel + 1, command => do
    match command with
    | .simple line assignments words redirects =>
      runSimple fuel line assignments words redirects
      endOnFailure
    | .redirected line command redirects =>
      redirected (outputOf fuel) line redirects (runOne fuel command)
      endOnFailure
    | .group body => runAll fuel body
    | .subshell body =>
      apart (runToEnd fuel (runAll fuel body))
      endOnFailure
    | .pipe commands =>
      runPipe fuel commands
      endOnFailure
    | .negated command =>
      asTest (runOne fuel command)
      setStatus (if (← get).status = 0 then 1 else 0)
    | .both first second =>
      asTest (runOne fuel first)
      if (← get).status = 0 then runOne fuel second
    | .either first second =>
      asTest (runOne fuel first)
      if (← get).status ≠ 0 then runOne fuel second
    | .choice condition yes no =>
      asTest (runAll fuel condition)
      if (← get).status = 0 then runBody fuel yes else runBody fuel no
    | .loop untilTrue condition body => runLoop fuel untilTrue condition body 0
    | .each name words body =>
      let items ← argumentsOf (outputOf fuel) 1 words
      setStatus 0
      runEach fuel name body items
    | .cases line word branches =>
      let text ← textOf (outputOf fuel) line word
      setStatus 0
      runFitting fuel line text branches
    | .define name body =>
      modify fun m => { m with functions := (name, body) :: m.functions, status := 0 }

/-- Runs commands of which none may be there. -/
def runBody : Nat → List Command → Act Unit
  | 0, _ => throw (.exit 2)
  | fuel + 1, commands => if commands.isEmpty then setStatus 0 else runAll fuel commands

/-- Runs the commands of the first branch that a text fits. -/
def runFitting : Nat → Nat → Bytes → List (List Word × List Command) → Act Unit
  | 0, _, _, _ => throw (.exit 2)
  | _, _, _, [] => return
  | fuel + 1, line, text, (words, commands) :: rest => do
    let patterns ← words.mapM (patternOf (outputOf fuel) line)
    if patterns.any fun pattern => Pattern.accepts pattern text then runAll fuel commands
    else runFitting fuel line text rest

/-- Runs commands of which each reads what the one before writes. -/
def runPipe : Nat → List Command → Act Unit
  | 0, _ => throw (.exit 2)
  | _, [] => return
  | fuel + 1, [last] => apart (runOne fuel last)
  | fuel + 1, first :: rest => do
    let bytes ← captured (runOne fuel first)
    let before ← get
    modify ({ · with input := bytes, readsFile := false })
    runPipe fuel rest
    modify ({ · with input := before.input, readsFile := before.readsFile })

/-- Runs the body of a loop once; the answer tells whether the loop goes on. -/
def runRound : Nat → List Command → Act Bool
  | 0, _ => throw (.exit 2)
  | fuel + 1, body =>
    tryCatch (do
      runAll fuel body
      return true) fun stop =>
        match stop with
        | .leave 1 => return false
        | .next 1 => return true
        | .leave (loops + 2) => throw (.leave (loops + 1))
        | .next (loops + 2) => throw (.next (loops + 1))
        | stop => throw stop

/-- Runs a loop; `last` is the status of the round before. -/
def runLoop : Nat → Bool → List Command → List Command → Nat → Act Unit
  | 0, _, _, _, _ => throw (.exit 2)
  | fuel + 1, untilTrue, condition, body, last => do
    asTest (runAll fuel condition)
    if ((← get).status = 0) != untilTrue then
      let goesOn ← runRound fuel body
      if goesOn then runLoop fuel untilTrue condition body (← get).status
    else setStatus last

/-- Runs a loop over items. -/
def runEach : Nat → String → List Command → List Bytes → Act Unit
  | 0, _, _, _ => throw (.exit 2)
  | _, _, _, [] => return
  | fuel + 1, name, body, item :: rest => do
    assign name item
    if ← runRound fuel body then runEach fuel name body rest

/-- Runs a simple command. -/
def runSimple : Nat → Nat → List (String × Word) → List Word → List Redirect → Act Unit
  | 0, _, _, _, _ => throw (.exit 2)
  | fuel + 1, line, assignments, words, redirects => do
    let before := (← get).status
    let arguments ← argumentsOf (outputOf fuel) line words
    let value (item : String × Word) : Act (String × Bytes) := do
      return (item.1, ← textOf (outputOf fuel) line item.2)
    match arguments with
    | [] => redirected (outputOf fuel) line redirects do
      let runsScript (word : Word) : Bool := word.any fun part => match part with
        | .output .. => true
        | _ => false
      unless words.any runsScript || assignments.any (runsScript ·.2) do setStatus 0
      for item in assignments do
        let (name, bytes) ← value item
        assign name bytes
    | name :: arguments =>
      let name := stringOf name
      let values ← assignments.mapM value
      if name = "exec" ∧ arguments.isEmpty then
        if ← redirectAll (outputOf fuel) line redirects then setStatus 0
      else redirected (outputOf fuel) line redirects do
        if lasting.contains name then
          for (name, value) in values do assign name value
          runNamed fuel line before name arguments
        else withVariables values (runNamed fuel line before name arguments)

/-- Runs the command of a name; `before` is the status of the one before. -/
def runNamed : Nat → Nat → Nat → String → List Bytes → Act Unit
  | 0, _, _, _, _ => throw (.exit 2)
  | fuel + 1, line, before, name, arguments => do
    match (← get).functions.lookup name with
    | some body => asFunction arguments (runOne fuel body)
    | none => runBuiltin fuel line before "" name arguments

/-- Runs the commands in a file. -/
def runFile : Nat → Nat → String → Act Unit
  | 0, _, _ => throw (.exit 2)
  | fuel + 1, line, path => do
    if !path.toList.contains '/' then abort line (".: " ++ path ++ ": not found")
    match (← get).files.read path with
    | .ok content => runLines fuel (tokenize (Utf8.decodeLossy content))
    | .error fault =>
      abort line (".: cannot open " ++ path ++ ": " ++ fileText "No such file" fault)

/-- Runs the shell's own command of a name, or a program; `label` starts the
complaint that there is none. -/
def runBuiltin : Nat → Nat → Nat → String → String → List Bytes → Act Unit
  | 0, _, _, _, _, _ => throw (.exit 2)
  | fuel + 1, line, before, label, name, arguments => do
    let texts := arguments.map stringOf
    match name with
    | "exit" => throw (.exit (← statusOf line name before texts))
    | "return" =>
      setStatus (← statusOf line name before texts)
      throw .back
    | "break" => throw (.leave (← statusOf line name 1 texts))
    | "continue" => throw (.next (← statusOf line name 1 texts))
    | "kill" => kill line texts
    | "read" => readLine line texts
    | "cd" => goTo line (texts.headD (stringOf ((← valueOf "HOME").getD [])))
    | "pwd" =>
      write (bytesOf (Files.pathOf (← get).files.here ++ "\n"))
      setStatus 0
    | "export" => assignAll publish arguments
    | "readonly" => assignAll (fun _ => return) arguments
    | "local" => assignAll (keep line) arguments
    | "unset" => unset texts
    | "set" => setAll arguments
    | "shift" => shift line texts
    | "trap" => trap arguments
    | "eval" =>
      setStatus 0
      runLines fuel (tokenize (Utf8.decodeLossy (Bytes.join [32] arguments)))
    | "exec" | "command" =>
      match arguments with
      | [] => setStatus 0
      | inner :: rest =>
        let label := if name = "exec" then "exec: " else ""
        runBuiltin fuel line before label (stringOf inner) rest
        if name = "exec" then throw (.exit (← get).status)
    | "." =>
      match texts with
      | [] => setStatus 0
      | path :: _ => runFile fuel line path
    | _ =>
      if shellNames.contains (programName name) then
        match texts, arguments with
        | "-c" :: _, _ :: script :: rest =>
          asShell (stringOf (rest.headD (bytesOf name))) (rest.drop 1)
            (runToEnd fuel (runLines fuel (tokenize (Utf8.decodeLossy script))))
        | _, _ => setStatus 0
      else
        match tool? name with
        | some tool => useTool line tool arguments
        | none => refuseName line label name

end

end Act

/-- The most steps of a script. -/
def mostSteps : Nat := 1000000

/-- What is there after a script. -/
structure Finished where
  ending : Ending
  output : Bytes
  errors : Bytes
  files : Files

/-- Runs a script; `name` is what the shell is called. -/
def runScript (name script : String) (environment : List (String × String)) (files : Files) :
    Finished :=
  let start : Machine :=
    { files := files
      name := name
      vars := environment.map fun (key, value) => (key, bytesOf value)
      exported := environment.map (·.1) }
  let body := Act.runToEnd mostSteps (Act.runLines mostSteps (tokenize script.toList))
  let (outcome, m) := body.run.run start
  let ending : Ending := match outcome with
    | .error (.exit code) => .exited (code % 256)
    | .error (.killed signal) => .killed signal false
    | _ => .exited (m.status % 256)
  ⟨ending, m.output, m.errors, { m.files with here := files.here }⟩

end CallSheet.Shell
