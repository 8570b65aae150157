import CallSheet.Shell.Expansion

/-!
# Redirections

Where the input of a command comes from and where its output goes.  A
redirection holds as long as the command runs.
-/

namespace CallSheet.Shell.Act

open Text

/-- The words for a file that cannot be used. -/
def fileText (absent : String) (fault : Fault) : String :=
  if fault = .missing ∨ fault = .notDirectory then absent else Tool.faultText fault

/-- Sends what is written to a number somewhere. -/
def send (number : Nat) (target : Target) : Act Unit :=
  modify fun m =>
    if number = 1 then { m with outputTo := target }
    else if number = 2 then { m with errorsTo := target }
    else m

/-- The path of a file from the root. -/
def fullPath (files : Files) (path : String) : String :=
  if Path.isAbsolute path.toList then path
  else String.ofList (Path.joinText (Files.pathOf files.here).toList path.toList)

/-- The target that a path stands for without being a file. -/
def deviceTarget? (m : Machine) (path : String) : Option Target :=
  [("/dev/stdout", m.outputTo), ("/dev/stderr", m.errorsTo)].lookup path

/-- Takes the input from a file. -/
def readFrom (line number : Nat) (path : String) : Act Bool := do
  let take (content : Bytes) : Act Bool := do
    if number = 0 then modify ({ · with input := content, readsFile := true })
    return true
  match (← get).files.read path with
  | .ok content => take content
  | .error .isDirectory => take []
  | .error fault =>
    if path = "/dev/stdin" then return true
    refuse line 2 ("cannot open " ++ path ++ ": " ++ fileText "No such file" fault)
    return false

/-- Sends what is written to a number to a file, at its end if `atEnd` says so. -/
def writeInto (line number : Nat) (atEnd : Bool) (path : String) : Act Bool := do
  let m ← get
  match deviceTarget? m path with
  | some target =>
    send number target
    return true
  | none =>
    match m.files.writeWith path fun content => if atEnd then content else [] with
    | (.ok (), files) =>
      set { m with files := files }
      send number (.file (fullPath files path))
      return true
    | (.error fault, _) =>
      refuse line 2 ("cannot create " ++ path ++ ": " ++ fileText "Directory nonexistent" fault)
      return false

/-- Sends what is written to a number to where another number goes. -/
def sendLike (line number : Nat) (other : String) : Act Bool := do
  let m ← get
  let go (target : Target) : Act Bool := do
    send number target
    return true
  match other with
  | "0" => return true
  | "1" => go m.outputTo
  | "2" => go m.errorsTo
  | "-" => go .nowhere
  | _ =>
    refuse line 2 (other ++ ": Bad file descriptor")
    return false

/-- Makes a redirection; the answer tells whether it could be made. -/
def redirect (script : List Char → Act Bytes) (line : Nat) (r : Redirect) : Act Bool := do
  let text ← textOf script line r.word
  match r.kind with
  | .here =>
    if r.number = 0 then modify ({ · with input := text, readsFile := false })
    return true
  | .read => readFrom line r.number (stringOf text)
  | .write => writeInto line r.number false (stringOf text)
  | .append => writeInto line r.number true (stringOf text)
  | .same => sendLike line r.number (stringOf text)

/-- Makes redirections up to the first that cannot be made. -/
def redirectAll (script : List Char → Act Bytes) (line : Nat) : List Redirect → Act Bool
  | [] => return true
  | r :: rest => do
    if ← redirect script line r then redirectAll script line rest else return false

/-- Does something with redirections, and takes them back afterwards. -/
def redirected (script : List Char → Act Bytes) (line : Nat) (rs : List Redirect)
    (body : Act Unit) : Act Unit := do
  let before ← get
  let changesInput := rs.any fun r => r.number = 0
  ensuring (do if ← redirectAll script line rs then body) (modify fun m => { m with
    outputTo := before.outputTo
    errorsTo := before.errorsTo
    input := if changesInput then before.input else m.input
    readsFile := before.readsFile })

end CallSheet.Shell.Act
