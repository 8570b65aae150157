import CallSheet.Action.Basic
import CallSheet.Text.Lines

/-!
# Kinds from a directory

Every directory in the configuration directory that holds a command and a first
document defines a kind of action of its own name.  A third file, if there is
one, names the fields of the kind.
-/

namespace CallSheet.Action

open Text

/-- A kind that is defined by files. -/
structure Custom where
  name : String
  /-- The command, with slots for values. -/
  command : String
  /-- A first document of the kind. -/
  skeleton : String
  fields : List String
  deriving DecidableEq, Repr

namespace Custom

/-- The name of the file that holds the command. -/
def commandFile : String := "run.tmpl"

/-- The name of the file that holds the first document. -/
def skeletonFile : String := "new_api.md"

/-- The name of the file that holds the fields. -/
def fieldsFile : String := "vars"

/-- The fields that a text names, one a line; blanks around them do not count. -/
def fieldsOf (text : String) : List String :=
  (((fieldLines text.toList).map trim).filter fun line => !line.isEmpty).map String.ofList

/-- The text of a file of a kind. -/
def readFile (files : Files) (path : String) : Except ActionError String :=
  match files.readText path with
  | .ok text => .ok text
  | .error fault => .error (.file path fault)

/-- The fields of the kind in a directory. -/
def readFields (files : Files) (dir : String) : Except ActionError (List String) :=
  let path := Path.joined dir fieldsFile
  if files.isFile path then (readFile files path).map fieldsOf else .ok []

/-- The kind in a directory, if there is one. -/
def load (files : Files) (name dir : String) : Except ActionError (Option Custom) := do
  let commandPath := Path.joined dir commandFile
  let skeletonPath := Path.joined dir skeletonFile
  if files.isFile commandPath && files.isFile skeletonPath then
    let fields ← readFields files dir
    let command ← readFile files commandPath
    let skeleton ← readFile files skeletonPath
    return some ⟨name, command, skeleton, fields⟩
  else return none

/-- The kinds in some directories, in the same order. -/
def loadAll (files : Files) (configDir : String) : List String → Except ActionError (List Custom)
  | [] => .ok []
  | name :: rest => do
    let kind ← load files name (Path.joined configDir name)
    let kinds ← loadAll files configDir rest
    return kind.toList ++ kinds

/-- The names of the directories, links not counted, in a list of entries. -/
def directories (entries : List (String × Entry)) : List String :=
  entries.filterMap fun (name, entry) => if entry = .directory then some name else none

/-- The kinds in a configuration directory, in the order of their names.  There
are none where there is no such directory. -/
def discover (files : Files) (configDir : String) : Except ActionError (List Custom) :=
  if files.isDirectory configDir then
    match files.list configDir with
    | .error fault => .error (.file configDir fault)
    | .ok entries =>
      (loadAll files configDir (directories entries)).map fun kinds =>
        kinds.mergeSort fun a b => a.name ≤ b.name
  else .ok []

/-- The command with the values of a context. -/
def compile (kind : Custom) (context : Context) : String := Template.fill context kind.command

end Custom

end CallSheet.Action
