import CallSheet.Context.Json
import CallSheet.Document.Basic
import CallSheet.Files.Operations

/-!
# Result directories

A document has one directory for its result, `.result/NAME` beside the
document, where `NAME` is the document's name without its extension.  A result
that is there already is kept: before a new one is made, it is moved to the
first of `NAME_1`, `NAME_2`, … that is free.
-/

namespace CallSheet

open Text

/-- The directory of a document's result. -/
structure ResultDir where
  /-- The directory of the document. -/
  currentDir : String
  /-- The document's name without its extension. -/
  currentFile : String
  /-- The directory of the result. -/
  path : String
  deriving DecidableEq, Repr

namespace ResultDir

/-- The name of the directory that holds all results. -/
def folder : String := ".result"

/-- The name of the file that keeps the values of a run. -/
def varsFile : String := ".vars"

/-- The directory that holds the results of the documents in a directory. -/
def folderOf (currentDir : String) : String := Path.joined currentDir folder

/-- The result directory of the document at a path. -/
def forDocument (path : String) : ResultDir :=
  let currentDir := Path.directoryOf path
  let currentFile := String.ofList ((Path.ofString path).stem?.getD [])
  ⟨currentDir, currentFile, Path.joined (folderOf currentDir) currentFile⟩

/-- The context before anything is resolved. -/
def seed (dir : ResultDir) : Context := Context.seeded dir.currentDir dir.currentFile dir.path

/-! ## Keeping earlier results -/

/-- The path of the earlier result with a number. -/
def backup (dir : ResultDir) (number : Nat) : String :=
  Path.joined (folderOf dir.currentDir) (dir.currentFile ++ "_" ++ toString number)

/-- The first number from `number` on whose path is free, if it comes up within
so many steps. -/
def firstFree (dir : ResultDir) (files : Files) : Nat → Nat → Nat
  | 0, number => number
  | steps + 1, number =>
    if files.has (dir.backup number) then dir.firstFree files steps (number + 1) else number

/-- The number that the result which is there is kept under.  No more numbers
can be taken than there are entries. -/
def backupNumber (dir : ResultDir) (files : Files) : Nat :=
  dir.firstFree files files.entries.length 1

/-- Makes an empty result directory and keeps the result that is there. -/
def prepare (dir : ResultDir) (files : Files) : Except Fault Unit × Files :=
  if files.has dir.path then
    match files.move dir.path (dir.backup (dir.backupNumber files)) with
    | (.ok (), files) => files.makeDirectories dir.path
    | failed => failed
  else files.makeDirectories dir.path

/-! ## Writing -/

/-- The path of a file in the result directory. -/
def fileAt (dir : ResultDir) (name : String) : String := Path.joined dir.path name

/-- Writes a text to a file in the result directory. -/
def writeText (dir : ResultDir) (files : Files) (name text : String) : Except Fault Unit × Files :=
  files.write (dir.fileAt name) (Utf8.encode text.toList)

/-- Writes down the values of a context. -/
def writeVars (dir : ResultDir) (context : Context) (files : Files) : Except Fault Unit × Files :=
  dir.writeText files varsFile context.toJson

/-- Writes the values of components, each to the file of its name, up to the
first that cannot be written. -/
def writeValues (dir : ResultDir) (context : Context) (files : Files) :
    List Component → Except Fault Unit × Files
  | [] => (.ok (), files)
  | component :: rest =>
    match dir.writeText files component.name ((context.get? component.name).getD "") with
    | (.ok (), files) => dir.writeValues context files rest
    | failed => failed

/-- Writes the values that a document computes after its action. -/
def writeAfter (dir : ResultDir) (document : Document) (context : Context) (files : Files) :
    Except Fault Unit × Files :=
  dir.writeValues context files document.after

end ResultDir

end CallSheet
