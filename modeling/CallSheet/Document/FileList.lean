import CallSheet.Document.Basic
import CallSheet.Files.Operations
import CallSheet.Text.Blank
import CallSheet.Text.Lines

/-!
# Lists from files

A component may name a file instead of listing its contents.  Expanding it
gives a list whose contents are the lines of that file, blanks at the start and
the end of the whole file not counted.  Every other component stays as it is.
-/

namespace CallSheet

open Text

/-- Why a list could not be read. -/
inductive FileListError where
  /-- The file could not be read as a text. -/
  | unreadable (path : String) (fault : Fault)
  /-- The file holds nothing but blanks. -/
  | empty (path : String)
  deriving DecidableEq, Repr

/-- What is wrong, and then what caused it. -/
def FileListError.causes : FileListError → List String
  | .unreadable path fault => ["Unable to read file list " ++ path, fault.message]
  | .empty path => ["File list " ++ path ++ " is empty"]

namespace FileList

/-- The items of a text: its lines, if there is anything but blanks. -/
def items? (text : List Char) : Option (List (List Char)) :=
  let text := trim text
  if text.isEmpty then none else some (lines text)

/-- The items of the file at a path. -/
def read (files : Files) (path : String) : Except FileListError (List String) :=
  match files.readText path with
  | .error fault => .error (.unreadable path fault)
  | .ok text =>
    match items? text.toList with
    | none => .error (.empty path)
    | some items => .ok (items.map String.ofList)

/-- The path of the file that holds a component's contents. -/
def source? (base : String) (component : Component) : Option String :=
  match component.kind with
  | .fileList => some (Path.joined base component.firstContent)
  | .absFileList => some component.firstContent
  | _ => none

/-- Expands one component; relative paths start from a base directory. -/
def expandOne (files : Files) (base : String) (component : Component) :
    Except FileListError Component :=
  match source? base component with
  | none => .ok component
  | some path =>
    match read files path with
    | .error error => .error error
    | .ok items => .ok { component with kind := .list, values := items.map Value.text }

/-- Expands components, up to the first that cannot be expanded. -/
def expand (files : Files) (base : String) : List Component → Except FileListError (List Component)
  | [] => .ok []
  | component :: rest =>
    match expandOne files base component with
    | .error error => .error error
    | .ok component => (expand files base rest).map (component :: ·)

end FileList

/-- Expands the components of a document: the fields of the action first, then
the variables, then those that are computed after the action. -/
def Document.expand (document : Document) (files : Files) (base : String) :
    Except FileListError Document := do
  let action ← match document.action with
    | none => .ok none
    | some action =>
      (FileList.expand files base action.fields).map fun fields =>
        some { action with fields := fields }
  let vars ← FileList.expand files base document.vars
  let after ← FileList.expand files base document.after
  return ⟨vars, after, action⟩

end CallSheet
