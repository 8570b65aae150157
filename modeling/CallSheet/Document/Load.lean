import CallSheet.Document.FileList
import CallSheet.Document.Parse

/-!
# Loading a document

A document is read from a file, and its lists from the files next to it.
-/

namespace CallSheet

/-- Why a document could not be loaded. -/
inductive LoadError where
  | unreadable (fault : Fault)
  | parse (error : ParseError)
  | fileList (error : FileListError)
  deriving DecidableEq, Repr

/-- What is wrong, and then what caused it. -/
def LoadError.causes : LoadError → List String
  | .unreadable fault => ["Unable to read document", fault.message]
  | .parse error => ["Unable to parse document", error.message]
  | .fileList error => "Unable to expand file list" :: error.causes

/-- Loads the document at a path. -/
def Document.load (files : Files) (path : String) : Except LoadError Document :=
  match files.readText path with
  | .error fault => .error (.unreadable fault)
  | .ok text =>
    match Document.parse text with
    | .error error => .error (.parse error)
    | .ok document =>
      match document.expand files (Path.directoryOf path) with
      | .error error => .error (.fileList error)
      | .ok document => .ok document

end CallSheet
