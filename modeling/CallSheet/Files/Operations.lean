import CallSheet.Files.Basic

/-!
# Using files

Reading, writing, listing, making directories and moving.  An operation that
changes nothing gives its result alone; one that changes files gives the files
afterwards as well, also when it fails.
-/

namespace CallSheet.Files

open Text

/-! ## Asking -/

/-- Whether there is something at a path. -/
def has (files : Files) (path : String) : Bool :=
  match files.locate path with
  | .ok _ => true
  | .error _ => false

/-- Whether there is a directory at a path. -/
def isDirectory (files : Files) (path : String) : Bool :=
  match files.locate path with
  | .ok (_, .directory) => true
  | _ => false

/-- Whether there is a file at a path. -/
def isFile (files : Files) (path : String) : Bool :=
  match files.locate path with
  | .ok (_, .file _) => true
  | _ => false

/-- The bytes of the file at a path. -/
def read (files : Files) (path : String) : Except Fault (List UInt8) :=
  match files.locate path with
  | .ok (_, .file content) => .ok content
  | .ok (_, .directory) => .error .isDirectory
  | .ok _ => .ok []
  | .error fault => .error fault

/-- The text of the file at a path. -/
def readText (files : Files) (path : String) : Except Fault String :=
  match files.read path with
  | .ok content =>
    match Utf8.decode content with
    | .ok text => .ok (String.ofList text)
    | .error _ => .error .notText
  | .error fault => .error fault

/-- The names in the directory at a path, each with its entry. -/
def list (files : Files) (path : String) : Except Fault (List (String × Entry)) :=
  match files.locate path with
  | .ok (place, .directory) => .ok (files.childrenAt place)
  | .ok _ => .error .notDirectory
  | .error fault => .error fault

/-! ## Places and paths -/

/-- The path of a place from the root. -/
def pathOf (place : Place) : String :=
  String.ofList ('/' :: join '/' (place.map String.toList))

/-- The path from the root, without links, to what is at a path. -/
def realPath (files : Files) (path : String) : Except Fault String :=
  (files.locate path).map fun (place, _) => pathOf place

/-- Goes to a directory. -/
def enter (files : Files) (path : String) : Except Fault Files :=
  match files.locate path with
  | .ok (place, .directory) => .ok { files with here := place }
  | .ok _ => .error .notDirectory
  | .error fault => .error fault

/-! ## Writing -/

/-- Whether a path ends in a slash. -/
def endsInSlash (path : String) : Bool := path.toList.getLast? == some '/'

/-- A path without the slashes at its end; the root keeps its own. -/
def withoutSlashes (path : String) : String :=
  let text := (path.toList.reverse.dropWhile (· == '/')).reverse
  if text.isEmpty && !path.isEmpty then "/" else String.ofList text

/-- Opens the file at a path for writing, makes it if it is not there, and
gives it the content that `change` makes of the content before. -/
@[irreducible]
def writeWith (files : Files) (path : String) (change : List UInt8 → List UInt8) :
    Except Fault Unit × Files :=
  if endsInSlash path then
    match files.find true (withoutSlashes path) with
    | .ok _ => (.error .isDirectory, files)
    | .error fault => (.error fault, files)
  else
    match files.find true path with
    | .ok (.entry place (.file content)) => (.ok (), files.put place (.file (change content)))
    | .ok (.entry _ .directory) => (.error .isDirectory, files)
    | .ok (.entry _ _) => (.ok (), files)
    | .ok (.vacant parent name) => (.ok (), files.put (parent ++ [name]) (.file (change [])))
    | .error fault => (.error fault, files)

/-- Writes a file. -/
def write (files : Files) (path : String) (content : List UInt8) : Except Fault Unit × Files :=
  files.writeWith path fun _ => content

/-- Writes at the end of a file. -/
def append (files : Files) (path : String) (content : List UInt8) : Except Fault Unit × Files :=
  files.writeWith path (· ++ content)

/-! ## Directories -/

/-- Makes a directory. -/
def makeDirectory (files : Files) (path : String) : Except Fault Unit × Files :=
  match files.find false (withoutSlashes path) with
  | .ok (.entry ..) => (.error .taken, files)
  | .ok (.vacant parent name) => (.ok (), files.put (parent ++ [name]) .directory)
  | .error fault => (.error fault, files)

/-- Makes the first of some directories, each of which is in the next one, and
those of the others that are missing.  The empty path needs no directory. -/
def makeNested (files : Files) : List String → Except Fault Unit × Files
  | [] => (.ok (), files)
  | path :: outer =>
    if path = "" then (.ok (), files)
    else
      let settle (outcome : Except Fault Unit × Files) : Except Fault Unit × Files :=
        match outcome with
        | (.error fault, after) =>
          if after.isDirectory path then (.ok (), after) else (.error fault, after)
        | ok => ok
      match files.makeDirectory path with
      | (.error fault, _) =>
        if fault = .missing then
          match files.makeNested outer with
          | (.ok (), after) => settle (after.makeDirectory path)
          | failed => failed
        else settle (.error fault, files)
      | ok => ok

/-- A path, its parent, and so on. -/
def outward : Nat → Path → List String
  | 0, _ => []
  | steps + 1, path =>
    path.toString ::
      match path.parent? with
      | some parent => outward steps parent
      | none => []

/-- Makes a directory and those that it is in. -/
def makeDirectories (files : Files) (path : String) : Except Fault Unit × Files :=
  let parts := Path.ofString path
  files.makeNested (outward (parts.segments.length + 2) parts)

/-! ## Moving -/

/-- Whether the last name of a path is a point or two. -/
def endsInPoints (path : String) : Bool :=
  match (segmentsOf (withoutSlashes path).toList).getLast? with
  | some name => name == "." || name == ".." || name == ""
  | none => true

/-- Where a place is after everything at and below `old` went to `new`. -/
def movedPlace (old new place : Place) : Place :=
  if old.isPrefixOf place then new ++ place.drop old.length else place

/-- Moves everything at and below a place, also the directory that is worked in
if it is there. -/
def moveAt (files : Files) (old new : Place) : Files where
  entries := files.entries.map fun (place, entry) => (movedPlace old new place, entry)
  here := movedPlace old new files.here

/-- Removes the entry at a place. -/
def removeAt (files : Files) (place : Place) : Files :=
  { files with entries := files.entries.filter (·.1 != place) }

/-- Moves what is at a place over what is at another one. -/
def moveOver (files : Files) (old : Place) (entry : Entry) (new : Place) (target : Entry) :
    Except Fault Unit × Files :=
  if old = new then (.ok (), files)
  else if entry = .directory ∧ target ≠ .directory then (.error .notDirectory, files)
  else if entry ≠ .directory ∧ target = .directory then (.error .isDirectory, files)
  else if !(files.childrenAt new).isEmpty then (.error .notEmpty, files)
  else (.ok (), (files.removeAt new).moveAt old new)

/-- Moves what is at a path to another path. -/
def move (files : Files) (old new : String) : Except Fault Unit × Files :=
  match files.find false (withoutSlashes old), files.find false (withoutSlashes new) with
  | .error fault, _ => (.error fault, files)
  | _, .error fault => (.error fault, files)
  | .ok (.vacant ..), _ => (.error .missing, files)
  | .ok (.entry place entry), .ok found =>
    let target : Place := match found with
      | .entry place _ => place
      | .vacant parent name => parent ++ [name]
    if endsInPoints old || endsInPoints new then (.error .busy, files)
    else if entry ≠ .directory ∧ (endsInSlash old || endsInSlash new) then
      (.error .notDirectory, files)
    else if place.isPrefixOf target && place != target then (.error .invalid, files)
    else
      match found with
      | .entry _ known => files.moveOver place entry target known
      | .vacant .. => (.ok (), files.moveAt place target)

end CallSheet.Files
