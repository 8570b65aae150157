import CallSheet.Fault
import CallSheet.Files.Path
import CallSheet.Text.Utf8

/-!
# Files

The files that a program sees: entries at places, and the directory that it
works in.  A place is the list of names on the way from the root.  A path is
looked up by walking it from name to name, through links, as far as a bound on
the links allows.
-/

namespace CallSheet

open Text

/-- The names on the way from the root. -/
abbrev Place := List String

/-- What is at a place. -/
inductive Entry where
  | file (content : List UInt8)
  | directory
  /-- A link to a path. -/
  | link (target : String)
  /-- A thing that is always empty, whatever is written to it. -/
  | sink
  deriving DecidableEq, Repr

/-- The entries at their places, and the directory that relative paths start
from. -/
structure Files where
  entries : List (Place × Entry)
  here : Place := []
  deriving DecidableEq, Repr

namespace Files

/-! ## Places -/

/-- What is at a place; the root is always a directory. -/
def entryAt? (files : Files) (place : Place) : Option Entry :=
  if place = [] then some .directory else files.entries.lookup place

/-- Whether there is a directory at a place. -/
def isDirectoryAt (files : Files) (place : Place) : Bool := files.entryAt? place == some .directory

/-- Puts an entry at a place, instead of the one that is there or at the end. -/
def put (files : Files) (place : Place) (entry : Entry) : Files :=
  if files.entries.any (·.1 == place) then
    { files with
      entries := files.entries.map fun known => if known.1 = place then (place, entry) else known }
  else { files with entries := files.entries ++ [(place, entry)] }

/-- The names in the directory at a place, each with its entry. -/
def childrenAt (files : Files) (place : Place) : List (String × Entry) :=
  files.entries.filterMap fun (other, entry) =>
    match other.getLast? with
    | some name => if other.dropLast = place then some (name, entry) else none
    | none => none

/-! ## Walking a path -/

/-- What a walk comes to. -/
inductive Found where
  | entry (place : Place) (entry : Entry)
  /-- Only the last name is missing in an existing directory. -/
  | vacant (parent : Place) (name : String)
  deriving DecidableEq, Repr

/-- The most bytes of a name. -/
def longestName : Nat := 255

/-- The most bytes of a path. -/
def longestPath : Nat := 4095

/-- The most links on the way of a path. -/
def mostLinks : Nat := 40

/-- The number of bytes of a text. -/
def width (text : String) : Nat := (Utf8.encode text.toList).length

/-- The names of a path. -/
def segmentsOf (path : List Char) : List String :=
  match path with
  | '/' :: rest => (splitOn '/' rest).map String.ofList
  | _ => (splitOn '/' path).map String.ofList

/-- Walks along names up to a link that is to be followed, from where `jump` goes on.
A link at the end is followed only if `follow` says so. -/
def walkWith (files : Files) (follow : Bool) (jump : Place → List String → Except Fault Found)
    (place : Place) : List String → Except Fault Found
  | [] =>
    match files.entryAt? place with
    | some entry => .ok (.entry place entry)
    | none => .error .missing
  | name :: rest =>
    if !files.isDirectoryAt place then .error .notDirectory
    else if name = "" ∨ name = "." then files.walkWith follow jump place rest
    else if name = ".." then files.walkWith follow jump place.dropLast rest
    else if longestName < width name then .error .tooLong
    else
      match files.entryAt? (place ++ [name]) with
      | none => if rest.isEmpty then .ok (.vacant place name) else .error .missing
      | some (.link target) =>
        if rest.isEmpty && !follow then .ok (.entry (place ++ [name]) (.link target))
        else
          jump (if Path.isAbsolute target.toList then [] else place)
            (segmentsOf target.toList ++ rest)
      | some _ => files.walkWith follow jump (place ++ [name]) rest

/-- Walks along names and so many links. -/
def walk (files : Files) (follow : Bool) : Nat → Place → List String → Except Fault Found
  | 0 => files.walkWith follow fun _ _ => .error .tooManyLinks
  | links + 1 => files.walkWith follow (files.walk follow links)

/-- Looks a path up. -/
@[irreducible]
def find (files : Files) (follow : Bool) (path : String) : Except Fault Found :=
  let text := path.toList
  if text.contains '\x00' then .error .nulInName
  else if text.isEmpty then .error .missing
  else if longestPath < width path then .error .tooLong
  else
    files.walk follow mostLinks (if Path.isAbsolute text then [] else files.here) (segmentsOf text)

/-- Looks up a path to something that is there. -/
def locate (files : Files) (path : String) : Except Fault (Place × Entry) :=
  match files.find true path with
  | .ok (.entry place entry) => .ok (place, entry)
  | .ok (.vacant ..) => .error .missing
  | .error fault => .error fault

end Files

end CallSheet
