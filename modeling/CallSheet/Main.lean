import CallSheet.Cli.Program
import CallSheet.Files.Changes

/-!
# The command

Runs the program on the files of the machine: those that the command line leads
to are read, the program runs on them, and what it changed is written.
-/

namespace CallSheet.Cli

/-! ## Reading -/

/-- The names of the variables that the program and its scripts can see. -/
def seenVariables : List String :=
  [configDirVariable, shellVariable, homeVariable, "PATH", "USER", "LANG", "TMPDIR"]

/-- The variables that are set. -/
def currentVariables : IO (List (String × String)) :=
  seenVariables.filterMapM fun name => do return (← IO.getEnv name).map (name, ·)

/-- A place of the machine. -/
def onDisk (place : Place) : IO.FS.DirEntry :=
  ⟨Files.pathOf place.dropLast, place.getLastD ""⟩

/-- What is at a place of the machine and below it; what cannot be read is left
out. -/
partial def snapshot (place : Place) : IO (List (Place × Entry)) := do
  let path := (onDisk place).path
  let read : IO (List (Place × Entry)) := do
    match (← path.symlinkMetadata).type with
    | .dir =>
      let inside ← (← path.readDir).toList.mapM fun child => snapshot (place ++ [child.fileName])
      return (place, .directory) :: inside.flatten
    | .file => return [(place, .file (← IO.FS.readBinFile path).toList)]
    | .symlink => return [(place, .link (toString (← IO.FS.realPath path)))]
    | .other => return [(place, .sink)]
  tryCatch read fun _ => return []

/-- The place that a path leads to. -/
def placeAt (here path : String) : IO Place := do
  let real ← tryCatch (IO.FS.realPath (Path.joined here path)) fun _ => return here
  return (Files.segmentsOf (toString real).toList).filter (· ≠ "")

/-- The places that a command line leads to, the outer ones first. -/
def placesOf (environment : List (String × String)) (arguments : List String) (here : Place) :
    IO (List Place) := do
  match read environment arguments with
  | .error _ => return []
  | .ok invocation =>
    let mut places := [here]
    let mut current := here
    for directory in invocation.directories do
      current ← placeAt (Files.pathOf current) directory
      places := current :: places
    for path in (invocation.configDir.or (defaultConfigDir environment)).toList ++
        (invocation.command.bind Command.file?).toList.map Path.directoryOf do
      places := (← placeAt (Files.pathOf current) path) :: places
    return places.mergeSort fun x y => x.length ≤ y.length

/-- The places that a place is in, other than the root. -/
def around (place : Place) : List Place :=
  ((List.range place.length).drop 1).map place.take

/-- The files at some places and below them. -/
def filesAt (places : List Place) (here : Place) : IO Files := do
  let mut entries : List (Place × Entry) := []
  let mut known : List Place := []
  for place in places do
    if !known.any (·.isPrefixOf place) then
      known := place :: known
      let outer := (around place).filter fun outer => !entries.any (·.1 == outer)
      entries := entries ++ outer.map (·, .directory) ++ (← snapshot place)
  return (Files.mk entries here).put ["dev"] .directory |>.put ["dev", "null"] .sink

/-! ## Writing -/

/-- Makes a change on the machine. -/
def apply : Change → IO Unit
  | .removeFile place => IO.FS.removeFile (onDisk place).path
  | .removeDirectory place => IO.FS.removeDir (onDisk place).path
  | .makeDirectory place => IO.FS.createDir (onDisk place).path
  | .writeFile place content => IO.FS.writeBinFile (onDisk place).path ⟨content.toArray⟩

end CallSheet.Cli

open CallSheet in
/-- Runs the program on the files of the machine. -/
def main (arguments : List String) : IO UInt32 := do
  let environment ← Cli.currentVariables
  let here ← Cli.placeAt "/" (toString (← IO.currentDir))
  let files ← Cli.filesAt (← Cli.placesOf environment arguments here) here
  let (report, world) :=
    Cli.report environment Http.Transport.offline arguments (⟨files, ()⟩ : World Unit)
  (files.changes world.files).forM Cli.apply
  IO.print report.output
  IO.eprint report.errors
  return report.code.toUInt32
