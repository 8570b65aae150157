import CallSheet.Files.Operations
import CallSheet.Shell.Pattern

/-!
# Names of files

A word that is a pattern stands for the paths of the files that fit it, in
order.  Every name on the way is matched on its own, and names that start with a
point only fit a pattern that does.
-/

namespace CallSheet.Shell.Glob

/-- The parts of a word between slashes. -/
def segments : List Glyph → List (List Glyph)
  | [] => [[]]
  | glyph :: rest =>
    match segments rest with
    | [] => [[glyph]]
    | first :: others =>
      if glyph.byte = 47 then [] :: first :: others else (glyph :: first) :: others

/-- Whether a name fits a pattern. -/
def fits (segment : List Glyph) (name : String) : Bool :=
  let bytes := bytesOf name
  Pattern.accepts (Pattern.ofGlyphs segment) bytes &&
    (bytes.head? != some 46 || segment.head?.any (·.byte == 46))

/-- The names in the directory at a path that fit a pattern, in order. -/
def names (files : Files) (path : String) (segment : List Glyph) : List String :=
  match files.list (if path.isEmpty then "." else path) with
  | .ok found => ((found.map (·.1)).filter (fits segment)).mergeSort fun a b => a ≤ b
  | .error _ => []

/-- The paths that start with a path and go on with parts of a word. -/
def paths (files : Files) (path : String) : List (List Glyph) → List String
  | [] => [path]
  | [segment] =>
    if Pattern.isOpen segment then (names files path segment).map (path ++ ·)
    else
      let whole := path ++ stringOf (Glyph.bytes segment)
      if files.has whole then [whole] else []
  | segment :: rest =>
    if Pattern.isOpen segment then
      (names files path segment).flatMap fun name => paths files (path ++ name ++ "/") rest
    else paths files (path ++ stringOf (Glyph.bytes segment) ++ "/") rest

/-- What a word stands for: the paths that fit it, or its bytes if none does. -/
def expand (files : Files) (word : List Glyph) : List Bytes :=
  if Pattern.isOpen word then
    match paths files "" (segments word) with
    | [] => [Glyph.bytes word]
    | found => found.map bytesOf
  else [Glyph.bytes word]

end CallSheet.Shell.Glob
