import CallSheet.Text.Split

/-!
# Paths

A path is a head and segments.  The head is the root, the current directory
written as a leading point, or nothing; the segments are what stands between
the slashes after it.  Empty segments and points are kept as they are written,
but they name nothing: they count neither as the last part of a path nor
between a path and its parent.

Main statement: a path is spelled by its parts again (`text_ofText`).
-/

namespace CallSheet

open Text

/-- Where a path starts. -/
inductive Path.Head where
  /-- Where it is used. -/
  | none
  /-- The current directory, written out. -/
  | point
  /-- The root. -/
  | root
  deriving DecidableEq, Repr

/-- A path in its parts. -/
structure Path where
  head : Path.Head
  segments : List (List Char)
  deriving DecidableEq, Repr

namespace Path

/-- The parts of a path. -/
def ofText : List Char → Path
  | '/' :: rest => ⟨.root, splitOn '/' rest⟩
  | ['.'] => ⟨.point, []⟩
  | '.' :: '/' :: rest => ⟨.point, splitOn '/' rest⟩
  | text => ⟨.none, splitOn '/' text⟩

/-- The path of a text. -/
def ofString (text : String) : Path := ofText text.toList

/-- A path as it is written. -/
def text (path : Path) : List Char :=
  match path.head with
  | .none => join '/' path.segments
  | .root => '/' :: join '/' path.segments
  | .point =>
    match path.segments with
    | [] => ['.']
    | segments => '.' :: '/' :: join '/' segments

/-- A path as a string. -/
def toString (path : Path) : String := String.ofList path.text

/-- A path is spelled by its parts again. -/
theorem text_ofText (text : List Char) : (ofText text).text = text := by
  unfold ofText
  split
  · simp [Path.text, join_splitOn]
  · rfl
  · next rest =>
    simp only [Path.text]
    cases h : splitOn '/' rest with
    | nil => exact absurd h (splitOn_ne_nil '/' rest)
    | cons part parts => simp [← h, join_splitOn]
  · simp [Path.text, join_splitOn]

/-! ## The last part -/

/-- Whether a segment names something. -/
def isReal (segment : List Char) : Bool := !segment.isEmpty && segment != ['.']

/-- Segments without those at the end that name nothing. -/
def dropHollow (segments : List (List Char)) : List (List Char) :=
  (segments.reverse.dropWhile fun segment => !isReal segment).reverse

/-- The path without its last part. -/
def parent? (path : Path) : Option Path :=
  match dropHollow path.segments with
  | [] => if path.head = .point then some ⟨.none, []⟩ else none
  | segments => some ⟨path.head, dropHollow segments.dropLast⟩

/-- The last part of a path, unless the path ends in going up. -/
def name? (path : Path) : Option (List Char) :=
  match (dropHollow path.segments).getLast? with
  | some name => if name = ['.', '.'] then none else some name
  | none => none

/-- A name without its extension: without the last point and what follows it,
unless nothing stands before that point. -/
def stemOf (name : List Char) : List Char :=
  match (name.reverse.dropWhile (· != '.')).reverse.dropLast with
  | [] => name
  | stem => stem

/-- The last part of a path without its extension. -/
def stem? (path : Path) : Option (List Char) := path.name?.map stemOf

/-! ## Paths in paths -/

/-- Whether a text is a path from the root. -/
def isAbsolute (text : List Char) : Bool := text.head? == some '/'

/-- A path taken from the place of another one. -/
def joinText (base path : List Char) : List Char :=
  if isAbsolute path then path
  else if base.isEmpty || base.getLast? == some '/' then base ++ path
  else base ++ '/' :: path

/-- A path taken from the place of another one. -/
def joined (base path : String) : String := String.ofList (joinText base.toList path.toList)

/-- The directory of the file at a path. -/
def directoryOf (path : String) : String :=
  match (ofString path).parent? with
  | some parent => if parent.text.isEmpty then "." else parent.toString
  | none => "."

end Path

end CallSheet
