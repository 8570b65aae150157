import CallSheet.Files.Operations
import CallSheet.Http.Message
import CallSheet.Text.Blank
import CallSheet.Text.Lines

/-!
# The fields of a request

The small notations in which a document writes down headers and forms, one of
them a line.  Lines of blanks are passed over, and the first line that does not
follow the notation ends the reading.
-/

namespace CallSheet.Http

open Text

/-- Characters of a token. -/
def isTokenChar (c : Char) : Bool := c.isAlphanum || "!#$%&\x27*+-.^_\x60|~".toList.contains c

/-- Whether a text is a token, as methods and the names of headers are. -/
def isToken (text : List Char) : Bool := !text.isEmpty && text.all isTokenChar

/-- Whether a character can stand in a header's value. -/
def isValueChar (c : Char) : Bool := c == '\t' || (0x20 ≤ c.toNat && c.toNat != 0x7F)

/-- The lines that are not blank. -/
def contentLines (text : String) : List (List Char) :=
  (fieldLines text.toList).filter fun line => !allBlank line

/-! ## Headers -/

/-- The header of a line. -/
def headerOf? (line : List Char) : Option Header :=
  match splitOnce ':' line with
  | none => none
  | some (name, value) =>
    let name := trim name
    let value := trim value
    if isToken name && value.all isValueChar then
      some ⟨String.ofList (name.map Char.toLower), String.ofList value⟩
    else none

/-- The headers of lines, or the first line that is none. -/
def headersOf : List (List Char) → Except String (List Header)
  | [] => .ok []
  | line :: rest =>
    match headerOf? line with
    | some header => (headersOf rest).map (header :: ·)
    | none => .error (String.ofList line)

/-- The name of the header that a form sets itself. -/
def contentTypeName : String := "content-type"

/-- Headers without the ones that a form sets itself. -/
def withoutContentType (headers : List Header) : List Header :=
  headers.filter (·.name != contentTypeName)

/-! ## Forms -/

/-- Why a form could not be read. -/
inductive FormError where
  | line (line : String)
  | file (path : String) (fault : Fault)
  deriving DecidableEq, Repr

/-- Opens a file to send it; a directory can be opened, but has no content. -/
def openContent (files : Files) (path : String) : Except Fault Content :=
  match files.locate path with
  | .ok _ => .ok (files.read path)
  | .error fault => .error fault

/-- The value that a line stands for: a backslash lets it start with `@`. -/
def unescaped : List Char → List Char
  | '\\' :: '@' :: rest => '@' :: rest
  | value => value

/-- The part of a line. -/
def partOf (files : Files) (line : List Char) : Except FormError Part :=
  match splitOnce ':' line with
  | none => .error (.line (String.ofList line))
  | some (key, value) =>
    match trim key with
    | '@' :: path =>
      let path := String.ofList path
      match openContent files path with
      | .ok content => .ok (.file path content)
      | .error fault => .error (.file path fault)
    | key => .ok (.text (String.ofList key) (String.ofList (unescaped (trim value))))

/-- The parts of lines, or the first line that is none. -/
def partsOf (files : Files) : List (List Char) → Except FormError (List Part)
  | [] => .ok []
  | line :: rest =>
    match partOf files line with
    | .ok part => (partsOf files rest).map (part :: ·)
    | .error error => .error error

/-- The headers of a field. -/
def readHeaders (text : String) : Except String (List Header) := headersOf (contentLines text)

/-- The parts of a field. -/
def readForm (files : Files) (text : String) : Except FormError (List Part) :=
  partsOf files (contentLines text)

end CallSheet.Http
