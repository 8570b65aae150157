import CallSheet.Document.Header
import CallSheet.Text.Lines
import CallSheet.Text.Quoted

/-!
# Reading a document

A document is read line by line.  Between two lines the reader stands in a
`Position`: outside every section that means something, or inside one, and then
possibly in the body of a component.  Headers count everywhere but between two
fences.  The first line that cannot be read ends the reading with a
`ParseError`, which names that line.
-/

namespace CallSheet

open Text

/-! ## Errors -/

/-- Why a text is no call sheet.  Every error carries the number of its line. -/
inductive ParseError where
  /-- A line starts a component, but its header does not follow the grammar. -/
  | invalidComponentHeader (line : Nat) (header : String)
  /-- A component header names a kind that does not exist. -/
  | unknownComponentKind (line : Nat) (kind : String)
  /-- A line starts the action's section, but does not name a kind. -/
  | invalidActionHeader (line : Nat) (header : String)
  /-- A fence is opened on this line and never closed. -/
  | unterminatedFence (line : Nat)
  /-- The section has a component of this name already. -/
  | duplicateComponent (line : Nat) (name : String) (first : Nat)
  /-- The section was opened before. -/
  | duplicateSection (line : Nat) (name : SectionName) (first : Nat)
  deriving DecidableEq, Repr

/-- The line that an error is about. -/
def ParseError.line : ParseError → Nat
  | .invalidComponentHeader line _ => line
  | .unknownComponentKind line _ => line
  | .invalidActionHeader line _ => line
  | .unterminatedFence line => line
  | .duplicateComponent line _ _ => line
  | .duplicateSection line _ _ => line

/-- The sentence that tells of an error. -/
def ParseError.message (error : ParseError) : String :=
  "line " ++ toString error.line ++ ": " ++
    match error with
    | .invalidComponentHeader _ header =>
      "malformed component header " ++ quoted header ++ ", expected `### name[type]:converter`"
    | .unknownComponentKind _ kind => "unknown component type " ++ quoted kind
    | .invalidActionHeader _ header =>
      "malformed action header " ++ quoted header ++ ", expected `## type[<kind>]`"
    | .unterminatedFence _ => "fenced block is never closed"
    | .duplicateComponent _ name first =>
      "component " ++ quoted name ++ " was already declared on line " ++ toString first
    | .duplicateSection _ name first =>
      "section " ++ quoted name.word ++ " was already declared on line " ++ toString first

/-! ## Marks -/

/-- The start of a line that opens a section. -/
def sectionMark : List Char := ['#', '#', ' ']

/-- The start of a line that opens a component. -/
def componentMark : List Char := ['#', '#', '#', ' ']

/-- The start of a line that is an item of a list. -/
def itemMark : List Char := ['-', ' ']

/-- The start of a line that opens or closes a fenced content. -/
def fenceMark : List Char := ['\x60', '\x60', '\x60']

/-! ## The reader between two lines -/

/-- The body that the reader is in. -/
inductive Body where
  /-- After a section's header or after a whole component. -/
  | idle
  /-- In a list, with the items so far. -/
  | items (header : Header) (line : Nat) (values : List Value)
  /-- In a component whose content has not started. -/
  | unfenced (header : Header) (line : Nat)
  /-- Between the fences: the line of the first one, its label, and the
  lines so far. -/
  | fenced (header : Header) (line : Nat) (opened : Nat) (contentKind : String)
      (lines : List (List Char))
  deriving DecidableEq, Repr

/-- Where the reader stands. -/
inductive Position where
  /-- Outside every section that means something. -/
  | outside
  /-- Inside a section. -/
  | inside (name : SectionName) (body : Body)
  deriving DecidableEq, Repr

/-- The reader between two lines. -/
structure Reader where
  /-- The components that are complete. -/
  document : Document := {}
  /-- The sections opened so far, each with its line. -/
  opened : List (SectionName × Nat) := []
  place : Position := .outside
  deriving DecidableEq, Repr

/-- The components of a section. -/
def Document.components (document : Document) : SectionName → List Component
  | .vars => document.vars
  | .after => document.after
  | .type =>
    match document.action with
    | some action => action.fields
    | none => []

/-- Puts a component at the end of a section. -/
def Document.add (document : Document) (name : SectionName) (component : Component) : Document :=
  match name with
  | .vars => { document with vars := document.vars ++ [component] }
  | .after => { document with after := document.after ++ [component] }
  | .type =>
    { document with
      action := document.action.map fun action =>
        { action with fields := action.fields ++ [component] } }

/-- The component of a header, its line and its contents. -/
def Header.component (header : Header) (line : Nat) (values : List Value) : Component :=
  ⟨header.name, header.kind, header.converters, values, line⟩

namespace Reader

/-- Completes the component that a header of the next line ends. -/
def settle (reader : Reader) : Reader :=
  match reader.place with
  | .outside => reader
  | .inside name body =>
    let settled (component : Component) : Reader :=
      { reader with document := reader.document.add name component, place := .inside name .idle }
    match body with
    | .items header line values => settled (header.component line values)
    | .unfenced header line => settled (header.component line [Value.text ""])
    | .idle | .fenced .. => reader

/-- Goes on after a line that starts with the section mark. -/
def openSection (reader : Reader) (number : Nat) (title : List Char) : Except ParseError Reader :=
  match SectionName.ofTitle? title with
  | none => .ok { reader with place := .outside }
  | some name =>
    match reader.opened.lookup name with
    | some first => .error (.duplicateSection number name first)
    | none =>
      let reader :=
        { reader with opened := reader.opened ++ [(name, number)], place := .inside name .idle }
      if name = .type then
        match actionKind? title with
        | some kind =>
          .ok { reader with document := { reader.document with action := some ⟨kind, []⟩ } }
        | none =>
          .error (.invalidActionHeader number (String.ofList (sectionMark ++ title)))
      else .ok reader

/-- Goes on after a line that starts with the component mark. -/
def openComponent (reader : Reader) (name : SectionName) (number : Nat) (title : List Char) :
    Except ParseError Reader :=
  match Header.read title with
  | .error .malformed =>
    .error (.invalidComponentHeader number (String.ofList (componentMark ++ title)))
  | .error (.unknownKind kind) => .error (.unknownComponentKind number kind)
  | .ok header =>
    match (reader.document.components name).find? (·.name == header.name) with
    | some existing => .error (.duplicateComponent number header.name existing.line)
    | none =>
      let body : Body :=
        if header.kind = .list then .items header number [] else .unfenced header number
      .ok { reader with place := .inside name body }

/-- The content kind that the label of a fence stands for. -/
def contentKind (label : List Char) : String :=
  let label := trim label
  if label.isEmpty then textContent else String.ofList label

/-- Goes on after a line that is no header. -/
def readBody (number : Nat) (line : List Char) : Body → Body
  | .items header at' values =>
    match dropStart? itemMark line with
    | some item => .items header at' (values ++ [Value.text (String.ofList item)])
    | none => .items header at' values
  | .unfenced header at' =>
    match dropStart? fenceMark line with
    | some label => .fenced header at' number (contentKind label) []
    | none => .unfenced header at'
  | body => body

/-- Reads one line. -/
def step (reader : Reader) (number : Nat) (line : List Char) : Except ParseError Reader :=
  match reader.place with
  | .inside name (.fenced header at' opened kind lines) =>
    match dropStart? fenceMark line with
    | some _ =>
      let content := String.ofList (trim (join '\n' lines))
      .ok { reader with
        document := reader.document.add name (header.component at' [⟨content, kind⟩])
        place := .inside name .idle }
    | none =>
      .ok { reader with place := .inside name (.fenced header at' opened kind (lines ++ [line])) }
  | .outside =>
    match dropStart? sectionMark line with
    | some title => reader.openSection number title
    | none => .ok reader
  | .inside name body =>
    match dropStart? sectionMark line with
    | some title => reader.settle.openSection number title
    | none =>
      match dropStart? componentMark line with
      | some title => reader.settle.openComponent name number title
      | none => .ok { reader with place := .inside name (readBody number line body) }

/-- Reads lines, the first of which has the given number. -/
def readLines (reader : Reader) (number : Nat) : List (List Char) → Except ParseError Reader
  | [] => .ok reader
  | line :: rest =>
    match reader.step number line with
    | .ok reader => reader.readLines (number + 1) rest
    | .error error => .error error

/-- The document, after the last line. -/
def finish (reader : Reader) : Except ParseError Document :=
  match reader.place with
  | .inside _ (.fenced _ _ opened _ _) => .error (.unterminatedFence opened)
  | _ => .ok reader.settle.document

end Reader

/-- The document of a list of lines. -/
def Document.ofLines (lines : List (List Char)) : Except ParseError Document :=
  match Reader.readLines {} 1 lines with
  | .ok reader => reader.finish
  | .error error => .error error

/-- The document of a text. -/
def Document.parse (text : String) : Except ParseError Document :=
  Document.ofLines (Text.lines text.toList)

end CallSheet
