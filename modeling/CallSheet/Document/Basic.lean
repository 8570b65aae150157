/-!
# Call sheets

A call sheet is a document that declares one call.  It has three lists of
components: the variables, the fields of the action, and the variables that
are computed after the action.  A component has a name, a kind that says how
its value comes about, the converters that the value goes through, and the
contents that were written down for it.
-/

namespace CallSheet

/-- How the value of a component comes about. -/
inductive ComponentKind where
  /-- The content itself. -/
  | text
  /-- One of several contents. -/
  | list
  /-- The output of a script. -/
  | script
  /-- A line of a file that is named relative to the document. -/
  | fileList
  /-- A line of a file. -/
  | absFileList
  deriving DecidableEq, Repr

namespace ComponentKind

/-- Every kind, in the order in which they are listed. -/
def all : List ComponentKind := [.text, .list, .script, .fileList, .absFileList]

/-- The name of a kind in a component header. -/
def name : ComponentKind → String
  | .text => "text"
  | .list => "list"
  | .script => "script"
  | .fileList => "file_list"
  | .absFileList => "abs_file_list"

/-- The kind of a name. -/
def ofName? (name : String) : Option ComponentKind := all.find? (·.name == name)

/-- What a kind is for. -/
def description : ComponentKind → String
  | .text => "simple text within a ``` fenced block"
  | .list => "one of the values in markdown list format (- value)"
  | .script =>
    "same as text, but the content is executed by the shell and its output is the value"
  | .fileList =>
    "path relative to the document's directory; one of the file's lines is the value"
  | .absFileList => "absolute path; one of the file's lines is the value"

/-- Whether the contents of a kind are still to be read from a file. -/
def isFileList : ComponentKind → Bool
  | .fileList | .absFileList => true
  | _ => false

theorem mem_all (kind : ComponentKind) : kind ∈ all := by
  cases kind <;> decide

/-- A kind is found under its own name. -/
theorem ofName?_name (kind : ComponentKind) : ofName? kind.name = some kind := by
  cases kind <;> decide

end ComponentKind

/-- A piece of content and the language it was marked with. -/
structure Value where
  content : String
  contentKind : String
  deriving DecidableEq, Repr

/-- The content kind of a content that is not marked. -/
def textContent : String := "text"

/-- A content that is not marked. -/
def Value.text (content : String) : Value := ⟨content, textContent⟩

/-- A named declaration. -/
structure Component where
  name : String
  kind : ComponentKind
  /-- The names of the converters, in the order in which they are applied. -/
  converters : List String
  values : List Value
  /-- The number of the header's line, from one. -/
  line : Nat
  deriving DecidableEq, Repr

/-- The first content, or nothing at all for a list without items. -/
def Component.firstContent (component : Component) : String :=
  match component.values with
  | [] => ""
  | value :: _ => value.content

/-- Whether a text is one of the contents. -/
def Component.permits (component : Component) (candidate : String) : Bool :=
  component.values.any (·.content == candidate)

/-- The call that a document declares: its kind and its fields. -/
structure Action where
  kind : String
  fields : List Component
  deriving DecidableEq, Repr

/-- A call sheet. -/
structure Document where
  vars : List Component := []
  after : List Component := []
  action : Option Action := none
  deriving DecidableEq, Repr

/-- The variable of a name. -/
def Document.find? (document : Document) (name : String) : Option Component :=
  document.vars.find? (·.name == name)

end CallSheet
