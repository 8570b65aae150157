import CallSheet.Document.Basic
import CallSheet.Text.Blank
import CallSheet.Text.Split

/-!
# Headers

The one-line grammars of a document: the component header
`name[kind]:converter:…` and the action header `type[kind]`.
-/

namespace CallSheet

open Text

/-- Characters of a name: ASCII letters, digits and the underscore. -/
def isNameChar (c : Char) : Bool := c.isAlphanum || c == '_'

/-- Whether a text is a name. -/
def isName (text : List Char) : Bool := !text.isEmpty && text.all isNameChar

/-- Whether a text can name a converter in a header. -/
def isConverterName (text : List Char) : Bool :=
  !text.isEmpty && !text.any fun c => isBlank c || c == ':'

/-- What a component header says. -/
structure Header where
  name : String
  kind : ComponentKind
  converters : List String
  deriving DecidableEq, Repr

namespace Header

/-- Why a text is no component header. -/
inductive Fault where
  /-- It does not follow the grammar. -/
  | malformed
  /-- The grammar is followed as far as the kind, but there is no such kind. -/
  | unknownKind (kind : String)
  deriving DecidableEq, Repr

/-- The converters at the end of a header, each after a colon. -/
def readChain : List Char → Option (List String)
  | [] => some []
  | ':' :: chain =>
    let names := splitOn ':' chain
    if names.all isConverterName then some (names.map String.ofList) else none
  | _ => none

/-- The header with the given name and kind and the rest of its line. -/
def finish (name : List Char) (kind : ComponentKind) (rest : List Char) : Except Fault Header :=
  match readChain rest with
  | some converters => .ok ⟨String.ofList name, kind, converters⟩
  | none => .error .malformed

/-- Reads a component header; blanks at its end do not count. -/
def read (text : List Char) : Except Fault Header :=
  let text := trimEnd text
  let name := text.takeWhile isNameChar
  let rest := text.dropWhile isNameChar
  if name.isEmpty then .error .malformed
  else
    match rest with
    | '[' :: bracketed =>
      match splitOnce ']' bracketed with
      | none => .error .malformed
      | some (kind, rest) =>
        if isName kind then
          match ComponentKind.ofName? (String.ofList kind) with
          | some kind => finish name kind rest
          | none => .error (.unknownKind (String.ofList kind))
        else .error .malformed
    | _ => finish name .text rest

end Header

/-- The sections that mean something. -/
inductive SectionName where
  | vars
  | after
  | type
  deriving DecidableEq, Repr

/-- The word that opens a section. -/
def SectionName.word : SectionName → String
  | .vars => "vars"
  | .after => "after"
  | .type => "type"

/-- The section that a title opens.  `vars` and `after` are whole titles, and
`type` is the first word of one, so that a malformed action header is seen. -/
def SectionName.ofTitle? (title : List Char) : Option SectionName :=
  if title = ['v', 'a', 'r', 's'] then some .vars
  else if title = ['a', 'f', 't', 'e', 'r'] then some .after
  else if title.takeWhile (fun c => c != '[' && !isBlank c) = ['t', 'y', 'p', 'e'] then some .type
  else none

/-- The kind in the title `type[kind]`; blanks after it do not count. -/
def actionKind? (title : List Char) : Option String :=
  match dropStart? ['t', 'y', 'p', 'e', '['] title with
  | none => none
  | some bracketed =>
    match splitOnce ']' bracketed with
    | none => none
    | some (kind, rest) => if isName kind && allBlank rest then some (String.ofList kind) else none

end CallSheet
