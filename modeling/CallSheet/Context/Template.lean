import CallSheet.Context.Basic
import CallSheet.Text.Split

/-!
# Templates

A template is a text with slots `{{name}}`.  Filling replaces every slot whose
name has a value and leaves the others as they are.  It reads the template once
from left to right: the name of a slot ends at the next closing mark, and a
value that is put in is not read again.

A template falls into `Piece`s, which are single characters and known slots.
The pieces of a template spell it (`source_pieces`), and filling takes each
piece's value instead.
-/

namespace CallSheet.Template

open Text

/-- The start of a slot. -/
def openMark : List Char := ['{', '{']

/-- The end of a slot. -/
def closeMark : List Char := ['}', '}']

/-- The name in the slot that a text starts with, and the text after the slot. -/
def slot? (text : List Char) : Option (List Char × List Char) :=
  (dropStart? openMark text).bind (cutAt closeMark)

/-- A slot as it is written. -/
def written (name : List Char) : List Char := openMark ++ name ++ closeMark

theorem eq_of_slot? {text name after : List Char} (h : slot? text = some (name, after)) :
    text = written name ++ after := by
  obtain ⟨inner, hd, hc⟩ := Option.bind_eq_some_iff.1 h
  rw [dropStart?_eq_some_iff.1 hd, eq_of_cutAt hc]
  simp [written]

theorem length_lt_of_slot? {c : Char} {rest name after : List Char}
    (h : slot? (c :: rest) = some (name, after)) : after.length < (c :: rest).length := by
  rw [eq_of_slot? h]
  simp only [written, openMark, closeMark, List.length_append, List.length_cons, List.length_nil]
  omega

/-! ## Pieces -/

/-- A piece of a template. -/
inductive Piece where
  /-- A character that stands for itself. -/
  | char (c : Char)
  /-- A slot whose name has a value. -/
  | slot (name : List Char)
  deriving DecidableEq, Repr

/-- The pieces of a template, given which names have a value. -/
def pieces (known : List Char → Bool) : List Char → List Piece
  | [] => []
  | c :: rest =>
    match h : slot? (c :: rest) with
    | some (name, after) =>
      if known name then
        have := length_lt_of_slot? h
        .slot name :: pieces known after
      else .char c :: pieces known rest
    | none => .char c :: pieces known rest
termination_by text => text.length
decreasing_by all_goals simp only [List.length_cons] at *; omega

/-- The text that a piece is written as. -/
def Piece.source : Piece → List Char
  | .char c => [c]
  | .slot name => written name

/-- The text that takes the place of a piece. -/
def Piece.value (look : List Char → Option (List Char)) : Piece → List Char
  | .char c => [c]
  | .slot name => (look name).getD (written name)

/-- The pieces of a template spell it. -/
theorem source_pieces (known : List Char → Bool) (text : List Char) :
    (pieces known text).flatMap Piece.source = text := by
  fun_induction pieces known text with
  | case1 => rfl
  | case2 c rest name after h hk _ ih =>
    rw [List.flatMap_cons, ih]
    exact (eq_of_slot? h).symm
  | case3 c rest name after h hk ih => rw [List.flatMap_cons, ih]; rfl
  | case4 c rest h ih => rw [List.flatMap_cons, ih]; rfl

/-! ## Filling -/

/-- Fills a template with the values of a look-up. -/
def fillWith (look : List Char → Option (List Char)) (text : List Char) : List Char :=
  (pieces (fun name => (look name).isSome) text).flatMap (Piece.value look)

/-- The value of a name that is spelled as characters. -/
def look (context : Context) (name : List Char) : Option (List Char) :=
  (context.get? (String.ofList name)).map String.toList

/-- Fills a template with the values of a context. -/
def fill (context : Context) (template : String) : String :=
  String.ofList (fillWith (look context) template.toList)

/-! ## Open slots -/

/-- Whether a name in a template is reported when it has no value: it is not
empty and no slot starts inside it. -/
def isReportable (name : List Char) : Bool := !name.isEmpty && (cutAt openMark name).isNone

/-- The names of the slots that have no value.  A slot is looked for at every
opening mark that stands after the one before. -/
def openNamesWith (known : List Char → Bool) : List Char → List (List Char)
  | [] => []
  | c :: rest =>
    match h : dropStart? openMark (c :: rest) with
    | none => openNamesWith known rest
    | some inner =>
      have : inner.length < (c :: rest).length := by
        rw [dropStart?_eq_some_iff.1 h]
        simp only [openMark, List.cons_append, List.nil_append, List.length_cons]
        omega
      match cutAt closeMark inner with
      | none => []
      | some (name, _) =>
        if isReportable name && !known name then name :: openNamesWith known inner
        else openNamesWith known inner
termination_by text => text.length
decreasing_by all_goals simp only [List.length_cons] at *; omega

/-- The names in a template that a context has no value for. -/
def openNames (context : Context) (template : String) : List String :=
  (openNamesWith (fun name => (look context name).isSome) template.toList).map String.ofList

end CallSheet.Template
