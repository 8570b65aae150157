import CallSheet.Proofs.Http.Fields

/-!
# Writing forms

Which texts a form can carry.

There are three groups.

* Fields.  `IsField` are the keys and values that fit on a line of a form, and
  `unescaped` leaves all values alone but those that start with the escape.
* Writing.  `formOf` writes fields, one to a line.
* The whole.  `exists_form_iff`: a form can carry fields exactly if no value starts
  with the escape.  There is no way to write such a value (`not_exists_form_escaped`).
-/

namespace CallSheet.Http

open Text

/-! ## Fields -/

/-- The escape, which stands for the `@` in it. -/
def escapedAt : List Char := ['\\', '@']

/-- A key and a value that fit on a line. -/
structure IsField (key value : String) : Prop where
  key_ne : key.toList ≠ []
  key_trim : trim key.toList = key.toList
  /-- The first colon is the one after the key. -/
  key_colon : ':' ∉ key.toList
  key_line : '\n' ∉ key.toList
  /-- The key is not the path of a file. -/
  key_at : key.toList.head? ≠ some '@'
  value_trim : trim value.toList = value.toList
  value_line : '\n' ∉ value.toList

theorem unescaped_eq_self {value : List Char} (h : ¬ escapedAt <+: value) :
    unescaped value = value := by
  unfold unescaped
  split
  · next rest => exact absurd ⟨rest, rfl⟩ h
  · rfl

/-- No value that is read starts with the escape. -/
theorem not_escapedAt_prefix_unescaped (value : List Char) : ¬ escapedAt <+: unescaped value := by
  unfold unescaped
  split
  · next rest =>
    rintro ⟨after, h⟩
    cases h
  · next hother =>
    rintro ⟨after, rfl⟩
    exact hother after rfl

variable {files : Files} {key value : String} {fields : List (String × String)} {form : String}

/-- The parts of a form that carries texts under keys. -/
def textParts (fields : List (String × String)) : List Part :=
  fields.map fun field => .text field.1 field.2

/-! ## Writing -/

/-- A key and a value on a line. -/
def fieldLine (field : String × String) : List Char := field.1.toList ++ ':' :: field.2.toList

/-- Some fields as a form, one to a line. -/
def formOf (fields : List (String × String)) : String :=
  String.ofList (join '\n' (fields.map fieldLine))

theorem lineFeed_not_mem_fieldLine (h : IsField key value) : '\n' ∉ fieldLine (key, value) := by
  have hkey := h.key_line
  have hvalue := h.value_line
  simp [fieldLine, hkey, hvalue]

theorem getLast?_fieldLine (h : IsField key value) :
    (fieldLine (key, value)).getLast? ≠ some '\r' := by
  intro hlast
  rw [fieldLine, List.getLast?_append_cons] at hlast
  cases hvalue : value.toList with
  | nil =>
    rw [hvalue] at hlast
    cases hlast
  | cons c rest =>
    rw [hvalue, List.getLast?_cons_cons, ← hvalue, ← h.value_trim] at hlast
    have hblank := isBlank_of_mem_getLast?_trim value.toList (Option.mem_def.2 hlast)
    exact absurd hblank (by decide)

theorem allBlank_fieldLine (field : String × String) : allBlank (fieldLine field) = false := by
  have hcolon : isBlank ':' = false := by decide
  simp [allBlank, fieldLine, hcolon]

/-- A line is read as the key and the value that were written on it. -/
theorem partOf_fieldLine (h : IsField key value) (hvalue : ¬ escapedAt <+: value.toList)
    (files : Files) : partOf files (fieldLine (key, value)) = .ok (.text key value) := by
  refine partOf_eq_text_iff.2 ⟨key.toList, value.toList, rfl, h.key_colon, ?_, ?_, ?_⟩
  · rw [h.key_trim]
    exact h.key_at
  · rw [h.key_trim, String.ofList_toList]
  · rw [h.value_trim, unescaped_eq_self hvalue, String.ofList_toList]

/-- The lines of a form are those that were written. -/
theorem contentLines_formOf (h : ∀ field ∈ fields, IsField field.1 field.2) :
    contentLines (formOf fields) = fields.map fieldLine := by
  have hkept : (fields.map fieldLine).filter (!allBlank ·) = fields.map fieldLine := by
    rw [List.filter_eq_self]
    intro line hline
    obtain ⟨field, -, rfl⟩ := List.mem_map.1 hline
    rw [allBlank_fieldLine]
    rfl
  cases hfields : fields.map fieldLine with
  | nil =>
    rw [formOf, hfields]
    rfl
  | cons line lines =>
    have hseparated : Separated (fields.map fieldLine) (formOf fields).toList := by
      rw [formOf, String.toList_ofList]
      apply separated_join
      rw [hfields]
      exact List.cons_ne_nil line lines
    rw [contentLines_of_separated hseparated, hkept, hfields]
    · intro line hline
      obtain ⟨field, hfield, rfl⟩ := List.mem_map.1 hline
      exact lineFeed_not_mem_fieldLine (h field hfield)
    · intro line hline
      obtain ⟨field, hfield, rfl⟩ := List.mem_map.1 hline
      exact getLast?_fieldLine (h field hfield)

/-- The fields that were written are read back. -/
theorem readForm_formOf (h : ∀ field ∈ fields, IsField field.1 field.2)
    (hvalues : ∀ field ∈ fields, ¬ escapedAt <+: field.2.toList) (files : Files) :
    readForm files (formOf fields) = .ok (textParts fields) := by
  rw [readForm_eq_ok_iff, contentLines_formOf h, textParts, List.forall₂_map_left_iff,
    List.forall₂_map_right_iff, List.forall₂_same]
  intro field hfield
  exact partOf_fieldLine (h field hfield) (hvalues field hfield) files

/-- Whatever a form is, no value in it starts with the escape. -/
theorem not_escapedAt_prefix_of_readForm (h : readForm files form = .ok (textParts fields))
    {field : String × String} (hfield : field ∈ fields) : ¬ escapedAt <+: field.2.toList := by
  rw [readForm_eq_ok_iff, textParts, List.forall₂_map_right_iff] at h
  obtain ⟨line, -, hline⟩ := exists_mem_of_forall₂ h hfield
  obtain ⟨before, after, -, -, -, -, hvalue⟩ := partOf_eq_text_iff.1 hline
  rw [hvalue, String.toList_ofList]
  exact not_escapedAt_prefix_unescaped (trim after)

/-! ## The whole -/

/-- **What a form can carry.**  For fields that fit on lines there is a form that is read as
them, in this order and with nothing else, exactly if no value starts with the escape. -/
theorem exists_form_iff (h : ∀ field ∈ fields, IsField field.1 field.2) :
    (∃ form, ∀ files, readForm files form = .ok (textParts fields)) ↔
      ∀ field ∈ fields, ¬ escapedAt <+: field.2.toList := by
  constructor
  · rintro ⟨form, hform⟩ field hfield
    exact not_escapedAt_prefix_of_readForm (hform ⟨[], []⟩) hfield
  · intro hvalues
    exact ⟨formOf fields, readForm_formOf h hvalues⟩

/-- Fields with an empty value, an `@` and backslashes. -/
def oddFields : List (String × String) :=
  [("name", ""), ("handle", "@alice"), ("path", "\\a:b"), ("name", "\\\\@x")]

theorem isField_oddFields : ∀ field ∈ oddFields, IsField field.1 field.2 := by
  intro field hfield
  simp only [oddFields, List.mem_cons, List.not_mem_nil, or_false] at hfield
  rcases hfield with rfl | rfl | rfl | rfl <;> constructor <;> decide

/-- There is a form for them. -/
theorem exists_form_oddFields :
    (∀ field ∈ oddFields, IsField field.1 field.2) ∧
      ∃ form, ∀ files, readForm files form = .ok (textParts oddFields) := by
  refine ⟨isField_oddFields, (exists_form_iff isField_oddFields).2 ?_⟩
  decide

/-- A field with the escape as its value fits on a line, but no form carries it. -/
theorem not_exists_form_escaped :
    IsField "handle" "\\@" ∧ ¬ ∃ files form, readForm files form = .ok [.text "handle" "\\@"] := by
  refine ⟨by constructor <;> decide, ?_⟩
  rintro ⟨files, form, hform⟩
  have hread : readForm files form = .ok (textParts [("handle", "\\@")]) := hform
  exact not_escapedAt_prefix_of_readForm hread List.mem_cons_self (by decide)

end CallSheet.Http
