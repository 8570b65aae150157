/-!
# Cutting a text at a separator

`splitOn` cuts at every occurrence of a character, `splitOnce` at the first
one, and `join` is the way back; `cutAt` cuts at the first occurrence of a
whole mark.  Main statements: joining the parts of a text gives the text again,
and the two sides of a cut and the mark between them are the text.
-/

namespace CallSheet.Text

/-- The parts of a text between the occurrences of a separator; there is
always at least one. -/
def splitOn (sep : Char) : List Char → List (List Char)
  | [] => [[]]
  | c :: rest =>
    if c = sep then [] :: splitOn sep rest
    else
      match splitOn sep rest with
      | [] => [[c]]
      | part :: parts => (c :: part) :: parts

/-- The text before the first separator and the text after it. -/
def splitOnce (sep : Char) : List Char → Option (List Char × List Char)
  | [] => none
  | c :: rest =>
    if c = sep then some ([], rest)
    else (splitOnce sep rest).map fun (before, after) => (c :: before, after)

/-- Puts a separator between every two parts. -/
def join (sep : Char) : List (List Char) → List Char
  | [] => []
  | [part] => part
  | part :: parts => part ++ sep :: join sep parts

/-- What is left of a text after a given start, if it starts like that. -/
def dropStart? : List Char → List Char → Option (List Char)
  | [], text => some text
  | _ :: _, [] => none
  | m :: mark, c :: text => if m = c then dropStart? mark text else none

/-- The text before the first occurrence of a mark and the text after it. -/
def cutAt (mark : List Char) : List Char → Option (List Char × List Char)
  | [] => if mark.isEmpty then some ([], []) else none
  | c :: rest =>
    match dropStart? mark (c :: rest) with
    | some after => some ([], after)
    | none => (cutAt mark rest).map fun (before, after) => (c :: before, after)

/-! ## Laws -/

theorem splitOn_ne_nil (sep : Char) (text : List Char) : splitOn sep text ≠ [] := by
  cases text with
  | nil => simp [splitOn]
  | cons c rest =>
    simp only [splitOn]
    split
    · simp
    · split <;> simp

theorem join_cons_cons (sep : Char) (part next : List Char) (parts : List (List Char)) :
    join sep (part :: next :: parts) = part ++ sep :: join sep (next :: parts) := rfl

theorem join_cons_char (sep c : Char) (part : List Char) (parts : List (List Char)) :
    join sep ((c :: part) :: parts) = c :: join sep (part :: parts) := by
  cases parts <;> rfl

/-- Joining the parts of a text gives the text again. -/
theorem join_splitOn (sep : Char) (text : List Char) : join sep (splitOn sep text) = text := by
  induction text with
  | nil => rfl
  | cons c rest ih =>
    cases hs : splitOn sep rest with
    | nil => exact absurd hs (splitOn_ne_nil sep rest)
    | cons part parts =>
      rw [hs] at ih
      by_cases h : c = sep
      · simp only [splitOn, h, ↓reduceIte, hs]
        rw [join_cons_cons, ih]
        rfl
      · simp only [splitOn, h, ↓reduceIte, hs]
        rw [join_cons_char, ih]

/-- A text starts with a mark exactly when it is the mark and then the rest. -/
theorem dropStart?_eq_some_iff {mark text rest : List Char} :
    dropStart? mark text = some rest ↔ text = mark ++ rest := by
  induction mark generalizing text with
  | nil => simp [dropStart?]
  | cons m mark ih =>
    cases text with
    | nil => simp [dropStart?]
    | cons c text =>
      by_cases h : m = c
      · simp [dropStart?, h, ih]
      · simp only [dropStart?, h, ↓reduceIte, List.cons_append, List.cons.injEq, reduceCtorEq,
          false_iff, not_and]
        exact fun hc => absurd hc.symm h

/-- The two sides of a cut and the mark between them are the text. -/
theorem eq_of_cutAt {mark text before after : List Char}
    (h : cutAt mark text = some (before, after)) : text = before ++ mark ++ after := by
  induction text generalizing before with
  | nil =>
    cases mark with
    | nil =>
      obtain ⟨rfl, rfl⟩ : [] = before ∧ [] = after := by simpa [cutAt] using h
      rfl
    | cons m mark => simp [cutAt] at h
  | cons c rest ih =>
    simp only [cutAt] at h
    split at h
    · next rest' hd =>
      obtain ⟨rfl, rfl⟩ : [] = before ∧ rest' = after := by simpa using h
      simpa using dropStart?_eq_some_iff.1 hd
    · obtain ⟨⟨before', after'⟩, hc, he⟩ := Option.map_eq_some_iff.1 h
      obtain ⟨rfl, rfl⟩ : c :: before' = before ∧ after' = after := by simpa using he
      rw [ih hc]
      simp

end CallSheet.Text
