import CallSheet.Http.Fields
import CallSheet.Proofs.Steps
import CallSheet.Proofs.Text

/-!
# Headers and parts, line by line

What the headers and the forms of a request are read as.  Both readers go through the
lines that are not blank, up to the first that they refuse.

There are four groups.

* Lines.  `HasLines` says which lines a text has (`hasLines_iff`).
* Tokens.  `IsToken` says which names and methods there can be (`isToken_iff`).
* Headers.  `Declares` says when a line declares a header.  `readHeaders_eq_ok_iff` and
  `readHeaders_eq_error_iff` are about all lines of a text.
* Forms.  `Refused` says when a line is no part of a form.  `readForm_eq_ok_iff` and
  `readForm_eq_error_iff` are about all lines of a text.
-/

namespace CallSheet.Http

open Text

/-! ## Lines -/

/-- The lines of a text that hold something.  A line feed ends a line, and so does a carriage
return with a line feed; what is behind the last one is a line as well, and a line of blanks
alone does not count. -/
def HasLines (text : String) (lines : List (List Char)) : Prop :=
  ∃ ended before last, text.toList = before ++ last ∧ Ended ended before ∧
    (∀ line ∈ ended, '\n' ∉ line) ∧ '\n' ∉ last ∧
    lines = (ended ++ [last]).filter (·.any fun c => !isBlank c)

/-- The lines of a text that hold something are those that are read. -/
theorem hasLines_iff {text : String} {lines : List (List Char)} :
    HasLines text lines ↔ lines = contentLines text := by
  have hkept : (fun line : List Char => !allBlank line) = (·.any fun c => !isBlank c) := by
    funext line
    rw [allBlank, List.all_eq_not_any_not, Bool.not_not]
  have hlines : ∀ {ended before last}, text.toList = before ++ last → Ended ended before →
      (∀ line ∈ ended, '\n' ∉ line) → '\n' ∉ last →
      contentLines text = (ended ++ [last]).filter (·.any fun c => !isBlank c) := by
    intro ended before last htext hended hfree hlast
    rw [contentLines, htext, fieldLines_of_ended hended hfree hlast, hkept, List.filter_append,
      List.filter_append]
    congr 1
    -- an empty last line does not count anyway
    by_cases hempty : last = []
    · rw [if_pos hempty, hempty]
      rfl
    · rw [if_neg hempty]
  constructor
  · rintro ⟨ended, before, last, htext, hended, hfree, hlast, rfl⟩
    exact (hlines htext hended hfree hlast).symm
  · rintro rfl
    obtain ⟨ended, before, last, htext, hended, hfree, hlast⟩ := exists_ended text.toList
    exact ⟨ended, before, last, htext, hended, hfree, hlast, hlines htext hended hfree hlast⟩

/-- The lines of a text of separated lines are those that hold something. -/
theorem contentLines_of_separated {separated : List (List Char)} {text : String}
    (h : Separated separated text.toList) (hfree : ∀ line ∈ separated, '\n' ∉ line)
    (hcr : ∀ line ∈ separated, line.getLast? ≠ some '\r') :
    contentLines text = separated.filter (!allBlank ·) :=
  fieldLines_of_separated h hfree hcr

/-! ## Tokens -/

/-- The marks between tokens. -/
def delimiters : List Char := "\"(),/:;<=>?@[\\]\x7b\x7d".toList

/-- Characters of a token are visible ASCII, and no delimiters. -/
def IsTokenChar (c : Char) : Prop := 0x20 < c.toNat ∧ c.toNat < 0x7F ∧ c ∉ delimiters

/-- A token is not empty. -/
def IsToken (text : List Char) : Prop := text ≠ [] ∧ ∀ c ∈ text, IsTokenChar c

/-- Characters of a token are ASCII. -/
theorem toNat_lt_of_isTokenChar {c : Char} (h : isTokenChar c = true) : c.toNat < 0x80 := by
  rw [isTokenChar, Bool.or_eq_true, List.contains_iff_mem] at h
  rcases h with h | h
  · delta Char.isAlphanum Char.isAlpha Char.isUpper Char.isLower Char.isDigit at h
    simp only [Bool.or_eq_true, Bool.and_eq_true, decide_eq_true_eq] at h
    rcases h with (h | h) | h
    · exact Nat.lt_of_le_of_lt (UInt32.le_iff_toNat_le.1 h.2) (by decide)
    · exact Nat.lt_of_le_of_lt (UInt32.le_iff_toNat_le.1 h.2) (by decide)
    · exact Nat.lt_of_le_of_lt (UInt32.le_iff_toNat_le.1 h.2) (by decide)
  · have hall : ("!#$%&\x27*+-.^_\x60|~".toList.all (·.toNat < 0x80)) = true := by decide
    exact of_decide_eq_true (List.all_eq_true.1 hall c h)

theorem isTokenChar_iff {c : Char} : isTokenChar c = true ↔ IsTokenChar c := by
  have hall : ∀ n < 0x80, (isTokenChar (Char.ofNat n) = true ↔ IsTokenChar (Char.ofNat n)) := by
    simp only [IsTokenChar]
    decide +kernel
  by_cases hc : c.toNat < 0x80
  · simpa using hall _ hc
  · refine iff_of_false (fun h => hc (toNat_lt_of_isTokenChar h)) fun h => hc ?_
    have hlt := h.2.1
    omega

theorem isToken_iff {text : List Char} : isToken text = true ↔ IsToken text := by
  simp only [isToken, IsToken, Bool.and_eq_true, Bool.not_eq_true', List.isEmpty_eq_false_iff,
    List.all_eq_true, isTokenChar_iff]

/-! ## Headers -/

variable {line : List Char} {text : String} {header : Header} {headers : List Header}

/-- Characters of a header's value: tabs, printable ASCII and everything beyond ASCII. -/
def IsVisible (c : Char) : Prop := c = '\t' ∨ 0x20 ≤ c.toNat ∧ c.toNat < 0x7F ∨ 0x80 ≤ c.toNat

theorem isValueChar_iff {c : Char} : isValueChar c = true ↔ IsVisible c := by
  simp only [isValueChar, IsVisible, Bool.or_eq_true, Bool.and_eq_true, beq_iff_eq, bne_iff_ne,
    decide_eq_true_eq]
  apply or_congr Iff.rfl
  omega

/-- A line declares a header. -/
structure Declares (line : List Char) (name value : String) : Prop where
  /-- The name is before the first colon and the value after it, without the blanks around them. -/
  cut : ∃ before after, line = before ++ ':' :: after ∧ ':' ∉ before ∧
    Trims before name.toList ∧ Trims after value.toList
  token : IsToken name.toList
  visible : ∀ c ∈ value.toList, IsVisible c

/-- A line declares some header. -/
def IsDeclaration (line : List Char) : Prop := ∃ name value, Declares line name value

theorem headerOf?_eq_some_iff :
    headerOf? line = some header ↔
      ∃ name value, Declares line name value ∧ header = ⟨lowerName name, value⟩ := by
  constructor
  · intro h
    rw [headerOf?] at h
    split at h
    · cases h
    · next before after hcut =>
      obtain ⟨hline, hfree⟩ := splitOnce_eq_some_iff.1 hcut
      simp only at h
      split at h
      · next hvalid =>
        rw [Bool.and_eq_true, List.all_eq_true] at hvalid
        refine ⟨String.ofList (trim before), String.ofList (trim after), ⟨?_, ?_, ?_⟩, ?_⟩
        · exact ⟨before, after, hline, hfree, trims_iff.2 String.toList_ofList,
            trims_iff.2 String.toList_ofList⟩
        · rw [String.toList_ofList]
          exact isToken_iff.1 hvalid.1
        · intro c hc
          rw [String.toList_ofList] at hc
          exact isValueChar_iff.1 (hvalid.2 c hc)
        · rw [lowerName, String.toList_ofList]
          exact (Option.some.inj h).symm
      · cases h
  · rintro ⟨name, value, ⟨⟨before, after, rfl, hfree, hname, hvalue⟩, htoken, hvisible⟩, rfl⟩
    rw [trims_iff] at hname hvalue
    have hvalid : (isToken (trim before) && (trim after).all isValueChar) = true := by
      rw [Bool.and_eq_true, List.all_eq_true, ← hname, ← hvalue]
      exact ⟨isToken_iff.2 htoken, fun c hc => isValueChar_iff.2 (hvisible c hc)⟩
    simp only [headerOf?, splitOnce_append_cons hfree, hvalid, if_true]
    rw [lowerName, hname, ← hvalue, String.ofList_toList]

theorem headerOf?_eq_none_iff : headerOf? line = none ↔ ¬ IsDeclaration line := by
  rw [← Option.not_isSome_iff_eq_none, Option.isSome_iff_exists, IsDeclaration]
  simp [headerOf?_eq_some_iff]

/-- The header of a line, or the line itself if it declares none. -/
def declared (line : List Char) : Except String Header :=
  match headerOf? line with
  | some header => .ok header
  | none => .error (String.ofList line)

theorem declared_eq_ok_iff : declared line = .ok header ↔ headerOf? line = some header := by
  rw [declared]
  cases headerOf? line <;> simp

theorem declared_eq_error_iff {found : String} :
    declared line = .error found ↔ ¬ IsDeclaration line ∧ found = String.ofList line := by
  rw [declared, ← headerOf?_eq_none_iff]
  cases headerOf? line <;> simp [eq_comm]

theorem exists_declared_iff : (∃ header, declared line = .ok header) ↔ IsDeclaration line := by
  simp only [declared_eq_ok_iff, headerOf?_eq_some_iff]
  constructor
  · rintro ⟨header, name, value, h, -⟩
    exact ⟨name, value, h⟩
  · rintro ⟨name, value, h⟩
    exact ⟨_, name, value, h, rfl⟩

theorem headersOf_eq_mapM (lines : List (List Char)) : headersOf lines = lines.mapM declared := by
  induction lines with
  | nil => rfl
  | cons line lines ih =>
    rw [headersOf]
    cases hline : headerOf? line with
    | some header => rw [mapM_cons_of_ok (declared_eq_ok_iff.2 hline), ih]
    | none =>
      have herror := declared_eq_error_iff.2 ⟨headerOf?_eq_none_iff.1 hline, rfl⟩
      rw [mapM_cons_of_error herror]

/-- A text is read as the headers that its lines declare, in the same order. -/
theorem readHeaders_eq_ok_iff :
    readHeaders text = .ok headers ↔
      ∃ fields : List (String × String),
        List.Forall₂ (fun line field => Declares line field.1 field.2) (contentLines text) fields ∧
        headers = fields.map fun field => ⟨lowerName field.1, field.2⟩ := by
  rw [readHeaders, headersOf_eq_mapM, mapM_eq_ok_iff]
  simp only [declared_eq_ok_iff, headerOf?_eq_some_iff]
  constructor
  · generalize contentLines text = lines
    intro h
    induction h with
    | nil => exact ⟨[], .nil, rfl⟩
    | cons hline _ ih =>
      obtain ⟨name, value, hdeclares, rfl⟩ := hline
      obtain ⟨fields, hfields, rfl⟩ := ih
      exact ⟨(name, value) :: fields, .cons hdeclares hfields, rfl⟩
  · rintro ⟨fields, hfields, rfl⟩
    rw [List.forall₂_map_right_iff]
    exact hfields.imp fun line field h => ⟨field.1, field.2, h, rfl⟩

/-- The first line that declares no header is found. -/
theorem readHeaders_eq_error_iff {found : String} :
    readHeaders text = .error found ↔
      FirstError IsDeclaration (fun line found => ¬ IsDeclaration line ∧ found = String.ofList line)
        (contentLines text) found := by
  rw [readHeaders, headersOf_eq_mapM, mapM_eq_error_iff]
  simp only [exists_declared_iff, declared_eq_error_iff]

theorem exists_readHeaders_iff :
    (∃ headers, readHeaders text = .ok headers) ↔
      ∀ line ∈ contentLines text, IsDeclaration line := by
  simp only [readHeaders, headersOf_eq_mapM, mapM_eq_ok_iff, ← exists_declared_iff]
  induction contentLines text with
  | nil => simp
  | cons line lines ih => simp [List.forall₂_cons_left_iff, ← ih]

/-! ## Forms -/

variable {files : Files} {part : Part} {parts : List Part} {error : FormError}

/-- A line is no part of a form. -/
inductive Refused (files : Files) (line : List Char) : FormError → Prop where
  /-- There is no colon in it. -/
  | line (h : ':' ∉ line) : Refused files line (.line (String.ofList line))
  /-- It names a file that cannot be opened. -/
  | file {before after path : List Char} {fault : Fault} (hline : line = before ++ ':' :: after)
      (hfree : ':' ∉ before) (hpath : Trims before ('@' :: path))
      (hfile : files.locate (String.ofList path) = .error fault) :
      Refused files line (.file (String.ofList path) fault)

theorem openContent_eq_error_iff {path : String} {fault : Fault} :
    openContent files path = .error fault ↔ files.locate path = .error fault := by
  rw [openContent]
  cases files.locate path <;> simp

theorem partOf_eq_error_iff : partOf files line = .error error ↔ Refused files line error := by
  constructor
  · intro h
    rw [partOf] at h
    split at h
    · next hcut =>
      cases h
      exact .line (splitOnce_eq_none_iff.1 hcut)
    · next before after hcut =>
      obtain ⟨hline, hfree⟩ := splitOnce_eq_some_iff.1 hcut
      split at h
      · next path hpath =>
        simp only at h
        split at h
        · cases h
        · next fault hopen =>
          cases h
          exact .file hline hfree (trims_iff.2 hpath.symm) (openContent_eq_error_iff.1 hopen)
      · cases h
  · rintro (hfree | ⟨rfl, hfree, hpath, hfile⟩)
    · simp only [partOf, splitOnce_eq_none_iff.2 hfree]
    · simp only [partOf, splitOnce_append_cons hfree, ← trims_iff.1 hpath,
        openContent_eq_error_iff.2 hfile]

/-- A line is a text under a key. -/
theorem partOf_eq_text_iff {key value : String} :
    partOf files line = .ok (.text key value) ↔
      ∃ before after, line = before ++ ':' :: after ∧ ':' ∉ before ∧
        (trim before).head? ≠ some '@' ∧ key = String.ofList (trim before) ∧
        value = String.ofList (unescaped (trim after)) := by
  constructor
  · intro h
    rw [partOf] at h
    split at h
    · cases h
    · next before after hcut =>
      obtain ⟨hline, hfree⟩ := splitOnce_eq_some_iff.1 hcut
      split at h
      · next path hpath =>
        simp only at h
        split at h <;> cases h
      · next hkey =>
        cases h
        refine ⟨before, after, hline, hfree, ?_, rfl, rfl⟩
        intro hhead
        obtain ⟨path, hpath⟩ := List.head?_eq_some_iff.1 hhead
        exact hkey path hpath
  · rintro ⟨before, after, rfl, hfree, hhead, rfl, rfl⟩
    simp only [partOf, splitOnce_append_cons hfree]
    split
    · next path hpath =>
      rw [hpath] at hhead
      exact absurd rfl hhead
    · rfl

theorem partsOf_eq_mapM (files : Files) (lines : List (List Char)) :
    partsOf files lines = lines.mapM (partOf files) := by
  induction lines with
  | nil => rfl
  | cons line lines ih =>
    rw [partsOf]
    cases hline : partOf files line with
    | ok part => rw [mapM_cons_of_ok hline, ih]
    | error error => rw [mapM_cons_of_error hline]

/-- A text is read as the parts of its lines, in the same order. -/
theorem readForm_eq_ok_iff :
    readForm files text = .ok parts ↔
      List.Forall₂ (fun line part => partOf files line = .ok part) (contentLines text) parts := by
  rw [readForm, partsOf_eq_mapM, mapM_eq_ok_iff]

theorem exists_partOf_iff :
    (∃ part, partOf files line = .ok part) ↔ ¬ ∃ error, Refused files line error := by
  simp only [← partOf_eq_error_iff]
  cases partOf files line <;> simp

/-- The first line that is no part is found. -/
theorem readForm_eq_error_iff :
    readForm files text = .error error ↔
      FirstError (fun line => ¬ ∃ error, Refused files line error) (Refused files)
        (contentLines text) error := by
  rw [readForm, partsOf_eq_mapM, mapM_eq_error_iff]
  simp only [exists_partOf_iff, partOf_eq_error_iff]

end CallSheet.Http
