import CallSheet.Document.Header
import CallSheet.Proofs.Text

/-!
# Written headers

`Header.written` writes a component header with its kind in brackets, and `actionTitle`
does the same for the title of the action's section.  The chain of converters and the
title of the action are read back (`Header.readChain_chain`, `actionKind?_actionTitle`);
in the other direction, `Header.converters_of_readChain` and `isName_of_actionKind?` say
what is known of them when they were read.

No character of a written header is a blank, so nothing of it is lost when the
blanks at the end of a line are cut off.
-/

namespace CallSheet

open Text

/-! ## Characters -/

/-- A character of a name is no blank. -/
theorem isBlank_eq_false_of_isNameChar {c : Char} (h : isNameChar c = true) :
    isBlank c = false := by
  change (((decide (65 ≤ c.val ∧ c.val ≤ 90) ||
    decide (97 ≤ c.val) && decide (c.val ≤ 122)) ||
    decide (48 ≤ c.val) && decide (c.val ≤ 57)) || c == '_') = true at h
  simp only [Bool.or_eq_true, Bool.and_eq_true, decide_eq_true_eq, beq_iff_eq,
    UInt32.le_iff_toNat_le] at h
  change (((65 ≤ c.toNat ∧ c.toNat ≤ 90) ∨ (97 ≤ c.toNat ∧ c.toNat ≤ 122)) ∨
    (48 ≤ c.toNat ∧ c.toNat ≤ 57)) ∨ c = '_' at h
  rcases h with h | rfl
  · simp only [isBlank, Bool.or_eq_false_iff, Bool.and_eq_false_iff, decide_eq_false_iff_not,
      beq_eq_false_iff_ne, ne_eq]
    omega
  · rfl

theorem isNameChar_of_isName {text : List Char} (h : isName text = true) {c : Char}
    (hc : c ∈ text) : isNameChar c = true := by
  simp only [isName, Bool.and_eq_true, List.all_eq_true] at h
  exact h.2 c hc

theorem ne_nil_of_isName {text : List Char} (h : isName text = true) : text ≠ [] := by
  rintro rfl
  exact absurd h (by decide)

/-- A converter's name holds no blank and no colon. -/
theorem not_blank_of_isConverterName {text : List Char} (h : isConverterName text = true)
    {c : Char} (hc : c ∈ text) : isBlank c = false ∧ c ≠ ':' := by
  simp only [isConverterName, Bool.and_eq_true, Bool.not_eq_true', List.any_eq_false,
    Bool.or_eq_true, not_or, beq_iff_eq, Bool.not_eq_true] at h
  exact h.2 c hc

/-- The name of a kind is a name. -/
theorem isName_kindName (kind : ComponentKind) : isName kind.name.toList = true := by
  cases kind <;> decide

/-! ## Component headers -/

namespace Header

/-- Converters as they are written in a header, each after a colon. -/
def chain (converters : List String) : List Char :=
  converters.flatMap fun converter => ':' :: converter.toList

/-- A component header as it is written, with its kind in brackets. -/
def written (header : Header) : List Char :=
  header.name.toList ++ '[' :: (header.kind.name.toList ++ ']' :: chain header.converters)

/-- A header that the grammar of headers has room for. -/
structure WellFormed (header : Header) : Prop where
  name : isName header.name.toList = true
  converters : ∀ converter ∈ header.converters, isConverterName converter.toList = true

/-- A chain that is not empty is a colon and the converters joined by colons. -/
theorem chain_cons (converter : String) (converters : List String) :
    chain (converter :: converters) =
      ':' :: join ':' ((converter :: converters).map String.toList) := by
  induction converters generalizing converter with
  | nil => simp [chain, join]
  | cons next converters ih =>
    have hstep : chain (converter :: next :: converters) =
        ':' :: converter.toList ++ chain (next :: converters) := rfl
    rw [hstep, ih]
    rfl

/-- The converters of a chain are read back from it. -/
theorem readChain_chain {converters : List String}
    (h : ∀ converter ∈ converters, isConverterName converter.toList = true) :
    readChain (chain converters) = some converters := by
  cases converters with
  | nil => rfl
  | cons converter converters =>
    have hfree : ∀ part ∈ (converter :: converters).map String.toList, ':' ∉ part := by
      intro part hpart hc
      obtain ⟨name, hname, rfl⟩ := List.mem_map.1 hpart
      exact (not_blank_of_isConverterName (h name hname) hc).2 rfl
    have hall : ((converter :: converters).map String.toList).all isConverterName = true := by
      rw [List.all_eq_true]
      intro part hpart
      obtain ⟨name, hname, rfl⟩ := List.mem_map.1 hpart
      exact h name hname
    rw [chain_cons, readChain, splitOn_join (by simp) hfree, if_pos hall, List.map_map]
    simp [Function.comp_def]

/-- No character of a chain is a blank. -/
theorem not_blank_of_mem_chain {converters : List String}
    (h : ∀ converter ∈ converters, isConverterName converter.toList = true) {c : Char}
    (hc : c ∈ chain converters) : isBlank c = false := by
  obtain ⟨converter, hmem, hc⟩ := List.mem_flatMap.1 hc
  rcases List.mem_cons.1 hc with rfl | hc
  · rfl
  · exact (not_blank_of_isConverterName (h converter hmem) hc).1

/-- No character of a written header is a blank. -/
theorem not_blank_of_mem_written {header : Header} (h : header.WellFormed) {c : Char}
    (hc : c ∈ header.written) : isBlank c = false := by
  rw [written] at hc
  rcases List.mem_append.1 hc with hc | hc
  · exact isBlank_eq_false_of_isNameChar (isNameChar_of_isName h.name hc)
  rcases List.mem_cons.1 hc with rfl | hc
  · rfl
  rcases List.mem_append.1 hc with hc | hc
  · exact isBlank_eq_false_of_isNameChar (isNameChar_of_isName (isName_kindName header.kind) hc)
  rcases List.mem_cons.1 hc with rfl | hc
  · rfl
  · exact not_blank_of_mem_chain h.converters hc

/-- The converters that are read from the end of a header can stand there. -/
theorem converters_of_readChain {rest : List Char} {converters : List String}
    (h : readChain rest = some converters) :
    ∀ converter ∈ converters, isConverterName converter.toList = true := by
  rw [readChain.eq_def] at h
  split at h
  · cases h
    simp
  · dsimp only at h
    split at h
    · next hall =>
      cases h
      intro converter hmem
      obtain ⟨name, hname, rfl⟩ := List.mem_map.1 hmem
      rw [String.toList_ofList]
      exact List.all_eq_true.1 hall name hname
    · cases h
  · cases h

end Header

/-! ## Section titles -/

/-- The title of the action's section as it is written. -/
def actionTitle (kind : String) : List Char :=
  ['t', 'y', 'p', 'e', '['] ++ (kind.toList ++ [']'])

/-- The kind of an action is read back from its title. -/
theorem actionKind?_actionTitle {kind : String} (h : isName kind.toList = true) :
    actionKind? (actionTitle kind) = some kind := by
  have hbracket : ']' ∉ kind.toList := by
    intro hc
    exact absurd (isNameChar_of_isName h hc) (by decide)
  simp only [actionKind?, actionTitle, dropStart?_append, splitOnce_append_cons hbracket, h,
    allBlank, List.all_nil, Bool.and_self, ↓reduceIte, String.ofList_toList]

/-- The kind that is read from a title is a name. -/
theorem isName_of_actionKind? {title : List Char} {kind : String}
    (h : actionKind? title = some kind) : isName kind.toList = true := by
  rw [actionKind?] at h
  split at h
  · cases h
  · split at h
    · cases h
    · split at h
      · next hand =>
        cases h
        rw [Bool.and_eq_true] at hand
        rw [String.toList_ofList]
        exact hand.1
      · cases h

theorem ofTitle?_actionTitle (kind : String) :
    SectionName.ofTitle? (actionTitle kind) = some .type := by
  simp [SectionName.ofTitle?, actionTitle, isBlank]

end CallSheet
