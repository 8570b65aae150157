import CallSheet.Context.Yaml
import CallSheet.Proofs.Yaml.Styles

/-!
# Contexts in YAML

A context written as YAML has exactly one reading in the grammar: the mapping of its names
to its values, in their order.

* Names.  A short name stays on its line and within the length that a reader allows
  (`scalar_bounds`), and is not taken for the start of a document
  (`not_isMarker_scalar`).
* Contexts.  Entries are read one after the other.  `Records` says that a text has a
  context as its one reading, and `records_toYaml` that the text of a context does.
-/

namespace CallSheet.Yaml

open Text

variable {text left name : List Char}

/-! ## Names -/

theorem length_flatMap_le {f : Char → List Char} {n : Nat} (h : ∀ c ∈ text, (f c).length ≤ n) :
    (text.flatMap f).length ≤ n * text.length := by
  induction text with
  | nil => exact Nat.zero_le _
  | cons c text ih =>
    have hc := h c List.mem_cons_self
    have hrest := ih fun d hd => h d (List.mem_cons_of_mem _ hd)
    rw [List.flatMap_cons, List.length_append, List.length_cons, Nat.mul_succ]
    omega

/-- The character between single quotes. -/
theorem singleBody_eq_flatMap (h : ∀ c ∈ text, isBreak c = false) :
    singleBody false text = text.flatMap fun c => if c = '\'' then [c, c] else [c] := by
  induction text with
  | nil => rfl
  | cons c text ih =>
    have hc := h c List.mem_cons_self
    have hrest := ih fun d hd => h d (List.mem_cons_of_mem _ hd)
    simp [singleBody, hc, hrest]

theorem not_mem_breaks_of_mem_hex (width n : Nat) : ∀ d ∈ hex width n, d ∉ breaks := by
  have hdigit : ∀ digit < 16, (Nat.digitChar digit).toUpper ∉ breaks := by decide
  induction width generalizing n with
  | zero => simp [hex]
  | succ width ih =>
    intro d hd
    rw [hex, List.mem_append, List.mem_singleton] at hd
    rcases hd with hd | rfl
    · exact ih _ d hd
    · exact hdigit _ (Nat.mod_lt _ (by decide))

/-- What a character becomes between double quotes is short and stays on its line. -/
theorem doubleChar_bounds (c : Char) :
    (doubleChar c).length ≤ 6 ∧ ∀ d ∈ doubleChar c, d ∉ breaks := by
  have hcode : ∀ mark width, width ≤ 4 → mark ∉ breaks →
      ('\\' :: mark :: hex width c.toNat).length ≤ 6 ∧
        ∀ d ∈ '\\' :: mark :: hex width c.toNat, d ∉ breaks := by
    intro mark width hwidth hmark
    refine ⟨?_, fun d hd => ?_⟩
    · rw [List.length_cons, List.length_cons, length_hex]
      omega
    rcases List.mem_cons.1 hd with rfl | hd
    · decide
    · rcases List.mem_cons.1 hd with rfl | hd
      · exact hmark
      · exact not_mem_breaks_of_mem_hex width c.toNat d hd
  simp only [doubleChar]
  split
  · next letter hletter =>
    have hletters : ∀ code ∈ escapes, code.2 ∉ breaks := by decide
    obtain ⟨before, after, hescapes, -⟩ := List.lookup_eq_some_iff.1 hletter
    have hbreak := hletters (c.toNat, letter) (by simp [hescapes])
    refine ⟨by simp, fun d hd => ?_⟩
    rcases List.mem_cons.1 hd with rfl | hd
    · decide
    · rw [List.mem_singleton.1 hd]
      exact hbreak
  next hnone =>
  split
  · refine ⟨by simp, fun d hd hbreak => ?_⟩
    obtain rfl := List.mem_singleton.1 hd
    exact lookup_escapes_ne_none hbreak hnone
  next hspecial =>
  split
  · exact hcode 'x' 2 (by decide) (by decide)
  next hbyte =>
  split
  · exact hcode 'u' 4 (by decide) (by decide)
  · next hlow =>
    -- no character as high as this is special
    exfalso
    simp only [isSpecial, Bool.not_not, Bool.or_eq_true, Bool.and_eq_true,
      decide_eq_true_eq] at hspecial
    omega

theorem length_le_encode (text : List Char) : text.length ≤ (Utf8.encode text).length := by
  induction text with
  | nil => exact Nat.zero_le _
  | cons c text ih =>
    have hc : 0 < (Utf8.encodeChar c).length := by
      simp only [Utf8.encodeChar]
      split
      · exact Nat.zero_lt_succ _
      · split
        · exact Nat.zero_lt_succ _
        · split <;> exact Nat.zero_lt_succ _
    rw [Utf8.encode, List.flatMap_cons, List.length_append, List.length_cons]
    rw [Utf8.encode] at ih
    omega

/-- What a short name is like. -/
theorem bounds_of_isShortKey (h : isShortKey name = true) :
    (∀ c ∈ name, isBreak c = false) ∧ name.length ≤ longestKey := by
  simp only [isShortKey, Bool.and_eq_true, Bool.not_eq_true', List.any_eq_false, Bool.not_eq_true,
    decide_eq_true_eq] at h
  exact ⟨h.1, (length_le_encode name).trans h.2⟩

/-- A text on one line is not in a block. -/
theorem style_ne_literal (h : ∀ c ∈ text, isBreak c = false) : Style.of text ≠ .literal := by
  have hline : ¬ text.contains '\n' = true := fun hline => by
    have hbreak := h '\n' (List.contains_iff_mem.1 hline)
    exact absurd hbreak (by decide)
  rw [Style.of, if_neg hline]
  split
  · decide
  · split <;> decide

/-- A short name stays on its line, and is not too long. -/
theorem scalar_bounds (h : isShortKey name = true) :
    (∀ c ∈ scalar name, c ∉ breaks) ∧ (scalar name).length ≤ longestName := by
  obtain ⟨hline, hlength⟩ := bounds_of_isShortKey h
  rw [longestKey] at hlength
  have hbreak : ∀ c ∈ name, c ∉ breaks := fun c hc => by
    rw [← isBreak_iff, hline c hc]
    exact Bool.false_ne_true
  have hquoted : ∀ (quote : Char) (f : Char → List Char), quote ∉ breaks →
      (∀ c ∈ name, (f c).length ≤ 6 ∧ ∀ d ∈ f c, d ∉ breaks) →
        (∀ d ∈ quote :: (name.flatMap f ++ [quote]), d ∉ breaks) ∧
          (quote :: (name.flatMap f ++ [quote])).length ≤ longestName := by
    intro quote f hquote hf
    have hle := length_flatMap_le fun c hc => (hf c hc).1
    refine ⟨fun d hd => ?_, ?_⟩
    · simp only [List.mem_cons, List.mem_append, List.mem_flatMap, List.not_mem_nil,
        or_false] at hd
      rcases hd with rfl | ⟨c, hc, hd⟩ | rfl
      · exact hquote
      · exact (hf c hc).2 d hd
      · exact hquote
    · rw [List.length_cons, List.length_append, List.length_singleton, longestName]
      omega
  rcases scalar_cases (style_ne_literal hline) with ⟨heq, -, -⟩ | ⟨heq, -⟩ | heq
  · rw [heq, longestName]
    exact ⟨hbreak, by omega⟩
  · rw [heq, singleBody_eq_flatMap hline]
    refine hquoted '\'' _ (by decide) fun c hc => ?_
    split <;>
      exact ⟨by simp, fun d hd => by
        obtain rfl : d = c := by simpa using hd
        exact hbreak d hc⟩
  · rw [heq]
    exact hquoted '"' _ (by decide) fun c _ => doubleChar_bounds c

/-- A name neither starts nor ends a document. -/
theorem not_isMarker_scalar (h : Style.of name ≠ .literal) (after : List Char) :
    ¬ IsMarker (scalar name ++ ':' :: ' ' :: after) := by
  rintro ⟨hmarker, -⟩
  rcases scalar_cases h with ⟨heq, hplain, -⟩ | ⟨heq, -⟩ | heq
  · rw [heq] at hmarker
    have hmark : startsMark name = false := by
      simp only [plainAllowed, Bool.and_eq_true, Bool.not_eq_true'] at hplain
      exact hplain.1.1.2
    -- within the first three characters, the colon rules a marker out
    rcases name with _ | ⟨c, _ | ⟨d, _ | ⟨e, rest⟩⟩⟩
    · simp at hmarker
    · simp at hmarker
    · simp at hmarker
    · simp only [startsMark, Bool.or_eq_false_iff, beq_eq_false_iff_ne] at hmark
      rcases hmarker with hmarker | hmarker
      · exact hmark.1.2 hmarker
      · exact hmark.2 hmarker
  · rw [heq] at hmarker
    simp at hmarker
  · rw [heq] at hmarker
    simp at hmarker

/-! ## Contexts -/

theorem readsEntry_entry (name value : List Char) (hleft : Unindented left) :
    ReadsEntry (entry name value ++ left) (name, value) left := by
  have hvalue := readsNode_scalar value hleft
  unfold entry
  split
  · next hshort =>
    have hstyle := style_ne_literal (bounds_of_isShortKey hshort).1
    obtain ⟨hline, hlength⟩ := scalar_bounds hshort
    have htext : scalar name ++ [':', ' '] ++ scalar value ++ endLine value ++ left =
        scalar name ++ ':' :: ' ' :: (scalar value ++ (endLine value ++ left)) := by simp
    have hend : EndsPlain (':' :: ' ' :: (scalar value ++ (endLine value ++ left))) := by
      refine .inr (.inl ⟨_, rfl, fun c hc => ?_⟩)
      obtain rfl := Option.some.inj hc
      exact .inl (by decide)
    rw [htext]
    exact .short (not_isMarker_scalar hstyle _) (readsInline_scalar hstyle hend) rfl hline hlength
      hvalue
  · have htext : ['?', ' '] ++ scalar name ++ endLine name ++ [':', ' '] ++ scalar value ++
        endLine value ++ left = '?' :: ' ' :: (scalar name ++ (endLine name ++
          ':' :: ' ' :: (scalar value ++ (endLine value ++ left)))) := by simp
    have hcolon : Unindented (':' :: ' ' :: (scalar value ++ (endLine value ++ left))) := by
      intro c hc
      obtain rfl := Option.some.inj hc
      decide
    rw [htext]
    exact .long (readsNode_scalar name hcolon) hvalue

theorem ReadsEntries.unindented {entries : List (List Char × List Char)}
    (h : ReadsEntries text entries) : Unindented text := by
  intro c hc
  cases h with
  | none => cases hc
  | more h =>
    obtain ⟨first, rest, rfl, -, hfirst⟩ := h.exists_cons
    obtain rfl := Option.some.inj hc
    exact hfirst

/-- A name and its value, as an entry of a mapping. -/
def entryOf (entry : String × String) : List Char × List Char := (entry.1.toList, entry.2.toList)

theorem readsEntries_flatMap (entries : List (String × String)) :
    ReadsEntries (entries.flatMap fun (name, value) => entry name.toList value.toList)
      (entries.map entryOf) := by
  induction entries with
  | nil => exact .none
  | cons first entries ih =>
    rw [List.flatMap_cons, List.map_cons]
    exact .more (readsEntry_entry _ _ ih.unindented) ih

/-- A mapping that is written from entries is read as these entries, in their order. -/
theorem spells_mapping (entries : List (String × String)) :
    Spells (mapping entries) (entries.map entryOf) := by
  unfold mapping
  split
  · next hempty =>
    rw [List.isEmpty_iff.1 hempty]
    exact .empty
  · next hne =>
    refine .block ?_ (readsEntries_flatMap entries)
    rintro hnil
    exact hne (List.isEmpty_iff.2 (List.map_eq_nil_iff.1 hnil))

/-- A text is a YAML text of the mapping of a context's names to its values, in their
order, and of nothing else. -/
def Records (text : String) (context : Context) : Prop :=
  ∀ entries, Spells text.toList entries ↔ entries = context.entries.map entryOf

/-- A context in YAML is recorded. -/
theorem records_toYaml (context : Context) : Records context.toYaml context := by
  intro entries
  have hspells : Spells context.toYaml.toList (context.entries.map entryOf) := by
    rw [Context.toYaml, String.toList_ofList]
    exact spells_mapping context.entries
  constructor
  · intro h
    exact hspells.unique h
  · rintro rfl
    exact hspells

end CallSheet.Yaml
