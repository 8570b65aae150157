import CallSheet.Document.Parse
import CallSheet.Proofs.Document.Header

/-!
# The grammar of component headers

Which texts are component headers, and in which of two ways another text fails to be one.

There are four groups.

* Spellings.  `Header.Spelling` is a header with the way in which it is written: the kind
  of a text can be left out.  `Spelling.Reads` says what a text spells.
* Parts.  What the reader does with a name, with a kind and with a chain.
* Reading.  `read_of_reads` and `read_of_namesUnknownKind` are the answers to the texts
  that start like a header, and `read_cases` says that all others are malformed.
* The whole.  `read_grammar` puts this together with the errors that a document is
  refused with.
-/

namespace CallSheet

open Text

namespace ComponentKind

theorem name_of_ofName? {name : String} {kind : ComponentKind} (h : ofName? name = some kind) :
    kind.name = name := by
  rw [ofName?] at h
  have hfound := List.find?_some h
  exact beq_iff_eq.1 hfound

theorem ofName?_eq_none_iff {name : String} :
    ofName? name = none ↔ ∀ kind : ComponentKind, kind.name ≠ name := by
  rw [ofName?, List.find?_eq_none]
  constructor
  · intro h kind heq
    exact h kind (mem_all kind) (beq_iff_eq.2 heq)
  · intro h kind _ heq
    exact h kind (beq_iff_eq.1 heq)

end ComponentKind

namespace Header

variable {title name rest : List Char}

/-! ## Spellings -/

/-- A component header with the way in which its kind is written. -/
structure Spelling where
  name : String
  /-- The kind in brackets, if there are brackets. -/
  kind? : Option ComponentKind
  converters : List String
  deriving DecidableEq, Repr

namespace Spelling

/-- A kind as it is written after a name. -/
def bracket : Option ComponentKind → List Char
  | none => []
  | some kind => '[' :: (kind.name.toList ++ [']'])

/-- A spelling as it is written. -/
def text (spelling : Spelling) : List Char :=
  spelling.name.toList ++ (bracket spelling.kind? ++ chain spelling.converters)

/-- The header that is spelled.  Without brackets it is the header of a text. -/
def header (spelling : Spelling) : Header :=
  ⟨spelling.name, spelling.kind?.getD .text, spelling.converters⟩

/-- A title is spelled like this, blanks at its end not counted. -/
structure Reads (spelling : Spelling) (title : List Char) : Prop where
  wellFormed : spelling.header.WellFormed
  text_eq : trimEnd title = spelling.text

theorem bracket_injective : Function.Injective bracket := by
  intro first second h
  cases first with
  | none =>
    cases second with
    | none => rfl
    | some kind => cases h
  | some kind =>
    cases second with
    | none => cases h
    | some kind' =>
      have hname : kind.name.toList = kind'.name.toList :=
        List.append_cancel_right (List.cons.inj h).2
      have hfound := ComponentKind.ofName?_name kind
      rw [String.toList_inj.1 hname, ComponentKind.ofName?_name kind'] at hfound
      exact hfound.symm

end Spelling

/-- A text starts with a name and then a kind in brackets that does not exist. -/
def NamesUnknownKind (text : List Char) (kind : String) : Prop :=
  isName kind.toList = true ∧ (∀ known : ComponentKind, known.name ≠ kind) ∧
    ∃ name rest, isName name = true ∧ text = name ++ '[' :: (kind.toList ++ ']' :: rest)

/-! ## Parts -/

/-- A rest that a name cannot go on with. -/
def EndsName (rest : List Char) : Prop := ∀ c ∈ rest.head?, isNameChar c = false

/-- The name at the start of a text is followed by something that ends it. -/
theorem exists_name (text : List Char) :
    ∃ name rest, text = name ++ rest ∧ (∀ c ∈ name, isNameChar c = true) ∧ EndsName rest := by
  refine ⟨text.takeWhile isNameChar, text.dropWhile isNameChar,
    List.takeWhile_append_dropWhile.symm, fun c hc => List.all_eq_true.1 List.all_takeWhile c hc, ?_⟩
  intro c hc
  have hnot := List.head?_dropWhile_not isNameChar text
  rwa [Option.mem_def.1 hc] at hnot

/-- A text is cut behind its name. -/
theorem span_name (hname : ∀ c ∈ name, isNameChar c = true) (hrest : EndsName rest) :
    (name ++ rest).takeWhile isNameChar = name ∧
      (name ++ rest).dropWhile isNameChar = rest := by
  rw [List.takeWhile_append_of_pos hname, List.dropWhile_append_of_pos hname]
  cases rest with
  | nil => exact ⟨List.append_nil name, rfl⟩
  | cons c rest =>
    have hc : ¬ isNameChar c = true := by simpa using hrest c rfl
    rw [List.takeWhile_cons_of_neg hc, List.dropWhile_cons_of_neg hc, List.append_nil]
    exact ⟨rfl, rfl⟩

/-- Without a bracket after the name, the title is that of a text. -/
theorem read_of_plain (hname : isName name = true) (hrest : EndsName rest)
    (hbracket : rest.head? ≠ some '[') (htitle : trimEnd title = name ++ rest) :
    read title = finish name .text rest := by
  obtain ⟨htake, hdrop⟩ := span_name (fun c hc => isNameChar_of_isName hname hc) hrest
  have hne : name.isEmpty = false := List.isEmpty_eq_false_iff.2 (ne_nil_of_isName hname)
  simp only [read, htitle, htake, hdrop, hne, Bool.false_eq_true, ↓reduceIte]
  split
  · exact absurd rfl hbracket
  · rfl

/-- A name in brackets is that of the kind. -/
theorem read_of_bracket {kind : List Char} (hname : isName name = true) (hkind : isName kind = true)
    (htitle : trimEnd title = name ++ '[' :: (kind ++ ']' :: rest)) :
    read title =
      match ComponentKind.ofName? (String.ofList kind) with
      | some kind => finish name kind rest
      | none => .error (.unknownKind (String.ofList kind)) := by
  have hends : EndsName ('[' :: (kind ++ ']' :: rest)) := by
    intro c hc
    obtain rfl : '[' = c := Option.some.inj hc
    decide
  obtain ⟨htake, hdrop⟩ := span_name (fun c hc => isNameChar_of_isName hname hc) hends
  have hne : name.isEmpty = false := List.isEmpty_eq_false_iff.2 (ne_nil_of_isName hname)
  have hclose : ']' ∉ kind := by
    intro hc
    exact absurd (isNameChar_of_isName hkind hc) (by decide)
  cases hfound : ComponentKind.ofName? (String.ofList kind) with
  | none =>
    simp only [read, htitle, htake, hdrop, hne, Bool.false_eq_true, ↓reduceIte,
      splitOnce_append_cons hclose, hkind, hfound]
  | some found =>
    simp only [read, htitle, htake, hdrop, hne, Bool.false_eq_true, ↓reduceIte,
      splitOnce_append_cons hclose, hkind, hfound]

/-- What is read as a chain is the chain of these converters. -/
theorem eq_chain_of_readChain {converters : List String} (h : readChain rest = some converters) :
    rest = chain converters := by
  rw [readChain.eq_def] at h
  split at h
  · cases h
    rfl
  · next joined =>
    dsimp only at h
    split at h
    · cases h
      cases hsplit : splitOn ':' joined with
      | nil => exact absurd hsplit (splitOn_ne_nil ':' joined)
      | cons part parts =>
        have hjoin : join ':' (part :: parts) = joined := hsplit ▸ join_splitOn ':' joined
        have hsame : ((part :: parts).map String.ofList).map String.toList = part :: parts := by
          simp
        rw [List.map_cons, chain_cons, ← List.map_cons, hsame, hjoin]
    · cases h
  · cases h

/-- A chain is empty or starts with a colon. -/
theorem head?_chain (converters : List String) : ∀ c ∈ (chain converters).head?, c = ':' := by
  intro c hc
  cases converters with
  | nil => cases hc
  | cons converter converters =>
    rw [chain_cons] at hc
    exact (Option.some.inj hc).symm

/-! ## Reading -/

theorem finish_chain {name : String} {converters : List String}
    (h : ∀ converter ∈ converters, isConverterName converter.toList = true) (kind : ComponentKind) :
    finish name.toList kind (chain converters) = .ok ⟨name, kind, converters⟩ := by
  rw [finish, readChain_chain h, String.ofList_toList]

/-- What a title spells is read from it. -/
theorem read_of_reads {spelling : Spelling} (h : spelling.Reads title) :
    read title = .ok spelling.header := by
  obtain ⟨⟨hname, hconverters⟩, htitle⟩ := h
  obtain ⟨name, kind?, converters⟩ := spelling
  simp only [Spelling.header, Spelling.text] at hname hconverters htitle ⊢
  cases kind? with
  | none =>
    rw [Spelling.bracket, List.nil_append] at htitle
    have hhead := head?_chain converters
    have hends : EndsName (chain converters) := fun c hc => hhead c hc ▸ rfl
    have hbracket : (chain converters).head? ≠ some '[' :=
      fun hc => absurd (hhead '[' hc) (by decide)
    rw [read_of_plain hname hends hbracket htitle]
    exact finish_chain hconverters .text
  | some kind =>
    have hbracket : trimEnd title =
        name.toList ++ '[' :: (kind.name.toList ++ ']' :: chain converters) := by
      rw [htitle]
      simp [Spelling.bracket]
    rw [read_of_bracket hname (isName_kindName kind) hbracket, String.ofList_toList,
      ComponentKind.ofName?_name]
    exact finish_chain hconverters kind

/-- A title that names a kind that does not exist is refused for it. -/
theorem read_of_namesUnknownKind {kind : String} (h : NamesUnknownKind (trimEnd title) kind) :
    read title = .error (.unknownKind kind) := by
  obtain ⟨hkind, hunknown, name, rest, hname, htitle⟩ := h
  rw [read_of_bracket hname hkind htitle, String.ofList_toList,
    ComponentKind.ofName?_eq_none_iff.2 hunknown]

/-- If the end of a title is read as a chain, the title is spelled like a header. -/
theorem exists_reads (kind? : Option ComponentKind) (hname : isName name = true)
    (htitle : trimEnd title = name ++ (Spelling.bracket kind? ++ rest))
    (h : finish name (kind?.getD .text) rest ≠ .error .malformed) :
    ∃ spelling : Spelling, spelling.Reads title := by
  cases hchain : readChain rest with
  | none =>
    rw [finish, hchain] at h
    exact absurd rfl h
  | some converters =>
    refine ⟨⟨String.ofList name, kind?, converters⟩, ⟨?_, converters_of_readChain hchain⟩, ?_⟩
    · rwa [Spelling.header, String.toList_ofList]
    · rw [htitle, Spelling.text, String.toList_ofList, eq_chain_of_readChain hchain]

/-- A title is spelled like a header, or it names a kind that does not exist, or it is
malformed. -/
theorem read_cases (title : List Char) :
    (∃ spelling : Spelling, spelling.Reads title) ∨
      (∃ kind, NamesUnknownKind (trimEnd title) kind) ∨ read title = .error .malformed := by
  by_cases h : read title = .error .malformed
  · exact .inr (.inr h)
  obtain ⟨name, rest, htitle, hall, hrest⟩ := exists_name (trimEnd title)
  obtain ⟨htake, hdrop⟩ := span_name hall hrest
  simp only [read, htitle, htake, hdrop] at h
  split at h
  · exact absurd rfl h
  next hne =>
  have hname : isName name = true := by
    rw [isName, Bool.and_eq_true, List.all_eq_true]
    exact ⟨by simpa using hne, hall⟩
  split at h
  · next bracketed =>
    split at h
    · exact absurd rfl h
    · next kind rest hcut =>
      have hbracketed := eq_of_splitOnce hcut
      split at h
      · next hkind =>
        split at h
        · next known hknown =>
          have hspelled : known.name.toList = kind := by
            rw [ComponentKind.name_of_ofName? hknown, String.toList_ofList]
          refine .inl (exists_reads (some known) hname ?_ h)
          rw [htitle, hbracketed, Spelling.bracket, hspelled]
          simp
        · next hunknown =>
          refine .inr (.inl ⟨String.ofList kind, ?_, ComponentKind.ofName?_eq_none_iff.1 hunknown, name,
            rest, hname, ?_⟩)
          · rwa [String.toList_ofList]
          · rw [htitle, hbracketed, String.toList_ofList]
      · exact absurd rfl h
  · exact .inl (exists_reads none hname htitle h)

/-- A title is spelled in at most one way. -/
theorem Spelling.eq_of_reads {first second : Spelling} (h : first.Reads title)
    (h' : second.Reads title) : first = second := by
  obtain ⟨name, kind?, converters⟩ := first
  obtain ⟨name', kind?', converters'⟩ := second
  -- The headers are the same, because the title is read as both of them.
  have hheader := (read_of_reads h).symm.trans (read_of_reads h')
  simp only [header, Except.ok.injEq, Header.mk.injEq] at hheader
  obtain ⟨rfl, -, rfl⟩ := hheader
  -- So what is left of the title is the kind in brackets.
  have htext := h.text_eq.symm.trans h'.text_eq
  have hbracket : bracket kind? = bracket kind?' :=
    List.append_cancel_right (List.append_cancel_left htext)
  rw [bracket_injective hbracket]

/-! ## The whole -/

theorem read_eq_ok_iff {header : Header} :
    read title = .ok header ↔
      ∃ spelling : Spelling, spelling.Reads title ∧ spelling.header = header := by
  constructor
  · intro h
    rcases read_cases title with ⟨spelling, hspelling⟩ | ⟨kind, hkind⟩ | hmalformed
    · rw [read_of_reads hspelling] at h
      exact ⟨spelling, hspelling, Except.ok.inj h⟩
    · rw [read_of_namesUnknownKind hkind] at h
      cases h
    · rw [hmalformed] at h
      cases h
  · rintro ⟨spelling, hspelling, rfl⟩
    exact read_of_reads hspelling

/-- A header that is read is one that the grammar has room for. -/
theorem wellFormed_of_read {header : Header} (h : read title = .ok header) :
    header.WellFormed := by
  obtain ⟨spelling, hspelling, rfl⟩ := read_eq_ok_iff.1 h
  exact hspelling.wellFormed

/-- A written header is read back. -/
theorem read_written {header : Header} (h : header.WellFormed) :
    read header.written = .ok header := by
  have htrim : trimEnd header.written = header.written :=
    trimEnd_eq_self fun c hc => not_blank_of_mem_written h (List.mem_of_getLast? hc)
  have hreads : Spelling.Reads ⟨header.name, some header.kind, header.converters⟩ header.written := by
    refine ⟨h, ?_⟩
    rw [htrim]
    simp [written, Spelling.text, Spelling.bracket]
  exact read_of_reads hreads

theorem read_eq_unknownKind_iff {kind : String} :
    read title = .error (.unknownKind kind) ↔ NamesUnknownKind (trimEnd title) kind := by
  constructor
  · intro h
    rcases read_cases title with ⟨spelling, hspelling⟩ | ⟨other, hother⟩ | hmalformed
    · rw [read_of_reads hspelling] at h
      cases h
    · rw [read_of_namesUnknownKind hother] at h
      cases h
      exact hother
    · rw [hmalformed] at h
      cases h
  · intro h
    exact read_of_namesUnknownKind h

theorem read_eq_malformed_iff :
    read title = .error .malformed ↔
      (¬ ∃ spelling : Spelling, spelling.Reads title) ∧
        ¬ ∃ kind, NamesUnknownKind (trimEnd title) kind := by
  constructor
  · intro h
    constructor
    · rintro ⟨spelling, hspelling⟩
      rw [read_of_reads hspelling] at h
      cases h
    · rintro ⟨kind, hkind⟩
      rw [read_of_namesUnknownKind hkind] at h
      cases h
  · rintro ⟨hspelling, hkind⟩
    rcases read_cases title with hreads | hnames | hmalformed
    · exact absurd hreads hspelling
    · exact absurd hnames hkind
    · exact hmalformed

/-- A document is refused at a component's header for what is wrong with the header. -/
theorem openComponent_eq_error (reader : Reader) (name : SectionName) (number : Nat)
    (title : List Char) :
    (∀ kind, reader.openComponent name number title = .error (.unknownComponentKind number kind) ↔
      read title = .error (.unknownKind kind)) ∧
    ∀ header, reader.openComponent name number title =
        .error (.invalidComponentHeader number header) ↔
      read title = .error .malformed ∧ header = String.ofList (componentMark ++ title) := by
  rw [Reader.openComponent]
  cases read title with
  | error fault =>
    cases fault with
    | malformed => simp [eq_comm]
    | unknownKind kind => simp
  | ok header =>
    dsimp only
    split <;> simp

/-- A title is read as a header exactly if it is spelled like one, and there is only one
way to spell it.  A title that names a kind that does not exist is refused for this kind,
whatever follows.  Every other title is refused as it stands. -/
theorem read_grammar (title : List Char) :
    (∀ header, read title = .ok header ↔
      ∃ spelling : Spelling, spelling.Reads title ∧ spelling.header = header) ∧
    (∀ first second : Spelling, first.Reads title → second.Reads title → first = second) ∧
    (∀ kind, read title = .error (.unknownKind kind) ↔ NamesUnknownKind (trimEnd title) kind) ∧
    ∀ (reader : Reader) (name : SectionName) (number : Nat),
      (∀ kind,
        reader.openComponent name number title = .error (.unknownComponentKind number kind) ↔
          NamesUnknownKind (trimEnd title) kind) ∧
      ∀ header,
        reader.openComponent name number title = .error (.invalidComponentHeader number header) ↔
          ((¬ ∃ spelling : Spelling, spelling.Reads title) ∧
            ¬ ∃ kind, NamesUnknownKind (trimEnd title) kind) ∧
          header = String.ofList (componentMark ++ title) := by
  refine ⟨fun header => read_eq_ok_iff, fun first second => Spelling.eq_of_reads,
    fun kind => read_eq_unknownKind_iff, fun reader name number => ?_⟩
  obtain ⟨hunknown, hinvalid⟩ := openComponent_eq_error reader name number title
  constructor
  · intro kind
    rw [hunknown, read_eq_unknownKind_iff]
  · intro header
    rw [hinvalid, read_eq_malformed_iff]

/-- A title with brackets in the name of a converter and blanks at the end. -/
def tagTitle : List Char := "tag[list]:upper:x[y] \t".toList

/-- How the title is spelled. -/
def tagSpelling : Spelling := ⟨"tag", some .list, ["upper", "x[y]"]⟩

theorem read_grammar_tag :
    tagSpelling.Reads tagTitle ∧ read tagTitle = .ok tagSpelling.header ∧
      ∀ spelling : Spelling, spelling.Reads tagTitle → spelling = tagSpelling := by
  have hreads : tagSpelling.Reads tagTitle := ⟨⟨by decide, by decide⟩, by decide⟩
  obtain ⟨hok, hunique, -⟩ := read_grammar tagTitle
  exact ⟨hreads, (hok _).2 ⟨_, hreads, rfl⟩, fun spelling h => hunique _ _ h hreads⟩

/-! A colon, a blank and a bracket can be in the wrong place. -/

example : read "host[lst]:x y".toList = .error (.unknownKind "lst") := rfl

example : read "host [list]".toList = .error .malformed := rfl

end Header

end CallSheet
