import CallSheet.Proofs.Document.Beside

/-!
# Texts one after the other

Reading a text that consists of two texts, the second of which starts with a
section.

`Document.marks` lists the sections that a text opens.  The main result is
`Document.parse_append`.  If the two texts open no common section, each section
of the whole comes from the text that opened it; otherwise the first section
that is opened again is reported.  So such texts may change places, and a text
that opens no section has no effect.
-/

namespace CallSheet

open Text

/-! ## Sections of a text -/

/-- The sections that a text opens, each with the line of its mark. -/
def Document.marks (text : String) : List (SectionName × Nat) :=
  match Reader.readLines {} 1 (lines text.toList) with
  | .ok reader => reader.opened
  | .error _ => []

/-- Whether a text opens a section. -/
def Document.Opens (text : String) (name : SectionName) : Prop :=
  name ∈ (marks text).map Prod.fst

instance (text : String) (name : SectionName) : Decidable (Document.Opens text name) :=
  inferInstanceAs (Decidable (name ∈ (Document.marks text).map Prod.fst))

/-- The number of line breaks in a text. -/
def lineBreaks (text : String) : Nat := text.toList.count '\n'

/-- A document that takes each section from the text that opens it. -/
def Document.ofOpeners (a b : String) (first second : Document) : Document where
  vars := if Opens a .vars then first.vars else if Opens b .vars then second.vars else []
  after := if Opens a .after then first.after else if Opens b .after then second.after else []
  action := if Opens a .type then first.action else if Opens b .type then second.action else none

/-- A component without its line number. -/
def Component.unnumbered (component : Component) : Component := { component with line := 0 }

/-- A document without its line numbers. -/
def Document.unnumbered (document : Document) : Document where
  vars := document.vars.map Component.unnumbered
  after := document.after.map Component.unnumbered
  action := document.action.map fun action =>
    { action with fields := action.fields.map Component.unnumbered }

theorem Document.unnumbered_shifted (document : Document) (offset : Nat) :
    (document.shifted offset).unnumbered = document.unnumbered := by
  have hcomp : (Component.unnumbered ∘ fun component => component.shifted offset) =
      Component.unnumbered := rfl
  simp only [unnumbered, shifted, List.map_map, hcomp]
  cases document.action with
  | none => rfl
  | some action => simp only [Option.map_some, List.map_map, hcomp]

theorem Document.unnumbered_beside (first second : Document) :
    (first.beside second).unnumbered = first.unnumbered.beside second.unnumbered := by
  simp only [unnumbered, beside, List.map_append]
  cases first.action <;> rfl

/-- The sides do not matter if every section is empty on one of them. -/
theorem Document.beside_comm {first second : Document}
    (h : ∀ name, first.components name = [] ∨ second.components name = [])
    (haction : first.action = none ∨ second.action = none) :
    first.beside second = second.beside first := by
  have hvars : first.vars ++ second.vars = second.vars ++ first.vars := by
    rcases h .vars with h | h <;> simp_all [components]
  have hafter : first.after ++ second.after = second.after ++ first.after := by
    rcases h .after with h | h <;> simp_all [components]
  have hor : first.action.or second.action = second.action.or first.action := by
    rcases haction with h | h <;> simp [h]
  rw [beside, beside, hvars, hafter, hor]

/-! ## Texts that can be read -/

/-- A reader that has read a whole text and stands outside every fence. -/
structure Reads (text : String) (reader : Reader) : Prop where
  lines : Reader.readLines {} 1 (Text.lines text.toList) = .ok reader
  place : reader.place.isFenced = false

theorem exists_reads {text : String} {document : Document}
    (h : Document.parse text = .ok document) :
    ∃ reader, Reads text reader ∧ document = reader.settle.document := by
  obtain ⟨reader, hlines, hplace, hdocument⟩ := Document.parse_eq_ok h
  exact ⟨reader, ⟨hlines, hplace⟩, hdocument⟩

namespace Reads

variable {a b : String} {ra rb : Reader}

theorem parse (h : Reads a ra) : Document.parse a = .ok ra.settle.document :=
  Document.parse_of_readLines h.lines h.place

theorem coherent (h : Reads a ra) : ra.settle.Coherent :=
  (Reader.Coherent.start.readLines h.lines).settle

theorem marks (h : Reads a ra) : Document.marks a = ra.settle.opened := by
  rw [Document.marks, h.lines, Reader.settle_opened]

theorem opens_iff (h : Reads a ra) (name : SectionName) :
    Document.Opens a name ↔ name ∈ ra.settle.openedNames := by
  rw [Document.Opens, h.marks, Reader.openedNames]

/-- The texts open no common section exactly if their readers are apart. -/
theorem apart_iff (ha : Reads a ra) (hb : Reads b rb) :
    Reader.Apart ra.settle rb ↔ ∀ name, Document.Opens a name → ¬ Document.Opens b name := by
  have hnames : rb.openedNames = rb.settle.openedNames := (Reader.openedNames_settle rb).symm
  constructor
  · intro h name hopena hopenb
    rw [ha.opens_iff] at hopena
    rw [hb.opens_iff, ← hnames] at hopenb
    exact h name hopenb hopena
  · intro h name hmem hfirst
    rw [hnames, ← hb.opens_iff] at hmem
    exact h name ((ha.opens_iff name).2 hfirst) hmem

/-- After a text, a title is read as if the reader stood outside every
section. -/
theorem readLines_title {reader : Reader} (hf : reader.place.isFenced = false)
    (number : Nat) (title : List Char) (rest : List (List Char)) (offset : Nat) :
    reader.readLines number ((sectionMark ++ title) :: rest) =
      (Reader.behind {} reader.settle offset).readLines number ((sectionMark ++ title) :: rest) := by
  have hdocument : reader.settle.document.beside (Document.shifted {} offset) =
      reader.settle.document := Document.beside_empty _
  have hopened : reader.settle.opened ++ shiftedMarks [] offset = reader.settle.opened :=
    List.append_nil _
  have hempty : Reader.behind {} reader.settle offset =
      { reader.settle with place := .outside } := by
    simp only [Reader.behind, hdocument, hopened, Position.shifted]
  have hsettle : Reader.settle { reader.settle with place := .outside } =
      { reader.settle with place := .outside } := Reader.settle_of_outside rfl
  rw [hempty, Reader.readLines, Reader.readLines, Reader.step_section hf,
    Reader.step_section (by rfl), hsettle]
  rfl

/-- After a text that is empty or ends in a line break, a text that starts with
a section is read by a reader behind the first one. -/
theorem readLines_append (ha : Reads a ra) (hend : a = "" ∨ a.toList.getLast? = some '\n')
    (hstart : sectionMark <+: b.toList) :
    Reader.readLines {} 1 (Text.lines (a ++ b).toList) =
      (Reader.behind {} ra.settle (lineBreaks a)).readLines (1 + lineBreaks a)
        (Text.lines b.toList) := by
  have hend' : a.toList = [] ∨ a.toList.getLast? = some '\n' :=
    hend.imp (fun h => by rw [h]; rfl) id
  obtain ⟨complete, hlength, hlines⟩ := lines_append_of_complete hend'
  obtain ⟨rest, hrest⟩ := hstart
  have hfree : '\n' ∉ sectionMark := by decide
  have hmark : sectionMark.getLast? ≠ some '\r' := by decide
  obtain ⟨title, more, htitle⟩ := lines_mark_append hfree hmark rest
  have hall : Text.lines a.toList = complete ++ [[]] := by
    rw [← List.append_nil a.toList, hlines]
    rfl
  have hbody := ha.lines
  rw [hall, Reader.readLines_append] at hbody
  cases hcomplete : Reader.readLines {} 1 complete with
  | error error =>
    rw [hcomplete] at hbody
    cases hbody
  | ok reader =>
    rw [hcomplete] at hbody
    obtain ⟨hplace, hsame⟩ := Reader.eq_of_readLines_empty hbody ha.place
    rw [String.toList_append, hlines, Reader.readLines_append_of_ok hcomplete, hsame, ← hrest,
      htitle, hlength]
    exact readLines_title ha.place _ title more _

/-- Two texts that open no common section are read as one. -/
theorem append (ha : Reads a ra) (hb : Reads b rb)
    (hend : a = "" ∨ a.toList.getLast? = some '\n') (hstart : sectionMark <+: b.toList)
    (hapart : Reader.Apart ra.settle rb) :
    Reads (a ++ b) (rb.behind ra.settle (lineBreaks a)) where
  lines := by
    rw [ha.readLines_append hend hstart]
    exact Reader.readLines_behind ha.coherent Reader.Coherent.start hb.lines hapart _
  place := by
    rw [Reader.isFenced_behind]
    exact hb.place

theorem document_append (ha : Reads a ra) (hb : Reads b rb)
    (hapart : Reader.Apart ra.settle rb) (offset : Nat) :
    (rb.behind ra.settle offset).settle.document =
      ra.settle.document.beside (rb.settle.document.shifted offset) := by
  rw [Reader.settle_behind ha.coherent (Reader.Coherent.start.readLines hb.lines) hapart]
  rfl

/-- The first section that a second text opens again is reported. -/
theorem append_again (ha : Reads a ra) (hb : Reads b rb)
    (hend : a = "" ∨ a.toList.getLast? = some '\n') (hstart : sectionMark <+: b.toList)
    (hnot : ¬ Reader.Apart ra.settle rb) :
    ∃ name line start,
      (Document.marks b).find? (fun mark => Document.Opens a mark.1) = some (name, line) ∧
      (Document.marks a).lookup name = some start ∧
      Document.parse (a ++ b) = .error (.duplicateSection (line + lineBreaks a) name start) := by
  have hempty : Reader.Apart ra.settle {} := fun name hname => by simp [Reader.openedNames] at hname
  obtain ⟨name, line, start, hfind, hlookup, herror⟩ :=
    Reader.readLines_behind_again ha.coherent Reader.Coherent.start hb.lines hempty hnot
      (lineBreaks a)
  refine ⟨name, line, start, ?_, ?_, ?_⟩
  · rw [hb.marks, Reader.settle_opened, ← hfind]
    congr 1
    funext mark
    exact decide_eq_decide.2 (ha.opens_iff mark.1)
  · rw [ha.marks, hlookup]
  · rw [Document.parse, Document.ofLines, ha.readLines_append hend hstart, herror]

/-- Sections that are not opened are empty, so two documents side by side have
each section from the text that opens it. -/
theorem ofOpeners_eq (ha : Reads a ra) (hb : Reads b rb) (hapart : Reader.Apart ra.settle rb)
    (offset : Nat) :
    Document.ofOpeners a b ra.settle.document (rb.settle.document.shifted offset) =
      ra.settle.document.beside (rb.settle.document.shifted offset) := by
  have hdisjoint := (ha.apart_iff hb).1 hapart
  have hnone : ∀ name, ¬ Document.Opens a name → ra.settle.document.components name = [] :=
    fun name h => ha.coherent.components fun hmem => h ((ha.opens_iff name).2 hmem)
  have hnone' : ∀ name, ¬ Document.Opens b name →
      (rb.settle.document.shifted offset).components name = [] := by
    intro name h
    rw [Document.components_shifted,
      hb.coherent.components fun hmem => h ((hb.opens_iff name).2 hmem)]
    rfl
  have hsection : ∀ name,
      (if Document.Opens a name then ra.settle.document.components name
        else if Document.Opens b name then (rb.settle.document.shifted offset).components name
        else []) =
      ra.settle.document.components name ++
        (rb.settle.document.shifted offset).components name := by
    intro name
    by_cases hopena : Document.Opens a name
    · rw [if_pos hopena, hnone' name (hdisjoint name hopena), List.append_nil]
    · rw [if_neg hopena, hnone name hopena, List.nil_append]
      by_cases hopenb : Document.Opens b name
      · rw [if_pos hopenb]
      · rw [if_neg hopenb, hnone' name hopenb]
  have haction : (if Document.Opens a .type then ra.settle.document.action
        else if Document.Opens b .type then (rb.settle.document.shifted offset).action
        else none) =
      ra.settle.document.action.or (rb.settle.document.shifted offset).action := by
    by_cases hopena : Document.Opens a .type
    · rw [if_pos hopena]
      obtain ⟨action, hsome⟩ :=
        Option.isSome_iff_exists.1 (ha.coherent.action.2 ((ha.opens_iff .type).1 hopena))
      rw [hsome]
      rfl
    · have hfirst : ra.settle.document.action = none := by
        rw [ha.opens_iff, ← ha.coherent.action] at hopena
        simpa using hopena
      rw [if_neg hopena, hfirst, Option.none_or]
      by_cases hopenb : Document.Opens b .type
      · rw [if_pos hopenb]
      · rw [if_neg hopenb]
        rw [hb.opens_iff, ← hb.coherent.action] at hopenb
        have hsecond : rb.settle.document.action = none := by simpa using hopenb
        simp [Document.shifted, hsecond]
  rw [Document.ofOpeners, Document.beside, haction]
  congr 1
  · exact hsection .vars
  · exact hsection .after

theorem apart_comm (ha : Reads a ra) (hb : Reads b rb) (hapart : Reader.Apart ra.settle rb) :
    Reader.Apart rb.settle ra := by
  rw [hb.apart_iff ha]
  intro name hopenb hopena
  exact (ha.apart_iff hb).1 hapart name hopena hopenb

/-- Without their line numbers, two texts that open no common section give the
same document in either order. -/
theorem unnumbered_beside_comm (ha : Reads a ra) (hb : Reads b rb)
    (hapart : Reader.Apart ra.settle rb) (offset offset' : Nat) :
    (ra.settle.document.beside (rb.settle.document.shifted offset)).unnumbered =
      (rb.settle.document.beside (ra.settle.document.shifted offset')).unnumbered := by
  have hsettled : Reader.Apart ra.settle rb.settle := by
    intro name hname
    rw [Reader.openedNames_settle] at hname
    exact hapart name hname
  have hempty : ∀ name, ra.settle.document.components name = [] ∨
      rb.settle.document.components name = [] := by
    intro name
    by_cases hname : name ∈ rb.settle.openedNames
    · exact Or.inl (ha.coherent.components (hsettled name hname))
    · exact Or.inr (hb.coherent.components hname)
  have hcomm := Document.beside_comm hempty (ha.coherent.action_none_or hb.coherent hsettled)
  rw [Document.unnumbered_beside, Document.unnumbered_shifted, ← Document.unnumbered_beside, hcomm,
    Document.unnumbered_beside, Document.unnumbered_beside, Document.unnumbered_shifted]

/-- A text that opens no section has no document to speak of. -/
theorem document_eq_empty (ha : Reads a ra) (h : Document.marks a = []) :
    ra.settle.document = {} := by
  have hnames : ra.settle.openedNames = [] := by
    rw [Reader.openedNames, ← ha.marks, h]
    rfl
  have hnone : ra.settle.document.action = none := by
    have htype : .type ∉ ra.settle.openedNames := by simp [hnames]
    rw [← ha.coherent.action] at htype
    simpa using htype
  refine Document.ext_components ?_ (by rw [hnone])
  intro name
  rw [ha.coherent.components (by simp [hnames])]
  cases name <;> rfl

end Reads

/-- Reading is compositional in sections.  Let the first text be empty or end
in a line break, and let the second one start with a section.

If they open no common section, then each section of the whole is that of the
text that opens it, with the components of the second text as many lines
further down as the first text has line breaks.  If they do, the first mark of
the second text that opens a section again is reported.

Hence two such texts that open no common section may change places, and a text
between them that opens no section has no effect, up to the line numbers. -/
theorem Document.parse_append {a b : String} {first second : Document}
    (ha : Document.parse a = .ok first) (hb : Document.parse b = .ok second)
    (hend : a = "" ∨ a.toList.getLast? = some '\n') (hstart : sectionMark <+: b.toList) :
    ((∀ name, Opens a name → ¬ Opens b name) →
      Document.parse (a ++ b) = .ok (ofOpeners a b first (second.shifted (lineBreaks a))) ∧
      (sectionMark <+: a.toList → b.toList.getLast? = some '\n' →
        ∃ whole swapped, Document.parse (a ++ b) = .ok whole ∧
          Document.parse (b ++ a) = .ok swapped ∧ whole.unnumbered = swapped.unnumbered) ∧
      (∀ c empty, Document.parse c = .ok empty → marks c = [] → sectionMark <+: c.toList →
        c.toList.getLast? = some '\n' →
        ∃ whole longer, Document.parse (a ++ b) = .ok whole ∧
          Document.parse (a ++ c ++ b) = .ok longer ∧ whole.unnumbered = longer.unnumbered)) ∧
    (∀ common, Opens a common → Opens b common →
      ∃ name line start, (marks b).find? (fun mark => Opens a mark.1) = some (name, line) ∧
        (marks a).lookup name = some start ∧
        Document.parse (a ++ b) = .error (.duplicateSection (line + lineBreaks a) name start)) := by
  obtain ⟨ra, hra, rfl⟩ := exists_reads ha
  obtain ⟨rb, hrb, rfl⟩ := exists_reads hb
  refine ⟨fun hdisjoint => ?_, ?_⟩
  · have hapart : Reader.Apart ra.settle rb := (hra.apart_iff hrb).2 hdisjoint
    have hwhole : Document.parse (a ++ b) =
        .ok (ra.settle.document.beside (rb.settle.document.shifted (lineBreaks a))) := by
      rw [(hra.append hrb hend hstart hapart).parse, hra.document_append hrb hapart]
    refine ⟨?_, ?_, ?_⟩
    · rw [hwhole, hra.ofOpeners_eq hrb hapart]
    · intro hstarta hendb
      have hapart' := hra.apart_comm hrb hapart
      refine ⟨_, _, hwhole, (hrb.append hra (Or.inr hendb) hstarta hapart').parse, ?_⟩
      rw [hrb.document_append hra hapart']
      exact hra.unnumbered_beside_comm hrb hapart _ _
    · intro c empty hc hmarks hstartc hendc
      obtain ⟨rc, hrc, rfl⟩ := exists_reads hc
      have hnames : rc.openedNames = [] := by
        rw [← Reader.openedNames_settle, Reader.openedNames, ← hrc.marks, hmarks]
        rfl
      have hapartc : Reader.Apart ra.settle rc := by
        intro name hname
        simp [hnames] at hname
      have hac := hra.append hrc hend hstartc hapartc
      have hapartb : Reader.Apart (rc.behind ra.settle (lineBreaks a)).settle rb := by
        intro name hname
        rw [Reader.openedNames_settle, Reader.openedNames_behind, hnames, List.append_nil]
        exact hapart name hname
      have hendac : a ++ c = "" ∨ (a ++ c).toList.getLast? = some '\n' := by
        rw [String.toList_append, List.getLast?_append, hendc]
        exact Or.inr rfl
      refine ⟨_, _, hwhole, (hac.append hrb hendac hstart hapartb).parse, ?_⟩
      have hempty : Document.shifted {} (lineBreaks a) = {} := rfl
      rw [hac.document_append hrb hapartb, hra.document_append hrc hapartc,
        hrc.document_eq_empty hmarks, hempty, Document.beside_empty, unnumbered_beside,
        unnumbered_beside, unnumbered_shifted, unnumbered_shifted]
  · intro common hopena hopenb
    have hnot : ¬ Reader.Apart ra.settle rb := fun h => (hra.apart_iff hrb).1 h common hopena hopenb
    exact hra.append_again hrb hend hstart hnot

/-- A text that opens the variables. -/
def varsText : String := "## vars\n### env[list]\n- a\n"

/-- A text that opens the action. -/
def actionText : String := "## type[http]\n### url\n\x60\x60\x60\n\x7b\x7benv\x7d\x7d\n\x60\x60\x60\n"

/-- A text that opens no section. -/
def notesText : String := "## notes\n- b\n"

/-- The variables before the action, the two the other way round, the two with
notes between them, and the variables twice. -/
theorem parse_append_samples :
    Document.parse (varsText ++ actionText) = .ok
        { vars := [⟨"env", .list, [], [Value.text "a"], 2⟩]
          action := some ⟨"http", [⟨"url", .text, [], [Value.text "\x7b\x7benv\x7d\x7d"], 5⟩]⟩ } ∧
      (∃ whole swapped, Document.parse (varsText ++ actionText) = .ok whole ∧
        Document.parse (actionText ++ varsText) = .ok swapped ∧
        whole.unnumbered = swapped.unnumbered) ∧
      (∃ whole longer, Document.parse (varsText ++ actionText) = .ok whole ∧
        Document.parse (varsText ++ notesText ++ actionText) = .ok longer ∧
        whole.unnumbered = longer.unnumbered) ∧
      Document.parse (varsText ++ varsText) = .error (.duplicateSection 4 .vars 1) := by
  have hvars : Document.parse varsText = .ok
      { vars := [⟨"env", .list, [], [Value.text "a"], 2⟩] } := by rfl
  have haction : Document.parse actionText = .ok
      { action := some ⟨"http", [⟨"url", .text, [], [Value.text "\x7b\x7benv\x7d\x7d"], 2⟩]⟩ } := by rfl
  have hnotes : Document.parse notesText = .ok {} := by rfl
  have happart : ∀ name, Document.Opens varsText name → ¬ Document.Opens actionText name := by
    intro name
    cases name <;> decide
  have hend : varsText = "" ∨ varsText.toList.getLast? = some '\n' := Or.inr (by decide)
  obtain ⟨hwhole, hswap, hinert⟩ :=
    (Document.parse_append hvars haction hend (by decide)).1 happart
  refine ⟨hwhole, hswap (by decide) (by decide), ?_, ?_⟩
  · exact hinert notesText _ hnotes (by decide) (by decide) (by decide)
  · obtain ⟨name, line, start, hfind, hstart, herror⟩ :=
      (Document.parse_append hvars hvars hend (by decide)).2 .vars (by decide) (by decide)
    have hmark : some (SectionName.vars, 1) = some (name, line) := hfind
    obtain ⟨rfl, rfl⟩ := Prod.mk.inj (Option.some.inj hmark)
    have hfirst : some 1 = some start := hstart
    obtain rfl := Option.some.inj hfirst
    exact herror

end CallSheet
