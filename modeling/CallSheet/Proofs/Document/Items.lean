import CallSheet.Proofs.Document.Expansion
import CallSheet.Proofs.Text.Utf8

/-!
# Items in files

Reading the items of a list from a file undoes writing them to it, one item to a line.

There are three groups.

* Writing.  `FileList.Writable` are the items that a file can hold, and `FileList.Writes`
  relates items to the texts that they can be written as.
* Reading.  `items?_of_writes` reads the items back from each of these texts, and
  `read_eq_empty_iff` says which texts have no items.
* The whole.  `expand_written` says this about a component whose contents are in the file.
-/

namespace CallSheet

open Text

namespace FileList

variable {files : Files} {base path : String} {component : Component} {items : List String}
  {text : List Char}

/-! ## Writing -/

/-- Items that can be written to a file, one to a line. -/
structure Writable (items : List String) : Prop where
  /-- An item is on one line. -/
  line : ∀ item ∈ items, '\n' ∉ item.toList
  /-- It cannot be told from a line ending if it ends like one. -/
  ending : ∀ item ∈ items, item.toList.getLast? ≠ some '\r'
  /-- The first item starts with something else than a blank. -/
  starts : ∃ first rest c, items = first :: rest ∧ first.toList.head? = some c ∧
    isBlank c = false
  /-- The last item ends with something else than a blank. -/
  ends : ∃ last c, items.getLast? = some last ∧ last.toList.getLast? = some c ∧
    isBlank c = false

/-- Items are written to a text, with one of the two line endings after each but the last,
and with blanks before and after them. -/
inductive Writes (items : List String) : List Char → Prop where
  | intro {before body after : List Char} (hbefore : ∀ c ∈ before, isBlank c = true)
      (hbody : Separated (items.map String.toList) body)
      (hafter : ∀ c ∈ after, isBlank c = true) : Writes items (before ++ (body ++ after))

/-! ## Reading -/

/-- What stands between the first and the last item is not changed by trimming. -/
theorem trim_of_writes {before body after : List Char} (h : Writable items)
    (hbefore : ∀ c ∈ before, isBlank c = true)
    (hbody : Separated (items.map String.toList) body)
    (hafter : ∀ c ∈ after, isBlank c = true) : trim (before ++ (body ++ after)) = body := by
  obtain ⟨first, rest, c, rfl, hc, hcBlank⟩ := h.starts
  obtain ⟨last, d, hlast, hd, hdBlank⟩ := h.ends
  have hhead : body.head? = some c := by
    rw [List.map_cons] at hbody
    obtain ⟨tail, rfl⟩ := hbody.starts
    rw [List.head?_append, hc]
    rfl
  have hend : body.getLast? = some d := by
    have hlast' : ((first :: rest).map String.toList).getLast? = some last.toList := by
      rw [List.getLast?_map, hlast]
      rfl
    obtain ⟨init, rfl⟩ := hbody.ends hlast'
    rw [List.getLast?_append, hd]
    rfl
  have hne : body ≠ [] := by
    rintro rfl
    cases hhead
  apply trim_padded hbefore hafter hne
  · simpa [hhead] using hcBlank
  · simpa [hend] using hdBlank

/-- The items that were written are read back. -/
theorem items?_of_writes (h : Writable items) (hwrites : Writes items text) :
    items? text = some (items.map String.toList) := by
  obtain ⟨hbefore, hbody, hafter⟩ := hwrites
  obtain ⟨first, rest, c, rfl, hc, hcBlank⟩ := h.starts
  rw [items?_eq_some_iff, trim_of_writes h hbefore hbody hafter]
  constructor
  · rw [List.map_cons] at hbody
    have hmem : c ∈ first.toList := List.mem_of_mem_head? hc
    exact ⟨c, by simp [hbody.starts.subset hmem], hcBlank⟩
  · apply Eq.symm
    apply lines_of_separated hbody
    · simpa using h.line
    · simpa using h.ending

/-- A file that items were written to is read as these items. -/
theorem read_of_writes (h : Writable items) (hwrites : Writes items text)
    (hfile : files.read path = .ok (Utf8.encode text)) : read files path = .ok items := by
  have htext : files.readText path = .ok (String.ofList text) := by
    simp only [Files.readText, hfile, Utf8.decode_encode]
  have hitems : (items.map String.toList).map String.ofList = items := by
    simp [Function.comp_def]
  simp only [read, htext, String.toList_ofList, items?_of_writes h hwrites, hitems]

theorem items?_eq_none_iff : items? text = none ↔ ∀ c ∈ text, isBlank c = true := by
  rw [items?]
  split
  · next hempty => simpa [trim_eq_nil_iff] using hempty
  · next hne => simpa [trim_eq_nil_iff] using hne

/-- A file has no items exactly if there are only blanks in it. -/
theorem read_eq_empty_iff {content : String} (h : files.readText path = .ok content) :
    read files path = .error (.empty path) ↔ ∀ c ∈ content.toList, isBlank c = true := by
  rw [← items?_eq_none_iff, read, h]
  cases hitems : items? content.toList with
  | none => simp [hitems]
  | some found => simp [hitems]

/-- A file in which there is more than blanks has items. -/
theorem exists_read {content : String} (h : files.readText path = .ok content)
    (hsome : ∃ c ∈ content.toList, isBlank c = false) :
    ∃ items, read files path = .ok items ∧ items ≠ [] := by
  refine ⟨_, read_eq_ok_iff.2 ⟨content, h, hsome, rfl⟩, ?_⟩
  rw [ne_eq, List.map_eq_nil_iff]
  exact lines_ne_nil _

/-! ## The whole -/

/-- The path of the file that holds the contents of a component. -/
inductive Located (base : String) (component : Component) : String → Prop where
  | relative (h : component.kind = .fileList) :
      Located base component (Path.joined base component.firstContent)
  | absolute (h : component.kind = .absFileList) :
      Located base component component.firstContent

/-- A component becomes the list of the items in its file. -/
theorem expand_located (h : Located base component path) :
    expand files base [component] = (read files path).map fun items =>
      [{ component with kind := .list, values := items.map Value.text }] := by
  have hsource : source? base component = some path := by
    cases h with
    | relative h => simp only [source?, h]
    | absolute h => simp only [source?, h]
  simp only [expand, expandOne, hsource]
  cases read files path with
  | error error => rfl
  | ok items => rfl

/-- **Reading a list undoes writing it.**  A component whose file holds some items, one to a
line, with any of the line endings between them and any blanks around them, becomes the list
of exactly these items.  A file with nothing but blanks in it is found to be empty, and every
other one has items. -/
theorem expand_written (files : Files) (base path : String) (component : Component)
    (hpath : Located base component path) :
    (∀ items text, Writable items → Writes items text →
      files.read path = .ok (Utf8.encode text) →
        expand files base [component] =
          .ok [{ component with kind := .list, values := items.map Value.text }]) ∧
    ∀ content, files.readText path = .ok content →
      (expand files base [component] = .error (.empty path) ↔
        ∀ c ∈ content.toList, isBlank c = true) ∧
      ((∃ c ∈ content.toList, isBlank c = false) → ∃ values, values ≠ [] ∧
        expand files base [component] =
          .ok [{ component with kind := .list, values := values }]) := by
  rw [expand_located hpath]
  constructor
  · intro items text hwritable hwrites hfile
    rw [read_of_writes hwritable hwrites hfile]
    rfl
  · intro content hcontent
    constructor
    · rw [← read_eq_empty_iff hcontent]
      cases read files path with
      | error error => simp [Except.map]
      | ok items => simp [Except.map]
    · intro hsome
      obtain ⟨items, hread, hne⟩ := exists_read hcontent hsome
      refine ⟨items.map Value.text, by simpa using hne, ?_⟩
      rw [hread]
      rfl

/-! ### A list with an empty item and one between blanks -/

/-- The items. -/
def paddedItems : List String := ["a", "", " b\t", "c d"]

/-- A text that they are written in, with both line endings. -/
def paddedText : List Char :=
  "\n\u3000".toList ++ ("a\r\n\n b\t\r\nc d".toList ++ " \r\n".toList)

/-- A file with this text, and one with blanks alone. -/
def paddedFiles : Files :=
  ⟨[(["in"], .directory), (["in", "hosts"], .file (Utf8.encode paddedText)),
    (["blank"], .file (Utf8.encode "\n\u2003 ".toList))], []⟩

theorem writable_paddedItems : Writable paddedItems where
  line := by decide
  ending := by decide
  starts := ⟨"a", ["", " b\t", "c d"], 'a', rfl, by decide, by decide⟩
  ends := ⟨"c d", 'd', by decide, by decide, by decide⟩

theorem writes_paddedText : Writes paddedItems paddedText := by
  have hbody : "a\r\n\n b\t\r\nc d".toList =
      "a".toList ++ '\r' :: '\n' :: ("".toList ++ '\n' :: (" b\t".toList ++
        '\r' :: '\n' :: "c d".toList)) := by decide +kernel
  have hbefore : "\n\u3000".toList.all isBlank = true := by decide
  have hafter : " \r\n".toList.all isBlank = true := by decide
  refine .intro (List.all_eq_true.1 hbefore) ?_ (List.all_eq_true.1 hafter)
  rw [hbody]
  exact .crlf (.lf (.crlf (.last _)))

/-- The items are read back as they were written, and the blank file is found to be empty. -/
theorem expand_written_padded :
    Writable paddedItems ∧ Writes paddedItems paddedText ∧
      paddedFiles.read "in/hosts" = .ok (Utf8.encode paddedText) ∧
      expand paddedFiles "in" [⟨"host", .fileList, ["upper"], [.text "hosts"], 2⟩] =
        .ok [⟨"host", .list, ["upper"], [.text "a", .text "", .text " b\t", .text "c d"], 2⟩] ∧
      paddedFiles.readText "/blank" = .ok "\n\u2003 " ∧
      expand paddedFiles "in" [⟨"user", .absFileList, [], [.text "/blank"], 7⟩] =
        .error (.empty "/blank") := by
  have hpath : Path.joined "in" "hosts" = "in/hosts" := by decide +kernel
  have hhosts : paddedFiles.read "in/hosts" = .ok (Utf8.encode paddedText) := by decide +kernel
  have hblank : paddedFiles.readText "/blank" = .ok "\n\u2003 " := by decide +kernel
  refine ⟨writable_paddedItems, writes_paddedText, hhosts, ?_, hblank, ?_⟩
  · obtain ⟨hwritten, -⟩ := expand_written paddedFiles "in" "in/hosts"
      ⟨"host", .fileList, ["upper"], [.text "hosts"], 2⟩ (hpath ▸ .relative rfl)
    exact hwritten paddedItems paddedText writable_paddedItems writes_paddedText hhosts
  · obtain ⟨-, hread⟩ := expand_written paddedFiles "in" "/blank"
      ⟨"user", .absFileList, [], [.text "/blank"], 7⟩ (.absolute rfl)
    have hblanks : "\n\u2003 ".toList.all isBlank = true := by decide
    obtain ⟨hempty, -⟩ := hread _ hblank
    exact hempty.2 (List.all_eq_true.1 hblanks)

end FileList

end CallSheet
