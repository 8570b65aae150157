import CallSheet.Proofs.Files.Walk
import CallSheet.Proofs.Text

/-!
# Paths beneath a directory

Looking up a path that is put together from the path of a directory and names.

There are five groups.

* Texts.  How a path beneath another one is spelled, what its segments are, and
  that its parent is the path without the last name (`parent?_joined`).
* Refusals.  A path can be refused as it is written, whatever files there are; if
  it is not refused, neither is the path without its last names
  (`refusal?_beneath_append`).
* Looking up.  `find_entry_iff` says which paths lead to an entry, and `find_beneath`
  that a look-up beneath a directory is a descent from there, where there are no links.
* Ways beside a place.  `LeadsBeside` says that a path leads to a directory on a way
  that a change at and below a place does not meet.
* What the operations on files need to know of such a path.
-/

namespace CallSheet

open Text

variable {base name : String} {names : List String}

namespace Path

/-- The path that leads from a path along names. -/
def beneath (base : String) (names : List String) : String := names.foldl joined base

theorem beneath_append (base : String) (first second : List String) :
    beneath base (first ++ second) = beneath (beneath base first) second :=
  List.foldl_append

@[simp] theorem toList_joined (base name : String) :
    (joined base name).toList = joinText base.toList name.toList := by
  rw [joined, String.toList_ofList]

/-- A name is put behind a slash. -/
theorem exists_joined_eq (hbase : base ≠ "") (hname : '/' ∉ name.toList) :
    ∃ front, (base.toList = front ∨ base.toList = front ++ ['/']) ∧
      (joined base name).toList = front ++ '/' :: name.toList := by
  have hrelative : isAbsolute name.toList = false := by
    rw [isAbsolute, beq_eq_false_iff_ne]
    exact fun h => hname (List.mem_of_mem_head? h)
  rw [toList_joined, joinText, if_neg (by simp [hrelative])]
  have hne : base.toList ≠ [] := fun h => hbase (String.toList_eq_nil_iff.1 h)
  by_cases hslash : base.toList.getLast? = some '/'
  · obtain ⟨front, hfront⟩ := List.getLast?_eq_some_iff.1 hslash
    refine ⟨front, .inr hfront, ?_⟩
    rw [if_pos (by simp [hslash]), hfront, List.append_assoc]
    rfl
  · exact ⟨base.toList, .inl rfl, by rw [if_neg (by simp [hne, hslash])]⟩

end Path

namespace Files

/-! ## Segments -/

theorem segmentsOf_append_slash {front : List Char} (hfront : front ≠ []) (rest : List Char) :
    segmentsOf (front ++ '/' :: rest) =
      segmentsOf front ++ (splitOn '/' rest).map String.ofList := by
  cases front with
  | nil => exact absurd rfl hfront
  | cons c front =>
    by_cases hc : c = '/'
    · subst hc
      simp [segmentsOf, splitOn_append_cons]
    · have habs : ∀ tail, segmentsOf (c :: tail) = (splitOn '/' (c :: tail)).map String.ofList := by
        intro tail
        unfold segmentsOf
        split
        · next heq => exact absurd (List.cons.inj heq).1 hc
        · rfl
      rw [List.cons_append, habs, habs, ← List.cons_append, splitOn_append_cons, List.map_append]

theorem segmentsOf_ne_nil (path : List Char) : segmentsOf path ≠ [] := by
  unfold segmentsOf
  split <;> simpa using splitOn_ne_nil _ _

theorem splitOn_name (hname : IsName name) :
    (splitOn '/' name.toList).map String.ofList = [name] := by
  rw [splitOn_eq_singleton hname.no_slash]
  simp

/-- A path beneath another one has the segments of that one, without the empty
one after a slash at its end, and then the names. -/
theorem segmentsOf_joined (hbase : base ≠ "") (hname : IsName name) :
    ∃ front, (segmentsOf base.toList = front ∨ segmentsOf base.toList = front ++ [""]) ∧
      segmentsOf (Path.joined base name).toList = front ++ [name] := by
  obtain ⟨front, hfront, hjoined⟩ := Path.exists_joined_eq hbase hname.no_slash
  rw [hjoined]
  by_cases hempty : front = []
  · subst hempty
    refine ⟨[], .inr ?_, ?_⟩
    · rcases hfront with hfront | hfront
      · exact absurd (String.toList_eq_nil_iff.1 hfront) hbase
      · rw [hfront]
        rfl
    · simpa [segmentsOf] using splitOn_name hname
  · refine ⟨segmentsOf front, ?_, by rw [segmentsOf_append_slash hempty, splitOn_name hname]⟩
    rcases hfront with hfront | hfront
    · exact .inl (by rw [hfront])
    · right
      rw [hfront, segmentsOf_append_slash hempty]
      rfl

theorem joined_ne_empty (hbase : base ≠ "") (hname : IsName name) : Path.joined base name ≠ "" := by
  obtain ⟨front, -, hjoined⟩ := Path.exists_joined_eq hbase hname.no_slash
  intro h
  simp [h] at hjoined

theorem beneath_ne_empty (hbase : base ≠ "") (hnames : ∀ name ∈ names, IsName name) :
    Path.beneath base names ≠ "" := by
  induction names generalizing base with
  | nil => exact hbase
  | cons name names ih =>
    exact ih (joined_ne_empty hbase (hnames name List.mem_cons_self))
      fun name h => hnames name (List.mem_cons_of_mem _ h)

theorem segmentsOf_beneath (hbase : base ≠ "") (hne : names ≠ [])
    (hnames : ∀ name ∈ names, IsName name) :
    ∃ front, (segmentsOf base.toList = front ∨ segmentsOf base.toList = front ++ [""]) ∧
      segmentsOf (Path.beneath base names).toList = front ++ names := by
  induction names using List.reverseRecOn with
  | nil => exact absurd rfl hne
  | append_singleton names name ih =>
    have hinit : ∀ name ∈ names, IsName name := fun name h => hnames name (by simp [h])
    have hname := hnames name (by simp)
    by_cases hempty : names = []
    · subst hempty
      exact segmentsOf_joined hbase hname
    obtain ⟨front, hfront, hsegments⟩ := ih hempty hinit
    obtain ⟨front', hfront', hsegments'⟩ := segmentsOf_joined (beneath_ne_empty hbase hinit) hname
    refine ⟨front, hfront, ?_⟩
    rw [Path.beneath_append]
    change segmentsOf (Path.joined (Path.beneath base names) name).toList = _
    rw [hsegments', ← List.append_assoc, ← hsegments]
    rcases hfront' with hfront' | hfront'
    · rw [hfront']
    · -- The last segment would be empty, but it is the last one of the names.
      rw [hsegments] at hfront'
      have hlast := congrArg List.getLast? hfront'
      rw [List.getLast?_append_of_ne_nil _ hempty, List.getLast?_concat] at hlast
      exact absurd (.inl rfl) (hinit "" (List.mem_of_getLast? hlast)).not_hollow

/-! ## Refusals -/

/-- Why a path is refused as it is written. -/
def refusal? (path : String) : Option Fault :=
  if path.toList.contains '\x00' then some .nulInName
  else if path.toList.isEmpty then some .missing
  else if longestPath < width path then some .tooLong
  else none

/-- Where the walk along a path starts. -/
def start (files : Files) (path : String) : Place :=
  if Path.isAbsolute path.toList then [] else files.here

theorem find_eq (files : Files) (follow : Bool) (path : String) :
    files.find follow path =
      match refusal? path with
      | some fault => .error fault
      | none => files.walk follow mostLinks (files.start path) (segmentsOf path.toList) := by
  simp only [find, refusal?, start]
  split_ifs <;> rfl

theorem refusal?_ne_missing {path : String} (hne : path ≠ "") : refusal? path ≠ some .missing := by
  have hempty : ¬ path.toList.isEmpty = true := fun h =>
    hne (String.toList_eq_nil_iff.1 (List.isEmpty_iff.1 h))
  unfold refusal?
  split_ifs <;> simp [Fault.tooLong, Fault.missing]

theorem find_of_refused {path : String} {fault : Fault} (h : refusal? path = some fault)
    (files : Files) (follow : Bool) : files.find follow path = .error fault := by
  rw [find_eq, h]

theorem width_le_of_prefix {short long : String} (h : short.toList <+: long.toList) :
    width short ≤ width long := by
  obtain ⟨rest, hrest⟩ := h
  rw [width, width, ← hrest, Utf8.encode, Utf8.encode, List.flatMap_append, List.length_append]
  exact Nat.le_add_right _ _

theorem refusal?_of_prefix {short long : String} (hne : short ≠ "")
    (h : short.toList <+: long.toList) (hlong : refusal? long = none) : refusal? short = none := by
  have hwidth := width_le_of_prefix h
  unfold refusal? at hlong ⊢
  split_ifs at hlong with hnul hempty hwide
  have hnul' : ¬ short.toList.contains '\x00' = true := by
    rw [List.contains_iff_mem] at hnul ⊢
    exact fun hc => hnul (h.subset hc)
  have hempty' : ¬ short.toList.isEmpty = true := fun hc =>
    hne (String.toList_eq_nil_iff.1 (List.isEmpty_iff.1 hc))
  rw [if_neg hnul', if_neg hempty', if_neg (by omega)]

theorem prefix_joined (hbase : base ≠ "") (hname : IsName name) :
    base.toList <+: (Path.joined base name).toList := by
  obtain ⟨front, hfront, hjoined⟩ := Path.exists_joined_eq hbase hname.no_slash
  rw [hjoined]
  rcases hfront with hfront | hfront
  · rw [hfront]
    exact List.prefix_append _ _
  · rw [hfront]
    exact ⟨name.toList, by simp⟩

/-- A path with a name behind one that is not refused can only be too long. -/
theorem refusal?_joined (hbase : refusal? base = none) (hname : IsName name)
    (hnul : '\x00' ∉ name.toList) :
    refusal? (Path.joined base name) =
      if longestPath < width (Path.joined base name) then some .tooLong else none := by
  have hempty : base ≠ "" := by
    rintro rfl
    simp [refusal?] at hbase
  have hbaseNul : '\x00' ∉ base.toList := by
    intro hmem
    rw [refusal?, if_pos (List.contains_iff_mem.2 hmem)] at hbase
    cases hbase
  obtain ⟨front, hfront, hjoined⟩ := Path.exists_joined_eq hempty hname.no_slash
  have hfrontNul : '\x00' ∉ front := by
    rcases hfront with hfront | hfront
    · exact hfront ▸ hbaseNul
    · exact fun hmem => hbaseNul (hfront ▸ List.mem_append_left _ hmem)
  have hjoinedNul : ¬ (Path.joined base name).toList.contains '\x00' = true := by
    rw [hjoined, List.contains_iff_mem, List.mem_append, List.mem_cons]
    rintro (hmem | hmem | hmem)
    · exact hfrontNul hmem
    · exact absurd hmem (by decide)
    · exact hnul hmem
  rw [refusal?, if_neg hjoinedNul, if_neg (by simp [hjoined])]

theorem prefix_beneath (hbase : base ≠ "") (hnames : ∀ name ∈ names, IsName name) :
    base.toList <+: (Path.beneath base names).toList := by
  induction names generalizing base with
  | nil => exact List.prefix_rfl
  | cons name names ih =>
    have hname := hnames name List.mem_cons_self
    have hrest : ∀ name ∈ names, IsName name := fun name h => hnames name (List.mem_cons_of_mem _ h)
    exact (prefix_joined hbase hname).trans (ih (joined_ne_empty hbase hname) hrest)

/-- If a path is not refused, neither is the path without its last names. -/
theorem refusal?_beneath_append {first second : List String} (hbase : base ≠ "")
    (hnames : ∀ name ∈ first ++ second, IsName name)
    (h : refusal? (Path.beneath base (first ++ second)) = none) :
    refusal? (Path.beneath base first) = none := by
  have hfirst : ∀ name ∈ first, IsName name := fun name h => hnames name (by simp [h])
  have hne := beneath_ne_empty hbase hfirst
  rw [Path.beneath_append] at h
  exact refusal?_of_prefix hne (prefix_beneath hne fun name h => hnames name (by simp [h])) h

/-! ## Looking up -/

variable {files : Files} {place : Place}

/-- A path leads to an entry if it is not refused and there is a way along its segments. -/
theorem find_entry_iff {path : String} {entry : Entry} :
    files.find true path = .ok (.entry place entry) ↔
      refusal? path = none ∧
        files.Way mostLinks (files.start path) (segmentsOf path.toList) place entry := by
  rw [find_eq]
  cases refusal? path with
  | some fault => simp
  | none => simp [walk_eq_entry_iff]

/-- A path leads to where an entry is missing if it is not refused and the walk along its
segments does. -/
theorem find_vacant_iff {path : String} :
    files.find true path = .ok (.vacant place name) ↔
      refusal? path = none ∧
        files.walk true mostLinks (files.start path) (segmentsOf path.toList) =
          .ok (.vacant place name) := by
  rw [find_eq]
  cases refusal? path <;> simp

theorem entryAt?_of_find {path : String} {entry : Entry}
    (h : files.find true path = .ok (.entry place entry)) : files.entryAt? place = some entry := by
  obtain ⟨-, hway⟩ := find_entry_iff.1 h
  exact hway.entryAt?_eq

theorem start_beneath (hbase : base ≠ "") (hnames : ∀ name ∈ names, IsName name) :
    files.start (Path.beneath base names) = files.start base := by
  obtain ⟨rest, hrest⟩ := prefix_beneath hbase hnames
  have hne : base.toList ≠ [] := fun h => hbase (String.toList_eq_nil_iff.1 h)
  rw [start, start, ← hrest, Path.isAbsolute, Path.isAbsolute, List.head?_append_of_ne_nil _ hne]

theorem ne_empty_of_find {follow : Bool} {found : Found} (h : files.find follow base = .ok found) :
    base ≠ "" := by
  rintro rfl
  simp [find] at h

/-- A look-up beneath a directory goes on from there. -/
theorem exists_find_beneath (hbase : files.find true base = .ok (.entry place .directory))
    (hne : names ≠ []) (hnames : ∀ name ∈ names, IsName name) :
    ∃ links, ∀ follow, files.find follow (Path.beneath base names) =
      match refusal? (Path.beneath base names) with
      | some fault => .error fault
      | none => files.walk follow links place names := by
  have hempty := ne_empty_of_find hbase
  obtain ⟨front, hfront, hsegments⟩ := segmentsOf_beneath hempty hne hnames
  obtain ⟨-, hbase⟩ := find_entry_iff.1 hbase
  have hway : files.Way mostLinks (files.start base) front place .directory := by
    rcases hfront with hfront | hfront
    · rwa [hfront] at hbase
    · obtain ⟨left, middle, hway, hlast⟩ := hbase.cut hfront (by simp)
      rwa [hlast.eq_of_hollow (.inl rfl)]
  obtain ⟨left, hwalk⟩ := hway.walk_append
  refine ⟨left, fun follow => ?_⟩
  rw [find_eq, start_beneath hempty hnames, hsegments, hwalk follow names hne]

/-- A look-up beneath a directory is a descent from there, where there are no
links. -/
theorem find_beneath (hbase : files.find true base = .ok (.entry place .directory))
    (hne : names ≠ []) (hnames : ∀ name ∈ names, IsName name)
    (hlinks : ∀ below, below <+: names → below ≠ [] →
      ∀ target, files.entryAt? (place ++ below) ≠ some (.link target)) (follow : Bool) :
    files.find follow (Path.beneath base names) =
      match refusal? (Path.beneath base names) with
      | some fault => .error fault
      | none => files.descend place names := by
  obtain ⟨links, hfind⟩ := exists_find_beneath hbase hne hnames
  rw [hfind, walk_eq_descend hnames hlinks]

/-- A single point leads to where one is. -/
theorem find_point (h : files.entryAt? files.here = some .directory) (follow : Bool) :
    files.find follow "." = .ok (.entry files.here .directory) := by
  simp [find, longestPath, width, Utf8.encode, Utf8.encodeChar, Path.isAbsolute, segmentsOf,
    splitOn, walk_eq, walkWith, isDirectoryAt, h]

/-! ## Ways beside a place -/

/-- A path leads to a directory on a way that does not meet a place. -/
def LeadsBeside (files : Files) (off : Place) (path : String) (home : Place) : Prop :=
  (files.without off).find true path = .ok (.entry home .directory)

theorem find_mono {before after : Files} {path : String} {entry : Entry}
    (h : before.Within after) (hstart : after.start path = before.start path)
    (hfind : before.find true path = .ok (.entry place entry)) :
    after.find true path = .ok (.entry place entry) := by
  obtain ⟨haccepted, hway⟩ := find_entry_iff.1 hfind
  rw [find_entry_iff, hstart]
  exact ⟨haccepted, hway.mono h⟩

/-- A path to a directory leads there also where only files change. -/
theorem find_frame {before after : Files} {path : String} (h : before.FrameWithin after)
    (hhere : after.here = before.here)
    (hfind : before.find true path = .ok (.entry place .directory)) :
    after.find true path = .ok (.entry place .directory) := by
  obtain ⟨haccepted, hway⟩ := find_entry_iff.1 hfind
  rw [find_entry_iff, start, hhere]
  exact ⟨haccepted, hway.frame h⟩

variable {off off' home old new : Place} {path : String}

theorem LeadsBeside.mono {before after : Files} (h : before.LeadsBeside off path home)
    (hwithin : (before.without off).Within (after.without off'))
    (hstart : after.start path = before.start path) : after.LeadsBeside off' path home :=
  find_mono hwithin hstart h

theorem LeadsBeside.find (h : files.LeadsBeside off path home) (hoff : off ≠ []) :
    files.find true path = .ok (.entry home .directory) :=
  find_mono (within_of_without hoff files) rfl h

/-- What is moved is not where the way starts. -/
theorem LeadsBeside.start_moveAt (h : files.LeadsBeside off path home) (hne : off ≠ [])
    (hoff : off <+: old) (new : Place) : (files.moveAt old new).start path = files.start path := by
  rw [start, start]
  split
  · rfl
  · next hrelative =>
    obtain ⟨-, hway⟩ := find_entry_iff.1 h
    have hdir := hway.directory (segmentsOf_ne_nil _)
    rw [start, if_neg hrelative, here_without, entryAt?_without hne] at hdir
    split at hdir
    · cases hdir
    · next hhere => exact movedPlace_of_not_below fun hp => hhere (hoff.trans hp)

/-- A change of what is at and below a place: nothing else changes, and no way beside
the place either. -/
structure Confined (off : Place) (before after : Files) : Prop where
  agrees : AgreesOff off before after
  leads : ∀ path home, before.LeadsBeside off path home → after.LeadsBeside off path home

theorem Confined.refl (off : Place) (files : Files) : Confined off files files :=
  ⟨AgreesOff.refl off files, fun _ _ h => h⟩

theorem Confined.trans {first second third : Files} (h : Confined off first second)
    (h' : Confined off second third) : Confined off first third :=
  ⟨h.agrees.trans h'.agrees, fun path home hleads => h'.leads path home (h.leads path home hleads)⟩

theorem confined_put (hne : off ≠ []) (h : off <+: place) (files : Files) (entry : Entry) :
    Confined off files (files.put place entry) :=
  have hagrees := agreesOff_put hne h files entry
  ⟨hagrees, fun _ _ hleads =>
    hleads.mono (hagrees.within_without hne) (by rw [start, start, here_put])⟩

theorem confined_moveAt (hne : off ≠ []) (hold : off <+: old) (hnew : files.Vacant new)
    (hoff : off <+: new) : Confined off files (files.moveAt old new) :=
  have hagrees := agreesOff_moveAt hne hold hnew hoff
  ⟨hagrees, fun _ _ hleads =>
    hleads.mono (hagrees.within_without hne) (hleads.start_moveAt hne hold new)⟩

/-! ## The end of a path -/

theorem IsName.toList_ne_nil (h : IsName name) : name.toList ≠ [] := fun hnil =>
  h.not_hollow (.inl (String.toList_eq_nil_iff.1 hnil))

/-- A path that ends in a name does not end in a slash. -/
theorem getLast?_joined (hbase : base ≠ "") (hname : IsName name) :
    ∃ c, c ≠ '/' ∧ (Path.joined base name).toList.getLast? = some c := by
  obtain ⟨front, -, hjoined⟩ := Path.exists_joined_eq hbase hname.no_slash
  obtain ⟨init, c, hc⟩ : ∃ init c, name.toList = init ++ [c] :=
    ⟨_, _, (List.dropLast_append_getLast hname.toList_ne_nil).symm⟩
  refine ⟨c, ?_, ?_⟩
  · rintro rfl
    exact hname.no_slash (by simp [hc])
  · rw [hjoined, hc, ← List.cons_append, ← List.append_assoc, List.getLast?_concat]

theorem endsInSlash_joined (hbase : base ≠ "") (hname : IsName name) :
    endsInSlash (Path.joined base name) = false := by
  obtain ⟨c, hc, hlast⟩ := getLast?_joined hbase hname
  rw [endsInSlash, hlast]
  simpa using hc

theorem withoutSlashes_joined (hbase : base ≠ "") (hname : IsName name) :
    withoutSlashes (Path.joined base name) = Path.joined base name := by
  obtain ⟨c, hc, hlast⟩ := getLast?_joined hbase hname
  obtain ⟨init, hinit⟩ := List.getLast?_eq_some_iff.1 hlast
  have hkept : (((Path.joined base name).toList.reverse.dropWhile (· == '/')).reverse) =
      (Path.joined base name).toList := by
    rw [hinit, List.reverse_append, List.reverse_singleton, List.singleton_append,
      List.dropWhile_cons_of_neg (by simpa using hc), List.reverse_cons, List.reverse_reverse]
  simp only [withoutSlashes, hkept]
  rw [if_neg (by simp [hinit]), String.ofList_toList]

theorem endsInPoints_joined (hbase : base ≠ "") (hname : IsName name) :
    endsInPoints (Path.joined base name) = false := by
  obtain ⟨front, -, hsegments⟩ := segmentsOf_joined hbase hname
  have hlast : (segmentsOf (withoutSlashes (Path.joined base name)).toList).getLast? =
      some name := by
    rw [withoutSlashes_joined hbase hname, hsegments, List.getLast?_concat]
  delta endsInPoints
  rw [hlast]
  simp only [Bool.or_eq_false_iff, beq_eq_false_iff_ne, ne_eq]
  exact ⟨⟨fun h => hname.not_hollow (.inr h), hname.ne_up⟩, fun h => hname.not_hollow (.inl h)⟩

end Files

namespace Path

open Files (IsName)

theorem isReal_of_isName (h : IsName name) : isReal name.toList = true := by
  have hpoint : name.toList ≠ ['.'] := fun hp => h.not_hollow (.inr (String.toList_inj.1 hp))
  simp [isReal, h.toList_ne_nil, hpoint]

theorem dropHollow_concat {segment : List Char} (h : isReal segment = true)
    (segments : List (List Char)) : dropHollow (segments ++ [segment]) = segments ++ [segment] := by
  simp [dropHollow, h]

theorem ofText_plain {text : List Char} (hroot : ¬ ['/'] <+: text) (hpoint : text ≠ ['.'])
    (hhere : ¬ ['.', '/'] <+: text) : ofText text = ⟨.none, splitOn '/' text⟩ := by
  unfold ofText
  split
  · exact absurd ⟨_, rfl⟩ hroot
  · exact absurd rfl hpoint
  · exact absurd ⟨_, rfl⟩ hhere
  · rfl

/-- A last segment behind a slash is one more segment. -/
theorem ofText_append_slash {text last : List Char} (hne : text ≠ []) (hpoint : text ≠ ['.'])
    (hlast : '/' ∉ last) :
    ofText (text ++ '/' :: last) = ⟨(ofText text).head, (ofText text).segments ++ [last]⟩ := by
  by_cases hroot : ['/'] <+: text
  · obtain ⟨rest, rfl⟩ := hroot
    simp [ofText, splitOn_append_cons, splitOn_eq_singleton hlast]
  by_cases hhere : ['.', '/'] <+: text
  · obtain ⟨rest, rfl⟩ := hhere
    simp [ofText, splitOn_append_cons, splitOn_eq_singleton hlast]
  rw [ofText_plain hroot hpoint hhere, ofText_plain, splitOn_append_cons,
    splitOn_eq_singleton hlast]
  · cases text with
    | nil => exact absurd rfl hne
    | cons c rest => simpa using hroot
  · cases text with
    | nil => exact absurd rfl hne
    | cons c rest => simp
  · match text, hne with
    | [c], _ => simpa [eq_comm] using hpoint
    | c :: c' :: rest, _ => simpa using hhere

theorem exists_segments_eq (front : List Char) {last : List Char} (hlast : '/' ∉ last) :
    ∃ segments, (ofText (front ++ '/' :: last)).segments = segments ++ [last] := by
  by_cases hne : front = []
  · subst hne
    exact ⟨[], by simp [ofText, splitOn_eq_singleton hlast]⟩
  by_cases hpoint : front = ['.']
  · subst hpoint
    exact ⟨[], by simp [ofText, splitOn_eq_singleton hlast]⟩
  · exact ⟨_, by rw [ofText_append_slash hne hpoint hlast]⟩

/-- The parent of a path that ends in two names is the path without the last
name. -/
theorem parent?_joined {next : String} (hbase : base ≠ "") (hname : IsName name)
    (hnext : IsName next) :
    (ofString (joined (joined base name) next)).parent? = some (ofString (joined base name)) := by
  have hne := Files.joined_ne_empty hbase hname
  obtain ⟨front, -, hfront⟩ := exists_joined_eq hbase hname.no_slash
  obtain ⟨front', hfront', hjoined⟩ := exists_joined_eq hne hnext.no_slash
  have hsame : (joined base name).toList = front' := by
    rcases hfront' with h | h
    · exact h
    · obtain ⟨c, hc, hlast⟩ := Files.getLast?_joined hbase hname
      rw [h, List.getLast?_concat] at hlast
      exact absurd (Option.some.inj hlast).symm hc
  obtain ⟨segments, hsegments⟩ := exists_segments_eq front hname.no_slash
  rw [← hfront] at hsegments
  have hpoint : (joined base name).toList ≠ ['.'] := by
    rw [hfront]
    intro h
    have := congrArg List.length h
    have := List.length_pos_iff.2 hname.toList_ne_nil
    simp at *
    omega
  rw [ofString, hjoined, ← hsame,
    ofText_append_slash (mt String.toList_eq_nil_iff.1 hne) hpoint hnext.no_slash,
    parent?, dropHollow_concat (isReal_of_isName hnext)]
  split
  · next h => simp at h
  · rw [List.dropLast_concat, hsegments, dropHollow_concat (isReal_of_isName hname), ← hsegments]
    rfl

/-! ## Segments and names -/

theorem slash_not_mem_segment {path : String} {segment : List Char}
    (h : segment ∈ (ofString path).segments) : '/' ∉ segment := by
  rw [ofString] at h
  unfold ofText at h
  split at h
  · exact not_mem_of_mem_splitOn h
  · exact absurd h List.not_mem_nil
  · exact not_mem_of_mem_splitOn h
  · exact not_mem_of_mem_splitOn h

theorem mem_segments_of_name? {path : Path} {last : List Char} (h : path.name? = some last) :
    last ∈ path.segments := by
  rw [name?] at h
  split at h
  · next name hname =>
    split at h
    · cases h
    · obtain rfl := Option.some.inj h
      have hmem := List.mem_of_getLast? hname
      rw [dropHollow, List.mem_reverse] at hmem
      exact List.mem_reverse.1 ((List.dropWhile_suffix _).subset hmem)
  · cases h

/-- A name without its extension is the start of the name. -/
theorem stemOf_prefix (name : List Char) : stemOf name <+: name := by
  unfold stemOf
  split
  · exact List.prefix_rfl
  · refine (List.dropLast_prefix _).trans ?_
    rw [← List.reverse_suffix, List.reverse_reverse]
    exact List.dropWhile_suffix _

end Path

end CallSheet
