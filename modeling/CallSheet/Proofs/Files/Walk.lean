import CallSheet.Proofs.Files.Entries

/-!
# Walking

What a walk comes to, and what it depends on.

There are three groups.

* Steps.  One equation for each thing that a walk can do with a name.
* Ways.  `Way` is the walk to an entry as a relation, one constructor for each
  step (`walk_eq_entry_iff`).  A way stays where files are added (`Way.mono`), a way
  to a directory or a file also where they change (`Way.frame`, `Way.file_frame`), and
  it can be gone on with and cut (`Way.walk_append`, `Way.cut`).  It has one end
  (`Way.unique`).
* Plain names.  `IsName` are the names that a walk takes as they are.  Where there
  are no links, a walk along such names is `descend`, which is recursive in them.
-/

namespace CallSheet.Files

variable {files before after : Files} {follow : Bool} {links : Nat} {place found : Place}
  {name target : String} {names first rest : List String} {entry known : Entry}
  {jump : Place → List String → Except Fault Found}

/-! ## Steps -/

/-- Where a walk goes on from a link that is to be followed. -/
def beyond (files : Files) (follow : Bool) : Nat → Place → List String → Except Fault Found
  | 0 => fun _ _ => .error .tooManyLinks
  | links + 1 => files.walk follow links

theorem walk_eq (files : Files) (follow : Bool) (links : Nat) :
    files.walk follow links = files.walkWith follow (files.beyond follow links) := by
  cases links <;> rfl

/-- Names that lead nowhere. -/
abbrev IsHollow (name : String) : Prop := name = "" ∨ name = "."

theorem walk_nil (h : files.entryAt? place = some entry) :
    files.walk follow links place [] = .ok (.entry place entry) := by
  rw [walk_eq, walkWith, h]

theorem walk_of_not_directory (h : files.entryAt? place ≠ some .directory) (name : String)
    (rest : List String) : files.walk follow links place (name :: rest) = .error .notDirectory := by
  rw [walk_eq, walkWith, if_pos (by simpa [isDirectoryAt] using h)]

theorem walk_hollow (hd : files.isDirectoryAt place = true) (h : IsHollow name)
    (rest : List String) :
    files.walk follow links place (name :: rest) = files.walk follow links place rest := by
  rw [walk_eq, walkWith, if_neg (by simp [hd]), if_pos h]

theorem walk_up (hd : files.isDirectoryAt place = true) (rest : List String) :
    files.walk follow links place (".." :: rest) = files.walk follow links place.dropLast rest := by
  rw [walk_eq, walkWith, if_neg (by simp [hd]), if_neg (by decide), if_pos rfl]

theorem walk_long (hd : files.isDirectoryAt place = true) (hhollow : ¬ IsHollow name)
    (hup : name ≠ "..") (hlong : longestName < width name) (rest : List String) :
    files.walk follow links place (name :: rest) = .error .tooLong := by
  rw [walk_eq, walkWith, if_neg (by simp [hd]), if_neg hhollow, if_neg hup, if_pos hlong]

/-- The names under which a walk looks for an entry. -/
structure IsProper (name : String) : Prop where
  not_hollow : ¬ IsHollow name
  ne_up : name ≠ ".."
  short : width name ≤ longestName

theorem walk_proper (hd : files.isDirectoryAt place = true) (hname : IsProper name)
    (rest : List String) :
    files.walk follow links place (name :: rest) =
      match files.entryAt? (place ++ [name]) with
      | none => if rest.isEmpty then .ok (.vacant place name) else .error .missing
      | some (.link target) =>
        if rest.isEmpty && !follow then .ok (.entry (place ++ [name]) (.link target))
        else
          match links with
          | 0 => .error .tooManyLinks
          | links + 1 =>
            files.walk follow links (if Path.isAbsolute target.toList then [] else place)
              (segmentsOf target.toList ++ rest)
      | some _ => files.walk follow links (place ++ [name]) rest := by
  rewrite [walk_eq, walkWith, if_neg (by simp [hd]), if_neg hname.not_hollow, if_neg hname.ne_up,
    if_neg (by have := hname.short; omega)]
  cases files.entryAt? (place ++ [name]) with
  | none => rfl
  | some known =>
    cases known with
    | link target => cases links <;> rfl
    | file content => rfl
    | directory => rfl
    | sink => rfl

theorem walk_into (hd : files.isDirectoryAt place = true) (hname : IsProper name)
    (hentry : files.entryAt? (place ++ [name]) = some known)
    (hknown : ∀ target, known ≠ .link target)
    (rest : List String) :
    files.walk follow links place (name :: rest) =
      files.walk follow links (place ++ [name]) rest := by
  rw [walk_proper hd hname, hentry]
  cases known with
  | link target => exact absurd rfl (hknown target)
  | file content => rfl
  | directory => rfl
  | sink => rfl

theorem walk_link (hd : files.isDirectoryAt place = true) (hname : IsProper name)
    (hentry : files.entryAt? (place ++ [name]) = some (.link target))
    (hrest : follow = true ∨ rest ≠ []) :
    files.walk follow (links + 1) place (name :: rest) =
      files.walk follow links (if Path.isAbsolute target.toList then [] else place)
        (segmentsOf target.toList ++ rest) := by
  rw [walk_proper hd hname, hentry]
  have : (rest.isEmpty && !follow) = false := by
    rcases hrest with rfl | hrest
    · simp
    · simp [hrest]
  simp [this]

/-! ## Ways -/

/-- A way from a place along names, through links, to an entry. -/
inductive Way (files : Files) : Nat → Place → List String → Place → Entry → Prop where
  | arrive {links : Nat} {place : Place} {entry : Entry} (h : files.entryAt? place = some entry) :
      Way files links place [] place entry
  | hollow {links : Nat} {place found : Place} {name : String} {rest : List String} {entry : Entry}
      (hd : files.isDirectoryAt place = true) (h : IsHollow name)
      (way : Way files links place rest found entry) :
      Way files links place (name :: rest) found entry
  | up {links : Nat} {place found : Place} {rest : List String} {entry : Entry}
      (hd : files.isDirectoryAt place = true)
      (way : Way files links place.dropLast rest found entry) :
      Way files links place (".." :: rest) found entry
  | into {links : Nat} {place found : Place} {name : String} {rest : List String}
      {entry known : Entry} (hd : files.isDirectoryAt place = true) (hname : IsProper name)
      (hentry : files.entryAt? (place ++ [name]) = some known)
      (hknown : ∀ target, known ≠ .link target)
      (way : Way files links (place ++ [name]) rest found entry) :
      Way files links place (name :: rest) found entry
  | link {links : Nat} {place found : Place} {name target : String} {rest : List String}
      {entry : Entry} (hd : files.isDirectoryAt place = true) (hname : IsProper name)
      (hentry : files.entryAt? (place ++ [name]) = some (.link target))
      (way : Way files links (if Path.isAbsolute target.toList then [] else place)
        (segmentsOf target.toList ++ rest) found entry) :
      Way files (links + 1) place (name :: rest) found entry

theorem Way.walk (way : files.Way links place names found entry) :
    files.walk true links place names = .ok (.entry found entry) := by
  induction way with
  | arrive h => exact walk_nil h
  | hollow hd h _ ih => rw [walk_hollow hd h, ih]
  | up hd _ ih => rw [walk_up hd, ih]
  | into hd hname hentry hknown _ ih => rw [walk_into hd hname hentry hknown, ih]
  | link hd hname hentry _ ih => rw [walk_link hd hname hentry (.inl rfl), ih]

/-- Up to the first link there is a way if there is one from there on. -/
theorem way_of_walkWith
    (hjump : ∀ place names, jump place names = .ok (.entry found entry) →
      ∃ few, links = few + 1 ∧ files.Way few place names found entry)
    (h : files.walkWith true jump place names = .ok (.entry found entry)) :
    files.Way links place names found entry := by
  fun_induction files.walkWith true jump place names with
  | case1 place known hentry =>
    cases h
    exact .arrive hentry
  | case4 place name rest hd hhollow ih => exact .hollow (by simpa using hd) hhollow (ih h)
  | case5 place rest hd _ ih => exact .up (by simpa using hd) (ih h)
  | case10 place name rest hd hhollow hup hlong target hentry =>
    obtain ⟨few, rfl, way⟩ := hjump _ _ h
    exact .link (by simpa using hd) ⟨hhollow, hup, by omega⟩ hentry way
  | case11 place name rest hd hhollow hup hlong known hknown hentry ih =>
    exact .into (by simpa using hd) ⟨hhollow, hup, by omega⟩ hentry (fun target => hknown target)
      (ih h)
  | case9 place name rest _ _ _ _ target _ hend => simp at hend
  | case2 | case3 | case6 | case7 | case8 => cases h

theorem way_of_walk (h : files.walk true links place names = .ok (.entry found entry)) :
    files.Way links place names found entry := by
  induction links generalizing place names with
  | zero => exact way_of_walkWith (fun _ _ hjump => by cases hjump) h
  | succ links ih => exact way_of_walkWith (fun _ _ hjump => ⟨links, rfl, ih hjump⟩) h

theorem walk_eq_entry_iff :
    files.walk true links place names = .ok (.entry found entry) ↔
      files.Way links place names found entry :=
  ⟨way_of_walk, Way.walk⟩

/-- A way ends at an entry. -/
theorem Way.entryAt?_eq (way : files.Way links place names found entry) :
    files.entryAt? found = some entry := by
  induction way with
  | arrive h => exact h
  | hollow _ _ _ ih => exact ih
  | up _ _ ih => exact ih
  | into _ _ _ _ _ ih => exact ih
  | link _ _ _ _ ih => exact ih

/-- A way stays where files are added. -/
theorem Way.mono (h : before.Within after) (way : before.Way links place names found entry) :
    after.Way links place names found entry := by
  induction way with
  | arrive hentry => exact .arrive (h _ _ hentry)
  | hollow hd hhollow _ ih => exact .hollow (h.isDirectoryAt hd) hhollow ih
  | up hd _ ih => exact .up (h.isDirectoryAt hd) ih
  | into hd hname hentry hknown _ ih =>
    exact .into (h.isDirectoryAt hd) hname (h _ _ hentry) hknown ih
  | link hd hname hentry _ ih => exact .link (h.isDirectoryAt hd) hname (h _ _ hentry) ih

/-- A way through few links is one through more. -/
theorem Way.more_links {more : Nat} (h : links ≤ more)
    (way : files.Way links place names found entry) : files.Way more place names found entry := by
  induction way generalizing more with
  | arrive hentry => exact .arrive hentry
  | hollow hd hhollow _ ih => exact .hollow hd hhollow (ih h)
  | up hd _ ih => exact .up hd (ih h)
  | into hd hname hentry hknown _ ih => exact .into hd hname hentry hknown (ih h)
  | link hd hname hentry _ ih =>
    obtain ⟨more, rfl⟩ : ∃ few, more = few + 1 := ⟨more - 1, by omega⟩
    exact .link hd hname hentry (ih (Nat.le_of_succ_le_succ h))

/-- Names lead to one entry, through however many links. -/
theorem Way.unique {links' : Nat} {found' : Place} {entry' : Entry}
    (way : files.Way links place names found entry)
    (way' : files.Way links' place names found' entry') : found' = found ∧ entry' = entry := by
  have hwalk := (way.more_links (Nat.le_max_left links links')).walk
  rw [(way'.more_links (Nat.le_max_right links links')).walk] at hwalk
  cases hwalk
  exact ⟨rfl, rfl⟩

/-- A walk along more names goes on where the way along the first ones ends. -/
theorem Way.walk_append (way : files.Way links place first found entry) :
    ∃ left, ∀ follow rest, rest ≠ [] →
      files.walk follow links place (first ++ rest) = files.walk follow left found rest := by
  induction way with
  | @arrive links place entry h => exact ⟨links, fun follow rest _ => rfl⟩
  | hollow hd hhollow _ ih =>
    obtain ⟨left, ih⟩ := ih
    exact ⟨left, fun follow rest hrest => by
      rw [List.cons_append, walk_hollow hd hhollow, ih follow rest hrest]⟩
  | up hd _ ih =>
    obtain ⟨left, ih⟩ := ih
    exact ⟨left, fun follow rest hrest => by
      rw [List.cons_append, walk_up hd, ih follow rest hrest]⟩
  | into hd hname hentry hknown _ ih =>
    obtain ⟨left, ih⟩ := ih
    exact ⟨left, fun follow rest hrest => by
      rw [List.cons_append, walk_into hd hname hentry hknown, ih follow rest hrest]⟩
  | link hd hname hentry _ ih =>
    obtain ⟨left, ih⟩ := ih
    exact ⟨left, fun follow rest hrest => by
      rw [List.cons_append, walk_link hd hname hentry (.inr (by simp [hrest])),
        ← List.append_assoc, ih follow rest hrest]⟩

/-- A way along a name that leads nowhere stays where it is. -/
theorem Way.eq_of_hollow (way : files.Way links place [name] found entry) (h : IsHollow name) :
    found = place := by
  cases way with
  | hollow _ _ way =>
    cases way
    rfl
  | up => exact absurd h (by decide)
  | into _ hname | link _ hname => exact absurd h hname.not_hollow

/-- A way along a name under which a walk looks for an entry finds one. -/
theorem Way.entryAt?_ne_none (way : files.Way links place [name] found entry)
    (h : IsProper name) : files.entryAt? (place ++ [name]) ≠ none := by
  cases way with
  | hollow _ hhollow => exact absurd hhollow h.not_hollow
  | up => exact absurd rfl h.ne_up
  | into _ _ hentry | link _ _ hentry =>
    rw [hentry]
    exact Option.some_ne_none _

/-- A way along some names starts in a directory. -/
theorem Way.directory (way : files.Way links place names found entry) (h : names ≠ []) :
    files.entryAt? place = some .directory := by
  cases way with
  | arrive _ => exact absurd rfl h
  | hollow hd _ _ | up hd _ | into hd _ _ _ _ | link hd _ _ _ => exact isDirectoryAt_iff.1 hd

/-- A way to a directory starts in a directory. -/
theorem Way.start_directory (way : files.Way links place names found .directory) :
    files.entryAt? place = some .directory := by
  by_cases h : names = []
  · subst h
    cases way with
    | arrive hentry => exact hentry
  · exact way.directory h

/-- A way to a directory stays where only files change. -/
theorem Way.frame (h : before.FrameWithin after)
    (way : before.Way links place names found .directory) :
    after.Way links place names found .directory := by
  generalize hdirectory : Entry.directory = entry at way
  induction way with
  | arrive hentry => exact .arrive (h _ _ (by simp [← hdirectory]) hentry)
  | hollow hd hhollow _ ih => exact .hollow (h.isDirectoryAt hd) hhollow (ih hdirectory)
  | up hd _ ih => exact .up (h.isDirectoryAt hd) (ih hdirectory)
  | into hd hname hentry hknown way ih =>
    -- What the way goes into is no file, because it goes on to a directory.
    subst hdirectory
    have hfound := h _ _ (by simp) way.start_directory
    exact .into (h.isDirectoryAt hd) hname hfound (by simp) (ih rfl)
  | link hd hname hentry _ ih =>
    exact .link (h.isDirectoryAt hd) hname (h _ _ (by simp) hentry) (ih hdirectory)

/-- A way to a file stays where only files change, if there still is a file at its end. -/
theorem Way.file_frame {content changed : List UInt8} (h : before.FrameWithin after)
    (hchanged : after.entryAt? found = some (.file changed))
    (way : before.Way links place names found (.file content)) :
    after.Way links place names found (.file changed) := by
  generalize hfile : Entry.file content = entry at way
  induction way with
  | arrive _ => exact .arrive hchanged
  | hollow hd hhollow _ ih => exact .hollow (h.isDirectoryAt hd) hhollow (ih hchanged hfile)
  | up hd _ ih => exact .up (h.isDirectoryAt hd) (ih hchanged hfile)
  | @into _ place _ name rest _ _ hd hname hentry hknown way ih =>
    -- What the way goes into is the file at its end, or a directory.
    obtain ⟨known, hafter, hlink⟩ : ∃ known, after.entryAt? (place ++ [name]) = some known ∧
        ∀ target, known ≠ .link target := by
      by_cases hrest : rest = []
      · subst hrest
        cases way
        exact ⟨_, hchanged, by simp⟩
      · exact ⟨_, h _ _ (by simp) (way.directory hrest), by simp⟩
    exact .into (h.isDirectoryAt hd) hname hafter hlink (ih hchanged hfile)
  | link hd hname hentry _ ih =>
    exact .link (h.isDirectoryAt hd) hname (h _ _ (by simp) hentry) (ih hchanged hfile)

theorem entryAt?_of_walkWith_vacant
    (hjump : ∀ place names, jump place names = .ok (.vacant found name) →
      files.entryAt? (found ++ [name]) = none)
    (h : files.walkWith true jump place names = .ok (.vacant found name)) :
    files.entryAt? (found ++ [name]) = none := by
  fun_induction files.walkWith true jump place names with
  | case4 _ _ _ _ _ ih | case5 _ _ _ _ ih => exact ih h
  | case7 =>
    cases h
    assumption
  | case10 => exact hjump _ _ h
  | case11 _ _ _ _ _ _ _ _ _ _ ih => exact ih h
  | case1 | case2 | case3 | case6 | case8 | case9 => cases h

/-- Where a walk ends without an entry, there is none. -/
theorem entryAt?_of_walk_vacant
    (h : files.walk true links place names = .ok (.vacant found name)) :
    files.entryAt? (found ++ [name]) = none := by
  induction links generalizing place names with
  | zero => exact entryAt?_of_walkWith_vacant (fun _ _ hjump => by cases hjump) h
  | succ links ih => exact entryAt?_of_walkWith_vacant (fun _ _ hjump => ih hjump) h

theorem way_of_walkWith_vacant (h : before.Within after)
    (hentry : after.entryAt? (found ++ [name]) = some entry)
    (hlink : ∀ target, entry ≠ .link target)
    (hjump : ∀ place names, jump place names = .ok (.vacant found name) →
      ∃ few, links = few + 1 ∧ after.Way few place names (found ++ [name]) entry)
    (hwalk : before.walkWith true jump place names = .ok (.vacant found name)) :
    after.Way links place names (found ++ [name]) entry := by
  fun_induction before.walkWith true jump place names with
  | case4 place name rest hd hhollow ih =>
    exact .hollow (h.isDirectoryAt (by simpa using hd)) hhollow (ih hwalk)
  | case5 place rest hd _ ih => exact .up (h.isDirectoryAt (by simpa using hd)) (ih hwalk)
  | case7 place name rest hd hhollow hup hlong hnone hend =>
    cases hwalk
    obtain rfl := List.isEmpty_iff.1 hend
    exact .into (h.isDirectoryAt (by simpa using hd)) ⟨hhollow, hup, by omega⟩ hentry hlink
      (.arrive hentry)
  | case10 place name rest hd hhollow hup hlong target hknown =>
    obtain ⟨few, rfl, way⟩ := hjump _ _ hwalk
    exact .link (h.isDirectoryAt (by simpa using hd)) ⟨hhollow, hup, by omega⟩ (h _ _ hknown) way
  | case11 place name rest hd hhollow hup hlong known hlinkless hknown ih =>
    exact .into (h.isDirectoryAt (by simpa using hd)) ⟨hhollow, hup, by omega⟩ (h _ _ hknown)
      (fun target => hlinkless target) (ih hwalk)
  | case1 | case2 | case3 | case6 | case8 | case9 => cases hwalk

/-- A walk that ends without an entry is a way where there is one. -/
theorem way_of_walk_vacant (h : before.Within after)
    (hentry : after.entryAt? (found ++ [name]) = some entry)
    (hlink : ∀ target, entry ≠ .link target)
    (hwalk : before.walk true links place names = .ok (.vacant found name)) :
    after.Way links place names (found ++ [name]) entry := by
  induction links generalizing place names with
  | zero => exact way_of_walkWith_vacant h hentry hlink (fun _ _ hjump => by cases hjump) hwalk
  | succ links ih =>
    exact way_of_walkWith_vacant h hentry hlink (fun _ _ hjump => ⟨links, rfl, ih hjump⟩) hwalk

/-- A way along names leads through a directory after each of them but the last. -/
theorem Way.cut (way : files.Way links place names found entry) (h : names = first ++ rest)
    (hrest : rest ≠ []) :
    ∃ left middle, files.Way links place first middle .directory ∧
      files.Way left middle rest found entry := by
  induction way generalizing first with
  | arrive _ =>
    obtain ⟨-, rfl⟩ := List.append_eq_nil_iff.1 h.symm
    exact absurd rfl hrest
  | hollow hd hhollow way ih =>
    cases first with
    | nil =>
      obtain rfl : _ = rest := h
      exact ⟨_, _, .arrive (isDirectoryAt_iff.1 hd), .hollow hd hhollow way⟩
    | cons head first =>
      obtain ⟨rfl, htail⟩ := List.cons_eq_cons.1 h
      obtain ⟨left, middle, hfirst, hlast⟩ := ih htail
      exact ⟨left, middle, .hollow hd hhollow hfirst, hlast⟩
  | up hd way ih =>
    cases first with
    | nil =>
      obtain rfl : _ = rest := h
      exact ⟨_, _, .arrive (isDirectoryAt_iff.1 hd), .up hd way⟩
    | cons head first =>
      obtain ⟨rfl, htail⟩ := List.cons_eq_cons.1 h
      obtain ⟨left, middle, hfirst, hlast⟩ := ih htail
      exact ⟨left, middle, .up hd hfirst, hlast⟩
  | into hd hname hentry hknown way ih =>
    cases first with
    | nil =>
      obtain rfl : _ = rest := h
      exact ⟨_, _, .arrive (isDirectoryAt_iff.1 hd), .into hd hname hentry hknown way⟩
    | cons head first =>
      obtain ⟨rfl, htail⟩ := List.cons_eq_cons.1 h
      obtain ⟨left, middle, hfirst, hlast⟩ := ih htail
      exact ⟨left, middle, .into hd hname hentry hknown hfirst, hlast⟩
  | @link _ _ _ _ target tail _ hd hname hentry way ih =>
    cases first with
    | nil =>
      obtain rfl : _ = rest := h
      exact ⟨_, _, .arrive (isDirectoryAt_iff.1 hd), .link hd hname hentry way⟩
    | cons head first =>
      obtain ⟨rfl, htail⟩ := List.cons_eq_cons.1 h
      have hcut : segmentsOf target.toList ++ tail = segmentsOf target.toList ++ first ++ rest :=
        htail ▸ (List.append_assoc _ first rest).symm
      obtain ⟨left, middle, hfirst, hlast⟩ := ih hcut
      exact ⟨left, middle, .link hd hname hentry hfirst, hlast⟩

/-! ## Plain names -/

/-- A name that a walk takes as it is. -/
structure IsName (name : String) : Prop where
  not_hollow : ¬ IsHollow name
  ne_up : name ≠ ".."
  no_slash : '/' ∉ name.toList

/-- A walk along names without links. -/
def descend (files : Files) (place : Place) : List String → Except Fault Found
  | [] =>
    match files.entryAt? place with
    | some entry => .ok (.entry place entry)
    | none => .error .missing
  | name :: rest =>
    if files.entryAt? place ≠ some .directory then .error .notDirectory
    else if longestName < width name then .error .tooLong
    else
      match files.entryAt? (place ++ [name]) with
      | none => if rest.isEmpty then .ok (.vacant place name) else .error .missing
      | some _ => files.descend (place ++ [name]) rest

/-- A descent along one name ends at what is under it. -/
theorem descend_singleton (h : files.entryAt? place = some .directory) (name : String) :
    files.descend place [name] =
      if longestName < width name then .error .tooLong
      else
        match files.entryAt? (place ++ [name]) with
        | some entry => .ok (.entry (place ++ [name]) entry)
        | none => .ok (.vacant place name) := by
  rw [descend, if_neg (by simp [h])]
  split
  · rfl
  · cases hentry : files.entryAt? (place ++ [name]) with
    | none => rfl
    | some entry => simp only [descend, hentry]

/-- A descent to something leads through a directory. -/
theorem descend_cons_eq_ok {outcome : Found}
    (h : files.descend place (name :: rest) = .ok outcome) :
    files.entryAt? place = some .directory ∧
      (files.entryAt? (place ++ [name]) = none ∧ rest = [] ∧ outcome = .vacant place name ∨
        files.descend (place ++ [name]) rest = .ok outcome) := by
  rw [descend] at h
  split at h
  · cases h
  · next hdirectory =>
    refine ⟨not_not.1 hdirectory, ?_⟩
    split at h
    · cases h
    cases hentry : files.entryAt? (place ++ [name]) with
    | none =>
      rw [hentry] at h
      cases rest with
      | nil => exact .inl ⟨rfl, rfl, (Except.ok.inj h).symm⟩
      | cons _ _ => cases h
    | some known =>
      rw [hentry] at h
      exact .inr h

theorem descend_nil_eq_ok {outcome : Found} (h : files.descend place [] = .ok outcome) :
    ∃ entry, files.entryAt? place = some entry ∧ outcome = .entry place entry := by
  rw [descend] at h
  split at h
  · next entry hentry => exact ⟨entry, hentry, (Except.ok.inj h).symm⟩
  · cases h

/-- Along plain names where there are no links, a walk is a descent. -/
theorem walk_eq_descend (hnames : ∀ name ∈ names, IsName name)
    (hlinks : ∀ below, below <+: names → below ≠ [] →
      ∀ target, files.entryAt? (place ++ below) ≠ some (.link target)) :
    files.walk follow links place names = files.descend place names := by
  induction names generalizing place with
  | nil =>
    rewrite [walk_eq, walkWith, descend]
    cases files.entryAt? place <;> rfl
  | cons name rest ih =>
    rw [descend]
    by_cases hd : files.entryAt? place = some .directory
    swap
    · rw [walk_of_not_directory hd, if_pos hd]
    rw [if_neg (not_not.2 hd)]
    have hdir := isDirectoryAt_iff.2 hd
    obtain ⟨hhollow, hup, -⟩ := hnames name List.mem_cons_self
    by_cases hlong : longestName < width name
    · rw [if_pos hlong, walk_long hdir hhollow hup hlong]
    rw [if_neg hlong]
    have hproper : IsProper name := ⟨hhollow, hup, by omega⟩
    cases hentry : files.entryAt? (place ++ [name]) with
    | none => rw [walk_proper hdir hproper, hentry]
    | some known =>
      rw [walk_into hdir hproper hentry]
      · refine ih (fun name h => hnames name (List.mem_cons_of_mem _ h)) fun below hb _ target => ?_
        have := hlinks (name :: below) (by simpa using hb) (by simp) target
        simpa using this
      · rintro target rfl
        exact hlinks [name] (by simp) (by simp) target hentry

end CallSheet.Files
