import CallSheet.Files.Operations
import Mathlib.Data.List.Infix

/-!
# What is where

What the operations on files do to the entry at every place.  After this module
no proof opens the list of entries.

There are five groups.

* Putting.  `entryAt?_put` gives every entry after one was put.
* Vacant places.  A place is `Vacant` if neither it nor anything below it has an
  entry, and `without` makes a place vacant.
* Two files.  `Within`, `FrameWithin` and `AgreesOff` say how much of the first is
  still there in the second.
* Moving.  `entryAt?_moveAt` gives every entry after a move to a vacant place.
* Trees.  `below` is what is at a place and below it.  `IsTree` says that these are
  directories with files in them, without links, so that nothing is below a place
  without an entry (`IsTree.eq_none`).
-/

namespace CallSheet.Files

variable {files : Files} {place other old new : Place} {entry : Entry} {name : String}

@[simp] theorem entryAt?_nil (files : Files) : files.entryAt? [] = some .directory := if_pos rfl

theorem entryAt?_eq_lookup (h : place ≠ []) : files.entryAt? place = files.entries.lookup place :=
  if_neg h

theorem isDirectoryAt_iff :
    files.isDirectoryAt place = true ↔ files.entryAt? place = some .directory := by
  rw [isDirectoryAt, beq_iff_eq]

/-- A look-up under changed keys, if exactly one old key becomes the one that is
looked for. -/
theorem lookup_map_key {change : Place → Place} {entries : List (Place × Entry)}
    (h : ∀ known ∈ entries, change known.1 = place ↔ known.1 = other) :
    (entries.map fun known => (change known.1, known.2)).lookup place = entries.lookup other := by
  induction entries with
  | nil => rfl
  | cons known entries ih =>
    obtain ⟨key, entry⟩ := known
    have hhead : change key = place ↔ key = other := h (key, entry) List.mem_cons_self
    rw [List.map_cons, List.lookup_cons, List.lookup_cons,
      ih fun known hk => h known (List.mem_cons_of_mem _ hk)]
    by_cases hkey : key = other
    · rw [beq_iff_eq.2 (hhead.2 hkey).symm, beq_iff_eq.2 hkey.symm]
    · rw [beq_eq_false_iff_ne.2 fun e => hkey (hhead.1 e.symm),
        beq_eq_false_iff_ne.2 fun e => hkey e.symm]

theorem lookup_eq_none_iff {entries : List (Place × Entry)} :
    entries.lookup place = none ↔ ∀ known ∈ entries, known.1 ≠ place := by
  rw [List.lookup_eq_none_iff]
  exact forall₂_congr fun known _ => by rw [bne_iff_ne, ne_comm]

/-! ## Putting -/

@[simp] theorem here_put (files : Files) (place : Place) (entry : Entry) :
    (files.put place entry).here = files.here := by
  unfold put
  split <;> rfl

theorem lookup_replace (entries : List (Place × Entry)) (place : Place) (entry : Entry)
    (other : Place) :
    (entries.map fun known => if known.1 = place then (place, entry) else known).lookup other =
      if other = place then (entries.lookup place).map fun _ => entry
      else entries.lookup other := by
  induction entries with
  | nil => simp
  | cons known entries ih =>
    obtain ⟨key, value⟩ := known
    by_cases hkey : key = place
    · subst hkey
      by_cases hother : other = key
      · subst hother
        simp
      · simp [List.lookup_cons, ih, hother, beq_eq_false_iff_ne.2 hother]
    · by_cases hother : other = place
      · subst hother
        simp [List.lookup_cons, ih, hkey, beq_eq_false_iff_ne.2 (Ne.symm hkey)]
      · simp [List.lookup_cons, ih, hkey, hother]

/-- An entry that was put is where it was put, and every other one stays. -/
theorem entryAt?_put (hplace : place ≠ []) (files : Files) (entry : Entry) (other : Place) :
    (files.put place entry).entryAt? other =
      if other = place then some entry else files.entryAt? other := by
  by_cases hroot : other = []
  · rw [hroot, entryAt?_nil, entryAt?_nil, if_neg hplace.symm]
  rw [entryAt?_eq_lookup hroot, entryAt?_eq_lookup hroot]
  unfold put
  split
  · next hknown =>
    rw [lookup_replace]
    split
    · cases hlook : files.entries.lookup place with
      | some value => rfl
      | none =>
        obtain ⟨known, hmem, heq⟩ := List.any_eq_true.1 hknown
        exact absurd (beq_iff_eq.1 heq) (lookup_eq_none_iff.1 hlook known hmem)
    · rfl
  · next hknown =>
    rw [List.lookup_append]
    by_cases hother : other = place
    · have hnone : files.entries.lookup place = none :=
        lookup_eq_none_iff.2 fun known hmem heq =>
          hknown (List.any_eq_true.2 ⟨known, hmem, beq_iff_eq.2 heq⟩)
      rw [if_pos hother, hother, hnone]
      simp
    · rw [if_neg hother]
      simp [List.lookup_cons, beq_eq_false_iff_ne.2 hother]

/-! ## Vacant places -/

/-- Neither the place nor anything below it has an entry. -/
def Vacant (files : Files) (place : Place) : Prop :=
  ∀ below, files.entryAt? (place ++ below) = none

theorem Vacant.entryAt? (h : files.Vacant place) (hp : place <+: other) :
    files.entryAt? other = none := by
  obtain ⟨below, rfl⟩ := hp
  exact h below

theorem Vacant.ne_nil (h : files.Vacant place) : place ≠ [] := by
  rintro rfl
  have := h []
  rw [List.append_nil, entryAt?_nil] at this
  cases this

/-- Nothing that is listed is at or below a vacant place. -/
theorem Vacant.not_below (h : files.Vacant place) {known : Place × Entry}
    (hmem : known ∈ files.entries) : ¬ place <+: known.1 := by
  intro hp
  have hnone := h.entryAt? hp
  have hne : known.1 ≠ [] := fun e => h.ne_nil (List.prefix_nil.1 (e ▸ hp))
  rw [entryAt?_eq_lookup hne, lookup_eq_none_iff] at hnone
  exact hnone known hmem rfl

/-- Files without what is at and below a place. -/
def without (files : Files) (place : Place) : Files :=
  { files with entries := files.entries.filter fun known => !place.isPrefixOf known.1 }

@[simp] theorem here_without (files : Files) (place : Place) :
    (files.without place).here = files.here := rfl

theorem entryAt?_without (hplace : place ≠ []) (files : Files) (other : Place) :
    (files.without place).entryAt? other =
      if place <+: other then none else files.entryAt? other := by
  by_cases hroot : other = []
  · rw [hroot, entryAt?_nil, entryAt?_nil, if_neg fun h => hplace (List.prefix_nil.1 h)]
  rw [entryAt?_eq_lookup hroot, entryAt?_eq_lookup hroot]
  by_cases hp : place <+: other
  · rw [if_pos hp, lookup_eq_none_iff]
    rintro known hmem rfl
    have := (List.mem_filter.1 hmem).2
    rw [List.isPrefixOf_iff_prefix.2 hp] at this
    cases this
  · rw [if_neg hp, without]
    induction files.entries with
    | nil => rfl
    | cons known entries ih =>
      obtain ⟨key, value⟩ := known
      rw [List.filter_cons]
      by_cases hkey : other = key
      · subst hkey
        have hfalse : place.isPrefixOf other = false := by
          rw [Bool.eq_false_iff, ne_eq, List.isPrefixOf_iff_prefix]
          exact hp
        simp [hfalse]
      · split
        · rw [List.lookup_cons, List.lookup_cons, beq_eq_false_iff_ne.2 hkey]
          exact ih
        · rw [List.lookup_cons, beq_eq_false_iff_ne.2 hkey]
          exact ih

/-! ## Two files -/

/-- Everything that is in some files is in others, at the same place. -/
def Within (before after : Files) : Prop :=
  ∀ place entry, before.entryAt? place = some entry → after.entryAt? place = some entry

theorem Within.isDirectoryAt {after : Files} (h : files.Within after)
    (hd : files.isDirectoryAt place = true) : after.isDirectoryAt place = true :=
  isDirectoryAt_iff.2 (h place _ (isDirectoryAt_iff.1 hd))

theorem within_of_without (hplace : place ≠ []) (files : Files) :
    (files.without place).Within files := by
  intro other entry hentry
  rw [entryAt?_without hplace] at hentry
  split at hentry
  · cases hentry
  · exact hentry

/-- Everything in some files that is not a file itself is in others, at the same place. -/
def FrameWithin (before after : Files) : Prop :=
  ∀ place entry, (∀ content, entry ≠ .file content) → before.entryAt? place = some entry →
    after.entryAt? place = some entry

theorem FrameWithin.isDirectoryAt {after : Files} (h : files.FrameWithin after)
    (hd : files.isDirectoryAt place = true) : after.isDirectoryAt place = true :=
  isDirectoryAt_iff.2 (h place _ (by simp) (isDirectoryAt_iff.1 hd))

/-- What is neither at nor below a place is the same in both files. -/
def AgreesOff (place : Place) (before after : Files) : Prop :=
  ∀ other, ¬ place <+: other → after.entryAt? other = before.entryAt? other

theorem AgreesOff.refl (place : Place) (files : Files) : AgreesOff place files files :=
  fun _ _ => rfl

theorem AgreesOff.trans {first second third : Files} (h : AgreesOff place first second)
    (h' : AgreesOff place second third) : AgreesOff place first third :=
  fun other hother => (h' other hother).trans (h other hother)

theorem agreesOff_put (hplace : place ≠ []) (h : place <+: other) (files : Files) (entry : Entry) :
    AgreesOff place files (files.put other entry) := by
  intro third hthird
  rw [entryAt?_put fun e => hplace (List.prefix_nil.1 (e ▸ h)), if_neg]
  rintro rfl
  exact hthird h

theorem within_without (hplace : place ≠ []) {after : Files}
    (h : ∀ other entry, ¬ place <+: other → files.entryAt? other = some entry →
      after.entryAt? other = some entry) :
    (files.without place).Within (after.without place) := by
  intro other entry hentry
  rw [entryAt?_without hplace] at hentry ⊢
  split at hentry
  · cases hentry
  · next hother =>
    rw [if_neg hother]
    exact h other entry hother hentry

theorem within_without_of_prefix (hplace : place ≠ []) (h : place <+: other) (files : Files) :
    (files.without place).Within (files.without other) := by
  intro third entry hentry
  rw [entryAt?_without hplace] at hentry
  rw [entryAt?_without fun e => hplace (List.prefix_nil.1 (e ▸ h))]
  split at hentry
  · cases hentry
  · next hthird => rwa [if_neg fun hother => hthird (h.trans hother)]

theorem AgreesOff.within_without (hplace : place ≠ []) {after : Files}
    (h : AgreesOff place files after) : (files.without place).Within (after.without place) :=
  Files.within_without hplace fun other _ hother hentry => (h other hother).trans hentry

/-! ## Moving -/

theorem movedPlace_of_below (old new below : Place) :
    movedPlace old new (old ++ below) = new ++ below := by
  rw [movedPlace, if_pos (List.isPrefixOf_iff_prefix.2 (List.prefix_append old below)),
    List.drop_left]

theorem movedPlace_of_not_below (h : ¬ old <+: place) : movedPlace old new place = place := by
  rw [movedPlace, if_neg (mt List.isPrefixOf_iff_prefix.1 h)]

/-- What was at and below the old place is at and below the new one, nothing is
at and below the old one, and everything else stays. -/
theorem entryAt?_moveAt (hold : old ≠ []) (hnew : files.Vacant new) (place : Place) :
    (files.moveAt old new).entryAt? place =
      if new <+: place then files.entryAt? (old ++ place.drop new.length)
      else if old <+: place then none
      else files.entryAt? place := by
  by_cases hroot : place = []
  · subst hroot
    rw [if_neg fun h => hnew.ne_nil (List.prefix_nil.1 h),
      if_neg fun h => hold (List.prefix_nil.1 h), entryAt?_nil, entryAt?_nil]
  rw [entryAt?_eq_lookup hroot, moveAt]
  by_cases hn : new <+: place
  · obtain ⟨below, rfl⟩ := hn
    rw [if_pos (List.prefix_append new below), List.drop_left, entryAt?_eq_lookup (by simp [hold])]
    refine lookup_map_key fun known hmem => ⟨fun heq => ?_, fun heq => ?_⟩
    · by_cases hk : old <+: known.1
      · obtain ⟨rest, hrest⟩ := hk
        rw [← hrest, movedPlace_of_below] at heq
        rw [← hrest, List.append_cancel_left heq]
      · rw [movedPlace_of_not_below hk] at heq
        exact absurd (heq ▸ List.prefix_append new below) (hnew.not_below hmem)
    · rw [heq, movedPlace_of_below]
  rw [if_neg hn]
  by_cases ho : old <+: place
  · rw [if_pos ho, lookup_eq_none_iff]
    intro moved hmoved heq
    obtain ⟨⟨key, value⟩, -, rfl⟩ := List.mem_map.1 hmoved
    change movedPlace old new key = place at heq
    by_cases hk : old <+: key
    · obtain ⟨rest, rfl⟩ := hk
      rw [movedPlace_of_below] at heq
      exact hn (heq ▸ List.prefix_append new rest)
    · rw [movedPlace_of_not_below hk] at heq
      exact hk (heq ▸ ho)
  · rw [if_neg ho, entryAt?_eq_lookup hroot]
    refine lookup_map_key fun known hmem => ⟨fun heq => ?_, fun heq => ?_⟩
    · by_cases hk : old <+: known.1
      · obtain ⟨rest, hrest⟩ := hk
        rw [← hrest, movedPlace_of_below] at heq
        exact absurd (heq ▸ List.prefix_append new rest) hn
      · rwa [movedPlace_of_not_below hk] at heq
    · rw [heq, movedPlace_of_not_below ho]

theorem agreesOff_moveAt (hplace : place ≠ []) (hold : place <+: old) (hnew : files.Vacant new)
    (hplace' : place <+: new) : AgreesOff place files (files.moveAt old new) := by
  intro other hother
  rw [entryAt?_moveAt (fun e => hplace (List.prefix_nil.1 (e ▸ hold))) hnew,
    if_neg fun h => hother (hplace'.trans h), if_neg fun h => hother (hold.trans h)]

/-! ## Trees -/

/-- What is at a place and below it. -/
def below (files : Files) (place : Place) : Place → Option Entry :=
  fun rest => files.entryAt? (place ++ rest)

/-- Nothing at all. -/
def bare : Place → Option Entry := fun _ => none

/-- A directory that holds some files and nothing else. -/
def directoryWith (contents : List (String × List UInt8)) : Place → Option Entry
  | [] => some .directory
  | [name] => (contents.lookup name).map .file
  | _ => none

theorem below_put (place rest : Place) (hne : place ++ rest ≠ []) (files : Files) (entry : Entry) :
    (files.put (place ++ rest) entry).below place =
      Function.update (files.below place) rest (some entry) := by
  funext other
  rw [below, entryAt?_put hne, Function.update_apply]
  by_cases hother : other = rest
  · rw [if_pos (by rw [hother]), if_pos hother]
  · rw [if_neg fun e => hother (List.append_cancel_left e), if_neg hother, below]

theorem vacant_iff : files.Vacant place ↔ files.below place = bare :=
  ⟨fun h => funext h, fun h rest => congrFun h rest⟩

/-- Directories with files in them, without links. -/
structure IsTree (tree : Place → Option Entry) : Prop where
  /-- Whatever is below the top is in a directory. -/
  nested : ∀ rest name, tree (rest ++ [name]) ≠ none → tree rest = some .directory
  linkless : ∀ rest target, tree rest ≠ some (.link target)

variable {tree : Place → Option Entry}

/-- Nothing is below a place without an entry. -/
theorem IsTree.eq_none (h : IsTree tree) (hnone : tree place = none) (rest : Place) :
    tree (place ++ rest) = none := by
  induction rest using List.reverseRecOn with
  | nil => rwa [List.append_nil]
  | append_singleton rest name ih =>
    by_contra hsome
    rw [← List.append_assoc] at hsome
    rw [h.nested _ name hsome] at ih
    cases ih

/-- A tree without a top is bare. -/
theorem IsTree.eq_bare (h : IsTree tree) (hnone : tree [] = none) : tree = bare :=
  funext fun rest => h.eq_none hnone rest

/-- A part of a tree is a tree. -/
theorem IsTree.part (h : IsTree tree) (place : Place) :
    IsTree fun rest => tree (place ++ rest) where
  nested rest name hsome := h.nested (place ++ rest) name (by rwa [List.append_assoc])
  linkless rest target := h.linkless (place ++ rest) target

/-- A tree is made up of its branches. -/
theorem isTree_of_branches (hlink : ∀ target, tree [] ≠ some (.link target))
    (htop : ∀ name, tree [name] ≠ none → tree [] = some .directory)
    (hbranch : ∀ name, IsTree fun rest => tree (name :: rest)) : IsTree tree where
  nested rest name hsome := by
    cases rest with
    | nil => exact htop name hsome
    | cons first rest => exact (hbranch first).nested rest name hsome
  linkless rest target := by
    cases rest with
    | nil => exact hlink target
    | cons first rest => exact (hbranch first).linkless rest target

/-- A tree grows by an entry in a directory, where there is no directory yet. -/
theorem IsTree.update (h : IsTree tree) (hparent : tree place = some .directory)
    (hold : tree (place ++ [name]) ≠ some .directory) (hentry : ∀ target, entry ≠ .link target) :
    IsTree (Function.update tree (place ++ [name]) (some entry)) where
  nested rest next hsome := by
    have hdir : tree rest = some .directory := by
      by_cases hnext : rest ++ [next] = place ++ [name]
      · rwa [(List.append_inj' hnext rfl).1]
      · rw [Function.update_of_ne hnext] at hsome
        exact h.nested rest next hsome
    rw [Function.update_of_ne, hdir]
    rintro rfl
    exact hold hdir
  linkless rest target := by
    by_cases hrest : rest = place ++ [name]
    · rw [hrest, Function.update_self]
      exact fun e => hentry target (Option.some.inj e)
    · rw [Function.update_of_ne hrest]
      exact h.linkless rest target

theorem isTree_bare : IsTree bare where
  nested _ _ h := absurd rfl h
  linkless _ _ h := nomatch h

/-- A directory that is put where there is nothing is empty. -/
theorem update_bare : Function.update bare [] (some .directory) = directoryWith [] := by
  funext rest
  match rest with
  | [] => rfl
  | [_] => rfl
  | _ :: _ :: _ => rfl

/-- A file that is put under a new name comes last. -/
theorem update_directoryWith {contents : List (String × List UInt8)} {name : String}
    (h : name ∉ contents.map Prod.fst) (content : List UInt8) :
    Function.update (directoryWith contents) [name] (some (.file content)) =
      directoryWith (contents ++ [(name, content)]) := by
  funext rest
  match rest with
  | [] => rfl
  | [other] =>
    rw [Function.update_apply, directoryWith, directoryWith, List.lookup_append]
    by_cases hother : other = name
    · subst hother
      have hnone : contents.lookup other = none := by
        rw [List.lookup_eq_none_iff]
        intro entry hentry
        rw [bne_iff_ne]
        rintro rfl
        exact h (List.mem_map_of_mem hentry)
      simp [hnone]
    · have hlast : [(name, content)].lookup other = none := by
        rw [List.lookup_cons, beq_eq_false_iff_ne.2 hother]
        rfl
      rw [if_neg (by simpa using hother), hlast, Option.or_none]
  | first :: second :: rest =>
    rw [Function.update_of_ne (by simp)]
    rfl

theorem isTree_directoryWith (contents : List (String × List UInt8)) :
    IsTree (directoryWith contents) := by
  refine isTree_of_branches (fun target h => by cases h) (fun name _ => rfl) fun name => ?_
  refine isTree_of_branches (fun target h => ?_) (fun inner h => absurd rfl h) fun inner => ?_
  · change (contents.lookup name).map Entry.file = some (.link target) at h
    cases hlook : contents.lookup name <;> rw [hlook] at h <;> cases h
  · exact isTree_bare

end CallSheet.Files
