import CallSheet.Proofs.Files.Beneath

/-!
# The order of entries

What does not depend on the order in which the entries are listed.

There are two groups.

* Entries.  Where no place is listed twice (`ListsOnce`), what is at a place is what is
  listed for it, and a directory lists every name once.
* Two orders.  `Reordered` files have the same entry at every place, and so every path
  leads to the same (`Reordered.find_eq`).
-/

namespace CallSheet.Files

variable {files other : Files} {place : Place} {name : String} {entry : Entry}

/-! ## Entries -/

/-- No place is listed twice. -/
def ListsOnce (files : Files) : Prop := (files.entries.map Prod.fst).Nodup

/-- What is at a place is what is listed for it. -/
theorem ListsOnce.entryAt?_eq_some_iff (h : files.ListsOnce) (hplace : place ≠ []) :
    files.entryAt? place = some entry ↔ (place, entry) ∈ files.entries := by
  rw [entryAt?_eq_lookup hplace, List.lookup_eq_some_iff]
  constructor
  · rintro ⟨before, after, heq, -⟩
    exact heq ▸ List.mem_append_right before List.mem_cons_self
  · intro hmem
    obtain ⟨before, after, heq⟩ := List.append_of_mem hmem
    refine ⟨before, after, heq, fun known hknown => bne_iff_ne.2 fun hsame => ?_⟩
    -- Then the place is listed before as well.
    rw [ListsOnce, heq, List.map_append, List.map_cons] at h
    have hbefore : known.1 ∈ before.map Prod.fst := List.mem_map_of_mem hknown
    exact (List.nodup_append.1 h).2.2 _ hbefore _ List.mem_cons_self hsame.symm

/-- The name under which an entry is listed in the directory at a place. -/
theorem childName_eq_some_iff {known : Place} {found : Entry} :
    (match known.getLast? with
      | some last => if known.dropLast = place then some (last, found) else none
      | none => none) = some (name, entry) ↔ known = place ++ [name] ∧ found = entry := by
  cases hlast : known.getLast? with
  | none =>
    obtain rfl := List.getLast?_eq_none_iff.1 hlast
    simp
  | some last =>
    obtain ⟨init, rfl⟩ := List.getLast?_eq_some_iff.1 hlast
    simp [and_assoc]

theorem mem_childrenAt :
    (name, entry) ∈ files.childrenAt place ↔ (place ++ [name], entry) ∈ files.entries := by
  rw [childrenAt, List.mem_filterMap]
  constructor
  · rintro ⟨known, hmem, hchild⟩
    obtain ⟨hplace, rfl⟩ := childName_eq_some_iff.1 hchild
    exact hplace ▸ hmem
  · intro hmem
    exact ⟨_, hmem, childName_eq_some_iff.2 ⟨rfl, rfl⟩⟩

/-- A directory lists every name once. -/
theorem ListsOnce.nodup_childrenAt (h : files.ListsOnce) (place : Place) :
    ((files.childrenAt place).map Prod.fst).Nodup := by
  rw [List.Nodup, List.pairwise_map, childrenAt, List.pairwise_filterMap]
  refine (List.pairwise_map.1 h).imp ?_
  rintro known other hne ⟨name, entry⟩ hchild ⟨name', entry'⟩ hchild' rfl
  rw [(childName_eq_some_iff.1 hchild).1, (childName_eq_some_iff.1 hchild').1] at hne
  exact hne rfl

/-! ## Two orders -/

/-- The same entries, listed in another order. -/
structure Reordered (files other : Files) : Prop where
  entries : other.entries.Perm files.entries
  here : other.here = files.here

theorem Reordered.refl (files : Files) : files.Reordered files := ⟨.refl _, rfl⟩

theorem Reordered.listsOnce (h : files.Reordered other) (honce : files.ListsOnce) :
    other.ListsOnce :=
  (h.entries.map Prod.fst).nodup_iff.2 honce

/-- The same is at every place. -/
theorem Reordered.entryAt?_eq (h : files.Reordered other) (honce : files.ListsOnce)
    (place : Place) : other.entryAt? place = files.entryAt? place := by
  by_cases hplace : place = []
  · rw [hplace, entryAt?_nil, entryAt?_nil]
  · ext entry
    rw [(h.listsOnce honce).entryAt?_eq_some_iff hplace, honce.entryAt?_eq_some_iff hplace,
      h.entries.mem_iff]

theorem walkWith_congr (h : ∀ place, other.entryAt? place = files.entryAt? place) (follow : Bool)
    (jump : Place → List String → Except Fault Found) (place : Place) (names : List String) :
    other.walkWith follow jump place names = files.walkWith follow jump place names := by
  induction names generalizing place with
  | nil => rw [walkWith, walkWith, h]
  | cons name rest ih =>
    have hdirectory : other.isDirectoryAt place = files.isDirectoryAt place := by
      rw [isDirectoryAt, isDirectoryAt, h]
    rw [walkWith, walkWith, hdirectory]
    simp only [h, ih]

/-- A walk depends on what is at the places only. -/
theorem walk_congr (h : ∀ place, other.entryAt? place = files.entryAt? place) (follow : Bool)
    (links : Nat) : other.walk follow links = files.walk follow links := by
  induction links with
  | zero =>
    funext place names
    exact walkWith_congr h follow _ place names
  | succ links ih =>
    funext place names
    rw [walk, walk, ih]
    exact walkWith_congr h follow _ place names

/-- Every path leads to the same. -/
theorem Reordered.find_eq (h : files.Reordered other) (honce : files.ListsOnce) (follow : Bool)
    (path : String) : other.find follow path = files.find follow path := by
  rw [Files.find_eq, Files.find_eq, start, start, h.here, walk_congr (h.entryAt?_eq honce)]

end CallSheet.Files
