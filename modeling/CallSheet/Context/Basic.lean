/-!
# The context

The values that are known so far, each under its name, in the order in which
the names came up first.  Storing a value under a known name keeps the name's
place.  No name stands twice, which the type says.

The main statements give the effect of storing on a look-up (`get?_insert`) and
on the order of the names (`names_insert`).
-/

namespace CallSheet

/-! ## Entries -/

/-- Stores a value under a name: in place of the old value, or at the end. -/
def storeEntry (name value : String) : List (String × String) → List (String × String)
  | [] => [(name, value)]
  | entry :: rest =>
    if entry.1 = name then (name, value) :: rest else entry :: storeEntry name value rest

theorem map_fst_storeEntry (name value : String) (entries : List (String × String)) :
    (storeEntry name value entries).map Prod.fst =
      if name ∈ entries.map Prod.fst then entries.map Prod.fst
      else entries.map Prod.fst ++ [name] := by
  induction entries with
  | nil => simp [storeEntry]
  | cons entry rest ih =>
    by_cases h : entry.1 = name
    · simp [storeEntry, h]
    · have h' : ¬ name = entry.1 := fun e => h e.symm
      simp only [storeEntry, h, ↓reduceIte, List.map_cons, ih, List.mem_cons, h', false_or]
      split <;> simp

theorem nodup_storeEntry {name value : String} {entries : List (String × String)}
    (h : (entries.map Prod.fst).Nodup) :
    ((storeEntry name value entries).map Prod.fst).Nodup := by
  rw [map_fst_storeEntry]
  split
  · exact h
  · next hn =>
    rw [List.nodup_append]
    refine ⟨h, by simp, fun a ha b hb => ?_⟩
    rw [List.mem_singleton] at hb
    subst hb
    exact fun e => hn (e ▸ ha)

theorem lookup_entry (name : String) (entry : String × String) (rest : List (String × String)) :
    (entry :: rest).lookup name = if name = entry.1 then some entry.2 else rest.lookup name := by
  obtain ⟨known, value⟩ := entry
  by_cases h : name = known
  · simp [h]
  · have hk : (name == known) = false := by simpa using h
    simp [List.lookup_cons, h, hk]

theorem lookup_storeEntry (name value other : String) (entries : List (String × String)) :
    (storeEntry name value entries).lookup other =
      if other = name then some value else entries.lookup other := by
  induction entries with
  | nil => simp [storeEntry]
  | cons entry rest ih =>
    by_cases h : entry.1 = name
    · by_cases ho : other = name <;> simp [storeEntry, lookup_entry, h, ho]
    · simp only [storeEntry, h, ↓reduceIte, lookup_entry, ih]
      by_cases ho : other = entry.1
      · simp [ho, h]
      · simp [ho]

theorem lookup_eq_some_iff {entries : List (String × String)} (h : (entries.map Prod.fst).Nodup)
    (name value : String) : entries.lookup name = some value ↔ (name, value) ∈ entries := by
  induction entries with
  | nil => simp
  | cons entry rest ih =>
    obtain ⟨known, stored⟩ := entry
    obtain ⟨hnew, hrest⟩ := List.nodup_cons.1 h
    rw [lookup_entry, List.mem_cons, Prod.mk.injEq]
    by_cases hname : name = known
    · subst hname
      have hlater : (name, value) ∉ rest := fun hmem => hnew (List.mem_map.2 ⟨_, hmem, rfl⟩)
      simp [hlater, eq_comm]
    · simp [ih hrest, hname]

/-! ## The type -/

/-- Values under names. -/
structure Context where
  entries : List (String × String)
  /-- No name stands twice. -/
  nodup : (entries.map Prod.fst).Nodup
  deriving DecidableEq

namespace Context

/-- The context without values. -/
def empty : Context := ⟨[], by simp⟩

/-- The names, in the order in which they came up. -/
def names (context : Context) : List String := context.entries.map Prod.fst

/-- The value under a name. -/
def get? (context : Context) (name : String) : Option String := context.entries.lookup name

/-- Whether there is a value under a name. -/
def contains (context : Context) (name : String) : Bool := (context.get? name).isSome

/-- The number of names. -/
def size (context : Context) : Nat := context.entries.length

/-- Whether there is no value at all. -/
def isEmpty (context : Context) : Bool := context.entries.isEmpty

/-- Stores a value under a name. -/
def insert (context : Context) (name value : String) : Context :=
  ⟨storeEntry name value context.entries, nodup_storeEntry context.nodup⟩

/-- Stores values one after the other. -/
def extend (context : Context) (entries : List (String × String)) : Context :=
  entries.foldl (fun context entry => context.insert entry.1 entry.2) context

/-- The context of a list of entries; the last of equal names counts, at the
place of the first. -/
def ofList (entries : List (String × String)) : Context := empty.extend entries

@[simp] theorem get?_insert (context : Context) (name value other : String) :
    (context.insert name value).get? other =
      if other = name then some value else context.get? other :=
  lookup_storeEntry name value other context.entries

theorem names_insert (context : Context) (name value : String) :
    (context.insert name value).names =
      if name ∈ context.names then context.names else context.names ++ [name] :=
  map_fst_storeEntry name value context.entries

theorem get?_eq_some_iff {context : Context} {name value : String} :
    context.get? name = some value ↔ (name, value) ∈ context.entries :=
  lookup_eq_some_iff context.nodup name value

theorem mem_names_iff {context : Context} {name : String} :
    name ∈ context.names ↔ (context.get? name).isSome := by
  simp [names, Option.isSome_iff_exists, get?_eq_some_iff]

/-! ## Reserved names -/

/-- The name of the document's directory. -/
def currentDirName : String := "CURDIR"

/-- The name of the document's file name without its extension. -/
def currentFileName : String := "CURFILE"

/-- The name of the directory that holds the result. -/
def resultDirName : String := "RESULTDIR"

/-- Names that have a value before anything is resolved. -/
def reserved : List String := [currentDirName, currentFileName, resultDirName]

/-- The context before anything is resolved. -/
def seeded (currentDir currentFile resultDir : String) : Context :=
  ofList [(currentDirName, currentDir), (currentFileName, currentFile), (resultDirName, resultDir)]

/-- The document's directory. -/
def currentDir? (context : Context) : Option String := context.get? currentDirName

/-- The document's file name without its extension. -/
def currentFile? (context : Context) : Option String := context.get? currentFileName

/-- The directory that holds the result. -/
def resultDir? (context : Context) : Option String := context.get? resultDirName

end Context

end CallSheet
