import CallSheet.Files.Operations

/-!
# Changes of files

The steps that lead from some files to others: removals first, where a
directory comes after what is in it, and then directories and files, where a
directory comes before what is in it.

Main statement: it takes no step to stay (`changes_self`).
-/

namespace CallSheet

/-- A step of a change. -/
inductive Change where
  | removeFile (place : Place)
  | removeDirectory (place : Place)
  | makeDirectory (place : Place)
  | writeFile (place : Place) (content : List UInt8)
  deriving DecidableEq, Repr

namespace Files

/-- Whether an entry can become another one without being removed. -/
def canBecome : Entry → Entry → Bool
  | .file _, .file _ => true
  | old, new => old == new

/-- The removals on the way from some files to others. -/
def removals (before after : Files) : List Change :=
  let gone := before.entries.filter fun (place, entry) =>
    !after.entries.any fun (kept, new) => kept == place && canBecome entry new
  (gone.mergeSort fun x y => y.1.length ≤ x.1.length).map fun (place, entry) =>
    if entry = .directory then .removeDirectory place else .removeFile place

/-- What is made and written on the way from some files to others.  In the
place of a new link goes what it leads to. -/
def additions (before after : Files) : List Change :=
  let fresh := after.entries.filter fun entry => !before.entries.contains entry
  (fresh.mergeSort fun x y => x.1.length ≤ y.1.length).filterMap fun (place, _) =>
    match after.locate (pathOf place) with
    | .ok (_, .directory) => some (.makeDirectory place)
    | .ok (_, .file content) => some (.writeFile place content)
    | _ => none

/-- The steps from some files to others. -/
def changes (before after : Files) : List Change :=
  before.removals after ++ before.additions after

theorem canBecome_self (entry : Entry) : canBecome entry entry = true := by
  cases entry <;> simp [canBecome]

theorem removals_self (files : Files) : files.removals files = [] := by
  have : files.entries.filter (fun (place, entry) =>
      !files.entries.any fun (kept, new) => kept == place && canBecome entry new) = [] := by
    rw [List.filter_eq_nil_iff]
    intro (place, entry) h
    simp only [Bool.not_eq_true, Bool.not_eq_false', List.any_eq_true]
    exact ⟨(place, entry), h, by simp [canBecome_self]⟩
  simp [removals, this]

theorem additions_self (files : Files) : files.additions files = [] := by
  have : files.entries.filter (fun entry => !files.entries.contains entry) = [] := by
    rw [List.filter_eq_nil_iff]
    intro entry h
    simp [h]
  simp only [additions, this, List.mergeSort_nil, List.filterMap_nil]

/-- It takes no step to stay. -/
theorem changes_self (files : Files) : files.changes files = [] := by
  simp [changes, removals_self, additions_self]

end Files

end CallSheet
