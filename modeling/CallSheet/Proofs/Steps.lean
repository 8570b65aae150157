import Mathlib.Data.List.Forall2

/-!
# Steps that can fail

What is done in steps fails with the error of the first step that fails.

There are two groups.

* Two steps.  `bind_eq_ok` and `bind_eq_error_iff` take them apart.
* One step for each element of a list.  All of them succeed (`mapM_eq_ok_iff`), or there is
  a first one that does not (`FirstError`, `mapM_eq_error_iff`).
-/

namespace CallSheet

variable {α β ε : Type}

/-! ## Two steps -/

section Bind

variable {first : Except ε α} {next : α → Except ε β}

theorem bind_eq_ok {final : β} (h : (first >>= next) = .ok final) :
    ∃ value, first = .ok value ∧ next value = .ok final := by
  cases first with
  | error error => cases h
  | ok value => exact ⟨value, rfl, h⟩

/-- Either the first step fails, or the second one with what the first one gave. -/
theorem bind_eq_error_iff {error : ε} :
    (first >>= next) = .error error ↔
      first = .error error ∨ ∃ value, first = .ok value ∧ next value = .error error := by
  cases first with
  | error other => simp [bind, Except.bind]
  | ok value => simp [bind, Except.bind]

end Bind

/-! ## A step for each element -/

section Each

variable {f : α → Except ε β} {list : List α}

/-- The error of the first element that has one; those before it are fine. -/
def FirstError (fine : α → Prop) (fails : α → ε → Prop) (list : List α) (error : ε) : Prop :=
  ∃ before element after, list = before ++ element :: after ∧
    (∀ earlier ∈ before, fine earlier) ∧ fails element error

theorem FirstError.exists_fails {fine : α → Prop} {fails : α → ε → Prop} {error : ε}
    (h : FirstError fine fails list error) : ∃ element ∈ list, fails element error := by
  obtain ⟨before, element, after, rfl, -, hfails⟩ := h
  exact ⟨element, List.mem_append_right before List.mem_cons_self, hfails⟩

/-- If an element is not fine, then one of them is the first. -/
theorem exists_firstError {fine : α → Prop} {fails : α → ε → Prop}
    (hcases : ∀ element, fine element ∨ ∃ error, fails element error)
    (h : ∃ element ∈ list, ¬ fine element) : ∃ error, FirstError fine fails list error := by
  induction list with
  | nil =>
    obtain ⟨element, hmem, -⟩ := h
    cases hmem
  | cons head tail ih =>
    rcases hcases head with hfine | ⟨error, hfails⟩
    · obtain ⟨element, hmem, hnot⟩ := h
      have htail : element ∈ tail := by
        rcases List.mem_cons.1 hmem with rfl | htail
        · exact absurd hfine hnot
        · exact htail
      obtain ⟨error, before, first, after, rfl, hbefore, hfails⟩ := ih ⟨element, htail, hnot⟩
      refine ⟨error, head :: before, first, after, rfl, ?_, hfails⟩
      exact List.forall_mem_cons.2 ⟨hfine, hbefore⟩
    · exact ⟨error, [], head, tail, rfl, List.forall_mem_nil _, hfails⟩

theorem mapM_cons_of_ok {head : α} {tail : List α} {value : β} (h : f head = .ok value) :
    (head :: tail).mapM f = (tail.mapM f).map (value :: ·) := by
  rw [List.mapM_cons, h]
  cases tail.mapM f <;> rfl

theorem mapM_cons_of_error {head : α} {tail : List α} {error : ε} (h : f head = .error error) :
    (head :: tail).mapM f = .error error := by
  rw [List.mapM_cons, h]
  rfl

/-- All elements are read exactly if each of them is. -/
theorem mapM_eq_ok_iff {values : List β} :
    list.mapM f = .ok values ↔
      List.Forall₂ (fun element value => f element = .ok value) list values := by
  induction list generalizing values with
  | nil =>
    rw [List.mapM_nil, List.forall₂_nil_left_iff]
    exact ⟨fun h => (Except.ok.inj h).symm, fun h => h ▸ rfl⟩
  | cons head tail ih =>
    rw [List.forall₂_cons_left_iff]
    cases hhead : f head with
    | error error =>
      rw [mapM_cons_of_error hhead]
      simp
    | ok value =>
      rw [mapM_cons_of_ok hhead]
      simp only [Except.ok.injEq, ← ih]
      cases htail : tail.mapM f with
      | error error => simp [Except.map]
      | ok rest => simp [Except.map, eq_comm]

theorem exists_mem_of_forall₂ {R : α → β → Prop} {values : List β} {value : β}
    (h : List.Forall₂ R list values) (hmem : value ∈ values) :
    ∃ element ∈ list, R element value := by
  induction h with
  | nil => cases hmem
  | cons hhead _ ih =>
    rcases List.mem_cons.1 hmem with rfl | htail
    · exact ⟨_, List.mem_cons_self, hhead⟩
    · obtain ⟨element, helement, hvalue⟩ := ih htail
      exact ⟨element, List.mem_cons_of_mem _ helement, hvalue⟩

/-- The error is that of the first element that is not read. -/
theorem mapM_eq_error_iff {error : ε} :
    list.mapM f = .error error ↔
      FirstError (fun element => ∃ value, f element = .ok value)
        (fun element error => f element = .error error) list error := by
  constructor
  · intro h
    induction list with
    | nil => cases h
    | cons head tail ih =>
      cases hhead : f head with
      | error other =>
        rw [mapM_cons_of_error hhead] at h
        cases h
        exact ⟨[], head, tail, rfl, List.forall_mem_nil _, hhead⟩
      | ok value =>
        rw [mapM_cons_of_ok hhead] at h
        have htail : tail.mapM f = .error error := by
          cases hrest : tail.mapM f with
          | ok rest =>
            rw [hrest] at h
            cases h
          | error other =>
            rw [hrest] at h
            cases h
            rfl
        obtain ⟨before, element, after, rfl, hbefore, helement⟩ := ih htail
        refine ⟨head :: before, element, after, rfl, ?_, helement⟩
        exact List.forall_mem_cons.2 ⟨⟨value, hhead⟩, hbefore⟩
  · rintro ⟨before, element, after, rfl, hbefore, helement⟩
    induction before with
    | nil => exact mapM_cons_of_error helement
    | cons head before ih =>
      rw [List.forall_mem_cons] at hbefore
      obtain ⟨⟨value, hhead⟩, hrest⟩ := hbefore
      rw [List.cons_append, mapM_cons_of_ok hhead, ih hrest]
      rfl

end Each

end CallSheet
