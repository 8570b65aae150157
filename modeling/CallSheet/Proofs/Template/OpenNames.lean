import CallSheet.Document.Header
import CallSheet.Proofs.Template.Layout

/-!
# Reported names

What the names that are reported as open have to do with filling.

There are four groups.

* Looking.  `IsLookedAt` says where names are looked for: after two opening braces
  that have an even number of opening braces before them.  `mem_openNamesWith_iff`
  says which names are reported.
* Parts.  Where no name has a brace, filling goes part by part
  (`pieces_append_openMark`), and a slot without a value is copied
  (`pieces_written_append`).
* One more value.  `fill_insert_ne_iff`: a value for one more name changes what comes
  out exactly if its slot is written in the template.
* The whole.  `mem_openNames_iff_fill_ne`: where no slot stands behind an odd number of
  braces (`HasPairedBraces`), the names that are reported are those whose values are
  missing.  Behind an odd number filling finds the slot and the report does not
  (`openNames_odd_run`).
-/

namespace CallSheet.Template

open Text

variable {known : List Char → Bool} {text inner rest name before after front : List Char} {c : Char}

/-! ## Looking -/

/-- A text holds opening marks, then the inner text, and before the marks an even
number of opening braces. -/
def IsLookedAt (text inner : List Char) : Prop :=
  ∃ front count, text = front ++ (List.replicate (2 * count) '{' ++ (openMark ++ inner)) ∧
    front.getLast? ≠ some '{'

theorem not_isLookedAt_nil (inner : List Char) : ¬ IsLookedAt [] inner := by
  rintro ⟨front, count, h, -⟩
  simp [openMark] at h

theorem openMark_prefix_braces (count : Nat) (inner : List Char) :
    openMark <+: List.replicate (2 * count) '{' ++ (openMark ++ inner) := by
  cases count with
  | zero => exact List.prefix_append _ _
  | succ count => exact ⟨List.replicate (2 * count) '{' ++ (openMark ++ inner), rfl⟩

theorem isLookedAt_openMark_append_iff :
    IsLookedAt (openMark ++ text) inner ↔ inner = text ∨ IsLookedAt text inner := by
  constructor
  · rintro ⟨front, count, h, hlast⟩
    match front, count with
    | [], 0 => exact .inl (List.append_cancel_left h).symm
    | [], count + 1 =>
      have htext : openMark ++ text = openMark ++ _ := h
      exact .inr ⟨[], count, List.append_cancel_left htext, by simp⟩
    | [d], _ =>
      obtain ⟨rfl, -⟩ := List.cons_eq_cons.1 h
      exact absurd rfl hlast
    | _ :: _ :: front, count =>
      refine .inr ⟨front, count, (List.cons_eq_cons.1 (List.cons_eq_cons.1 h).2).2, ?_⟩
      cases front with
      | nil => simp
      | cons d front => simpa using hlast
  · rintro (rfl | ⟨front, count, rfl, hlast⟩)
    · exact ⟨[], 0, rfl, by simp⟩
    · cases front with
      | nil => exact ⟨[], count + 1, rfl, by simp⟩
      | cons d front => exact ⟨'{' :: '{' :: d :: front, count, rfl, by simpa using hlast⟩

theorem isLookedAt_cons_iff (h : ¬ openMark <+: c :: rest) :
    IsLookedAt (c :: rest) inner ↔ IsLookedAt rest inner := by
  constructor
  · rintro ⟨front, count, heq, hlast⟩
    cases front with
    | nil =>
      rw [List.nil_append] at heq
      exact absurd (heq ▸ openMark_prefix_braces count inner) h
    | cons d front =>
      obtain ⟨rfl, htail⟩ := List.cons_eq_cons.1 heq
      refine ⟨front, count, htail, ?_⟩
      cases front with
      | nil => simp
      | cons e front => simpa using hlast
  · rintro ⟨front, count, rfl, hlast⟩
    refine ⟨c :: front, count, rfl, ?_⟩
    cases front with
    | cons d front => simpa using hlast
    | nil =>
      -- two braces would start here
      rintro hc
      obtain rfl : c = '{' := by simpa using hc
      obtain ⟨more, hmore⟩ := openMark_prefix_braces count inner
      exact h ⟨'{' :: more, by rw [List.nil_append, ← hmore]; rfl⟩

theorem IsLookedAt.suffix (h : IsLookedAt text inner) : inner <:+ text := by
  obtain ⟨front, count, rfl, -⟩ := h
  exact ⟨front ++ (List.replicate (2 * count) '{' ++ openMark), by simp⟩

/-- Reported are the names without a value that can be, wherever one is looked for. -/
theorem mem_openNamesWith_iff :
    name ∈ openNamesWith known text ↔
      isReportable name = true ∧ ¬ known name = true ∧
        ∃ inner after, IsLookedAt text inner ∧ cutAt closeMark inner = some (name, after) := by
  fun_induction openNamesWith known text with
  | case1 => simp [not_isLookedAt_nil]
  | case2 c rest h ih =>
    rw [ih]
    simp only [isLookedAt_cons_iff (dropStart?_eq_none_iff.1 h)]
  | case3 c rest inner h _ hcut =>
    rw [dropStart?_eq_some_iff.1 h]
    refine iff_of_false List.not_mem_nil ?_
    rintro ⟨-, -, found, after, hlook, hfound⟩
    rw [isLookedAt_openMark_append_iff] at hlook
    have hclose : closeMark <:+: found := by
      rw [eq_of_cutAt hfound]
      exact List.infix_append _ _ _
    have hinfix : found <:+: inner := by
      rcases hlook with rfl | hlook
      · exact List.infix_rfl
      · exact hlook.suffix.isInfix
    exact cutAt_eq_none_iff.1 hcut (hclose.trans hinfix)
  | case4 c rest inner h _ first after hcut hreport ih =>
    rw [List.mem_cons, ih, dropStart?_eq_some_iff.1 h]
    simp only [isLookedAt_openMark_append_iff]
    rw [Bool.and_eq_true, Bool.not_eq_true'] at hreport
    constructor
    · rintro (rfl | ⟨hname, hknown, found, later, hlook, hfound⟩)
      · exact ⟨hreport.1, by simp [hreport.2], inner, after, .inl rfl, hcut⟩
      · exact ⟨hname, hknown, found, later, .inr hlook, hfound⟩
    · rintro ⟨hname, hknown, found, later, rfl | hlook, hfound⟩
      · rw [hcut] at hfound
        exact .inl (Prod.mk.inj (Option.some.inj hfound)).1.symm
      · exact .inr ⟨hname, hknown, found, later, hlook, hfound⟩
  | case5 c rest inner h _ first after hcut hreport ih =>
    rw [ih, dropStart?_eq_some_iff.1 h]
    simp only [isLookedAt_openMark_append_iff]
    constructor
    · rintro ⟨hname, hknown, found, later, hlook, hfound⟩
      exact ⟨hname, hknown, found, later, .inr hlook, hfound⟩
    · rintro ⟨hname, hknown, found, later, rfl | hlook, hfound⟩
      · rw [hcut] at hfound
        obtain ⟨rfl, -⟩ := Prod.mk.inj (Option.some.inj hfound)
        exact absurd (by simp [hname, hknown]) hreport
      · exact ⟨hname, hknown, found, later, hlook, hfound⟩

/-- No slot with a name stands behind an odd number of opening braces. -/
def HasPairedBraces (text : List Char) : Prop :=
  ∀ front count name after, text = front ++ (List.replicate count '{' ++ (written name ++ after)) →
    front.getLast? ≠ some '{' → isName name = true → 2 ∣ count

/-- Three braces in a row are needed for an odd number before a slot. -/
theorem hasPairedBraces_of_not_infix (h : ¬ ['{', '{', '{'] <:+: text) : HasPairedBraces text := by
  rintro front count name after rfl - -
  cases count with
  | zero => exact ⟨0, rfl⟩
  | succ count =>
    refine absurd ⟨front ++ List.replicate count '{', name ++ (closeMark ++ after), ?_⟩ h
    simp [List.replicate_succ', written, openMark]

theorem exists_trailing_braces (text : List Char) :
    ∃ front count, text = front ++ List.replicate count '{' ∧ front.getLast? ≠ some '{' := by
  suffices h : ∀ text : List Char, ∃ count after,
      text = List.replicate count '{' ++ after ∧ after.head? ≠ some '{' by
    obtain ⟨count, after, htext, hafter⟩ := h text.reverse
    refine ⟨after.reverse, count, ?_, by rwa [List.getLast?_reverse]⟩
    rw [← List.reverse_reverse text, htext, List.reverse_append, List.reverse_replicate]
  intro text
  induction text with
  | nil => exact ⟨0, [], rfl, by simp⟩
  | cons c rest ih =>
    by_cases hc : c = '{'
    · obtain ⟨count, after, rfl, hafter⟩ := ih
      exact ⟨count + 1, after, by rw [hc]; rfl, hafter⟩
    · exact ⟨0, c :: rest, rfl, by simpa using hc⟩

/-- Where braces come in pairs, the slot of a name is looked at. -/
theorem HasPairedBraces.isLookedAt (h : HasPairedBraces (before ++ (written name ++ after)))
    (hname : isName name = true) :
    IsLookedAt (before ++ (written name ++ after)) (name ++ (closeMark ++ after)) := by
  obtain ⟨front, count, rfl, hlast⟩ := exists_trailing_braces before
  obtain ⟨half, rfl⟩ := h front count name after (by rw [List.append_assoc]) hlast hname
  exact ⟨front, half, by simp [written], hlast⟩

/-- Where braces come in pairs, no name is reported with a brace before it. -/
theorem HasPairedBraces.isName_eq_false (h : HasPairedBraces text) (hlook : IsLookedAt text inner)
    (hcut : cutAt closeMark inner = some ('{' :: name, after)) : isName name = false := by
  obtain ⟨front, count, rfl, hlast⟩ := hlook
  have hinner := eq_of_cutAt hcut
  refine Bool.eq_false_iff.2 fun hname => ?_
  have hodd := h front (2 * count + 1) name after (by
    rw [hinner]
    simp [written, openMark, List.replicate_succ']) hlast hname
  omega

/-! ## Parts -/

theorem slot?_append (h : slot? text = some (name, after)) (more : List Char) :
    slot? (text ++ more) = some (name, after ++ more) := by
  obtain rfl := eq_of_slot? h
  rw [slot?_written_append, cutAt_eq_some_iff (by decide)] at h
  rw [List.append_assoc, slot?_written_append]
  exact cutAt_append h.2 _

theorem slot?_eq_none_iff : slot? text = none ↔ ∀ name, ¬ written name <+: text := by
  constructor
  · rintro h name ⟨after, rfl⟩
    rw [slot?_written_append, cutAt_eq_none_iff] at h
    exact h ⟨name, after, by simp⟩
  · intro h
    cases hslot : slot? text with
    | none => rfl
    | some found => exact absurd ⟨found.2, (eq_of_slot? hslot).symm⟩ (h found.1)

/-- A slot that ends behind an opening mark has a brace in its name. -/
theorem brace_mem_of_overlap (hnot : ¬ written name <+: c :: rest)
    (h : written name <+: c :: rest ++ (openMark ++ after)) : '{' ∈ name := by
  obtain ⟨cut, hcut⟩ | ⟨cut, hcut⟩ := List.prefix_or_prefix_of_prefix h (List.prefix_append _ _)
  · exact absurd ⟨cut, hcut⟩ hnot
  -- what is left of the slot starts with the opening mark
  have hmark : cut <+: '{' :: '{' :: after := by
    rw [← hcut] at h
    exact (List.prefix_append_right_inj _).1 h
  have hleft : cut <:+ '{' :: (name ++ closeMark) := ⟨rest, (List.cons_eq_cons.1 hcut).2⟩
  have hmem : '{' ∈ name ++ closeMark := by
    cases cut with
    | nil =>
      rw [List.append_nil] at hcut
      exact absurd (hcut ▸ List.prefix_rfl) hnot
    | cons d cut =>
      obtain ⟨rfl, hsecond⟩ := List.cons_prefix_cons.1 hmark
      rcases List.suffix_cons_iff.1 hleft with heq | hin
      · obtain ⟨-, rfl⟩ := List.cons_eq_cons.1 heq
        cases name with
        | nil => exact absurd (List.cons_prefix_cons.1 hsecond).1 (by decide)
        | cons d name =>
          obtain ⟨rfl, -⟩ := List.cons_prefix_cons.1 hsecond
          exact List.mem_cons_self
      · exact hin.subset List.mem_cons_self
  simpa [closeMark] using hmem

/-- Where no name with a value has a brace, what stands before an opening mark is
filled on its own. -/
theorem pieces_append_openMark (hfree : ∀ name, known name = true → '{' ∉ name)
    (before after : List Char) :
    pieces known (before ++ (openMark ++ after)) =
      pieces known before ++ pieces known (openMark ++ after) := by
  fun_induction pieces known before with
  | case1 => rfl
  | case2 c rest name later h hknown _ ih =>
    exact (pieces_of_slot (slot?_append h _) hknown).trans (congrArg _ ih)
  | case3 c rest name later h hknown ih =>
    exact (pieces_of_unknown (slot?_append h _) hknown).trans (congrArg _ ih)
  | case4 c rest h ih =>
    have hstart : ∀ name, StartsWithSlot (c :: rest ++ (openMark ++ after)) name →
        ¬ known name = true := fun name hslot hknown =>
      hfree name hknown (brace_mem_of_overlap (slot?_eq_none_iff.1 h name) hslot.spelled)
    exact (pieces_cons hstart).trans (congrArg _ ih)

/-- A slot without a value is copied, if no other slot starts inside it. -/
theorem pieces_written_append (hcut : cutAt closeMark (name ++ (closeMark ++ after)) =
      some (name, after)) (hknown : ¬ known name = true) (hopen : ¬ openMark <:+: '{' :: name) :
    pieces known (written name ++ after) = (written name).map .char ++ pieces known after := by
  have hslot : slot? (written name ++ after) = some (name, after) := by
    rwa [slot?_written_append]
  -- after the first brace, no slot starts before the end of this one
  have hend : ¬ openMark <:+: '}' :: after.take 1 := by
    rw [List.infix_cons_iff, not_or]
    refine ⟨fun h => absurd (List.cons_prefix_cons.1 h).1 (by decide), fun h => ?_⟩
    have := h.length_le
    simp only [openMark, List.length_cons, List.length_nil, List.length_take] at this
    omega
  have hinner : ¬ openMark <:+: '{' :: (name ++ closeMark) ++ after.take 1 := by
    have := not_openMark_infix_append (c := '}') (by decide) hopen hend
    simpa [closeMark] using this
  have hwritten : written name ++ after = '{' :: ('{' :: (name ++ closeMark) ++ after) := by
    simp [written, openMark]
  rw [hwritten] at hslot ⊢
  rw [pieces_of_unknown hslot hknown, pieces_append known hinner]
  rfl

/-- So is a slot with a brace more, if both names have no value. -/
theorem pieces_written_brace_append (hcut : cutAt closeMark ('{' :: name ++ (closeMark ++ after)) =
      some ('{' :: name, after)) (hknown : ¬ known ('{' :: name) = true)
    (hname : ¬ known name = true) (hopen : ¬ openMark <:+: '{' :: name) :
    pieces known (written ('{' :: name) ++ after) =
      (written ('{' :: name)).map .char ++ pieces known after := by
  have hslot : slot? (written ('{' :: name) ++ after) = some ('{' :: name, after) := by
    rwa [slot?_written_append]
  have hrest : cutAt closeMark (name ++ (closeMark ++ after)) = some (name, after) := by
    refine cutAt_append (fun hin => ?_) after
    exact ((cutAt_eq_some_iff (by decide)).1 hcut).2 (hin.trans (List.suffix_cons _ _).isInfix)
  exact (pieces_of_unknown hslot hknown).trans
    (congrArg _ (pieces_written_append hrest hname hopen))

variable {lookup : List Char → Option (List Char)}

/-- A slot that is copied, and what stands on its two sides is filled on its own. -/
theorem fillWith_around_copied (hfree : ∀ name, (lookup name).isSome = true → '{' ∉ name)
    (hcopied : pieces (fun name => (lookup name).isSome) (written name ++ after) =
      (written name).map .char ++ pieces (fun name => (lookup name).isSome) after) :
    fillWith lookup (before ++ (written name ++ after)) =
      fillWith lookup before ++ (written name ++ fillWith lookup after) := by
  have hmark : written name ++ after = openMark ++ (name ++ (closeMark ++ after)) := by
    simp [written]
  rw [fillWith, hmark, pieces_append_openMark hfree, ← hmark, hcopied, List.flatMap_append,
    List.flatMap_append, flatMap_value_char]
  rfl

/-! ## One more value -/

/-- A name without braces.  Its slot is read wherever it is written. -/
def IsPlain (name : List Char) : Prop := name ≠ [] ∧ '{' ∉ name ∧ '}' ∉ name

theorem isPlain_of_isName (h : isName name = true) : IsPlain name := by
  rw [isName, Bool.and_eq_true, List.all_eq_true] at h
  refine ⟨by simpa using h.1, fun hmem => ?_, fun hmem => ?_⟩
  · exact absurd (h.2 _ hmem) (by decide)
  · exact absurd (h.2 _ hmem) (by decide)

namespace IsPlain

theorem openMark_not_infix (h : IsPlain name) : ¬ openMark <:+: '{' :: name := by
  rw [List.infix_cons_iff, not_or]
  refine ⟨fun hpre => ?_, fun hin => h.2.1 (hin.subset List.mem_cons_self)⟩
  exact h.2.1 ((List.cons_prefix_cons.1 hpre).2.subset List.mem_cons_self)

theorem closeMark_not_infix (h : IsPlain name) : ¬ closeMark <:+: name ++ closeMark.dropLast := by
  rintro ⟨left, right, heq⟩
  -- the first brace of the mark would stand in the name
  have hcount : (name ++ closeMark.dropLast).count '}' = 1 := by
    rw [List.count_append, List.count_eq_zero.2 h.2.2]
    rfl
  rw [← heq, List.count_append, List.count_append] at hcount
  have : closeMark.count '}' = 2 := rfl
  omega

theorem slot? (h : IsPlain name) (after : List Char) :
    Template.slot? (written name ++ after) = some (name, after) :=
  slot?_written h.closeMark_not_infix after

theorem cutAt_closeMark (h : IsPlain name) (after : List Char) :
    cutAt closeMark (name ++ (closeMark ++ after)) = some (name, after) :=
  cutAt_append h.closeMark_not_infix after

theorem isReportable (h : IsPlain name) : isReportable name = true := by
  have hcut : cutAt openMark name = none :=
    cutAt_eq_none_iff.2 fun hin => h.openMark_not_infix (hin.trans (List.suffix_cons _ _).isInfix)
  simp [Template.isReportable, hcut, h.1]

end IsPlain

/-- A slot that could be filled is a piece wherever it is written. -/
theorem slot_mem_pieces_iff (hfree : ∀ name, known name = true → '{' ∉ name)
    (hplain : IsPlain name) (hknown : known name = true) :
    .slot name ∈ pieces known text ↔ written name <:+: text := by
  refine ⟨written_infix_of_mem_pieces, ?_⟩
  rintro ⟨before, after, rfl⟩
  have hmark : before ++ written name ++ after =
      before ++ (openMark ++ (name ++ (closeMark ++ after))) := by simp [written]
  have hslot : slot? ('{' :: '{' :: (name ++ (closeMark ++ after))) = some (name, after) := by
    have := hplain.slot? after
    simpa [written, openMark] using this
  rw [hmark, pieces_append_openMark hfree]
  refine List.mem_append_right _ ?_
  exact (pieces_of_slot hslot hknown).symm ▸ List.mem_cons_self

/-- What is filled with more names in view. -/
theorem fillWith_eq_of_insert (hplain : IsPlain name) (hunknown : lookup name = none)
    (hknown : ∀ other, known other = true ↔ other = name ∨ (lookup other).isSome = true) :
    fillWith lookup text = (pieces known text).flatMap (Piece.value lookup) := by
  rw [fillWith]
  fun_induction pieces known text with
  | case1 => rw [pieces]
  | case2 c rest found after h hfound _ ih =>
    rw [List.flatMap_cons, ← ih]
    by_cases heq : found = name
    · subst heq
      have hcut : cutAt closeMark (found ++ (closeMark ++ after)) = some (found, after) :=
        hplain.cutAt_closeMark after
      rw [eq_of_slot? h, pieces_written_append hcut (by simp [hunknown]) hplain.openMark_not_infix,
        List.flatMap_append, flatMap_value_char, Piece.value, hunknown]
      rfl
    · have hsome := ((hknown found).1 hfound).resolve_left heq
      rw [pieces_of_slot h hsome, List.flatMap_cons]
  | case3 c rest found after h hfound ih =>
    have hnone : ¬ (lookup found).isSome = true := fun hsome =>
      hfound ((hknown found).2 (.inr hsome))
    rw [pieces_of_unknown h hnone, List.flatMap_cons, List.flatMap_cons, ih]
  | case4 c rest h ih => rw [pieces_of_no_slot h, List.flatMap_cons, List.flatMap_cons, ih]

/-- Two ways to write pieces that agree off one of them: as often as it stands there,
its length goes from the one to the other. -/
theorem length_flatMap_add_count {f g : Piece → List Char} {piece : Piece}
    (heq : ∀ other ≠ piece, f other = g other) (pieces : List Piece) :
    (pieces.flatMap f).length + pieces.count piece * (g piece).length =
      (pieces.flatMap g).length + pieces.count piece * (f piece).length := by
  induction pieces with
  | nil => simp
  | cons other pieces ih =>
    simp only [List.flatMap_cons, List.length_append]
    by_cases h : other = piece
    · rw [h, List.count_cons_self, Nat.add_mul, Nat.add_mul]
      omega
    · rw [List.count_cons_of_ne h, heq other h]
      omega

/-- Two ways to write the pieces of a text that differ at one of them write different
texts. -/
theorem flatMap_ne {f g : Piece → List Char} {piece : Piece} {pieces : List Piece}
    (hmem : piece ∈ pieces) (hne : f piece ≠ g piece) (heq : ∀ other ≠ piece, f other = g other) :
    pieces.flatMap f ≠ pieces.flatMap g := by
  intro h
  have hsame : ∀ other, (f other).length = (g other).length := by
    intro other
    by_cases ho : other = piece
    · have hcount := length_flatMap_add_count heq pieces
      rw [h] at hcount
      have hproduct := Nat.add_left_cancel hcount
      rw [ho]
      exact (Nat.eq_of_mul_eq_mul_left (List.count_pos_iff.2 hmem) hproduct).symm
    · rw [heq other ho]
  -- every piece takes the same place in both texts
  induction pieces with
  | nil => cases hmem
  | cons other pieces ih =>
    obtain ⟨hfirst, hrest⟩ := List.append_inj h (hsame other)
    rcases List.mem_cons.1 hmem with rfl | hlater
    · exact hne hfirst
    · exact ih hlater hrest

/-- A name that is looked up is a name of the context. -/
theorem of_look_isSome {context : Context} {P : List Char → Prop}
    (h : ∀ known ∈ context.names, P known.toList) (hsome : (look context name).isSome = true) :
    P name := by
  have := h _ (look_isSome_iff.1 hsome)
  rwa [String.toList_ofList] at this

theorem look_eq_none {context : Context} {name : String} (h : name ∉ context.names) :
    look context name.toList = none := by
  rw [← String.ofList_toList (s := name), ← look_isSome_iff] at h
  simpa using h

theorem look_insert (context : Context) (name value : String) (other : List Char) :
    look (context.insert name value) other =
      if other = name.toList then some value.toList else look context other := by
  have hname : String.ofList other = name ↔ other = name.toList := by
    rw [← String.toList_inj, String.toList_ofList]
  simp only [look, Context.get?_insert, hname]
  split <;> rfl

/-- A value for one more name changes what comes out exactly if the slot of the name
is written. -/
theorem fill_insert_ne_iff {context : Context} {template name value : String}
    (hfree : ∀ known ∈ context.names, '{' ∉ known.toList) (hplain : IsPlain name.toList)
    (hunknown : name ∉ context.names) (hvalue : value.toList ≠ written name.toList) :
    fill (context.insert name value) template ≠ fill context template ↔
      written name.toList <:+: template.toList := by
  constructor
  · refine fun h => Decidable.byContradiction fun hnot => h (fill_congr fun other hother => ?_)
    rw [Context.get?_insert, if_neg]
    rintro rfl
    exact hnot hother
  · intro h
    have hnone := look_eq_none hunknown
    have hlook := look_insert context name value
    have hknown : ∀ other, (look (context.insert name value) other).isSome = true ↔
        other = name.toList ∨ (look context other).isSome = true := by
      intro other
      by_cases ho : other = name.toList <;> simp [hlook, ho]
    have hbrace : ∀ other, (look (context.insert name value) other).isSome = true →
        '{' ∉ other := by
      intro other hother
      rcases (hknown other).1 hother with rfl | hsome
      · exact hplain.2.1
      · exact of_look_isSome (P := ('{' ∉ ·)) hfree hsome
    have hpiece : .slot name.toList ∈ pieces _ template.toList :=
      (slot_mem_pieces_iff hbrace hplain ((hknown _).2 (.inl rfl))).2 h
    rw [fill, fill, ne_eq, String.ofList_inj, fillWith_eq_of_insert hplain hnone hknown, fillWith]
    refine flatMap_ne hpiece ?_ fun other ho => ?_
    · simpa [Piece.value, hlook, hnone] using hvalue
    · cases other with
      | char c => rfl
      | slot other =>
        have hother : other ≠ name.toList := fun heq => ho (by rw [heq])
        rw [Piece.value, Piece.value, hlook, if_neg hother]

/-! ## The whole -/

/-- The slot of a name that is reported is written in the template. -/
theorem written_infix_of_mem_openNames {context : Context} {template name : String}
    (h : name ∈ openNames context template) : written name.toList <:+: template.toList := by
  obtain ⟨spelled, hmem, rfl⟩ := List.mem_map.1 h
  obtain ⟨-, -, inner, after, ⟨front, count, htext, -⟩, hcut⟩ := mem_openNamesWith_iff.1 hmem
  rw [htext, eq_of_cutAt hcut, String.toList_ofList]
  exact ⟨front ++ List.replicate (2 * count) '{', after, by simp [written]⟩

/-- Where braces come in pairs, a name without a value is reported if its slot is
written. -/
theorem mem_openNames_of_written_infix {context : Context} {template name : String}
    (hpairs : HasPairedBraces template.toList) (hname : isName name.toList = true)
    (hunknown : name ∉ context.names) (h : written name.toList <:+: template.toList) :
    name ∈ openNames context template := by
  obtain ⟨before, after, htext⟩ := h
  have hplain := isPlain_of_isName hname
  refine List.mem_map.2 ⟨name.toList, mem_openNamesWith_iff.2 ⟨hplain.isReportable, ?_,
    name.toList ++ (closeMark ++ after), after, ?_, hplain.cutAt_closeMark after⟩,
    String.ofList_toList⟩
  · simp [look_eq_none hunknown]
  · rw [← htext, List.append_assoc] at hpairs ⊢
    exact hpairs.isLookedAt hname

/-- Where braces come in pairs, the slot of a name that is reported is copied. -/
theorem fill_of_mem_openNames {context : Context} {template name : String}
    (hpairs : HasPairedBraces template.toList)
    (hnames : ∀ known ∈ context.names, isName known.toList = true)
    (h : name ∈ openNames context template) :
    ∃ before after, template = before ++ String.ofList (written name.toList) ++ after ∧
      fill context template =
        fill context before ++ String.ofList (written name.toList) ++ fill context after := by
  obtain ⟨spelled, hmem, rfl⟩ := List.mem_map.1 h
  obtain ⟨hreport, hunknown, inner, after, hlook, hcut⟩ := mem_openNamesWith_iff.1 hmem
  have hinner : inner = spelled ++ (closeMark ++ after) := by simpa using eq_of_cutAt hcut
  subst hinner
  have hopen : ¬ openMark <:+: spelled := by
    rw [isReportable, Bool.and_eq_true, Option.isNone_iff_eq_none, cutAt_eq_none_iff] at hreport
    exact hreport.2
  have hknown : ∀ known, (look context known).isSome = true → isName known = true := fun known =>
    of_look_isSome (P := (isName · = true)) hnames
  have hcopied : pieces (fun name => (look context name).isSome)
      (written spelled ++ after) = (written spelled).map .char ++
        pieces (fun name => (look context name).isSome) after := by
    by_cases hbrace : openMark <+: '{' :: spelled
    · -- the name starts with a brace, so what follows is no name
      obtain ⟨name, hname⟩ := (List.cons_prefix_cons.1 hbrace).2
      obtain rfl : spelled = '{' :: name := hname.symm
      refine pieces_written_brace_append hcut hunknown (fun hsome => ?_) hopen
      have := hpairs.isName_eq_false hlook hcut
      rw [hknown name hsome] at this
      cases this
    · refine pieces_written_append hcut hunknown ?_
      rw [List.infix_cons_iff, not_or]
      exact ⟨hbrace, hopen⟩
  obtain ⟨front, count, htext, -⟩ := hlook
  have hsplit : template.toList =
      (front ++ List.replicate (2 * count) '{') ++ (written spelled ++ after) := by
    rw [htext]
    simp [written]
  refine ⟨String.ofList (front ++ List.replicate (2 * count) '{'), String.ofList after, ?_, ?_⟩
  · rw [← String.toList_inj, hsplit]
    simp
  · have hfree : ∀ known, (look context known).isSome = true → '{' ∉ known := fun known hsome =>
      (isPlain_of_isName (hknown known hsome)).2.1
    rw [← String.toList_inj, fill, String.toList_ofList, hsplit,
      fillWith_around_copied hfree hcopied]
    simp [fill]

/-- Where no slot of a name stands behind an odd number of braces, the report agrees with
filling: a name is reported exactly if a value for it would change what comes out, and
the slot of a reported name is copied. -/
theorem mem_openNames_iff_fill_ne {context : Context} {template : String}
    (hpairs : HasPairedBraces template.toList)
    (hnames : ∀ name ∈ context.names, isName name.toList = true) :
    (∀ name value : String, isName name.toList = true → name ∉ context.names →
      value.toList ≠ written name.toList →
      (name ∈ openNames context template ↔
        fill (context.insert name value) template ≠ fill context template)) ∧
    ∀ name ∈ openNames context template, ∃ before after,
      template = before ++ String.ofList (written name.toList) ++ after ∧
      fill context template =
        fill context before ++ String.ofList (written name.toList) ++ fill context after := by
  refine ⟨fun name value hname hunknown hvalue => ?_,
    fun name => fill_of_mem_openNames hpairs hnames⟩
  have hfree : ∀ known ∈ context.names, '{' ∉ known.toList := fun known hmem =>
    (isPlain_of_isName (hnames known hmem)).2.1
  rw [fill_insert_ne_iff hfree (isPlain_of_isName hname) hunknown hvalue]
  exact ⟨written_infix_of_mem_openNames, mem_openNames_of_written_infix hpairs hname hunknown⟩

/-- A slot with a value and one without in braces of their own. -/
theorem mem_openNames_iff_fill_ne_age :
    let context := Context.ofList [("id", "7")]
    let template := "\x7b\"id\": \x7b\x7bid\x7d\x7d, \"age\": \x7b\x7bage\x7d\x7d\x7d"
    HasPairedBraces template.toList ∧ (∀ name ∈ context.names, isName name.toList = true) ∧
      "age" ∈ openNames context template ∧
      fill (context.insert "age" "40") template ≠ fill context template ∧
      ∃ before after, template = before ++ String.ofList (written "age".toList) ++ after ∧
        fill context template =
          fill context before ++ String.ofList (written "age".toList) ++ fill context after := by
  have hpairs : HasPairedBraces
      "\x7b\"id\": \x7b\x7bid\x7d\x7d, \"age\": \x7b\x7bage\x7d\x7d\x7d".toList :=
    hasPairedBraces_of_not_infix (by decide +kernel)
  have hnames : ∀ name ∈ (Context.ofList [("id", "7")]).names, isName name.toList = true := by
    decide
  have hall := mem_openNames_iff_fill_ne hpairs hnames
  have hage := (hall.1 "age" "40" (by decide) (by decide) (by decide)).2 (by decide +kernel)
  exact ⟨hpairs, hnames, hage, (hall.1 "age" "40" (by decide) (by decide) (by decide)).1 hage,
    hall.2 "age" hage⟩

/-- Behind an odd number of braces filling finds the slot, and the report does not: it
lists a longer name, whose slot is not copied. -/
theorem openNames_odd_run :
    let template := "\x7b\x7b\x7ba\x7d\x7d"
    let context := Context.empty.insert "a" "1"
    "a" ∉ openNames Context.empty template ∧
      fill context template ≠ fill Context.empty template ∧
      openNames context template = ["\x7ba"] ∧ fill context template = "\x7b1" := by
  decide +kernel

end CallSheet.Template
