import CallSheet.Context.Template
import CallSheet.Proofs.Text

/-!
# Filling templates

What the filled text depends on, and what it is for a template with one slot.

* Pieces.  The three equations of `pieces` tell what stands at the start of a
  template, and `written_infix_of_mem_pieces` says that a slot among the pieces
  is written in the template.
* Congruence.  Two look-ups fill a template alike if they agree on every name
  whose slot is written in it (`fill_congr`).
* One slot.  `fill_around` fills a template with a single slot, and shows that
  the value is not read for slots.
-/

namespace CallSheet.Template

open Text

variable {known : List Char → Bool} {c : Char} {rest name after text : List Char}

/-! ## Pieces -/

theorem pieces_of_slot (h : slot? (c :: rest) = some (name, after)) (hk : known name = true) :
    pieces known (c :: rest) = .slot name :: pieces known after := by
  rw [pieces]
  split
  · next found foundAfter heq =>
    rw [h] at heq
    cases heq
    rw [if_pos hk]
  · next heq =>
    rw [h] at heq
    cases heq

theorem pieces_of_unknown (h : slot? (c :: rest) = some (name, after)) (hk : ¬ known name = true) :
    pieces known (c :: rest) = .char c :: pieces known rest := by
  rw [pieces]
  split
  · next found foundAfter heq =>
    rw [h] at heq
    cases heq
    rw [if_neg hk]
  · rfl

theorem pieces_of_no_slot (h : slot? (c :: rest) = none) :
    pieces known (c :: rest) = .char c :: pieces known rest := by
  rw [pieces]
  split
  · next found foundAfter heq =>
    rw [h] at heq
    cases heq
  · rfl

/-- The name of a slot that a text starts with is written there. -/
theorem written_infix_of_slot? (h : slot? text = some (name, after)) : written name <:+: text := by
  rw [eq_of_slot? h]
  exact List.infix_append_left

theorem after_infix_of_slot? (h : slot? text = some (name, after)) : after <:+: text := by
  rw [eq_of_slot? h]
  exact List.infix_append_right

/-- A slot among the pieces is written in the template. -/
theorem written_infix_of_mem_pieces (h : .slot name ∈ pieces known text) :
    written name <:+: text := by
  obtain ⟨before, later, hpieces⟩ := List.append_of_mem h
  refine ⟨before.flatMap Piece.source, later.flatMap Piece.source, ?_⟩
  conv => rhs; rw [← source_pieces known text, hpieces]
  simp [Piece.source]

/-! ## Congruence -/

/-- The pieces depend on the names whose slots are written in the template. -/
theorem pieces_congr {left right : List Char → Bool}
    (h : ∀ name, written name <:+: text → left name = right name) :
    pieces left text = pieces right text := by
  fun_induction pieces left text with
  | case1 => rw [pieces]
  | case2 c rest name after hs hk _ ih =>
    have hr : right name = true := by rw [← h name (written_infix_of_slot? hs), hk]
    rw [pieces_of_slot hs hr, ih fun other ho => h other (ho.trans (after_infix_of_slot? hs))]
  | case3 c rest name after hs hk ih =>
    have hr : ¬ right name = true := by rwa [← h name (written_infix_of_slot? hs)]
    rw [pieces_of_unknown hs hr,
      ih fun other ho => h other (ho.trans (List.suffix_cons c rest).isInfix)]
  | case4 c rest hs ih =>
    rw [pieces_of_no_slot hs,
      ih fun other ho => h other (ho.trans (List.suffix_cons c rest).isInfix)]

/-- What a template is filled with depends on the names whose slots are
written in it. -/
theorem fillWith_congr {left right : List Char → Option (List Char)}
    (h : ∀ name, written name <:+: text → left name = right name) :
    fillWith left text = fillWith right text := by
  have hpieces : pieces (fun name => (left name).isSome) text =
      pieces (fun name => (right name).isSome) text :=
    pieces_congr fun name hname => by rw [h name hname]
  rw [fillWith, fillWith, ← hpieces, List.flatMap_def, List.flatMap_def]
  congr 1
  refine List.map_congr_left fun piece hmem => ?_
  cases piece with
  | char c => rfl
  | slot name => rw [Piece.value, Piece.value, h name (written_infix_of_mem_pieces hmem)]

/-- Contexts that agree on every name whose slot is written in a template fill
it alike. -/
theorem fill_congr {left right : Context} {template : String}
    (h : ∀ name : String, written name.toList <:+: template.toList →
      left.get? name = right.get? name) :
    fill left template = fill right template := by
  rw [fill, fill, fillWith_congr fun name hname => ?_]
  rw [look, look, h (String.ofList name) (by rwa [String.toList_ofList])]

/-! ## One slot -/

/-- A character other than a brace parts the opening marks before it from those
after it. -/
theorem not_openMark_infix_append {left right : List Char} (hc : c ≠ '{')
    (hleft : ¬ openMark <:+: left) (hright : ¬ openMark <:+: right) :
    ¬ openMark <:+: left ++ c :: right := by
  induction left with
  | nil =>
    rw [List.nil_append, List.infix_cons_iff, not_or]
    refine ⟨fun hprefix => ?_, hright⟩
    exact hc (List.cons_prefix_cons.1 hprefix).1.symm
  | cons x left ih =>
    rw [List.infix_cons_iff, not_or] at hleft
    rw [List.cons_append, List.infix_cons_iff, not_or]
    refine ⟨fun hprefix => ?_, ih hleft.2⟩
    obtain ⟨hx, hnext⟩ := List.cons_prefix_cons.1 hprefix
    cases left with
    | nil => exact hc (List.cons_prefix_cons.1 hnext).1.symm
    | cons y left =>
      obtain ⟨hy, -⟩ := List.cons_prefix_cons.1 hnext
      exact hleft.1 ⟨left, by rw [← hx, ← hy]; rfl⟩

/-- A written slot is read back, if its name holds no closing mark, also none
that its own closing mark completes. -/
theorem slot?_written (h : ¬ closeMark <:+: name ++ closeMark.dropLast) (after : List Char) :
    slot? (written name ++ after) = some (name, after) := by
  rw [slot?, written, List.append_assoc, List.append_assoc, dropStart?_append]
  exact cutAt_append h after

/-- Where no slot opens, every character stands for itself. -/
theorem pieces_append (known : List Char → Bool) {left right : List Char}
    (h : ¬ openMark <:+: left ++ right.take 1) :
    pieces known (left ++ right) = left.map .char ++ pieces known right := by
  induction left with
  | nil => rfl
  | cons c left ih =>
    have hleft : ¬ openMark <:+: left ++ right.take 1 :=
      fun hin => h (hin.trans (List.suffix_cons c _).isInfix)
    have hstart : ¬ openMark <+: c :: (left ++ right) := by
      intro hprefix
      have hfirst : c :: left ++ right.take 1 <+: c :: left ++ right :=
        (List.prefix_append_right_inj (c :: left)).2 (List.take_prefix 1 right)
      have hlength : openMark.length ≤ (c :: left ++ right.take 1).length := by
        have := hprefix.length_le
        simp only [openMark, List.length_append, List.length_cons, List.length_nil,
          List.length_take] at this ⊢
        omega
      exact h (List.prefix_of_prefix_length_le hprefix hfirst hlength).isInfix
    have hnone : slot? (c :: (left ++ right)) = none := by
      rw [slot?, dropStart?_eq_none_iff.2 hstart, Option.bind_none]
    rw [List.cons_append, pieces_of_no_slot hnone, ih hleft]
    rfl

/-- The characters that stand for themselves are kept. -/
theorem flatMap_value_char (look : List Char → Option (List Char)) (text : List Char) :
    (text.map Piece.char).flatMap (Piece.value look) = text := by
  induction text with
  | nil => rfl
  | cons c text ih => rw [List.map_cons, List.flatMap_cons, ih]; rfl

/-- In a template with one slot, the value takes the place of the slot.  The
value itself may hold any marks. -/
theorem fillWith_around {look : List Char → Option (List Char)} {left right value : List Char}
    (hleft : ¬ openMark <:+: left ++ ['{']) (hright : ¬ openMark <:+: right)
    (hname : ¬ closeMark <:+: name ++ closeMark.dropLast) (hvalue : look name = some value) :
    fillWith look (left ++ (written name ++ right)) = left ++ (value ++ right) := by
  have hslot : slot? ('{' :: ('{' :: (name ++ (closeMark ++ right)))) = some (name, right) := by
    have := slot?_written hname right
    rwa [written, List.append_assoc, List.append_assoc] at this
  have hend : pieces (fun name => (look name).isSome) right = right.map .char := by
    have halone : ¬ openMark <:+: right ++ [].take 1 := by
      rwa [List.take_nil, List.append_nil]
    have := pieces_append (fun name => (look name).isSome) halone
    rwa [List.append_nil, pieces, List.append_nil] at this
  have hslot' : pieces (fun name => (look name).isSome) (written name ++ right) =
      .slot name :: right.map .char := by
    rw [written, List.append_assoc, List.append_assoc]
    exact (pieces_of_slot hslot (by rw [hvalue]; rfl)).trans (by rw [hend])
  rw [fillWith, pieces_append _ hleft, hslot', List.flatMap_append, List.flatMap_cons,
    flatMap_value_char, flatMap_value_char, Piece.value, hvalue]
  rfl

/-- Filling a template with one slot whose name has a value. -/
theorem fill_around {context : Context} {template : String} {left right : List Char}
    {name value : String}
    (htemplate : template.toList = left ++ (written name.toList ++ right))
    (hleft : ¬ openMark <:+: left ++ ['{']) (hright : ¬ openMark <:+: right)
    (hname : ¬ closeMark <:+: name.toList ++ closeMark.dropLast)
    (hvalue : context.get? name = some value) :
    fill context template = String.ofList (left ++ (value.toList ++ right)) := by
  have hlook : look context name.toList = some value.toList := by
    rw [look, String.ofList_toList, hvalue, Option.map_some]
  rw [fill, htemplate, fillWith_around hleft hright hname hlook]

end CallSheet.Template
