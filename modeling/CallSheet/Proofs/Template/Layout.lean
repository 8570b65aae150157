import CallSheet.Proofs.Template
import Mathlib.Logic.ExistsUnique

/-!
# The layout of a template

A template is literal texts and slots in turn.  This module says which of the ways to
see a template like that is the right one, that there is only one, and that filling
puts the values in the place of its slots.

There are three groups.

* Slots.  `StartsWithSlot` says that a text starts with a slot, and
  `slot?_eq_some_iff` that this is what `slot?` finds.
* Layouts.  `Layout.IsExact` says that a layout has known names in its slots and no
  slot with a known name in its literal texts.  The pieces of a template are those of
  its exact layout (`Layout.IsExact.pieces_source`).
* The whole.  `Fills` says what a template is filled to, without saying how
  (`fills_fill`), and `fill_layout` puts all of it together.
-/

namespace CallSheet.Template

open Text

variable {text literal rest name after : List Char} {c : Char}

/-! ## Slots -/

/-- A text starts with the slot of a name: the name is what stands between the
opening mark and the next closing mark. -/
structure StartsWithSlot (text name : List Char) : Prop where
  spelled : written name <+: text
  next : ∀ other, written other <+: text → name.length ≤ other.length

theorem slot?_written_append (name after : List Char) :
    slot? (written name ++ after) = cutAt closeMark (name ++ (closeMark ++ after)) := by
  rw [slot?, written, List.append_assoc, List.append_assoc, dropStart?_append]
  rfl

theorem slot?_eq_some_iff :
    slot? text = some (name, after) ↔ text = written name ++ after ∧ StartsWithSlot text name := by
  constructor
  · intro h
    obtain rfl := eq_of_slot? h
    refine ⟨rfl, ⟨List.prefix_append _ _, fun other hother => ?_⟩⟩
    obtain ⟨later, hlater⟩ := hother
    rw [slot?_written_append] at h
    have hinner : name ++ (closeMark ++ after) = other ++ (closeMark ++ later) := by
      simpa [written, openMark] using hlater.symm
    exact length_le_of_cutAt (by decide) h hinner
  · rintro ⟨rfl, h⟩
    cases hslot : slot? (written name ++ after) with
    | none =>
      rw [slot?_written_append, cutAt_eq_none_iff] at hslot
      exact absurd ⟨name, after, by simp⟩ hslot
    | some found =>
      obtain ⟨first, later⟩ := found
      -- the slot that is found and the one that is written are the same length
      have hwritten := eq_of_slot? hslot
      have hle := h.next first ⟨later, hwritten.symm⟩
      have hge : first.length ≤ name.length := by
        rw [slot?_written_append] at hslot
        exact length_le_of_cutAt (by decide) hslot rfl
      have hlist : name ++ (closeMark ++ after) = first ++ (closeMark ++ later) := by
        simpa [written, openMark] using hwritten
      obtain ⟨rfl, hrest⟩ := List.append_inj hlist (Nat.le_antisymm hle hge)
      rw [List.append_cancel_left hrest]

/-! ## Layouts -/

/-- A template as literal texts and slots in turn. -/
inductive Layout where
  | text (literal : List Char)
  /-- A literal text, the name of the slot after it, and what follows the slot. -/
  | slot (literal name : List Char) (rest : Layout)
  deriving DecidableEq, Repr

namespace Layout

/-- The template of a layout. -/
def source : Layout → List Char
  | .text literal => literal
  | .slot literal name rest => literal ++ (written name ++ rest.source)

/-- The text of a layout with values in the place of its slots. -/
def filled (value : List Char → List Char) : Layout → List Char
  | .text literal => literal
  | .slot literal name rest => literal ++ (value name ++ rest.filled value)

/-- The pieces of a layout. -/
def pieces : Layout → List Piece
  | .text literal => literal.map .char
  | .slot literal name rest => literal.map .char ++ .slot name :: rest.pieces

/-- A layout with one more character before it. -/
def push (c : Char) : Layout → Layout
  | .text literal => .text (c :: literal)
  | .slot literal name rest => .slot (c :: literal) name rest

/-- The layout of some pieces. -/
def ofPieces : List Piece → Layout
  | [] => .text []
  | .char c :: more => (ofPieces more).push c
  | .slot name :: more => .slot [] name (ofPieces more)

end Layout

/-- At no character of a literal text does what is left of the template start with a
slot that has a known name. -/
def IsLiteral (known : List Char → Prop) (literal rest : List Char) : Prop :=
  ∀ before c later, literal = before ++ c :: later →
    ∀ name, StartsWithSlot (c :: later ++ rest) name → ¬ known name

/-- The slots of a layout are those of its template that have known names. -/
def Layout.IsExact (known : List Char → Prop) : Layout → Prop
  | .text literal => IsLiteral known literal []
  | .slot literal name rest =>
    IsLiteral known literal (written name ++ rest.source) ∧ known name ∧
      StartsWithSlot (written name ++ rest.source) name ∧ rest.IsExact known

variable {isKnown : List Char → Bool} {layout other : Layout}

theorem isLiteral_cons {known : List Char → Prop} :
    IsLiteral known (c :: literal) rest ↔
      (∀ name, StartsWithSlot (c :: literal ++ rest) name → ¬ known name) ∧
        IsLiteral known literal rest := by
  constructor
  · intro h
    refine ⟨h [] c literal rfl, fun before d later heq => h (c :: before) d later ?_⟩
    rw [heq]
    rfl
  · rintro ⟨hstart, h⟩ before d later heq
    cases before with
    | nil =>
      obtain ⟨rfl, rfl⟩ := List.cons_eq_cons.1 heq
      exact hstart
    | cons _ before =>
      obtain ⟨rfl, rfl⟩ := List.cons_eq_cons.1 heq
      exact h before d later rfl

/-- A character that starts no slot with a known name is a piece. -/
theorem pieces_cons (h : ∀ name, StartsWithSlot (c :: rest) name → ¬ isKnown name = true) :
    Template.pieces isKnown (c :: rest) = .char c :: Template.pieces isKnown rest := by
  cases hslot : slot? (c :: rest) with
  | none => exact pieces_of_no_slot hslot
  | some found =>
    obtain ⟨name, after⟩ := found
    exact pieces_of_unknown hslot (h name (slot?_eq_some_iff.1 hslot).2)

theorem IsLiteral.pieces_append (h : IsLiteral (isKnown · = true) literal rest) :
    Template.pieces isKnown (literal ++ rest) =
      literal.map .char ++ Template.pieces isKnown rest := by
  induction literal with
  | nil => rfl
  | cons c literal ih =>
    obtain ⟨hstart, h⟩ := isLiteral_cons.1 h
    exact (pieces_cons hstart).trans (congrArg _ (ih h))

namespace Layout

/-- The pieces of a template are those of its exact layout. -/
theorem IsExact.pieces_source (h : layout.IsExact (isKnown · = true)) :
    Template.pieces isKnown layout.source = layout.pieces := by
  induction layout with
  | text literal =>
    have := h.pieces_append
    rwa [List.append_nil, Template.pieces, List.append_nil] at this
  | slot literal name rest ih =>
    obtain ⟨hliteral, hname, hslot, hrest⟩ := h
    have hfound : slot? (written name ++ rest.source) = some (name, rest.source) :=
      slot?_eq_some_iff.2 ⟨rfl, hslot⟩
    rw [source, hliteral.pieces_append, pieces, ← ih hrest]
    exact congrArg _ (pieces_of_slot hfound hname)

theorem ofPieces_pieces (layout : Layout) : ofPieces layout.pieces = layout := by
  induction layout with
  | text literal =>
    induction literal with
    | nil => rfl
    | cons c literal ih => exact congrArg (push c) ih
  | slot literal name rest ih =>
    induction literal with
    | nil => exact congrArg (slot [] name) ih
    | cons c literal ih => exact congrArg (push c) ih

theorem source_push (c : Char) (layout : Layout) : (layout.push c).source = c :: layout.source := by
  cases layout <;> rfl

theorem IsExact.push {known : List Char → Prop} (h : layout.IsExact known)
    (hstart : ∀ name, StartsWithSlot (c :: layout.source) name → ¬ known name) :
    (layout.push c).IsExact known := by
  cases layout with
  | text literal => exact isLiteral_cons.2 ⟨by rwa [List.append_nil], h⟩
  | slot literal name rest => exact ⟨isLiteral_cons.2 ⟨hstart, h.1⟩, h.2⟩

/-- Every template has an exact layout. -/
theorem exists_isExact (isKnown : List Char → Bool) (text : List Char) :
    ∃ layout : Layout, layout.source = text ∧ layout.IsExact (isKnown · = true) := by
  fun_induction Template.pieces isKnown text with
  | case1 => exact ⟨.text [], rfl, fun before c later heq => by simp at heq⟩
  | case2 c rest name after h hknown _ ih =>
    obtain ⟨layout, rfl, hexact⟩ := ih
    obtain ⟨htext, hslot⟩ := slot?_eq_some_iff.1 h
    refine ⟨.slot [] name layout, htext.symm, fun before c later heq => by simp at heq, hknown, ?_,
      hexact⟩
    rwa [← htext]
  | case3 c rest name after h hunknown ih =>
    obtain ⟨layout, rfl, hexact⟩ := ih
    refine ⟨layout.push c, source_push c layout, hexact.push fun other hother => ?_⟩
    -- only one slot can start here
    obtain ⟨later, hlater⟩ := hother.spelled
    have := slot?_eq_some_iff.2 ⟨hlater.symm, hother⟩
    rw [h] at this
    rwa [← (Prod.mk.inj (Option.some.inj this)).1]
  | case4 c rest h ih =>
    obtain ⟨layout, rfl, hexact⟩ := ih
    refine ⟨layout.push c, source_push c layout, hexact.push fun other hother => ?_⟩
    obtain ⟨later, hlater⟩ := hother.spelled
    rw [slot?_eq_some_iff.2 ⟨hlater.symm, hother⟩] at h
    cases h

/-- A template has one exact layout only. -/
theorem IsExact.eq_of_source (h : layout.IsExact (isKnown · = true))
    (h' : other.IsExact (isKnown · = true)) (hsource : layout.source = other.source) :
    layout = other := by
  rw [← ofPieces_pieces layout, ← ofPieces_pieces other, ← h.pieces_source, ← h'.pieces_source,
    hsource]

theorem flatMap_value_pieces (look : List Char → Option (List Char)) (layout : Layout) :
    layout.pieces.flatMap (Piece.value look) =
      layout.filled fun name => (look name).getD (written name) := by
  induction layout with
  | text literal => exact flatMap_value_char look literal
  | slot literal name rest ih =>
    rw [pieces, List.flatMap_append, flatMap_value_char, List.flatMap_cons, ih]
    rfl

end Layout

/-! ## The whole -/

/-- A layout of a template, for the names that a context has values for. -/
def Layout.IsOf (layout : Layout) (context : Context) (template : String) : Prop :=
  layout.source = template.toList ∧ layout.IsExact fun name => String.ofList name ∈ context.names

/-- The value under a name of a context. -/
def valueOf (context : Context) (name : List Char) : List Char :=
  ((context.get? (String.ofList name)).getD "").toList

theorem look_isSome_iff {context : Context} :
    (look context name).isSome = true ↔ String.ofList name ∈ context.names := by
  simp [Context.mem_names_iff, look]

theorem isExact_names_iff {context : Context} :
    (layout.IsExact fun name => String.ofList name ∈ context.names) ↔
      layout.IsExact fun name => (look context name).isSome = true := by
  have hnames : (fun name => String.ofList name ∈ context.names) =
      fun name => (look context name).isSome = true :=
    funext fun _ => propext look_isSome_iff.symm
  rw [hnames]

/-- In an exact layout every slot has a value. -/
theorem Layout.IsExact.filled_congr {known : List Char → Prop} (h : layout.IsExact known)
    {value value' : List Char → List Char} (heq : ∀ name, known name → value name = value' name) :
    layout.filled value = layout.filled value' := by
  induction layout with
  | text literal => rfl
  | slot literal name rest ih =>
    obtain ⟨-, hname, -, hrest⟩ := h
    rw [filled, filled, heq name hname, ih hrest]

/-- Filling puts values in the place of slots. -/
theorem Layout.IsOf.toList_fill {context : Context} {template : String}
    (h : layout.IsOf context template) :
    (fill context template).toList = layout.filled (valueOf context) := by
  obtain ⟨hsource, hexact⟩ := h
  have hknown := isExact_names_iff.1 hexact
  rw [fill, String.toList_ofList, ← hsource, fillWith, hknown.pieces_source, flatMap_value_pieces]
  refine hexact.filled_congr fun name hname => ?_
  obtain ⟨value, hvalue⟩ := Option.isSome_iff_exists.1 (Context.mem_names_iff.1 hname)
  simp [look, valueOf, hvalue]

/-- Every template has a layout. -/
theorem Layout.exists_isOf (context : Context) (template : String) :
    ∃ layout : Layout, layout.IsOf context template := by
  obtain ⟨layout, hsource, hexact⟩ :=
    exists_isExact (fun name => (look context name).isSome) template.toList
  exact ⟨layout, hsource, isExact_names_iff.2 hexact⟩

/-- A template has one layout only. -/
theorem Layout.IsOf.unique {context : Context} {template : String}
    (h : layout.IsOf context template) (h' : other.IsOf context template) : layout = other :=
  (isExact_names_iff.1 h.2).eq_of_source (isExact_names_iff.1 h'.2) (h.1.trans h'.1.symm)

/-- A text is a template with the values of a context in the place of its slots. -/
def Fills (context : Context) (template text : String) : Prop :=
  ∃ layout : Layout, layout.IsOf context template ∧ text.toList = layout.filled (valueOf context)

theorem fills_fill (context : Context) (template : String) :
    Fills context template (fill context template) := by
  obtain ⟨layout, h⟩ := Layout.exists_isOf context template
  exact ⟨layout, h, h.toList_fill⟩

/-- If every slot is filled with itself, nothing changes. -/
theorem fill_eq_self {context : Context} (template : String)
    (h : ∀ name value, context.get? name = some value → value.toList = written name.toList) :
    fill context template = template := by
  have hpiece : Piece.value (look context) = Piece.source := by
    funext piece
    cases piece with
    | char c => rfl
    | slot name =>
      cases hvalue : context.get? (String.ofList name) with
      | none => simp [Piece.value, Piece.source, look, hvalue]
      | some value => simp [Piece.value, Piece.source, look, hvalue, h _ _ hvalue]
  rw [fill, fillWith, hpiece, source_pieces, String.ofList_toList]

/-- A template has one layout, and filling puts the values of the context in the place
of its slots and copies everything else.  So what comes out depends on the values of
the names whose slots are written in the template, and not on the order of the context. -/
theorem fill_layout (context : Context) (template : String) :
    (∃! layout : Layout, layout.IsOf context template) ∧
      (∀ layout : Layout, layout.IsOf context template →
        (fill context template).toList = layout.filled (valueOf context)) ∧
      (∀ other : Context,
        (∀ name : String, written name.toList <:+: template.toList →
          other.get? name = context.get? name) →
        fill other template = fill context template) ∧
      (∀ other : Context, other.entries.Perm context.entries →
        fill other template = fill context template) ∧
      ((∀ name value, context.get? name = some value → value.toList = written name.toList) →
        fill context template = template) := by
  refine ⟨?_, fun layout h => h.toList_fill, fun other h => fill_congr h, fun other hperm => ?_,
    fill_eq_self template⟩
  · obtain ⟨layout, h⟩ := Layout.exists_isOf context template
    exact ⟨layout, h, fun other hother => hother.unique h⟩
  · refine fill_congr fun name _ => Option.ext fun value => ?_
    rw [Context.get?_eq_some_iff, Context.get?_eq_some_iff, hperm.mem_iff]

/-- Braces around a known slot and a slot without a value. -/
theorem fill_layout_braces :
    let context := Context.ofList [("a", "\x7b\x7ba\x7d\x7d")]
    (∀ name value, context.get? name = some value → value.toList = written name.toList) ∧
      fill context "\x7b\x7b\x7ba\x7d\x7d\x7d \x7b\x7bb\x7d\x7d" =
        "\x7b\x7b\x7ba\x7d\x7d\x7d \x7b\x7bb\x7d\x7d" := by
  have hself : ∀ name value,
      (Context.ofList [("a", "\x7b\x7ba\x7d\x7d")]).get? name = some value →
        value.toList = written name.toList := by
    intro name value h
    have hmem : (name, value) ∈ [("a", "\x7b\x7ba\x7d\x7d")] := Context.get?_eq_some_iff.1 h
    obtain ⟨rfl, rfl⟩ := Prod.mk.inj (List.mem_singleton.1 hmem)
    decide
  exact ⟨hself, (fill_layout _ _).2.2.2.2 hself⟩

end CallSheet.Template
