import CallSheet.Shell.Bytes

/-!
# Patterns

What a word means where scripts compare texts with it: a star stands for any
bytes, a question mark for one of them, and brackets for one of some bytes.
Quoted bytes stand for themselves.

Main statement: quoted bytes match themselves and nothing else
(`accepts_ofGlyphs_literals_iff`).
-/

namespace CallSheet.Shell

/-- A byte of a word; a literal one stands for itself. -/
structure Glyph where
  byte : UInt8
  literal : Bool
  deriving DecidableEq, Repr

namespace Glyph

/-- A byte that is not quoted. -/
def live (byte : UInt8) : Glyph := ⟨byte, false⟩

/-- The bytes of glyphs. -/
def bytes (glyphs : List Glyph) : Bytes := glyphs.map (·.byte)

/-- Glyphs of which each stands for itself. -/
def literals (bytes : Bytes) : List Glyph := bytes.map (⟨·, true⟩)

end Glyph

/-- A part of a pattern. -/
inductive Piece where
  | byte (byte : UInt8)
  | anyOne
  | anyMany
  | oneOf (set : Bytes)
  deriving DecidableEq, Repr

/-- A pattern. -/
abbrev Pattern := List Piece

namespace Pattern

/-! ## Matching -/

/-- Whether a pattern stands for a text. -/
def accepts : Pattern → Bytes → Bool
  | [], text => text.isEmpty
  | .anyMany :: rest, [] => accepts rest []
  | .anyMany :: rest, b :: text => accepts rest (b :: text) || accepts (.anyMany :: rest) text
  | _ :: _, [] => false
  | .byte c :: rest, b :: text => b == c && accepts rest text
  | .anyOne :: rest, _ :: text => accepts rest text
  | .oneOf set :: rest, b :: text => set.contains b && accepts rest text
termination_by pattern text => (pattern.length, text.length)

/-! ## Reading -/

/-- The class that glyphs after an opening bracket name, and the glyphs after
it. -/
def class? (glyphs : List Glyph) : Option (Bytes × List Glyph) :=
  match glyphs with
  | ⟨58, false⟩ :: rest =>
    let name := rest.takeWhile (·.byte != 58)
    match rest.drop name.length with
    | _ :: ⟨93, _⟩ :: after => some (Bytes.ofClass (stringOf (Glyph.bytes name)), after)
    | _ => none
  | _ => none

/-- The bytes up to a closing bracket, and the glyphs after it; a bracket that
stands first closes nothing. -/
def bracket? (first : Bool) : Nat → List Glyph → Option (Bytes × List Glyph)
  | 0, _ => none
  | _, [] => none
  | fuel + 1, glyph :: rest =>
    if glyph = Glyph.live 93 ∧ !first then some ([], rest)
    else
      let goOn (bytes : Bytes) (rest : List Glyph) : Option (Bytes × List Glyph) :=
        (bracket? false fuel rest).map fun (more, after) => (bytes ++ more, after)
      match if glyph = Glyph.live 91 then class? rest else none with
      | some (bytes, after) => goOn bytes after
      | none =>
        match rest with
        | ⟨45, false⟩ :: last :: after =>
          if last = Glyph.live 93 then goOn [glyph.byte] rest
          else goOn (Bytes.range glyph.byte last.byte) after
        | _ => goOn [glyph.byte] rest

/-- The set of bytes between brackets, and the glyphs after it. -/
def set? (glyphs : List Glyph) : Option (Bytes × List Glyph) :=
  match glyphs with
  | ⟨33, false⟩ :: rest =>
    (bracket? true (rest.length + 1) rest).map fun (set, after) => (Bytes.except set, after)
  | _ => bracket? true (glyphs.length + 1) glyphs

/-- The pattern that glyphs spell; `fuel` bounds their number. -/
def read : Nat → List Glyph → Pattern
  | 0, _ => []
  | _, [] => []
  | fuel + 1, glyph :: rest =>
    if glyph.literal then .byte glyph.byte :: read fuel rest
    else if glyph.byte = 42 then .anyMany :: read fuel rest
    else if glyph.byte = 63 then .anyOne :: read fuel rest
    else if glyph.byte = 91 then
      match set? rest with
      | some (set, after) => .oneOf set :: read fuel after
      | none => .byte 91 :: read fuel rest
    else .byte glyph.byte :: read fuel rest

/-- The pattern that glyphs spell. -/
def ofGlyphs (glyphs : List Glyph) : Pattern := read glyphs.length glyphs

/-- Whether glyphs can stand for more than their bytes. -/
def isOpen (glyphs : List Glyph) : Bool :=
  glyphs.any fun glyph => !glyph.literal && [42, 63, 91].contains glyph.byte

/-! ## Quoted bytes -/

theorem read_literals (bytes : Bytes) :
    read bytes.length (Glyph.literals bytes) = bytes.map .byte := by
  induction bytes with
  | nil => rfl
  | cons b rest ih =>
    rw [Glyph.literals] at ih
    simp [Glyph.literals, read, ih]

theorem accepts_bytes_iff (bytes text : Bytes) :
    accepts (bytes.map .byte) text = true ↔ text = bytes := by
  induction bytes generalizing text with
  | nil => simp [accepts]
  | cons b rest ih =>
    cases text with
    | nil => simp [accepts]
    | cons c text => simp [accepts, ih]

/-- Quoted bytes match themselves and nothing else. -/
theorem accepts_ofGlyphs_literals_iff (bytes text : Bytes) :
    accepts (ofGlyphs (Glyph.literals bytes)) text = true ↔ text = bytes := by
  rw [ofGlyphs, show (Glyph.literals bytes).length = bytes.length by simp [Glyph.literals],
    read_literals, accepts_bytes_iff]

/-! ## Taking off -/

/-- The text without the shortest or longest start that a pattern stands for. -/
def dropStart (longest : Bool) (pattern : Pattern) (text : Bytes) : Bytes :=
  let sizes := List.range (text.length + 1)
  match (if longest then sizes.reverse else sizes).find? fun n => accepts pattern (text.take n) with
  | some n => text.drop n
  | none => text

/-- The text without the shortest or longest end that a pattern stands for. -/
def dropEnd (longest : Bool) (pattern : Pattern) (text : Bytes) : Bytes :=
  let sizes := List.range (text.length + 1)
  match (if longest then sizes else sizes.reverse).find? fun n => accepts pattern (text.drop n) with
  | some n => text.take n
  | none => text

end Pattern

end CallSheet.Shell
