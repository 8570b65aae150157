import CallSheet.Text.Base64
import CallSheet.Proofs.Text.Utf8
import Mathlib.Algebra.Group.Nat.Defs

/-!
# Base64 codes

What a base64 code stands for, and that all bytes have exactly one code.

There are five groups.

* Symbols.  A byte that is read as a value is the symbol of this value.
* Bits.  Numbers of so many bits, and the bits of numbers in a row.
* Quads.  The symbols of up to three bytes: `quadValues` and `quadBytes` are inverse to
  each other.
* Codes.  `Spells` says what a code stands for, in bits and without quads.
* Writing.  What is written for bytes is the one code that spells them (`spells_iff`).
-/

namespace CallSheet.Text.Base64

variable {bytes group : List UInt8} {code : List Char} {values : List Nat} {pads : Nat}
  {v x y width : Nat} {b : UInt8}

/-! ## Symbols -/

/-- The symbols, in the order of their values. -/
def alphabet : List Char :=
  "ABCDEFGHIJKLMNOPQRSTUVWXYZabcdefghijklmnopqrstuvwxyz0123456789+/".toList

theorem symbol_eq : ∀ v < 64, symbol v = alphabet.getD v '=' := by decide

/-- The byte that a symbol is in a text. -/
def symbolByte (v : Nat) : UInt8 := (symbol v).toNat.toUInt8

theorem encodeChar_symbol : ∀ v < 64, Utf8.encodeChar (symbol v) = [symbolByte v] := by decide

theorem value?_symbolByte : ∀ v < 64, value? (symbolByte v) = some v := by decide

theorem symbolByte_ne_pad : ∀ v < 64, symbolByte v ≠ pad := by decide

/-- A byte that has a value is the symbol of this value. -/
theorem eq_symbolByte_of_value? (h : value? b = some v) : v < 64 ∧ b = symbolByte v :=
  Utf8.forall_byte (P := fun b => ∀ v ∈ value? b, v < 64 ∧ b = symbolByte v) (by decide +kernel)
    b v h

/-! ## Bits -/

/-- So many bits of a number, the lowest of them last. -/
def bits : Nat → Nat → List Bool
  | 0, _ => []
  | width + 1, n => n.testBit width :: bits width n

@[simp] theorem length_bits (width n : Nat) : (bits width n).length = width := by
  induction width with
  | zero => rfl
  | succ width ih => rw [bits, List.length_cons, ih]

theorem bits_zero (width : Nat) : bits width 0 = List.replicate width false := by
  induction width with
  | zero => rfl
  | succ width ih => rw [bits, ih, Nat.zero_testBit, List.replicate_succ]

theorem bits_add (high low n : Nat) :
    bits (high + low) n = bits high (n / 2 ^ low) ++ bits low n := by
  induction high with
  | zero => rw [Nat.zero_add, bits, List.nil_append]
  | succ high ih =>
    rw [Nat.add_right_comm, bits, bits, ih, Nat.testBit_div_two_pow, List.cons_append]

/-- Numbers have the same low bits if they have the same remainder. -/
theorem bits_eq_iff : bits width x = bits width y ↔ x % 2 ^ width = y % 2 ^ width := by
  induction width with
  | zero => simp [bits, Nat.mod_one]
  | succ width ih =>
    have hx : x % 2 ^ width < 2 ^ width := Nat.mod_lt x (Nat.two_pow_pos width)
    have hy : y % 2 ^ width < 2 ^ width := Nat.mod_lt y (Nat.two_pow_pos width)
    rw [bits, bits, List.cons_eq_cons, ih, Nat.testBit_eq_decide_div_mod_eq,
      Nat.testBit_eq_decide_div_mod_eq, decide_eq_decide, Nat.mod_pow_succ, Nat.mod_pow_succ]
    rcases Nat.mod_two_eq_zero_or_one (x / 2 ^ width) with hx' | hx' <;>
      rcases Nat.mod_two_eq_zero_or_one (y / 2 ^ width) with hy' | hy' <;>
      rw [hx', hy'] <;> omega

/-- The bits of a number that is put together from a high and a low part. -/
theorem bits_join (high low : Nat) (hy : y < 2 ^ low) (x : Nat) :
    bits (high + low) (x % 2 ^ high * 2 ^ low + y) = bits high x ++ bits low y := by
  rw [bits_add, Nat.add_comm, Nat.add_mul_div_right _ _ (Nat.two_pow_pos low),
    Nat.div_eq_of_lt hy, Nat.zero_add]
  congr 1
  · rw [bits_eq_iff, Nat.mod_mod]
  · rw [bits_eq_iff, Nat.add_mul_mod_self_right]

/-- The bits of numbers in a row. -/
def row (width : Nat) (values : List Nat) : List Bool := values.flatMap (bits width)

theorem row_append (width : Nat) (first second : List Nat) :
    row width (first ++ second) = row width first ++ row width second :=
  List.flatMap_append

theorem length_row (width : Nat) (values : List Nat) :
    (row width values).length = width * values.length := by
  induction values with
  | nil => rfl
  | cons v values ih =>
    rw [row, List.flatMap_cons, ← row, List.length_append, ih, length_bits, List.length_cons,
      Nat.mul_succ, Nat.add_comm]

/-- Numbers that are small enough are given by their bits. -/
theorem row_injective {others : List Nat} (hlength : values.length = others.length)
    (hvalues : ∀ v ∈ values, v < 2 ^ width) (hothers : ∀ v ∈ others, v < 2 ^ width)
    (h : row width values = row width others) : values = others := by
  induction values generalizing others with
  | nil => exact (List.length_eq_zero_iff.1 hlength.symm).symm
  | cons v values ih =>
    cases others with
    | nil => cases hlength
    | cons other others =>
      rw [List.forall_mem_cons] at hvalues hothers
      rw [row, row, List.flatMap_cons, List.flatMap_cons] at h
      obtain ⟨hhead, htail⟩ := List.append_inj h (by simp)
      rw [bits_eq_iff, Nat.mod_eq_of_lt hvalues.1, Nat.mod_eq_of_lt hothers.1] at hhead
      rw [hhead, ih (Nat.succ.inj hlength) hvalues.2 hothers.2 htail]

/-! ## Quads -/

/-- The bytes that go into one quad. -/
inductive IsGroup : List UInt8 → Prop where
  | one (a : UInt8) : IsGroup [a]
  | two (a b : UInt8) : IsGroup [a, b]
  | three (a b c : UInt8) : IsGroup [a, b, c]

/-- The values of the symbols of the bytes in one quad. -/
def quadValues : List UInt8 → List Nat
  | [a] => [a.toNat / 4, a.toNat % 4 * 16]
  | [a, b] => [a.toNat / 4, a.toNat % 4 * 16 + b.toNat / 16, b.toNat % 16 * 4]
  | [a, b, c] =>
    [a.toNat / 4, a.toNat % 4 * 16 + b.toNat / 16, b.toNat % 16 * 4 + c.toNat / 64, c.toNat % 64]
  | _ => []

theorem IsGroup.quadValues_lt (h : IsGroup group) : ∀ v ∈ quadValues group, v < 64 := by
  cases h with
  | one a =>
    have ha := a.toNat_lt
    simp only [quadValues, List.mem_cons, List.not_mem_nil, or_false, forall_eq_or_imp, forall_eq]
    omega
  | two a b =>
    have ha := a.toNat_lt
    have hb := b.toNat_lt
    simp only [quadValues, List.mem_cons, List.not_mem_nil, or_false, forall_eq_or_imp, forall_eq]
    omega
  | three a b c =>
    have ha := a.toNat_lt
    have hb := b.toNat_lt
    have hc := c.toNat_lt
    simp only [quadValues, List.mem_cons, List.not_mem_nil, or_false, forall_eq_or_imp, forall_eq]
    omega

theorem IsGroup.length_range (h : IsGroup group) : 0 < group.length ∧ group.length ≤ 3 := by
  cases h <;> simp

theorem IsGroup.length_quadValues (h : IsGroup group) :
    (quadValues group).length = group.length + 1 := by
  cases h <;> rfl

/-- The symbols of some bytes have their bits, and zeros behind them. -/
theorem IsGroup.row_quadValues (h : IsGroup group) :
    row 6 (quadValues group) =
      row 8 (group.map UInt8.toNat) ++ List.replicate (2 * (3 - group.length)) false := by
  have hhigh (n : Nat) : bits 8 n = bits 6 (n / 4) ++ bits 2 n := bits_add 6 2 n
  have hmiddle (n : Nat) : bits 8 n = bits 4 (n / 16) ++ bits 4 n := bits_add 4 4 n
  have hlow (n : Nat) : bits 8 n = bits 2 (n / 64) ++ bits 6 n := bits_add 2 6 n
  cases h with
  | one a =>
    have hlast : bits 6 (a.toNat % 4 * 16) = bits 2 a.toNat ++ bits 4 0 := by
      simpa using bits_join 2 4 (show 0 < 2 ^ 4 by decide) a.toNat
    simp only [quadValues, row, List.map_cons, List.map_nil, List.flatMap_cons, List.flatMap_nil,
      List.append_nil]
    rw [hhigh a.toNat, hlast, bits_zero, List.append_assoc]
    rfl
  | two a b =>
    have hb := b.toNat_lt
    have hsecond : bits 6 (a.toNat % 4 * 16 + b.toNat / 16) =
        bits 2 a.toNat ++ bits 4 (b.toNat / 16) :=
      bits_join 2 4 (show b.toNat / 16 < 16 by omega) a.toNat
    have hlast : bits 6 (b.toNat % 16 * 4) = bits 4 b.toNat ++ bits 2 0 := by
      simpa using bits_join 4 2 (show 0 < 2 ^ 2 by decide) b.toNat
    simp only [quadValues, row, List.map_cons, List.map_nil, List.flatMap_cons, List.flatMap_nil,
      List.append_nil]
    rw [hhigh a.toNat, hmiddle b.toNat, hsecond, hlast, bits_zero]
    simp
  | three a b c =>
    have hb := b.toNat_lt
    have hc := c.toNat_lt
    have hsecond : bits 6 (a.toNat % 4 * 16 + b.toNat / 16) =
        bits 2 a.toNat ++ bits 4 (b.toNat / 16) :=
      bits_join 2 4 (show b.toNat / 16 < 16 by omega) a.toNat
    have hthird : bits 6 (b.toNat % 16 * 4 + c.toNat / 64) =
        bits 4 b.toNat ++ bits 2 (c.toNat / 64) :=
      bits_join 4 2 (show c.toNat / 64 < 4 by omega) b.toNat
    have hlast : bits 6 (c.toNat % 64) = bits 6 c.toNat := bits_eq_iff.2 (Nat.mod_mod c.toNat 64)
    simp only [quadValues, row, List.map_cons, List.map_nil, List.flatMap_cons, List.flatMap_nil,
      List.append_nil]
    rw [hhigh a.toNat, hmiddle b.toNat, hlow c.toNat, hsecond, hthird, hlast]
    simp

/-- The bytes of the symbols of some bytes are these bytes, and no bits are left over. -/
theorem IsGroup.quadBytes_quadValues (h : IsGroup group) :
    quadBytes (quadValues group) = (group, false) := by
  cases h with
  | one a =>
    have ha := a.toNat_lt
    rw [quadValues, quadBytes, Utf8.byte_eq (a := a) (by omega)]
    simp
  | two a b =>
    have ha := a.toNat_lt
    have hb := b.toNat_lt
    rw [quadValues, quadBytes, Utf8.byte_eq (a := a) (by omega), Utf8.byte_eq (a := b) (by omega)]
    simp
  | three a b c =>
    have ha := a.toNat_lt
    have hb := b.toNat_lt
    have hc := c.toNat_lt
    rw [quadValues, quadBytes, Utf8.byte_eq (a := a) (by omega), Utf8.byte_eq (a := b) (by omega),
      Utf8.byte_eq (a := c) (by omega)]

/-- Symbols without bits left over are those of their bytes. -/
theorem quadValues_quadBytes (hvalues : ∀ v ∈ values, v < 64) (hcount : 2 ≤ values.length)
    (hlength : values.length ≤ 4) (hleft : (quadBytes values).2 = false) :
    IsGroup (quadBytes values).1 ∧ quadValues (quadBytes values).1 = values := by
  rcases values with _ | ⟨v₁, _ | ⟨v₂, _ | ⟨v₃, _ | ⟨v₄, _ | ⟨v₅, values⟩⟩⟩⟩⟩
  · simp at hcount
  · simp at hcount
  · simp only [List.forall_mem_cons] at hvalues
    obtain ⟨h₁, h₂, -⟩ := hvalues
    have hzero : v₂ % 16 = 0 := by simpa [quadBytes] using hleft
    refine ⟨.one _, ?_⟩
    rw [quadBytes, quadValues, Utf8.toNat_byte (by omega)]
    simp only [List.cons_eq_cons, and_true]
    omega
  · simp only [List.forall_mem_cons] at hvalues
    obtain ⟨h₁, h₂, h₃, -⟩ := hvalues
    have hzero : v₃ % 4 = 0 := by simpa [quadBytes] using hleft
    refine ⟨.two _ _, ?_⟩
    rw [quadBytes, quadValues, Utf8.toNat_byte (by omega), Utf8.toNat_byte (by omega)]
    simp only [List.cons_eq_cons, and_true]
    omega
  · simp only [List.forall_mem_cons] at hvalues
    obtain ⟨h₁, h₂, h₃, h₄, -⟩ := hvalues
    refine ⟨.three _ _ _, ?_⟩
    rw [quadBytes, quadValues, Utf8.toNat_byte (by omega), Utf8.toNat_byte (by omega),
      Utf8.toNat_byte (by omega)]
    simp only [List.cons_eq_cons, and_true]
    omega
  · simp only [List.length_cons] at hlength
    omega

/-! ## Codes -/

/-- The symbols of values, and pads behind them. -/
def spelling (values : List Nat) (pads : Nat) : List Char :=
  values.map (alphabet.getD · '=') ++ List.replicate pads '='

/-- Values of symbols and a number of pads that stand for bytes. -/
structure Fits (values : List Nat) (pads : Nat) (bytes : List UInt8) : Prop where
  values_lt : ∀ v ∈ values, v < 64
  pads_lt : pads < 3
  /-- The pads fill up the last quad. -/
  full : (values.length + pads) % 4 = 0
  /-- The bits are those of the bytes, and what the last symbol has left is zero. -/
  row_eq : row 6 values = row 8 (bytes.map UInt8.toNat) ++ List.replicate (2 * pads) false

/-- A code stands for bytes. -/
def Spells (code : List Char) (bytes : List UInt8) : Prop :=
  ∃ values pads, code = spelling values pads ∧ Fits values pads bytes

/-- The number of bytes decides on the numbers of symbols and pads. -/
theorem Fits.lengths (h : Fits values pads bytes) :
    3 * (values.length + pads) = 4 * (bytes.length + pads) := by
  have hlength := congrArg List.length h.row_eq
  rw [length_row, List.length_append, length_row, List.length_map, List.length_replicate] at hlength
  omega

/-- Bytes have at most one code. -/
theorem Spells.unique {other : List Char} (h : Spells code bytes) (h' : Spells other bytes) :
    code = other := by
  obtain ⟨values, pads, rfl, hfits⟩ := h
  obtain ⟨values', pads', rfl, hfits'⟩ := h'
  have hlengths := hfits.lengths
  have hlengths' := hfits'.lengths
  have hpads : pads = pads' := by
    have := hfits.pads_lt
    have := hfits'.pads_lt
    have := hfits.full
    have := hfits'.full
    omega
  subst hpads
  have hlength : values.length = values'.length := by omega
  have hrow := hfits.row_eq.trans hfits'.row_eq.symm
  rw [row_injective hlength hfits.values_lt hfits'.values_lt hrow]

/-! ## Writing -/

/-- The last bytes are written as symbols and pads. -/
theorem IsGroup.encodeBytes_eq (h : IsGroup group) :
    encodeBytes group =
      (quadValues group).map symbol ++ List.replicate (3 - group.length) '=' := by
  cases h <;> rfl

/-- Three bytes with others behind them are written as four symbols. -/
theorem encodeBytes_cons (a b c : UInt8) (rest : List UInt8) :
    encodeBytes (a :: b :: c :: rest) = (quadValues [a, b, c]).map symbol ++ encodeBytes rest := rfl

theorem map_symbol (h : ∀ v ∈ values, v < 64) :
    values.map symbol = values.map (alphabet.getD · '=') :=
  List.map_congr_left fun v hv => symbol_eq v (h v hv)

theorem IsGroup.fits (h : IsGroup group) : Fits (quadValues group) (3 - group.length) group where
  values_lt := h.quadValues_lt
  pads_lt := by
    have := h.length_range
    omega
  full := by
    have := h.length_range
    rw [h.length_quadValues]
    omega
  row_eq := h.row_quadValues

/-- Behind a full quad a code goes on. -/
theorem Spells.quad_append (h : Spells code bytes) (a b c : UInt8) :
    Spells ((quadValues [a, b, c]).map symbol ++ code) (a :: b :: c :: bytes) := by
  obtain ⟨values, pads, rfl, hfits⟩ := h
  have hquad := (IsGroup.three a b c).fits
  refine ⟨quadValues [a, b, c] ++ values, pads, ?_, ?_, hfits.pads_lt, ?_, ?_⟩
  · rw [map_symbol hquad.values_lt, spelling, spelling, List.map_append, List.append_assoc]
  · exact List.forall_mem_append.2 ⟨hquad.values_lt, hfits.values_lt⟩
  · have hfull := hfits.full
    rw [List.length_append, (IsGroup.three a b c).length_quadValues]
    simp only [List.length_cons, List.length_nil]
    omega
  · rw [row_append, hquad.row_eq, hfits.row_eq]
    simp [row]

/-- What is written for bytes spells them. -/
theorem spells_encodeBytes (bytes : List UInt8) : Spells (encodeBytes bytes) bytes := by
  have hgroup : ∀ group, IsGroup group → Spells (encodeBytes group) group := by
    intro group h
    refine ⟨quadValues group, 3 - group.length, ?_, h.fits⟩
    rw [h.encodeBytes_eq, map_symbol h.quadValues_lt, spelling]
  induction bytes using encodeBytes.induct with
  | case1 => exact ⟨[], 0, rfl, by simp, by decide, rfl, rfl⟩
  | case2 a => exact hgroup [a] (.one a)
  | case3 a b => exact hgroup [a, b] (.two a b)
  | case4 a b c rest ih =>
    rw [encodeBytes_cons]
    exact ih.quad_append a b c

/-- What is written for bytes is the one code that spells them. -/
theorem spells_iff : Spells code bytes ↔ code = encodeBytes bytes := by
  constructor
  · intro h
    exact h.unique (spells_encodeBytes bytes)
  · rintro rfl
    exact spells_encodeBytes bytes

end CallSheet.Text.Base64
