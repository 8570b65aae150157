import CallSheet.Text.Utf8

/-!
# Reading back the bytes of a text

`decode_eq_ok_iff`: the bytes that a text is written as are read as this text, and no
other bytes are.

There are four groups.

* Bytes.  What the conditions on bytes say about the numbers that they are made of.
* Characters.  One lemma for each number of bytes that a character can have.
* Bytes of characters.  The other way round: what is read as a character are the bytes of
  this character (`eq_encodeChar_of_next`).
* Texts.  The bytes of a character are one piece, whatever follows them
  (`pieces_encodeChar`).
-/

namespace CallSheet.Text.Utf8

variable {n first second : Nat} {a b c d : UInt8}

/-! ## Bytes -/

theorem toNat_byte (h : n < 256) : n.toUInt8.toNat = n := by
  simpa using Nat.mod_eq_of_lt h

theorem lt_byte {k : UInt8} (h : n < 256) : n.toUInt8 < k ↔ n < k.toNat := by
  rw [UInt8.lt_iff_toNat_lt, toNat_byte h]

/-- Whether a byte is between two others. -/
theorem between_byte {low high : UInt8} (h : n < 256) :
    (low ≤ n.toUInt8 && n.toUInt8 ≤ high) = true ↔ low.toNat ≤ n ∧ n ≤ high.toNat := by
  rw [Bool.and_eq_true, decide_eq_true_eq, decide_eq_true_eq, UInt8.le_iff_toNat_le,
    UInt8.le_iff_toNat_le, toNat_byte h]

theorem not_between_byte {low high : UInt8} (h : n < 256) (hhigh : high.toNat < n) :
    ¬ (low ≤ n.toUInt8 && n.toUInt8 ≤ high) = true := by
  rw [between_byte h]
  exact fun hrange => Nat.not_le.2 hhigh hrange.2

/-- Whether a byte can stand second, as conditions on the numbers of both bytes. -/
theorem isSecond_byte (hfirst : first < 256) (hsecond : second < 256) :
    isSecond first.toUInt8 second.toUInt8 = true ↔
      if first = 0xE0 then 0xA0 ≤ second ∧ second ≤ 0xBF
      else if first = 0xED then 0x80 ≤ second ∧ second ≤ 0x9F
      else if first = 0xF0 then 0x90 ≤ second ∧ second ≤ 0xBF
      else if first = 0xF4 then 0x80 ≤ second ∧ second ≤ 0x8F
      else 0x80 ≤ second ∧ second ≤ 0xBF := by
  have heq : ∀ k : UInt8, first.toUInt8 = k ↔ first = k.toNat := fun k => by
    rw [← UInt8.toNat_inj, toNat_byte hfirst]
  have hE0 : first.toUInt8 = 0xE0 ↔ first = 0xE0 := heq 0xE0
  have hED : first.toUInt8 = 0xED ↔ first = 0xED := heq 0xED
  have hF0 : first.toUInt8 = 0xF0 ↔ first = 0xF0 := heq 0xF0
  have hF4 : first.toUInt8 = 0xF4 ↔ first = 0xF4 := heq 0xF4
  simp only [isSecond, isTail, hE0, hED, hF0, hF4]
  by_cases h : first = 0xE0
  · rw [if_pos h, if_pos h]
    exact between_byte hsecond
  rw [if_neg h, if_neg h]
  by_cases h : first = 0xED
  · rw [if_pos h, if_pos h]
    exact between_byte hsecond
  rw [if_neg h, if_neg h]
  by_cases h : first = 0xF0
  · rw [if_pos h, if_pos h]
    exact between_byte hsecond
  rw [if_neg h, if_neg h]
  by_cases h : first = 0xF4
  · rw [if_pos h, if_pos h]
    exact between_byte hsecond
  rw [if_neg h, if_neg h]
  exact between_byte hsecond

theorem isTail_tail (n : Nat) : isTail (0x80 + n % 64).toUInt8 = true := by
  have hlt : 0x80 + n % 64 < 256 := by omega
  have hhigh : 0x80 + n % 64 ≤ 0xBF := by omega
  exact (between_byte hlt).2 ⟨Nat.le_add_right _ _, hhigh⟩

theorem bits_tail (n : Nat) : bits (0x80 + n % 64).toUInt8 = n % 64 := by
  rw [bits, toNat_byte (by omega)]
  omega

theorem byte_eq (h : n = a.toNat) : n.toUInt8 = a := by
  rw [h, Nat.toUInt8_eq, UInt8.ofNat_toNat]

/-- What can be checked for each of the bytes holds for a byte. -/
theorem forall_byte {P : UInt8 → Prop} (h : ∀ n < 256, P n.toUInt8) (b : UInt8) : P b := by
  have hb := h b.toNat b.toNat_lt
  rwa [byte_eq rfl] at hb

/-- Whether a byte can stand inside a character, as a condition on its number. -/
theorem isTail_iff : isTail a = true ↔ 0x80 ≤ a.toNat ∧ a.toNat ≤ 0xBF := by
  have h : isTail a.toNat.toUInt8 = true ↔ 0x80 ≤ a.toNat ∧ a.toNat ≤ 0xBF :=
    between_byte a.toNat_lt
  rwa [byte_eq rfl] at h

/-- What follows for the numbers of two bytes, if the second can stand after the first. -/
theorem range_of_isSecond (h : isSecond a b = true) :
    0x80 ≤ b.toNat ∧ b.toNat ≤ 0xBF ∧
      (a.toNat = 0xE0 → 0xA0 ≤ b.toNat) ∧ (a.toNat = 0xED → b.toNat ≤ 0x9F) ∧
      (a.toNat = 0xF0 → 0x90 ≤ b.toNat) ∧ (a.toNat = 0xF4 → b.toNat ≤ 0x8F) := by
  have hnumbers := isSecond_byte a.toNat_lt b.toNat_lt
  rw [byte_eq rfl, byte_eq rfl] at hnumbers
  have hrange := hnumbers.1 h
  repeat' split at hrange
  all_goals omega

/-! ## Characters -/

theorem next_one (h : n < 0x80) (rest : List UInt8) :
    next n.toUInt8 rest = (.char (Char.ofNat n), rest) := by
  have hlt : n < 256 := by omega
  have hone : n.toUInt8 < 0x80 := (lt_byte hlt).2 h
  unfold next
  rw [if_pos hone, toNat_byte hlt]

theorem next_two (hlow : 0x80 ≤ n) (h : n < 0x800) (rest : List UInt8) :
    next (0xC0 + n / 64).toUInt8 ((0x80 + n % 64).toUInt8 :: rest) =
      (.char (Char.ofNat n), rest) := by
  have hlt : 0xC0 + n / 64 < 256 := by omega
  have hvalue : (0xC0 + n / 64) % 32 * 64 + n % 64 = n := by omega
  have hfirst : 0xC2 ≤ 0xC0 + n / 64 ∧ 0xC0 + n / 64 ≤ 0xDF := by omega
  have hone : ¬ (0xC0 + n / 64).toUInt8 < 0x80 := by
    rw [lt_byte hlt]
    exact Nat.not_lt.2 (Nat.le_trans (by decide) hfirst.1)
  have htwo : (0xC2 ≤ (0xC0 + n / 64).toUInt8 && (0xC0 + n / 64).toUInt8 ≤ 0xDF) = true :=
    (between_byte hlt).2 hfirst
  unfold next
  rw [if_neg hone, if_pos htwo]
  simp only [isTail_tail, if_true, bits_tail, toNat_byte hlt, hvalue]

theorem next_three (hlow : 0x800 ≤ n) (h : n < 0x10000) (hvalid : n < 0xD800 ∨ 0xDFFF < n)
    (rest : List UInt8) :
    next (0xE0 + n / 4096).toUInt8
        ((0x80 + n / 64 % 64).toUInt8 :: (0x80 + n % 64).toUInt8 :: rest) =
      (.char (Char.ofNat n), rest) := by
  have hlt : 0xE0 + n / 4096 < 256 := by omega
  have hlt' : 0x80 + n / 64 % 64 < 256 := by omega
  have hvalue : (0xE0 + n / 4096) % 16 * 4096 + n / 64 % 64 * 64 + n % 64 = n := by omega
  have hfirst : 0xE0 ≤ 0xE0 + n / 4096 ∧ 0xE0 + n / 4096 ≤ 0xEF := by omega
  have hone : ¬ (0xE0 + n / 4096).toUInt8 < 0x80 := by
    rw [lt_byte hlt]
    exact Nat.not_lt.2 (Nat.le_trans (by decide) hfirst.1)
  have htwo : ¬ (0xC2 ≤ (0xE0 + n / 4096).toUInt8 && (0xE0 + n / 4096).toUInt8 ≤ 0xDF) = true :=
    not_between_byte hlt (Nat.lt_of_lt_of_le (by decide) hfirst.1)
  have hthree : (0xE0 ≤ (0xE0 + n / 4096).toUInt8 && (0xE0 + n / 4096).toUInt8 ≤ 0xEF) = true :=
    (between_byte hlt).2 hfirst
  have hsecond : isSecond (0xE0 + n / 4096).toUInt8 (0x80 + n / 64 % 64).toUInt8 = true := by
    rw [isSecond_byte hlt hlt']
    repeat' split
    all_goals omega
  unfold next
  rw [if_neg hone, if_neg htwo, if_pos hthree]
  simp only [hsecond, isTail_tail, if_true, bits_tail, toNat_byte hlt, hvalue]

theorem next_four (hlow : 0x10000 ≤ n) (h : n < 0x110000) (rest : List UInt8) :
    next (0xF0 + n / 262144).toUInt8
        ((0x80 + n / 4096 % 64).toUInt8 :: (0x80 + n / 64 % 64).toUInt8 ::
          (0x80 + n % 64).toUInt8 :: rest) =
      (.char (Char.ofNat n), rest) := by
  have hlt : 0xF0 + n / 262144 < 256 := by omega
  have hlt' : 0x80 + n / 4096 % 64 < 256 := by omega
  have hvalue : (0xF0 + n / 262144) % 8 * 262144 + n / 4096 % 64 * 4096 + n / 64 % 64 * 64 +
      n % 64 = n := by omega
  have hfirst : 0xF0 ≤ 0xF0 + n / 262144 ∧ 0xF0 + n / 262144 ≤ 0xF4 := by omega
  have hone : ¬ (0xF0 + n / 262144).toUInt8 < 0x80 := by
    rw [lt_byte hlt]
    exact Nat.not_lt.2 (Nat.le_trans (by decide) hfirst.1)
  have htwo : ¬ (0xC2 ≤ (0xF0 + n / 262144).toUInt8 && (0xF0 + n / 262144).toUInt8 ≤ 0xDF) =
      true := not_between_byte hlt (Nat.lt_of_lt_of_le (by decide) hfirst.1)
  have hthree : ¬ (0xE0 ≤ (0xF0 + n / 262144).toUInt8 && (0xF0 + n / 262144).toUInt8 ≤ 0xEF) =
      true := not_between_byte hlt (Nat.lt_of_lt_of_le (by decide) hfirst.1)
  have hfour : (0xF0 ≤ (0xF0 + n / 262144).toUInt8 && (0xF0 + n / 262144).toUInt8 ≤ 0xF4) =
      true := (between_byte hlt).2 hfirst
  have hsecond : isSecond (0xF0 + n / 262144).toUInt8 (0x80 + n / 4096 % 64).toUInt8 = true := by
    rw [isSecond_byte hlt hlt']
    repeat' split
    all_goals omega
  unfold next
  rw [if_neg hone, if_neg htwo, if_neg hthree, if_pos hfour]
  simp only [hsecond, isTail_tail, if_true, bits_tail, toNat_byte hlt, hvalue]

/-- A byte below 0x80 stands in no character but its own. -/
theorem toNat_eq_of_mem_encodeChar {c : Char} {b : UInt8} (hb : b < 0x80)
    (h : b ∈ encodeChar c) : c.toNat = b.toNat := by
  have hvalid : c.toNat < 0xD800 ∨ 0xDFFF < c.toNat ∧ c.toNat < 0x110000 := c.valid
  have hlow : b.toNat < 0x80 := UInt8.lt_iff_toNat_lt.1 hb
  have heq : ∀ n < 256, b = n.toUInt8 → n = b.toNat := by
    intro n hn hbyte
    rw [hbyte, toNat_byte hn]
  -- every byte of a longer character is at least 0x80
  have hhigh : ∀ n < 256, 0x80 ≤ n → b ≠ n.toUInt8 := by
    intro n hn hle hbyte
    have := heq n hn hbyte
    omega
  simp only [encodeChar] at h
  split at h
  · next hone => exact heq c.toNat (by omega) (List.mem_singleton.1 h)
  exfalso
  split at h
  · simp only [List.mem_cons, List.not_mem_nil, or_false] at h
    rcases h with h | h <;> exact hhigh _ (by omega) (by omega) h
  split at h
  · simp only [List.mem_cons, List.not_mem_nil, or_false] at h
    rcases h with h | h | h <;> exact hhigh _ (by omega) (by omega) h
  · simp only [List.mem_cons, List.not_mem_nil, or_false] at h
    rcases h with h | h | h | h <;> exact hhigh _ (by omega) (by omega) h

/-! ## Bytes of characters -/

/-- The number of a character is that which it was made of. -/
theorem toNat_ofNat (h : n < 0xD800 ∨ 0xDFFF < n ∧ n < 0x110000) : (Char.ofNat n).toNat = n := by
  rw [Char.ofNat, dif_pos h]
  rfl

theorem encodeChar_one (h : n = a.toNat) (hlow : n < 0x80) : encodeChar (Char.ofNat n) = [a] := by
  simp only [encodeChar, toNat_ofNat (.inl (by omega : n < 0xD800)), if_pos hlow, byte_eq h]

theorem encodeChar_two (hfirst : 0xC2 ≤ a.toNat ∧ a.toNat ≤ 0xDF) (hb : isTail b = true) :
    encodeChar (Char.ofNat (a.toNat % 32 * 64 + bits b)) = [a, b] := by
  rw [isTail_iff] at hb
  simp only [bits]
  generalize hn : a.toNat % 32 * 64 + b.toNat % 64 = n
  have hrange : 0x80 ≤ n ∧ n < 0x800 := by omega
  have ha : 0xC0 + n / 64 = a.toNat := by omega
  have hb : 0x80 + n % 64 = b.toNat := by omega
  simp only [encodeChar, toNat_ofNat (.inl (by omega : n < 0xD800))]
  rw [if_neg (by omega), if_pos hrange.2, byte_eq ha, byte_eq hb]

theorem encodeChar_three (hfirst : 0xE0 ≤ a.toNat ∧ a.toNat ≤ 0xEF) (hb : isSecond a b = true)
    (hc : isTail c = true) :
    encodeChar (Char.ofNat (a.toNat % 16 * 4096 + bits b * 64 + bits c)) = [a, b, c] := by
  have hrange := range_of_isSecond hb
  rw [isTail_iff] at hc
  simp only [bits]
  generalize hn : a.toNat % 16 * 4096 + b.toNat % 64 * 64 + c.toNat % 64 = n
  have hwidth : 0x800 ≤ n ∧ n < 0x10000 := by omega
  have hvalid : n < 0xD800 ∨ 0xDFFF < n ∧ n < 0x110000 := by omega
  have ha : 0xE0 + n / 4096 = a.toNat := by omega
  have hb : 0x80 + n / 64 % 64 = b.toNat := by omega
  have hc : 0x80 + n % 64 = c.toNat := by omega
  simp only [encodeChar, toNat_ofNat hvalid]
  rw [if_neg (by omega), if_neg (by omega), if_pos hwidth.2, byte_eq ha, byte_eq hb, byte_eq hc]

theorem encodeChar_four (hfirst : 0xF0 ≤ a.toNat ∧ a.toNat ≤ 0xF4) (hb : isSecond a b = true)
    (hc : isTail c = true) (hd : isTail d = true) :
    encodeChar (Char.ofNat
      (a.toNat % 8 * 262144 + bits b * 4096 + bits c * 64 + bits d)) = [a, b, c, d] := by
  have hrange := range_of_isSecond hb
  rw [isTail_iff] at hc hd
  simp only [bits]
  generalize hn : a.toNat % 8 * 262144 + b.toNat % 64 * 4096 + c.toNat % 64 * 64 + d.toNat % 64 = n
  have hwidth : 0x10000 ≤ n ∧ n < 0x110000 := by omega
  have ha : 0xF0 + n / 262144 = a.toNat := by omega
  have hb : 0x80 + n / 4096 % 64 = b.toNat := by omega
  have hc : 0x80 + n / 64 % 64 = c.toNat := by omega
  have hd : 0x80 + n % 64 = d.toNat := by omega
  simp only [encodeChar, toNat_ofNat (.inr ⟨by omega, hwidth.2⟩)]
  rw [if_neg (by omega), if_neg (by omega), if_neg (by omega), byte_eq ha, byte_eq hb, byte_eq hc,
    byte_eq hd]

/-- A piece that is a character consists of the bytes of this character. -/
theorem eq_encodeChar_of_next {rest left : List UInt8} {ch : Char}
    (h : next a rest = (.char ch, left)) : a :: rest = encodeChar ch ++ left := by
  have hbetween {low high : UInt8} (h : (low ≤ a && a ≤ high) = true) :
      low.toNat ≤ a.toNat ∧ a.toNat ≤ high.toNat := by
    simpa [UInt8.le_iff_toNat_le] using h
  unfold next at h
  split at h
  · next hone =>
    cases h
    rw [encodeChar_one rfl (UInt8.lt_iff_toNat_lt.1 hone)]
    rfl
  split at h
  · next htwo =>
    cases rest with
    | nil => cases h
    | cons b rest =>
      simp only at h
      split at h
      · next hb =>
        cases h
        rw [encodeChar_two (hbetween htwo) hb]
        rfl
      · cases h
  split at h
  · next hthree =>
    rcases rest with _ | ⟨b, _ | ⟨c, rest⟩⟩
    · cases h
    · simp only at h
      split at h <;> cases h
    simp only at h
    split at h
    · next hb =>
      split at h
      · next hc =>
        cases h
        rw [encodeChar_three (hbetween hthree) hb hc]
        rfl
      · cases h
    · cases h
  split at h
  · next hfour =>
    rcases rest with _ | ⟨b, _ | ⟨c, _ | ⟨d, rest⟩⟩⟩
    · cases h
    · simp only at h
      split at h <;> cases h
    · simp only at h
      repeat' split at h
      all_goals cases h
    simp only at h
    split at h
    · next hb =>
      split at h
      · next hc =>
        split at h
        · next hd =>
          cases h
          rw [encodeChar_four (hbetween hfour) hb hc hd]
          rfl
        · cases h
      · cases h
    · cases h
  · cases h

/-! ## Texts -/

/-- The bytes of a character are one piece. -/
theorem pieces_encodeChar (c : Char) (rest : List UInt8) :
    pieces (encodeChar c ++ rest) = .char c :: pieces rest := by
  have hvalid : c.toNat < 0xD800 ∨ 0xDFFF < c.toNat ∧ c.toNat < 0x110000 := c.valid
  simp only [encodeChar]
  split
  · next hone =>
    rw [List.singleton_append, pieces, next_one hone, Char.ofNat_toNat]
  split
  · next hone htwo =>
    simp only [List.cons_append, List.nil_append]
    rw [pieces, next_two (Nat.le_of_not_lt hone) htwo, Char.ofNat_toNat]
  split
  · next htwo hthree =>
    simp only [List.cons_append, List.nil_append]
    rw [pieces, next_three (Nat.le_of_not_lt htwo) hthree (by omega), Char.ofNat_toNat]
  · next hthree =>
    simp only [List.cons_append, List.nil_append]
    rw [pieces, next_four (Nat.le_of_not_lt hthree) (by omega), Char.ofNat_toNat]

theorem pieces_encode (text : List Char) : pieces (encode text) = text.map Piece.char := by
  induction text with
  | nil => rw [encode, List.flatMap_nil, pieces, List.map_nil]
  | cons c text ih =>
    rw [encode, List.flatMap_cons, ← encode, pieces_encodeChar, ih, List.map_cons]

theorem ofPieces_map_char (offset : Nat) (text : List Char) :
    ofPieces offset (text.map Piece.char) = .ok text := by
  induction text generalizing offset with
  | nil => rfl
  | cons c text ih =>
    rw [List.map_cons, ofPieces, ih]
    rfl

/-- The bytes of a text are read back as this text. -/
theorem decode_encode (text : List Char) : decode (encode text) = .ok text := by
  rw [decode, pieces_encode, ofPieces_map_char]

theorem eq_encode_of_pieces {bytes : List UInt8} {text : List Char}
    (h : pieces bytes = text.map Piece.char) : bytes = encode text := by
  fun_induction pieces bytes generalizing text with
  | case1 =>
    rw [List.map_eq_nil_iff.1 h.symm]
    rfl
  | case2 a rest ih =>
    cases text with
    | nil => cases h
    | cons ch text =>
      obtain ⟨hpiece, hrest⟩ := List.cons_eq_cons.1 h
      have hfirst : next a rest = (.char ch, encode text) := Prod.ext hpiece (ih hrest)
      rw [eq_encodeChar_of_next hfirst, encode, encode, List.flatMap_cons]

theorem eq_map_char_of_ofPieces {parts : List Piece} {offset : Nat} {text : List Char}
    (h : ofPieces offset parts = .ok text) : parts = text.map Piece.char := by
  induction parts generalizing offset text with
  | nil =>
    cases h
    rfl
  | cons piece parts ih =>
    cases piece with
    | bad length => cases h
    | cut length => cases h
    | char ch =>
      rw [ofPieces] at h
      cases hrest : ofPieces (offset + (encodeChar ch).length) parts with
      | error fault =>
        rw [hrest] at h
        cases h
      | ok rest =>
        rw [hrest] at h
        cases h
        rw [ih hrest, List.map_cons]

/-- Bytes are read as a text if and only if it is written as them. -/
theorem decode_eq_ok_iff {bytes : List UInt8} {text : List Char} :
    decode bytes = .ok text ↔ bytes = encode text := by
  constructor
  · intro h
    exact eq_encode_of_pieces (eq_map_char_of_ofPieces h)
  · rintro rfl
    exact decode_encode text

theorem encode_injective : Function.Injective encode := by
  intro text other h
  have htext := decode_encode text
  rw [h, decode_encode] at htext
  exact (Except.ok.inj htext).symm

end CallSheet.Text.Utf8
