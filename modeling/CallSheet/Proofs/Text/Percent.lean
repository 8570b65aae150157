import CallSheet.Converter
import CallSheet.Proofs.Text
import CallSheet.Proofs.Text.Utf8
import CallSheet.Text.Digits

/-!
# Parts of queries

How a text is written as a part of a query, byte by byte, and how it is read back.

There are four groups.

* Bytes.  `spelling` is what one byte of a text is written as.
* Words.  Encoding the words between spaces one by one writes every byte of the text as
  its spelling (`encode_eq_flatMap`).
* Reading.  `decode` reads a part of a query, and `decode_encode` reads a text back.
* The whole.  `urlencode_faithful` says all of it about the converter.
-/

namespace CallSheet.Text.Percent

/-! ## Bytes -/

/-- Characters that stand for themselves in a query. -/
def IsUnreserved (c : Char) : Prop := c.isAlphanum = true ∨ c ∈ ['-', '_', '.', '~']

instance (c : Char) : Decidable (IsUnreserved c) := inferInstanceAs (Decidable (_ ∨ _))

/-- The hexadecimal digits, in order. -/
def hexDigits : List Char := "0123456789ABCDEF".toList

/-- What a byte of a text is written as in a query. -/
def spelling (b : UInt8) : List Char :=
  if IsUnreserved (Char.ofNat b.toNat) then [Char.ofNat b.toNat]
  else if b = 0x20 then ['+']
  else ['%', hexDigits.getD (b.toNat / 16) '0', hexDigits.getD (b.toNat % 16) '0']

theorem isPlain_iff : ∀ b : UInt8, isPlain b = true ↔ IsUnreserved (Char.ofNat b.toNat) :=
  Utf8.forall_byte (by decide +kernel)

theorem hexDigit_eq : ∀ n < 16, hexDigit n = hexDigits.getD n '0' := by decide

/-- Only the space is written in another way in the middle of a text than in a word. -/
theorem encodeByte_eq_spelling {b : UInt8} (h : b ≠ 0x20) : encodeByte b = spelling b := by
  have hlt := b.toNat_lt
  rw [encodeByte, spelling]
  by_cases hplain : IsUnreserved (Char.ofNat b.toNat)
  · rw [if_pos ((isPlain_iff b).2 hplain), if_pos hplain]
  · rw [if_neg (fun hb => hplain ((isPlain_iff b).1 hb)), if_neg hplain, if_neg h, escape,
      hexDigit_eq _ (by omega), hexDigit_eq _ (by omega)]

/-! ## Words -/

/-- The byte of a space stands in no other character. -/
theorem space_mem_encodeChar {c : Char} (h : 0x20 ∈ Utf8.encodeChar c) : c = ' ' := by
  have hspace : c.toNat = 0x20 := Utf8.toNat_eq_of_mem_encodeChar (by decide) h
  rw [← Char.ofNat_toNat c, hspace]

theorem encodeWord_eq_flatMap {word : List Char} (h : ' ' ∉ word) :
    encodeWord word = (Utf8.encode word).flatMap spelling := by
  rw [encodeWord, List.flatMap_def, List.flatMap_def]
  congr 1
  apply List.map_congr_left
  intro b hb
  apply encodeByte_eq_spelling
  rintro rfl
  obtain ⟨c, hc, hmem⟩ := List.mem_flatMap.1 hb
  exact h (space_mem_encodeChar hmem ▸ hc)

/-- A space between two texts is written as `+`. -/
theorem flatMap_spelling_space (before after : List Char) :
    (Utf8.encode (before ++ ' ' :: after)).flatMap spelling =
      (Utf8.encode before).flatMap spelling ++ '+' :: (Utf8.encode after).flatMap spelling := by
  simp only [Utf8.encode, List.flatMap_append, List.flatMap_cons]
  rfl

theorem join_encodeWord {words : List (List Char)} (h : ∀ word ∈ words, ' ' ∉ word) :
    join '+' (words.map encodeWord) = (Utf8.encode (join ' ' words)).flatMap spelling := by
  induction words with
  | nil => rfl
  | cons word words ih =>
    rw [List.forall_mem_cons] at h
    cases words with
    | nil => exact encodeWord_eq_flatMap h.1
    | cons next words =>
      have hrest := ih h.2
      rw [List.map_cons] at hrest ⊢
      rw [List.map_cons, join_cons_cons, join_cons_cons, hrest, encodeWord_eq_flatMap h.1,
        flatMap_spelling_space]

/-- Encoding word by word writes every byte as its spelling. -/
theorem encode_eq_flatMap (text : List Char) :
    encode text = (Utf8.encode text).flatMap spelling := by
  rw [encode, join_encodeWord fun _ hword => not_mem_of_mem_splitOn hword, join_splitOn]

theorem encode_append (before after : List Char) :
    encode (before ++ after) = encode before ++ encode after := by
  simp only [encode_eq_flatMap, Utf8.encode, List.flatMap_append]

/-! ## Reading -/

/-- The bytes that a part of a query stands for.  A `%` without two digits after it stands
for itself. -/
def decode : List Char → List UInt8
  | [] => []
  | '+' :: rest => 0x20 :: decode rest
  | '%' :: high :: low :: rest =>
    match digitValue? high, digitValue? low with
    | some high, some low => (16 * high + low).toUInt8 :: decode rest
    | _, _ => 0x25 :: decode (high :: low :: rest)
  | c :: rest => Utf8.encodeChar c ++ decode rest

theorem decode_cons {c : Char} (hplus : c ≠ '+') (hpercent : c ≠ '%') (rest : List Char) :
    decode (c :: rest) = Utf8.encodeChar c ++ decode rest := by
  rw [decode]
  · intro heq
    exact hplus heq
  · intro high low rest' heq
    exact absurd heq hpercent

theorem digitValue?_hexDigits : ∀ n < 16, digitValue? (hexDigits.getD n '0') = some n := by
  decide

/-- What stands for itself in a query is one byte, and read as such. -/
theorem isUnreserved_cases : ∀ b : UInt8, IsUnreserved (Char.ofNat b.toNat) →
    Char.ofNat b.toNat ≠ '+' ∧ Char.ofNat b.toNat ≠ '%' ∧
      Utf8.encodeChar (Char.ofNat b.toNat) = [b] :=
  Utf8.forall_byte (by decide +kernel)

/-- The spelling of a byte is read as this byte, whatever follows it. -/
theorem decode_spelling (b : UInt8) (rest : List Char) :
    decode (spelling b ++ rest) = b :: decode rest := by
  have hlt := b.toNat_lt
  rw [spelling]
  split
  · next hplain =>
    obtain ⟨hplus, hpercent, hone⟩ := isUnreserved_cases b hplain
    rw [List.singleton_append, decode_cons hplus hpercent, hone]
    rfl
  split
  · next hspace =>
    rw [hspace]
    rfl
  · have hvalue : 16 * (b.toNat / 16) + b.toNat % 16 = b.toNat := by omega
    simp only [List.cons_append, List.nil_append]
    rw [decode, digitValue?_hexDigits _ (by omega), digitValue?_hexDigits _ (by omega)]
    simp only [hvalue, Nat.toUInt8_eq, UInt8.ofNat_toNat]

theorem decode_flatMap_spelling (bytes : List UInt8) : decode (bytes.flatMap spelling) = bytes := by
  induction bytes with
  | nil => rfl
  | cons b bytes ih => rw [List.flatMap_cons, decode_spelling, ih]

/-- The encoding of a text is read as the bytes of the text. -/
theorem decode_encode (text : List Char) : decode (encode text) = Utf8.encode text := by
  rw [encode_eq_flatMap, decode_flatMap_spelling]

theorem encode_injective : Function.Injective encode := by
  intro text other h
  apply Utf8.encode_injective
  rw [← decode_encode, ← decode_encode, h]

/-- What can stand in a part of a query. -/
def IsQueryChar (c : Char) : Prop := IsUnreserved c ∨ c = '%' ∨ c = '+'

theorem isQueryChar_of_mem_spelling {b : UInt8} {c : Char} (h : c ∈ spelling b) :
    IsQueryChar c := by
  have hdigit : ∀ n < 16, IsUnreserved (hexDigits.getD n '0') := by decide
  have hlt := b.toNat_lt
  rw [spelling] at h
  split at h
  · next hplain =>
    rw [List.mem_singleton.1 h]
    exact .inl hplain
  split at h
  · rw [List.mem_singleton.1 h]
    exact .inr (.inr rfl)
  · simp only [List.mem_cons, List.not_mem_nil, or_false] at h
    rcases h with rfl | rfl | rfl
    · exact .inr (.inl rfl)
    · exact .inl (hdigit _ (by omega))
    · exact .inl (hdigit _ (by omega))

theorem isQueryChar_of_mem_encode {text : List Char} {c : Char} (h : c ∈ encode text) :
    IsQueryChar c := by
  rw [encode_eq_flatMap] at h
  obtain ⟨b, -, hc⟩ := List.mem_flatMap.1 h
  exact isQueryChar_of_mem_spelling hc

/-! ## The whole -/

/-- **The converter `urlencode` loses nothing.**  It never refuses a text and writes every
byte of it as its spelling, so two texts are encoded one after the other.  The encoding
keeps to the characters of a query, and reading it gives the bytes of the text back. -/
theorem urlencode_faithful :
    (∀ text : String, Converter.Registry.builtin.apply text ["urlencode"] =
      .ok (String.ofList (encode text.toList))) ∧
    (∀ text, encode text = (Utf8.encode text).flatMap spelling) ∧
    (∀ before after, encode (before ++ after) = encode before ++ encode after) ∧
    (∀ text, ∀ c ∈ encode text, IsQueryChar c) ∧
    (∀ text, decode (encode text) = Utf8.encode text) ∧
    Function.Injective encode := by
  refine ⟨fun text => ?_, encode_eq_flatMap, encode_append, ?_, decode_encode, encode_injective⟩
  · rfl
  · intro text c hc
    exact isQueryChar_of_mem_encode hc

example : encode "a+b  é~".toList = "a%2Bb++%C3%A9~".toList := by decide +kernel

end CallSheet.Text.Percent
