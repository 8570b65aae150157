import CallSheet.Converter
import CallSheet.Proofs.Steps
import CallSheet.Proofs.Text.Base64

/-!
# Reading base64

Exactly the codes of bytes are read, and exactly the codes of texts are converted.

There are four groups.

* The code of bytes, as it stands in a text.
* The last quad.  `decodeLast_eq_ok_iff` says when symbols and pads are the last quad of
  some bytes.
* All quads.  `decodeBytes_eq_ok_iff` says which codes are read.
* Converters.  `base64_inverse` is about `base64` and `base64decode`.
-/

namespace CallSheet.Text.Base64

variable {bytes group : List UInt8} {code : List Char} {values : List Nat} {pads start : Nat}
  {v : Nat} {b : UInt8}

/-! ## The code of bytes -/

/-- The code of bytes, as it stands in a text. -/
def codeBytes (bytes : List UInt8) : List UInt8 := Utf8.encode (encodeBytes bytes)

theorem encode_map_symbol (h : ∀ v ∈ values, v < 64) (code : List Char) :
    Utf8.encode (values.map symbol ++ code) = values.map symbolByte ++ Utf8.encode code := by
  induction values with
  | nil => rfl
  | cons v values ih =>
    rw [List.forall_mem_cons] at h
    rw [List.map_cons, List.cons_append, Utf8.encode, List.flatMap_cons, ← Utf8.encode, ih h.2,
      encodeChar_symbol v h.1]
    rfl

theorem encode_replicate_pad (pads : Nat) :
    Utf8.encode (List.replicate pads '=') = List.replicate pads pad := by
  induction pads with
  | zero => rfl
  | succ pads ih =>
    rw [List.replicate_succ, Utf8.encode, List.flatMap_cons, ← Utf8.encode, ih]
    rfl

theorem IsGroup.codeBytes_eq (h : IsGroup group) :
    codeBytes group =
      (quadValues group).map symbolByte ++ List.replicate (3 - group.length) pad := by
  rw [codeBytes, h.encodeBytes_eq, encode_map_symbol h.quadValues_lt, encode_replicate_pad]

theorem codeBytes_cons (a b c : UInt8) (rest : List UInt8) :
    codeBytes (a :: b :: c :: rest) = (quadValues [a, b, c]).map symbolByte ++ codeBytes rest := by
  rw [codeBytes, encodeBytes_cons, encode_map_symbol (IsGroup.three a b c).quadValues_lt, codeBytes]

theorem IsGroup.length_codeBytes (h : IsGroup group) : (codeBytes group).length = 4 := by
  have hrange := h.length_range
  have hvalues := h.length_quadValues
  rw [h.codeBytes_eq, List.length_append, List.length_map, List.length_replicate]
  omega

theorem length_codeBytes (bytes : List UInt8) :
    (codeBytes bytes).length = 4 * ((bytes.length + 2) / 3) := by
  induction bytes using encodeBytes.induct with
  | case1 => rfl
  | case2 a => simpa using (IsGroup.one a).length_codeBytes
  | case3 a b => simpa using (IsGroup.two a b).length_codeBytes
  | case4 a b c rest ih =>
    rw [codeBytes_cons, List.length_append, ih, List.length_map,
      (IsGroup.three a b c).length_quadValues]
    simp only [List.length_cons, List.length_nil]
    omega

/-! ## The last quad -/

theorem valueAt_eq_ok_iff {offset : Nat} :
    valueAt offset b = .ok v ↔ v < 64 ∧ b = symbolByte v := by
  rw [valueAt]
  constructor
  · intro h
    cases hvalue : value? b with
    | none =>
      rw [hvalue] at h
      cases h
    | some value =>
      rw [hvalue] at h
      cases h
      exact eq_symbolByte_of_value? hvalue
  · rintro ⟨hv, rfl⟩
    rw [value?_symbolByte v hv]

/-- What has been read of a quad after symbols of values and pads. -/
def quadOf (values : List Nat) (pads : Nat) : Quad := ⟨values.map fun v => (symbolByte v, v), pads⟩

theorem readQuad_pad_cons (start : Nat) (known : List Nat) (pads : Nat) (rest : List UInt8) :
    readQuad start (quadOf known pads) (pad :: rest) =
      if known.length + pads < 2 then .error (.symbol pad (start + (known.length + pads)))
      else readQuad start (quadOf known (pads + 1)) rest := by
  simp [readQuad, quadOf]

theorem readQuad_symbol_cons (hv : v < 64) (start : Nat) (known : List Nat) (pads : Nat)
    (rest : List UInt8) :
    readQuad start (quadOf known pads) (symbolByte v :: rest) =
      if 0 < pads then .error (.symbol pad (start + known.length))
      else readQuad start (quadOf (known ++ [v]) pads) rest := by
  simp [readQuad, quadOf, symbolByte_ne_pad v hv, valueAt, value?_symbolByte v hv]

theorem exists_readQuad_cons (hpad : b ≠ pad) (hvalue : value? b = none) (start : Nat)
    (quad : Quad) (rest : List UInt8) :
    ∃ fault, readQuad start quad (b :: rest) = .error fault := by
  simp only [readQuad, if_neg hpad, valueAt, hvalue]
  split
  · exact ⟨_, rfl⟩
  · exact ⟨_, rfl⟩

/-- What is read as a part of a quad are symbols and then pads. -/
theorem eq_of_readQuad {known : List Nat} {quad : Quad}
    (h : readQuad start (quadOf known pads) bytes = .ok quad) :
    ∃ values more, bytes = values.map symbolByte ++ List.replicate more pad ∧
      (∀ v ∈ values, v < 64) ∧ quad = quadOf (known ++ values) (pads + more) ∧
      (0 < pads → values = []) := by
  induction bytes generalizing known pads with
  | nil =>
    cases h
    exact ⟨[], 0, rfl, by simp, by simp, fun _ => rfl⟩
  | cons b bytes ih =>
    by_cases hpad : b = pad
    · subst hpad
      rw [readQuad_pad_cons] at h
      split at h
      · cases h
      obtain ⟨values, more, rfl, -, rfl, hvalues⟩ := ih h
      obtain rfl := hvalues (Nat.succ_pos pads)
      exact ⟨[], more + 1, rfl, by simp, by rw [Nat.add_right_comm, Nat.add_assoc], fun _ => rfl⟩
    cases hvalue : value? b with
    | none =>
      obtain ⟨fault, hfault⟩ := exists_readQuad_cons hpad hvalue start (quadOf known pads) bytes
      rw [hfault] at h
      cases h
    | some v =>
      obtain ⟨hv, rfl⟩ := eq_symbolByte_of_value? hvalue
      rw [readQuad_symbol_cons hv] at h
      split at h
      · cases h
      next hpads =>
      obtain ⟨values, more, rfl, hvalues, rfl, -⟩ := ih h
      exact ⟨v :: values, more, rfl, List.forall_mem_cons.2 ⟨hv, hvalues⟩, by simp,
        fun hpos => absurd hpos hpads⟩

theorem readQuad_values (hvalues : ∀ v ∈ values, v < 64) (start : Nat) (known : List Nat)
    (rest : List UInt8) :
    readQuad start (quadOf known 0) (values.map symbolByte ++ rest) =
      readQuad start (quadOf (known ++ values) 0) rest := by
  induction values generalizing known with
  | nil => simp
  | cons v values ih =>
    rw [List.forall_mem_cons] at hvalues
    rw [List.map_cons, List.cons_append, readQuad_symbol_cons hvalues.1, if_neg (Nat.lt_irrefl 0),
      ih hvalues.2, List.append_assoc, List.singleton_append]

theorem readQuad_pads {known : List Nat} (h : 2 ≤ known.length + pads) (start more : Nat) :
    readQuad start (quadOf known pads) (List.replicate more pad) =
      .ok (quadOf known (pads + more)) := by
  induction more generalizing pads with
  | zero => rfl
  | succ more ih =>
    rw [List.replicate_succ, readQuad_pad_cons, if_neg (by omega), ih (by omega),
      Nat.add_right_comm, Nat.add_assoc]

/-- When symbols and pads are the last quad of some bytes. -/
theorem decodeLast_eq_ok_iff {code : List UInt8}
    (hread : readQuad start (quadOf [] 0) code = .ok (quadOf values pads)) (hcode : code ≠ []) :
    decodeLast start code = .ok bytes ↔
      2 ≤ values.length ∧ (values.length + pads) % 4 = 0 ∧ quadBytes values = (bytes, false) := by
  have hvalues : (quadOf values pads).symbols.map Prod.snd = values := by
    rw [quadOf, List.map_map]
    exact List.map_id values
  have hlength : (quadOf values pads).symbols.length = values.length := List.length_map _
  have hquad : readQuad start ⟨[], 0⟩ code = .ok (quadOf values pads) := hread
  have hpads : (quadOf values pads).pads = pads := rfl
  rw [decodeLast, hquad]
  simp only [hvalues, hlength, hpads, List.isEmpty_iff, if_neg hcode]
  by_cases hcount : values.length < 2
  · rw [if_pos hcount]
    exact ⟨fun h => (nomatch h), fun h => absurd h.1 (Nat.not_le.2 hcount)⟩
  by_cases hfull : (values.length + pads) % 4 = 0
  · have hsome : (quadOf values pads).symbols ≠ [] := by
      intro hnil
      rw [hnil] at hlength
      exact hcount (hlength ▸ Nat.zero_lt_two)
    rw [List.getLast?_eq_some_getLast hsome]
    cases hbytes : quadBytes values with
    | mk out left => cases left <;> simp [hcount, hfull, Nat.le_of_not_lt hcount]
  · simp [hcount, hfull]

/-- What is read as the last quad is the code of the bytes. -/
theorem eq_codeBytes_of_decodeLast {code : List UInt8} (hlength : code.length ≤ 4)
    (h : decodeLast start code = .ok bytes) : code = codeBytes bytes := by
  by_cases hcode : code = []
  · subst hcode
    cases h
    rfl
  cases hquad : readQuad start (quadOf [] 0) code with
  | error fault =>
    have hfault : readQuad start ⟨[], 0⟩ code = .error fault := hquad
    rw [decodeLast, hfault] at h
    cases h
  | ok quad =>
    obtain ⟨values, pads, rfl, hvalues, rfl, -⟩ := eq_of_readQuad hquad
    rw [List.nil_append, Nat.zero_add] at hquad
    obtain ⟨hcount, hfull, hbytes⟩ := (decodeLast_eq_ok_iff hquad hcode).1 h
    rw [List.length_append, List.length_map, List.length_replicate] at hlength
    have hgroup := quadValues_quadBytes hvalues hcount (by omega) (congrArg Prod.snd hbytes)
    rw [hbytes] at hgroup
    obtain ⟨hgroup, rfl⟩ := hgroup
    have hpads : pads = 3 - bytes.length := by
      have hcount := hgroup.length_quadValues
      simp only at hfull hlength hcount
      omega
    rw [hgroup.codeBytes_eq, hpads]

/-! ## All quads -/

/-- What is read is the code of the bytes. -/
theorem eq_codeBytes_of_decodeFrom {code : List UInt8}
    (h : decodeFrom start code = .ok bytes) : code = codeBytes bytes := by
  fun_induction decodeFrom start code generalizing bytes with
  | case1 start a b c d e rest ih =>
    obtain ⟨v₁, h₁, h⟩ := bind_eq_ok h
    obtain ⟨v₂, h₂, h⟩ := bind_eq_ok h
    obtain ⟨v₃, h₃, h⟩ := bind_eq_ok h
    obtain ⟨v₄, h₄, h⟩ := bind_eq_ok h
    obtain ⟨out, hout, h⟩ := bind_eq_ok h
    cases h
    obtain ⟨hv₁, rfl⟩ := valueAt_eq_ok_iff.1 h₁
    obtain ⟨hv₂, rfl⟩ := valueAt_eq_ok_iff.1 h₂
    obtain ⟨hv₃, rfl⟩ := valueAt_eq_ok_iff.1 h₃
    obtain ⟨hv₄, rfl⟩ := valueAt_eq_ok_iff.1 h₄
    have hvalues : ∀ v ∈ [v₁, v₂, v₃, v₄], v < 64 := by simp [*]
    have hquad := quadValues_quadBytes hvalues (by simp) (by simp) rfl
    rw [ih hout]
    simp only [quadBytes, List.cons_append, List.nil_append] at hquad ⊢
    rw [codeBytes_cons, hquad.2]
    rfl
  | case2 start code hshort =>
    refine eq_codeBytes_of_decodeLast ?_ h
    rcases code with _ | ⟨a, _ | ⟨b, _ | ⟨c, _ | ⟨d, _ | ⟨e, rest⟩⟩⟩⟩⟩
    all_goals first | exact absurd rfl (hshort _ _ _ _ _ _) | simp

theorem decodeFrom_of_length_le {code : List UInt8} (h : code.length ≤ 4) :
    decodeFrom start code = decodeLast start code := by
  fun_cases decodeFrom start code with
  | case1 =>
    simp only [List.length_cons] at h
    omega
  | case2 => rfl

/-- The code of the last bytes is read as these bytes. -/
theorem IsGroup.decodeFrom_codeBytes (h : IsGroup group) (start : Nat) :
    decodeFrom start (codeBytes group) = .ok group := by
  have hrange := h.length_range
  have hvalues := h.length_quadValues
  have hcount : 2 ≤ (quadValues group).length := by omega
  have hfull : (quadValues group).length + (3 - group.length) = 4 := by omega
  have hread : readQuad start (quadOf [] 0) (codeBytes group) =
      .ok (quadOf (quadValues group) (3 - group.length)) := by
    rw [h.codeBytes_eq, readQuad_values h.quadValues_lt, List.nil_append, readQuad_pads hcount,
      Nat.zero_add]
  have hlength := h.length_codeBytes
  rw [decodeFrom_of_length_le (Nat.le_of_eq hlength)]
  refine (decodeLast_eq_ok_iff hread ?_).2 ⟨hcount, by omega, h.quadBytes_quadValues⟩
  exact List.length_pos_iff.1 (by omega)

/-- Full quads are read one after the other. -/
theorem decodeFrom_quad_append {v₁ v₂ v₃ v₄ : Nat} {code : List UInt8}
    (hvalues : ∀ v ∈ [v₁, v₂, v₃, v₄], v < 64) (hcode : code ≠ [])
    (h : decodeFrom (start + 4) code = .ok bytes) :
    decodeFrom start ([v₁, v₂, v₃, v₄].map symbolByte ++ code) =
      .ok ((quadBytes [v₁, v₂, v₃, v₄]).1 ++ bytes) := by
  obtain ⟨e, rest, rfl⟩ := List.exists_cons_of_ne_nil hcode
  have hread : ∀ v ∈ [v₁, v₂, v₃, v₄], ∀ offset, valueAt offset (symbolByte v) = .ok v :=
    fun v hmem offset => valueAt_eq_ok_iff.2 ⟨hvalues v hmem, rfl⟩
  simp only [List.forall_mem_cons] at hread
  obtain ⟨h₁, h₂, h₃, h₄, -⟩ := hread
  simp only [List.map_cons, List.map_nil, List.cons_append, List.nil_append]
  rw [decodeFrom, h₁, h₂, h₃, h₄, h]
  rfl

/-- The code of bytes is read as these bytes. -/
theorem decodeFrom_codeBytes (bytes : List UInt8) (start : Nat) :
    decodeFrom start (codeBytes bytes) = .ok bytes := by
  induction bytes using encodeBytes.induct generalizing start with
  | case1 => rfl
  | case2 a => exact (IsGroup.one a).decodeFrom_codeBytes start
  | case3 a b => exact (IsGroup.two a b).decodeFrom_codeBytes start
  | case4 a b c rest ih =>
    have hgroup := IsGroup.three a b c
    by_cases hrest : rest = []
    · subst hrest
      exact hgroup.decodeFrom_codeBytes start
    have hcode : codeBytes rest ≠ [] := by
      rw [← List.length_pos_iff, length_codeBytes]
      have := List.length_pos_iff.2 hrest
      omega
    rw [codeBytes_cons]
    refine (decodeFrom_quad_append hgroup.quadValues_lt hcode (ih (start + 4))).trans ?_
    have hbytes := congrArg Prod.fst hgroup.quadBytes_quadValues
    rw [quadValues] at hbytes
    rw [hbytes]
    rfl

/-- A code is read as some bytes if and only if it is the code of these bytes. -/
theorem decodeBytes_eq_ok_iff {code : List UInt8} :
    decodeBytes code = .ok bytes ↔ code = codeBytes bytes := by
  constructor
  · intro h
    rw [decodeBytes] at h
    split at h
    · split at h
      · cases h
      · exact eq_codeBytes_of_decodeFrom h
    · exact eq_codeBytes_of_decodeFrom h
  · rintro rfl
    rw [decodeBytes]
    split
    · next hlength _ =>
      rw [length_codeBytes] at hlength
      omega
    · exact decodeFrom_codeBytes bytes 0

/-! ## Converters -/

open Converter.Registry (builtin)

/-- The converter `base64` refuses nothing, so a chain goes on behind it. -/
theorem apply_base64_cons (text : String) (chain : List String) :
    builtin.apply text ("base64" :: chain) =
      builtin.apply (String.ofList (encode text.toList)) chain := by
  have hget : builtin.get? "base64" = some (Converter.ofFunction encode) := rfl
  simp only [Converter.Registry.apply, hget, Converter.ofFunction]

theorem apply_base64decode (code : String) :
    builtin.apply code ["base64decode"] = Converter.base64Decode code := by
  have hget : builtin.get? "base64decode" = some Converter.base64Decode := rfl
  simp only [Converter.Registry.apply, hget]
  cases Converter.base64Decode code <;> rfl

/-- A text is a code of some bytes if and only if these bytes are read from it. -/
theorem decodeBytes_encode_iff :
    decodeBytes (Utf8.encode code) = .ok bytes ↔ Spells code bytes := by
  rw [decodeBytes_eq_ok_iff, spells_iff, codeBytes]
  exact ⟨fun h => Utf8.encode_injective h, fun h => congrArg _ h⟩

/-- Of a code, the bytes that it spells are read as a text. -/
theorem base64Decode_of_spells {code : String} (h : Spells code.toList bytes) :
    Converter.base64Decode code =
      match Utf8.decode bytes with
      | .error fault => .error (.utf8 fault)
      | .ok text => .ok (String.ofList text) := by
  cases htext : Utf8.decode bytes <;>
    simp only [Converter.base64Decode, decodeBytes_encode_iff.2 h, htext]

theorem exists_base64Decode_of_not_spells {code : String}
    (h : ∀ bytes, ¬ Spells code.toList bytes) :
    ∃ fault, Converter.base64Decode code = .error (.base64 fault) := by
  rw [Converter.base64Decode]
  cases hbytes : decodeBytes (Utf8.encode code.toList) with
  | error fault => exact ⟨fault, rfl⟩
  | ok bytes => exact absurd (decodeBytes_encode_iff.1 hbytes) (h bytes)

theorem base64Decode_eq_ok_iff {text code : String} :
    Converter.base64Decode code = .ok text ↔ Spells code.toList (Utf8.encode text.toList) := by
  constructor
  · intro h
    by_cases hspells : ∃ bytes, Spells code.toList bytes
    · obtain ⟨bytes, hspells⟩ := hspells
      rw [base64Decode_of_spells hspells] at h
      cases htext : Utf8.decode bytes with
      | error fault =>
        rw [htext] at h
        cases h
      | ok glyphs =>
        rw [htext] at h
        cases h
        rwa [String.toList_ofList, ← Utf8.decode_eq_ok_iff.1 htext]
    · obtain ⟨fault, hfault⟩ := exists_base64Decode_of_not_spells (not_exists.1 hspells)
      rw [hfault] at h
      cases h
  · intro h
    rw [base64Decode_of_spells h, Utf8.decode_encode]
    simp

/-- What is no code at all is refused as such. -/
theorem exists_base64_fault_iff {code : String} :
    (∃ fault, Converter.base64Decode code = .error (.base64 fault)) ↔
      ∀ bytes, ¬ Spells code.toList bytes := by
  refine ⟨fun ⟨fault, hfault⟩ bytes hspells => ?_, exists_base64Decode_of_not_spells⟩
  rw [base64Decode_of_spells hspells] at hfault
  cases htext : Utf8.decode bytes <;> rw [htext] at hfault <;> cases hfault

/-- A code of bytes that are no text is refused as such. -/
theorem exists_utf8_fault_iff {code : String} :
    (∃ fault, Converter.base64Decode code = .error (.utf8 fault)) ↔
      ∃ bytes, Spells code.toList bytes ∧ ∀ text, bytes ≠ Utf8.encode text := by
  constructor
  · rintro ⟨fault, hfault⟩
    by_cases hspells : ∃ bytes, Spells code.toList bytes
    · obtain ⟨bytes, hspells⟩ := hspells
      refine ⟨bytes, hspells, ?_⟩
      rintro text rfl
      rw [base64Decode_of_spells hspells, Utf8.decode_encode] at hfault
      cases hfault
    · obtain ⟨other, hother⟩ := exists_base64Decode_of_not_spells (not_exists.1 hspells)
      rw [hother] at hfault
      cases hfault
  · rintro ⟨bytes, hspells, hbytes⟩
    rw [base64Decode_of_spells hspells]
    cases htext : Utf8.decode bytes with
    | error fault => exact ⟨fault, rfl⟩
    | ok text => exact absurd (Utf8.decode_eq_ok_iff.1 htext) (hbytes text)

/-- **The converters `base64` and `base64decode` are inverse to each other.**  Every text
comes back from its code.  A code is read as a text if and only if the text is written as
this code, which is the one that spells its bytes.  Everything else is refused, either
because it spells no bytes, or because the bytes that it spells are no text. -/
theorem base64_inverse :
    (∀ text : String, builtin.apply text ["base64", "base64decode"] = .ok text) ∧
    (∀ code text : String, builtin.apply code ["base64decode"] = .ok text ↔
      builtin.apply text ["base64"] = .ok code) ∧
    (∀ code text : String, builtin.apply text ["base64"] = .ok code ↔
      Spells code.toList (Utf8.encode text.toList)) ∧
    (∀ code : String, (∃ fault, builtin.apply code ["base64decode"] = .error (.base64 fault)) ↔
      ∀ bytes, ¬ Spells code.toList bytes) ∧
    (∀ code : String, (∃ fault, builtin.apply code ["base64decode"] = .error (.utf8 fault)) ↔
      ∃ bytes, Spells code.toList bytes ∧ ∀ text, bytes ≠ Utf8.encode text) := by
  have hwrite (code text : String) : builtin.apply text ["base64"] = .ok code ↔
      Spells code.toList (Utf8.encode text.toList) := by
    rw [apply_base64_cons, Converter.Registry.apply, Except.ok.injEq, ← String.toList_inj,
      String.toList_ofList, spells_iff, encode, eq_comm]
  refine ⟨fun text => ?_, fun code text => ?_, hwrite, fun code => ?_, fun code => ?_⟩
  · rw [apply_base64_cons, apply_base64decode, base64Decode_eq_ok_iff, String.toList_ofList]
    exact spells_encodeBytes _
  · rw [apply_base64decode, base64Decode_eq_ok_iff, hwrite]
  · rw [apply_base64decode, exists_base64_fault_iff]
  · rw [apply_base64decode, exists_utf8_fault_iff]

example : encode "é+".toList = "w6kr".toList ∧ encode "go".toList = "Z28=".toList := by
  decide +kernel

end CallSheet.Text.Base64
