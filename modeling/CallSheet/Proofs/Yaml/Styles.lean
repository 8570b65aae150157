import CallSheet.Proofs.Yaml.Grammar
import CallSheet.Yaml.Scalar
import Mathlib.Algebra.Group.Nat.Defs

/-!
# The styles of YAML

A text in any of its styles is read in the grammar as this text.

* Characters.  What `isBreak` and `isSpecial` say about a character in terms of the
  grammar.
* On a line.  A text is read without quotes (`readsPlain_append`), between single quotes
  (`readsSingle_singleBody`) and between double quotes
  (`readsDouble_flatMap_doubleChar`).  `scalar_cases` says which of them it is.
* Blocks.  A block is read up to the first line that is not indented
  (`readsLines_literalBody`, `readsNode_block`).

`readsNode_scalar` puts the styles together.
-/

namespace CallSheet.Yaml

open Text

variable {text chars left name rest : List Char} {c d : Char}

/-! ## Characters -/

theorem eq_iff_toNat_eq (c d : Char) : c = d ↔ c.toNat = d.toNat := by
  constructor
  · rintro rfl
    rfl
  · intro h
    rw [← Char.ofNat_toNat c, h, Char.ofNat_toNat]

theorem isBreak_iff : isBreak c = true ↔ c ∈ breaks := by
  simp only [isBreak, breaks, Bool.or_eq_true, beq_iff_eq, List.mem_cons, List.not_mem_nil,
    or_false, eq_iff_toNat_eq c '\u0085', eq_iff_toNat_eq c '\u2028', eq_iff_toNat_eq c '\u2029']
  exact ⟨fun h => by tauto, fun h => by tauto⟩

/-- What is not special can stand in a text as it is. -/
theorem isPrintable_of_isSpecial (h : isSpecial c = false) : IsPrintable c := by
  simp only [isSpecial, Bool.not_eq_false', Bool.or_eq_true, Bool.and_eq_true, beq_iff_eq,
    decide_eq_true_eq, bne_iff_ne] at h
  have hbreak : c.toNat = 0x0A → c ∈ breaks := fun hc => by
    rw [(eq_iff_toNat_eq c '\n').2 hc]
    decide
  unfold IsPrintable
  tauto

theorem ne_of_isSpecial (h : isSpecial c = false) (hd : isSpecial d = true) : c ≠ d := by
  rintro rfl
  rw [h] at hd
  cases hd

/-- The only blank that is not special is the space. -/
theorem mem_blanks_iff (h : isSpecial c = false) : c ∈ blanks ↔ c = ' ' := by
  have htab : c ≠ '\t' := ne_of_isSpecial h (by decide)
  simp [blanks, htab]

/-- The end of a line that is not special stands for itself. -/
theorem lineEnd?_cons (h : isSpecial c = false) (hc : c ∈ breaks) (text : List Char) :
    lineEnd? (c :: text) = some (c, text) := by
  have hreturn : c ≠ '\r' := ne_of_isSpecial h (by decide)
  have hnext : c ≠ '\u0085' := ne_of_isSpecial h (by decide)
  simp only [breaks, List.mem_cons, List.not_mem_nil, or_false, hreturn, hnext, false_or] at hc
  rcases hc with rfl | rfl | rfl <;> rfl

/-! ## Without quotes -/

theorem hasColon_append (h : isGap rest = true) (before : List Char) :
    hasColon (before ++ ':' :: rest) = true := by
  induction before with
  | nil => simp [hasColon, h]
  | cons c before ih => simp [hasColon, ih]

theorem hasPair_tail {p q : Char → Bool} (h : hasPair p q (c :: text) = false) :
    hasPair p q text = false := by
  cases text with
  | nil => rfl
  | cons d text =>
    simp only [hasPair, Bool.or_eq_false_iff] at h
    exact h.2

theorem hasPair_append {p q : Char → Bool} (hc : p c = true) (hd : q d = true)
    (before rest : List Char) : hasPair p q (before ++ c :: d :: rest) = true := by
  by_contra hnone
  rw [Bool.not_eq_true] at hnone
  induction before with
  | nil => simp [hasPair, hc, hd] at hnone
  | cons e before ih => exact ih (hasPair_tail hnone)

/-- A text has nothing in it that would end a scalar without quotes. -/
structure IsPlain (text : List Char) : Prop where
  chars : ∀ c ∈ text, c ∉ breaks ∧ isSpecial c = false
  last : ∀ c ∈ text.getLast?, c ≠ ' '
  colon : hasColon text = false
  comment : hasPair isSpace (· == '#') text = false

theorem IsPlain.tail (h : IsPlain (c :: text)) : IsPlain text where
  chars d hd := h.chars d (List.mem_cons_of_mem _ hd)
  last d hd := h.last d (by
    rw [List.getLast?_cons]
    simp [Option.mem_def.1 hd])
  colon := by
    have := h.colon
    simp only [hasColon, Bool.or_eq_false_iff] at this
    exact this.2
  comment := hasPair_tail h.comment

/-- No scalar without quotes ends within the text. -/
theorem IsPlain.not_endsPlain (h : IsPlain text) (hne : text ≠ []) (left : List Char) :
    ¬ EndsPlain (text ++ left) := by
  have hrest : text.dropWhile (· ∈ blanks) ≠ [] := by
    intro hnil
    rw [List.dropWhile_eq_nil_iff] at hnil
    have hmem := List.getLast_mem hne
    have hlast := h.last _ (List.getLast?_eq_some_getLast hne)
    exact hlast ((mem_blanks_iff (h.chars _ hmem).2).1 (by simpa using hnil _ hmem))
  obtain ⟨c, rest, hsplit⟩ := List.exists_cons_of_ne_nil hrest
  have htext : text = text.takeWhile (· ∈ blanks) ++ c :: rest := by
    rw [← hsplit, List.takeWhile_append_dropWhile]
  have hdrop : (text ++ left).dropWhile (· ∈ blanks) = c :: (rest ++ left) := by
    rw [List.dropWhile_append, hsplit]
    rfl
  have hmem : ∀ d ∈ c :: rest, d ∈ text := fun d hd => by
    rw [htext]
    exact List.mem_append_right _ hd
  have hc := h.chars c (hmem c List.mem_cons_self)
  unfold EndsPlain
  rw [hdrop]
  rintro (hbreak | ⟨after, heq, hafter⟩ | ⟨hcomment, hbefore⟩)
  · exact hc.1 (hbreak c rfl)
  · -- a colon in the text is followed by something in the text
    obtain ⟨rfl, rfl⟩ := List.cons.inj heq
    have hgap : isGap rest = true := by
      cases rest with
      | nil => rfl
      | cons d rest =>
        have hd := h.chars d (hmem d (by simp))
        rcases hafter d rfl with hblank | hbreak
        · rw [(mem_blanks_iff hd.2).1 hblank]
          rfl
        · exact absurd hbreak hd.1
    have hcolon := h.colon
    rw [htext, hasColon_append hgap] at hcolon
    cases hcolon
  · obtain rfl := Option.some.inj hcomment
    have hne : text.takeWhile (· ∈ blanks) ≠ [] := by
      intro hnil
      rw [hnil, List.nil_append] at htext
      exact hbefore (by rw [htext, List.cons_append])
    obtain ⟨before, space, heq⟩ := (List.eq_nil_or_concat' _).resolve_left hne
    have hspace : space ∈ text.takeWhile (· ∈ blanks) := by simp [heq]
    have hblank : space = ' ' := by
      rw [← mem_blanks_iff (h.chars space (List.takeWhile_subset _ hspace)).2]
      simpa using List.mem_takeWhile_imp hspace
    have hcomment := h.comment
    rw [htext, heq, List.append_assoc, hblank, List.singleton_append,
      hasPair_append rfl rfl] at hcomment
    cases hcomment

theorem readsPlain_append (h : IsPlain text) (hend : EndsPlain left) :
    ReadsPlain (text ++ left) text left := by
  induction text with
  | nil => exact .stop hend
  | cons c text ih =>
    have hc := h.chars c List.mem_cons_self
    exact .char (h.not_endsPlain (List.cons_ne_nil c text) left) (isPrintable_of_isSpecial hc.2)
      (ih h.tail)

theorem isPlain_of_allowed (h : plainAllowed text = true) : IsPlain text := by
  simp only [plainAllowed, endsWide, Bool.and_eq_true, Bool.not_eq_true', List.any_eq_false,
    Bool.not_eq_true] at h
  obtain ⟨⟨⟨⟨⟨⟨-, hlast⟩, hbreak⟩, hspecial⟩, -⟩, hcolon⟩, hcomment⟩ := h
  refine ⟨fun c hc => ⟨?_, hspecial c hc⟩, fun c hc => ?_, hcolon, hcomment⟩
  · rw [← isBreak_iff, hbreak c hc]
    exact Bool.false_ne_true
  · rw [Option.mem_def.1 hc, Option.any_some, Bool.or_eq_false_iff] at hlast
    simpa [isSpace] using hlast.1

/-- A text that can stand without quotes starts a scalar without quotes. -/
theorem startsPlain_append (h : plainAllowed text = true) (hne : text ≠ []) (left : List Char) :
    StartsPlain (text ++ left) := by
  have hplain := isPlain_of_allowed h
  obtain ⟨c, rest, rfl⟩ := List.exists_cons_of_ne_nil hne
  have hc := hplain.chars c List.mem_cons_self
  simp only [plainAllowed, startsWide, Bool.and_eq_true, Bool.not_eq_true', List.head?_cons,
    Option.any_some, Bool.or_eq_false_iff] at h
  obtain ⟨⟨⟨⟨⟨⟨⟨hspace, -⟩, -⟩, -⟩, -⟩, hmark⟩, -⟩, -⟩ := h
  simp only [startsMark, Bool.or_eq_false_iff, Bool.and_eq_false_iff] at hmark
  obtain ⟨⟨⟨hother, hthree⟩, -⟩, -⟩ := hmark
  refine ⟨c, rest ++ left, rfl, ?_, hc.1, fun hindicator => ?_⟩
  · rw [mem_blanks_iff hc.2]
    simpa [isSpace] using hspace
  · have hsplit : indicators.all (fun d => "#,[]\x7b\x7d&*!|>\x27\"%@\x60".toList.contains d ||
        "-?:".toList.contains d && ['-', '?', ':'].contains d) = true := by decide
    have hthis := List.all_eq_true.1 hsplit c hindicator
    rw [hother, Bool.false_or, Bool.and_eq_true] at hthis
    obtain ⟨hcontains, hmem⟩ := hthis
    refine ⟨List.contains_iff_mem.1 hmem, fun hseparated => ?_⟩
    have hgap : isGap rest = false := hthree.resolve_left fun hnone => by
      rw [hcontains] at hnone
      cases hnone
    cases rest with
    | nil => cases hgap
    | cons d rest =>
      have hd := hplain.chars d (by simp)
      rcases hseparated d rfl with hblank | hbreak
      · rw [(mem_blanks_iff hd.2).1 hblank] at hgap
        cases hgap
      · exact hd.1 hbreak

/-! ## Single quotes -/

/-- A text has nothing in it that single quotes would lose. -/
structure IsSingle (text : List Char) : Prop where
  chars : ∀ c ∈ text, c ≠ '\n' ∧ isSpecial c = false
  after : hasPair isBreak isSpace text = false
  before : hasPair isSpace isBreak text = false

theorem IsSingle.tail (h : IsSingle (c :: text)) : IsSingle text where
  chars d hd := h.chars d (List.mem_cons_of_mem _ hd)
  after := hasPair_tail h.after
  before := hasPair_tail h.before

theorem exists_singleBody_cons (hc : isBreak c = false) (text left : List Char) :
    ∃ rest, singleBody false (c :: text) ++ left = c :: rest := by
  simp only [singleBody, hc, Bool.false_eq_true, if_false]
  split <;> exact ⟨_, rfl⟩

theorem singleBody_true_cons (hc : isBreak c = false) (text : List Char) :
    singleBody true (c :: text) = indent ++ singleBody false (c :: text) := by
  simp [singleBody, hc]

/-- Between single quotes, the end of a line does not come behind blanks. -/
theorem lineEnd?_singleBody (hspecial : ∀ c ∈ text, isSpecial c = false)
    (h : hasPair isSpace isBreak (' ' :: text) = false) (left : List Char) :
    lineEnd? ((singleBody false text ++ '\'' :: left).dropWhile (· ∈ blanks)) = none := by
  induction text with
  | nil => rfl
  | cons c text ih =>
    have hc := hspecial c List.mem_cons_self
    have hbreak : isBreak c = false := by
      simp only [hasPair, Bool.or_eq_false_iff] at h
      simpa [isSpace] using h.1
    have hnot : c ∉ breaks := by
      rw [← isBreak_iff, hbreak]
      exact Bool.false_ne_true
    by_cases hspace : c = ' '
    · subst hspace
      have hbody : singleBody false (' ' :: text) = ' ' :: singleBody false text := by
        simp [singleBody, hbreak]
      rw [hbody, List.cons_append, List.dropWhile_cons_of_pos (by decide)]
      exact ih (fun d hd => hspecial d (List.mem_cons_of_mem _ hd)) (hasPair_tail h)
    · obtain ⟨rest, hrest⟩ := exists_singleBody_cons hbreak text ('\'' :: left)
      rw [hrest, List.dropWhile_cons_of_neg (by simp [mem_blanks_iff hc, hspace])]
      exact lineEnd?_cons_of_not_mem hnot rest

/-- The indent at the start of a line does not count. -/
theorem dropWhile_singleBody (h : ∀ c ∈ text.head?, c ∉ blanks) (left : List Char) :
    (singleBody true text ++ '\'' :: left).dropWhile (· ∈ blanks) =
      singleBody false text ++ '\'' :: left := by
  have hindent : ∀ text : List Char, (indent ++ text).dropWhile (· ∈ blanks) =
      text.dropWhile (· ∈ blanks) := fun text => rfl
  cases text with
  | nil => rfl
  | cons c text =>
    have hc : c ∉ blanks := h c rfl
    cases hbreak : isBreak c with
    | true =>
      simp only [singleBody, hbreak, if_true]
      rw [List.cons_append, List.dropWhile_cons_of_neg (by simpa using hc)]
    | false =>
      obtain ⟨rest, hrest⟩ := exists_singleBody_cons hbreak text ('\'' :: left)
      rw [singleBody_true_cons hbreak, List.append_assoc, hindent, hrest,
        List.dropWhile_cons_of_neg (by simpa using hc)]

theorem readsSingle_singleBody (h : IsSingle text) (hleft : left.head? ≠ some '\'') :
    ReadsSingle (singleBody false text ++ '\'' :: left) text left := by
  induction text with
  | nil => exact .close hleft
  | cons c text ih =>
    obtain ⟨hline, hspecial⟩ := h.chars c List.mem_cons_self
    cases hbreak : isBreak c with
    | true =>
      have hseparator : c = '\u2028' ∨ c = '\u2029' := by
        have hreturn : c ≠ '\r' := ne_of_isSpecial hspecial (by decide)
        have hnext : c ≠ '\u0085' := ne_of_isSpecial hspecial (by decide)
        simpa [breaks, hline, hreturn, hnext] using isBreak_iff.1 hbreak
      have hfirst : ∀ d ∈ text.head?, d ∉ blanks := by
        intro d hd hblank
        obtain ⟨rest, rfl⟩ := List.head?_eq_some_iff.1 hd
        have hafter := h.after
        rw [mem_blanks_iff (h.chars d (by simp)).2] at hblank
        simp [hasPair, hbreak, hblank, isSpace] at hafter
      have hbody : singleBody false (c :: text) = c :: singleBody true text := by
        simp [singleBody, hbreak]
      rw [hbody, List.cons_append]
      refine .line hseparator ?_
      rw [dropWhile_singleBody hfirst]
      exact ih h.tail
    | false =>
      have hnot : c ∉ breaks := by
        rw [← isBreak_iff, hbreak]
        exact Bool.false_ne_true
      by_cases hquote : c = '\''
      · subst hquote
        exact .quote (ih h.tail)
      · have hbody : singleBody false (c :: text) = c :: singleBody false text := by
          simp [singleBody, hbreak, hquote]
        rw [hbody]
        refine .char hquote hnot (fun hblank => ?_) (isPrintable_of_isSpecial hspecial) (ih h.tail)
        rw [mem_blanks_iff hspecial] at hblank
        subst hblank
        exact lineEnd?_singleBody (fun d hd => (h.tail.chars d hd).2) h.before left

/-! ## Double quotes -/

theorem digitsFrom?_append (base value : Nat) (first second : List Char) :
    digitsFrom? base value (first ++ second) =
      (digitsFrom? base value first).bind fun value => digitsFrom? base value second := by
  induction first generalizing value with
  | nil => rfl
  | cons c first ih =>
    simp only [List.cons_append, digitsFrom?]
    split
    · split
      · exact ih _
      · rfl
    · rfl

theorem length_hex (width n : Nat) : (hex width n).length = width := by
  induction width generalizing n with
  | zero => rfl
  | succ width ih => simp [hex, ih]

/-- A number is read from its last digits. -/
theorem digitsFrom?_hex (width n : Nat) :
    digitsFrom? 16 0 (hex width n) = some (n % 16 ^ width) := by
  have hdigit : ∀ digit < 16, digitValue? (Nat.digitChar digit).toUpper = some digit := by decide
  induction width generalizing n with
  | zero => simp [hex, digitsFrom?, Nat.mod_one]
  | succ width ih =>
    have hlt : n % 16 < 16 := Nat.mod_lt _ (by decide)
    have hsplit : n % 16 ^ (width + 1) = n / 16 % 16 ^ width * 16 + n % 16 := by
      rw [Nat.pow_succ', Nat.mod_mul]
      omega
    rw [hex, digitsFrom?_append, ih, Option.bind_some, digitsFrom?, hdigit _ hlt]
    simp only [hlt, if_true, digitsFrom?, hsplit]

theorem digits?_hex {width n : Nat} (hwidth : 0 < width) (hn : n < 16 ^ width) :
    digits? 16 (hex width n) = some n := by
  have hne : (hex width n).isEmpty = false := by
    rw [List.isEmpty_eq_false_iff, ← List.length_pos_iff, length_hex]
    exact hwidth
  rw [digits?, hne, digitsFrom?_hex, Nat.mod_eq_of_lt hn]
  rfl

/-- The ends of lines have letters after a backslash. -/
theorem lookup_escapes_ne_none (hc : c ∈ breaks) : escapes.lookup c.toNat ≠ none := by
  have hall : breaks.all (fun d => (escapes.lookup d.toNat).isSome) = true := by decide
  have hsome := List.all_eq_true.1 hall c hc
  intro hnone
  rw [hnone] at hsome
  cases hsome

/-- A character between double quotes is read as such. -/
theorem readsDouble_doubleChar (c : Char) (h : ReadsDouble text chars left) :
    ReadsDouble (doubleChar c ++ text) (c :: chars) left := by
  have hcode : ∀ mark width, codeWidths.lookup mark = some width → 0 < width →
      c.toNat < 16 ^ width →
        ReadsDouble ('\\' :: mark :: (hex width c.toNat ++ text)) (c :: chars) left := by
    intro mark width hmark hpos hlt
    have hread := ReadsDouble.code hmark rfl (length_hex width c.toNat) (digits?_hex hpos hlt) h
    rwa [Char.ofNat_toNat] at hread
  simp only [doubleChar]
  split
  · next letter hletter =>
    have hshort : ∀ code ∈ escapes, shortEscapes.lookup code.2 = some (Char.ofNat code.1) := by
      decide
    obtain ⟨before, after, hescapes, -⟩ := List.lookup_eq_some_iff.1 hletter
    have hmark := hshort (c.toNat, letter) (by simp [hescapes])
    rw [Char.ofNat_toNat] at hmark
    exact .short hmark h
  next hnone =>
  have hne : ∀ d : Char, escapes.lookup d.toNat ≠ none → c ≠ d := by
    rintro d hd rfl
    exact hd hnone
  split
  · next hplain =>
    have hspecial : isSpecial c = false := by simpa using hplain
    exact .char (hne _ (by decide)) (hne _ (by decide))
      (fun hbreak => lookup_escapes_ne_none hbreak hnone) (isPrintable_of_isSpecial hspecial) h
  split
  · next hlow => exact hcode 'x' 2 rfl (by decide) (by omega)
  split
  · next hlow => exact hcode 'u' 4 rfl (by decide) (by omega)
  · have hlimit : c.toNat < 0xD800 ∨ 0xDFFF < c.toNat ∧ c.toNat < 0x110000 := c.valid
    exact hcode 'U' 8 rfl (by decide) (by omega)

theorem readsDouble_flatMap_doubleChar (text left : List Char) :
    ReadsDouble (text.flatMap doubleChar ++ '"' :: left) text left := by
  induction text with
  | nil => exact .close left
  | cons c text ih =>
    rw [List.flatMap_cons, List.append_assoc]
    exact readsDouble_doubleChar c ih

/-! ## On a line -/

theorem EndsPlain.head?_ne_quote (h : EndsPlain left) : left.head? ≠ some '\'' := by
  intro hhead
  obtain ⟨rest, rfl⟩ := List.head?_eq_some_iff.1 hhead
  unfold EndsPlain at h
  rw [List.dropWhile_cons_of_neg (by decide)] at h
  rcases h with hbreak | ⟨after, heq, -⟩ | ⟨hcomment, -⟩
  · exact absurd (hbreak '\'' rfl) (by decide)
  · cases heq
  · cases hcomment

/-- The three ways in which a text is written that is not in a block. -/
theorem scalar_cases (h : Style.of text ≠ .literal) :
    (scalar text = text ∧ plainAllowed text = true ∧ text ≠ []) ∨
      (scalar text = '\'' :: (singleBody false text ++ ['\'']) ∧ IsSingle text) ∨
      scalar text = '"' :: (text.flatMap doubleChar ++ ['"']) := by
  unfold scalar
  simp only [Style.of] at h ⊢
  split
  · next hline =>
    rw [if_pos hline] at h
    rw [if_neg fun hallowed => h (if_pos hallowed)]
    exact .inr (.inr rfl)
  next hline =>
  split
  · next hplain =>
    simp only [Bool.and_eq_true, Bool.not_eq_true'] at hplain
    refine .inl ⟨rfl, hplain.1, ?_⟩
    rintro rfl
    exact absurd hplain.2 (by decide)
  split
  · next hsingle =>
    simp only [singleAllowed, Bool.and_eq_true, Bool.not_eq_true', List.any_eq_false,
      Bool.not_eq_true] at hsingle
    obtain ⟨⟨hafter, hbefore⟩, hspecial⟩ := hsingle
    refine .inr (.inl ⟨rfl, fun c hc => ⟨?_, hspecial c hc⟩, hafter, hbefore⟩)
    rintro rfl
    exact hline (List.contains_iff_mem.2 hc)
  · exact .inr (.inr rfl)

/-- A text that is not in a block is read as this text. -/
theorem readsInline_scalar (h : Style.of text ≠ .literal) (hend : EndsPlain left) :
    ReadsInline (scalar text ++ left) text left := by
  rcases scalar_cases h with ⟨heq, hplain, hne⟩ | ⟨heq, hsingle⟩ | heq
  · rw [heq]
    exact .plain (startsPlain_append hplain hne left)
      (readsPlain_append (isPlain_of_allowed hplain) hend)
  · rw [heq, List.cons_append, List.append_assoc]
    exact .single (readsSingle_singleBody hsingle hend.head?_ne_quote)
  · rw [heq, List.cons_append, List.append_assoc]
    exact .double (readsDouble_flatMap_doubleChar text left)

/-! ## Blocks -/

/-- A text is empty, or its first line is not indented. -/
def Unindented (text : List Char) : Prop := ∀ c ∈ text.head?, c ∉ blanks ∧ c ∉ breaks

/-- The lines of a block are read up to a line that is not indented. -/
theorem readsLines_literalBody (hspecial : ∀ c ∈ text, isSpecial c = false)
    (hlast : ∀ c ∈ text.getLast?, c ∈ breaks) (hleft : Unindented left) {atStart : Bool}
    (hstart : text = [] → atStart = true) :
    ReadsLines 2 atStart (literalBody atStart text ++ left) text left := by
  have hnot : ∀ {c : Char} (rest : List Char), c ≠ ' ' →
      ¬ List.replicate 2 ' ' <+: c :: rest ∧ (c :: rest).dropWhile (· == ' ') = c :: rest := by
    intro c rest hc
    refine ⟨fun hwidth => ?_, List.dropWhile_cons_of_neg (by simpa using hc)⟩
    exact hc (List.cons_prefix_cons.1 hwidth).1.symm
  induction text generalizing atStart with
  | nil =>
    obtain rfl := hstart rfl
    rw [literalBody, List.nil_append]
    cases left with
    | nil => exact .stop (by decide) rfl
    | cons c rest =>
      obtain ⟨hblank, hbreak⟩ := hleft c rfl
      have hspace : c ≠ ' ' := by
        rintro rfl
        exact hblank (by decide)
      obtain ⟨hwidth, hdrop⟩ := hnot rest hspace
      refine .stop hwidth ?_
      rw [hdrop]
      exact lineEnd?_cons_of_not_mem hbreak rest
  | cons c text ih =>
    have hc := hspecial c List.mem_cons_self
    have htext : ∀ d ∈ text, isSpecial d = false := fun d hd =>
      hspecial d (List.mem_cons_of_mem _ hd)
    have hend : ∀ d ∈ text.getLast?, d ∈ breaks := fun d hd => hlast d (by
      rw [List.getLast?_cons]
      simp [Option.mem_def.1 hd])
    by_cases hbreak : c ∈ breaks
    · have hspace : c ≠ ' ' := by
        rintro rfl
        exact absurd hbreak (by decide)
      have hbody : literalBody atStart (c :: text) = c :: literalBody true text := by
        simp [literalBody, isBreak_iff.2 hbreak]
      have hrest : ReadsLines 2 true (literalBody true text ++ left) text left :=
        ih htext hend fun _ => rfl
      rw [hbody, List.cons_append]
      have hline := lineEnd?_cons hc hbreak (literalBody true text ++ left)
      cases atStart with
      | false => exact .line hline hrest
      | true =>
        obtain ⟨hwidth, hdrop⟩ := hnot (literalBody true text ++ left) hspace
        refine .empty hwidth ?_ hrest
        rw [hdrop, hline]
    · have hne : text ≠ [] := by
        rintro rfl
        exact hbreak (hlast c rfl)
      have hrest : ReadsLines 2 false (literalBody false text ++ left) text left :=
        ih htext hend fun hnil => absurd hnil hne
      have hread := ReadsLines.char hbreak (isPrintable_of_isSpecial hc) hrest
      have hfalse : isBreak c = false := by
        rwa [← Bool.not_eq_true, isBreak_iff]
      cases atStart with
      | false => simpa [literalBody, hfalse] using hread
      | true =>
        refine .indented ?_ hread
        simp [literalBody, hfalse, indent, List.replicate]

theorem literalBody_append_line (text : List Char) (atStart : Bool) :
    literalBody atStart (text ++ ['\n']) = literalBody atStart text ++ ['\n'] := by
  have hbreak : isBreak '\n' = true := by decide
  induction text generalizing atStart with
  | nil => simp [literalBody, hbreak]
  | cons c text ih =>
    simp only [List.cons_append, literalBody]
    split <;> simp [ih]

/-- What the header of a block says about the ends of its lines is right for the text. -/
theorem exists_ending (hne : text ≠ []) (body : List Char) :
    ∃ ending : Ending, Ending.read (chomping text ++ '\n' :: body) = (ending, '\n' :: body) ∧
      ending.cut (if text.getLast?.any isBreak then text else text ++ ['\n']) = text := by
  obtain ⟨before, last, rfl⟩ := (List.eq_nil_or_concat' text).resolve_left hne
  rw [List.getLast?_concat, Option.any_some]
  by_cases hlast : isBreak last = true
  · rw [if_pos hlast]
    have hkeep : chomping (before ++ [last]) = ['+'] →
        ∃ ending : Ending, Ending.read (chomping (before ++ [last]) ++ '\n' :: body) =
            (ending, '\n' :: body) ∧ ending.cut (before ++ [last]) = before ++ [last] := by
      intro h
      exact ⟨.keep, by rw [h]; rfl, rfl⟩
    rcases List.eq_nil_or_concat' before with rfl | ⟨first, c, rfl⟩
    · exact hkeep (by simp [chomping, hlast])
    by_cases hc : isBreak c = true
    · exact hkeep (by simp [chomping, hlast, hc])
    · -- exactly one line end
      refine ⟨.clip, by simp [chomping, hlast, hc, Ending.read], ?_⟩
      have hmem : last ∈ breaks := isBreak_iff.1 hlast
      have hnot : c ∉ breaks := fun h => hc (isBreak_iff.2 h)
      rw [Ending.cut, List.rdropWhile_concat_pos _ _ _ (by simpa using hmem),
        List.rdropWhile_concat_neg _ _ _ (by simpa using hnot), if_neg (by simp),
        List.take_of_length_le (by simp)]
  · rw [if_neg hlast]
    refine ⟨.strip, by simp [chomping, hlast, Ending.read], ?_⟩
    have hnot : last ∉ breaks := fun h => hlast (isBreak_iff.2 h)
    rw [Ending.cut, List.rdropWhile_concat_pos _ _ _ (by decide),
      List.rdropWhile_concat_neg _ _ _ (by simpa using hnot)]

theorem widthHint_chomping (text body : List Char) :
    widthHint (chomping text ++ '\n' :: body) = (none, chomping text ++ '\n' :: body) := by
  unfold chomping
  split
  · rfl
  · split
    · rfl
    · split
      · rfl
      · split <;> rfl

/-- Without a number in the header, the first line of a block shows the indent. -/
theorem indented_literalBody (hne : text ≠ []) (h : startsWide text = false) (left : List Char) :
    Indented none (literalBody true text ++ left) 2 := by
  obtain ⟨c, rest, rfl⟩ := List.exists_cons_of_ne_nil hne
  simp only [startsWide, List.head?_cons, Option.any_some, Bool.or_eq_false_iff] at h
  have hspace : (c == ' ') = false := h.1
  have hbreak : c ∉ breaks := by
    rw [← isBreak_iff, h.2]
    exact Bool.false_ne_true
  have hbody : literalBody true (c :: rest) ++ left =
      ' ' :: ' ' :: c :: (literalBody false rest ++ left) := by
    simp [literalBody, h.2, indent]
  have hfirst : (literalBody true (c :: rest) ++ left).dropWhile (· == ' ') =
      c :: (literalBody false rest ++ left) := by
    simp [hbody, List.dropWhile, hspace]
  have hwidth : ((literalBody true (c :: rest) ++ left).takeWhile (· == ' ')).length = 2 := by
    simp [hbody, List.takeWhile, hspace]
  have hindented := Indented.shown hfirst hbreak
  rwa [hwidth] at hindented

/-- A text in a block is read as this text, up to a line that is not indented. -/
theorem readsNode_block (h : Style.of text = .literal) (hleft : Unindented left) :
    ReadsNode (scalar text ++ (endLine text ++ left)) text left := by
  have hallowed : '\n' ∈ text ∧ literalAllowed text = true := by
    simp only [Style.of] at h
    split at h
    · next hline =>
      split at h
      · next hallowed => exact ⟨List.contains_iff_mem.1 hline, hallowed⟩
      · cases h
    · split at h
      · cases h
      · split at h <;> cases h
  obtain ⟨hline, hallowed⟩ := hallowed
  simp only [literalAllowed, Bool.and_eq_true, Bool.not_eq_true', List.any_eq_false,
    Bool.not_eq_true] at hallowed
  have hne := List.ne_nil_of_mem hline
  -- the lines of the block, with an end of the last one
  obtain ⟨lines, hlines⟩ : ∃ lines, lines =
      if text.getLast?.any isBreak then text else text ++ ['\n'] := ⟨_, rfl⟩
  have hbody : literalBody true text ++ endLine text = literalBody true lines := by
    simp only [endLine, h, true_and, hlines]
    split
    · rw [List.append_nil]
    · rw [literalBody_append_line]
  have hspecial : ∀ c ∈ lines, isSpecial c = false := by
    intro c hc
    rw [hlines] at hc
    split at hc
    · exact hallowed.2 c hc
    · rcases List.mem_append.1 hc with hc | hc
      · exact hallowed.2 c hc
      · rw [List.mem_singleton.1 hc]
        decide
  have hlast : ∀ c ∈ lines.getLast?, c ∈ breaks := by
    intro c hc
    rw [hlines] at hc
    split at hc
    · next hbreak =>
      rw [Option.mem_def.1 hc, Option.any_some] at hbreak
      exact isBreak_iff.1 hbreak
    · rw [List.getLast?_concat] at hc
      obtain rfl := Option.some.inj hc
      decide
  have hread := readsLines_literalBody hspecial hlast hleft fun _ => rfl
  obtain ⟨ending, hending, hcut⟩ := exists_ending hne (literalBody true lines ++ left)
  rw [← hlines] at hcut
  have htext : scalar text ++ (endLine text ++ left) =
      '|' :: ((if startsWide text then ['2'] else []) ++
        (chomping text ++ '\n' :: (literalBody true lines ++ left))) := by
    simp [scalar, h, write, ← hbody]
  have hheader := widthHint_chomping text (literalBody true lines ++ left)
  have hnode : ReadsNode (scalar text ++ (endLine text ++ left)) (ending.cut lines) left := by
    rw [htext]
    cases hwide : startsWide text with
    | true => exact .block hending (by decide) (.said 2 _) hread
    | false =>
      have hindented : Indented none (literalBody true lines ++ left) 2 := by
        rw [← hbody, List.append_assoc]
        exact indented_literalBody hne hwide _
      simp only [Bool.false_eq_true, if_false, List.nil_append]
      refine .block ?_ (by decide) ?_ hread
      · rw [hheader]
        exact hending
      · rw [hheader]
        exact hindented
  rwa [hcut] at hnode

/-- A text in its style, up to the end of its last line, is read as this text. -/
theorem readsNode_scalar (text : List Char) (hleft : Unindented left) :
    ReadsNode (scalar text ++ (endLine text ++ left)) text left := by
  by_cases h : Style.of text = .literal
  · exact readsNode_block h hleft
  · have hline : endLine text = ['\n'] := by simp [endLine, h]
    have hend : EndsPlain ('\n' :: left) := .inl fun c hc => by
      obtain rfl := Option.some.inj hc
      decide
    rw [hline]
    exact .inline (readsInline_scalar h hend) rfl

end CallSheet.Yaml
