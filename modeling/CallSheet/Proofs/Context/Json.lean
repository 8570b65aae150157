import CallSheet.Context.Json
import CallSheet.Text.Digits

/-!
# Contexts in JSON

The JSON grammar, and that a context written as JSON has exactly one reading in it: the
object of its names and values, in their order.

There are four groups.

* Grammar.  Each relation says what can be read at the start of a text, and what is left
  of the text after it.  `Spells` is about a whole text.
* Strings.  A string has one reading and one end, whatever follows it
  (`Characters.unique`), and an escaped text is read as this text
  (`characters_flatMap_escape`).
* Members.  What a value starts with says how it is read, and the lines of an object are
  read as its members (`readsMembers_members_iff`).
* Contexts.  `Records` says that a text has a context as its one reading, and
  `records_toJson` that the text of a context does.
-/

namespace CallSheet.Json

open Text

/-! ## Grammar -/

/-- A JSON value.  A number is kept as it is written. -/
inductive Value where
  | null
  | boolean (value : Bool)
  | number (text : List Char)
  | string (text : String)
  | array (items : List Value)
  | object (members : List (String × Value))

/-- The characters that stand between the parts of a text. -/
def blanks : List Char := [' ', '\t', '\n', '\r']

/-- Blanks, none or some or more. -/
inductive Blanks : List Char → List Char → Prop where
  | stop (left : List Char) : Blanks left left
  | skip {c : Char} {text left : List Char} (hc : c ∈ blanks) (rest : Blanks text left) :
      Blanks (c :: text) left

/-- What a character after a backslash stands for. -/
def shortEscapes : List (Char × Char) :=
  [('"', '"'), ('\\', '\\'), ('/', '/'), ('b', '\x08'), ('f', '\x0c'), ('n', '\n'), ('r', '\r'),
    ('t', '\t')]

/-- Numbers that are one half of a character. -/
def IsSurrogate (n : Nat) : Prop := 0xD800 ≤ n ∧ n < 0xE000

/-- The characters of a string and its closing quote. -/
inductive Characters : List Char → List Char → List Char → Prop where
  | close (left : List Char) : Characters ('"' :: left) [] left
  | plain {c : Char} {text chars left : List Char} (hlow : 0x20 ≤ c.toNat) (hquote : c ≠ '"')
      (hmark : c ≠ '\\') (rest : Characters text chars left) :
      Characters (c :: text) (c :: chars) left
  | short {mark c : Char} {text chars left : List Char}
      (hmark : shortEscapes.lookup mark = some c) (rest : Characters text chars left) :
      Characters ('\\' :: mark :: text) (c :: chars) left
  | unit {a b c d : Char} {n : Nat} {text chars left : List Char}
      (hn : digits? 16 [a, b, c, d] = some n) (hwhole : ¬ IsSurrogate n)
      (rest : Characters text chars left) :
      Characters ('\\' :: 'u' :: a :: b :: c :: d :: text) (Char.ofNat n :: chars) left
  | pair {a b c d a' b' c' d' : Char} {high low : Nat} {text chars left : List Char}
      (hhigh : digits? 16 [a, b, c, d] = some high) (hfirst : 0xD800 ≤ high ∧ high < 0xDC00)
      (hlow : digits? 16 [a', b', c', d'] = some low) (hsecond : 0xDC00 ≤ low ∧ low < 0xE000)
      (rest : Characters text chars left) :
      Characters
        ('\\' :: 'u' :: a :: b :: c :: d :: '\\' :: 'u' :: a' :: b' :: c' :: d' :: text)
        (Char.ofNat (0x10000 + (high - 0xD800) * 0x400 + (low - 0xDC00)) :: chars) left

/-- A string. -/
inductive ReadsString : List Char → String → List Char → Prop where
  | quoted {text left : List Char} {value : String}
      (h : Characters text value.toList left) : ReadsString ('"' :: text) value left

/-- The name of a member, with the colon after it. -/
inductive ReadsName : List Char → String → List Char → Prop where
  | padded {text start after left : List Char} {name : String} (hbefore : Blanks text start)
      (hname : ReadsString start name after) (hafter : Blanks after (':' :: left)) :
      ReadsName text name left

/-- At least one digit, and nothing else. -/
def IsDigits (text : List Char) : Prop := text ≠ [] ∧ ∀ c ∈ text, c.isDigit = true

/-- A number: an integer without superfluous zeros, and perhaps a fraction and an
exponent. -/
inductive IsNumber : List Char → Prop where
  | parts {sign whole fraction exponent : List Char} (hsign : sign = [] ∨ sign = ['-'])
      (hwhole : IsDigits whole) (hzero : whole.head? = some '0' → whole = ['0'])
      (hfraction : fraction = [] ∨ ∃ digits, fraction = '.' :: digits ∧ IsDigits digits)
      (hexponent : exponent = [] ∨ ∃ mark sign digits, exponent = mark :: (sign ++ digits) ∧
        mark ∈ ['e', 'E'] ∧ sign ∈ [[], ['+'], ['-']] ∧ IsDigits digits) :
      IsNumber (sign ++ whole ++ fraction ++ exponent)

mutual

/-- A value. -/
inductive Reads : List Char → Value → List Char → Prop where
  | null {left : List Char} : Reads ('n' :: 'u' :: 'l' :: 'l' :: left) .null left
  | yes {left : List Char} : Reads ('t' :: 'r' :: 'u' :: 'e' :: left) (.boolean true) left
  | no {left : List Char} :
      Reads ('f' :: 'a' :: 'l' :: 's' :: 'e' :: left) (.boolean false) left
  | number {number left : List Char} (h : IsNumber number) :
      Reads (number ++ left) (.number number) left
  | string {text left : List Char} {value : String} (h : ReadsString text value left) :
      Reads text (.string value) left
  | emptyArray {text left : List Char} (h : Blanks text (']' :: left)) :
      Reads ('[' :: text) (.array []) left
  | array {text left : List Char} {items : List Value} (h : ReadsItems text items left) :
      Reads ('[' :: text) (.array items) left
  | emptyObject {text left : List Char} (h : Blanks text ('\x7d' :: left)) :
      Reads ('\x7b' :: text) (.object []) left
  | object {text left : List Char} {members : List (String × Value)}
      (h : ReadsMembers text members left) : Reads ('\x7b' :: text) (.object members) left

/-- A value with blanks around it. -/
inductive ReadsElement : List Char → Value → List Char → Prop where
  | padded {text start after left : List Char} {value : Value} (hbefore : Blanks text start)
      (hvalue : Reads start value after) (hafter : Blanks after left) :
      ReadsElement text value left

/-- The items of an array, at least one, and its end. -/
inductive ReadsItems : List Char → List Value → List Char → Prop where
  | last {text left : List Char} {item : Value} (hitem : ReadsElement text item (']' :: left)) :
      ReadsItems text [item] left
  | more {text next left : List Char} {item : Value} {items : List Value}
      (hitem : ReadsElement text item (',' :: next)) (rest : ReadsItems next items left) :
      ReadsItems text (item :: items) left

/-- The members of an object, at least one, and its end. -/
inductive ReadsMembers : List Char → List (String × Value) → List Char → Prop where
  | last {text start left : List Char} {name : String} {value : Value}
      (hname : ReadsName text name start) (hvalue : ReadsElement start value ('\x7d' :: left)) :
      ReadsMembers text [(name, value)] left
  | more {text start next left : List Char} {name : String} {value : Value}
      {members : List (String × Value)} (hname : ReadsName text name start)
      (hvalue : ReadsElement start value (',' :: next)) (rest : ReadsMembers next members left) :
      ReadsMembers text ((name, value) :: members) left

end

/-- A text is a JSON text of a value. -/
def Spells (text : List Char) (value : Value) : Prop := ReadsElement text value []

/-! ## Blanks -/

variable {text left other : List Char}

/-- Blanks end where something else starts. -/
theorem blanks_iff {c : Char} (hc : c ∉ blanks) :
    Blanks text (c :: left) ↔ text.dropWhile (· ∈ blanks) = c :: left := by
  constructor
  · intro h
    generalize hstart : c :: left = start at h
    induction h with
    | stop start => rw [← hstart, List.dropWhile_cons_of_neg (by simpa using hc)]
    | skip hblank rest ih =>
      rw [List.dropWhile_cons_of_pos (by simpa using hblank)]
      exact ih hstart
  · intro h
    induction text with
    | nil => cases h
    | cons first text ih =>
      by_cases hfirst : first ∈ blanks
      · rw [List.dropWhile_cons_of_pos (by simpa using hfirst)] at h
        exact .skip hfirst (ih h)
      · rw [List.dropWhile_cons_of_neg (by simpa using hfirst)] at h
        exact h ▸ .stop _

/-! ## Strings -/

theorem lookup_unit : shortEscapes.lookup 'u' = none := by decide

/-- A string has one reading and one end. -/
theorem Characters.unique {chars chars' left' : List Char} (h : Characters text chars left)
    (h' : Characters text chars' left') : chars' = chars ∧ left' = left := by
  induction h generalizing chars' with
  | close left =>
    cases h' with
    | close => exact ⟨rfl, rfl⟩
    | plain _ hquote => exact absurd rfl hquote
  | plain hlow hquote hmark rest ih =>
    cases h' with
    | close => exact absurd rfl hquote
    | plain _ _ _ rest' =>
      obtain ⟨rfl, rfl⟩ := ih rest'
      exact ⟨rfl, rfl⟩
    | short | unit | pair => exact absurd rfl hmark
  | short hmark rest ih =>
    cases h' with
    | plain _ _ hmark' => exact absurd rfl hmark'
    | short hmark' rest' =>
      obtain ⟨rfl, rfl⟩ := ih rest'
      rw [hmark] at hmark'
      cases hmark'
      exact ⟨rfl, rfl⟩
    | unit | pair => exact absurd hmark (by simp [lookup_unit])
  | unit hn hwhole rest ih =>
    cases h' with
    | plain _ _ hmark' => exact absurd rfl hmark'
    | short hmark' => exact absurd hmark' (by simp [lookup_unit])
    | unit hn' _ rest' =>
      obtain ⟨rfl, rfl⟩ := ih rest'
      rw [hn] at hn'
      cases hn'
      exact ⟨rfl, rfl⟩
    | pair hhigh hfirst =>
      rw [hn] at hhigh
      cases hhigh
      exact absurd ⟨hfirst.1, by omega⟩ hwhole
  | pair hhigh hfirst hlow hsecond rest ih =>
    cases h' with
    | plain _ _ hmark' => exact absurd rfl hmark'
    | short hmark' => exact absurd hmark' (by simp [lookup_unit])
    | unit hn hwhole =>
      rw [hhigh] at hn
      cases hn
      exact absurd ⟨hfirst.1, by omega⟩ hwhole
    | pair hhigh' _ hlow' _ rest' =>
      obtain ⟨rfl, rfl⟩ := ih rest'
      rw [hhigh] at hhigh'
      rw [hlow] at hlow'
      cases hhigh'
      cases hlow'
      exact ⟨rfl, rfl⟩

/-- An escaped character is read as this character, whatever follows it. -/
theorem characters_escape {chars : List Char} (c : Char) (h : Characters text chars left) :
    Characters (escape c ++ text) (c :: chars) left := by
  have hshort : ∀ n mark, c.toNat = n → shortEscapes.lookup mark = some (Char.ofNat n) →
      Characters (['\\', mark] ++ text) (c :: chars) left := by
    rintro n mark rfl hmark
    rw [Char.ofNat_toNat] at hmark
    exact .short hmark h
  have hcontrol : ∀ n < 0x20,
      digits? 16 ['0', '0', Nat.digitChar (n / 16), Nat.digitChar (n % 16)] = some n := by decide
  unfold escape
  split
  · next hc => exact hshort 0x22 '"' (by rw [hc]; rfl) rfl
  next hquote =>
  split
  · next hc => exact hshort 0x5C '\\' (by rw [hc]; rfl) rfl
  next hmark =>
  split
  · next hc => exact hshort 0x08 'b' hc rfl
  split
  · next hc => exact hshort 0x0C 'f' hc rfl
  split
  · next hc => exact hshort 0x0A 'n' (by rw [hc]; rfl) rfl
  split
  · next hc => exact hshort 0x0D 'r' (by rw [hc]; rfl) rfl
  split
  · next hc => exact hshort 0x09 't' (by rw [hc]; rfl) rfl
  split
  · next hlow =>
    have hunit := Characters.unit (hcontrol _ hlow) (fun hn => by have := hn.1; omega) h
    rwa [Char.ofNat_toNat] at hunit
  · next hlow => exact .plain (Nat.le_of_not_lt hlow) hquote hmark h

/-- An escaped text and a quote are read as this text. -/
theorem characters_flatMap_escape (chars left : List Char) :
    Characters (chars.flatMap escape ++ '"' :: left) chars left := by
  induction chars with
  | nil => exact .close left
  | cons c chars ih =>
    rw [List.flatMap_cons, List.append_assoc]
    exact characters_escape c ih

/-- A text that is written as a string is read as this text, and as nothing else. -/
theorem readsString_string_iff {value name : String} :
    ReadsString (string value.toList ++ left) name other ↔ name = value ∧ other = left := by
  have hread : Characters (value.toList.flatMap escape ++ ['"'] ++ left) value.toList left := by
    rw [List.append_assoc]
    exact characters_flatMap_escape value.toList left
  constructor
  · rintro ⟨h⟩
    obtain ⟨hname, rfl⟩ := hread.unique h
    exact ⟨String.toList_inj.1 hname, rfl⟩
  · rintro ⟨rfl, rfl⟩
    exact .quoted hread

/-! ## Members -/

theorem IsNumber.exists_cons (h : IsNumber text) :
    ∃ c rest, text = c :: rest ∧ (c = '-' ∨ c.isDigit = true) := by
  obtain ⟨hsign, ⟨hne, hdigits⟩, -, -, -⟩ := h
  rename_i sign whole fraction exponent
  obtain ⟨c, rest, rfl⟩ := List.exists_cons_of_ne_nil hne
  rcases hsign with rfl | rfl
  · exact ⟨c, _, rfl, .inr (hdigits c List.mem_cons_self)⟩
  · exact ⟨'-', _, rfl, .inl rfl⟩

/-- What starts with a quote is a string. -/
theorem eq_string_of_reads {value : Value} (h : Reads ('"' :: text) value left) :
    ∃ string, value = .string string ∧ ReadsString ('"' :: text) string left := by
  generalize hstart : '"' :: text = start at h
  cases h with
  | string h => exact ⟨_, rfl, hstart ▸ h⟩
  | number h =>
    obtain ⟨c, rest, rfl, hc⟩ := h.exists_cons
    obtain ⟨rfl, -⟩ := List.cons.inj hstart
    exact absurd hc (by decide)
  | null | yes | no | emptyArray | array | emptyObject | object =>
    exact absurd (List.cons.inj hstart).1 (by decide)

/-- What starts with a brace is an object. -/
theorem eq_object_of_reads {value : Value} (h : Reads ('\x7b' :: text) value left) :
    ∃ members, value = .object members ∧
      (members = [] ∧ Blanks text ('\x7d' :: left) ∨ ReadsMembers text members left) := by
  generalize hstart : '\x7b' :: text = start at h
  cases h with
  | emptyObject h => exact ⟨[], rfl, .inl ⟨rfl, (List.cons.inj hstart).2 ▸ h⟩⟩
  | object h => exact ⟨_, rfl, .inr ((List.cons.inj hstart).2 ▸ h)⟩
  | string h =>
    cases h
    exact absurd (List.cons.inj hstart).1 (by decide)
  | number h =>
    obtain ⟨c, rest, rfl, hc⟩ := h.exists_cons
    obtain ⟨rfl, -⟩ := List.cons.inj hstart
    exact absurd hc (by decide)
  | null | yes | no | emptyArray | array =>
    exact absurd (List.cons.inj hstart).1 (by decide)

/-- No value starts with a blank. -/
theorem Reads.exists_cons {value : Value} (h : Reads text value left) :
    ∃ c rest, text = c :: rest ∧ c ∉ blanks := by
  cases h with
  | number h =>
    obtain ⟨c, rest, rfl, hc⟩ := h.exists_cons
    refine ⟨c, _, rfl, fun hblank => ?_⟩
    simp only [blanks, List.mem_cons, List.not_mem_nil, or_false] at hblank
    rcases hblank with rfl | rfl | rfl | rfl <;> exact absurd hc (by decide)
  | string h =>
    cases h
    exact ⟨_, _, rfl, by decide⟩
  | null | yes | no | emptyArray | array | emptyObject | object => exact ⟨_, _, rfl, by decide⟩

/-- A name on a line of its own is read as such, with the colon after it. -/
theorem readsName_iff {value name : String} :
    ReadsName ('\n' :: ' ' :: ' ' :: (string value.toList ++ ':' :: left)) name other ↔
      name = value ∧ other = left := by
  have hstart : ('\n' :: ' ' :: ' ' :: (string value.toList ++ ':' :: left)).dropWhile
      (· ∈ blanks) = string value.toList ++ ':' :: left := rfl
  constructor
  · rintro ⟨hbefore, hname, hafter⟩
    have hquoted := hname
    cases hquoted
    rw [blanks_iff (by decide), hstart] at hbefore
    obtain ⟨rfl, rfl⟩ := readsString_string_iff.1 (hbefore ▸ hname)
    rw [blanks_iff (by decide)] at hafter
    exact ⟨rfl, (List.cons.inj hafter).2.symm⟩
  · rintro ⟨rfl, rfl⟩
    refine .padded ((blanks_iff (by decide)).2 hstart) (readsString_string_iff.2 ⟨rfl, rfl⟩) ?_
    exact .stop _

/-- A string behind a blank is read as such, up to something that is no blank. -/
theorem readsElement_iff {value : String} {element : Value} {c : Char} (hc : c ∉ blanks) :
    ReadsElement (' ' :: (string value.toList ++ text)) element (c :: left) ↔
      element = .string value ∧ text.dropWhile (· ∈ blanks) = c :: left := by
  have hstart : (' ' :: (string value.toList ++ text)).dropWhile (· ∈ blanks) =
      string value.toList ++ text := rfl
  constructor
  · rintro ⟨hbefore, hvalue, hafter⟩
    obtain ⟨first, rest, rfl, hfirst⟩ := hvalue.exists_cons
    rw [blanks_iff hfirst, hstart] at hbefore
    obtain ⟨name, rfl, hname⟩ := eq_string_of_reads (hbefore ▸ hvalue)
    obtain ⟨rfl, rfl⟩ := readsString_string_iff.1 hname
    exact ⟨rfl, (blanks_iff hc).1 hafter⟩
  · rintro ⟨rfl, htext⟩
    refine .padded ((blanks_iff (by decide)).2 hstart)
      (.string (readsString_string_iff.2 ⟨rfl, rfl⟩)) ?_
    exact (blanks_iff hc).2 htext

/-- Where a member starts, there is no closing brace behind the blanks. -/
theorem ReadsMembers.not_blanks {list : List (String × Value)} (h : ReadsMembers text list left) :
    ¬ Blanks text ('\x7d' :: other) := by
  intro hend
  rw [blanks_iff (by decide)] at hend
  have hname : ∃ name start, ReadsName text name start := by
    cases h with
    | last hname | more hname => exact ⟨_, _, hname⟩
  obtain ⟨name, start, hbefore, ⟨hquote⟩, -⟩ := hname
  rw [blanks_iff (by decide), hend] at hbefore
  exact absurd (List.cons.inj hbefore).1 (by decide)

/-- A name and its text, as a member of an object. -/
def memberOf (entry : String × String) : String × Value := (entry.1, .string entry.2)

/-- A line of an object is read as its member.  What comes next says whether it is the
last one. -/
theorem readsMembers_member_iff {entry : String × String} {list : List (String × Value)} :
    ReadsMembers (member entry ++ text) list left ↔
      list = [memberOf entry] ∧ text.dropWhile (· ∈ blanks) = '\x7d' :: left ∨
        ∃ next rest, list = memberOf entry :: rest ∧
          text.dropWhile (· ∈ blanks) = ',' :: next ∧ ReadsMembers next rest left := by
  have htext : member entry ++ text = '\n' :: ' ' :: ' ' :: (string entry.1.toList ++
      ':' :: ' ' :: (string entry.2.toList ++ text)) := by
    simp [member]
  rw [htext]
  constructor
  · rintro (⟨hname, hvalue⟩ | ⟨hname, hvalue, hrest⟩)
    · obtain ⟨rfl, rfl⟩ := readsName_iff.1 hname
      obtain ⟨rfl, hend⟩ := (readsElement_iff (by decide)).1 hvalue
      exact .inl ⟨rfl, hend⟩
    · obtain ⟨rfl, rfl⟩ := readsName_iff.1 hname
      obtain ⟨rfl, hend⟩ := (readsElement_iff (by decide)).1 hvalue
      exact .inr ⟨_, _, rfl, hend, hrest⟩
  · rintro (⟨rfl, hend⟩ | ⟨next, rest, rfl, hend, hrest⟩)
    · exact .last (readsName_iff.2 ⟨rfl, rfl⟩) ((readsElement_iff (by decide)).2 ⟨rfl, hend⟩)
    · exact .more (readsName_iff.2 ⟨rfl, rfl⟩) ((readsElement_iff (by decide)).2 ⟨rfl, hend⟩)
        hrest

/-- The lines of an object are read as its members, in their order. -/
theorem readsMembers_members_iff {entries : List (String × String)} (hne : entries ≠ [])
    {list : List (String × Value)} :
    ReadsMembers (members entries ++ '\n' :: '\x7d' :: left) list other ↔
      list = entries.map memberOf ∧ other = left := by
  fun_induction members entries generalizing list with
  | case1 => exact absurd rfl hne
  | case2 entry =>
    have hend : ('\n' :: '\x7d' :: left).dropWhile (· ∈ blanks) = '\x7d' :: left := rfl
    rw [readsMembers_member_iff, hend]
    simp [eq_comm]
  | case3 entry rest hrest ih =>
    have hend : (',' :: (members rest ++ '\n' :: '\x7d' :: left)).dropWhile (· ∈ blanks) =
        ',' :: (members rest ++ '\n' :: '\x7d' :: left) := rfl
    rw [List.append_assoc, List.cons_append, readsMembers_member_iff, hend]
    constructor
    · rintro (⟨-, hcomma⟩ | ⟨next, list, rfl, hcomma, hlist⟩)
      · exact absurd (List.cons.inj hcomma).1 (by decide)
      · obtain ⟨-, rfl⟩ := List.cons.inj hcomma
        obtain ⟨rfl, rfl⟩ := (ih hrest).1 hlist
        exact ⟨rfl, rfl⟩
    · rintro ⟨rfl, rfl⟩
      exact .inr ⟨_, _, rfl, rfl, (ih hrest).2 ⟨rfl, rfl⟩⟩

/-! ## Contexts -/

/-- An object that is written from entries is read as these entries, in their order, and
as nothing else. -/
theorem spells_object_iff {entries : List (String × String)} {value : Value} :
    Spells (object entries) value ↔ value = .object (entries.map memberOf) := by
  have hopen : ∀ text : List Char, ('\x7b' :: text).dropWhile (· ∈ blanks) = '\x7b' :: text :=
    fun text => rfl
  unfold object
  split
  · next hempty =>
    obtain rfl := List.isEmpty_iff.1 hempty
    constructor
    · rintro ⟨hbefore, hvalue, hafter⟩
      obtain ⟨c, rest, rfl, hc⟩ := hvalue.exists_cons
      rw [blanks_iff hc, hopen] at hbefore
      obtain ⟨list, rfl, ⟨rfl, -⟩ | hlist⟩ := eq_object_of_reads (hbefore ▸ hvalue)
      · rfl
      · exact absurd (.stop _) hlist.not_blanks
    · rintro rfl
      exact .padded (.stop _) (.emptyObject (.stop _)) (.stop _)
  · next hne =>
    have hne : entries ≠ [] := fun h => hne (List.isEmpty_iff.2 h)
    constructor
    · rintro ⟨hbefore, hvalue, hafter⟩
      obtain ⟨c, rest, rfl, hc⟩ := hvalue.exists_cons
      rw [blanks_iff hc, hopen] at hbefore
      obtain ⟨list, rfl, ⟨rfl, hend⟩ | hlist⟩ := eq_object_of_reads (hbefore ▸ hvalue)
      · exact absurd hend ((readsMembers_members_iff hne).2 ⟨rfl, rfl⟩).not_blanks
      · rw [(readsMembers_members_iff hne).1 hlist |>.1]
    · rintro rfl
      exact .padded (.stop _) (.object ((readsMembers_members_iff hne).2 ⟨rfl, rfl⟩)) (.stop _)

/-- A text is a JSON text of the object of a context's names and values, in their order,
and of nothing else. -/
def Records (text : String) (context : Context) : Prop :=
  ∀ value, Spells text.toList value ↔ value = .object (context.entries.map memberOf)

theorem memberOf_injective : Function.Injective memberOf := by
  intro entry other h
  obtain ⟨hname, hvalue⟩ := Prod.mk.inj h
  exact Prod.ext hname (Value.string.inj hvalue)

/-- A text records one context. -/
theorem Records.unique {text : String} {context other : Context} (h : Records text context)
    (h' : Records text other) : other = context := by
  have hentries := (h' _).1 ((h _).2 rfl)
  have heq := (List.map_inj_right fun _ _ h => memberOf_injective h).1 (Value.object.inj hentries)
  cases context
  cases other
  simpa [eq_comm] using heq

/-- A context in JSON is recorded. -/
theorem records_toJson (context : Context) : Records context.toJson context := by
  intro value
  rw [Context.toJson, String.toList_ofList]
  exact spells_object_iff

/-- Different contexts have different texts. -/
theorem toJson_injective : Function.Injective Context.toJson := fun context other h =>
  (records_toJson other).unique (h ▸ records_toJson context)

end CallSheet.Json
