/-!
# Blanks

The characters with the Unicode property `White_Space`, and the three ways to
cut them off a text.  Texts are lists of characters throughout the library's
algorithms; the types that a caller sees hold `String`.
-/

namespace CallSheet.Text

/-- A blank is a character with the property `White_Space`. -/
def isBlank (c : Char) : Bool :=
  let n := c.toNat
  (9 ≤ n && n ≤ 13) || n == 0x20 || n == 0x85 || n == 0xA0 || n == 0x1680 ||
    (0x2000 ≤ n && n ≤ 0x200A) || n == 0x2028 || n == 0x2029 || n == 0x202F ||
    n == 0x205F || n == 0x3000

/-- Cuts the blanks off the start. -/
def trimStart (text : List Char) : List Char := text.dropWhile isBlank

/-- Cuts the blanks off the end. -/
def trimEnd (text : List Char) : List Char := (text.reverse.dropWhile isBlank).reverse

/-- Cuts the blanks off both ends. -/
def trim (text : List Char) : List Char := trimEnd (trimStart text)

/-- Whether a text holds nothing but blanks. -/
def allBlank (text : List Char) : Bool := text.all isBlank

/-- A text has nothing left after trimming exactly when it is all blank. -/
theorem trimStart_eq_nil_iff (text : List Char) : trimStart text = [] ↔ allBlank text = true := by
  induction text with
  | nil => simp [trimStart, allBlank]
  | cons c rest ih =>
    rw [trimStart, allBlank] at ih
    by_cases h : isBlank c = true <;> simp [trimStart, allBlank, h, ih]

end CallSheet.Text
