import CallSheet.Text.Split
import CallSheet.Text.Utf8

/-!
# Percent encoding

The encoding of a text as one part of a query.  The words between the spaces of
the text are encoded one by one and stand with a `+` between every two of them.
In a word, letters, digits and `-_.~` stand for themselves, and every other byte
becomes `%` and two upper-case hexadecimal digits.
-/

namespace CallSheet.Text.Percent

/-- Bytes that stand for themselves in a query. -/
def isPlain (b : UInt8) : Bool :=
  (0x30 ≤ b && b ≤ 0x39) || (0x41 ≤ b && b ≤ 0x5A) || (0x61 ≤ b && b ≤ 0x7A) ||
    b == 0x2D || b == 0x2E || b == 0x5F || b == 0x7E

/-- An upper-case hexadecimal digit. -/
def hexDigit (n : Nat) : Char := (Nat.digitChar n).toUpper

/-- A byte as `%` and two digits. -/
def escape (b : UInt8) : List Char := ['%', hexDigit (b.toNat / 16), hexDigit (b.toNat % 16)]

/-- One byte of a word. -/
def encodeByte (b : UInt8) : List Char := if isPlain b then [Char.ofNat b.toNat] else escape b

/-- A word between spaces. -/
def encodeWord (word : List Char) : List Char := (Utf8.encode word).flatMap encodeByte

/-- A text as a part of a query. -/
def encode (text : List Char) : List Char := join '+' ((splitOn ' ' text).map encodeWord)

end CallSheet.Text.Percent
