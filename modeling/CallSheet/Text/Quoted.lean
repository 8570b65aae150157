import CallSheet.Text.Ranges
import CallSheet.Text.Quoted.Table

/-!
# Quoted text

How a message shows a text that it did not make up itself: between double
quotes, with the quote, the backslash and the common controls written with a
backslash, and every character without a printed form written by its number.
-/

namespace CallSheet.Text

/-- A number in lower-case hexadecimal. -/
def hexDigits (n : Nat) : List Char := Nat.toDigits 16 n

/-- One character inside quotes. -/
def quotedChar (c : Char) : List Char :=
  if c = '\x00' then ['\\', '0']
  else if c = '\t' then ['\\', 't']
  else if c = '\r' then ['\\', 'r']
  else if c = '\n' then ['\\', 'n']
  else if c = '"' then ['\\', '"']
  else if c = '\\' then ['\\', '\\']
  else if inRanges Quoted.numberedRanges c.toNat then
    ['\\', 'u', '{'] ++ hexDigits c.toNat ++ ['}']
  else [c]

/-- A text between quotes. -/
def quoted (text : String) : String :=
  String.ofList ('"' :: text.toList.flatMap quotedChar ++ ['"'])

/-- A list of texts, each between quotes. -/
def quotedList (texts : List String) : String :=
  "[" ++ ", ".intercalate (texts.map quoted) ++ "]"

end CallSheet.Text
