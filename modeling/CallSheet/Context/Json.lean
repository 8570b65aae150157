import CallSheet.Context.Basic
import CallSheet.Text.Quoted

/-!
# A context as JSON

A context is written as one object, a member a line, indented by two blanks.
In a string the quote, the backslash and the characters below U+0020 are
escaped, and everything else stands for itself.
-/

namespace CallSheet.Json

open Text

/-- One character inside a string. -/
def escape (c : Char) : List Char :=
  if c = '"' then ['\\', '"']
  else if c = '\\' then ['\\', '\\']
  else if c.toNat = 0x08 then ['\\', 'b']
  else if c.toNat = 0x0C then ['\\', 'f']
  else if c = '\n' then ['\\', 'n']
  else if c = '\r' then ['\\', 'r']
  else if c = '\t' then ['\\', 't']
  else if c.toNat < 0x20 then
    ['\\', 'u', '0', '0', Nat.digitChar (c.toNat / 16), Nat.digitChar (c.toNat % 16)]
  else [c]

/-- A string. -/
def string (text : List Char) : List Char := '"' :: (text.flatMap escape ++ ['"'])

/-- A member of the object, on a line of its own. -/
def member (entry : String × String) : List Char :=
  ['\n', ' ', ' '] ++ string entry.1.toList ++ [':', ' '] ++ string entry.2.toList

/-- The members of the object, with commas between them. -/
def members : List (String × String) → List Char
  | [] => []
  | [entry] => member entry
  | entry :: rest => member entry ++ ',' :: members rest

/-- The object of a list of entries. -/
def object (entries : List (String × String)) : List Char :=
  if entries.isEmpty then ['{', '}'] else '{' :: (members entries ++ ['\n', '}'])

end CallSheet.Json

namespace CallSheet

/-- A context as JSON. -/
def Context.toJson (context : Context) : String := String.ofList (Json.object context.entries)

end CallSheet
