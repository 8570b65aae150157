import CallSheet.Text.Utf8

/-!
# Bytes

What scripts work on: byte sequences, their texts, and the named classes of
bytes.
-/

namespace CallSheet.Shell

open Text

/-- A byte sequence. -/
abbrev Bytes := List UInt8

/-- The bytes of a string. -/
def bytesOf (text : String) : Bytes := Utf8.encode text.toList

/-- The string of bytes. -/
def stringOf (bytes : Bytes) : String := String.ofList (Utf8.decodeLossy bytes)

namespace Bytes

/-- All bytes, in order. -/
def all : Bytes := (List.range 256).map Nat.toUInt8

/-- The bytes from one to another. -/
def range (first last : UInt8) : Bytes :=
  ((List.range (last.toNat + 1)).drop first.toNat).map Nat.toUInt8

/-- The bytes that are not among some. -/
def except (set : Bytes) : Bytes := all.filter fun b => !set.contains b

/-- Puts a separator between every two byte sequences. -/
def join (sep : Bytes) : List Bytes → Bytes
  | [] => []
  | [last] => last
  | first :: rest => first ++ sep ++ join sep rest

/-! ## Classes -/

/-- The large letters. -/
def upper : Bytes := range 65 90

/-- The small letters. -/
def lower : Bytes := range 97 122

/-- The digits. -/
def digits : Bytes := range 48 57

/-- The bytes that leave a mark. -/
def graph : Bytes := range 33 126

/-- The bytes of the class of a name. -/
def ofClass : String → Bytes
  | "upper" => upper
  | "lower" => lower
  | "digit" => digits
  | "alpha" => upper ++ lower
  | "alnum" => digits ++ upper ++ lower
  | "blank" => [9, 32]
  | "space" => range 9 13 ++ [32]
  | "cntrl" => range 0 31 ++ [127]
  | "punct" => graph.filter fun b => !(digits ++ upper ++ lower).contains b
  | "graph" => graph
  | "print" => 32 :: graph
  | "xdigit" => digits ++ range 65 70 ++ range 97 102
  | _ => []

end Bytes

end CallSheet.Shell
