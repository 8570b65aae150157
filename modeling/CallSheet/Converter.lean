import CallSheet.Text.Base64
import CallSheet.Text.Blank
import CallSheet.Text.Case
import CallSheet.Text.Percent
import CallSheet.Text.Quoted
import CallSheet.Text.ShellQuote

/-!
# Converters

A converter turns a value into another one and may refuse to.  A `Registry`
knows converters by name; a chain of names sends a value through one converter
after the other, and the first that refuses ends it.
-/

namespace CallSheet

open Text

/-- Why a value could not be converted. -/
inductive ConvertError where
  /-- There is no converter of this name. -/
  | unknownConverter (name : String)
  /-- The value is no base64. -/
  | base64 (fault : Base64.Fault)
  /-- The decoded bytes are no text. -/
  | utf8 (fault : Utf8.Fault)
  deriving DecidableEq, Repr

/-- What is wrong, and then what caused it. -/
def ConvertError.causes : ConvertError → List String
  | .unknownConverter name => ["Unknown converter " ++ quoted name]
  | .base64 fault => ["Invalid base64 input", fault.message]
  | .utf8 fault => ["Decoded value is not valid utf-8", fault.message]

/-- A function on values. -/
abbrev Converter := String → Except ConvertError String

namespace Converter

/-- The converter of a function that refuses nothing. -/
def ofFunction (f : List Char → List Char) : Converter :=
  fun value => .ok (String.ofList (f value.toList))

/-- The text that base64 stands for. -/
def base64Decode : Converter := fun value =>
  match Base64.decodeBytes (Utf8.encode value.toList) with
  | .error fault => .error (.base64 fault)
  | .ok bytes =>
    match Utf8.decode bytes with
    | .error fault => .error (.utf8 fault)
    | .ok text => .ok (String.ofList text)

/-- Converters under names, in the order in which the names were first
registered. -/
structure Registry where
  entries : List (String × Converter)

namespace Registry

/-- Puts a converter in place of the one of the same name, or at the end. -/
def register (registry : Registry) (name : String) (converter : Converter) : Registry :=
  if registry.entries.any (·.1 == name) then
    ⟨registry.entries.map fun entry => if entry.1 = name then (name, converter) else entry⟩
  else ⟨registry.entries ++ [(name, converter)]⟩

/-- The converter of a name. -/
def get? (registry : Registry) (name : String) : Option Converter := registry.entries.lookup name

/-- The names, in order. -/
def names (registry : Registry) : List String := registry.entries.map Prod.fst

/-- Sends a value through the converters of a chain. -/
def apply (registry : Registry) (value : String) : List String → Except ConvertError String
  | [] => .ok value
  | name :: chain =>
    match registry.get? name with
    | none => .error (.unknownConverter name)
    | some converter =>
      match converter value with
      | .ok value => registry.apply value chain
      | .error error => .error error

/-- The converters that are always there. -/
def builtin : Registry :=
  ⟨[("trim", ofFunction trim),
    ("upper", ofFunction upper),
    ("lower", ofFunction lower),
    ("urlencode", ofFunction Percent.encode),
    ("base64", ofFunction Base64.encode),
    ("base64decode", base64Decode),
    ("shell_single", ofFunction ShellQuote.single),
    ("shell_double", ofFunction ShellQuote.double)]⟩

end Registry

end Converter

end CallSheet
