import CallSheet.Context.Basic
import CallSheet.Text.Utf8
import CallSheet.Yaml.Scalar

/-!
# A context as YAML

A context is written as a block mapping, an entry after the other.  A name that
is long or has several lines is written after a question mark, and its value on
a line of its own.
-/

namespace CallSheet.Yaml

open Text

/-- The most bytes of a name on one line with its value. -/
def longestKey : Nat := 128

/-- Whether a name stands on one line with its value. -/
def isShortKey (name : List Char) : Bool :=
  !name.any isBreak && (Utf8.encode name).length ≤ longestKey

/-- An entry of the mapping. -/
def entry (name value : List Char) : List Char :=
  if isShortKey name then scalar name ++ [':', ' '] ++ scalar value ++ endLine value
  else
    ['?', ' '] ++ scalar name ++ endLine name ++ [':', ' '] ++ scalar value ++ endLine value

/-- The mapping of a list of entries. -/
def mapping (entries : List (String × String)) : List Char :=
  if entries.isEmpty then ['{', '}', '\n']
  else entries.flatMap fun (name, value) => entry name.toList value.toList

end CallSheet.Yaml

namespace CallSheet

/-- A context as YAML. -/
def Context.toYaml (context : Context) : String := String.ofList (Yaml.mapping context.entries)

end CallSheet
