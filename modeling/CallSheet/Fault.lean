import CallSheet.Fault.Table

/-!
# Faults

What can go wrong when a file is used or a program is started.
-/

namespace CallSheet

/-- Why the system refused something. -/
inductive Fault where
  /-- The system gave a number. -/
  | system (code : Nat)
  /-- A file that should be a text is none. -/
  | notText
  /-- A name holds the character U+0000. -/
  | nulInName
  /-- An argument of a program holds the character U+0000. -/
  | nulInArgument
  deriving DecidableEq, Repr

namespace Fault

/-- There is no such file or directory. -/
def missing : Fault := .system 2

/-- Access is not permitted. -/
def denied : Fault := .system 13

/-- The file is in use in a way that forbids the operation. -/
def busy : Fault := .system 16

/-- The name is taken. -/
def taken : Fault := .system 17

/-- A part of a path is no directory. -/
def notDirectory : Fault := .system 20

/-- A file was expected, and there is a directory. -/
def isDirectory : Fault := .system 21

/-- The operation makes no sense for its arguments. -/
def invalid : Fault := .system 22

/-- A name or a path is too long. -/
def tooLong : Fault := .system 36

/-- A directory that would have to be empty is not. -/
def notEmpty : Fault := .system 39

/-- There are too many links on the way. -/
def tooManyLinks : Fault := .system 40

/-- The network of the peer cannot be reached. -/
def unreachable : Fault := .system 101

/-- The system's text for a number. -/
def systemText (code : Nat) : String :=
  (systemTexts.lookup code).getD ("Unknown error " ++ toString code)

/-- The sentence that tells of a fault. -/
def message : Fault → String
  | .system code => systemText code ++ " (os error " ++ toString code ++ ")"
  | .notText => "stream did not contain valid UTF-8"
  | .nulInName => "file name contained an unexpected NUL byte"
  | .nulInArgument => "nul byte found in provided data"

end Fault

end CallSheet
