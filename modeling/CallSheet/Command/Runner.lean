import CallSheet.Command.Ending
import CallSheet.Fault

/-!
# Running commands

A `Runner` answers a command with its output or an error and may change the
state it works on.  What that state is, is left open: files, prepared answers,
or a record of the commands so far.
-/

namespace CallSheet

/-- Why a command gave no output. -/
inductive CommandError where
  /-- The shell could not be started. -/
  | spawn (shell : String) (fault : Fault)
  /-- The shell ended badly; what it wrote as errors. -/
  | failed (ending : Ending) (errors : String)
  deriving DecidableEq, Repr

/-- What is wrong, and then what caused it. -/
def CommandError.causes : CommandError → List String
  | .spawn shell fault => ["Unable to start " ++ shell, fault.message]
  | .failed ending errors =>
    ["Command failed (" ++ ending.message ++ "), stderr: " ++ errors]

/-- Runs a command in a state. -/
abbrev Runner (σ : Type) := String → σ → Except CommandError String × σ

namespace Runner

/-- Answers from a list of prepared answers; when there are none left, a
command's output is the command itself. -/
def prepared : Runner (List (Except CommandError String)) := fun command answers =>
  match answers with
  | [] => (.ok command, [])
  | answer :: answers => (answer, answers)

end Runner

end CallSheet
