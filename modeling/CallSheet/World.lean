import CallSheet.Command.Runner
import CallSheet.Files.Basic
import CallSheet.Http.Message

/-!
# The world of an action

An action sees the files, can run commands and can send requests.  What runners
and transports know besides the files is left open.
-/

namespace CallSheet

/-- The files, and whatever else commands and requests depend on. -/
structure World (ρ : Type) where
  files : Files
  rest : ρ
  deriving DecidableEq

/-- Who runs commands and who sends requests. -/
structure Services (ρ : Type) where
  runner : Runner (World ρ)
  transport : Http.Transport (World ρ)

namespace World

/-- Changes the files only. -/
def withFiles (world : World ρ) (change : Files → Except ε Unit × Files) :
    Except ε Unit × World ρ :=
  let (outcome, files) := change world.files
  (outcome, { world with files := files })

end World

namespace Runner

/-- A runner that knows nothing of the files. -/
def inWorld (runner : Runner ρ) : Runner (World ρ) := fun command world =>
  let (outcome, rest) := runner command world.rest
  (outcome, { world with rest := rest })

/-- Keeps a record of the commands, in order. -/
def recording (runner : Runner (World ρ)) : Runner (World (ρ × List String)) :=
  fun command world =>
    let (rest, commands) := world.rest
    let (outcome, after) := runner command ⟨world.files, rest⟩
    (outcome, ⟨after.files, (after.rest, commands ++ [command])⟩)

end Runner

end CallSheet
