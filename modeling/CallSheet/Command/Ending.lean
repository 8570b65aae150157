/-!
# How a program ended

A program ends by itself with a code or is ended by a signal.  The system packs
the two into one number, which `Ending.ofStatus` takes apart.
-/

namespace CallSheet

/-- How a program ended. -/
inductive Ending where
  /-- By itself, with a code. -/
  | exited (code : Nat)
  /-- By a signal, and whether its memory was kept. -/
  | killed (signal : Nat) (core : Bool)
  /-- Not at all, a signal only stopped it. -/
  | stopped (signal : Nat)
  /-- Not at all, it was going on. -/
  | continued
  /-- With a number that means nothing. -/
  | unknown (status : Nat)
  deriving DecidableEq, Repr

namespace Ending

/-- The names of the signals, from the first one on. -/
def signalNames : List String :=
  ["SIGHUP", "SIGINT", "SIGQUIT", "SIGILL", "SIGTRAP", "SIGABRT", "SIGBUS", "SIGFPE", "SIGKILL",
    "SIGUSR1", "SIGSEGV", "SIGUSR2", "SIGPIPE", "SIGALRM", "SIGTERM", "SIGSTKFLT", "SIGCHLD",
    "SIGCONT", "SIGSTOP", "SIGTSTP", "SIGTTIN", "SIGTTOU", "SIGURG", "SIGXCPU", "SIGXFSZ",
    "SIGVTALRM", "SIGPROF", "SIGWINCH", "SIGIO", "SIGPWR", "SIGSYS"]

/-- The name of a signal between parentheses, if it has one. -/
def signalLabel (signal : Nat) : String :=
  match (if signal = 0 then none else signalNames[signal - 1]?) with
  | some name => " (" ++ name ++ ")"
  | none => ""

/-- The ending that a number of the system stands for: the low seven bits are
the signal, the next bit tells whether memory was kept, and the byte above is
the code. -/
def ofStatus (status : Nat) : Ending :=
  let signal := status % 128
  let high := status / 256 % 256
  if signal = 0 then .exited high
  else if signal ≠ 127 then .killed signal (status / 128 % 2 = 1)
  else if status / 128 % 2 = 0 then .stopped high
  else if status = 0xFFFF then .continued
  else .unknown status

/-- The number that stands for a code. -/
def statusOfCode (code : Nat) : Nat := code * 256

/-- Whether a program ended well. -/
def isSuccess (ending : Ending) : Bool := ending = .exited 0

/-- The words for an ending. -/
def message : Ending → String
  | .exited code => "exit status: " ++ toString code
  | .killed signal core =>
    "signal: " ++ toString signal ++ signalLabel signal ++ if core then " (core dumped)" else ""
  | .stopped signal =>
    "stopped (not terminated) by signal: " ++ toString signal ++ signalLabel signal
  | .continued => "continued (WIFCONTINUED)"
  | .unknown status =>
    "unrecognised wait status: " ++ toString status ++ " 0x" ++
      String.ofList (Nat.toDigits 16 status)

end Ending

end CallSheet
