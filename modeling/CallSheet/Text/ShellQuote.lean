/-!
# Quoting for a shell

The two ways to put a text between quotes of a shell script.  Between single
quotes only the single quote itself ends the text, so it is written as a
closing quote, an escaped quote and an opening quote.  Between double quotes a
backslash takes the meaning from a backslash, a double quote, a dollar sign
and a backtick.
-/

namespace CallSheet.Text.ShellQuote

/-- One character between single quotes. -/
def singleChar (c : Char) : List Char :=
  if c = '\x27' then ['\x27', '\\', '\x27', '\x27'] else [c]

/-- A text between single quotes. -/
def single (text : List Char) : List Char := text.flatMap singleChar

/-- The characters that mean something between double quotes. -/
def isActive (c : Char) : Bool := c == '\\' || c == '"' || c == '$' || c == '\x60'

/-- One character between double quotes. -/
def doubleChar (c : Char) : List Char := if isActive c then ['\\', c] else [c]

/-- A text between double quotes. -/
def double (text : List Char) : List Char := text.flatMap doubleChar

end CallSheet.Text.ShellQuote
