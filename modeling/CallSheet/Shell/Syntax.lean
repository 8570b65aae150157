/-!
# Scripts

The part of the language of shells that the scripts of call sheets are written
in: words with quotes and expansions, commands with redirections, and the ways
to put commands together.
-/

namespace CallSheet.Shell

/-- What stands in for a variable without a value. -/
inductive Fallback where
  /-- A text, as in `${x-text}`. -/
  | use
  /-- A text that the variable keeps, as in `${x=text}`. -/
  | assign
  /-- A text in place of a value that is there, as in `${x+text}`. -/
  | replace
  /-- An error, as in `${x?text}`. -/
  | fail
  deriving DecidableEq, Repr

/-- A part of a word. -/
inductive Part where
  | text (text : List Char) (quoted : Bool)
  | variable (name : List Char) (quoted : Bool)
  /-- A variable with a fallback; `strict` if an empty value is none. -/
  | variableOr (name : List Char) (strict : Bool) (fallback : Fallback) (text : List Char)
      (quoted : Bool)
  /-- A variable without a start or an end that a pattern stands for. -/
  | trimmed (name : List Char) (fromEnd longest : Bool) (pattern : List Char) (quoted : Bool)
  /-- The number of characters of a variable's value. -/
  | length (name : List Char) (quoted : Bool)
  | arithmetic (text : List Char) (quoted : Bool)
  /-- The output of a script. -/
  | output (script : List Char) (quoted : Bool)
  /-- An expansion that means nothing. -/
  | senseless
  deriving DecidableEq, Repr

/-- A word. -/
abbrev Word := List Part

/-- What a redirection does. -/
inductive RedirectKind where
  /-- Reads from a file. -/
  | read
  /-- Writes to a file from its start. -/
  | write
  /-- Writes at the end of a file. -/
  | append
  /-- Uses what another number stands for. -/
  | same
  /-- Reads a text. -/
  | here
  deriving DecidableEq, Repr

/-- A redirection of a number, such as `2>file`. -/
structure Redirect where
  kind : RedirectKind
  number : Nat
  word : Word
  deriving DecidableEq, Repr

/-- A command. -/
inductive Command where
  | simple (line : Nat) (assignments : List (String × Word)) (words : List Word)
      (redirects : List Redirect)
  | redirected (line : Nat) (command : Command) (redirects : List Redirect)
  | group (body : List Command)
  | subshell (body : List Command)
  | pipe (commands : List Command)
  | negated (command : Command)
  | both (first second : Command)
  | either (first second : Command)
  /-- A condition, what to do if it holds, and what otherwise. -/
  | choice (condition yes no : List Command)
  /-- What to do as long as a condition holds, or until it does. -/
  | loop (until? : Bool) (condition body : List Command)
  | each (name : String) (words : List Word) (body : List Command)
  /-- What to do for the first pattern that a word fits. -/
  | cases (line : Nat) (word : Word) (branches : List (List Word × List Command))
  /-- Gives a command a name. -/
  | define (name : String) (body : Command)

end CallSheet.Shell
