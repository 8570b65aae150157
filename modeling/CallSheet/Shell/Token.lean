import CallSheet.Shell.Syntax
import CallSheet.Text.Split

/-!
# Tokens

A script falls into words, operators and the ends of lines.  Quotes and
expansions are read with the word that they stand in; the script of an
expansion is kept as it is written.  A fault is the last token of a script.
-/

namespace CallSheet.Shell

open Text

/-- A token. -/
inductive Token where
  | word (parts : Word)
  | operator (text : String)
  /-- The number before a redirection. -/
  | number (value : Nat)
  /-- The text that follows a redirection from the script itself. -/
  | here (parts : Word)
  | newline
  | fault (message : String)
  deriving DecidableEq, Repr

/-- A token and the number of its line. -/
structure Lexeme where
  token : Token
  line : Nat
  deriving DecidableEq, Repr

/-! ## Enclosed texts -/

/-- The quotes that a text is read in. -/
inductive Quotes where
  | none
  | single
  | double
  deriving DecidableEq, Repr

/-- The quotes that a text is read in after a character. -/
def Quotes.after (c : Char) : Quotes → Quotes
  | .none => if c = '\x27' then .single else if c = '"' then .double else .none
  | .single => if c = '\x27' then .none else .single
  | .double => if c = '"' then .none else .double

/-- The text up to the character that closes what is open, and what follows it.
Quoted characters close nothing. -/
def enclosed (opening closing : Char) (depth : Nat) (quotes : Quotes) :
    List Char → Option (List Char × List Char)
  | [] => none
  | [c] => if quotes = .none ∧ c = closing ∧ depth = 0 then some ([], []) else none
  | c :: d :: rest =>
    let goOn (depth : Nat) (quotes : Quotes) : Option (List Char × List Char) :=
      (enclosed opening closing depth quotes (d :: rest)).map fun (inner, after) =>
        (c :: inner, after)
    if c = '\\' ∧ quotes ≠ .single then
      (enclosed opening closing depth quotes rest).map fun (inner, after) =>
        (c :: d :: inner, after)
    else if quotes ≠ .none ∨ quotes.after c ≠ .none then goOn depth (quotes.after c)
    else if c = closing then
      match depth with
      | 0 => some ([], d :: rest)
      | depth + 1 => goOn depth quotes
    else goOn (if c = opening then depth + 1 else depth) quotes

/-- The script between backquotes, and what follows it. -/
def backquoted : List Char → Option (List Char × List Char)
  | [] => none
  | '\x60' :: rest => some ([], rest)
  | '\\' :: c :: rest =>
    (backquoted rest).map fun (inner, after) =>
      (if c = '\x60' ∨ c = '\\' ∨ c = '$' then c :: inner else '\\' :: c :: inner, after)
  | c :: rest => (backquoted rest).map fun (inner, after) => (c :: inner, after)

/-! ## Expansions -/

/-- Characters of a variable's name. -/
def isNameChar (c : Char) : Bool := c.isAlphanum || c == '_'

/-- Characters that a variable's name starts with. -/
def isNameStart (c : Char) : Bool := c.isAlpha || c == '_'

/-- Characters that are a variable by themselves. -/
def isSpecialName (c : Char) : Bool := "?$#!@*-".toList.contains c || c.isDigit

/-- The fallback of a mark. -/
def fallback? : Char → Option Fallback
  | '-' => some .use
  | '=' => some .assign
  | '+' => some .replace
  | '?' => some .fail
  | _ => none

/-- The expansion of a variable that a mark and a text follow. -/
def marked (quoted : Bool) (name rest : List Char) : Part :=
  match rest with
  | [] => .variable name quoted
  | '%' :: '%' :: text => .trimmed name true true text quoted
  | '%' :: text => .trimmed name true false text quoted
  | '#' :: '#' :: text => .trimmed name false true text quoted
  | '#' :: text => .trimmed name false false text quoted
  | ':' :: mark :: text =>
    match fallback? mark with
    | some f => .variableOr name true f text quoted
    | none => .senseless
  | mark :: text =>
    match fallback? mark with
    | some f => .variableOr name false f text quoted
    | none => .senseless

/-- The expansion between braces. -/
def braced (quoted : Bool) (inner : List Char) : Part :=
  let name := match inner with
    | c :: _ => if isSpecialName c then [c] else inner.takeWhile isNameChar
    | [] => []
  let rest := inner.drop name.length
  if name.isEmpty then .senseless
  else if name = ['#'] ∧ !rest.isEmpty ∧ (rest.all isNameChar ∨ rest.tail.isEmpty) then
    .length rest quoted
  else marked quoted name rest

/-- Whether a text is one pair of parentheses and what it encloses. -/
def inner? : List Char → Option (List Char)
  | '(' :: rest =>
    match enclosed '(' ')' 0 .none rest with
    | some (inner, []) => some inner
    | _ => none
  | _ => none

/-- The expansion after a dollar sign, and what follows it. -/
def dollar (quoted : Bool) (text : List Char) : Except String (Part × List Char) :=
  match text with
  | '(' :: rest =>
    match enclosed '(' ')' 0 .none rest with
    | none =>
      .error (if rest.head? = some '(' then "Missing \x27))\x27"
        else "end of file unexpected (expecting \")\")")
    | some (script, after) =>
      match inner? script with
      | some expression => .ok (.arithmetic expression quoted, after)
      | none => .ok (.output script quoted, after)
  | '{' :: rest =>
    match enclosed '{' '}' 0 .none rest with
    | none => .error "Missing '\x7d'"
    | some (inner, after) => .ok (braced quoted inner, after)
  | c :: rest =>
    if isNameStart c then
      .ok (.variable (text.takeWhile isNameChar) quoted, text.dropWhile isNameChar)
    else if isSpecialName c then .ok (.variable [c] quoted, rest)
    else .ok (.text ['$'] quoted, text)
  | [] => .ok (.text ['$'] quoted, [])

/-! ## Words -/

/-- Characters that a backslash takes the meaning from between double quotes. -/
def isActive (c : Char) : Bool := c == '\\' || c == '$' || c == '\x60'

/-- What is said of a quote that is never closed. -/
def openQuote : String := "Unterminated quoted string"

/-- The parts between double quotes, and what follows; without a closing quote
the parts go on to the end if `toEnd` says so. -/
def quotedParts (toEnd : Bool) : Nat → List Char → Except String (Word × List Char)
  | 0, _ => .error openQuote
  | _, [] => if toEnd then .ok ([], []) else .error openQuote
  | fuel + 1, c :: rest => do
    if c = '"' ∧ !toEnd then return ([], rest)
    else if c = '\\' then
      match rest with
      | d :: rest =>
        let (parts, after) ← quotedParts toEnd fuel rest
        if d = '\n' then return (parts, after)
        else if isActive d || (d == '"' && !toEnd) then return (.text [d] true :: parts, after)
        else return (.text ['\\', d] true :: parts, after)
      | [] => if toEnd then return ([.text ['\\'] true], []) else throw openQuote
    else if c = '$' then
      let (part, rest) ← dollar true rest
      let (parts, after) ← quotedParts toEnd fuel rest
      return (part :: parts, after)
    else if c = '\x60' then
      match backquoted rest with
      | none => throw "EOF in backquote substitution"
      | some (script, rest) =>
        let (parts, after) ← quotedParts toEnd fuel rest
        return (.output script true :: parts, after)
    else
      let (parts, after) ← quotedParts toEnd fuel rest
      return (.text [c] true :: parts, after)

/-- Whether a character ends a word. -/
def endsWord (c : Char) : Bool := " \t\n|&;()<>".toList.contains c

/-- The parts of a word, and what follows it; the word goes on to the end if
`toEnd` says so. -/
def wordParts (toEnd : Bool) : Nat → List Char → Except String (Word × List Char)
  | 0, text => .ok ([], text)
  | _, [] => .ok ([], [])
  | fuel + 1, c :: rest => do
    if endsWord c && !toEnd then return ([], c :: rest)
    else if c = '\\' then
      match rest with
      | [] => return ([.text ['\\'] false], [])
      | d :: rest =>
        let (parts, after) ← wordParts toEnd fuel rest
        return (if d = '\n' then parts else .text [d] true :: parts, after)
    else if c = '\x27' then
      match splitOnce '\x27' rest with
      | none => throw openQuote
      | some (inner, rest) =>
        let (parts, after) ← wordParts toEnd fuel rest
        return (.text inner true :: parts, after)
    else if c = '"' then
      let (inner, rest) ← quotedParts false (rest.length + 1) rest
      let (parts, after) ← wordParts toEnd fuel rest
      return (.text [] true :: (inner ++ parts), after)
    else if c = '$' then
      let (part, rest) ← dollar false rest
      let (parts, after) ← wordParts toEnd fuel rest
      return (part :: parts, after)
    else if c = '\x60' then
      match backquoted rest with
      | none => throw "EOF in backquote substitution"
      | some (script, rest) =>
        let (parts, after) ← wordParts toEnd fuel rest
        return (.output script false :: parts, after)
    else
      let (parts, after) ← wordParts toEnd fuel rest
      return (.text [c] false :: parts, after)

/-- The characters of a part, quotes taken off. -/
def Part.literal : Part → List Char
  | .text chars _ => chars
  | _ => []

/-- Whether a part is quoted. -/
def Part.isQuoted : Part → Bool
  | .text _ marked => marked
  | _ => false

/-! ## Texts in the script -/

/-- The lines before the line of a mark, and the lines after it. -/
def linesUntil (mark : List Char) (strip : Bool) :
    List (List Char) → List (List Char) × List (List Char)
  | [] => ([], [])
  | line :: rest =>
    let line := if strip then line.dropWhile (· == '\t') else line
    if line = mark then ([], rest)
    else
      let (before, after) := linesUntil mark strip rest
      (line :: before, after)

/-- The text of a redirection from the script: the word after the operator names
the mark, the text starts on the next line.  What remains is the rest of the
line and the lines after the mark. -/
def hereText (strip : Bool) (text : List Char) : Except String (Word × List Char) := do
  let text := text.dropWhile fun c => c == ' ' || c == '\t'
  let (parts, rest) ← wordParts false (text.length + 1) text
  let mark := parts.flatMap Part.literal
  let (line, below) := match splitOnce '\n' rest with
    | some (line, below) => (line, below)
    | none => (rest, [])
  let (body, after) := linesUntil mark strip (splitOn '\n' below)
  let content := body.flatMap fun line => line ++ ['\n']
  let word ← if parts.any Part.isQuoted then pure [.text content true]
    else (quotedParts true (content.length + 1) content).map Prod.fst
  return (word, line ++ '\n' :: join '\n' after)

/-! ## Scripts -/

/-- The operators, longer ones first. -/
def operators : List String :=
  ["<<-", "&&", "||", ";;", "<<", ">>", "<&", ">&", ">|", "<", ">", "|", "&", ";", "(", ")"]

/-- The operator that a text starts with, and what follows it. -/
def operator? (text : List Char) : Option (String × List Char) :=
  operators.findSome? fun op => (dropStart? op.toList text).map fun rest => (op, rest)

/-- The number of the ends of lines in the part of a text before its rest. -/
def linesPassed (text rest : List Char) : Nat :=
  (text.take (text.length - rest.length)).count '\n'

/-- The number of a word before a redirection. -/
def numberOf? (parts : Word) (rest : List Char) : Option Nat :=
  match rest, parts with
  | c :: _, [.text [d] false] =>
    if (c = '<' ∨ c = '>') ∧ d.isDigit then some (d.toNat - 48) else none
  | _, _ => none

/-- The tokens of a text that starts on a line. -/
def tokens : Nat → Nat → List Char → List Lexeme
  | 0, _, _ => []
  | _, _, [] => []
  | fuel + 1, line, c :: rest =>
    if c = ' ' ∨ c = '\t' then tokens fuel line rest
    else if c = '\n' then ⟨.newline, line⟩ :: tokens fuel (line + 1) rest
    else if c = '#' then tokens fuel line (rest.dropWhile (· != '\n'))
    else if c = '\\' ∧ rest.head? = some '\n' then tokens fuel (line + 1) (rest.drop 1)
    else
      match operator? (c :: rest) with
      | some (op, after) =>
        if op = "<<" ∨ op = "<<-" then
          match hereText (op = "<<-") after with
          | .ok (parts, after) =>
            ⟨.operator "<<", line⟩ :: ⟨.here parts, line⟩ :: tokens fuel line after
          | .error message => [⟨.fault message, line⟩]
        else ⟨.operator op, line⟩ :: tokens fuel line after
      | none =>
        match wordParts false (rest.length + 2) (c :: rest) with
        | .error message => [⟨.fault message, line⟩]
        | .ok (parts, after) =>
          let token := match numberOf? parts after with
            | some number => Token.number number
            | none => .word parts
          ⟨token, line⟩ :: tokens fuel (line + linesPassed (c :: rest) after) after

/-- The tokens of a script. -/
def tokenize (script : List Char) : List Lexeme := tokens (2 * script.length + 2) 1 script

end CallSheet.Shell
