import CallSheet.Shell.Token

/-!
# Commands of a script

The commands that a list of tokens stands for.  A script is read one whole
command line at a time, so that everything before a fault can still be run.
-/

namespace CallSheet.Shell

/-- Reads tokens. -/
abbrev Reader (α : Type) := StateT (List Lexeme) (Except (Nat × String)) α

/-- The words that mean something where a command starts. -/
def reserved : List String :=
  ["if", "then", "else", "elif", "fi", "do", "done", "while", "until", "for", "in", "\x7b",
    "\x7d", "!", "case", "esac"]

/-- A word without quotes and expansions. -/
def plainText? (parts : Word) : Option String :=
  if parts.all fun part => match part with
    | .text _ quoted => !quoted
    | _ => false
  then some (String.ofList (parts.flatMap Part.literal)) else none

/-- The words for a token in a message. -/
def Token.label : Token → String
  | .word parts =>
    match plainText? parts with
    | some text => if reserved.contains text then "\"" ++ text ++ "\"" else "word"
    | none => "word"
  | .operator text =>
    if text.toList.any fun c => c == '<' || c == '>' then "redirection" else "\"" ++ text ++ "\""
  | .number _ => "redirection"
  | .here _ => "redirection"
  | .newline => "newline"
  | .fault message => message

namespace Reader

/-- The next token. -/
def peek : Reader (Option Token) := do return (← get).head?.map (·.token)

/-- The line of the next token. -/
def line : Reader Nat := do return match (← get).head? with
  | some lexeme => lexeme.line
  | none => 1

/-- Goes past the next token. -/
def advance : Reader Unit := modify (·.drop 1)

/-- Stops at the next token; `expected` names what should stand there. -/
def unexpected (expected : String) : Reader α := do
  let what ← peek
  let hint := if expected.isEmpty then "" else " (expecting \"" ++ expected ++ "\")"
  match what with
  | some (.fault message) => throw (← line, "Syntax error: " ++ message)
  | some token => throw (← line, "Syntax error: " ++ token.label ++ " unexpected" ++ hint)
  | none => throw (← line, "Syntax error: end of file unexpected" ++ hint)

/-- The next token as a plain word. -/
def peekPlain : Reader (Option String) := do
  match ← peek with
  | some (.word parts) => return plainText? parts
  | _ => return none

/-- Goes past a reserved word. -/
def expectWord (text : String) : Reader Unit := do
  if (← peekPlain) == some text then advance else unexpected text

/-- Goes past the ends of lines. -/
def skipNewlines : Nat → Reader Unit
  | 0 => return
  | fuel + 1 => do
    if (← peek) == some .newline then
      advance
      skipNewlines fuel

/-- The number that a redirection is about when none is given. -/
def defaultNumber (op : String) : Nat := if op == "<" || op == "<&" || op == "<<" then 0 else 1

/-- What an operator does, if it redirects. -/
def redirectKind? : String → Option RedirectKind
  | "<" => some .read
  | ">" => some .write
  | ">|" => some .write
  | ">>" => some .append
  | "<&" => some .same
  | ">&" => some .same
  | "<<" => some .here
  | _ => none

/-- The redirection that stands next, if one does. -/
def redirect? : Reader (Option Redirect) := do
  let number? ← match ← peek with
    | some (.number n) => do advance; pure (some n)
    | _ => pure none
  match ← peek with
  | some (.operator op) =>
    match redirectKind? op with
    | none => return none
    | some kind =>
      advance
      match ← peek with
      | some (.word parts) =>
        advance
        return some ⟨kind, number?.getD (defaultNumber op), parts⟩
      | some (.here parts) =>
        advance
        return some ⟨kind, number?.getD (defaultNumber op), parts⟩
      | _ => unexpected ""
  | _ => return none

/-- The redirections that stand next. -/
def redirects : Nat → Reader (List Redirect)
  | 0 => return []
  | fuel + 1 => do
    match ← redirect? with
    | some r => return r :: (← redirects fuel)
    | none => return []

/-- The name and the value of an assignment. -/
def assignment? : Word → Option (String × Word)
  | parts =>
    let isPlain (part : Part) : Bool := match part with
      | .text [c] false => isNameChar c
      | _ => false
    let name := (parts.takeWhile isPlain).flatMap Part.literal
    match parts.dropWhile isPlain, name with
    | .text ['='] false :: value, c :: _ =>
      if isNameStart c then some (String.ofList name, value) else none
    | _, _ => none

/-- What a simple command consists of. -/
structure Pieces where
  assignments : List (String × Word) := []
  words : List Word := []
  redirects : List Redirect := []

/-- The pieces of a simple command. -/
def pieces : Nat → Pieces → Reader Pieces
  | 0, found => return found
  | fuel + 1, found => do
    match ← peek with
    | some (.word parts) =>
      advance
      match if found.words.isEmpty then assignment? parts else none with
      | some a => pieces fuel { found with assignments := found.assignments ++ [a] }
      | none => pieces fuel { found with words := found.words ++ [parts] }
    | _ =>
      match ← redirect? with
      | some r => pieces fuel { found with redirects := found.redirects ++ [r] }
      | none => return found

/-- The words up to the end of a line. -/
def words : Nat → Reader (List Word)
  | 0 => return []
  | fuel + 1 => do
    match ← peek with
    | some (.word parts) =>
      advance
      return parts :: (← words fuel)
    | _ => return []

/-- Whether a plain word ends a list of commands. -/
def closes (text : String) : Bool :=
  ["then", "else", "elif", "fi", "do", "done", "esac", "\x7d"].contains text

/-- A command with redirections, if there are any. -/
def withRedirects (line : Nat) (command : Command) (found : List Redirect) : Command :=
  if found.isEmpty then command else .redirected line command found

/-- Whether a text can be a name. -/
def isName (text : String) : Bool :=
  match text.toList with
  | c :: rest => isNameStart c && rest.all isNameChar
  | [] => false

mutual

/-- The commands up to a closing word or parenthesis, or on one line only. -/
def list (oneLine : Bool) : Nat → Reader (List Command)
  | 0 => unexpected ""
  | fuel + 1 => do
    unless oneLine do skipNewlines fuel
    match ← peek with
    | none => return []
    | some .newline =>
      advance
      return []
    | some (.operator ")") | some (.operator ";;") =>
      if oneLine then unexpected "" else return []
    | _ =>
      if !oneLine && (← peekPlain).any closes then return []
      let command ← andOr fuel
      match ← peek with
      | some (.operator op) =>
        if op == ";" || op == "&" then
          advance
          return command :: (← list oneLine fuel)
        else if (op == ")" || op == ";;") && !oneLine then return [command]
        else unexpected ""
      | some .newline =>
        advance
        if oneLine then return [command] else return command :: (← list oneLine fuel)
      | none => return [command]
      | some _ => if oneLine then unexpected "" else return [command]

/-- Commands that depend on how the one before ended. -/
def andOr : Nat → Reader Command
  | 0 => unexpected ""
  | fuel + 1 => do
    let first ← pipeline fuel
    andOrAfter fuel first

/-- What follows a command that others depend on. -/
def andOrAfter : Nat → Command → Reader Command
  | 0, _ => unexpected ""
  | fuel + 1, first => do
    match ← peek with
    | some (.operator "&&") =>
      advance
      skipNewlines fuel
      andOrAfter fuel (.both first (← pipeline fuel))
    | some (.operator "||") =>
      advance
      skipNewlines fuel
      andOrAfter fuel (.either first (← pipeline fuel))
    | _ => return first

/-- Commands that read what the one before writes. -/
def pipeline : Nat → Reader Command
  | 0 => unexpected ""
  | fuel + 1 => do
    let negates := (← peekPlain) == some "!"
    if negates then advance
    let first ← command fuel
    let rest ← pipelineAfter fuel
    let whole := if rest.isEmpty then first else .pipe (first :: rest)
    return if negates then .negated whole else whole

/-- The commands after the first one of a pipeline. -/
def pipelineAfter : Nat → Reader (List Command)
  | 0 => unexpected ""
  | fuel + 1 => do
    match ← peek with
    | some (.operator "|") =>
      advance
      skipNewlines fuel
      let next ← command fuel
      return next :: (← pipelineAfter fuel)
    | _ => return []

/-- The rest of a choice, after its condition's word. -/
def choice : Nat → Reader Command
  | 0 => unexpected ""
  | fuel + 1 => do
    let condition ← list false fuel
    expectWord "then"
    let yes ← list false fuel
    match ← peekPlain with
    | some "elif" =>
      advance
      return .choice condition yes [← choice fuel]
    | some "else" =>
      advance
      let no ← list false fuel
      expectWord "fi"
      return .choice condition yes no
    | _ =>
      expectWord "fi"
      return .choice condition yes []

/-- The body of a loop. -/
def body : Nat → Reader (List Command)
  | 0 => unexpected ""
  | fuel + 1 => do
    expectWord "do"
    let commands ← list false fuel
    expectWord "done"
    return commands

/-- The patterns of a branch, up to the closing parenthesis. -/
def patterns : Nat → Reader (List Word)
  | 0 => unexpected ""
  | fuel + 1 => do
    let some (.word parts) ← peek | unexpected ")"
    advance
    match ← peek with
    | some (.operator "|") =>
      advance
      return parts :: (← patterns fuel)
    | some (.operator ")") =>
      advance
      return [parts]
    | _ => unexpected ")"

/-- The branches up to the end of a choice by patterns. -/
def branches : Nat → Reader (List (List Word × List Command))
  | 0 => unexpected ""
  | fuel + 1 => do
    skipNewlines fuel
    if (← peekPlain) == some "esac" then
      advance
      return []
    if (← peek) == some (.operator "(") then advance
    let found ← patterns fuel
    let commands ← list false fuel
    skipNewlines fuel
    if (← peek) == some (.operator ";;") then
      advance
      return (found, commands) :: (← branches fuel)
    else
      expectWord "esac"
      return [(found, commands)]

/-- One command. -/
def command : Nat → Reader Command
  | 0 => unexpected ""
  | fuel + 1 => do
    let here ← line
    match ← peek with
    | some (.operator "(") =>
      advance
      let commands ← list false fuel
      if (← peek) == some (.operator ")") then advance else unexpected ")"
      return withRedirects here (.subshell commands) (← redirects fuel)
    | _ =>
      match ← peekPlain with
      | some "\x7b" =>
        advance
        let commands ← list false fuel
        expectWord "\x7d"
        return withRedirects here (.group commands) (← redirects fuel)
      | some "if" =>
        advance
        let c ← choice fuel
        return withRedirects here c (← redirects fuel)
      | some "while" =>
        advance
        let condition ← list false fuel
        let commands ← body fuel
        return withRedirects here (.loop false condition commands) (← redirects fuel)
      | some "until" =>
        advance
        let condition ← list false fuel
        let commands ← body fuel
        return withRedirects here (.loop true condition commands) (← redirects fuel)
      | some "for" =>
        advance
        let some name ← peekPlain | throw (here, "Syntax error: Bad for loop variable")
        advance
        skipNewlines fuel
        let items ← if (← peekPlain) == some "in" then do
            advance
            let items ← words fuel
            match ← peek with
            | some (.operator ";") | some .newline => pure items
            | _ => unexpected ""
          else pure [[.variable ['@'] true]]
        if (← peek) == some (.operator ";") then advance
        skipNewlines fuel
        let commands ← body fuel
        return withRedirects here (.each name items commands) (← redirects fuel)
      | some "case" =>
        advance
        let some (.word word) ← peek | unexpected ""
        advance
        skipNewlines fuel
        expectWord "in"
        let found ← branches fuel
        return withRedirects here (.cases here word found) (← redirects fuel)
      | some text =>
        if closes text || text == "!" then unexpected ""
        else if (← get)[1]?.map (·.token) == some (.operator "(") then
          advance
          advance
          if (← peek) == some (.operator ")") then advance else unexpected ")"
          unless isName text do throw (here, "Syntax error: Bad function name")
          skipNewlines fuel
          return .define text (← command fuel)
        else
          let found ← pieces fuel {}
          return .simple here found.assignments found.words found.redirects
      | none =>
        let found ← pieces fuel {}
        if found.words.isEmpty && found.assignments.isEmpty && found.redirects.isEmpty then
          unexpected ""
        else return .simple here found.assignments found.words found.redirects

end

end Reader

/-- The first command line of some tokens and the tokens after it. -/
def commandLine (lexemes : List Lexeme) : Except (Nat × String) (List Command × List Lexeme) :=
  let lexemes := lexemes.dropWhile (·.token == .newline)
  (Reader.list true (16 * lexemes.length + 16)).run lexemes

end CallSheet.Shell
