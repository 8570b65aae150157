import CallSheet.Files.Operations
import CallSheet.Shell.Bytes
import CallSheet.Text.Digits

/-!
# Tests

The conditions of scripts: what the arguments of `test` say of texts, numbers
and files, and whether it holds.  Three and four arguments are read by their
number first; otherwise operators bind in the usual order.
-/

namespace CallSheet.Shell.Test

open Text

/-! ## Operators -/

/-- An operator. -/
inductive Operator where
  | unary (name : String)
  | binary (name : String)
  | both
  | either
  | negation
  | opening
  | closing
  deriving DecidableEq, Repr

/-- The operators with one operand. -/
def unaryNames : List String :=
  ["-r", "-w", "-x", "-e", "-f", "-d", "-c", "-b", "-p", "-u", "-g", "-k", "-s", "-t", "-z", "-n",
    "-h", "-O", "-G", "-L", "-S"]

/-- The operators with two operands. -/
def binaryNames : List String :=
  ["=", "!=", "<", ">", "-eq", "-ne", "-ge", "-gt", "-le", "-lt", "-nt", "-ot", "-ef"]

/-- The operator that an argument can be. -/
def operator? (argument : String) : Option Operator :=
  if unaryNames.contains argument then some (.unary argument)
  else if binaryNames.contains argument then some (.binary argument)
  else [("-a", .both), ("-o", .either), ("!", .negation), ("(", .opening),
    (")", .closing)].lookup argument

/-- Whether an argument with those after it is an operand, though it could be an
operator. -/
def isOperand (rest : List String) : Bool :=
  match rest with
  | [] => true
  | [_] => false
  | next :: _ =>
    match operator? next with
    | some (.binary _) => true
    | _ => false

/-- The operator at the front of arguments. -/
def front? (arguments : List String) : Option Operator :=
  match arguments with
  | [] => none
  | argument :: rest =>
    match operator? argument with
    | some (.unary name) => if isOperand rest then none else some (.unary name)
    | some .opening => if rest.isEmpty then none else some .opening
    | other => other

/-! ## Single conditions -/

/-- The number that an operand stands for. -/
def number (operand : String) : Except String Int :=
  let isGap (c : Char) : Bool := c == ' ' || c == '\t' || c == '\n'
  let text := operand.toList.dropWhile isGap
  let (negative, text) := match text with
    | '-' :: rest => (true, rest)
    | '+' :: rest => (false, rest)
    | rest => (false, rest)
  let digits := text.takeWhile Char.isDigit
  let rest := text.dropWhile Char.isDigit
  match digits? 10 digits with
  | some n =>
    let value : Int := if negative then -n else n
    if rest.all isGap && -(Int.pow 2 63) ≤ value && value < Int.pow 2 63 then .ok value
    else .error ("Illegal number: " ++ operand)
  | none => .error ("Illegal number: " ++ operand)

/-- Whether an operator holds of an operand. -/
def unary (files : Files) (name operand : String) : Bool :=
  match name with
  | "-n" => !operand.isEmpty
  | "-z" => operand.isEmpty
  | "-e" | "-r" | "-w" | "-O" | "-G" => files.has operand
  | "-f" => files.isFile operand
  | "-d" | "-x" => files.isDirectory operand
  | "-s" =>
    match files.locate operand with
    | .ok (_, .file content) => !content.isEmpty
    | .ok (_, .directory) => true
    | _ => false
  | "-c" =>
    match files.locate operand with
    | .ok (_, .sink) => true
    | _ => false
  | "-h" | "-L" =>
    match files.find false operand with
    | .ok (.entry _ (.link _)) => true
    | _ => false
  | _ => false

/-- Whether an operator holds of two operands. -/
def binary (files : Files) (left name right : String) : Except String Bool :=
  let numbers (holds : Int → Int → Bool) : Except String Bool := do
    return holds (← number left) (← number right)
  match name with
  | "=" => .ok (left == right)
  | "!=" => .ok (left != right)
  | "<" => .ok (left < right)
  | ">" => .ok (right < left)
  | "-eq" => numbers (· == ·)
  | "-ne" => numbers (· != ·)
  | "-lt" => numbers fun a b => decide (a < b)
  | "-le" => numbers fun a b => decide (a ≤ b)
  | "-gt" => numbers fun a b => decide (b < a)
  | "-ge" => numbers fun a b => decide (b ≤ a)
  | "-ef" =>
    match files.locate left, files.locate right with
    | .ok (first, _), .ok (second, _) => .ok (first == second)
    | _, _ => .ok false
  | _ => .ok false

/-! ## Reading -/

/-- Whether a condition holds, and the arguments after it. -/
abbrev Reading := Except String (Bool × List String)

mutual

/-- Conditions of which one has to hold. -/
def anyOf (files : Files) : Nat → List String → Reading
  | 0, _ => .error "argument expected"
  | fuel + 1, arguments => do
    let (first, rest) ← allOf files fuel arguments
    match front? rest with
    | some .either => do
      let (second, rest) ← anyOf files fuel (rest.drop 1)
      return (first || second, rest)
    | _ => return (first, rest)

/-- Conditions that all have to hold. -/
def allOf (files : Files) : Nat → List String → Reading
  | 0, _ => .error "argument expected"
  | fuel + 1, arguments => do
    let (first, rest) ← negated files fuel arguments
    match front? rest with
    | some .both => do
      let (second, rest) ← allOf files fuel (rest.drop 1)
      return (first && second, rest)
    | _ => return (first, rest)

/-- A condition that may have to fail. -/
def negated (files : Files) : Nat → List String → Reading
  | 0, _ => .error "argument expected"
  | fuel + 1, arguments =>
    match front? arguments, arguments.drop 1 with
    | some .negation, [] => .ok (true, [])
    | some .negation, rest => (negated files fuel rest).map fun (value, rest) => (!value, rest)
    | _, _ => primary files fuel arguments

/-- A condition in parentheses or with one operator at most. -/
def primary (files : Files) : Nat → List String → Reading
  | 0, _ => .error "argument expected"
  | fuel + 1, arguments =>
    match front? arguments, arguments with
    | _, [] => .ok (false, [])
    | some .opening, _ :: rest =>
      if front? rest = some .closing then .ok (false, rest.drop 1)
      else do
        let (value, rest) ← anyOf files fuel rest
        if front? rest = some .closing then return (value, rest.drop 1)
        else throw "closing paren expected"
    | some (.unary name), _ :: rest =>
      match rest with
      | [] => .error (name ++ ": argument expected")
      | operand :: rest => .ok (unary files name operand, rest)
    | _, left :: rest =>
      match front? rest, rest.drop 1 with
      | some (.binary name), [] => .error (name ++ ": argument expected")
      | some (.binary name), right :: rest => do return (← binary files left name right, rest)
      | _, _ => .ok (!left.isEmpty, rest)

end

/-- Whether what all of some arguments say holds. -/
def whole (files : Files) (arguments : List String) : Except String Bool := do
  let (value, rest) ← anyOf files (4 * arguments.length + 4) arguments
  match rest with
  | [] => return value
  | _ =>
    let last := arguments[arguments.length - rest.length - 1]?
    throw (last.getD "" ++ ": unexpected operator")

/-- Whether what three arguments say holds. -/
def ofThree (files : Files) (a b c : String) : Except String Bool :=
  match operator? b with
  | some (.binary name) => binary files a name c
  | _ =>
    if a = "(" ∧ c = ")" then whole files [b]
    else if a = "!" then (whole files [b, c]).map (!·)
    else whole files [a, b, c]

/-- Whether what arguments say holds. -/
def holds (files : Files) (arguments : List String) : Except String Bool :=
  match arguments with
  | [] => .ok false
  | [a, b, c] => ofThree files a b c
  | [a, b, c, d] =>
    if a = "(" ∧ d = ")" then whole files [b, c]
    else if a = "!" then (ofThree files b c d).map (!·)
    else whole files arguments
  | _ => whole files arguments

end CallSheet.Shell.Test
