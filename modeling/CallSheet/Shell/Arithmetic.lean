import CallSheet.Text.Digits

/-!
# Arithmetic

The integer expressions of scripts.  Numbers have 64 bits and wrap around.  A
variable counts as the number that it holds, and an assignment changes it.
-/

namespace CallSheet.Shell.Arithmetic

open Text

/-- Why an expression has no value. -/
inductive Fault where
  | noPrimary
  | divisionByZero
  | trailing
  | illegal (text : String)
  deriving DecidableEq, Repr

/-- What an expression is read and computed with: the text that is left, the
values of variables before it, and those that it has given, the latest first. -/
structure State where
  text : List Char
  known : String → Option String
  assigned : List (String × Int) := []

/-- Reads and computes. -/
abbrev Eval (α : Type) := StateT State (Except Fault) α

/-- A number in 64 bits. -/
def wrap (n : Int) : Int := Int.bmod n (Nat.pow 2 64)

/-- The number that a text stands for: decimal, octal after a zero, or
hexadecimal after `0x`. -/
def unsigned? : List Char → Option Nat
  | '0' :: x :: rest =>
    if x = 'x' ∨ x = 'X' then digits? 16 rest else digits? 8 (x :: rest)
  | text => digits? 10 text

/-- The number that a variable's value stands for. -/
def valueOf (text : String) : Except Fault Int :=
  let fail : Except Fault Int := .error (.illegal text)
  match text.toList with
  | [] => .ok 0
  | '-' :: rest => match unsigned? rest with
    | some n => .ok (wrap (-n))
    | none => fail
  | '+' :: rest => match unsigned? rest with
    | some n => .ok (wrap n)
    | none => fail
  | rest => match unsigned? rest with
    | some n => .ok (wrap n)
    | none => fail

/-- The binary operators, those that bind less first. -/
def levels : List (List String) :=
  [["||"], ["&&"], ["|"], ["^"], ["&"], ["==", "!="], ["<=", ">=", "<", ">"], ["<<", ">>"],
    ["+", "-"], ["*", "/", "%"]]

/-- Texts that only look like the start of a longer operator. -/
def isLonger (op : String) (after : List Char) : Bool :=
  match op, after with
  | "|", c :: _ => c == '|' || c == '='
  | "&", c :: _ => c == '&' || c == '='
  | "<", c :: _ => c == '<'
  | ">", c :: _ => c == '>'
  | "==", _ | "!=", _ | "<=", _ | ">=", _ | "||", _ | "&&", _ => false
  | _, c :: _ => c == '='
  | _, [] => false

/-- Whether a statement counts as a number. -/
def truth (b : Bool) : Int := if b then 1 else 0

/-- Computes a binary operator. -/
def apply (op : String) (a b : Int) : Except Fault Int :=
  match op with
  | "||" => .ok (truth (a != 0 || b != 0))
  | "&&" => .ok (truth (a != 0 && b != 0))
  | "|" => .ok (wrap (((a % Int.pow 2 64).toNat ||| (b % Int.pow 2 64).toNat : Nat) : Int))
  | "^" => .ok (wrap (((a % Int.pow 2 64).toNat ^^^ (b % Int.pow 2 64).toNat : Nat) : Int))
  | "&" => .ok (wrap (((a % Int.pow 2 64).toNat &&& (b % Int.pow 2 64).toNat : Nat) : Int))
  | "==" => .ok (truth (a == b))
  | "!=" => .ok (truth (a != b))
  | "<=" => .ok (truth (a ≤ b))
  | ">=" => .ok (truth (b ≤ a))
  | "<" => .ok (truth (a < b))
  | ">" => .ok (truth (b < a))
  | "<<" => .ok (wrap (a * Int.pow 2 (b % 64).toNat))
  | ">>" => .ok (a / Int.pow 2 (b % 64).toNat)
  | "+" => .ok (wrap (a + b))
  | "-" => .ok (wrap (a - b))
  | "*" => .ok (wrap (a * b))
  | "/" => if b = 0 then .error .divisionByZero else .ok (wrap (a.tdiv b))
  | "%" => if b = 0 then .error .divisionByZero else .ok (wrap (a.tmod b))
  | _ => .error .noPrimary

namespace Eval

/-- Goes past blanks. -/
def skipBlanks : Eval Unit :=
  modify fun s => { s with text := s.text.dropWhile fun c => c == ' ' || c == '\t' || c == '\n' }

/-- Goes past a text, if it stands next. -/
def take (text : String) : Eval Bool := do
  skipBlanks
  let s ← get
  if text.toList.isPrefixOf s.text then
    set { s with text := s.text.drop text.length }
    return true
  else return false

/-- The binary operator of a level that stands next. -/
def takeOperator (ops : List String) : Eval (Option String) := do
  skipBlanks
  let s ← get
  let found := ops.find? fun op =>
    op.toList.isPrefixOf s.text && !isLonger op (s.text.drop op.length)
  match found with
  | none => return none
  | some op =>
    set { s with text := s.text.drop op.length }
    return some op

/-- The value of a variable. -/
def lookup (name : String) : Eval Int := do
  let s ← get
  match s.assigned.lookup name with
  | some value => return value
  | none =>
    match s.known name with
    | none => return 0
    | some text => valueOf text

/-- Gives a variable a value. -/
def store (name : String) (value : Int) : Eval Int := do
  modify fun s => { s with assigned := (name, value) :: s.assigned }
  return value

mutual

/-- The value of a whole expression. -/
def expression : Nat → Eval Int
  | 0 => throw .noPrimary
  | fuel + 1 => do
    let condition ← level fuel levels
    if ← take "?" then
      let yes ← expression fuel
      if ← take ":" then
        let no ← expression fuel
        return if condition != 0 then yes else no
      else throw .noPrimary
    else return condition

/-- The value of operators that bind as much as the first of some levels. -/
def level : Nat → List (List String) → Eval Int
  | 0, _ => throw .noPrimary
  | fuel + 1, [] => primary fuel
  | fuel + 1, ops :: higher => do
    let first ← level fuel higher
    levelAfter fuel ops higher first

/-- Goes on with operators of a level after a value. -/
def levelAfter : Nat → List String → List (List String) → Int → Eval Int
  | 0, _, _, _ => throw .noPrimary
  | fuel + 1, ops, higher, value => do
    match ← takeOperator ops with
    | none => return value
    | some op =>
      let next ← level fuel higher
      levelAfter fuel ops higher (← apply op value next)

/-- The value of a number, a variable, an assignment, a sign or parentheses. -/
def primary : Nat → Eval Int
  | 0 => throw .noPrimary
  | fuel + 1 => do
    skipBlanks
    match (← get).text with
    | [] => throw .noPrimary
    | '(' :: rest =>
      modify ({ · with text := rest })
      let value ← expression fuel
      if ← take ")" then return value else throw .noPrimary
    | '-' :: rest =>
      modify ({ · with text := rest })
      return wrap (-(← primary fuel))
    | '+' :: rest =>
      modify ({ · with text := rest })
      primary fuel
    | '!' :: rest =>
      modify ({ · with text := rest })
      return truth ((← primary fuel) == 0)
    | '~' :: rest =>
      modify ({ · with text := rest })
      return -(← primary fuel) - 1
    | c :: rest =>
      let isWordChar (c : Char) : Bool := c.isAlphanum || c == '_'
      let word := (c :: rest).takeWhile isWordChar
      if word.isEmpty then throw .noPrimary
      modify ({ · with text := (c :: rest).dropWhile isWordChar })
      if c.isDigit then
        match unsigned? word with
        | some n => return wrap n
        | none => throw .trailing
      else
        let name := String.ofList word
        match ← takeOperator ["=", "+=", "-=", "*=", "/=", "%="] with
        | none => lookup name
        | some "=" => store name (← expression fuel)
        | some op =>
          let value ← lookup name
          store name (← apply (String.ofList (op.toList.take 1)) value (← expression fuel))

end

end Eval

/-- The value of an expression, and the values that it gives to variables, in
order. -/
def evaluate (text : List Char) (known : String → Option String) :
    Except Fault (Int × List (String × Int)) := do
  let isGap (c : Char) : Bool := c == ' ' || c == '\t' || c == '\n'
  if text.all isGap then return (0, [])
  let start : State := { text := text, known := known }
  let (value, state) ← (Eval.expression (16 * text.length + 32)).run start
  if state.text.all isGap then return (value, state.assigned.reverse) else throw .trailing

/-- The words for a fault in an expression. -/
def Fault.message (expression : List Char) : Fault → String
  | .noPrimary => "arithmetic expression: expecting primary: \"" ++ String.ofList expression ++ "\""
  | .divisionByZero =>
    "arithmetic expression: division by zero: \"" ++ String.ofList expression ++ "\""
  | .trailing => "arithmetic expression: expecting EOF: \"" ++ String.ofList expression ++ "\""
  | .illegal text => "Illegal number: " ++ text

end CallSheet.Shell.Arithmetic
