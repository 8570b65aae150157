import CallSheet.Text.Digits

/-!
# What a plain scalar reads as

A reader of YAML takes some texts without quotes for something other than a
text: for nothing at all, a truth value or a number.  `isOther` tells which, so
that a writer can put them between quotes.  Digits after a leading zero are a
text to a reader, and are told apart all the same.
-/

namespace CallSheet.Yaml

open Text

/-- The texts that mean nothing, true or false. -/
def words : List String :=
  ["~", "null", "Null", "NULL", "true", "True", "TRUE", "false", "False", "FALSE"]

/-- The texts that are a number without digits. -/
def specialNumbers : List String :=
  [".inf", ".Inf", ".INF", "+.inf", "+.Inf", "+.INF", "-.inf", "-.Inf", "-.INF",
    ".nan", ".NaN", ".NAN"]

/-! ## Integers -/

/-- The base that a letter after the zero stands for. -/
def base? : Char → Option Nat
  | 'x' => some 16
  | 'o' => some 8
  | 'b' => some 2
  | _ => none

/-- The value of an integer with a base, such as `0x1F`. -/
def based? : List Char → Option Nat
  | '0' :: letter :: digits => (base? letter).bind fun base => digits? base digits
  | _ => none

/-- Whether a text is an integer with a base that fits in 128 bits. -/
def isBased (text : List Char) : Bool :=
  let fits (limit : Nat) : Option Nat → Bool
    | some value => value ≤ limit
    | none => false
  match text with
  | '+' :: rest => fits (Nat.pow 2 128 - 1) (based? rest)
  | '-' :: rest => fits (Nat.pow 2 127) (based? rest)
  | _ => fits (Nat.pow 2 128 - 1) (based? text)

/-- Whether a text is a zero and then more digits. -/
def hasLeadingZero (text : List Char) : Bool :=
  let unsigned := match text with
    | '+' :: rest => rest
    | '-' :: rest => rest
    | _ => text
  match unsigned with
  | '0' :: c :: rest => (c :: rest).all Char.isDigit
  | _ => false

/-! ## Decimals -/

/-- The number `mantissa * 10 ^ exponent`. -/
structure Decimal where
  mantissa : Nat
  exponent : Int
  deriving DecidableEq, Repr

/-- The digits of a power of ten, which may have a sign. -/
def exponent? : List Char → Option Int
  | '+' :: digits => (digits? 10 digits).map Int.ofNat
  | '-' :: digits => (digits? 10 digits).map fun value => - Int.ofNat value
  | digits => (digits? 10 digits).map Int.ofNat

/-- A decimal without a sign: digits with at most one point among them, and
possibly a power of ten. -/
def Decimal.ofText? (text : List Char) : Option Decimal :=
  let whole := text.takeWhile Char.isDigit
  let rest := text.dropWhile Char.isDigit
  let (fraction, rest) : List Char × List Char := match rest with
    | '.' :: rest => (rest.takeWhile Char.isDigit, rest.dropWhile Char.isDigit)
    | _ => ([], rest)
  (digits? 10 (whole ++ fraction)).bind fun mantissa =>
    match rest with
    | [] => some ⟨mantissa, - Int.ofNat fraction.length⟩
    | letter :: power =>
      if letter = 'e' ∨ letter = 'E' then
        (exponent? power).map fun exponent => ⟨mantissa, exponent - Int.ofNat fraction.length⟩
      else none

/-- The least number that no double comes near: half a step above the largest
double. -/
def doubleLimit : Nat := Nat.pow 2 1024 - Nat.pow 2 970

/-- Whether a decimal is so small that some double is near it.  The limit has
309 digits, so most decimals are told by their length. -/
def Decimal.isFinite (d : Decimal) : Bool :=
  if d.mantissa = 0 then true
  else
    let top := Int.ofNat (Nat.toDigits 10 d.mantissa).length + d.exponent
    if top < 309 then true
    else if 310 < top then false
    else if 0 ≤ d.exponent then d.mantissa * Nat.pow 10 d.exponent.toNat < doubleLimit
    else d.mantissa < doubleLimit * Nat.pow 10 (- d.exponent).toNat

/-- Whether a text is a decimal, with or without a sign, that a double is near
to. -/
def isDecimal (text : List Char) : Bool :=
  let unsigned := match text with
    | '+' :: rest => rest
    | '-' :: rest => rest
    | _ => text
  match Decimal.ofText? unsigned with
  | some d => d.isFinite
  | none => false

/-! ## All together -/

/-- Whether a text without quotes would not be read as a text, or might not. -/
def isOther (text : List Char) : Bool :=
  text.isEmpty || words.contains (String.ofList text) ||
    specialNumbers.contains (String.ofList text) ||
    hasLeadingZero text || isBased text || isDecimal text

end CallSheet.Yaml
