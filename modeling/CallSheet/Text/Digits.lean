/-!
# Digits

Reading a number in a base of up to sixteen.
-/

namespace CallSheet.Text

/-- The value of a digit, letters counting from ten. -/
def digitValue? (c : Char) : Option Nat :=
  let n := c.toNat
  if 48 ≤ n ∧ n ≤ 57 then some (n - 48)
  else if 97 ≤ n ∧ n ≤ 102 then some (n - 87)
  else if 65 ≤ n ∧ n ≤ 70 then some (n - 55)
  else none

/-- The value of digits in a base, after digits of the given value. -/
def digitsFrom? (base value : Nat) : List Char → Option Nat
  | [] => some value
  | c :: rest =>
    match digitValue? c with
    | some digit => if digit < base then digitsFrom? base (value * base + digit) rest else none
    | none => none

/-- The value of at least one digit in a base. -/
def digits? (base : Nat) (text : List Char) : Option Nat :=
  if text.isEmpty then none else digitsFrom? base 0 text

end CallSheet.Text
