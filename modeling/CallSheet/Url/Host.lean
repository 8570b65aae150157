import CallSheet.Text.Case
import CallSheet.Text.Digits
import CallSheet.Text.Split
import CallSheet.Text.Utf8
import CallSheet.Url.Punycode

/-!
# Hosts

The host of a web address is a domain or a number.  Both have one normal form:
a domain is in lower case and its parts are in ASCII, and a number is written
as four decimal numbers or as eight hexadecimal ones between brackets, with the
longest run of zeros left out.
-/

namespace CallSheet.Url

open Text

/-- Why a text is no web address. -/
inductive Fault where
  /-- It names no scheme. -/
  | noScheme
  /-- It names no host. -/
  | emptyHost
  | badPort
  | badNumber
  | badBrackets
  | badDomain
  deriving DecidableEq, Repr

/-- The sentence that tells of a fault. -/
def Fault.message : Fault → String
  | .noScheme => "relative URL without a base"
  | .emptyHost => "empty host"
  | .badPort => "invalid port number"
  | .badNumber => "invalid IPv4 address"
  | .badBrackets => "invalid IPv6 address"
  | .badDomain => "invalid international domain name"

/-! ## Percent signs -/

/-- The bytes of a text, in which a percent sign and two digits stand for one. -/
def percentDecode : List Char → List UInt8
  | '%' :: a :: b :: rest =>
    match digitValue? a, digitValue? b with
    | some high, some low => (16 * high + low).toUInt8 :: percentDecode rest
    | _, _ => Utf8.encodeChar '%' ++ percentDecode (a :: b :: rest)
  | c :: rest => Utf8.encodeChar c ++ percentDecode rest
  | [] => []

/-! ## Numbers of four parts -/

/-- The value of a part of a number, which may be octal or hexadecimal. -/
def part? : List Char → Option Nat
  | [] => none
  | '0' :: x :: digits =>
    if x = 'x' ∨ x = 'X' then
      if digits.isEmpty then some 0 else digits? 16 digits
    else digits? 8 (x :: digits)
  | digits => digits? 10 digits

/-- The parts of a domain, without an empty one at the end. -/
def partsOf (domain : List Char) : List (List Char) :=
  let parts := splitOn '.' domain
  if parts.length > 1 ∧ parts.getLast? = some [] then parts.dropLast else parts

/-- Whether a domain ends like a number. -/
def endsInNumber (domain : List Char) : Bool :=
  match (partsOf domain).getLast? with
  | none => false
  | some last =>
    (!last.isEmpty && last.all Char.isDigit) ||
      ((last.take 2).map Char.toLower == ['0', 'x'] && (part? last).isSome)

/-- The value of parts, of which the last takes all bytes that are left. -/
def numberOf? : Nat → List Nat → Option Nat
  | bytes, [last] => if last < Nat.pow 256 bytes then some last else none
  | bytes + 1, part :: rest =>
    if part < 256 then (numberOf? bytes rest).map (part * Nat.pow 256 bytes + ·) else none
  | _, _ => none

/-- A number in four decimal parts. -/
def dotted (number : Nat) : List Char :=
  join '.' ([16777216, 65536, 256, 1].map fun unit => Nat.toDigits 10 (number / unit % 256))

/-- The normal form of a host that ends like a number. -/
def numberHost (domain : List Char) : Except Fault (List Char) :=
  let parts := partsOf domain
  if 4 < parts.length then .error .badNumber
  else
    match (parts.mapM part?).bind (numberOf? 4) with
    | some number => .ok (dotted number)
    | none => .error .badNumber

/-! ## Numbers between brackets -/

/-- The groups of one side of a number between brackets; the last may be a
number of four parts. -/
def groups? : List (List Char) → Option (List Nat)
  | [] => some []
  | [last] =>
    if last.contains '.' then
      let parts := splitOn '.' last
      if parts.length = 4 ∧ parts.all (fun p => p.length = 1 ∨ p.head? ≠ some '0') then
        ((parts.mapM (digits? 10)).bind fun values =>
          if values.all (· < 256) then numberOf? 4 values else none).map
            fun number => [number / 65536, number % 65536]
      else none
    else if last.length ≤ 4 then (digits? 16 last).map ([·]) else none
  | group :: rest =>
    if group.length ≤ 4 then
      (digits? 16 group).bind fun value => (groups? rest).map (value :: ·)
    else none

/-- The groups of a text between colons; no text has none. -/
def sideGroups? (text : List Char) : Option (List Nat) :=
  if text.isEmpty then some [] else groups? (splitOn ':' text)

/-- The eight groups of a number between brackets. -/
def eightGroups? (text : List Char) : Option (List Nat) :=
  match cutAt [':', ':'] text with
  | none => (sideGroups? text).bind fun groups => if groups.length = 8 then some groups else none
  | some (left, right) =>
    (if left.contains '.' then none else sideGroups? left).bind fun left =>
      (sideGroups? right).bind fun right =>
        if left.length + right.length < 8 then
          some (left ++ List.replicate (8 - left.length - right.length) 0 ++ right)
        else none

/-- The length of the run of zeros that a list starts with. -/
def zeros (groups : List Nat) : Nat := (groups.takeWhile (· == 0)).length

/-- The place and the length of the first longest run of zeros. -/
def longestRun (place : Nat) : List Nat → Nat × Nat
  | [] => (place, 0)
  | group :: rest =>
    let later := longestRun (place + 1) rest
    let here := zeros (group :: rest)
    if later.2 ≤ here then (place, here) else later

/-- Groups in hexadecimal digits, with colons between them. -/
def colons (groups : List Nat) : List Char := join ':' (groups.map (Nat.toDigits 16))

/-- The normal form of a number between brackets. -/
def bracketHost (text : List Char) : Except Fault (List Char) :=
  match eightGroups? text with
  | none => .error .badBrackets
  | some groups =>
    let (place, length) := longestRun 0 groups
    let inner :=
      if length < 2 then colons groups
      else colons (groups.take place) ++ [':', ':'] ++ colons (groups.drop (place + length))
    .ok ('[' :: (inner ++ [']']))

/-! ## Domains -/

/-- The characters that no domain has. -/
def isForbidden (c : Char) : Bool :=
  c.toNat ≤ 0x20 || c.toNat == 0x7F || "#%/:<>?@[\\]^|".toList.contains c

/-- A part of a domain in ASCII. -/
def asciiLabel (label : List Char) : List Char :=
  if label.all (·.toNat < 128) then label else 'x' :: 'n' :: '-' :: '-' :: Punycode.encode label

/-- The normal form of a host. -/
def host (text : List Char) : Except Fault (List Char) :=
  match text with
  | [] => .error .emptyHost
  | '[' :: rest =>
    if rest.getLast? = some ']' then bracketHost rest.dropLast else .error .badBrackets
  | _ =>
    match Utf8.decode (percentDecode text) with
    | .error _ => .error .badDomain
    | .ok decoded =>
      let domain := join '.' ((splitOn '.' (Text.lower decoded)).map asciiLabel)
      if domain.any isForbidden then .error .badDomain
      else if domain.isEmpty then .error .emptyHost
      else if endsInNumber domain then numberHost domain
      else .ok domain

end CallSheet.Url
