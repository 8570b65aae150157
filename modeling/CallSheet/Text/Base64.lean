import CallSheet.Text.Utf8

/-!
# Base64

The standard alphabet with padding.  Reading accepts the canonical form only:
the padding has to be there, and the bits of the last symbol that belong to no
byte have to be zero.  A reading fault names the first thing that is wrong and
where it is.
-/

namespace CallSheet.Text.Base64

/-- The symbol of a six-bit value. -/
def symbol (v : Nat) : Char :=
  if v < 26 then Char.ofNat (65 + v)
  else if v < 52 then Char.ofNat (97 + (v - 26))
  else if v < 62 then Char.ofNat (48 + (v - 52))
  else if v = 62 then '+'
  else '/'

/-- The value of a symbol. -/
def value? (b : UInt8) : Option Nat :=
  let n := b.toNat
  if 65 ≤ n && n ≤ 90 then some (n - 65)
  else if 97 ≤ n && n ≤ 122 then some (n - 97 + 26)
  else if 48 ≤ n && n ≤ 57 then some (n - 48 + 52)
  else if n = 43 then some 62
  else if n = 47 then some 63
  else none

/-! ## Writing -/

/-- The symbols of a byte sequence, three bytes a quad. -/
def encodeBytes : List UInt8 → List Char
  | [] => []
  | [a] =>
    [symbol (a.toNat / 4), symbol (a.toNat % 4 * 16), '=', '=']
  | [a, b] =>
    [symbol (a.toNat / 4), symbol (a.toNat % 4 * 16 + b.toNat / 16),
      symbol (b.toNat % 16 * 4), '=']
  | a :: b :: c :: rest =>
    symbol (a.toNat / 4) :: symbol (a.toNat % 4 * 16 + b.toNat / 16) ::
      symbol (b.toNat % 16 * 4 + c.toNat / 64) :: symbol (c.toNat % 64) :: encodeBytes rest

/-- The symbols of a text's bytes. -/
def encode (text : List Char) : List Char := encodeBytes (Utf8.encode text)

/-! ## Reading -/

/-- What can be wrong with base64. -/
inductive Fault where
  /-- A byte that cannot stand at this place. -/
  | symbol (byte : UInt8) (offset : Nat)
  /-- The last quad has fewer than two symbols. -/
  | tooShort (length : Nat)
  /-- The last symbol has bits that belong to no byte. -/
  | lastSymbol (byte : UInt8) (offset : Nat)
  /-- The last quad is not filled up. -/
  | padding
  deriving DecidableEq, Repr

/-- The sentence that tells of a fault. -/
def Fault.message : Fault → String
  | .symbol byte offset =>
    "Invalid symbol " ++ toString byte.toNat ++ ", offset " ++ toString offset ++ "."
  | .tooShort length => "Invalid input length: " ++ toString length
  | .lastSymbol byte offset =>
    "Invalid last symbol " ++ toString byte.toNat ++ ", offset " ++ toString offset ++ "."
  | .padding => "Invalid padding"

/-- The pad byte `=`. -/
def pad : UInt8 := 61

/-- A symbol's value, or the fault that it is none. -/
def valueAt (offset : Nat) (b : UInt8) : Except Fault Nat :=
  match value? b with
  | some v => .ok v
  | none => .error (.symbol b offset)

/-- What has been read of the last quad. -/
structure Quad where
  /-- The symbols, each with its value. -/
  symbols : List (UInt8 × Nat) := []
  /-- How many pads follow them. -/
  pads : Nat := 0
  deriving DecidableEq, Repr

/-- Reads the last quad byte by byte; `start` is the place of the quad. -/
def readQuad (start : Nat) (quad : Quad) : List UInt8 → Except Fault Quad
  | [] => .ok quad
  | b :: rest =>
    let place := quad.symbols.length + quad.pads
    if b = pad then
      if place < 2 then .error (.symbol b (start + place))
      else readQuad start { quad with pads := quad.pads + 1 } rest
    else if 0 < quad.pads then .error (.symbol pad (start + quad.symbols.length))
    else
      match valueAt (start + place) b with
      | .error fault => .error fault
      | .ok v => readQuad start { quad with symbols := quad.symbols ++ [(b, v)] } rest

/-- The bytes of the symbols of a last quad, and whether bits are left over. -/
def quadBytes : List Nat → List UInt8 × Bool
  | [a, b] => ([(a * 4 + b / 16).toUInt8], b % 16 != 0)
  | [a, b, c] => ([(a * 4 + b / 16).toUInt8, (b % 16 * 16 + c / 4).toUInt8], c % 4 != 0)
  | [a, b, c, d] =>
    ([(a * 4 + b / 16).toUInt8, (b % 16 * 16 + c / 4).toUInt8, (c % 4 * 64 + d).toUInt8], false)
  | _ => ([], false)

/-- The bytes of the last quad, which holds at most four bytes. -/
def decodeLast (start : Nat) (bytes : List UInt8) : Except Fault (List UInt8) :=
  match readQuad start ⟨[], 0⟩ bytes with
  | .error fault => .error fault
  | .ok quad =>
    let count := quad.symbols.length
    if bytes.isEmpty then .ok []
    else if count < 2 then .error (.tooShort (start + count))
    else if (count + quad.pads) % 4 != 0 then .error .padding
    else
      match quadBytes (quad.symbols.map (·.2)), quad.symbols.getLast? with
      | (_, true), some (b, _) => .error (.lastSymbol b (start + count - 1))
      | (out, _), _ => .ok out

/-- The bytes of the quads from a place on; every quad but the last is full. -/
def decodeFrom (start : Nat) : List UInt8 → Except Fault (List UInt8)
  | a :: b :: c :: d :: e :: rest => do
    let a' ← valueAt start a
    let b' ← valueAt (start + 1) b
    let c' ← valueAt (start + 2) c
    let d' ← valueAt (start + 3) d
    let out ← decodeFrom (start + 4) (e :: rest)
    return (quadBytes [a', b', c', d']).1 ++ out
  | last => decodeLast start last

/-- The bytes that base64 stands for.  A single byte after the last full quad
that is no symbol is found before anything else. -/
def decodeBytes (bytes : List UInt8) : Except Fault (List UInt8) :=
  match bytes.length % 4, bytes.getLast? with
  | 1, some b =>
    if b != pad && (value? b).isNone then .error (.symbol b (bytes.length - 1))
    else decodeFrom 0 bytes
  | _, _ => decodeFrom 0 bytes

end CallSheet.Text.Base64
