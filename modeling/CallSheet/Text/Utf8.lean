/-!
# UTF-8

Bytes of a text and texts of bytes.  A byte sequence falls into `Piece`s: a
character, the longest start of a character that the next byte rules out, or a
character that the end of the bytes cuts short.  The strict reading stops at
the first piece that is no character and says where it is; the lenient reading
puts U+FFFD in its place.
-/

namespace CallSheet.Text.Utf8

/-! ## Writing -/

/-- The bytes of one character. -/
def encodeChar (c : Char) : List UInt8 :=
  let n := c.toNat
  if n < 0x80 then [n.toUInt8]
  else if n < 0x800 then [(0xC0 + n / 64).toUInt8, (0x80 + n % 64).toUInt8]
  else if n < 0x10000 then
    [(0xE0 + n / 4096).toUInt8, (0x80 + n / 64 % 64).toUInt8, (0x80 + n % 64).toUInt8]
  else
    [(0xF0 + n / 262144).toUInt8, (0x80 + n / 4096 % 64).toUInt8,
      (0x80 + n / 64 % 64).toUInt8, (0x80 + n % 64).toUInt8]

/-- The bytes of a text. -/
def encode (text : List Char) : List UInt8 := text.flatMap encodeChar

/-! ## Reading -/

/-- A piece of a byte sequence. -/
inductive Piece where
  /-- A whole character. -/
  | char (c : Char)
  /-- So many bytes that start a character which the next byte does not go on
  with, or one byte that starts none. -/
  | bad (length : Nat)
  /-- So many bytes that start a character, and then the end. -/
  | cut (length : Nat)
  deriving DecidableEq, Repr

/-- Whether a byte can stand inside a character. -/
def isTail (b : UInt8) : Bool := 0x80 ≤ b && b ≤ 0xBF

/-- Whether a byte can stand second, after the given first byte.  Shorter
forms of a character, surrogates and numbers above U+10FFFF are ruled out
here. -/
def isSecond (first b : UInt8) : Bool :=
  if first = 0xE0 then 0xA0 ≤ b && b ≤ 0xBF
  else if first = 0xED then 0x80 ≤ b && b ≤ 0x9F
  else if first = 0xF0 then 0x90 ≤ b && b ≤ 0xBF
  else if first = 0xF4 then 0x80 ≤ b && b ≤ 0x8F
  else isTail b

/-- The low six bits of a byte. -/
def bits (b : UInt8) : Nat := b.toNat % 64

/-- The first piece of a sequence that is not empty, and the bytes after it. -/
def next (a : UInt8) (rest : List UInt8) : Piece × List UInt8 :=
  if a < 0x80 then (.char (Char.ofNat a.toNat), rest)
  else if 0xC2 ≤ a && a ≤ 0xDF then
    match rest with
    | [] => (.cut 1, [])
    | b :: rest' =>
      if isTail b then (.char (Char.ofNat (a.toNat % 32 * 64 + bits b)), rest')
      else (.bad 1, rest)
  else if 0xE0 ≤ a && a ≤ 0xEF then
    match rest with
    | [] => (.cut 1, [])
    | b :: rest' =>
      if isSecond a b then
        match rest' with
        | [] => (.cut 2, [])
        | c :: rest'' =>
          if isTail c then
            (.char (Char.ofNat (a.toNat % 16 * 4096 + bits b * 64 + bits c)), rest'')
          else (.bad 2, rest')
      else (.bad 1, rest)
  else if 0xF0 ≤ a && a ≤ 0xF4 then
    match rest with
    | [] => (.cut 1, [])
    | b :: rest' =>
      if isSecond a b then
        match rest' with
        | [] => (.cut 2, [])
        | c :: rest'' =>
          if isTail c then
            match rest'' with
            | [] => (.cut 3, [])
            | d :: rest''' =>
              if isTail d then
                (.char (Char.ofNat
                  (a.toNat % 8 * 262144 + bits b * 4096 + bits c * 64 + bits d)), rest''')
              else (.bad 3, rest'')
          else (.bad 2, rest')
      else (.bad 1, rest)
  else (.bad 1, rest)

/-- A piece takes at least its first byte. -/
theorem next_length (a : UInt8) (rest : List UInt8) : (next a rest).2.length ≤ rest.length := by
  unfold next
  repeat' split
  all_goals simp only [List.length_cons, List.length_nil, Nat.le_refl]
  all_goals omega

/-- All pieces of a sequence. -/
def pieces : List UInt8 → List Piece
  | [] => []
  | a :: rest => (next a rest).1 :: pieces (next a rest).2
termination_by bytes => bytes.length
decreasing_by
  have := next_length a rest
  simp only [List.length_cons]
  omega

/-- Where a sequence stops being UTF-8. -/
structure Fault where
  /-- The place of the first byte that belongs to no character. -/
  offset : Nat
  /-- How many bytes are ruled out, or nothing when the bytes just end. -/
  length : Option Nat
  deriving DecidableEq, Repr

/-- The text of pieces that start at the given place. -/
def ofPieces (offset : Nat) : List Piece → Except Fault (List Char)
  | [] => .ok []
  | .char c :: rest =>
    (ofPieces (offset + (encodeChar c).length) rest).map (c :: ·)
  | .bad length :: _ => .error ⟨offset, some length⟩
  | .cut _ :: _ => .error ⟨offset, none⟩

/-- The text of bytes, or the first place where they are no text. -/
def decode (bytes : List UInt8) : Except Fault (List Char) := ofPieces 0 (pieces bytes)

/-- A piece as a character. -/
def Piece.toChar : Piece → Char
  | .char c => c
  | _ => '\uFFFD'

/-- The text of bytes, with U+FFFD for every piece that is no character. -/
def decodeLossy (bytes : List UInt8) : List Char := (pieces bytes).map Piece.toChar

/-- The sentence that tells of a fault. -/
def Fault.message (fault : Fault) : String :=
  match fault.length with
  | some length =>
    "invalid utf-8 sequence of " ++ toString length ++ " bytes from index " ++ toString fault.offset
  | none => "incomplete utf-8 byte sequence from index " ++ toString fault.offset

end CallSheet.Text.Utf8
