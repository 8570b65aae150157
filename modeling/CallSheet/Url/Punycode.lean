/-!
# Punycode

The letters, digits and hyphens that stand for a part of a domain with other
characters.  The characters that need no encoding come first; then, for every
other character in ascending order, follows how far it is from the one before,
as a number whose digits count up to 36 and end at a moving threshold.
-/

namespace CallSheet.Punycode

/-- The letter or digit of a value below 36. -/
def digit (value : Nat) : Char :=
  if value < 26 then Char.ofNat (97 + value) else Char.ofNat (22 + value)

/-- The least value of a last digit at a position. -/
def threshold (position bias : Nat) : Nat :=
  if position ≤ bias then 1 else if bias + 26 ≤ position then 26 else position - bias

theorem threshold_pos (position bias : Nat) : 1 ≤ threshold position bias := by
  unfold threshold
  split
  · omega
  · split <;> omega

/-- The digits of a distance. -/
def digits (bias position distance : Nat) : List Char :=
  let t := threshold position bias
  if distance < t then [digit distance]
  else
    digit (t + (distance - t) % (36 - t)) ::
      digits bias (position + 36) ((distance - t) / (36 - t))
termination_by distance
decreasing_by
  have := threshold_pos position bias
  exact Nat.lt_of_le_of_lt (Nat.div_le_self _ _) (by omega)

/-- The quotient of a distance by 35, taken until it is at most 455, and 36 for
every time. -/
def settle (distance position : Nat) : Nat × Nat :=
  if 455 < distance then settle (distance / 35) (position + 36) else (distance, position)
termination_by distance
decreasing_by exact Nat.div_lt_self (by omega) (by omega)

/-- The bias after a distance. -/
def nextBias (distance count : Nat) (first : Bool) : Nat :=
  let scaled := if first then distance / 700 else distance / 2
  let (rest, position) := settle (scaled + scaled / count) 0
  position + 36 * rest / (rest + 38)

/-- What is written so far. -/
structure Writer where
  text : List Char
  distance : Nat
  bias : Nat
  /-- How many characters are written. -/
  count : Nat

/-- Goes past one character while the character `target` is written. -/
def Writer.pass (basic target : Nat) (writer : Writer) (c : Char) : Writer :=
  if c.toNat < target then { writer with distance := writer.distance + 1 }
  else if c.toNat = target then
    { text := writer.text ++ digits writer.bias 36 writer.distance
      distance := 0
      bias := nextBias writer.distance (writer.count + 1) (writer.count == basic)
      count := writer.count + 1 }
  else writer

/-- Writes characters that are given in ascending order. -/
def Writer.all (basic : Nat) (label : List Char) (writer : Writer) (next : Nat) :
    List Nat → Writer
  | [] => writer
  | target :: rest =>
    let writer := { writer with
      distance := writer.distance + (target - next) * (writer.count + 1) }
    let writer := label.foldl (Writer.pass basic target) writer
    Writer.all basic label { writer with distance := writer.distance + 1 } (target + 1) rest

/-- A part of a domain in Punycode, without the mark that says so. -/
def encode (label : List Char) : List Char :=
  let basic := label.filter (·.toNat < 128)
  let others := ((label.filter (128 ≤ ·.toNat)).map Char.toNat).eraseDups.mergeSort
  let writer := Writer.all basic.length label ⟨[], 0, 72, basic.length⟩ 128 others
  if basic.isEmpty then writer.text else basic ++ '-' :: writer.text

end CallSheet.Punycode
