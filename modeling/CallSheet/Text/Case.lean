import CallSheet.Text.Case.Table

/-!
# Upper and lower case

The full case mappings: a character may become several ("ß" becomes "SS"),
and a capital sigma at the end of a word becomes the final form.  A sigma ends
a word when a cased character stands before it and none after it, characters
that case ignores not counted.
-/

namespace CallSheet.Text

namespace Case

/-- The upper-case form of one character. -/
def upperChar (c : Char) : List Char :=
  let n := c.toNat
  if n < 0x80 then [c.toUpper]
  else
    match upperSpecial.lookup n with
    | some image => image.map Char.ofNat
    | none => [((imageIn upperRuns n).map Char.ofNat).getD c]

/-- The lower-case form of one character outside every context. -/
def lowerChar (c : Char) : List Char :=
  let n := c.toNat
  if n < 0x80 then [c.toLower]
  else if n = 0x130 then ['i', '\u0307']
  else [((imageIn lowerRuns n).map Char.ofNat).getD c]

/-- Whether a character has a case. -/
def isCased (c : Char) : Bool := inRanges casedRanges c.toNat

/-- Whether case looks past a character. -/
def isIgnorable (c : Char) : Bool := inRanges ignorableRanges c.toNat

/-- Whether the first character that case does not look past has a case. -/
def startsCased (text : List Char) : Bool :=
  match text.dropWhile isIgnorable with
  | [] => false
  | c :: _ => isCased c

/-- Lower case of a text, given the characters before it, the nearest first. -/
def lowerAfter (before : List Char) : List Char → List Char
  | [] => []
  | c :: rest =>
    let image :=
      if c = 'Σ' then
        if startsCased before && !startsCased rest then ['ς'] else ['σ']
      else lowerChar c
    image ++ lowerAfter (c :: before) rest

end Case

/-- A text in upper case. -/
def upper (text : List Char) : List Char := text.flatMap Case.upperChar

/-- A text in lower case. -/
def lower (text : List Char) : List Char := Case.lowerAfter [] text

end CallSheet.Text
