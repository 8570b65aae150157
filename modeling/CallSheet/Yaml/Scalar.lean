import CallSheet.Yaml.Plain

/-!
# Scalars

A text is written in one of four styles.  A text with line feeds is written as
a literal block, and any other text without quotes, where the rules of these
styles allow it; otherwise it goes between single quotes, and if these do not
allow it either, between double quotes.  Lines are never folded.
-/

namespace CallSheet.Yaml

/-! ## Properties of a text -/

/-- A character that ends a line. -/
def isBreak (c : Char) : Bool :=
  c == '\r' || c == '\n' || c.toNat == 0x85 || c.toNat == 0x2028 || c.toNat == 0x2029

/-- A character that only double quotes can hold. -/
def isSpecial (c : Char) : Bool :=
  let n := c.toNat
  !(n == 0x0A || (0x20 ≤ n && n ≤ 0x7E) || (0xA0 ≤ n && n ≤ 0xD7FF) ||
    (0xE000 ≤ n && n ≤ 0xFFFD && n != 0xFEFF) || 0x10000 ≤ n)

/-- Whether a character with the first property stands right before one with
the second. -/
def hasPair (p q : Char → Bool) : List Char → Bool
  | a :: b :: rest => (p a && q b) || hasPair p q (b :: rest)
  | _ => false

/-- Whether a character is a space. -/
def isSpace (c : Char) : Bool := c == ' '

/-- Whether a text starts with a space or the end of a line. -/
def startsWide (text : List Char) : Bool := text.head?.any fun c => isSpace c || isBreak c

/-- Whether a text ends with a space or the end of a line. -/
def endsWide (text : List Char) : Bool := text.getLast?.any fun c => isSpace c || isBreak c

/-- Whether a text is empty or starts with a space. -/
def isGap : List Char → Bool
  | [] => true
  | c :: _ => isSpace c

/-- Whether the start of a text means something to a reader. -/
def startsMark : List Char → Bool
  | [] => false
  | c :: rest =>
    "#,[]\x7b\x7d&*!|>\x27\"%@\x60".toList.contains c ||
      ("-?:".toList.contains c && isGap rest) ||
      (c :: rest).take 3 == ['-', '-', '-'] || (c :: rest).take 3 == ['.', '.', '.']

/-- Whether a colon stands at the end or before a space. -/
def hasColon : List Char → Bool
  | [] => false
  | c :: rest => (c == ':' && isGap rest) || hasColon rest

/-! ## Styles -/

/-- How a text is written. -/
inductive Style where
  | plain
  | singleQuoted
  | doubleQuoted
  | literal
  deriving DecidableEq, Repr

/-- Whether a text can stand without quotes. -/
def plainAllowed (text : List Char) : Bool :=
  !startsWide text && !endsWide text && !text.any isBreak && !text.any isSpecial &&
    !startsMark text && !hasColon text && !hasPair isSpace (· == '#') text

/-- Whether a text can stand between single quotes. -/
def singleAllowed (text : List Char) : Bool :=
  !hasPair isBreak isSpace text && !hasPair isSpace isBreak text && !text.any isSpecial

/-- Whether a text can stand in a literal block. -/
def literalAllowed (text : List Char) : Bool :=
  !text.getLast?.any isSpace && !hasPair isSpace isBreak text && !text.any isSpecial

/-- The style of a text. -/
def Style.of (text : List Char) : Style :=
  if text.contains '\n' then if literalAllowed text then .literal else .doubleQuoted
  else if plainAllowed text && !isOther text then .plain
  else if singleAllowed text then .singleQuoted
  else .doubleQuoted

/-! ## Writing -/

/-- The indent of everything that belongs to an entry. -/
def indent : List Char := [' ', ' ']

/-- A text between single quotes; what follows the end of a line is indented. -/
def singleBody (lineStart : Bool) : List Char → List Char
  | [] => if lineStart then indent else []
  | c :: rest =>
    if isBreak c then c :: singleBody true rest
    else
      (if lineStart then indent else []) ++ (if c = '\x27' then [c, c] else [c]) ++
        singleBody false rest

/-- A number in upper-case hexadecimal digits, so many of them. -/
def hex : Nat → Nat → List Char
  | 0, _ => []
  | width + 1, n => hex width (n / 16) ++ [(Nat.digitChar (n % 16)).toUpper]

/-- The letters that stand for a character after a backslash. -/
def escapes : List (Nat × Char) :=
  [(0x00, '0'), (0x07, 'a'), (0x08, 'b'), (0x09, 't'), (0x0A, 'n'), (0x0B, 'v'), (0x0C, 'f'),
    (0x0D, 'r'), (0x1B, 'e'), (0x22, '"'), (0x5C, '\\'), (0x85, 'N'), (0x2028, 'L'),
    (0x2029, 'P')]

/-- A character between double quotes. -/
def doubleChar (c : Char) : List Char :=
  let n := c.toNat
  match escapes.lookup n with
  | some letter => ['\\', letter]
  | none =>
    if !isSpecial c then [c]
    else if n ≤ 0xFF then '\\' :: 'x' :: hex 2 n
    else if n ≤ 0xFFFF then '\\' :: 'u' :: hex 4 n
    else '\\' :: 'U' :: hex 8 n

/-- The lines of a literal block; only lines that are not empty are indented. -/
def literalBody (lineStart : Bool) : List Char → List Char
  | [] => []
  | c :: rest =>
    if isBreak c then c :: literalBody true rest
    else (if lineStart then indent else []) ++ c :: literalBody false rest

/-- What a literal block says about the ends of its lines: `-` without a last
one, `+` with several or with nothing else, and nothing for exactly one. -/
def chomping (text : List Char) : List Char :=
  match text.reverse with
  | [] => ['-']
  | last :: before =>
    if !isBreak last then ['-']
    else
      match before with
      | [] => ['+']
      | c :: _ => if isBreak c then ['+'] else []

/-- A text in a style. -/
def write (style : Style) (text : List Char) : List Char :=
  match style with
  | .plain => text
  | .singleQuoted => '\x27' :: (singleBody false text ++ ['\x27'])
  | .doubleQuoted => '"' :: (text.flatMap doubleChar ++ ['"'])
  | .literal =>
    '|' :: ((if startsWide text then ['2'] else []) ++ chomping text ++
      '\n' :: literalBody true text)

/-- A text in its style. -/
def scalar (text : List Char) : List Char := write (.of text) text

/-- Ends the line of a scalar, unless the scalar has ended it. -/
def endLine (text : List Char) : List Char :=
  if Style.of text = .literal ∧ text.getLast?.any isBreak then [] else ['\n']

end CallSheet.Yaml
