import CallSheet.Shell.Arithmetic
import CallSheet.Shell.Glob
import CallSheet.Shell.Machine

/-!
# Expansion

Words become arguments: variables, numbers and the output of scripts take the
place of the parts that name them.  What comes from such a part and is not
quoted is split at separators.  How the output of a script is got is a
parameter.
-/

namespace CallSheet.Shell

open Text

/-- What a part of a word becomes. -/
inductive Fragment where
  | piece (bytes : Bytes) (quoted splits : Bool)
  /-- The end of an argument. -/
  | gap
  deriving DecidableEq, Repr

namespace Fragment

/-- A part that is split unless it is quoted. -/
def found (bytes : Bytes) (quoted : Bool) : Fragment := .piece bytes quoted (!quoted)

/-- The glyphs of a fragment. -/
def glyphs : Fragment → List Glyph
  | .piece bytes quoted _ => bytes.map (⟨·, quoted⟩)
  | .gap => [Glyph.live 32]

/-- The bytes of fragments as one text. -/
def together (fragments : List Fragment) : Bytes := Glyph.bytes (fragments.flatMap glyphs)

/-- The pattern that fragments spell. -/
def pattern (fragments : List Fragment) : Pattern := Pattern.ofGlyphs (fragments.flatMap glyphs)

/-- A fragment that is split if it is not quoted. -/
def splitting : Fragment → Fragment
  | .piece bytes quoted _ => .piece bytes quoted (!quoted)
  | .gap => .gap

/-! ## Splitting -/

/-- Whether a byte is a blank. -/
def isBlank (b : UInt8) : Bool := b == 32 || b == 9 || b == 10

/-- The arguments so far, the one that is being made, and whether a blank
ended the one before. -/
structure Cut where
  done : List (List Glyph) := []
  current : Option (List Glyph) := none
  afterBlank : Bool := false

/-- Adds glyphs to the current argument. -/
def Cut.extend (cut : Cut) (glyphs : List Glyph) : Cut :=
  { cut with current := some (cut.current.getD [] ++ glyphs), afterBlank := false }

/-- Ends the current argument; an empty one counts if `keep` says so. -/
def Cut.close (cut : Cut) (keep afterBlank : Bool) : Cut :=
  let argument := if keep then some (cut.current.getD []) else cut.current
  { done := cut.done ++ argument.toList, current := none, afterBlank := afterBlank }

/-- Goes on with a byte that may separate arguments. -/
def Cut.step (separators : Bytes) (cut : Cut) (b : UInt8) : Cut :=
  if !separators.contains b then cut.extend [Glyph.live b]
  else if isBlank b then
    if cut.current.isSome then cut.close false true else cut
  else if cut.afterBlank then { cut with afterBlank := false }
  else cut.close true false

/-- Goes on with a fragment. -/
def Cut.add (separators : Bytes) (cut : Cut) : Fragment → Cut
  | .gap => cut.close false false
  | .piece bytes quoted splits =>
    if splits then bytes.foldl (Cut.step separators) cut
    else cut.extend (Fragment.piece bytes quoted false).glyphs

/-- The arguments of fragments. -/
def arguments (separators : Bytes) (fragments : List Fragment) : List (List Glyph) :=
  ((fragments.foldl (Cut.add separators) {}).close false false).done

end Fragment

namespace Act

/-- Bytes without the ends of lines at their end. -/
def withoutLastLines (bytes : Bytes) : Bytes := (bytes.reverse.dropWhile (· == 10)).reverse

/-- A value, or none if it is empty and that counts as none. -/
def present (strict : Bool) (value : Option Bytes) : Option Bytes :=
  match value with
  | some [] => if strict then none else some []
  | other => other

/-- The value of a variable that may have to have one. -/
def required (line : Nat) (name : String) : Act Bytes := do
  match ← valueOf name with
  | some value => return value
  | none =>
    if (← get).settings.needsValues && name != "@" && name != "*" then
      abort line (name ++ ": parameter not set")
    else return []

/-- The value of an expression whose own parts are expanded already. -/
def compute (line : Nat) (text : List Char) : Act Bytes := do
  let m ← get
  let known (name : String) : Option String := (m.vars.lookup name).map stringOf
  match Arithmetic.evaluate text known with
  | .error fault => abort line (fault.message text)
  | .ok (value, assigned) =>
    for (name, n) in assigned do
      assign name (bytesOf (toString n))
    return bytesOf (toString value)

/-- The parts of a text inside an expansion. -/
def inside (line : Nat) (quoted : Bool) (text : List Char) : Act Word := do
  match if quoted then quotedParts true (text.length + 1) text
      else wordParts true (text.length + 1) text with
  | .error message => abort line ("Syntax error: " ++ message)
  | .ok (parts, _) => return parts

/-- The fragments of parts. -/
def expand (script : List Char → Act Bytes) (line : Nat) : Nat → Word → Act (List Fragment)
  | 0, _ => return []
  | _, [] => return []
  | fuel + 1, part :: rest => do
    let front : List Fragment ← match part with
      | .text text quoted => pure [.piece (Utf8.encode text) quoted false]
      | .variable ['@'] true =>
        pure ((← get).arguments.map (.piece · true false) |>.intersperse .gap)
      | .variable name quoted => pure [.found (← required line (String.ofList name)) quoted]
      | .length name quoted => do
        let value ← required line (String.ofList name)
        pure [.found (bytesOf (toString (Utf8.decodeLossy value).length)) quoted]
      | .arithmetic text quoted => do
        let parts ← inside line true text
        let expression := Fragment.together (← expand script line fuel parts)
        pure [.found (← compute line (Utf8.decodeLossy expression)) quoted]
      | .output text quoted => do
        pure [.found (withoutLastLines ((← script text).filter (· != 0))) quoted]
      | .trimmed name fromEnd longest text quoted => do
        let value ← required line (String.ofList name)
        let pattern := Fragment.pattern (← expand script line fuel (← inside line false text))
        let cut := if fromEnd then Pattern.dropEnd else Pattern.dropStart
        pure [.found (cut longest pattern value) quoted]
      | .variableOr name strict fallback text quoted => do
        let name := String.ofList name
        let value := present strict (← valueOf name)
        let parts ← inside line quoted text
        match fallback, value with
        | .replace, some _ => pure ((← expand script line fuel parts).map Fragment.splitting)
        | .replace, none => pure [.found [] quoted]
        | _, some value => pure [.found value quoted]
        | .use, none => pure ((← expand script line fuel parts).map Fragment.splitting)
        | .assign, none => do
          let value := Fragment.together (← expand script line fuel parts)
          assign name value
          pure [.found value quoted]
        | .fail, none => do
          let text := Fragment.together (← expand script line fuel parts)
          abort line (name ++ ": " ++
            if text.isEmpty then
              if strict then "parameter not set or null" else "parameter not set"
            else stringOf text)
      | .senseless => abort line "Bad substitution"
    return front ++ (← expand script line fuel rest)

/-- The most parts within parts that are expanded. -/
def deepest : Nat := 10000

/-- A word in which a leading tilde is the home directory. -/
def withHome (word : Word) : Act Word := do
  let home : Part := .text (Utf8.decodeLossy ((← valueOf "HOME").getD [126])) true
  match word with
  | [.text ['~'] false] => return [home]
  | .text ['~'] false :: .text ['/'] false :: rest => return home :: .text ['/'] false :: rest
  | _ => return word

/-- A word in which quotes around all arguments make no argument of none. -/
def withoutHollow (word : Word) : Word :=
  if word.contains (.variable ['@'] true) then word.filter (· != .text [] true) else word

/-- The arguments of words. -/
def argumentsOf (script : List Char → Act Bytes) (line : Nat) (words : List Word) :
    Act (List Bytes) := do
  let separators ← separators
  let found ← words.mapM fun word => do
    return Fragment.arguments separators
      (← expand script line deepest (← withHome (withoutHollow word)))
  let files := (← get).files
  return found.flatten.flatMap (Glob.expand files)

/-- The bytes of a word that is not split. -/
def textOf (script : List Char → Act Bytes) (line : Nat) (word : Word) : Act Bytes := do
  return Fragment.together (← expand script line deepest (← withHome word))

/-- The pattern that a word spells. -/
def patternOf (script : List Char → Act Bytes) (line : Nat) (word : Word) : Act Pattern := do
  return Fragment.pattern (← expand script line deepest word)

end Act

end CallSheet.Shell
