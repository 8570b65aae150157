import CallSheet.Shell.Arithmetic
import CallSheet.Text.Utf8

/-!
# Formatted output

The `printf` of scripts.  The format is used again as long as arguments are
left, and missing arguments count as empty.  A number that is none counts as
far as it can be read, and is complained about.
-/

namespace CallSheet.Shell.Printf

open Text

/-- What is left of the arguments, what is written, and what is complained
about. -/
structure State where
  arguments : List (List UInt8)
  output : List UInt8 := []
  complaints : List String := []
  /-- Whether an argument was used. -/
  used : Bool := false
  /-- Whether the output ends here. -/
  ended : Bool := false

/-- Whether a byte is an octal digit. -/
def isOctal (b : UInt8) : Bool := 48 ≤ b && b ≤ 55

/-- The value of octal digits. -/
def octal (digits : List UInt8) : UInt8 :=
  (digits.foldl (fun (n : Nat) (d : UInt8) => n * 8 + (d.toNat - 48)) 0).toUInt8

/-- The byte that a letter stands for after a backslash. -/
def escape? (b : UInt8) : Option UInt8 :=
  [(97, 7), (98, 8), (101, 27), (102, 12), (110, 10), (114, 13), (116, 9), (118, 11),
    (92, 92)].lookup b

/-- What a backslash and the bytes after it stand for, and the bytes after
that; `zero` tells whether an octal number can start with one more zero. -/
def escapeAt (zero : Bool) (rest : List UInt8) : List UInt8 × List UInt8 :=
  match rest with
  | [] => ([92], [])
  | c :: after =>
    if zero && c == 48 then
      let digits := (after.take 3).takeWhile isOctal
      ([octal digits], after.drop digits.length)
    else if isOctal c then
      let digits := (rest.take 3).takeWhile isOctal
      ([octal digits], rest.drop digits.length)
    else
      match escape? c with
      | some byte => ([byte], after)
      | none => ([92], rest)

/-- A text in which escapes stand for bytes.  The second part tells whether the
text ends the output. -/
def unescape : Nat → List UInt8 → List UInt8 × Bool
  | 0, _ => ([], false)
  | _, [] => ([], false)
  | fuel + 1, b :: rest =>
    let go (front : List UInt8) (rest : List UInt8) : List UInt8 × Bool :=
      let (more, ended) := unescape fuel rest
      (front ++ more, ended)
    if b != 92 then go [b] rest
    else if rest.head? == some 99 then ([], true)
    else
      let (front, rest) := escapeAt true rest
      go front rest

/-- The width, the places and the marks of a conversion. -/
structure Layout where
  left : Bool := false
  plus : Bool := false
  space : Bool := false
  zero : Bool := false
  other : Bool := false
  width : Nat := 0
  places : Option Nat := none

/-- Fills a text up to the width. -/
def pad (layout : Layout) (text : List UInt8) : List UInt8 :=
  let gap := List.replicate (layout.width - text.length) (32 : UInt8)
  if layout.left then text ++ gap else gap ++ text

/-- A number as text. -/
def digitsOf (base : Nat) (n : Nat) : List UInt8 := Utf8.encode (Nat.toDigits base n)

/-- A number with a sign or a mark before it, filled up to the width. -/
def padNumber (layout : Layout) (front digits : List UInt8) : List UInt8 :=
  let digits := match layout.places with
    | some places =>
      if places = 0 ∧ digits = [48] then []
      else List.replicate (places - digits.length) 48 ++ digits
    | none =>
      if layout.zero && !layout.left then
        List.replicate (layout.width - front.length - digits.length) 48 ++ digits
      else digits
  pad layout (front ++ digits)

/-- The next argument, or an empty one. -/
def State.next (state : State) : List UInt8 × State :=
  match state.arguments with
  | [] => ([], { state with used := true })
  | a :: rest => (a, { state with arguments := rest, used := true })

/-- The number that an argument stands for, and a complaint if it is none. -/
def numberOf (argument : List UInt8) : Int × Option String :=
  let text := Utf8.decodeLossy argument
  match text with
  | [] => (0, none)
  | '\x27' :: c :: _ => (c.toNat, none)
  | '"' :: c :: _ => (c.toNat, none)
  | _ =>
    let trimmed := text.dropWhile fun c => c == ' ' || c == '\t' || c == '\n'
    let (negative, rest) := match trimmed with
      | '-' :: rest => (true, rest)
      | '+' :: rest => (false, rest)
      | rest => (false, rest)
    let isDigit (base : Nat) (c : Char) : Bool := (digitValue? c).any (· < base)
    let (base, rest) : Nat × List Char := match rest with
      | '0' :: x :: d :: more =>
        if (x = 'x' ∨ x = 'X') && isDigit 16 d then (16, d :: more) else (8, rest)
      | '0' :: _ => (8, rest)
      | _ => (10, rest)
    let digits := rest.takeWhile (isDigit base)
    let after := rest.dropWhile (isDigit base)
    let complain (words : String) : Option String := some (String.ofList text ++ ": " ++ words)
    match digits? base digits with
    | none => (0, complain "expected numeric value")
    | some n =>
      let value : Int := if negative then -n else n
      let limit := Int.pow 2 63
      if value < -limit then (-limit, complain "Numerical result out of range")
      else if limit ≤ value then (limit - 1, complain "Numerical result out of range")
      else (value, if after.isEmpty then none else complain "not completely converted")

/-- The next argument as a number. -/
def State.nextNumber (state : State) : Int × State :=
  let (argument, state) := state.next
  let (value, complaint) := numberOf argument
  (value, { state with complaints := state.complaints ++ complaint.toList })

/-- Writes bytes. -/
def State.write (state : State) (bytes : List UInt8) : State :=
  { state with output := state.output ++ bytes }

/-- The front of a number: its sign or a mark. -/
def signOf (layout : Layout) (n : Int) : List UInt8 :=
  if n < 0 then [45] else if layout.plus then [43] else if layout.space then [32] else []

/-- One conversion. -/
def convert (layout : Layout) (letter : Char) (state : State) : Except String State :=
  let unsigned (base : Nat) (front : List UInt8) (upper : Bool) : State :=
    let (n, state) := state.nextNumber
    let digits := digitsOf base (n % Int.pow 2 64).toNat
    let digits := if upper then digits.map fun b => if 97 ≤ b && b ≤ 102 then b - 32 else b
      else digits
    state.write (padNumber layout (if layout.other ∧ n ≠ 0 then front else []) digits)
  match letter with
  | 's' =>
    let (argument, state) := state.next
    .ok (state.write (pad layout (match layout.places with
      | some places => argument.take places
      | none => argument)))
  | 'b' =>
    let (argument, state) := state.next
    let (bytes, ended) := unescape (argument.length + 1) argument
    .ok { state.write (pad layout (match layout.places with
      | some places => bytes.take places
      | none => bytes)) with ended := ended }
  | 'c' =>
    let (argument, state) := state.next
    .ok (state.write (pad layout (match argument with
      | [] => [0]
      | b :: _ => [b])))
  | 'd' | 'i' =>
    let (n, state) := state.nextNumber
    .ok (state.write (padNumber layout (signOf layout n) (digitsOf 10 n.natAbs)))
  | 'u' => .ok (unsigned 10 [] false)
  | 'o' => .ok (unsigned 8 [48] false)
  | 'x' => .ok (unsigned 16 [48, 120] false)
  | 'X' => .ok (unsigned 16 [48, 88] true)
  | other => .error ("%" ++ String.ofList [other] ++ ": invalid directive")

/-- The marks of a conversion. -/
def readMarks (layout : Layout) : List UInt8 → Layout × List UInt8
  | 45 :: rest => readMarks { layout with left := true } rest
  | 43 :: rest => readMarks { layout with plus := true } rest
  | 32 :: rest => readMarks { layout with space := true } rest
  | 48 :: rest => readMarks { layout with zero := true } rest
  | 35 :: rest => readMarks { layout with other := true } rest
  | rest => (layout, rest)

/-- A number in a format, or the next argument for a star. -/
def readSize (state : State) (format : List UInt8) : Option Int × State × List UInt8 :=
  match format with
  | 42 :: rest =>
    let (n, state) := state.nextNumber
    (some n, state, rest)
  | _ =>
    let isDigit (b : UInt8) : Bool := 48 ≤ b && b ≤ 57
    let digits := format.takeWhile isDigit
    let size (n : Nat) (d : UInt8) : Nat := n * 10 + (d.toNat - 48)
    let value : Option Int :=
      if digits.isEmpty then none else some (Int.ofNat (digits.foldl size 0))
    (value, state, format.dropWhile isDigit)

/-- Goes through the format once. -/
def once : Nat → List UInt8 → State → Except (String × State) State
  | 0, _, state => .ok state
  | _, [], state => .ok state
  | fuel + 1, b :: rest, state =>
    if state.ended then .ok state
    else if b == 92 then
      let (bytes, rest) := escapeAt false rest
      once fuel rest (state.write bytes)
    else if b != 37 then once fuel rest (state.write [b])
    else
      match rest with
      | 37 :: rest => once fuel rest (state.write [37])
      | _ =>
        let (layout, rest) := readMarks {} rest
        let (width, state, rest) := readSize state rest
        let layout := match width with
          | some w => { layout with width := w.natAbs, left := layout.left || w < 0 }
          | none => layout
        let (layout, state, rest) := match rest with
          | 46 :: rest =>
            let (places, state, rest) := readSize state rest
            ({ layout with places := some ((places.getD 0).toNat) }, state, rest)
          | _ => (layout, state, rest)
        match rest with
        | [] => .error ("missing format character", state)
        | letter :: rest =>
          match convert layout (Char.ofNat letter.toNat) state with
          | .ok state => once fuel rest state
          | .error message => .error (message, state)

/-- Goes through the format as long as arguments are left. -/
def again : Nat → List UInt8 → State → Except (String × State) State
  | 0, _, state => .ok state
  | fuel + 1, format, state =>
    match once (format.length + 1) format { state with used := false } with
    | .error fault => .error fault
    | .ok state =>
      if state.ended || state.arguments.isEmpty || !state.used then .ok state
      else again fuel format state

/-- What formatting comes to. -/
structure Result where
  output : List UInt8
  complaints : List String
  status : Nat

/-- The output for a format and its arguments, and the complaints. -/
def run (format : List UInt8) (arguments : List (List UInt8)) : Result :=
  match again (arguments.length + 1) format { arguments := arguments } with
  | .ok state => ⟨state.output, state.complaints, if state.complaints.isEmpty then 0 else 1⟩
  | .error (message, state) => ⟨state.output, state.complaints ++ [message], 2⟩

end CallSheet.Shell.Printf
