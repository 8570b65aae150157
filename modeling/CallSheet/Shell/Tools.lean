import CallSheet.Shell.Bytes
import CallSheet.Shell.Printf
import CallSheet.Shell.Test

/-!
# Tools

The programs that scripts use most.  A tool is a function of its arguments, its
input and the files; it writes output and complaints and gives a status.
-/

namespace CallSheet.Shell

open Text

/-- What a tool works on. -/
structure Task where
  /-- What the messages of the shell's own tools start with. -/
  label : String
  arguments : List Bytes
  input : Bytes
  /-- Whether the input is a file. -/
  readsFile : Bool
  files : Files

/-- What a tool answers. -/
structure Answer where
  output : Bytes := []
  errors : String := ""
  status : Nat := 0
  /-- Whether the input was read. -/
  readsInput : Bool := false

namespace Tool

/-! ## Writing -/

/-- Writes its arguments, in which escapes stand for bytes. -/
def echo (task : Task) : Answer :=
  let (line, arguments) := match task.arguments with
    | first :: rest => if first = bytesOf "-n" then (false, rest) else (true, first :: rest)
    | [] => (true, [])
  let text := Bytes.join [32] arguments
  let (bytes, ended) := Printf.unescape (text.length + 1) text
  { output := bytes ++ if line && !ended then [10] else [] }

/-- Writes its arguments as they are. -/
def plainEcho (task : Task) : Answer :=
  let (line, arguments) := match task.arguments with
    | first :: rest => if first = bytesOf "-n" then (false, rest) else (true, first :: rest)
    | [] => (true, [])
  { output := Bytes.join [32] arguments ++ if line then [10] else [] }

/-- Writes a format with its arguments; `complain` makes a message of what is
wrong. -/
def formatted (complain : String → String) : List Bytes → Answer
  | [] => { errors := complain "usage: printf format [arg ...]", status := 2 }
  | format :: arguments =>
    let result := Printf.run format arguments
    { output := result.output
      errors := "".intercalate (result.complaints.map complain)
      status := result.status }

/-- Writes formatted output; the format cannot be an option. -/
def printf (task : Task) : Answer :=
  let complain (text : String) : String := task.label ++ "printf: " ++ text ++ "\n"
  match task.arguments with
  | [45, 45] :: arguments => formatted complain arguments
  | (45 :: letter :: _) :: _ =>
    { errors := complain ("Illegal option -" ++ stringOf [letter]), status := 2 }
  | arguments => formatted complain arguments

/-- Writes formatted output, whatever the format is. -/
def plainPrintf (task : Task) : Answer :=
  formatted (fun text => "printf: " ++ text ++ "\n") task.arguments

/-! ## Files -/

/-- A file's name as it stands in messages. -/
def shown (name : String) : String :=
  if name.toList.any fun c => " !\"$&\x27()*;<=>?[\\]^\x60|\t\n".toList.contains c then
    "\x27" ++ name ++ "\x27"
  else name

/-- The words of the system for a fault. -/
def faultText : Fault → String
  | .system code => Fault.systemText code
  | fault => fault.message

/-- Whether an argument is an option. -/
def isOption (argument : Bytes) : Bool := argument.head? = some 45 && 1 < argument.length

/-- What a tool says of an option that it does not have. -/
def refuseOption (name : String) (option : Char) : Answer :=
  { errors := name ++ ": invalid option -- \x27" ++ String.ofList [option] ++ "\x27\nTry \x27" ++
      name ++ " --help\x27 for more information.\n"
    status := 1 }

/-- A tool that refuses options other than some; only the leading arguments are
options if `leading` says so. -/
def withOptions (name known : String) (leading : Bool) (tool : Task → Answer) (task : Task) :
    Answer :=
  let options := if leading then task.arguments.takeWhile isOption
    else task.arguments.filter isOption
  let letters := options.flatMap fun a => Utf8.decodeLossy (a.drop 1)
  match letters.find? fun c => !known.toList.contains c with
  | some option => refuseOption name option
  | none => tool task

/-- Reads the input for a single hyphen, and a file otherwise. -/
def source (task : Task) (name : Bytes) : Except Fault Bytes :=
  if name = [45] then .ok task.input else task.files.read (stringOf name)

/-- A number, filled up to a width. -/
def padLeft (width n : Nat) : String :=
  let digits := (toString n).toList
  String.ofList (List.replicate (width - digits.length) ' ' ++ digits)

/-- Text with a number before every line, from a number on; `atStart` tells
whether the text starts a line. -/
def numbered (atStart : Bool) (next : Nat) : Bytes → Bytes
  | [] => []
  | b :: rest =>
    (if atStart then bytesOf (padLeft 6 next ++ "\t") else []) ++
      b :: numbered (b == 10) (if atStart then next + 1 else next) rest

/-- Writes files one after the other. -/
def cat (task : Task) : Answer :=
  let names := task.arguments.filter fun a => !isOption a
  let names := if names.isEmpty then [[45]] else names
  let answer := names.foldl (fun answer name =>
    match source task name with
    | .ok content =>
      { answer with
        output := answer.output ++ content
        readsInput := answer.readsInput || name = [45] }
    | .error fault =>
      { answer with
        errors := answer.errors ++ "cat: " ++ shown (stringOf name) ++ ": " ++ faultText fault ++
          "\n"
        status := 1 }) {}
  if task.arguments.contains (bytesOf "-n") then
    { answer with output := numbered true 1 answer.output }
  else answer

/-! ## Counting -/

/-- The number of words of a byte sequence. -/
def wordCount (inWord : Bool) : Bytes → Nat
  | [] => 0
  | b :: rest =>
    let gap := b == 32 || (9 ≤ b && b ≤ 13)
    (if !gap && !inWord then 1 else 0) + wordCount (!gap) rest

/-- Counts of lines, words, characters and bytes, as options pick them. -/
def counts (picks : Char → Bool) (content : Bytes) : List Nat :=
  (if picks 'l' then [content.count 10] else []) ++
    (if picks 'w' then [wordCount false content] else []) ++
    (if picks 'm' then [(Utf8.decodeLossy content).length] else []) ++
    (if picks 'c' then [content.length] else [])

/-- Counts lines, words and bytes. -/
def wc (task : Task) : Answer :=
  let options := (task.arguments.filter isOption).flatMap fun a => Utf8.decodeLossy (a.drop 1)
  let names := task.arguments.filter fun a => !isOption a
  let picks (c : Char) : Bool := if options.isEmpty then c != 'm' else options.contains c
  let named := !names.isEmpty
  let readsFile := task.readsFile || (named && !names.contains [45])
  let results := (if named then names else [[45]]).map fun name => (name, source task name)
  let total := (results.map fun (_, r) => match r with
    | .ok content => content
    | .error _ => []).flatten
  let columns := (counts picks []).length
  let width :=
    if columns ≤ 1 && results.length ≤ 1 then 1
    else if readsFile then (toString total.length).length
    else 7
  let row (values : List Nat) (name : String) : String :=
    " ".intercalate (values.map (padLeft width)) ++ name ++ "\n"
  let lines := results.map fun (name, r) => match r with
    | .ok content => row (counts picks content) (if named then " " ++ stringOf name else "")
    | .error _ => ""
  let faults := results.filterMap fun (name, r) => match r with
    | .ok _ => none
    | .error fault => some ("wc: " ++ shown (stringOf name) ++ ": " ++ faultText fault ++ "\n")
  let sums := counts picks [] |>.zipIdx.map fun (_, i) =>
    (results.map fun (_, r) => match r with
      | .ok content => (counts picks content)[i]?.getD 0
      | .error _ => 0).foldl (· + ·) 0
  { output := bytesOf ("".intercalate lines ++ if 1 < results.length then row sums " total" else "")
    errors := "".intercalate faults
    status := if faults.isEmpty then 0 else 1
    readsInput := !named || names.contains [45] }

/-! ## Replacing bytes -/

/-- The bytes of a set as it is written, and for each whether it was escaped. -/
def setItems : Nat → Bytes → List (UInt8 × Bool)
  | 0, _ => []
  | _, [] => []
  | fuel + 1, 92 :: rest =>
    match rest with
    | [] => [(92, true)]
    | c :: after =>
      match Printf.escapeAt false rest with
      | ([92], _) => (c, true) :: setItems fuel after
      | (front, after) => front.map (·, true) ++ setItems fuel after
  | fuel + 1, b :: rest => (b, false) :: setItems fuel rest

/-- The bytes of items, in which a hyphen between two stands for those between. -/
def setRanges : Nat → List (UInt8 × Bool) → List UInt8
  | 0, _ => []
  | fuel + 1, (a, _) :: (45, false) :: (b, _) :: rest =>
    Bytes.range a b ++ setRanges fuel rest
  | fuel + 1, (a, _) :: rest => a :: setRanges fuel rest
  | _, [] => []

/-- The bytes of a set. -/
def setOf : Nat → Bytes → List UInt8
  | 0, _ => []
  | fuel + 1, text =>
    let plain (text : Bytes) : Bytes :=
      setRanges (text.length + 1) (setItems (text.length + 1) text)
    match (List.range text.length).find? fun i => (text.drop i).take 2 = [91, 58] with
    | none => plain text
    | some i =>
      let inner := (text.drop (i + 2)).takeWhile (· != 58)
      let after := text.drop (i + 2 + inner.length)
      if after.take 2 = [58, 93] then
        plain (text.take i) ++ Bytes.ofClass (stringOf inner) ++ setOf fuel (after.drop 2)
      else plain text

/-- Leaves out a byte of a set that follows itself. -/
def squeeze (set : List UInt8) : Option UInt8 → Bytes → Bytes
  | _, [] => []
  | last, b :: rest =>
    if last = some b ∧ set.contains b then squeeze set last rest
    else b :: squeeze set (some b) rest

/-- Replaces, leaves out or squeezes bytes. -/
def tr (task : Task) : Answer :=
  let options := ((task.arguments.takeWhile isOption).flatMap fun a => Utf8.decodeLossy (a.drop 1))
  let sets := task.arguments.dropWhile isOption
  let complement := options.contains 'c' || options.contains 'C'
  let read (text : Bytes) : List UInt8 := setOf (text.length + 1) text
  let first := sets.head?.map fun text =>
    if complement then
      Bytes.except (read text)
    else read text
  let second := (sets.drop 1).head?.map read
  let missing (what : String) : Answer :=
    { errors := "tr: missing operand" ++ what ++ "\nTry \x27tr --help\x27 for more information.\n"
      status := 1 }
  match first, second with
  | none, _ => missing ""
  | some first, none =>
    if options.contains 'd' then
      { output := task.input.filter fun b => !first.contains b, readsInput := true }
    else if options.contains 's' then
      { output := squeeze first none task.input, readsInput := true }
    else missing (" after " ++ "\x27" ++ stringOf (sets.headD []) ++ "\x27" ++
      "\nTwo strings must be given when translating.")
  | some first, some second =>
    if options.contains 'd' then
      let kept := task.input.filter fun b => !first.contains b
      { output := if options.contains 's' then squeeze second none kept else kept
        readsInput := true }
    else
      let replace (b : UInt8) : UInt8 :=
        match first.reverse.idxOf? b with
        | none => b
        | some i => (second[first.length - 1 - i]?).getD (second.getLast?.getD b)
      let replaced := task.input.map replace
      { output := if options.contains 's' then squeeze second none replaced else replaced
        readsInput := true }

/-! ## Testing -/

/-- The answer to a test; `name` is what the tool is called. -/
def answerTest (task : Task) (name : String) (arguments : List Bytes) : Answer :=
  match Test.holds task.files (arguments.map stringOf) with
  | .ok true => {}
  | .ok false => { status := 1 }
  | .error message =>
    { errors := task.label ++ name ++ ": " ++ message ++ "\n", status := 2 }

/-- Tests what its arguments say. -/
def test (task : Task) : Answer := answerTest task "test" task.arguments

/-- Tests what its arguments before a closing bracket say. -/
def bracket (task : Task) : Answer :=
  if task.arguments.getLast? = some (bytesOf "]") then
    answerTest task "[" task.arguments.dropLast
  else { errors := task.label ++ "[: missing ]\n", status := 2 }

/-! ## Finding tools -/

/-- The tool of a name. -/
def ofName? : String → Option (Task → Answer)
  | "echo" => some echo
  | "printf" => some printf
  | "cat" => some (withOptions "cat" "AbeEnstTuv" false cat)
  | "wc" => some (withOptions "wc" "clmwL" false wc)
  | "tr" => some (withOptions "tr" "cCdst" true tr)
  | "test" => some test
  | "[" => some bracket
  | "true" | ":" | "sleep" | "wait" | "trap" | "umask" => some fun _ => {}
  | "false" => some fun _ => { status := 1 }
  | _ => none

end Tool

end CallSheet.Shell
