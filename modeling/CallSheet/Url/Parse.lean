import CallSheet.Url.Host
import CallSheet.Text.Percent

/-!
# Web addresses

The reading of a web address brings it into its normal form: the scheme and
the host in lower case, no port where it goes without saying, a path without
points, and a percent sign and two digits for every byte that may not stand
there.  An address of another scheme is kept with little change.
-/

namespace CallSheet

open Text

/-- A web address in its normal form. -/
structure Url where
  scheme : List Char
  /-- The host and what follows it, up to the mark of a fragment. -/
  target : List Char
  fragment : Option (List Char)
  deriving DecidableEq, Repr

namespace Url

/-! ## Characters that are encoded -/

/-- Encodes the characters that a test picks, and all outside ASCII. -/
def encode (picks : Char → Bool) (text : List Char) : List Char :=
  text.flatMap fun c =>
    if c.toNat < 0x20 || 0x7F ≤ c.toNat || picks c then
      (Utf8.encodeChar c).flatMap Percent.escape
    else [c]

/-- Characters that are encoded in a fragment. -/
def inFragment (c : Char) : Bool := " \"<>\x60".toList.contains c

/-- Characters that are encoded in a path. -/
def inPath (c : Char) : Bool := inFragment c || "#?\x7b\x7d".toList.contains c

/-- Characters that are encoded in a query. -/
def inQuery (c : Char) : Bool := " \"#<>\x27".toList.contains c

/-! ## Paths -/

/-- Points, written out or not. -/
def pointCount? (segment : List Char) : Option Nat :=
  let text := String.ofList (segment.map Char.toLower)
  if text == "." || text == "%2e" then some 1
  else if text == ".." || text == ".%2e" || text == "%2e." || text == "%2e%2e" then some 2
  else none

/-- The segments of a path without points, after those in `done`. -/
def straighten (done : List (List Char)) : List (List Char) → List (List Char)
  | [] => done
  | segment :: rest =>
    match pointCount? segment with
    | none => straighten (done ++ [encode inPath segment]) rest
    | some count =>
      let done := if count = 2 then done.dropLast else done
      straighten (if rest.isEmpty then done ++ [[]] else done) rest

/-- The normal form of a path, which starts with a slash. -/
def path (text : List Char) : List Char :=
  let slashes := text.map fun c => if c = '\\' then '/' else c
  let segments := match slashes with
    | '/' :: rest => splitOn '/' rest
    | _ => splitOn '/' slashes
  '/' :: join '/' (straighten [] segments)

/-! ## The whole -/

/-- The port that goes without saying. -/
def defaultPort? (scheme : List Char) : Option Nat :=
  match String.ofList scheme with
  | "http" | "ws" => some 80
  | "https" | "wss" => some 443
  | "ftp" => some 21
  | _ => none

/-- Cuts a text at the first character that a test picks; the character goes to
the second part. -/
def cutBefore (picks : Char → Bool) (text : List Char) : List Char × List Char :=
  (text.takeWhile fun c => !picks c, text.dropWhile fun c => !picks c)

/-- What follows the last occurrence of a character, or all. -/
def afterLast (mark : Char) (text : List Char) : List Char :=
  (text.reverse.takeWhile (· != mark)).reverse

/-- The host and the port of an authority. -/
def splitPort (text : List Char) : List Char × Option (List Char) :=
  let bracketed := text.head? == some '['
  let (name, rest) :=
    if bracketed then
      match splitOnce ']' text with
      | some (inner, rest) => (inner ++ [']'], rest)
      | none => (text, [])
    else cutBefore (· == ':') text
  match rest with
  | ':' :: port => (name, some port)
  | [] => (name, none)
  | other => (name ++ other, none)

/-- The written form of a port after a host. -/
def portText (scheme : List Char) : Option (List Char) → Except Fault (List Char)
  | none | some [] => .ok []
  | some digits =>
    match digits? 10 digits with
    | some port =>
      if 65535 < port then .error .badPort
      else if defaultPort? scheme = some port then .ok []
      else .ok (':' :: Nat.toDigits 10 port)
    | none => .error .badPort

/-- The normal form of an address of a scheme with hosts. -/
def hosted (scheme rest : List Char) : Except Fault Url :=
  let rest := rest.dropWhile fun c => c == '/' || c == '\\'
  let (authority, rest) := cutBefore (fun c => "/\\?#".toList.contains c) rest
  let (before, fragment) := cutBefore (· == '#') rest
  let (way, query) := cutBefore (· == '?') before
  let (name, port) := splitPort (afterLast '@' authority)
  match host name with
  | .error fault => .error fault
  | .ok name =>
    match portText scheme port with
    | .error fault => .error fault
    | .ok port =>
      .ok ⟨scheme,
        '/' :: '/' :: (name ++ port ++ path way ++ match query with
          | [] => []
          | mark :: query => mark :: encode inQuery query),
        match fragment with
          | [] => none
          | _ :: fragment => some (encode inFragment fragment)⟩

/-- Cuts the blanks and controls off both ends, and takes the ends of lines and
the tabs out. -/
def cleaned (text : List Char) : List Char :=
  let isWide (c : Char) : Bool := c.toNat ≤ 0x20
  let inner := ((text.dropWhile isWide).reverse.dropWhile isWide).reverse
  inner.filter fun c => c != '\t' && c != '\n' && c != '\r'

/-- Whether a text can be a scheme. -/
def isScheme : List Char → Bool
  | [] => false
  | c :: rest => c.isAlpha && rest.all fun c => c.isAlphanum || "+-.".toList.contains c

/-- Reads a web address. -/
def parse (text : String) : Except Fault Url :=
  match splitOnce ':' (cleaned text.toList) with
  | none => .error .noScheme
  | some (scheme, rest) =>
    if isScheme scheme then
      let scheme := scheme.map Char.toLower
      if (defaultPort? scheme).isSome then hosted scheme rest
      else
        let (before, fragment) := cutBefore (· == '#') rest
        .ok ⟨scheme, encode (fun _ => false) before, match fragment with
          | [] => none
          | _ :: fragment => some (encode inFragment fragment)⟩
    else .error .noScheme

/-- Whether an address is one that requests are sent to. -/
def isWeb (url : Url) : Bool := url.scheme == "http".toList || url.scheme == "https".toList

/-- An address as it is written. -/
def text (url : Url) : String :=
  String.ofList (url.scheme ++ ':' :: (url.target ++ match url.fragment with
    | none => []
    | some fragment => '#' :: fragment))

end Url

end CallSheet
