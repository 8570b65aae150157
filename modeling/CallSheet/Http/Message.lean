import CallSheet.Fault
import CallSheet.Text.Utf8
import CallSheet.Url.Parse

/-!
# Requests and responses

What is sent to a web server and what comes back.  A `Transport` sends a
request; how it does so is left open, and it may change the state it works on.
-/

namespace CallSheet.Http

open Text

/-! ## Requests -/

/-- The content of a file that was opened to be sent. -/
abbrev Content := Except Fault (List UInt8)

/-- A part of a form. -/
inductive Part where
  | text (name value : String)
  | file (path : String) (content : Content)

/-- What a request carries. -/
inductive Body where
  | nothing
  | text (text : String)
  | file (path : String) (content : Content)
  | form (parts : List Part)

/-- A declared header: its name in lower case, and its value. -/
structure Header where
  name : String
  value : String
  deriving DecidableEq, Repr

/-- A request. -/
structure Request where
  method : String
  url : Url
  /-- The declared headers, in order. -/
  headers : List Header
  body : Body

/-! ## Responses -/

/-- What a server answers. -/
structure Response where
  status : Nat
  /-- The headers, in order; values are bytes. -/
  headers : List (String × List UInt8)
  /-- The body, or why it broke off; status and headers are there before it. -/
  body : Except Fault (List UInt8)

/-- The words for the numbers of a status. -/
def reasons : List (Nat × String) :=
  [(100, "Continue"), (101, "Switching Protocols"), (102, "Processing"), (103, "Early Hints"),
    (200, "OK"), (201, "Created"), (202, "Accepted"), (203, "Non Authoritative Information"),
    (204, "No Content"), (205, "Reset Content"), (206, "Partial Content"), (207, "Multi-Status"),
    (208, "Already Reported"), (226, "IM Used"), (300, "Multiple Choices"),
    (301, "Moved Permanently"), (302, "Found"), (303, "See Other"), (304, "Not Modified"),
    (305, "Use Proxy"), (307, "Temporary Redirect"), (308, "Permanent Redirect"),
    (400, "Bad Request"), (401, "Unauthorized"), (402, "Payment Required"), (403, "Forbidden"),
    (404, "Not Found"), (405, "Method Not Allowed"), (406, "Not Acceptable"),
    (407, "Proxy Authentication Required"), (408, "Request Timeout"), (409, "Conflict"),
    (410, "Gone"), (411, "Length Required"), (412, "Precondition Failed"),
    (413, "Payload Too Large"), (414, "URI Too Long"), (415, "Unsupported Media Type"),
    (416, "Range Not Satisfiable"), (417, "Expectation Failed"), (418, "I'm a teapot"),
    (421, "Misdirected Request"), (422, "Unprocessable Entity"), (423, "Locked"),
    (424, "Failed Dependency"), (425, "Too Early"), (426, "Upgrade Required"),
    (428, "Precondition Required"), (429, "Too Many Requests"),
    (431, "Request Header Fields Too Large"), (451, "Unavailable For Legal Reasons"),
    (500, "Internal Server Error"), (501, "Not Implemented"), (502, "Bad Gateway"),
    (503, "Service Unavailable"), (504, "Gateway Timeout"), (505, "HTTP Version Not Supported"),
    (506, "Variant Also Negotiates"), (507, "Insufficient Storage"), (508, "Loop Detected"),
    (510, "Not Extended"), (511, "Network Authentication Required")]

/-- A status with its words. -/
def statusText (status : Nat) : String :=
  toString status ++ " " ++ (reasons.lookup status).getD "<unknown status code>"

/-- Cuts the blanks off both ends of a header's value. -/
def stripped (value : List UInt8) : List UInt8 :=
  let isBlank (b : UInt8) : Bool := b == 0x20 || b == 0x09
  ((value.dropWhile isBlank).reverse.dropWhile isBlank).reverse

/-- A name in lower case. -/
def lowerName (name : String) : String := String.ofList (name.toList.map Char.toLower)

/-- The headers, one a line: the names in the order in which they come up, and
all values of a name together. -/
def headerLines (headers : List (String × List UInt8)) : String :=
  let headers := headers.map fun (name, value) => (lowerName name, value)
  let names := (headers.map Prod.fst).eraseDups
  let lines := names.flatMap fun name =>
    (headers.filter (·.1 == name)).map fun (_, value) =>
      name ++ ": " ++ String.ofList (Utf8.decodeLossy (stripped value)) ++ "\n"
  "".intercalate lines

/-! ## Sending -/

/-- Why a request could not be sent, or was not answered to the end. -/
inductive SendError where
  /-- The address is no web address. -/
  | address (fault : Url.Fault)
  /-- The address is not one that requests are sent to. -/
  | scheme (url : String)
  /-- The server could not be reached. -/
  | connect (url : String) (fault : Fault)
  /-- The body of the response broke off. -/
  | body (fault : Fault)
  deriving DecidableEq, Repr

/-- What is wrong, and then what caused it. -/
def SendError.causes : SendError → List String
  | .address fault => ["builder error", fault.message]
  | .scheme url => ["builder error for url (" ++ url ++ ")", "URL scheme is not allowed"]
  | .connect url fault =>
    ["error sending request for url (" ++ url ++ ")", "client error (Connect)",
      "tcp connect error", fault.message]
  | .body fault =>
    ["error decoding response body", "error reading a body from connection", fault.message]

/-- Sends a request in a state. -/
abbrev Transport (σ : Type) := Request → σ → Except Fault Response × σ

/-- The transport of a machine without a network. -/
def Transport.offline : Transport σ := fun _ state => (.error .unreachable, state)

/-- Reads the address, which comes last before sending, and sends the request. -/
def send (transport : Transport σ) (method address : String) (headers : List Header) (body : Body)
    (state : σ) : Except SendError Response × σ :=
  match Url.parse address with
  | .error fault => (.error (.address fault), state)
  | .ok url =>
    if url.isWeb then
      match transport ⟨method, url, headers, body⟩ state with
      | (.ok response, state) => (.ok response, state)
      | (.error fault, state) => (.error (.connect url.text fault), state)
    else (.error (.scheme url.text), state)

end CallSheet.Http
