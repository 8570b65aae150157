import CallSheet.Action.Basic
import CallSheet.Http.Fields

/-!
# Requests as actions

The kind `http` sends one request and writes the status, the headers and the
body of the response to the result directory.  Everything that the context says
about the request is read, and its files are opened, before it is sent; the
first thing that is wrong is reported.  The body of the response is read last,
when the status and the headers are written.
-/

namespace CallSheet.Action.Request

open Text

/-! ## Fields -/

/-- The field of the method. -/
def methodField : String := "method"

/-- The field of the address. -/
def urlField : String := "url"

/-- The field of the headers, one a line. -/
def headersField : String := "headers"

/-- The field of a text to send. -/
def bodyField : String := "body"

/-- The field of a file to send. -/
def bodyFileField : String := "bodyFile"

/-- The field of the parts of a form, one a line. -/
def formField : String := "form"

/-- The fields that the kind reads. -/
def fields : List String :=
  [methodField, urlField, headersField, bodyField, bodyFileField, formField]

/-- The method that is used when none is given. -/
def defaultMethod : String := "GET"

/-! ## Before sending -/

/-- A request whose address is not read yet. -/
structure Draft where
  method : String
  address : String
  headers : List Http.Header
  body : Http.Body

/-- The method of a context. -/
def readMethod (context : Context) : Except ActionError String :=
  let method := (context.get? methodField).getD defaultMethod
  if Http.isToken method.toList then .ok method else .error (.invalidMethod method)

/-- The headers of a context. -/
def readHeaders (context : Context) : Except ActionError (List Http.Header) :=
  match Http.readHeaders ((context.get? headersField).getD "") with
  | .ok headers => .ok headers
  | .error line => .error (.invalidLine headersField line)

/-- The body of a context: the first of `body`, `bodyFile` and `form` that has a
value. -/
def readBody (context : Context) (files : Files) : Except ActionError Http.Body :=
  match context.get? bodyField, context.get? bodyFileField, context.get? formField with
  | some text, _, _ => .ok (.text text)
  | none, some path, _ =>
    match Http.openContent files path with
    | .ok content => .ok (.file path content)
    | .error fault => .error (.file path fault)
  | none, none, some form =>
    match Http.readForm files form with
    | .ok parts => .ok (.form parts)
    | .error (.line line) => .error (.invalidLine formField line)
    | .error (.file path fault) => .error (.file path fault)
  | none, none, none => .ok .nothing

/-- The headers that go with a body; a form sets the type of its content itself. -/
def headersWith (headers : List Http.Header) : Http.Body → List Http.Header
  | .form _ => Http.withoutContentType headers
  | _ => headers

/-- The request that a context describes. -/
def draft (context : Context) (files : Files) : Except ActionError Draft := do
  let address ← required context urlField
  let method ← readMethod context
  let headers ← readHeaders context
  let body ← readBody context files
  return ⟨method, address, headersWith headers body, body⟩

/-! ## After sending -/

/-- The result files of a response that are written before its body is read. -/
def headFiles (response : Http.Response) : List (String × List UInt8) :=
  [("status", Utf8.encode (Http.statusText response.status).toList),
    ("headers", Utf8.encode (Http.headerLines response.headers).toList)]

/-- Writes result files, up to the first that cannot be written. -/
def writeAll (context : Context) (files : Files) :
    List (String × List UInt8) → Except ActionError Unit × Files
  | [] => (.ok (), files)
  | (name, content) :: rest =>
    match writeResult context name content files with
    | (.ok (), files) => writeAll context files rest
    | failed => failed

/-- Writes the result files of a response; a body that breaks off leaves the
others. -/
def writeResponse (context : Context) (response : Http.Response) (files : Files) :
    Except ActionError Unit × Files :=
  match writeAll context files (headFiles response) with
  | (.ok (), files) =>
    match response.body with
    | .ok body => writeResult context bodyFile body files
    | .error fault => (.error (.http (.body fault)), files)
  | failed => failed

/-- Sends the request that a context describes. -/
def run (services : Services ρ) (context : Context) (world : World ρ) :
    Except ActionError Unit × World ρ :=
  match draft context world.files with
  | .error error => (.error error, world)
  | .ok ⟨method, address, headers, body⟩ =>
    match Http.send services.transport method address headers body world with
    | (.error error, world) => (.error (.http error), world)
    | (.ok response, world) => world.withFiles (writeResponse context response)

end CallSheet.Action.Request
