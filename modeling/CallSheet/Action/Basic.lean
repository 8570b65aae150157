import CallSheet.Context.Template
import CallSheet.Files.Operations
import CallSheet.Http.Message
import CallSheet.Resolve
import CallSheet.World

/-!
# Actions

What the kinds of actions have in common: their errors, the fields that they
cannot do without, and the files in the result directory that they write.
-/

namespace CallSheet

open Text

/-- Why an action failed. -/
inductive ActionError where
  /-- A field that the action needs has no value. -/
  | missingField (field : String)
  /-- There is no result directory to write to. -/
  | missingResultDir
  /-- A line of a field does not follow the field's notation. -/
  | invalidLine (field line : String)
  | invalidMethod (method : String)
  /-- A request could not be sent, or was not answered to the end. -/
  | http (error : Http.SendError)
  /-- A file could not be used. -/
  | file (path : String) (fault : Fault)
  | command (error : CommandError)
  /-- The kind of action has no command that could be shown. -/
  | compileUnsupported (kind : String)
  deriving DecidableEq, Repr

/-- What is wrong, and then what caused it. -/
def ActionError.causes : ActionError → List String
  | .missingField field => ["Missing field " ++ quoted field]
  | .missingResultDir => ["Result directory is not set"]
  | .invalidLine field line => ["Invalid " ++ field ++ " line " ++ quoted line]
  | .invalidMethod method => ["Invalid http method " ++ quoted method]
  | .http error => "Http request failed" :: error.causes
  | .file path fault => ["Unable to access " ++ path, fault.message]
  | .command error => "Command failed" :: error.causes
  | .compileUnsupported kind => ["Compile is not supported for " ++ kind]

namespace Action

/-- The name of the result file that holds what an action brought about. -/
def bodyFile : String := "body"

/-- The value of a field that an action needs. -/
def required (context : Context) (field : String) : Except ActionError String :=
  match context.get? field with
  | some value => .ok value
  | none => .error (.missingField field)

/-- Writes a file to the result directory. -/
def writeResult (context : Context) (name : String) (content : List UInt8) (files : Files) :
    Except ActionError Unit × Files :=
  match context.resultDir? with
  | none => (.error .missingResultDir, files)
  | some dir =>
    let path := Path.joined dir name
    match files.write path content with
    | (.ok (), files) => (.ok (), files)
    | (.error fault, files) => (.error (.file path fault), files)

/-- Runs a command and writes its output to the result directory. -/
def runCommand (services : Services ρ) (context : Context) (command : String) (world : World ρ) :
    Except ActionError Unit × World ρ :=
  match services.runner command world with
  | (.ok output, world) =>
    world.withFiles (writeResult context bodyFile (Utf8.encode output.toList))
  | (.error error, world) => (.error (.command error), world)

end Action

end CallSheet
