import CallSheet.Action.Custom
import CallSheet.Action.Request

/-!
# Kinds of actions

Two kinds are always there: `http` sends a request and `sh` runs a script.
Others come from the configuration directory.  A document's kind is looked up in
a list of kinds, and the first of its name counts, so that the kinds that are
always there cannot be replaced.
-/

namespace CallSheet.Action

/-- A kind of action. -/
inductive Kind where
  | http
  | sh
  | custom (kind : Custom)
  deriving DecidableEq, Repr

namespace Kind

/-- The name of a kind. -/
def name : Kind → String
  | .http => "http"
  | .sh => "sh"
  | .custom kind => kind.name

/-- The field that holds a script. -/
def scriptField : String := "script"

/-- The fields that a kind reads. -/
def fields : Kind → List String
  | .http => Request.fields
  | .sh => [scriptField]
  | .custom kind => kind.fields

/-- The first document of the kind `http`. -/
def httpSkeleton : String :=
  "# New http api

## vars
### host
```
localhost:8080
```

## type[http]
### method[list]
- GET
- POST
- PUT
- PATCH
- DELETE
### url
```
http://\x7b\x7bhost\x7d\x7d/
```
### headers
```
Accept: application/json
```

## after
### status[script]
```sh
cat \"\x7b\x7bRESULTDIR\x7d\x7d/status\"
```
"

/-- The first document of the kind `sh`. -/
def shSkeleton : String :=
  "# New sh api

## vars
### name
```
world
```

## type[sh]
### script
```sh
echo \"hello \x7b\x7bname\x7d\x7d\"
```
"

/-- A first document of a kind. -/
def skeleton : Kind → String
  | .http => httpSkeleton
  | .sh => shSkeleton
  | .custom kind => kind.skeleton

/-- The command that an action of a kind runs. -/
def compile (kind : Kind) (context : Context) : Except ActionError String :=
  match kind with
  | .custom kind => .ok (kind.compile context)
  | kind => .error (.compileUnsupported kind.name)

/-- Runs an action of a kind. -/
def run (kind : Kind) (services : Services ρ) (context : Context) (world : World ρ) :
    Except ActionError Unit × World ρ :=
  match kind with
  | .http => Request.run services context world
  | .sh =>
    match required context scriptField with
    | .ok script => runCommand services context script world
    | .error error => (.error error, world)
  | .custom kind => runCommand services context (kind.compile context) world

/-! ## Looking up -/

/-- The kinds that are always there. -/
def builtin : List Kind := [.http, .sh]

/-- The kinds that are there with a configuration directory. -/
def discover (files : Files) (configDir : String) : Except ActionError (List Kind) :=
  (Custom.discover files configDir).map fun kinds => builtin ++ kinds.map .custom

/-- The first kind of a name. -/
def find (kinds : List Kind) (name : String) : Except ResolveError Kind :=
  match kinds.find? (·.name == name) with
  | some kind => .ok kind
  | none => .error (.unknownAction name)

end Kind

end CallSheet.Action
