import CallSheet.Command.Runner
import CallSheet.Context.Template
import CallSheet.Converter
import CallSheet.Document.Basic

/-!
# Resolving components

The components of a list are resolved one after the other, in the order of
their declaration.  A value that the context holds already counts as the
component's own unless values are forced; otherwise the component's first
content is filled from the context and, for a script, run.  In both cases the
value goes through the component's converters and into the context, where the
components after it find it.  The first error ends everything; what was stored
before it stays.
-/

namespace CallSheet

open Text

/-! ## Errors -/

/-- Why components could not be resolved. -/
inductive ResolveError where
  /-- A list has a value that is none of its contents. -/
  | notPermitted (name value : String) (permitted : List String)
  /-- A value could not be converted. -/
  | convert (name : String) (error : ConvertError)
  /-- A script gave no value. -/
  | command (name : String) (error : CommandError)
  /-- A list was not read from its file yet. -/
  | unexpanded (name : String)
  /-- There is no such kind of action. -/
  | unknownAction (kind : String)
  /-- The document declares no action. -/
  | missingAction
  deriving DecidableEq, Repr

/-- What is wrong, and then what caused it. -/
def ResolveError.causes : ResolveError → List String
  | .notPermitted name value permitted =>
    ["Value " ++ quoted value ++ " is not permitted for " ++ name ++ ", expected one of " ++
      quotedList permitted]
  | .convert name error => ("Unable to convert " ++ name) :: error.causes
  | .command name error => ("Script " ++ name ++ " failed") :: error.causes
  | .unexpanded name => ["File list " ++ name ++ " was not expanded before resolution"]
  | .unknownAction kind => ["Unknown action type " ++ quoted kind]
  | .missingAction => ["Document has no `## type[<kind>]` section"]

/-! ## One component -/

/-- The converters and the runner that values are resolved with. -/
structure Resolver (σ : Type) where
  registry : Converter.Registry
  runner : Runner σ

namespace Resolver

/-- A value that is there already, if the component permits it. -/
def check (component : Component) (value : String) : Except ResolveError String :=
  if component.kind = .list ∧ component.permits value = false then
    .error (.notPermitted component.name value (component.values.map (·.content)))
  else .ok value

/-- The value that a component declares, before any converter. -/
def compute (resolver : Resolver σ) (component : Component) (context : Context) (state : σ) :
    Except ResolveError String × σ :=
  if component.kind.isFileList then (.error (.unexpanded component.name), state)
  else
    let text := Template.fill context component.firstContent
    if component.kind = .script then
      match resolver.runner text state with
      | (.ok value, state) => (.ok value, state)
      | (.error error, state) => (.error (.command component.name error), state)
    else (.ok text, state)

/-- The value that a component starts from: the one that is there, unless
values are forced, or else the one it declares. -/
def source (resolver : Resolver σ) (force : Bool) (component : Component) (context : Context)
    (state : σ) : Except ResolveError String × σ :=
  match if force then none else context.get? component.name with
  | some value => (check component value, state)
  | none => resolver.compute component context state

/-- Sends a value through a component's converters. -/
def convert (resolver : Resolver σ) (component : Component) (value : String) :
    Except ResolveError String :=
  match resolver.registry.apply value component.converters with
  | .ok value => .ok value
  | .error error => .error (.convert component.name error)

/-- The final value of a component. -/
def value (resolver : Resolver σ) (force : Bool) (component : Component) (context : Context)
    (state : σ) : Except ResolveError String × σ :=
  match resolver.source force component context state with
  | (.ok value, state) => (resolver.convert component value, state)
  | (.error error, state) => (.error error, state)

/-! ## Many components -/

/-- What is there after resolving. -/
structure Outcome (σ : Type) where
  /-- The error that ended it, if one did. -/
  result : Except ResolveError Unit
  context : Context
  state : σ

/-- Resolves components into a context. -/
def resolve (resolver : Resolver σ) (force : Bool) (context : Context) (state : σ) :
    List Component → Outcome σ
  | [] => ⟨.ok (), context, state⟩
  | component :: rest =>
    match resolver.value force component context state with
    | (.ok value, state) =>
      resolver.resolve force (context.insert component.name value) state rest
    | (.error error, state) => ⟨.error error, context, state⟩

/-- Resolves the variables of a document; values that are there already count. -/
def vars (resolver : Resolver σ) (document : Document) (context : Context) (state : σ) :
    Outcome σ :=
  resolver.resolve false context state document.vars

/-- Resolves the fields of a document's action. -/
def action (resolver : Resolver σ) (document : Document) (context : Context) (state : σ) :
    Outcome σ :=
  match document.action with
  | none => ⟨.error .missingAction, context, state⟩
  | some action => resolver.resolve true context state action.fields

/-- Resolves the variables that a document computes after its action. -/
def after (resolver : Resolver σ) (document : Document) (context : Context) (state : σ) :
    Outcome σ :=
  resolver.resolve true context state document.after

end Resolver

end CallSheet
