import CallSheet.Action.Kind

/-!
# What an action asks for

An action of any kind makes up one call from the context and the files, gets an
answer to it and writes the answer's files.  Before the call it writes nothing.  An
answer can break off behind some of its files; these are written before its error is
reported.

Main statement: `Kind.run_eq` takes every action apart into these three steps.
-/

namespace CallSheet.Action

open Text

variable {ρ : Type}

/-- What an action asks the services for. -/
inductive Call where
  | command (text : String)
  | request (request : Http.Request)

/-! ## Answers -/

/-- What comes back for a call. -/
structure Answer where
  /-- The files that it brings, in the order in which they are written. -/
  outputs : List (String × List UInt8)
  /-- The error that it ends with behind its files, if it is not complete. -/
  ending : Except ActionError Unit

namespace Answer

/-- The answer of an error alone. -/
def failed (error : ActionError) : Answer := ⟨[], .error error⟩

/-- The answer of a response.  It breaks off behind status and headers if the body does. -/
def ofResponse (response : Http.Response) : Answer :=
  match response.body with
  | .ok body => ⟨Request.headFiles response ++ [(bodyFile, body)], .ok ()⟩
  | .error fault => ⟨Request.headFiles response, .error (.http (.body fault))⟩

/-- Writes the files of an answer and then ends as the answer does. -/
def write (context : Context) (answer : Answer) (files : Files) : Except ActionError Unit × Files :=
  match Request.writeAll context files answer.outputs with
  | (.ok (), files) => (answer.ending, files)
  | stopped => stopped

/-- The names of the files of an answer, or the first ones of them. -/
def HasNames (answer : Answer) : Prop :=
  answer.outputs.map Prod.fst <+: [bodyFile] ∨
    answer.outputs.map Prod.fst <+: ["status", "headers", bodyFile]

end Answer

namespace Call

/-- The answer to a call. -/
def answer (services : Services ρ) (call : Call) (world : World ρ) : Answer × World ρ :=
  match call with
  | .command text =>
    match services.runner text world with
    | (.ok output, world) => (⟨[(bodyFile, Utf8.encode output.toList)], .ok ()⟩, world)
    | (.error error, world) => (.failed (.command error), world)
  | .request sent =>
    match services.transport sent world with
    | (.ok response, world) => (.ofResponse response, world)
    | (.error fault, world) => (.failed (.http (.connect sent.url.text fault)), world)

/-- The files of every answer have their fixed names. -/
theorem hasNames_answer (services : Services ρ) (call : Call) (world : World ρ) :
    (call.answer services world).1.HasNames := by
  cases call with
  | command text =>
    rw [answer]
    split
    · exact .inl (List.prefix_refl _)
    · exact .inl List.nil_prefix
  | request sent =>
    rw [answer]
    split
    · rw [Answer.ofResponse]
      split
      · exact .inr (List.prefix_refl _)
      · exact .inr ⟨[bodyFile], rfl⟩
    · exact .inl List.nil_prefix

/-- An answer that does not break off has them all. -/
theorem names_of_answer {services : Services ρ} {call : Call} {world after : World ρ}
    {outputs : List (String × List UInt8)}
    (h : call.answer services world = (⟨outputs, .ok ()⟩, after)) :
    outputs.map Prod.fst = [bodyFile] ∨
      outputs.map Prod.fst = ["status", "headers", bodyFile] := by
  cases call with
  | command text =>
    rw [answer] at h
    split at h
    · cases h
      exact .inl rfl
    · cases h
  | request sent =>
    rw [answer] at h
    split at h
    · rw [Answer.ofResponse] at h
      split at h
      · cases h
        exact .inr rfl
      · cases h
    · cases h

end Call

/-! ## Calls -/

/-- The request that a context describes, if it can be sent. -/
def Request.call (context : Context) (files : Files) : Except ActionError Call :=
  match draft context files with
  | .error error => .error error
  | .ok ⟨method, address, headers, body⟩ =>
    match Url.parse address with
    | .error fault => .error (.http (.address fault))
    | .ok url =>
      if url.isWeb then .ok (.request ⟨method, url, headers, body⟩)
      else .error (.http (.scheme url.text))

/-- The call of an action. -/
def Kind.call (kind : Kind) (context : Context) (files : Files) : Except ActionError Call :=
  match kind with
  | .http => Request.call context files
  | .sh => (required context scriptField).map .command
  | .custom kind => .ok (.command (kind.compile context))

/-- Gets the answer to a call and writes its files. -/
def Call.run (services : Services ρ) (context : Context) (call : Call) (world : World ρ) :
    Except ActionError Unit × World ρ :=
  let (answer, world) := call.answer services world
  world.withFiles (answer.write context)

/-- An answer is written by writing its files, and then ends as it does. -/
theorem Answer.withFiles_write (context : Context) (answer : Answer) (world : World ρ) :
    world.withFiles (answer.write context) =
      match world.withFiles fun files => Request.writeAll context files answer.outputs with
      | (.ok (), after) => (answer.ending, after)
      | (.error error, after) => (.error error, after) := by
  simp only [World.withFiles, Answer.write]
  cases Request.writeAll context world.files answer.outputs with
  | mk outcome files => cases outcome <;> rfl

/-- Writing one file is all that there is to an answer with one. -/
theorem write_singleton (context : Context) (name : String) (content : List UInt8) :
    Answer.write context ⟨[(name, content)], .ok ()⟩ = writeResult context name content := by
  funext files
  simp only [Answer.write, Request.writeAll]
  cases writeResult context name content files with
  | mk outcome files => cases outcome <;> rfl

theorem writeAll_append (context : Context) (first second : List (String × List UInt8))
    (files : Files) :
    Request.writeAll context files (first ++ second) =
      match Request.writeAll context files first with
      | (.ok (), files) => Request.writeAll context files second
      | stopped => stopped := by
  induction first generalizing files with
  | nil => rfl
  | cons output first ih =>
    simp only [List.cons_append, Request.writeAll]
    cases writeResult context output.1 output.2 files with
    | mk outcome files =>
      cases outcome with
      | error error => rfl
      | ok done => exact ih files

/-- What is written of a response are the files of its answer. -/
theorem writeResponse_eq (context : Context) (response : Http.Response) :
    Request.writeResponse context response = (Answer.ofResponse response).write context := by
  funext files
  cases hbody : response.body with
  | error fault =>
    cases hhead : Request.writeAll context files (Request.headFiles response) with
    | mk outcome after =>
      cases outcome <;>
        simp only [Request.writeResponse, Answer.ofResponse, Answer.write, hbody, hhead]
  | ok body =>
    have hlast := congrFun (write_singleton context bodyFile body)
    simp only [Answer.write] at hlast
    simp only [Request.writeResponse, Answer.ofResponse, Answer.write, hbody, writeAll_append]
    cases Request.writeAll context files (Request.headFiles response) with
    | mk outcome files =>
      cases outcome with
      | error error => rfl
      | ok done => exact (hlast files).symm

theorem runCommand_eq (services : Services ρ) (context : Context) (text : String)
    (world : World ρ) :
    runCommand services context text world = (Call.command text).run services context world := by
  rw [runCommand, Call.run, Call.answer]
  cases services.runner text world with
  | mk outcome after =>
    cases outcome with
    | error error => rfl
    | ok output => simp only [write_singleton]

theorem Request.run_eq (services : Services ρ) (context : Context) (world : World ρ) :
    Request.run services context world =
      match Request.call context world.files with
      | .error error => (.error error, world)
      | .ok call => call.run services context world := by
  rw [Request.run, Request.call]
  cases draft context world.files with
  | error error => rfl
  | ok draft =>
    simp only [Http.send]
    cases Url.parse draft.address with
    | error fault => rfl
    | ok url =>
      by_cases hweb : url.isWeb = true
      · simp only [hweb, if_true, Call.run, Call.answer]
        cases services.transport ⟨draft.method, url, draft.headers, draft.body⟩ world with
        | mk outcome after =>
          cases outcome with
          | error fault => rfl
          | ok response => simp only [writeResponse_eq]
      · simp only [hweb]
        rfl

/-- An action makes up a call, gets the answer and writes the answer's files. -/
theorem Kind.run_eq (kind : Kind) (services : Services ρ) (context : Context) (world : World ρ) :
    kind.run services context world =
      match kind.call context world.files with
      | .error error => (.error error, world)
      | .ok call => call.run services context world := by
  cases kind with
  | http => exact Request.run_eq services context world
  | sh =>
    rw [Kind.run, Kind.call]
    cases required context scriptField with
    | error error => rfl
    | ok script => exact runCommand_eq services context script world
  | custom kind => exact runCommand_eq services context _ world

end CallSheet.Action
