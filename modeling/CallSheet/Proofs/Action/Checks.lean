import CallSheet.Proofs.Action.Requests

/-!
# What is checked before a request is sent

Everything that can be wrong with the fields of a request is found before the request is
sent, in a fixed order.

There are four groups.

* Bodies.  `HasBadBody` says when the source of the body cannot be used, and `BodyFault`
  with which error (`readBody_eq_error_iff`).
* Order.  `FirstFault` is the error of the first check that fails (`draft_eq_error_iff`).
  There is one exactly if something is wrong (`exists_firstFault_iff`).
* Sources that are passed over.  `IsBehind` are the fields that give way to the source in
  use; nothing depends on them (`call_eq_of_agrees`).
* The whole.  `checked_before_sending` says all of it about an action.
-/

namespace CallSheet.Action.Request

open Http

variable {ρ : Type} {context other : Context} {files : Files} {error : ActionError}

/-! ## Bodies -/

/-- The source of the body in use is bad. -/
inductive HasBadBody (context : Context) (files : Files) : Prop where
  /-- It is a file that cannot be opened. -/
  | file {path : String} {fault : Fault} (hbody : context.get? bodyField = none)
      (hpath : context.get? bodyFileField = some path) (hfault : files.locate path = .error fault)
  /-- It is a form, and one of its lines is no part. -/
  | form {form : String} {lines : List (List Char)} {line : List Char} {refusal : FormError}
      (hbody : context.get? bodyField = none) (hpath : context.get? bodyFileField = none)
      (hform : context.get? formField = some form) (hlines : HasLines form lines)
      (hline : line ∈ lines) (hrefused : Refused files line refusal)

/-- The error of the first line of a form that is no part. -/
def FormFault (files : Files) (form : String) (error : FormError) : Prop :=
  ∃ lines, HasLines form lines ∧
    FirstError (fun line => ¬ ∃ refusal, Refused files line refusal) (Refused files) lines error

/-- What is wrong with the source of the body in use. -/
inductive BodyFault (context : Context) (files : Files) : ActionError → Prop where
  | file {path : String} {fault : Fault} (hbody : context.get? bodyField = none)
      (hpath : context.get? bodyFileField = some path) (hfault : files.locate path = .error fault) :
      BodyFault context files (.file path fault)
  | line {form line : String} (hbody : context.get? bodyField = none)
      (hpath : context.get? bodyFileField = none) (hform : context.get? formField = some form)
      (hfault : FormFault files form (.line line)) :
      BodyFault context files (.invalidLine formField line)
  | part {form path : String} {fault : Fault} (hbody : context.get? bodyField = none)
      (hpath : context.get? bodyFileField = none) (hform : context.get? formField = some form)
      (hfault : FormFault files form (.file path fault)) :
      BodyFault context files (.file path fault)

theorem formFault_iff {form : String} {error : FormError} :
    FormFault files form error ↔ readForm files form = .error error := by
  simp only [FormFault, hasLines_iff, exists_eq_left]
  exact readForm_eq_error_iff.symm

theorem readBody_eq_error_iff :
    readBody context files = .error error ↔ BodyFault context files error := by
  constructor
  · intro h
    rw [readBody] at h
    split at h
    · cases h
    · next path hbody hpath =>
      split at h
      · cases h
      · next fault hfault =>
        cases h
        exact .file hbody hpath (openContent_eq_error_iff.1 hfault)
    · next form hbody hpath hform =>
      split at h
      · cases h
      · next line hfault =>
        cases h
        exact .line hbody hpath hform (formFault_iff.2 hfault)
      · next path fault hfault =>
        cases h
        exact .part hbody hpath hform (formFault_iff.2 hfault)
    · cases h
  · rintro (⟨hbody, hpath, hfault⟩ | ⟨hbody, hpath, hform, hfault⟩ | ⟨hbody, hpath, hform, hfault⟩)
    · simp only [readBody, hbody, hpath, openContent_eq_error_iff.2 hfault]
    · simp only [readBody, hbody, hpath, hform, formFault_iff.1 hfault]
    · simp only [readBody, hbody, hpath, hform, formFault_iff.1 hfault]

theorem exists_bodyFault_iff :
    (∃ error, BodyFault context files error) ↔ HasBadBody context files := by
  constructor
  · rintro ⟨error, h⟩
    cases h with
    | file hbody hpath hfault => exact .file hbody hpath hfault
    | line hbody hpath hform hfault =>
      obtain ⟨lines, hlines, hfirst⟩ := hfault
      obtain ⟨line, hline, hrefused⟩ := hfirst.exists_fails
      exact .form hbody hpath hform hlines hline hrefused
    | part hbody hpath hform hfault =>
      obtain ⟨lines, hlines, hfirst⟩ := hfault
      obtain ⟨line, hline, hrefused⟩ := hfirst.exists_fails
      exact .form hbody hpath hform hlines hline hrefused
  · intro h
    cases h with
    | file hbody hpath hfault => exact ⟨_, .file hbody hpath hfault⟩
    | @form form lines line refusal hbody hpath hform hlines hline hrefused =>
      obtain ⟨first, hfirst⟩ := exists_firstError (fun _ => (em _).symm)
        ⟨line, hline, fun hnot => hnot ⟨refusal, hrefused⟩⟩
      have hfault : FormFault files form first := ⟨lines, hlines, hfirst⟩
      cases first with
      | line line => exact ⟨_, .line hbody hpath hform hfault⟩
      | file path fault => exact ⟨_, .part hbody hpath hform hfault⟩

/-! ## Order -/

/-- The method that a context asks for. -/
def methodText (context : Context) : String := (context.get? methodField).getD defaultMethod

/-- Something is wrong with the fields of a request. -/
def IsFlawed (context : Context) (files : Files) : Prop :=
  context.get? urlField = none ∨ ¬ IsToken (methodText context).toList ∨
    (∃ lines, HasLines (headersText context) lines ∧ ∃ line ∈ lines, ¬ IsDeclaration line) ∨
    HasBadBody context files

/-- The error of the first check that fails: address, method, headers, body. -/
inductive FirstFault (context : Context) (files : Files) : ActionError → Prop where
  | address (h : context.get? urlField = none) :
      FirstFault context files (.missingField urlField)
  | method (haddress : context.get? urlField ≠ none)
      (h : ¬ IsToken (methodText context).toList) :
      FirstFault context files (.invalidMethod (methodText context))
  | header {error : ActionError} {lines : List (List Char)}
      (haddress : context.get? urlField ≠ none)
      (hmethod : IsToken (methodText context).toList)
      (hlines : HasLines (headersText context) lines) (h : HeaderFault lines error) :
      FirstFault context files error
  | body {error : ActionError} {lines : List (List Char)}
      (haddress : context.get? urlField ≠ none)
      (hmethod : IsToken (methodText context).toList)
      (hlines : HasLines (headersText context) lines)
      (hheaders : ∀ line ∈ lines, IsDeclaration line) (h : BodyFault context files error) :
      FirstFault context files error

theorem required_eq_error_iff : required context urlField = .error error ↔
    context.get? urlField = none ∧ error = .missingField urlField := by
  rw [required]
  cases context.get? urlField <;> simp [eq_comm]

theorem exists_required_iff :
    (∃ address, required context urlField = .ok address) ↔ context.get? urlField ≠ none := by
  rw [required]
  cases context.get? urlField <;> simp

theorem readMethod_eq_error_iff : readMethod context = .error error ↔
    ¬ IsToken (methodText context).toList ∧ error = .invalidMethod (methodText context) := by
  rw [readMethod, ← methodText, ← isToken_iff]
  cases isToken (methodText context).toList <;> simp [eq_comm]

theorem exists_readMethod_iff :
    (∃ method, readMethod context = .ok method) ↔ IsToken (methodText context).toList := by
  rw [readMethod, ← methodText, ← isToken_iff]
  cases isToken (methodText context).toList <;> simp

/-- The first check that fails decides what is reported. -/
theorem draft_eq_error_iff :
    draft context files = .error error ↔ FirstFault context files error := by
  have hlines : HasLines (headersText context) (contentLines (headersText context)) :=
    hasLines_iff.2 rfl
  simp only [draft, bind_eq_error_iff, pure, Except.pure, reduceCtorEq, and_false, exists_false,
    or_false, exists_and_right, required_eq_error_iff, exists_required_iff,
    readMethod_eq_error_iff, exists_readMethod_iff, readHeaders_eq_error_iff hlines,
    exists_readHeaders_iff hlines, readBody_eq_error_iff]
  constructor
  · rintro (⟨haddress, rfl⟩ | ⟨haddress, ⟨hmethod, rfl⟩ | ⟨hmethod, hheader | ⟨hheaders, hbody⟩⟩⟩)
    · exact .address haddress
    · exact .method haddress hmethod
    · exact .header haddress hmethod hlines hheader
    · exact .body haddress hmethod hlines hheaders hbody
  · intro h
    cases h with
    | address haddress => exact .inl ⟨haddress, rfl⟩
    | method haddress hmethod => exact .inr ⟨haddress, .inl ⟨hmethod, rfl⟩⟩
    | header haddress hmethod hother hheader =>
      obtain rfl := hasLines_iff.1 hother
      exact .inr ⟨haddress, .inr ⟨hmethod, .inl hheader⟩⟩
    | body haddress hmethod hother hheaders hbody =>
      obtain rfl := hasLines_iff.1 hother
      exact .inr ⟨haddress, .inr ⟨hmethod, .inr ⟨hheaders, hbody⟩⟩⟩

theorem exists_firstFault_iff :
    (∃ error, FirstFault context files error) ↔ IsFlawed context files := by
  constructor
  · rintro ⟨error, h⟩
    cases h with
    | address haddress => exact .inl haddress
    | method haddress hmethod => exact .inr (.inl hmethod)
    | header haddress hmethod hlines hheader =>
      obtain ⟨line, hline, hnot, -⟩ := hheader.exists_fails
      exact .inr (.inr (.inl ⟨_, hlines, line, hline, hnot⟩))
    | body haddress hmethod hlines hheaders hbody =>
      exact .inr (.inr (.inr (exists_bodyFault_iff.1 ⟨error, hbody⟩)))
  · intro h
    by_cases haddress : context.get? urlField = none
    · exact ⟨_, .address haddress⟩
    by_cases hmethod : IsToken (methodText context).toList
    · obtain ⟨lines, hlines⟩ : ∃ lines, HasLines (headersText context) lines :=
        ⟨_, hasLines_iff.2 rfl⟩
      by_cases hheaders : ∀ line ∈ lines, IsDeclaration line
      · -- everything before the body is fine, so the body is not
        rcases h with h | h | ⟨other, hother, line, hline, hnot⟩ | h
        · exact absurd h haddress
        · exact absurd hmethod h
        · rw [hasLines_iff.1 hother, ← hasLines_iff.1 hlines] at hline
          exact absurd (hheaders line hline) hnot
        · obtain ⟨error, hbody⟩ := exists_bodyFault_iff.2 h
          exact ⟨error, .body haddress hmethod hlines hheaders hbody⟩
      · cases hread : readHeaders context with
        | ok headers => exact absurd ((exists_readHeaders_iff hlines).1 ⟨headers, hread⟩) hheaders
        | error error =>
          exact ⟨error, .header haddress hmethod hlines ((readHeaders_eq_error_iff hlines).1 hread)⟩
    · exact ⟨_, .method haddress hmethod⟩

/-! ## Sources that are passed over -/

/-- A source of the body that gives way to the one in use. -/
def IsBehind (context : Context) (name : String) : Prop :=
  name = bodyFileField ∧ context.get? bodyField ≠ none ∨
    name = formField ∧ (context.get? bodyField ≠ none ∨ context.get? bodyFileField ≠ none)

/-- Two contexts have the same values, but for the sources that give way. -/
def Agrees (context other : Context) : Prop :=
  ∀ name, ¬ IsBehind context name → other.get? name = context.get? name

theorem get?_eq_of_agrees {name : String} (h : Agrees context other) (hfile : name ≠ bodyFileField)
    (hform : name ≠ formField) : other.get? name = context.get? name := by
  apply h
  rintro (⟨hname, -⟩ | ⟨hname, -⟩)
  · exact hfile hname
  · exact hform hname

theorem readBody_eq_of_agrees (h : Agrees context other) (files : Files) :
    readBody other files = readBody context files := by
  have hbody : other.get? bodyField = context.get? bodyField :=
    get?_eq_of_agrees h (by decide) (by decide)
  cases htext : context.get? bodyField with
  | some text => simp only [readBody, hbody, htext]
  | none =>
    have hfile : other.get? bodyFileField = context.get? bodyFileField := by
      apply h
      rintro (⟨-, hsome⟩ | ⟨hname, -⟩)
      · exact hsome htext
      · exact absurd hname (by decide)
    cases hpath : context.get? bodyFileField with
    | some path => simp only [readBody, hbody, htext, hfile, hpath]
    | none =>
      have hform : other.get? formField = context.get? formField := by
        apply h
        rintro (⟨hname, -⟩ | ⟨-, hsome | hsome⟩)
        · exact absurd hname (by decide)
        · exact hsome htext
        · exact hsome hpath
      simp only [readBody, hbody, htext, hfile, hpath, hform]

theorem draft_eq_of_agrees (h : Agrees context other) (files : Files) :
    draft other files = draft context files := by
  have hurl : other.get? urlField = context.get? urlField :=
    get?_eq_of_agrees h (by decide) (by decide)
  have hmethod : other.get? methodField = context.get? methodField :=
    get?_eq_of_agrees h (by decide) (by decide)
  have hheaders : other.get? headersField = context.get? headersField :=
    get?_eq_of_agrees h (by decide) (by decide)
  simp only [draft, required, readMethod, readHeaders, hurl, hmethod, hheaders,
    readBody_eq_of_agrees h]

theorem call_eq_of_agrees (h : Agrees context other) (files : Files) :
    call other files = call context files := by
  rw [call, call, draft_eq_of_agrees h]

/-- Where the result files are written depends on the result directory only. -/
theorem writeAll_eq_of_resultDir (h : other.resultDir? = context.resultDir?) (files : Files)
    (outputs : List (String × List UInt8)) :
    writeAll other files outputs = writeAll context files outputs := by
  induction outputs generalizing files with
  | nil => rfl
  | cons output outputs ih =>
    have hwrite : writeResult other output.1 output.2 files =
        writeResult context output.1 output.2 files := by
      rw [writeResult, writeResult, h]
    simp only [writeAll, hwrite]
    split
    · exact ih _
    · rfl

theorem write_eq_of_resultDir (h : other.resultDir? = context.resultDir?) (answer : Answer) :
    answer.write other = answer.write context := by
  funext files
  rw [Answer.write, Answer.write, writeAll_eq_of_resultDir h]

theorem run_eq_of_agrees (h : Agrees context other) (services : Services ρ) (world : World ρ) :
    Kind.http.run services other world = Kind.http.run services context world := by
  have hdir : other.resultDir? = context.resultDir? :=
    get?_eq_of_agrees h (by decide) (by decide)
  rw [Kind.run_eq, Kind.run_eq]
  simp only [Kind.call, call_eq_of_agrees h]
  cases call context world.files with
  | error error => rfl
  | ok call => simp only [Call.run, write_eq_of_resultDir hdir]

theorem sent_eq_of_agrees (h : Agrees context other) (services : Services ρ) (world : World ρ) :
    Kind.http.sent services other world = Kind.http.sent services context world := by
  rw [Kind.sent_eq, Kind.sent_eq, Kind.requests, Kind.requests]
  simp only [Kind.call, call_eq_of_agrees h]

/-- With a text to send no file is looked at. -/
theorem draft_eq_of_body (h : context.get? bodyField ≠ none) (files files' : Files) :
    draft context files = draft context files' := by
  obtain ⟨text, htext⟩ := Option.ne_none_iff_exists'.1 h
  simp only [draft, readBody, htext]

/-! ## The whole -/

/-- A flawed action sends nothing and changes nothing. -/
theorem run_of_firstFault (services : Services ρ) {world : World ρ}
    (h : FirstFault context world.files error) :
    Kind.http.run services context world = (.error error, world) ∧
      Kind.http.sent services context world = [] := by
  have hcall : Kind.http.call context world.files = .error error := by
    rw [Kind.call, call, draft_eq_error_iff.2 h]
  rw [Kind.run_eq, Kind.sent_eq, Kind.requests, hcall]
  exact ⟨rfl, rfl⟩

/-- **Everything is checked before anything is done.**  If something is wrong with the
address, the method, a header or the source of the body in use, then the first of these is
reported, no request is sent, and the world stays as it is; if nothing is wrong, then a
request is put together.  The sources behind the one in use are not looked at: other values
of their fields lead to the same run and the same requests, and no file matters to a
request with a text to send. -/
theorem checked_before_sending (services : Services ρ) (context : Context) (world : World ρ) :
    (IsFlawed context world.files ↔ ∃ error, FirstFault context world.files error) ∧
    (∀ error, FirstFault context world.files error →
      Kind.http.run services context world = (.error error, world) ∧
        Kind.http.sent services context world = []) ∧
    (¬ IsFlawed context world.files → ∃ drafted, draft context world.files = .ok drafted) ∧
    (∀ other, Agrees context other →
      Kind.http.run services other world = Kind.http.run services context world ∧
        Kind.http.sent services other world = Kind.http.sent services context world) ∧
    (context.get? bodyField ≠ none →
      ∀ files, draft context files = draft context world.files) := by
  refine ⟨exists_firstFault_iff.symm, ?_, ?_, ?_, ?_⟩
  · intro error h
    exact run_of_firstFault services h
  · intro hfine
    cases hdraft : draft context world.files with
    | ok drafted => exact ⟨drafted, rfl⟩
    | error error =>
      have hflawed := exists_firstFault_iff.1 ⟨error, draft_eq_error_iff.1 hdraft⟩
      exact absurd hflawed hfine
  · intro other h
    exact ⟨run_eq_of_agrees h services world, sent_eq_of_agrees h services world⟩
  · intro h files
    exact draft_eq_of_body h files world.files

/-- Of several faults the one of the method comes first, and the form behind the text to send
is none. -/
example (services : Services ρ) (world : World ρ) :
    Kind.http.run services
      (.ofList [("url", ""), ("method", "GE T"), ("headers", "x"), ("body", ""), ("form", "y")])
      world = (.error (.invalidMethod "GE T"), world) := by
  rfl

end CallSheet.Action.Request
