import CallSheet.Proofs.Action.Call
import CallSheet.Proofs.Http.Fields

/-!
# Requests that are sent

Which requests an action sends, seen by a transport that keeps a record of them, and
which headers they carry.

There are four groups.

* Recording.  `Services.watched` keeps a record of the requests and changes nothing else
  (`Kind.run_watched`).  `Kind.sent` is the record of one action.
* Values.  `valuesOf` are the values of a header's name.
* Drafts.  What is put together for a request (`draft_eq_ok`).
* The whole.  `headers_exact`: a text has one list of lines, the headers are read from all
  of them or not at all, and a request carries all of them, but for the type of the content
  of a form.
-/

namespace CallSheet

variable {ρ : Type}

/-! ## Recording -/

/-- A world with a record of requests. -/
def World.watched (world : World ρ) (record : List Http.Request) : World (ρ × List Http.Request) :=
  ⟨world.files, (world.rest, record)⟩

/-- Services that keep a record of the requests; commands leave it alone. -/
def Services.watched (services : Services ρ) : Services (ρ × List Http.Request) where
  runner command world :=
    let (outcome, after) := services.runner command ⟨world.files, world.rest.1⟩
    (outcome, after.watched world.rest.2)
  transport request world :=
    let (outcome, after) := services.transport request ⟨world.files, world.rest.1⟩
    (outcome, after.watched (world.rest.2 ++ [request]))

namespace Action

/-- The requests of a call. -/
def Call.requests : Call → List Http.Request
  | .command _ => []
  | .request sent => [sent]

theorem Call.answer_watched (services : Services ρ) (call : Call) (world : World ρ)
    (record : List Http.Request) :
    call.answer services.watched (world.watched record) =
      ((call.answer services world).1,
        (call.answer services world).2.watched (record ++ call.requests)) := by
  cases call with
  | command text =>
    have hrun : services.watched.runner text (world.watched record) =
        ((services.runner text world).1, (services.runner text world).2.watched record) := rfl
    rw [answer, answer, hrun, requests, List.append_nil]
    cases services.runner text world with
    | mk outcome after => cases outcome <;> rfl
  | request sent =>
    have hsend : services.watched.transport sent (world.watched record) =
        ((services.transport sent world).1,
          (services.transport sent world).2.watched (record ++ [sent])) := rfl
    rw [answer, answer, hsend, requests]
    cases services.transport sent world with
    | mk outcome after => cases outcome <;> rfl

namespace Kind

/-- The requests that an action asks for. -/
def requests (kind : Kind) (context : Context) (files : Files) : List Http.Request :=
  match kind.call context files with
  | .error _ => []
  | .ok call => call.requests

/-- Recording adds the requests of an action to the record and changes nothing else. -/
theorem run_watched (kind : Kind) (services : Services ρ) (context : Context) (world : World ρ)
    (record : List Http.Request) :
    kind.run services.watched context (world.watched record) =
      ((kind.run services context world).1,
        (kind.run services context world).2.watched
          (record ++ kind.requests context world.files)) := by
  have hfiles : (world.watched record).files = world.files := rfl
  rw [run_eq, run_eq, hfiles, requests]
  cases kind.call context world.files with
  | error error => rw [List.append_nil]
  | ok call =>
    simp only [Call.run, Call.answer_watched]
    rfl

/-- The requests that an action sends, in order, as a transport sees them that keeps a
record. -/
def sent (kind : Kind) (services : Services ρ) (context : Context) (world : World ρ) :
    List Http.Request :=
  (kind.run services.watched context (world.watched [])).2.rest.2

theorem sent_eq (kind : Kind) (services : Services ρ) (context : Context) (world : World ρ) :
    kind.sent services context world = kind.requests context world.files := by
  rw [sent, run_watched]
  rfl

end Kind

end Action

/-! ## Values -/

namespace Http

variable {name : String} {headers : List Header}

/-- A name with small letters. -/
def lowered (name : String) : List Char := name.toList.map Char.toLower

/-- The values under a name, in order; it does not count which letters are capitals. -/
def valuesOf (name : String) (fields : List (String × String)) : List String :=
  (fields.filter fun field => lowered field.1 == lowered name).map Prod.snd

/-- The names and values of headers. -/
def fieldsOf (headers : List Header) : List (String × String) :=
  headers.map fun header => (header.name, header.value)

theorem lowerName_eq (name : String) : lowerName name = String.ofList (lowered name) := rfl

@[simp] theorem lowered_lowerName (name : String) : lowered (lowerName name) = lowered name := by
  rw [lowerName_eq, lowered, String.toList_ofList, lowered, List.map_map]
  apply List.map_congr_left
  intro c _
  show c.toLower.toLower = c.toLower
  delta Char.toLower
  grind

/-- Reading the headers keeps the values of every name. -/
theorem valuesOf_fieldsOf (name : String) (fields : List (String × String)) :
    valuesOf name (fieldsOf (fields.map fun field => ⟨lowerName field.1, field.2⟩)) =
      valuesOf name fields := by
  induction fields with
  | nil => rfl
  | cons field fields ih =>
    simp only [valuesOf, fieldsOf, List.map_cons, List.filter_cons, lowered_lowerName] at ih ⊢
    split
    · rw [List.map_cons, List.map_cons, ih]
    · exact ih

/-- Without the type of the content, the values of all other names are left. -/
theorem valuesOf_withoutContentType (h : ∀ header ∈ headers, lowerName header.name = header.name) :
    valuesOf name (fieldsOf (withoutContentType headers)) =
      if lowered name = contentTypeName.toList then [] else valuesOf name (fieldsOf headers) := by
  have hfields : fieldsOf (withoutContentType headers) =
      (fieldsOf headers).filter fun field => field.1 != contentTypeName := by
    rw [fieldsOf, fieldsOf, withoutContentType, List.filter_map]
    rfl
  have hlower : ∀ field ∈ fieldsOf headers, lowered field.1 = field.1.toList := by
    intro field hfield
    obtain ⟨header, hheader, rfl⟩ := List.mem_map.1 hfield
    have hlower := congrArg String.toList (h header hheader)
    rwa [lowerName_eq, String.toList_ofList] at hlower
  rw [hfields, valuesOf, List.filter_filter]
  split
  · next htype =>
    rw [List.map_eq_nil_iff, List.filter_eq_nil_iff]
    intro field hfield
    simp [hlower field hfield, htype, String.toList_inj]
  · next hother =>
    rw [valuesOf]
    congr 1
    apply List.filter_congr
    intro field hfield
    rw [hlower field hfield]
    by_cases hsame : field.1.toList = lowered name
    · have hne : field.1 ≠ contentTypeName := by
        intro htype
        rw [htype] at hsame
        exact hother hsame.symm
      simp [hsame, hne]
    · simp [hsame]

end Http

/-! ## Drafts -/

namespace Action.Request

open Http

variable {context : Context} {files : Files} {drafted : Draft} {body : Http.Body}
  {headers : List Http.Header}

/-- The text that the headers are read from. -/
def headersText (context : Context) : String := (context.get? headersField).getD ""

/-- The body comes from a form. -/
def SendsForm (context : Context) : Prop :=
  context.get? bodyField = none ∧ context.get? bodyFileField = none ∧
    context.get? formField ≠ none

instance (context : Context) : Decidable (SendsForm context) :=
  inferInstanceAs (Decidable (_ ∧ _ ∧ _))

theorem draft_eq_ok (h : draft context files = .ok drafted) :
    ∃ headers, readHeaders context = .ok headers ∧ readBody context files = .ok drafted.body ∧
      drafted.headers = headersWith headers drafted.body := by
  obtain ⟨address, -, h⟩ := bind_eq_ok h
  obtain ⟨method, -, h⟩ := bind_eq_ok h
  obtain ⟨headers, hheaders, h⟩ := bind_eq_ok h
  obtain ⟨body, hbody, h⟩ := bind_eq_ok h
  cases h
  exact ⟨headers, hheaders, hbody, rfl⟩

/-- A request is made up from a draft. -/
theorem draft_of_mem_requests {request : Http.Request}
    (h : request ∈ Kind.http.requests context files) :
    ∃ drafted, draft context files = .ok drafted ∧ request.headers = drafted.headers := by
  simp only [Kind.requests, Kind.call, call] at h
  cases hdraft : draft context files with
  | error error =>
    rw [hdraft] at h
    cases h
  | ok drafted =>
    rw [hdraft] at h
    refine ⟨drafted, rfl, ?_⟩
    cases haddress : Url.parse drafted.address with
    | error fault =>
      simp only [haddress] at h
      cases h
    | ok url =>
      by_cases hweb : url.isWeb = true
      · simp only [haddress, hweb, if_true, Call.requests, List.mem_singleton] at h
        rw [h]
      · simp only [haddress, hweb] at h
        cases h

/-- Only a form takes the type of the content out of the headers. -/
theorem headersWith_eq (h : readBody context files = .ok body) (headers : List Http.Header) :
    headersWith headers body =
      if SendsForm context then withoutContentType headers else headers := by
  rw [readBody] at h
  split at h
  · next hbody =>
    cases h
    simp [headersWith, SendsForm, hbody]
  · next hbody hfile =>
    split at h
    · cases h
      simp [headersWith, SendsForm, hbody, hfile]
    · cases h
  · next hbody hfile hform =>
    split at h
    · cases h
      simp [headersWith, SendsForm, hbody, hfile, hform]
    · cases h
    · cases h
  · next hbody hfile hform =>
    cases h
    simp [headersWith, SendsForm, hform]

theorem readHeaders_eq_ok_iff : readHeaders context = .ok headers ↔
    Http.readHeaders (headersText context) = .ok headers := by
  rw [readHeaders, headersText]
  cases Http.readHeaders ((context.get? headersField).getD "") <;> simp

theorem exists_readHeaders_iff {lines : List (List Char)}
    (hlines : HasLines (headersText context) lines) :
    (∃ headers, readHeaders context = .ok headers) ↔ ∀ line ∈ lines, IsDeclaration line := by
  obtain rfl := hasLines_iff.1 hlines
  simp only [readHeaders_eq_ok_iff]
  exact Http.exists_readHeaders_iff

/-- The error of the first of some lines that declares no header. -/
def HeaderFault (lines : List (List Char)) : ActionError → Prop :=
  FirstError IsDeclaration
    (fun line error => ¬ IsDeclaration line ∧
      error = .invalidLine headersField (String.ofList line))
    lines

theorem readHeaders_eq_error_iff {lines : List (List Char)}
    (hlines : HasLines (headersText context) lines) {error : ActionError} :
    readHeaders context = .error error ↔ HeaderFault lines error := by
  obtain rfl := hasLines_iff.1 hlines
  have hfound : readHeaders context = .error error ↔
      ∃ found, Http.readHeaders (headersText context) = .error found ∧
        error = .invalidLine headersField found := by
    rw [readHeaders, headersText]
    cases Http.readHeaders ((context.get? headersField).getD "") <;> simp [eq_comm]
  rw [hfound]
  simp only [Http.readHeaders_eq_error_iff]
  constructor
  · rintro ⟨found, ⟨before, line, after, hlines, hbefore, hline, rfl⟩, rfl⟩
    exact ⟨before, line, after, hlines, hbefore, hline, rfl⟩
  · rintro ⟨before, line, after, hlines, hbefore, hline, rfl⟩
    exact ⟨String.ofList line, ⟨before, line, after, hlines, hbefore, hline, rfl⟩, rfl⟩

/-- What is sent under each name. -/
theorem valuesOf_of_mem_requests {request : Http.Request} {lines : List (List Char)}
    (hlines : HasLines (headersText context) lines)
    (h : request ∈ Kind.http.requests context files) :
    ∃ fields : List (String × String),
      List.Forall₂ (fun line field => Declares line field.1 field.2) lines fields ∧
      ∀ name, valuesOf name (fieldsOf request.headers) =
        if SendsForm context ∧ lowered name = "content-type".toList then []
        else valuesOf name fields := by
  obtain rfl := hasLines_iff.1 hlines
  obtain ⟨drafted, hdraft, hrequest⟩ := draft_of_mem_requests h
  obtain ⟨headers, hheaders, hbody, hdrafted⟩ := draft_eq_ok hdraft
  obtain ⟨fields, hfields, rfl⟩ :=
    Http.readHeaders_eq_ok_iff.1 (readHeaders_eq_ok_iff.1 hheaders)
  refine ⟨fields, hfields, fun name => ?_⟩
  rw [hrequest, hdrafted, headersWith_eq hbody]
  by_cases hform : SendsForm context
  · rw [if_pos hform, valuesOf_withoutContentType, valuesOf_fieldsOf]
    · exact if_congr (by rw [contentTypeName, and_iff_right hform]) rfl rfl
    · intro header hheader
      obtain ⟨field, -, rfl⟩ := List.mem_map.1 hheader
      rw [lowerName_eq, lowered_lowerName, ← lowerName_eq]
  · rw [if_neg hform, valuesOf_fieldsOf, if_neg fun hboth => hform hboth.1]

/-! ## The whole -/

/-- **Headers are read exactly and none is lost.**  The text of the headers has one list of
lines that hold something.  They are read if every line declares a header, and otherwise the
first line that does not is reported.  Under every name a request carries the values of the
lines that declare it, in the same order and as often; only the type of the content is left
to the form, if the body is one. -/
theorem headers_exact (services : Services ρ) (context : Context) (world : World ρ) :
    ∃ lines, (∀ other, HasLines (headersText context) other ↔ other = lines) ∧
      ((∃ headers, readHeaders context = .ok headers) ↔ ∀ line ∈ lines, IsDeclaration line) ∧
      (∀ error, readHeaders context = .error error ↔ HeaderFault lines error) ∧
      ∀ request ∈ Kind.http.sent services context world, ∃ fields : List (String × String),
        List.Forall₂ (fun line field => Declares line field.1 field.2) lines fields ∧
        ∀ name, valuesOf name (fieldsOf request.headers) =
          if SendsForm context ∧ lowered name = "content-type".toList then []
          else valuesOf name fields := by
  have hlines : HasLines (headersText context) (contentLines (headersText context)) :=
    hasLines_iff.2 rfl
  refine ⟨_, fun other => hasLines_iff, exists_readHeaders_iff hlines,
    fun error => readHeaders_eq_error_iff hlines, ?_⟩
  intro request hrequest
  rw [Kind.sent_eq] at hrequest
  exact valuesOf_of_mem_requests hlines hrequest

/-- Services that run no command and answer every request with an empty page. -/
def plainServices : Services Unit where
  runner _ world := (.ok "", world)
  transport _ world := (.ok ⟨200, [], .ok []⟩, world)

/-- A form with headers under names in both cases, and a blank line. -/
def tokenContext : Context :=
  .ofList [("url", "http://h/"),
    ("headers", "Accept: a\n \nX-Token:  b:c \r\naccept: d\nContent-Type: e"), ("form", "k: v")]

/-- The lines of its headers. -/
def tokenLines : List (List Char) :=
  ["Accept: a", "X-Token:  b:c ", "accept: d", "Content-Type: e"].map String.toList

/-- Its lines before the last, the blank one among them, and whether a carriage return ends
them. -/
def tokenEndings : List (List Char × Bool) :=
  [("Accept: a".toList, false), (" ".toList, false), ("X-Token:  b:c ".toList, true),
    ("accept: d".toList, false)]

theorem hasLines_tokenContext : HasLines (headersText tokenContext) tokenLines :=
  ⟨tokenEndings.map Prod.fst, Text.endLines tokenEndings, "Content-Type: e".toList,
    by decide +kernel, Text.ended_endLines (by decide +kernel), by decide +kernel,
    by decide +kernel, by decide +kernel⟩

/-- One request is asked for, with these values. -/
theorem valuesOf_tokenContext :
    (Kind.http.requests tokenContext ⟨[], []⟩).map (fun request =>
      let values name := valuesOf name (fieldsOf request.headers)
      (values "ACCEPT", values "x-token", values "content-type")) =
      [(["a", "d"], ["b:c"], [])] := by
  decide +kernel

/-- Its request is sent.  It carries both values of the name that is declared twice, and not
the type of the content. -/
theorem headers_exact_tokenContext :
    ∃ request ∈ Kind.http.sent plainServices tokenContext ⟨⟨[], []⟩, ()⟩,
      (∃ fields : List (String × String),
        List.Forall₂ (fun line field => Declares line field.1 field.2) tokenLines fields ∧
        ∀ name, valuesOf name (fieldsOf request.headers) =
          if SendsForm tokenContext ∧ lowered name = "content-type".toList then []
          else valuesOf name fields) ∧
      valuesOf "ACCEPT" (fieldsOf request.headers) = ["a", "d"] ∧
      valuesOf "x-token" (fieldsOf request.headers) = ["b:c"] ∧
      valuesOf "content-type" (fieldsOf request.headers) = [] := by
  obtain ⟨request, hsent, hrequest⟩ := List.map_eq_singleton_iff.1 valuesOf_tokenContext
  have hmem : request ∈ Kind.http.sent plainServices tokenContext ⟨⟨[], []⟩, ()⟩ := by
    rw [Kind.sent_eq, hsent]
    exact List.mem_singleton_self request
  obtain ⟨lines, hlines, -, -, hcarried⟩ := headers_exact plainServices tokenContext ⟨⟨[], []⟩, ()⟩
  obtain rfl := (hlines tokenLines).1 hasLines_tokenContext
  obtain ⟨haccept, hrest⟩ := Prod.mk.inj hrequest
  obtain ⟨htoken, htype⟩ := Prod.mk.inj hrest
  exact ⟨request, hmem, hcarried request hmem, haccept, htoken, htype⟩

end Action.Request

end CallSheet
