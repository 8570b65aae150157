import CallSheet.Proofs.Document.WellFormed
import CallSheet.Proofs.Resolve.Overrides
import CallSheet.Proofs.ShellQuote
import CallSheet.Proofs.Template

/-!
# Quoted values in scripts

A script that puts the value of a component between quotes gets that value as
one word, if the component goes through the converter for these quotes.

* `Resolver.QuotesSlot` says that a script has the slot of a component between
  quotes, and `fill_of_quotesSlot` fills it.
* `commands_of_quotesSlot` gives the command of such a script: the escaped value
  between the quotes, and the text around them as it is.  For a document that was
  read from a text, `commands_vars_of_parse` needs nothing of the names.
* `Resolver.quoted_inert` is the result, together with what a shell reads.
-/

namespace CallSheet.Resolver

open Text.ShellQuote Template

variable {σ : Type} {resolver : Resolver σ} {runner : Runner σ} {start context : Context}
  {state : σ} {before middle after : List Component} {source script : Component} {style : Style}
  {left right : List Char} {given : String}

/-- The resolver of the converters that are always there and of a runner. -/
def builtin (runner : Runner σ) : Resolver σ := ⟨Converter.Registry.builtin, runner⟩

/-! ## The slot -/

/-- A script has the slot of a text between quotes, and the text goes through
the converter for these quotes. -/
structure QuotesSlot (style : Style) (source script : Component) (left right : List Char) :
    Prop where
  source_kind : source.kind = .text
  converters : source.converters = [style.converter]
  script_kind : script.kind = .script
  content : script.firstContent.toList =
    left ++ style.quote :: (written source.name.toList ++ style.quote :: right)
  /-- No other slot opens in the script. -/
  left_closed : ¬ openMark <:+: left
  right_closed : ¬ openMark <:+: right

/-- An overridden text ends with its escaped value, and nothing is run. -/
theorem value_of_quotesSlot (h : QuotesSlot style source script left right)
    (hgiven : given? false source context = some given) (state : σ) :
    (builtin runner).value false source context state =
      (.ok (String.ofList (style.escape given.toList)), state) := by
  have hlist : source.kind = .list → ∃ declared ∈ source.values, declared.content = given := by
    rw [h.source_kind]
    exact fun hk => nomatch hk
  rw [value_of_given (builtin runner) source hgiven hlist, convert, builtin, h.converters,
    Style.apply_converter]

/-- Where the escaped value is there, the script is filled with it. -/
theorem fill_of_quotesSlot (h : QuotesSlot style source script left right)
    (hname : ¬ closeMark <:+: source.name.toList ++ closeMark.dropLast)
    (hvalue : context.get? source.name = some (String.ofList (style.escape given.toList))) :
    fill context script.firstContent =
      String.ofList (left ++ style.enclose given.toList ++ right) := by
  have hcontent : script.firstContent.toList =
      left ++ [style.quote] ++ (written source.name.toList ++ style.quote :: right) := by
    rw [h.content, List.append_assoc, List.singleton_append]
  have hquote : style.quote ≠ '{' := by
    cases style <;> decide
  have hleft : ¬ openMark <:+: left ++ [style.quote] ++ ['{'] := by
    rw [List.append_assoc]
    exact not_openMark_infix_append hquote h.left_closed (by decide)
  have hright : ¬ openMark <:+: [] ++ style.quote :: right :=
    not_openMark_infix_append hquote (by decide) h.right_closed
  rw [fill_around hcontent hleft hright hname hvalue, String.toList_ofList, Style.enclose]
  simp

/-! ## The command -/

/-- The command of the first component is sent first, also when the component
has no final value. -/
theorem exists_commands_cons (resolver : Resolver σ) (force : Bool) (context : Context) (state : σ)
    (component : Component) (components : List Component) :
    ∃ later, resolver.commands force context state (component :: components) =
      (command? force component context).toList ++ later := by
  cases hv : resolver.value force component context state with
  | mk outcome next =>
    cases outcome with
    | ok final => exact ⟨_, commands_cons_of_ok hv⟩
    | error error => exact ⟨[], by rw [commands_cons_of_error hv, List.append_nil]⟩

/-- A script with a quoted slot sends the escaped value between its quotes. -/
theorem commands_of_quotesSlot
    (hnodup : ((before ++ source :: (middle ++ script :: after)).map Component.name).Nodup)
    (h : QuotesSlot style source script left right)
    (hname : ¬ closeMark <:+: source.name.toList ++ closeMark.dropLast)
    (hgiven : start.get? source.name = some given) (hscript : start.get? script.name = none)
    (hreached : ((builtin runner).resolve false start state (before ++ source :: middle)).result =
      .ok ()) :
    ∃ later, (builtin runner).commands false start state
        (before ++ source :: (middle ++ script :: after)) =
      (builtin runner).commands false start state (before ++ source :: middle) ++
        String.ofList (left ++ style.enclose given.toList ++ right) :: later := by
  have hlist : before ++ source :: (middle ++ script :: after) =
      (before ++ source :: middle) ++ script :: after := by simp
  have hscriptTurn : given? false script
      ((builtin runner).resolve false start state (before ++ source :: middle)).context = none := by
    rw [given?_before (hlist ▸ hnodup), hscript]
  -- The text's value is still there when the script's turn comes.
  have hnodupFirst : ((before ++ source :: middle).map Component.name).Nodup := by
    rw [hlist, List.map_append] at hnodup
    exact (List.nodup_append.1 hnodup).1
  have hvalue : ((builtin runner).resolve false start state
      (before ++ source :: middle)).context.get? source.name =
      some (String.ofList (style.escape given.toList)) := by
    obtain ⟨final, next, hv, hrun⟩ := resolve_split hreached
    have hturn : given? false source
        ((builtin runner).resolve false start state before).context = some given := by
      rw [given?_before hnodupFirst, hgiven]
    rw [value_of_quotesSlot h hturn] at hv
    obtain rfl := Except.ok.inj (Prod.mk.inj hv).1
    rw [hrun, get?_after hnodupFirst]
  have hcommand : command? false script
      ((builtin runner).resolve false start state (before ++ source :: middle)).context =
      some (String.ofList (left ++ style.enclose given.toList ++ right)) := by
    rw [command?, if_pos ⟨h.script_kind, hscriptTurn⟩, fill_of_quotesSlot h hname hvalue]
  obtain ⟨later, hlater⟩ := exists_commands_cons (builtin runner) false
    ((builtin runner).resolve false start state (before ++ source :: middle)).context
    ((builtin runner).resolve false start state (before ++ source :: middle)).state script after
  refine ⟨later, ?_⟩
  rw [hlist, commands_append_of_ok hreached, hlater, hcommand]
  rfl

/-- The name of a component that was read holds no brace, so its slot is closed
by its own mark. -/
theorem not_closeMark_infix_of_isName {name : List Char} (h : isName name = true) :
    ¬ closeMark <:+: name ++ closeMark.dropLast := by
  intro hin
  have hnone : name.count '\x7d' = 0 :=
    List.count_eq_zero.2 fun hmem => absurd (isNameChar_of_isName h hmem) (by decide)
  have hcount := hin.sublist.count_le '\x7d'
  rw [List.count_append, hnone] at hcount
  exact absurd hcount (by decide)

/-- In a document that was read from a text, every script with a quoted slot of
an overridden text sends the escaped value. -/
theorem commands_vars_of_parse {text : String} {document : Document}
    (hparse : Document.parse text = .ok document)
    (hvars : document.vars = before ++ source :: (middle ++ script :: after))
    (h : QuotesSlot style source script left right)
    (hgiven : start.get? source.name = some given) (hscript : start.get? script.name = none)
    (hreached : ((builtin runner).resolve false start state (before ++ source :: middle)).result =
      .ok ()) :
    ∃ later, (builtin runner).commands false start state document.vars =
      (builtin runner).commands false start state (before ++ source :: middle) ++
        String.ofList (left ++ style.enclose given.toList ++ right) :: later := by
  have hnodup := Document.nodup_names_of_parse hparse .vars
  have hmem : source ∈ document.components .vars := by
    rw [Document.components, hvars]
    simp
  have hname : isName source.name.toList = true := (Document.header_of_parse hparse hmem).name
  rw [Document.components, hvars] at hnodup
  rw [hvars]
  exact commands_of_quotesSlot hnodup h (not_closeMark_infix_of_isName hname) hgiven hscript
    hreached

/-! ## Inert values -/

/-- The converters for quotes make every value inert.  A shell reads a value
between its quotes as one word that is the value, and between double quotes it
expands nothing and closes the quotes at the end only.  A script that has the
slot of an overridden text between quotes sends the value in this form, whatever
stands in it.  The name of the text must not hold the mark that closes a slot,
also not together with the mark after it. -/
theorem quoted_inert (runner : Runner σ) (start : Context) (state : σ) :
    (∀ text, word? (Style.single.enclose text) = some text) ∧
    (∀ text, marks .none (Style.double.enclose text) =
      .opens .double :: (text.map .literal ++ [.closes .double])) ∧
    ∀ before source middle script after style left right given,
      ((before ++ source :: (middle ++ script :: after)).map Component.name).Nodup →
      QuotesSlot style source script left right →
      ¬ closeMark <:+: source.name.toList ++ closeMark.dropLast →
      start.get? source.name = some given → start.get? script.name = none →
      ((builtin runner).resolve false start state (before ++ source :: middle)).result = .ok () →
      ∃ later, (builtin runner).commands false start state
          (before ++ source :: (middle ++ script :: after)) =
        (builtin runner).commands false start state (before ++ source :: middle) ++
          String.ofList (left ++ style.enclose given.toList ++ right) :: later := by
  refine ⟨word?_enclose .single, marks_enclose_double, ?_⟩
  intro before source middle script after style left right given hnodup h hname hgiven hscript
    hreached
  exact commands_of_quotesSlot hnodup h hname hgiven hscript hreached

/-- A text for single quotes. -/
def noteText : Component := ⟨"note", .text, ["shell_single"], [Value.text "none"], 2⟩

/-- A script with the text between quotes. -/
def noteScript : Component :=
  ⟨"log", .script, [], [Value.text "log '\x7b\x7bnote\x7d\x7d' > notes"], 4⟩

/-- A script before the text. -/
def noteDay : Component := ⟨"day", .script, ["trim"], [Value.text "date"], 1⟩

/-- Another text. -/
def noteAgain : Component := ⟨"again", .text, [], [Value.text "\x7b\x7bnote\x7d\x7d"], 3⟩

/-- A value with quotes next to backslashes, an expansion, the end of a line and
a slot. -/
def noteValue : String := "it's \\' $(rm) \\\n\x7b\x7bday\x7d\x7d"

/-- The script gets the value between its quotes. -/
theorem quoted_inert_noteValue :
    word? (Style.single.enclose noteValue.toList) = some noteValue.toList ∧
      QuotesSlot .single noteText noteScript "log ".toList " > notes".toList ∧
      ∃ later, (builtin Runner.prepared).commands false
          (Context.ofList [("note", noteValue)]) [.ok "Monday\n"]
          [noteDay, noteText, noteAgain, noteScript] =
        "date" ::
          "log 'it'\\''s \\'\\'' $(rm) \\\n\x7b\x7bday\x7d\x7d' > notes" :: later := by
  have hslot : QuotesSlot .single noteText noteScript "log ".toList " > notes".toList :=
    ⟨rfl, rfl, rfl, by decide, by decide +kernel, by decide +kernel⟩
  have hnodup : (([noteDay] ++ noteText :: ([noteAgain] ++ noteScript :: [])).map
      Component.name).Nodup := by decide
  have hname : ¬ closeMark <:+: noteText.name.toList ++ closeMark.dropLast := by decide
  have hgiven : (Context.ofList [("note", noteValue)]).get? noteText.name = some noteValue := by
    decide
  have hscript : (Context.ofList [("note", noteValue)]).get? noteScript.name = none := by decide
  have hreached : ((builtin Runner.prepared).resolve false (Context.ofList [("note", noteValue)])
      [.ok "Monday\n"] ([noteDay] ++ noteText :: [noteAgain])).result = .ok () := by rfl
  have hinert := quoted_inert Runner.prepared (Context.ofList [("note", noteValue)])
    [.ok "Monday\n"]
  refine ⟨hinert.1 noteValue.toList, hslot, ?_⟩
  obtain ⟨later, hlater⟩ := hinert.2.2 _ _ _ _ _ _ _ _ _ hnodup hslot hname hgiven hscript hreached
  refine ⟨later, hlater.trans ?_⟩
  have hcommand : String.ofList ("log ".toList ++ Style.single.enclose noteValue.toList ++
      " > notes".toList) =
      "log 'it'\\''s \\'\\'' $(rm) \\\n\x7b\x7bday\x7d\x7d' > notes" := by decide
  have hbefore : (builtin Runner.prepared).commands false (Context.ofList [("note", noteValue)])
      [.ok "Monday\n"] ([noteDay] ++ noteText :: [noteAgain]) = ["date"] := by decide +kernel
  rw [hcommand, hbefore]
  rfl

/-- A text whose name ends like a slot. -/
def braceText : Component := ⟨"a\x7d", .text, ["shell_single"], [Value.text ""], 1⟩

/-- A script with this text between quotes. -/
def braceScript : Component :=
  ⟨"run", .script, [], [Value.text "echo '\x7b\x7ba\x7d\x7d\x7d'"], 2⟩

/-- A slot is closed as early as possible.  So the slot of a name that ends with
a brace is closed by that brace, and the value does not get into the script. -/
theorem commands_braceScript :
    ([braceText, braceScript].map Component.name).Nodup ∧
      QuotesSlot .single braceText braceScript "echo ".toList [] ∧
      (Context.ofList [("a\x7d", "v")]).get? braceText.name = some "v" ∧
      (Context.ofList [("a\x7d", "v")]).get? braceScript.name = none ∧
      ((builtin Runner.prepared).resolve false (Context.ofList [("a\x7d", "v")]) []
        [braceText]).result = .ok () ∧
      (builtin Runner.prepared).commands false (Context.ofList [("a\x7d", "v")]) []
        [braceText, braceScript] = ["echo '\x7b\x7ba\x7d\x7d\x7d'"] ∧
      ¬ ∃ later, (builtin Runner.prepared).commands false (Context.ofList [("a\x7d", "v")]) []
          [braceText, braceScript] =
        (builtin Runner.prepared).commands false (Context.ofList [("a\x7d", "v")]) []
            [braceText] ++
          String.ofList ("echo ".toList ++ Style.single.enclose "v".toList ++ []) :: later := by
  have hslot : QuotesSlot .single braceText braceScript "echo ".toList [] :=
    ⟨rfl, rfl, rfl, by decide, by decide +kernel, by decide⟩
  have hsent : (builtin Runner.prepared).commands false (Context.ofList [("a\x7d", "v")]) []
      [braceText, braceScript] = ["echo '\x7b\x7ba\x7d\x7d\x7d'"] := by decide +kernel
  have hbefore : (builtin Runner.prepared).commands false (Context.ofList [("a\x7d", "v")]) []
      [braceText] = [] := by decide +kernel
  refine ⟨by decide, hslot, by decide, by decide, by rfl, hsent, ?_⟩
  rintro ⟨later, hlater⟩
  rw [hsent, hbefore, List.nil_append] at hlater
  have hcommand := (List.cons.inj hlater).1
  exact absurd hcommand (by decide)

end CallSheet.Resolver
