import CallSheet.Proofs.Document.Invariants
import CallSheet.Proofs.Resolve.Run
import CallSheet.Proofs.Template.Layout

/-!
# Overrides

What resolving does with one of the variables of a document, depending on
whether its name had a value at the start.

The resolver stores values in the very context in which it looks for
overrides.  The names of a document's variables are distinct, so the values of
earlier variables are never taken for overrides: up to its turn, a variable's
name has the value of the start (`get?_before`).

* `Converter.Registry.Leads` says how the converters of a chain lead from one
  value to another, and `apply_eq_ok_iff` that values are converted like that.
* `Resolver.Account` says which value a variable started from, which one it
  ended with, and which command was sent for it.
* `Component.Reads` says how the text that a variable declares comes from its
  first content: by the layout of that template.
* `resolve_split` cuts a run at one component.
* `resolve_values_of_given` says that the contents of an overridden component
  are not read.
* `Resolver.vars_of_parse` is the result.
-/

namespace CallSheet

/-! ## Chains of converters -/

/-- The converters of a chain of names lead from one value to another: each one
takes the value that the one before it gave. -/
inductive Converter.Registry.Leads (registry : Converter.Registry) :
    String → List String → String → Prop where
  | stay (value : String) : registry.Leads value [] value
  | step {value next final name : String} {converter : Converter} {chain : List String}
      (hfound : registry.entries.lookup name = some converter)
      (hnext : converter value = .ok next) (hrest : registry.Leads next chain final) :
      registry.Leads value (name :: chain) final

theorem Converter.Registry.apply_eq_ok_iff {registry : Converter.Registry} {value final : String}
    {chain : List String} :
    registry.apply value chain = .ok final ↔ registry.Leads value chain final := by
  constructor
  · intro h
    induction chain generalizing value with
    | nil =>
      cases h
      exact .stay _
    | cons name chain ih =>
      rw [apply] at h
      cases hfound : registry.get? name with
      | none =>
        rw [hfound] at h
        cases h
      | some converter =>
        rw [hfound] at h
        cases hnext : converter value with
        | error error => simp [hnext] at h
        | ok next =>
          simp only [hnext] at h
          exact .step hfound hnext (ih h)
  · intro h
    induction h with
    | stay value => rfl
    | step hfound hnext _ ih =>
      rw [apply, get?, hfound]
      simp only [hnext, ih]

/-! ## First contents -/

/-- What a component declares in a context is a text: its first content, with
the values of the context in the place of the slots. -/
def Component.Reads (component : Component) (context : Context) (text : String) : Prop :=
  Template.Fills context ((component.values.map (·.content)).headD "") text

theorem Component.reads_fill (component : Component) (context : Context) :
    component.Reads context (Template.fill context component.firstContent) := by
  have hfirst : component.firstContent = (component.values.map (·.content)).headD "" := by
    rw [firstContent]
    cases component.values <;> rfl
  rw [Reads, ← hfirst]
  exact Template.fills_fill _ _

namespace Resolver

variable {σ : Type} {resolver : Resolver σ} {force : Bool} {start : Context} {state : σ}
  {before after : List Component} {component : Component} {given : String}

/-! ## Turns -/

/-- A successful run over a list comes to each of its components. -/
theorem resolve_split
    (h : (resolver.resolve force start state (before ++ component :: after)).result = .ok ()) :
    ∃ final next,
      resolver.value force component (resolver.resolve force start state before).context
          (resolver.resolve force start state before).state = (.ok final, next) ∧
        resolver.resolve force start state (before ++ component :: after) =
          resolver.resolve force
            ((resolver.resolve force start state before).context.insert component.name final)
            next after := by
  have hbefore := result_of_append h
  rw [resolve_append, Outcome.andThen_of_ok hbefore] at h ⊢
  obtain ⟨final, next, hv⟩ := value_of_resolve_cons h
  exact ⟨final, next, hv, resolve_cons_of_ok hv⟩

/-- A run ends at a component that has no final value. -/
theorem resolve_split_of_error {error : ResolveError} {next : σ}
    (hbefore : (resolver.resolve force start state before).result = .ok ())
    (h : resolver.value force component (resolver.resolve force start state before).context
      (resolver.resolve force start state before).state = (.error error, next)) :
    (resolver.resolve force start state (before ++ component :: after)).result =
      .error error := by
  rw [resolve_append, Outcome.andThen_of_ok hbefore, resolve_cons_of_error h]

/-- Up to its turn, a component's name has the value of the start. -/
theorem get?_before (hnodup : ((before ++ component :: after).map Component.name).Nodup) :
    (resolver.resolve force start state before).context.get? component.name =
      start.get? component.name :=
  get?_resolve_of_not_mem (name_not_mem_before hnodup)

/-- So what is given for a component is what the start holds for it. -/
theorem given?_before (hnodup : ((before ++ component :: after).map Component.name).Nodup)
    (resolver : Resolver σ) (start : Context) (state : σ) :
    given? false component (resolver.resolve false start state before).context =
      start.get? component.name := by
  rw [given?_unforced, get?_before hnodup]

/-- After its turn, a component's name keeps its value. -/
theorem get?_after {context : Context} {final : String} {next : σ}
    (hnodup : ((before ++ component :: after).map Component.name).Nodup) :
    (resolver.resolve force (context.insert component.name final) next after).context.get?
      component.name = some final := by
  rw [get?_resolve_of_not_mem (name_not_mem_after hnodup), Context.get?_insert, if_pos rfl]

/-- The context at a component's turn: the final values of the components
before it, and otherwise the values of the start. -/
theorem get?_turn (hnodup : ((before ++ component :: after).map Component.name).Nodup)
    (h : (resolver.resolve force start state (before ++ component :: after)).result = .ok ())
    (name : String) :
    (resolver.resolve force start state before).context.get? name =
      if name ∈ before.map Component.name then
        (resolver.resolve force start state (before ++ component :: after)).context.get? name
      else start.get? name := by
  split
  · next hmem =>
    rw [List.map_append, List.nodup_append] at hnodup
    have hlater : name ∉ (component :: after).map Component.name :=
      fun hlater => hnodup.2.2 name hmem name hlater rfl
    rw [resolve_append, Outcome.andThen_of_ok (result_of_append h)]
    exact (get?_resolve_of_not_mem hlater).symm
  · next hnot => exact get?_resolve_of_not_mem hnot

/-! ## Given values -/

/-- A given value is the start of the final value, and nothing is run. -/
theorem value_of_given (resolver : Resolver σ) (component : Component) {context : Context}
    (hg : given? force component context = some given)
    (hp : component.kind = .list → ∃ declared ∈ component.values, declared.content = given)
    (state : σ) :
    resolver.value force component context state = (resolver.convert component given, state) := by
  rw [value, source_of_given hg, check_eq_ok_iff.2 hp]

/-- The contents of an overridden component are not read. -/
theorem resolve_values_of_given (resolver : Resolver σ) (state : σ)
    (hnodup : ((before ++ component :: after).map Component.name).Nodup)
    (hgiven : start.get? component.name = some given)
    (hp : component.kind = .list → ∃ declared ∈ component.values, declared.content = given)
    {values : List Value}
    (hvalues : component.kind = .list → ∃ declared ∈ values, declared.content = given) :
    resolver.resolve false start state (before ++ { component with values := values } :: after) =
      resolver.resolve false start state (before ++ component :: after) := by
  refine resolve_append_congr ?_
  have hturn : given? false component (resolver.resolve false start state before).context =
      some given := by
    rw [given?_before hnodup, hgiven]
  have hother : resolver.value false { component with values := values }
      (resolver.resolve false start state before).context
      (resolver.resolve false start state before).state =
      (resolver.convert component given, (resolver.resolve false start state before).state) :=
    value_of_given resolver { component with values := values } hturn hvalues _
  rw [resolve, resolve, value_of_given resolver component hturn hp, hother]

/-! ## Accounts -/

/-- What a successful run over a list says about one of its components: it
started from `source`, ended with `final`, and sent `command`. -/
structure Account (resolver : Resolver σ) (start : Context) (state : σ) (before : List Component)
    (component : Component) (after : List Component) (source final : String)
    (command : Option String) : Prop where
  /-- The component's converters lead from the one value to the other. -/
  converted : resolver.registry.Leads source component.converters final
  /-- The run ends with the final value under the component's name. -/
  stored : (resolver.resolve false start state (before ++ component :: after)).context.get?
    component.name = some final
  /-- Up to the component's turn, the run sends the commands of the components
  before it and then its own. -/
  sent : resolver.commands false start state (before ++ [component]) =
    resolver.commands false start state before ++ command.toList
  /-- The commands of the components after it come last. -/
  followed : resolver.commands false start state (before ++ component :: after) =
    resolver.commands false start state (before ++ [component]) ++
      resolver.commands false
        (resolver.resolve false start state (before ++ [component])).context
        (resolver.resolve false start state (before ++ [component])).state after

/-- Each component of a list that was resolved has an account. -/
theorem exists_account (hnodup : ((before ++ component :: after).map Component.name).Nodup)
    (h : (resolver.resolve false start state (before ++ component :: after)).result = .ok ()) :
    ∃ source final next,
      resolver.source false component (resolver.resolve false start state before).context
          (resolver.resolve false start state before).state = (.ok source, next) ∧
        resolver.Account start state before component after source final
          (command? false component (resolver.resolve false start state before).context) := by
  obtain ⟨final, next, hv, hrun⟩ := resolve_split h
  obtain ⟨source, hsource, hconverted⟩ := value_eq_ok hv
  have hbefore := result_of_append h
  have hlist : before ++ component :: after = (before ++ [component]) ++ after := by simp
  refine ⟨source, final, next, hsource, Converter.Registry.apply_eq_ok_iff.1 hconverted, ?_, ?_,
    ?_⟩
  · rw [hrun]
    exact get?_after hnodup
  · rw [commands_append_of_ok hbefore, commands_singleton]
  · rw [hlist] at h ⊢
    exact commands_append_of_ok (result_of_append h) after

/-- What a successful run says about a component whose name had the value
`given` at the start. -/
structure Overridden (resolver : Resolver σ) (start : Context) (state : σ)
    (before : List Component) (component : Component) (after : List Component)
    (given : String) : Prop where
  /-- The final value comes from the given one, and no command was sent. -/
  account : ∃ final, resolver.Account start state before component after given final none
  /-- A list declares the given value. -/
  declared : component.kind = .list → ∃ declared ∈ component.values, declared.content = given
  /-- The contents play no part beyond that: with others in their place, the
  run gives the same and sends the same commands. -/
  unread : ∀ values : List Value,
    (component.kind = .list → ∃ declared ∈ values, declared.content = given) →
      resolver.resolve false start state
          (before ++ { component with values := values } :: after) =
        resolver.resolve false start state (before ++ component :: after) ∧
      resolver.commands false start state
          (before ++ { component with values := values } :: after) =
        resolver.commands false start state (before ++ component :: after)

/-- What a successful run says about a component whose name had no value at
the start. -/
structure Computed (resolver : Resolver σ) (start : Context) (state : σ)
    (before : List Component) (component : Component) (after : List Component) : Prop where
  /-- The content is filled with the final values of the components before it
  and otherwise with the values of the start. -/
  turn : ∀ name, (resolver.resolve false start state before).context.get? name =
    if name ∈ before.map Component.name then
      (resolver.resolve false start state (before ++ component :: after)).context.get? name
    else start.get? name
  /-- A script's filled content is sent, and the final value comes from the
  answer. -/
  answered : component.kind = .script → ∃ text answer final,
    component.Reads (resolver.resolve false start state before).context text ∧
    (resolver.runner text (resolver.resolve false start state before).state).1 = .ok answer ∧
    resolver.Account start state before component after answer final (some text)
  /-- Any other component's final value comes from its filled content, and no
  command was sent. -/
  filled : component.kind ≠ .script → ∃ text final,
    component.Reads (resolver.resolve false start state before).context text ∧
    resolver.Account start state before component after text final none

theorem overridden_of_given
    (hnodup : ((before ++ component :: after).map Component.name).Nodup)
    (h : (resolver.resolve false start state (before ++ component :: after)).result = .ok ())
    (hgiven : start.get? component.name = some given) :
    resolver.Overridden start state before component after given := by
  obtain ⟨source, final, next, hsource, haccount⟩ := exists_account hnodup h
  have hturn : given? false component (resolver.resolve false start state before).context =
      some given := by
    rw [given?_before hnodup, hgiven]
  rw [source_of_given hturn] at hsource
  have hcheck : check component given = .ok source := (Prod.mk.inj hsource).1
  obtain rfl := eq_of_check_eq_ok hcheck
  have hdeclared := check_eq_ok_iff.1 hcheck
  have hsilent : command? false component
      (resolver.resolve false start state before).context = none := by
    rw [command?, if_neg (by simp [hturn])]
  rw [hsilent] at haccount
  refine ⟨⟨final, haccount⟩, hdeclared, fun values hvalues => ⟨?_, ?_⟩⟩
  · exact resolve_values_of_given resolver state hnodup hgiven hdeclared hvalues
  · rw [commands, commands,
      resolve_values_of_given resolver.recorded (state, []) hnodup hgiven hdeclared hvalues]

theorem computed_of_not_given
    (hnodup : ((before ++ component :: after).map Component.name).Nodup)
    (h : (resolver.resolve false start state (before ++ component :: after)).result = .ok ())
    (hgiven : start.get? component.name = none) :
    resolver.Computed start state before component after := by
  obtain ⟨source, final, next, hsource, haccount⟩ := exists_account hnodup h
  have hturn : given? false component (resolver.resolve false start state before).context =
      none := by
    rw [given?_before hnodup, hgiven]
  rw [source_of_not_given hturn] at hsource
  have hreads := component.reads_fill (resolver.resolve false start state before).context
  refine ⟨get?_turn hnodup h, fun hk => ?_, fun hk => ?_⟩
  · rw [command?, if_pos ⟨hk, hturn⟩] at haccount
    rw [compute_script hk] at hsource
    refine ⟨_, source, final, hreads, ?_, haccount⟩
    cases hanswer : (resolver.runner
        (Template.fill (resolver.resolve false start state before).context component.firstContent)
        (resolver.resolve false start state before).state).1 with
    | ok answer =>
      rw [hanswer] at hsource
      exact congrArg Except.ok (Except.ok.inj (Prod.mk.inj hsource).1)
    | error error =>
      rw [hanswer] at hsource
      cases (Prod.mk.inj hsource).1
  · rw [command?, if_neg (fun hc => hk hc.1)] at haccount
    rw [compute_of_not_script hk] at hsource
    have hcomputed := (Prod.mk.inj hsource).1
    split at hcomputed
    · cases hcomputed
    · obtain rfl := Except.ok.inj hcomputed
      exact ⟨_, final, hreads, haccount⟩

/-! ## Overrides that are not permitted -/

/-- A list whose name has a value that it does not declare ends the run,
unless a component before it does. -/
theorem result_of_undeclared
    (hnodup : ((before ++ component :: after).map Component.name).Nodup)
    (hk : component.kind = .list) (hgiven : start.get? component.name = some given)
    (h : ∀ declared ∈ component.values, declared.content ≠ given) :
    (resolver.resolve false start state (before ++ component :: after)).result =
      match (resolver.resolve false start state before).result with
      | .ok () => .error (.notPermitted component.name given (component.values.map (·.content)))
      | .error error => .error error := by
  cases hbefore : (resolver.resolve false start state before).result with
  | ok done =>
    have hturn : given? false component (resolver.resolve false start state before).context =
        some given := by
      rw [given?_before hnodup, hgiven]
    have hvalue : resolver.value false component
        (resolver.resolve false start state before).context
        (resolver.resolve false start state before).state =
        (.error (.notPermitted component.name given (component.values.map (·.content))),
          (resolver.resolve false start state before).state) := by
      rw [value, source_of_given hturn, check_of_undeclared hk h]
    exact resolve_split_of_error hbefore hvalue
  | error error => rw [resolve_append, Outcome.andThen_of_error hbefore, hbefore]

/-! ## The variables of a document -/

/-- Resolving the variables of a document that was read from a text.  When it
succeeds, each variable whose name had a value at the start is overridden by
that value, and each other one is computed.  It fails when the start holds a
value for a list that the list does not declare: with that error, or with the
error of a variable before it. -/
theorem vars_of_parse {text : String} {document : Document}
    (hparse : Document.parse text = .ok document)
    (hvars : document.vars = before ++ component :: after)
    (resolver : Resolver σ) (start : Context) (state : σ) :
    ((resolver.vars document start state).result = .ok () →
      (∀ given, start.get? component.name = some given →
        resolver.Overridden start state before component after given) ∧
      (start.get? component.name = none →
        resolver.Computed start state before component after)) ∧
    ∀ given, component.kind = .list → start.get? component.name = some given →
      (∀ declared ∈ component.values, declared.content ≠ given) →
        (resolver.vars document start state).result =
          match (resolver.resolve false start state before).result with
          | .ok () =>
            .error (.notPermitted component.name given (component.values.map (·.content)))
          | .error error => .error error := by
  have hnodup : ((before ++ component :: after).map Component.name).Nodup := by
    rw [← hvars]
    exact Document.nodup_names_of_parse hparse .vars
  rw [vars, hvars]
  refine ⟨fun h => ⟨fun given hgiven => ?_, fun hgiven => ?_⟩, fun given hk hgiven hnone => ?_⟩
  · exact overridden_of_given hnodup h hgiven
  · exact computed_of_not_given hnodup h hgiven
  · exact result_of_undeclared hnodup hk hgiven hnone

/-- A list and a script that reads it. -/
def overrideText : String :=
  "## vars\n### env[list]:trim\n- dev\n- prod \n### token[script]:trim\n" ++
    "\x60\x60\x60\nget \x7b\x7benv\x7d\x7d\n\x60\x60\x60\n"

/-- The list. -/
def envList : Component :=
  ⟨"env", .list, ["trim"], [Value.text "dev", Value.text "prod "], 2⟩

/-- The script. -/
def tokenScript : Component :=
  ⟨"token", .script, ["trim"], [Value.text "get \x7b\x7benv\x7d\x7d"], 5⟩

/-- The document of the two. -/
def overrideDocument : Document := { vars := [envList, tokenScript] }

/-- The list overridden and the script computed, with their values and the one
command, and the list with a value that it does not declare. -/
theorem vars_of_overrideText :
    let outcome := prepared.vars overrideDocument (Context.ofList [("env", "prod ")])
      [.ok " abc "]
    outcome.result = .ok () ∧
      outcome.context.get? "env" = some "prod" ∧ outcome.context.get? "token" = some "abc" ∧
      prepared.commands false (Context.ofList [("env", "prod ")]) [.ok " abc "]
        overrideDocument.vars = ["get prod"] ∧
      prepared.Overridden (Context.ofList [("env", "prod ")]) [.ok " abc "] [] envList
        [tokenScript] "prod " ∧
      prepared.Computed (Context.ofList [("env", "prod ")]) [.ok " abc "] [envList]
        tokenScript [] ∧
      (prepared.vars overrideDocument (Context.ofList [("env", "test")])
          [.ok " abc "]).result =
        .error (.notPermitted "env" "test" ["dev", "prod "]) := by
  have hparse : Document.parse overrideText = .ok overrideDocument := by rfl
  have hok : (prepared.vars overrideDocument
      (Context.ofList [("env", "prod ")]) [.ok " abc "]).result = .ok () := by rfl
  have hgiven : (Context.ofList [("env", "prod ")]).get? envList.name = some "prod " := by decide
  have hnone : (Context.ofList [("env", "prod ")]).get? tokenScript.name = none := by decide
  have htest : (Context.ofList [("env", "test")]).get? envList.name = some "test" := by decide
  have hundeclared : ∀ declared ∈ envList.values, declared.content ≠ "test" := by decide
  have hfirst : overrideDocument.vars = [] ++ envList :: [tokenScript] := rfl
  have hsecond : overrideDocument.vars = [envList] ++ tokenScript :: [] := rfl
  refine ⟨hok, by decide +kernel, by decide +kernel, by decide +kernel, ?_, ?_, ?_⟩
  · exact ((vars_of_parse hparse hfirst prepared _ _).1 hok).1 "prod " hgiven
  · exact ((vars_of_parse hparse hsecond prepared _ _).1 hok).2 hnone
  · exact (vars_of_parse hparse hfirst prepared _ [.ok " abc "]).2 "test" rfl htest
      hundeclared

end Resolver

end CallSheet
