import CallSheet.Proofs.Resolve.Run
import CallSheet.Proofs.Template

/-!
# Values that nothing refers to

A run over components in which no slot of a name is written, and of which none
has that name, does not depend on the value of the name.

The proof compares two runs from contexts that agree on every other name
(`Context.AgreesOff`).  Each component finds the same given value, fills its
content alike and stores the same value under the same name, so the contexts
agree again for the next one.  The commands need no induction of their own:
they are the state of the recorded run.
-/

namespace CallSheet

variable {σ : Type}

/-- Two contexts give the same answer for every name but one. -/
def Context.AgreesOff (name : String) (left right : Context) : Prop :=
  ∀ other, other ≠ name → left.get? other = right.get? other

theorem Context.AgreesOff.insert {name : String} {left right : Context}
    (h : AgreesOff name left right) (stored value : String) :
    AgreesOff name (left.insert stored value) (right.insert stored value) := by
  intro other ho
  rw [get?_insert, get?_insert, h other ho]

/-- A template in which a name's slot is not written is filled alike. -/
theorem Template.fill_agreesOff {name template : String} {left right : Context}
    (h : left.AgreesOff name right)
    (hnot : ¬ written name.toList <:+: template.toList) :
    fill left template = fill right template := by
  refine fill_congr fun other ho => h other ?_
  rintro rfl
  exact hnot ho

/-- A component has nothing to do with a name: the name is another one, and no
slot of it is written in the content. -/
structure Component.Ignores (component : Component) (name : String) : Prop where
  named : component.name ≠ name
  unwritten : ¬ Template.written name.toList <:+: component.firstContent.toList

namespace Resolver

/-- Two outcomes are the same but for the value of one name. -/
structure Outcome.AgreesOff (name : String) (left right : Outcome σ) : Prop where
  result : left.result = right.result
  context : left.context.AgreesOff name right.context
  state : left.state = right.state

variable {resolver : Resolver σ} {force : Bool} {component : Component}
  {components : List Component} {name : String} {left right : Context} {state : σ}

theorem given?_agreesOff (force : Bool) (h : left.AgreesOff name right)
    (hi : component.Ignores name) : given? force component left = given? force component right := by
  rw [given?, given?, h component.name hi.named]

theorem compute_agreesOff (resolver : Resolver σ) (h : left.AgreesOff name right)
    (hi : component.Ignores name) (state : σ) :
    resolver.compute component left state = resolver.compute component right state := by
  rw [compute, compute, Template.fill_agreesOff h hi.unwritten]

/-- A component that has nothing to do with a name gets the same final value. -/
theorem value_agreesOff (resolver : Resolver σ) (force : Bool) (h : left.AgreesOff name right)
    (hi : component.Ignores name) (state : σ) :
    resolver.value force component left state = resolver.value force component right state := by
  have hsource : resolver.source force component left state =
      resolver.source force component right state := by
    cases hg : given? force component left with
    | some value =>
      rw [source_of_given hg, source_of_given (given?_agreesOff force h hi ▸ hg)]
    | none =>
      rw [source_of_not_given hg, source_of_not_given (given?_agreesOff force h hi ▸ hg),
        compute_agreesOff resolver h hi]
  rw [value, value, hsource]

/-- Components that have nothing to do with a name have the same outcome. -/
theorem outcome_agreesOff (resolver : Resolver σ) (force : Bool) (state : σ)
    (h : left.AgreesOff name right) (hi : ∀ component ∈ components, component.Ignores name) :
    (resolver.resolve force left state components).AgreesOff name
      (resolver.resolve force right state components) := by
  induction components generalizing left right state with
  | nil => exact ⟨rfl, h, rfl⟩
  | cons component components ih =>
    have hrest : ∀ other ∈ components, other.Ignores name :=
      fun other ho => hi other (List.mem_cons_of_mem component ho)
    have hvalue := value_agreesOff resolver force h (hi component List.mem_cons_self) state
    cases hv : resolver.value force component left state with
    | mk outcome after =>
      rw [hv] at hvalue
      cases outcome with
      | ok final =>
        rw [resolve_cons_of_ok hv, resolve_cons_of_ok hvalue.symm]
        exact ih after (h.insert component.name final) hrest
      | error error =>
        rw [resolve_cons_of_error hv, resolve_cons_of_error hvalue.symm]
        exact ⟨rfl, h, rfl⟩

/-- Two runs from contexts that agree on every name but one, over components of
which none has that name and none has a slot of it in its first content.  They
have the same result, send the same commands and leave the runner in the same
state; their contexts agree on every other name, and the name keeps its value
in each. -/
theorem resolve_agreesOff (resolver : Resolver σ) (force : Bool) (state : σ)
    (h : ∀ other, other ≠ name → left.get? other = right.get? other)
    (hnames : name ∉ components.map Component.name)
    (hcontents : ∀ component ∈ components,
      ¬ Template.written name.toList <:+: component.firstContent.toList) :
    (resolver.resolve force left state components).result =
        (resolver.resolve force right state components).result ∧
      (resolver.resolve force left state components).state =
        (resolver.resolve force right state components).state ∧
      resolver.commands force left state components =
        resolver.commands force right state components ∧
      (∀ other, other ≠ name →
        (resolver.resolve force left state components).context.get? other =
          (resolver.resolve force right state components).context.get? other) ∧
      (resolver.resolve force left state components).context.get? name = left.get? name ∧
      (resolver.resolve force right state components).context.get? name = right.get? name := by
  have hi : ∀ component ∈ components, component.Ignores name := fun component hmem =>
    ⟨fun he => hnames (he ▸ List.mem_map_of_mem hmem), hcontents component hmem⟩
  have houtcome := outcome_agreesOff resolver force state h hi
  have hrecorded := outcome_agreesOff resolver.recorded force (state, []) h hi
  refine ⟨houtcome.result, houtcome.state, ?_, houtcome.context, ?_, ?_⟩
  · rw [commands, commands, hrecorded.state]
  · exact get?_resolve_of_not_mem hnames
  · exact get?_resolve_of_not_mem hnames

/-- A text that reads one name. -/
def pathText : Component := ⟨"path", .text, [], [Value.text "\x7b\x7bhome\x7d\x7d/x"], 1⟩

/-- A script that reads the text. -/
def pathScript : Component := ⟨"file", .script, [], [Value.text "cat \x7b\x7bpath\x7d\x7d"], 2⟩

/-- A context with a value that looks like a slot of another name. -/
def homeContext : Context := Context.ofList [("home", "\x7b\x7buser\x7d\x7d")]

/-- The name has no value, or it has one. -/
theorem resolve_agreesOff_user :
    prepared.commands false homeContext [] [pathText, pathScript] =
        ["cat \x7b\x7buser\x7d\x7d/x"] ∧
      prepared.commands false (homeContext.insert "user" "me") [] [pathText, pathScript] =
        ["cat \x7b\x7buser\x7d\x7d/x"] ∧
      (prepared.resolve false (homeContext.insert "user" "me") []
        [pathText, pathScript]).context.get? "user" = some "me" := by
  have hagree : ∀ other, other ≠ "user" →
      homeContext.get? other = (homeContext.insert "user" "me").get? other := by
    intro other ho
    rw [Context.get?_insert, if_neg ho]
  have hnames : "user" ∉ [pathText, pathScript].map Component.name := by decide
  have hcontents : ∀ component ∈ [pathText, pathScript],
      ¬ Template.written "user".toList <:+: component.firstContent.toList := by decide +kernel
  obtain ⟨-, -, hcommands, -, -, hkept⟩ :=
    resolve_agreesOff prepared false [] hagree hnames hcontents
  have hsent : prepared.commands false homeContext [] [pathText, pathScript] =
      ["cat \x7b\x7buser\x7d\x7d/x"] := by decide +kernel
  refine ⟨hsent, hcommands ▸ hsent, ?_⟩
  rw [hkept, Context.get?_insert, if_pos rfl]

end Resolver

end CallSheet
