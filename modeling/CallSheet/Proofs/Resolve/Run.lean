import CallSheet.Resolve

/-!
# Runs of the resolver

How the outcome of a list of components is made up of the outcomes of its
parts, and which commands a run sends.

There are three groups.

* One component.  `source_of_given` and `source_of_not_given` say where a value
  comes from, and `value_eq_ok` takes a final value apart.
* Many components.  `resolve_append` cuts a list in two, and
  `get?_resolve_of_not_mem` says that only the names of components change.
* Commands.  `Resolver.recorded` keeps a record of the commands, and
  `resolve_recorded` says that this changes nothing else.  So
  `Resolver.commands` is what a run sends, and a run leaves what these commands
  leave (`leave_resolve`).
-/

namespace CallSheet

open Text

variable {σ : Type}

namespace Resolver

variable {resolver : Resolver σ} {force : Bool} {component : Component} {context : Context}
  {state : σ} {name value : String} {rest : List Component}

/-! ## One component -/

/-- The value that counts as a component's own: the one that is there, unless
values are forced. -/
def given? (force : Bool) (component : Component) (context : Context) : Option String :=
  if force then none else context.get? component.name

theorem given?_unforced (component : Component) (context : Context) :
    given? false component context = context.get? component.name := rfl

/-- A given value is checked, and nothing is run. -/
theorem source_of_given (h : given? force component context = some value) (state : σ) :
    resolver.source force component context state = (check component value, state) := by
  rw [given?] at h
  rw [source, h]

/-- Without a given value, the component's own is computed. -/
theorem source_of_not_given (h : given? force component context = none) (state : σ) :
    resolver.source force component context state =
      resolver.compute component context state := by
  rw [given?] at h
  rw [source, h]

theorem permits_iff {component : Component} {value : String} :
    component.permits value = true ↔ ∃ declared ∈ component.values, declared.content = value := by
  simp [Component.permits]

/-- A value that is there passes if the component is no list or declares it. -/
theorem check_eq_ok_iff :
    check component value = .ok value ↔
      (component.kind = .list → ∃ declared ∈ component.values, declared.content = value) := by
  rw [check, ← permits_iff]
  split
  · next h =>
    simp [h.1, h.2]
  · next h =>
    rw [not_and, Bool.not_eq_false] at h
    simpa using h

theorem check_of_undeclared (hk : component.kind = .list)
    (h : ∀ declared ∈ component.values, declared.content ≠ value) :
    check component value =
      .error (.notPermitted component.name value (component.values.map (·.content))) := by
  have hp : component.permits value = false := by
    rw [Bool.eq_false_iff, ne_eq, permits_iff]
    rintro ⟨declared, hmem, heq⟩
    exact h declared hmem heq
  rw [check, if_pos ⟨hk, hp⟩]

theorem eq_of_check_eq_ok {other : String} (h : check component value = .ok other) :
    other = value := by
  rw [check] at h
  split at h
  · cases h
  · cases h
    rfl

/-- A script computes what the runner answers to its filled content. -/
theorem compute_script (hk : component.kind = .script) (context : Context) (state : σ) :
    resolver.compute component context state =
      ((resolver.runner (Template.fill context component.firstContent) state).1.mapError
          (.command component.name),
        (resolver.runner (Template.fill context component.firstContent) state).2) := by
  have hf : ¬ component.kind.isFileList = true := by
    rw [hk]
    decide
  rw [compute, if_neg hf]
  simp only [hk, ↓reduceIte]
  cases resolver.runner (Template.fill context component.firstContent) state with
  | mk answer after => cases answer <;> rfl

/-- What a component without a script computes does not depend on the runner,
which is left alone. -/
theorem compute_of_not_script (hk : component.kind ≠ .script) (context : Context) (state : σ) :
    resolver.compute component context state =
      (if component.kind.isFileList then .error (.unexpanded component.name)
        else .ok (Template.fill context component.firstContent), state) := by
  simp only [compute, hk, ↓reduceIte]
  split <;> rfl

/-- A final value is a value that went through the converters. -/
theorem value_eq_ok {final : String} {after : σ}
    (h : resolver.value force component context state = (.ok final, after)) :
    ∃ value, resolver.source force component context state = (.ok value, after) ∧
      resolver.registry.apply value component.converters = .ok final := by
  rw [Resolver.value] at h
  split at h
  · next value middle hsource =>
    obtain ⟨hconvert, rfl⟩ := Prod.mk.inj h
    refine ⟨value, hsource, ?_⟩
    rw [convert] at hconvert
    split at hconvert
    · next final' happly =>
      cases hconvert
      exact happly
    · cases hconvert
  · cases h

/-! ## Many components -/

theorem resolve_cons_of_ok {final : String} {after : σ}
    (h : resolver.value force component context state = (.ok final, after)) :
    resolver.resolve force context state (component :: rest) =
      resolver.resolve force (context.insert component.name final) after rest := by
  rw [resolve, h]

theorem resolve_cons_of_error {error : ResolveError} {after : σ}
    (h : resolver.value force component context state = (.error error, after)) :
    resolver.resolve force context state (component :: rest) = ⟨.error error, context, after⟩ := by
  rw [resolve, h]

/-- A successful run starts with a component that has a final value. -/
theorem value_of_resolve_cons
    (h : (resolver.resolve force context state (component :: rest)).result = .ok ()) :
    ∃ final after, resolver.value force component context state = (.ok final, after) := by
  cases hv : resolver.value force component context state with
  | mk outcome after =>
    cases outcome with
    | ok final => exact ⟨final, after, rfl⟩
    | error error =>
      rw [resolve_cons_of_error hv] at h
      cases h

/-- Goes on after a run that succeeded. -/
def Outcome.andThen (outcome : Outcome σ) (next : Context → σ → Outcome σ) : Outcome σ :=
  match outcome.result with
  | .ok () => next outcome.context outcome.state
  | .error _ => outcome

theorem Outcome.andThen_of_ok {outcome : Outcome σ} (h : outcome.result = .ok ())
    (next : Context → σ → Outcome σ) :
    outcome.andThen next = next outcome.context outcome.state := by
  rw [andThen, h]

theorem Outcome.andThen_of_error {outcome : Outcome σ} {error : ResolveError}
    (h : outcome.result = .error error) (next : Context → σ → Outcome σ) :
    outcome.andThen next = outcome := by
  rw [andThen, h]

/-- Components are resolved one list after the other. -/
theorem resolve_append (resolver : Resolver σ) (force : Bool) (context : Context) (state : σ)
    (first second : List Component) :
    resolver.resolve force context state (first ++ second) =
      (resolver.resolve force context state first).andThen fun context state =>
        resolver.resolve force context state second := by
  induction first generalizing context state with
  | nil => rfl
  | cons component first ih =>
    cases hv : resolver.value force component context state with
    | mk outcome after =>
      cases outcome with
      | ok final => rw [List.cons_append, resolve_cons_of_ok hv, resolve_cons_of_ok hv, ih]
      | error error =>
        rw [List.cons_append, resolve_cons_of_error hv, resolve_cons_of_error hv]
        rfl

/-- What comes after a list counts only for the values and the state that the
list leaves. -/
theorem resolve_append_congr {first second third : List Component}
    (h : resolver.resolve force (resolver.resolve force context state first).context
        (resolver.resolve force context state first).state second =
      resolver.resolve force (resolver.resolve force context state first).context
        (resolver.resolve force context state first).state third) :
    resolver.resolve force context state (first ++ second) =
      resolver.resolve force context state (first ++ third) := by
  rw [resolve_append, resolve_append]
  simp only [Outcome.andThen, h]

/-- If a list of components can be resolved, so can each start of it. -/
theorem result_of_append {first second : List Component}
    (h : (resolver.resolve force context state (first ++ second)).result = .ok ()) :
    (resolver.resolve force context state first).result = .ok () := by
  cases hr : (resolver.resolve force context state first).result with
  | ok done => rfl
  | error error =>
    rw [resolve_append, Outcome.andThen_of_error hr, hr] at h
    cases h

/-- Names that no component has keep their values, also when the run fails. -/
theorem get?_resolve_of_not_mem {components : List Component}
    (h : name ∉ components.map Component.name) :
    (resolver.resolve force context state components).context.get? name = context.get? name := by
  induction components generalizing context state with
  | nil => rfl
  | cons component components ih =>
    rw [List.map_cons, List.mem_cons, not_or] at h
    cases hv : resolver.value force component context state with
    | mk outcome after =>
      cases outcome with
      | ok final =>
        rw [resolve_cons_of_ok hv, ih h.2, Context.get?_insert, if_neg h.1]
      | error error => rw [resolve_cons_of_error hv]

end Resolver

/-! ## Commands -/

/-- A runner that keeps a record of its commands, in order. -/
def Runner.recorded (runner : Runner σ) : Runner (σ × List String) := fun command state =>
  ((runner command state.1).1, (runner command state.1).2, state.2 ++ [command])

namespace Resolver

/-- A resolver that keeps a record of its commands. -/
def recorded (resolver : Resolver σ) : Resolver (σ × List String) :=
  ⟨resolver.registry, resolver.runner.recorded⟩

/-- The resolver of the converters that are always there and of prepared
answers. -/
def prepared : Resolver (List (Except CommandError String)) :=
  ⟨Converter.Registry.builtin, Runner.prepared⟩

/-- The commands that a run sends, in order. -/
def commands (resolver : Resolver σ) (force : Bool) (context : Context) (state : σ)
    (components : List Component) : List String :=
  (resolver.recorded.resolve force context (state, []) components).state.2

/-- The command that a component sends: a script's filled content, unless the
script has a given value. -/
def command? (force : Bool) (component : Component) (context : Context) : Option String :=
  if component.kind = .script ∧ given? force component context = none then
    some (Template.fill context component.firstContent)
  else none

variable {resolver : Resolver σ} {force : Bool} {component : Component} {context : Context}
  {state : σ} {components : List Component}

theorem compute_recorded (resolver : Resolver σ) (component : Component) (context : Context)
    (state : σ) (record : List String) :
    resolver.recorded.compute component context (state, record) =
      ((resolver.compute component context state).1,
        (resolver.compute component context state).2,
        record ++ if component.kind = .script then
          [Template.fill context component.firstContent] else []) := by
  by_cases hk : component.kind = .script
  · rw [compute_script hk, compute_script hk, if_pos hk]
    rfl
  · rw [compute_of_not_script hk, compute_of_not_script hk, if_neg hk, List.append_nil]

theorem source_recorded (resolver : Resolver σ) (force : Bool) (component : Component)
    (context : Context) (state : σ) (record : List String) :
    resolver.recorded.source force component context (state, record) =
      ((resolver.source force component context state).1,
        (resolver.source force component context state).2,
        record ++ (command? force component context).toList) := by
  cases hg : given? force component context with
  | some value =>
    rw [source_of_given hg, source_of_given hg, command?, if_neg (by simp [hg])]
    simp
  | none =>
    rw [source_of_not_given hg, source_of_not_given hg, compute_recorded, command?]
    by_cases hk : component.kind = .script
    · rw [if_pos hk, if_pos ⟨hk, hg⟩]
      rfl
    · rw [if_neg hk, if_neg (fun h => hk h.1)]
      rfl

/-- Recording adds the component's command to the record and changes nothing
else. -/
theorem value_recorded (resolver : Resolver σ) (force : Bool) (component : Component)
    (context : Context) (state : σ) (record : List String) :
    resolver.recorded.value force component context (state, record) =
      ((resolver.value force component context state).1,
        (resolver.value force component context state).2,
        record ++ (command? force component context).toList) := by
  rw [value, value, source_recorded]
  cases hs : resolver.source force component context state with
  | mk outcome after =>
    cases outcome with
    | ok value => rfl
    | error error => rfl

theorem resolve_recorded_cons_of_ok {final : String} {after : σ} (record : List String)
    (h : resolver.value force component context state = (.ok final, after)) :
    resolver.recorded.resolve force context (state, record) (component :: components) =
      resolver.recorded.resolve force (context.insert component.name final)
        (after, record ++ (command? force component context).toList) components := by
  have hv := value_recorded resolver force component context state record
  rw [h] at hv
  exact resolve_cons_of_ok hv

theorem resolve_recorded_cons_of_error {error : ResolveError} {after : σ} (record : List String)
    (h : resolver.value force component context state = (.error error, after)) :
    resolver.recorded.resolve force context (state, record) (component :: components) =
      ⟨.error error, context, after, record ++ (command? force component context).toList⟩ := by
  have hv := value_recorded resolver force component context state record
  rw [h] at hv
  exact resolve_cons_of_error hv

/-- Recording adds the commands of a run to the record and changes nothing
else. -/
theorem resolve_recorded (resolver : Resolver σ) (force : Bool) (context : Context)
    (state : σ) (record : List String) (components : List Component) :
    resolver.recorded.resolve force context (state, record) components =
      ⟨(resolver.resolve force context state components).result,
        (resolver.resolve force context state components).context,
        (resolver.resolve force context state components).state,
        record ++ resolver.commands force context state components⟩ := by
  induction components generalizing context state record with
  | nil => simp [resolve, commands]
  | cons component components ih =>
    cases hv : resolver.value force component context state with
    | mk outcome after =>
      cases outcome with
      | ok final =>
        rw [commands, resolve_recorded_cons_of_ok record hv, resolve_recorded_cons_of_ok [] hv,
          ih, ih, resolve_cons_of_ok hv]
        simp
      | error error =>
        rw [commands, resolve_recorded_cons_of_error record hv,
          resolve_recorded_cons_of_error [] hv, resolve_cons_of_error hv]
        rfl

theorem commands_nil (resolver : Resolver σ) (force : Bool) (context : Context) (state : σ) :
    resolver.commands force context state [] = [] := rfl

theorem commands_cons_of_ok {final : String} {after : σ}
    (h : resolver.value force component context state = (.ok final, after)) :
    resolver.commands force context state (component :: components) =
      (command? force component context).toList ++
        resolver.commands force (context.insert component.name final) after components := by
  rw [commands, resolve_recorded_cons_of_ok [] h, resolve_recorded, List.nil_append]

theorem commands_cons_of_error {error : ResolveError} {after : σ}
    (h : resolver.value force component context state = (.error error, after)) :
    resolver.commands force context state (component :: components) =
      (command? force component context).toList := by
  rw [commands, resolve_recorded_cons_of_error [] h, List.nil_append]

theorem commands_singleton (resolver : Resolver σ) (force : Bool) (component : Component)
    (context : Context) (state : σ) :
    resolver.commands force context state [component] =
      (command? force component context).toList := by
  cases hv : resolver.value force component context state with
  | mk outcome after =>
    cases outcome with
    | ok final => rw [commands_cons_of_ok hv, commands_nil, List.append_nil]
    | error error => exact commands_cons_of_error hv

/-- A list after one that was resolved sends its commands after theirs. -/
theorem commands_append_of_ok {first : List Component}
    (h : (resolver.resolve force context state first).result = .ok ())
    (second : List Component) :
    resolver.commands force context state (first ++ second) =
      resolver.commands force context state first ++
        resolver.commands force (resolver.resolve force context state first).context
          (resolver.resolve force context state first).state second := by
  induction first generalizing context state with
  | nil => rfl
  | cons component first ih =>
    obtain ⟨final, after, hv⟩ := value_of_resolve_cons h
    rw [resolve_cons_of_ok hv] at h ⊢
    rw [List.cons_append, commands_cons_of_ok hv, commands_cons_of_ok hv, ih h, List.append_assoc]

/-- What commands leave, one after the other. -/
def leave (resolver : Resolver σ) (state : σ) (commands : List String) : σ :=
  commands.foldl (fun state command => (resolver.runner command state).2) state

theorem leave_append (resolver : Resolver σ) (state : σ) (first second : List String) :
    resolver.leave state (first ++ second) =
      resolver.leave (resolver.leave state first) second :=
  List.foldl_append

theorem leave_value (resolver : Resolver σ) (force : Bool) (component : Component)
    (context : Context) (state : σ) :
    (resolver.value force component context state).2 =
      resolver.leave state (command? force component context).toList := by
  have hsource : (resolver.source force component context state).2 =
      resolver.leave state (command? force component context).toList := by
    cases hg : given? force component context with
    | some value =>
      have hcommand : command? force component context = none := if_neg (by simp [hg])
      rw [source_of_given hg, hcommand]
      rfl
    | none =>
      rw [source_of_not_given hg]
      by_cases hk : component.kind = .script
      · have hcommand : command? force component context = some _ := if_pos ⟨hk, hg⟩
        rw [compute_script hk, hcommand]
        rfl
      · have hcommand : command? force component context = none := if_neg fun h => hk h.1
        rw [compute_of_not_script hk, hcommand]
        rfl
  rw [← hsource, value]
  cases resolver.source force component context state with
  | mk outcome after => cases outcome <;> rfl

/-- A run leaves what its commands leave. -/
theorem leave_resolve (resolver : Resolver σ) (force : Bool) (context : Context) (state : σ)
    (components : List Component) :
    (resolver.resolve force context state components).state =
      resolver.leave state (resolver.commands force context state components) := by
  induction components generalizing context state with
  | nil => rfl
  | cons component components ih =>
    have hleave := leave_value resolver force component context state
    cases hv : resolver.value force component context state with
    | mk outcome after =>
      rw [hv] at hleave
      obtain rfl : after = _ := hleave
      cases outcome with
      | ok final => rw [resolve_cons_of_ok hv, commands_cons_of_ok hv, ih, leave_append]
      | error error => rw [resolve_cons_of_error hv, commands_cons_of_error hv]

end Resolver

end CallSheet
