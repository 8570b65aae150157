import CallSheet.Proofs.Resolve.Run
import Mathlib.Data.List.Basic
import Mathlib.Data.List.Induction

/-!
# Components in order

Components are resolved one after the other, and the first one without a final
value ends the run.

* `Resolver.commandAt` is the command of one component of a list.  A run sends
  these commands in the order of the components (`commands_of_ok`).
* `Resolver.StopsAt` says what a failed run leaves behind: the context that the
  failing component found, and the commands up to its own.
* `Resolver.resolve_sequential` is the result.
-/

namespace CallSheet

variable {σ : Type}

/-- The component that an error is about. -/
def ResolveError.component? : ResolveError → Option String
  | .notPermitted name _ _ => some name
  | .convert name _ => some name
  | .command name _ => some name
  | .unexpanded name => some name
  | .unknownAction _ => none
  | .missingAction => none

namespace Resolver

variable {resolver : Resolver σ} {force : Bool} {start context : Context} {state next : σ}
  {before after first second components : List Component} {component : Component}
  {error : ResolveError} {name : String}

/-! ## One component -/

theorem component?_of_compute
    (h : resolver.compute component context state = (.error error, next)) :
    error.component? = some component.name := by
  by_cases hk : component.kind = .script
  · rw [compute_script hk] at h
    have hanswer := (Prod.mk.inj h).1
    cases hr : (resolver.runner (Template.fill context component.firstContent) state).1 with
    | ok answer =>
      rw [hr] at hanswer
      cases hanswer
    | error fault =>
      rw [hr] at hanswer
      cases hanswer
      rfl
  · rw [compute_of_not_script hk] at h
    have hcomputed := (Prod.mk.inj h).1
    split at hcomputed
    · cases hcomputed
      rfl
    · cases hcomputed

theorem component?_of_source
    (h : resolver.source force component context state = (.error error, next)) :
    error.component? = some component.name := by
  cases hg : given? force component context with
  | some value =>
    rw [source_of_given hg, check] at h
    have hcheck := (Prod.mk.inj h).1
    split at hcheck
    · cases hcheck
      rfl
    · cases hcheck
  | none =>
    rw [source_of_not_given hg] at h
    exact component?_of_compute h

/-- The error of a component without a final value names the component. -/
theorem component?_of_value
    (h : resolver.value force component context state = (.error error, next)) :
    error.component? = some component.name := by
  rw [value] at h
  cases hs : resolver.source force component context state with
  | mk outcome after =>
    rw [hs] at h
    cases outcome with
    | error found =>
      cases h
      exact component?_of_source hs
    | ok value =>
      have hconvert := (Prod.mk.inj h).1
      rw [convert] at hconvert
      split at hconvert
      · cases hconvert
      · cases hconvert
        rfl

/-! ## Commands in order -/

/-- The command of the component at an index, in the context that the
components before it leave. -/
def commandAt (resolver : Resolver σ) (force : Bool) (start : Context) (state : σ)
    (components : List Component) (index : Nat) : Option String :=
  components[index]?.bind fun component =>
    command? force component (resolver.resolve force start state (components.take index)).context

/-- What comes after a component has no part in its command. -/
theorem commandAt_append {index : Nat} (h : index < first.length) (second : List Component) :
    resolver.commandAt force start state (first ++ second) index =
      resolver.commandAt force start state first index := by
  rw [commandAt, commandAt, List.getElem?_append_left h, List.take_append_of_le_length (by omega)]

theorem commandAt_length (before : List Component) (component : Component)
    (after : List Component) :
    resolver.commandAt force start state (before ++ component :: after) before.length =
      command? force component (resolver.resolve force start state before).context := by
  rw [commandAt, List.getElem?_append_right (Nat.le_refl _), Nat.sub_self, List.take_left]
  rfl

/-- The commands up to a component are those before it and its own. -/
theorem filterMap_commandAt_succ (before : List Component) (component : Component)
    (after : List Component) :
    (List.range (before.length + 1)).filterMap
        (resolver.commandAt force start state (before ++ component :: after)) =
      (List.range before.length).filterMap (resolver.commandAt force start state before) ++
        (command? force component
          (resolver.resolve force start state before).context).toList := by
  rw [List.range_succ, List.filterMap_append]
  congr 1
  · refine List.filterMap_congr fun index hindex => ?_
    exact commandAt_append (List.mem_range.1 hindex) _
  · rw [List.filterMap_cons, commandAt_length, List.filterMap_nil]
    cases command? force component (resolver.resolve force start state before).context <;> rfl

/-- A run that succeeds sends the command of each component, in order.  The
induction goes from the last component, because the command of a component
refers to all components before it. -/
theorem commands_of_ok (h : (resolver.resolve force start state components).result = .ok ()) :
    resolver.commands force start state components =
      (List.range components.length).filterMap
        (resolver.commandAt force start state components) := by
  induction components using List.reverseRecOn with
  | nil => rfl
  | append_singleton before component ih =>
    have hbefore := result_of_append h
    rw [commands_append_of_ok hbefore, commands_singleton, ih hbefore, List.length_append,
      List.length_singleton, filterMap_commandAt_succ]

/-- After components that failed, nothing is sent. -/
theorem commands_append_of_error
    (h : (resolver.resolve force start state first).result = .error error)
    (second : List Component) :
    resolver.commands force start state (first ++ second) =
      resolver.commands force start state first := by
  have hrecorded :
      (resolver.recorded.resolve force start (state, []) first).result = .error error := by
    rw [resolve_recorded, h]
  rw [commands, resolve_append, Outcome.andThen_of_error hrecorded, commands]

/-! ## Where a run stops -/

/-- A run over a list stops at one of its components, with an error. -/
structure StopsAt (resolver : Resolver σ) (force : Bool) (start : Context) (state : σ)
    (before : List Component) (component : Component) (after : List Component)
    (error : ResolveError) : Prop where
  /-- The components before it have final values. -/
  reached : (resolver.resolve force start state before).result = .ok ()
  /-- The component has none, and this is the error. -/
  failed : (resolver.value force component (resolver.resolve force start state before).context
    (resolver.resolve force start state before).state).1 = .error error
  named : error.component? = some component.name
  /-- The context is the one that the component found. -/
  kept : (resolver.resolve force start state (before ++ component :: after)).context =
    (resolver.resolve force start state before).context
  /-- The state of the runner is the one that the component left. -/
  left : (resolver.resolve force start state (before ++ component :: after)).state =
    (resolver.value force component (resolver.resolve force start state before).context
      (resolver.resolve force start state before).state).2
  /-- The commands are those of the components up to this one, in order. -/
  sent : resolver.commands force start state (before ++ component :: after) =
    (List.range (before.length + 1)).filterMap
      (resolver.commandAt force start state (before ++ component :: after))

/-- A run that fails comes to a component without a final value. -/
theorem exists_failing (h : (resolver.resolve force start state components).result = .error error) :
    ∃ before component after, components = before ++ component :: after ∧
      (resolver.resolve force start state before).result = .ok () ∧
      (resolver.value force component (resolver.resolve force start state before).context
        (resolver.resolve force start state before).state).1 = .error error := by
  induction components generalizing start state with
  | nil => cases h
  | cons component components ih =>
    cases hv : resolver.value force component start state with
    | mk outcome next =>
      cases outcome with
      | error found =>
        rw [resolve_cons_of_error hv] at h
        cases h
        exact ⟨[], component, components, rfl, rfl, by rw [resolve, hv]⟩
      | ok final =>
        rw [resolve_cons_of_ok hv] at h
        obtain ⟨before, failing, after, rfl, hbefore, hfailed⟩ := ih h
        refine ⟨component :: before, failing, after, rfl, ?_, ?_⟩
        · rw [resolve_cons_of_ok hv, hbefore]
        · rw [resolve_cons_of_ok hv, hfailed]

/-- A run stops at the first component without a final value. -/
theorem stopsAt_of_value_eq_error (after : List Component)
    (hbefore : (resolver.resolve force start state before).result = .ok ())
    (h : (resolver.value force component (resolver.resolve force start state before).context
      (resolver.resolve force start state before).state).1 = .error error) :
    resolver.StopsAt force start state before component after error := by
  cases hv : resolver.value force component (resolver.resolve force start state before).context
      (resolver.resolve force start state before).state with
  | mk outcome next =>
    obtain rfl : outcome = .error error := by rw [← h, hv]
    have hrun : resolver.resolve force start state (before ++ component :: after) =
        ⟨.error error, (resolver.resolve force start state before).context, next⟩ := by
      rw [resolve_append, Outcome.andThen_of_ok hbefore, resolve_cons_of_error hv]
    refine ⟨hbefore, h, component?_of_value hv, by rw [hrun], by rw [hrun, hv], ?_⟩
    rw [commands_append_of_ok hbefore, commands_cons_of_error hv, commands_of_ok hbefore,
      filterMap_commandAt_succ]

/-- Components are resolved strictly in order.  Two lists, one after the other,
are resolved like the first list and then, if that succeeded, the second one.  A
run that fails stops at one component: the context is what the components before
it left, and the commands are those of the components up to it.  So the value
under a name does not depend on what comes later, unless a later component has
this name. -/
theorem resolve_sequential (resolver : Resolver σ) (force : Bool) (start : Context) (state : σ) :
    (∀ first second : List Component,
      resolver.resolve force start state (first ++ second) =
          (resolver.resolve force start state first).andThen
            (fun context state => resolver.resolve force context state second) ∧
        resolver.commands force start state (first ++ second) =
          resolver.commands force start state first ++
            match (resolver.resolve force start state first).result with
            | .ok () =>
              resolver.commands force (resolver.resolve force start state first).context
                (resolver.resolve force start state first).state second
            | .error _ => []) ∧
    (∀ components error, (resolver.resolve force start state components).result = .error error →
      ∃ before component after, components = before ++ component :: after ∧
        resolver.StopsAt force start state before component after error) ∧
    (∀ components later name, name ∉ later.map Component.name →
      (resolver.resolve force start state (components ++ later)).context.get? name =
        (resolver.resolve force start state components).context.get? name) := by
  refine ⟨fun first second => ⟨resolve_append _ _ _ _ _ _, ?_⟩, ?_, ?_⟩
  · cases h : (resolver.resolve force start state first).result with
    | ok done => exact commands_append_of_ok h second
    | error error => rw [commands_append_of_error h, List.append_nil]
  · intro components error h
    obtain ⟨before, component, after, rfl, hbefore, hfailed⟩ := exists_failing h
    exact ⟨before, component, after, rfl, stopsAt_of_value_eq_error after hbefore hfailed⟩
  · intro components later name hname
    rw [resolve_append]
    cases h : (resolver.resolve force start state components).result with
    | ok done => rw [Outcome.andThen_of_ok h, get?_resolve_of_not_mem hname]
    | error error => rw [Outcome.andThen_of_error h]

/-- A text, a script with a value of its own, a script that reads both, and a
script whose answer cannot be converted, before a text. -/
def stopList : List Component :=
  [⟨"a", .text, ["upper"], [Value.text "x"], 1⟩,
    ⟨"given", .script, [], [Value.text "never"], 2⟩,
    ⟨"key", .script, ["trim"], [Value.text "get \x7b\x7ba\x7d\x7d \x7b\x7bgiven\x7d\x7d"], 3⟩,
    ⟨"fail", .script, ["nope"], [Value.text "use \x7b\x7bkey\x7d\x7d"], 4⟩,
    ⟨"later", .text, [], [Value.text "\x7b\x7ba\x7d\x7d"], 5⟩]

/-- The run stops at the last script, after its command. -/
theorem resolve_sequential_stopList :
    (prepared.resolve false (Context.ofList [("given", "g")]) [.ok " k "] stopList).result =
        .error (.convert "fail" (.unknownConverter "nope")) ∧
      (∃ before component after, stopList = before ++ component :: after ∧
        prepared.StopsAt false (Context.ofList [("given", "g")]) [.ok " k "] before component after
          (.convert "fail" (.unknownConverter "nope"))) ∧
      prepared.commands false (Context.ofList [("given", "g")]) [.ok " k "] stopList =
        ["get X g", "use k"] ∧
      (prepared.resolve false (Context.ofList [("given", "g")]) [.ok " k "]
        stopList).context.get? "key" =
        (prepared.resolve false (Context.ofList [("given", "g")]) [.ok " k "]
          (stopList.take 3)).context.get? "key" := by
  have herror : (prepared.resolve false (Context.ofList [("given", "g")]) [.ok " k "]
      stopList).result = .error (.convert "fail" (.unknownConverter "nope")) := by rfl
  obtain ⟨-, hstops, hlater⟩ :=
    resolve_sequential prepared false (Context.ofList [("given", "g")]) [.ok " k "]
  refine ⟨herror, hstops stopList _ herror, by decide +kernel, ?_⟩
  exact hlater (stopList.take 3) (stopList.drop 3) "key" (by decide)

end Resolver

end CallSheet
