import CallSheet.Proofs.Resolve.Overrides
import CallSheet.Proofs.Resolve.Sequence

/-!
# What a run writes

The context after a run, entry by entry: which names it has, in which order, and where
the value under each of them comes from.

There are three groups.

* Names.  `Context.newNames` are the names that components bring into a context, and
  `names_insert_append_newNames` says what the first of the components does to them.
* Runs.  `Resolver.Written` describes a context that components were written to, and
  `written_of_ok` says that a run that succeeds writes all of its components.
* The whole.  `resolve_writes` says the same of a run that fails, up to the component
  that it stops at.
-/

namespace CallSheet

/-! ## Names -/

namespace Context

/-- The names of components that a context does not have, in the order in which they
are declared first. -/
def newNames (context : Context) (components : List Component) : List String :=
  ((components.map Component.name).filter fun name => name ∉ context.names).eraseDups

/-- Storing the value of the first component and then bringing in the names of the
others brings in the names of all of them. -/
theorem names_insert_append_newNames (context : Context) (component : Component)
    (components : List Component) (value : String) :
    (context.insert component.name value).names ++
        (context.insert component.name value).newNames components =
      context.names ++ context.newNames (component :: components) := by
  rw [newNames, newNames, names_insert, List.map_cons]
  by_cases hknown : component.name ∈ context.names
  · rw [if_pos hknown, List.filter_cons_of_neg (by simpa using hknown)]
  · rw [if_neg hknown, List.filter_cons_of_pos (by simpa using hknown), List.eraseDups_cons,
      List.append_assoc, List.singleton_append, List.filter_filter]
    congr 4
    funext name
    rw [Bool.eq_iff_iff]
    simp [and_comm]

end Context

/-! ## Runs -/

namespace Resolver

variable {σ : Type} {resolver : Resolver σ} {force : Bool} {start : Context} {state : σ}
  {before after components : List Component} {component : Component} {name : String}

/-- A context that components were written to, one after the other. -/
structure Written (resolver : Resolver σ) (force : Bool) (start : Context) (state : σ)
    (components : List Component) (final : Context) : Prop where
  /-- The names of the start keep their places, and the others come after them. -/
  names : final.names = start.names ++ start.newNames components
  /-- Under every name but those of the components there is what was there before. -/
  kept : ∀ name, name ∉ components.map Component.name → final.get? name = start.get? name
  /-- Under the name of a component there is the value of the last one of that name. -/
  last : ∀ name ∈ components.map Component.name, ∃ before component after value,
    components = before ++ component :: after ∧ component.name = name ∧
      name ∉ after.map Component.name ∧
      (resolver.value force component (resolver.resolve force start state before).context
        (resolver.resolve force start state before).state).1 = .ok value ∧
      final.get? name = some value

theorem names_of_ok (h : (resolver.resolve force start state components).result = .ok ()) :
    (resolver.resolve force start state components).context.names =
      start.names ++ start.newNames components := by
  induction components generalizing start state with
  | nil => exact (List.append_nil start.names).symm
  | cons component components ih =>
    obtain ⟨final, next, hvalue⟩ := value_of_resolve_cons h
    rw [resolve_cons_of_ok hvalue] at h ⊢
    rw [ih h, Context.names_insert_append_newNames]

/-- The last component of a name. -/
theorem exists_last (h : name ∈ components.map Component.name) :
    ∃ before component after, components = before ++ component :: after ∧ component.name = name ∧
      name ∉ after.map Component.name := by
  induction components with
  | nil => cases h
  | cons component components ih =>
    by_cases hlater : name ∈ components.map Component.name
    · obtain ⟨before, found, after, rfl, hfound, hafter⟩ := ih hlater
      exact ⟨component :: before, found, after, rfl, hfound, hafter⟩
    · rw [List.map_cons, List.mem_cons] at h
      have hname : component.name = name := (h.resolve_right hlater).symm
      exact ⟨[], component, components, rfl, hname, hlater⟩

/-- A component that no later one has the name of keeps its value. -/
theorem get?_of_last
    (h : (resolver.resolve force start state (before ++ component :: after)).result = .ok ())
    (hlast : component.name ∉ after.map Component.name) :
    ∃ value,
      (resolver.value force component (resolver.resolve force start state before).context
        (resolver.resolve force start state before).state).1 = .ok value ∧
      (resolver.resolve force start state (before ++ component :: after)).context.get?
        component.name = some value := by
  obtain ⟨value, next, hvalue, hrun⟩ := resolve_split h
  refine ⟨value, by rw [hvalue], ?_⟩
  rw [hrun, get?_resolve_of_not_mem hlast, Context.get?_insert, if_pos rfl]

/-- A run that succeeds writes all of its components. -/
theorem written_of_ok (h : (resolver.resolve force start state components).result = .ok ()) :
    resolver.Written force start state components
      (resolver.resolve force start state components).context where
  names := names_of_ok h
  kept name hname := get?_resolve_of_not_mem hname
  last name hname := by
    obtain ⟨before, component, after, rfl, rfl, hlast⟩ := exists_last hname
    obtain ⟨value, hvalue, hget⟩ := get?_of_last h hlast
    exact ⟨before, component, after, value, rfl, rfl, hlast, hvalue, hget⟩

/-! ## The whole -/

/-- A run writes its components into the context, all of them or those before the one
that it stops at, and changes nothing else: the names that were there keep their places
and the others follow in the order in which they are declared first, and the value under
a name is that of the last component that was written under it, or the one that was there
before. -/
theorem resolve_writes (resolver : Resolver σ) (force : Bool) (start : Context) (state : σ)
    (components : List Component) :
    ((resolver.resolve force start state components).result = .ok () →
      resolver.Written force start state components
        (resolver.resolve force start state components).context) ∧
    ∀ error, (resolver.resolve force start state components).result = .error error →
      ∃ before component after, components = before ++ component :: after ∧
        resolver.StopsAt force start state before component after error ∧
        resolver.Written force start state before
          (resolver.resolve force start state components).context := by
  constructor
  · intro h
    exact written_of_ok h
  · intro error h
    obtain ⟨before, component, after, rfl, hbefore, hfailed⟩ := exists_failing h
    have hstops := stopsAt_of_value_eq_error after hbefore hfailed
    refine ⟨before, component, after, rfl, hstops, ?_⟩
    rw [hstops.kept]
    exact written_of_ok hbefore

/-- A name that is declared twice, a reserved name and one that is given, with a script
between them. -/
def twiceList : List Component :=
  [⟨"a", .text, [], [Value.text "1"], 1⟩,
    ⟨"CURDIR", .text, [], [Value.text "\x7b\x7ba\x7d\x7d"], 2⟩,
    ⟨"b", .text, ["upper"], [Value.text "b"], 3⟩,
    ⟨"a", .text, [], [Value.text "\x7b\x7bgiven\x7d\x7d2"], 4⟩,
    ⟨"run", .script, [], [Value.text "run"], 5⟩,
    ⟨"given", .text, [], [Value.text "last"], 6⟩]

/-- The context that they are resolved into. -/
def twiceStart : Context := Context.ofList [("CURDIR", "."), ("given", "g")]

/-- The answer of a script that ends with a code of its own. -/
def twiceFailure : CommandError := .failed (.exited 1) ""

/-- When the script answers, all six components are written, and when it fails, the four
before it are. -/
theorem resolve_writes_twiceList :
    (prepared.resolve true twiceStart [.ok "r"] twiceList).result = .ok () ∧
      prepared.Written true twiceStart [.ok "r"] twiceList
        (prepared.resolve true twiceStart [.ok "r"] twiceList).context ∧
      (prepared.resolve true twiceStart [.ok "r"] twiceList).context.entries =
        [("CURDIR", "1"), ("given", "last"), ("a", "g2"), ("b", "B"), ("run", "r")] ∧
      (prepared.resolve true twiceStart [.error twiceFailure] twiceList).result =
        .error (.command "run" twiceFailure) ∧
      (∃ before component after, twiceList = before ++ component :: after ∧
        prepared.StopsAt true twiceStart [.error twiceFailure] before component after
          (.command "run" twiceFailure) ∧
        prepared.Written true twiceStart [.error twiceFailure] before
          (prepared.resolve true twiceStart [.error twiceFailure] twiceList).context) ∧
      (prepared.resolve true twiceStart [.error twiceFailure] twiceList).context.entries =
        [("CURDIR", "1"), ("given", "g"), ("a", "g2"), ("b", "B")] := by
  have hok : (prepared.resolve true twiceStart [.ok "r"] twiceList).result = .ok () := by rfl
  have herror : (prepared.resolve true twiceStart [.error twiceFailure] twiceList).result =
      .error (.command "run" twiceFailure) := by rfl
  obtain ⟨hall, -⟩ := resolve_writes prepared true twiceStart [.ok "r"] twiceList
  obtain ⟨-, hsome⟩ := resolve_writes prepared true twiceStart [.error twiceFailure] twiceList
  exact ⟨hok, hall hok, by decide +kernel, herror, hsome _ herror, by decide +kernel⟩

end Resolver

end CallSheet
