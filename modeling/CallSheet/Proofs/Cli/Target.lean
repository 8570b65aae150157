import CallSheet.Cli.Program
import CallSheet.Proofs.Resolve.Run
import Mathlib.Tactic.ByContra

/-!
# The target of a command

What the commands `resolve`, `compile` and `run` have in common: they load a document
and resolve its variables and the fields of its action.

Main statements: what a resolved target is made of (`resolveTarget_eq_ok`), why there
is none (`isResolution_of_resolveTarget`), and that a name which nobody sets keeps its
first value (`get?_of_resolveTarget`).
-/

namespace CallSheet

namespace Context

variable {context : Context} {name : String}

theorem get?_extend_of_not_mem {entries : List (String × String)}
    (h : name ∉ entries.map Prod.fst) : (context.extend entries).get? name = context.get? name := by
  induction entries generalizing context with
  | nil => rfl
  | cons entry entries ih =>
    rw [List.map_cons, List.mem_cons, not_or] at h
    change ((context.insert entry.1 entry.2).extend entries).get? name = _
    rw [ih h.2, get?_insert, if_neg h.1]

theorem resultDir?_seeded (currentDir currentFile path : String) :
    (seeded currentDir currentFile path).resultDir? = some path := by
  simp [seeded, ofList, extend, resultDir?, get?_insert]

theorem get?_seeded_eq_none (currentDir currentFile path : String) (h : name ∉ reserved) :
    (seeded currentDir currentFile path).get? name = none := by
  simp only [reserved, List.mem_cons, List.not_mem_nil, or_false, not_or] at h
  simp only [seeded, ofList, extend, List.foldl_cons, List.foldl_nil, get?_insert, if_neg h.1,
    if_neg h.2.1, if_neg h.2.2]
  rfl

end Context

namespace Cli

variable {ρ : Type} {setting : Setting ρ} {target : Target} {world ready : World ρ}
  {resolved : Resolved} {failure : Failure} {name : String}

/-- The context that a target is resolved from. -/
def startContext (target : Target) : Context :=
  (ResultDir.forDocument target.file).seed.extend target.overrides

/-- The names that a document gives values to before its action. -/
def declaredNames (document : Document) : List String :=
  (document.vars ++ (document.action.map Action.fields).getD []).map Component.name

theorem resolveTarget_of_load {document : Document}
    (hload : load world.files target.file = .ok document) :
    resolveTarget setting target world =
      match setting.resolver.vars document (startContext target) world with
      | ⟨.error error, _, world⟩ => (.error (.vars error), world)
      | ⟨.ok (), context, world⟩ =>
        match setting.resolver.action document context world with
        | ⟨.error error, _, world⟩ => (.error (.fields error), world)
        | ⟨.ok (), context, world⟩ =>
          (.ok ⟨document, ResultDir.forDocument target.file, context⟩, world) := by
  rw [resolveTarget, hload]
  rfl

theorem resolveTarget_of_load_error
    (hload : load world.files target.file = .error failure) :
    resolveTarget setting target world = (.error failure, world) := by
  rw [resolveTarget, hload]

theorem load_eq_ok {files : Files} {path : String} {document : Document}
    (h : load files path = .ok document) : Document.load files path = .ok document := by
  rw [load] at h
  split at h
  · next loaded hloaded =>
    rw [hloaded, Except.ok.inj h]
  · cases h

/-- What a resolved target is made of. -/
theorem resolveTarget_eq_ok (h : resolveTarget setting target world = (.ok resolved, ready)) :
    ∃ action context state,
      load world.files target.file = .ok resolved.document ∧
      resolved.resultDir = ResultDir.forDocument target.file ∧
      resolved.document.action = some action ∧
      setting.resolver.resolve false (startContext target) world resolved.document.vars =
        ⟨.ok (), context, state⟩ ∧
      setting.resolver.resolve true context state action.fields =
        ⟨.ok (), resolved.context, ready⟩ := by
  cases hload : load world.files target.file with
  | error error =>
    rw [resolveTarget_of_load_error hload] at h
    cases h
  | ok document =>
    rw [resolveTarget_of_load hload] at h
    split at h
    · cases h
    next context state hvars =>
    split at h
    · cases h
    next final last hfields =>
    cases h
    rw [Resolver.action] at hfields
    split at hfields
    · cases hfields
    · next action haction => exact ⟨action, context, state, rfl, rfl, haction, hvars, hfields⟩

/-- Whether a failure comes from loading a document or from resolving its variables or
the fields of its action. -/
def Failure.IsResolution : Failure → Prop
  | .load .. | .vars _ | .fields _ => True
  | _ => False

/-- Whether a failure keeps a run from preparing a result directory. -/
def Failure.IsEarly : Failure → Prop
  | .actionKinds .. | .unknownKind _ => True
  | failure => failure.IsResolution

theorem Failure.IsResolution.isEarly (h : failure.IsResolution) : failure.IsEarly := by
  cases failure with
  | load | vars | fields => trivial
  | _ => exact h.elim

theorem isResolution_of_resolveTarget
    (h : resolveTarget setting target world = (.error failure, ready)) : failure.IsResolution := by
  cases hload : load world.files target.file with
  | error error =>
    rw [resolveTarget_of_load_error hload] at h
    cases h
    rw [load] at hload
    split at hload
    · cases hload
    · cases hload
      trivial
  | ok document =>
    rw [resolveTarget_of_load hload] at h
    split at h
    · cases h
      trivial
    split at h
    · cases h
      trivial
    · cases h

/-- A target is only resolved for a document with an action. -/
theorem kindOf_eq_error {document : Document} {action : Action} {files : Files}
    (haction : document.action = some action)
    (h : kindOf setting document files = .error failure) :
    (∃ dir error, failure = .actionKinds dir error) ∨
      failure = .unknownKind (.unknownAction action.kind) := by
  rw [kindOf, haction] at h
  simp only [Setting.kind, bind, Except.bind] at h
  split at h
  · next error hkinds =>
    cases h
    rw [Setting.kinds] at hkinds
    split at hkinds
    · cases hkinds
    · split at hkinds
      · cases hkinds
      · cases hkinds
        exact .inl ⟨_, _, rfl⟩
  · next kinds hkinds =>
    rw [Action.Kind.find] at h
    split at h
    · cases h
    · next error hfind =>
      cases h
      split at hfind
      · cases hfind
      · cases hfind
        exact .inr rfl

/-- A name that neither an override nor the document sets keeps its first value. -/
theorem get?_of_resolveTarget (h : resolveTarget setting target world = (.ok resolved, ready))
    (hoverrides : name ∉ target.overrides.map Prod.fst)
    (hdeclared : name ∉ declaredNames resolved.document) :
    resolved.context.get? name = (ResultDir.forDocument target.file).seed.get? name := by
  obtain ⟨action, context, state, -, -, haction, hvars, hfields⟩ := resolveTarget_eq_ok h
  simp only [declaredNames, haction, Option.map_some, Option.getD_some, List.map_append,
    List.mem_append, not_or] at hdeclared
  have hafter : (setting.resolver.resolve true context state action.fields).context.get? name =
      context.get? name := Resolver.get?_resolve_of_not_mem hdeclared.2
  have hbefore : (setting.resolver.resolve false (startContext target) world
      resolved.document.vars).context.get? name = (startContext target).get? name :=
    Resolver.get?_resolve_of_not_mem hdeclared.1
  rw [hfields] at hafter
  rw [hvars] at hbefore
  rw [hafter, hbefore, startContext, Context.get?_extend_of_not_mem hoverrides]

/-- Every name of a resolved target comes from somewhere. -/
theorem mem_of_get?_resolveTarget
    (h : resolveTarget setting target world = (.ok resolved, ready))
    (hname : resolved.context.get? name ≠ none) :
    name ∈ Context.reserved ∨ name ∈ target.overrides.map Prod.fst ∨
      name ∈ declaredNames resolved.document := by
  by_contra hnot
  rw [not_or, not_or] at hnot
  rw [get?_of_resolveTarget h hnot.2.1 hnot.2.2] at hname
  exact hname (Context.get?_seeded_eq_none _ _ _ hnot.1)

/-- The result directory of a target is the one of its document. -/
theorem resultDir?_of_resolveTarget
    (h : resolveTarget setting target world = (.ok resolved, ready))
    (hoverrides : Context.resultDirName ∉ target.overrides.map Prod.fst)
    (hdeclared : Context.resultDirName ∉ declaredNames resolved.document) :
    resolved.context.resultDir? = some resolved.resultDir.path := by
  obtain ⟨-, -, -, -, hdir, -⟩ := resolveTarget_eq_ok h
  rw [Context.resultDir?, get?_of_resolveTarget h hoverrides hdeclared, hdir]
  exact Context.resultDir?_seeded _ _ _

end Cli

end CallSheet
