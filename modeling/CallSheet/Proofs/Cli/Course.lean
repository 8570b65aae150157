import CallSheet.Cli.Program
import CallSheet.Proofs.Action.Call
import CallSheet.Proofs.Cli.Target

/-!
# The course of a run

Every way that `run` can go, stage by stage, with the outcome that it comes to.
There is one constructor for every stage that can fail, and one for each stage that
leads on to the next.

* `Course` goes from the document to the prepared result directory (`run_course`).
* `Acting` goes on from there to the files of the action (`performIn_acting`).
* `Concluding` goes on from there to the values of the run and of the variables after
  the action (`conclude_concluding`).

All that is said about runs is read off these three relations, first that failures in a
prepared directory are late ones (`not_isEarly_of_performIn`).
-/

namespace CallSheet.Cli

open CallSheet.Action (Call Answer)

variable {ρ : Type}

/-! ## The stages -/

/-- How a run ends after the action has written its files. -/
inductive Concluding (setting : Setting ρ) (resolved : Resolved) (acted : World ρ) :
    Except Failure String × World ρ → Prop where
  | unnoted (fault : Fault) (after : World ρ)
      (hnote : acted.withFiles (resolved.resultDir.writeVars resolved.context) =
        (.error fault, after)) :
      Concluding setting resolved acted (.error (.writeVars fault), after)
  | unresolved (noted after : World ρ) (error : ResolveError) (context : Context)
      (hnote : acted.withFiles (resolved.resultDir.writeVars resolved.context) = (.ok (), noted))
      (hafter : setting.resolver.after resolved.document resolved.context noted =
        ⟨.error error, context, after⟩) :
      Concluding setting resolved acted (.error (.after error), after)
  | unwritten (noted ready after : World ρ) (context : Context) (fault : Fault)
      (hnote : acted.withFiles (resolved.resultDir.writeVars resolved.context) = (.ok (), noted))
      (hafter : setting.resolver.after resolved.document resolved.context noted =
        ⟨.ok (), context, ready⟩)
      (hwrite : ready.withFiles (resolved.resultDir.writeAfter resolved.document context) =
        (.error fault, after)) :
      Concluding setting resolved acted (.error (.writeAfter fault), after)
  | done (noted ready after : World ρ) (context : Context)
      (hnote : acted.withFiles (resolved.resultDir.writeVars resolved.context) = (.ok (), noted))
      (hafter : setting.resolver.after resolved.document resolved.context noted =
        ⟨.ok (), context, ready⟩)
      (hwrite : ready.withFiles (resolved.resultDir.writeAfter resolved.document context) =
        (.ok (), after)) :
      Concluding setting resolved acted (.ok (lines [resolved.resultDir.path]), after)

/-- How a run goes on in a prepared result directory. -/
inductive Acting (setting : Setting ρ) (resolved : Resolved) (kind : Action.Kind)
    (begun : World ρ) : Except Failure String × World ρ → Prop where
  | uncalled (error : ActionError)
      (hcall : kind.call resolved.context begun.files = .error error) :
      Acting setting resolved kind begun (.error (.run kind.name error), begun)
  | unwritten (call : Call) (answer : Answer) (answered after : World ρ) (error : ActionError)
      (hcall : kind.call resolved.context begun.files = .ok call)
      (hanswer : call.answer setting.services begun = (answer, answered))
      (hwrite : (answered.withFiles fun files =>
        Action.Request.writeAll resolved.context files answer.outputs) = (.error error, after)) :
      Acting setting resolved kind begun (.error (.run kind.name error), after)
  /-- The files of the answer are written, but it is not complete. -/
  | interrupted (call : Call) (answer : Answer) (answered after : World ρ) (error : ActionError)
      (hcall : kind.call resolved.context begun.files = .ok call)
      (hanswer : call.answer setting.services begun = (answer, answered))
      (hwrite : (answered.withFiles fun files =>
        Action.Request.writeAll resolved.context files answer.outputs) = (.ok (), after))
      (hending : answer.ending = .error error) :
      Acting setting resolved kind begun (.error (.run kind.name error), after)
  | acted (call : Call) (outputs : List (String × List UInt8)) (answered acted : World ρ)
      (hcall : kind.call resolved.context begun.files = .ok call)
      (hanswer : call.answer setting.services begun = (⟨outputs, .ok ()⟩, answered))
      (hwrite : (answered.withFiles fun files =>
        Action.Request.writeAll resolved.context files outputs) = (.ok (), acted)) :
      Acting setting resolved kind begun (conclude setting resolved acted)

/-- How a run goes. -/
inductive Course (setting : Setting ρ) (target : Target) (world : World ρ) :
    Except Failure String × World ρ → Prop where
  | unresolved (failure : Failure) (after : World ρ)
      (hresolve : resolveTarget setting target world = (.error failure, after)) :
      Course setting target world (.error failure, after)
  | unknown (resolved : Resolved) (ready : World ρ) (failure : Failure)
      (hresolve : resolveTarget setting target world = (.ok resolved, ready))
      (hkind : kindOf setting resolved.document ready.files = .error failure) :
      Course setting target world (.error failure, ready)
  | unprepared (resolved : Resolved) (ready after : World ρ) (kind : Action.Kind) (fault : Fault)
      (hresolve : resolveTarget setting target world = (.ok resolved, ready))
      (hkind : kindOf setting resolved.document ready.files = .ok kind)
      (hprepare : ready.withFiles resolved.resultDir.prepare = (.error fault, after)) :
      Course setting target world (.error (.resultDir resolved.resultDir.path fault), after)
  | begun (resolved : Resolved) (ready begun : World ρ) (kind : Action.Kind)
      (hresolve : resolveTarget setting target world = (.ok resolved, ready))
      (hkind : kindOf setting resolved.document ready.files = .ok kind)
      (hprepare : ready.withFiles resolved.resultDir.prepare = (.ok (), begun)) :
      Course setting target world (performIn setting resolved kind ready)

/-! ## There are no other ways -/

variable {setting : Setting ρ} {target : Target} {resolved : Resolved} {kind : Action.Kind}

theorem conclude_concluding (setting : Setting ρ) (resolved : Resolved) (acted : World ρ) :
    Concluding setting resolved acted (conclude setting resolved acted) := by
  rw [conclude]
  split
  · next fault after hnote => exact .unnoted fault after hnote
  · next noted hnote =>
    split
    · next error context after hafter => exact .unresolved noted after error context hnote hafter
    · next context ready hafter =>
      split
      · next fault after hwrite =>
        exact .unwritten noted ready after context fault hnote hafter hwrite
      · next after hwrite => exact .done noted ready after context hnote hafter hwrite

theorem performIn_acting (setting : Setting ρ) (kind : Action.Kind) {begun ready : World ρ}
    (hprepare : ready.withFiles resolved.resultDir.prepare = (.ok (), begun)) :
    Acting setting resolved kind begun (performIn setting resolved kind ready) := by
  rw [performIn, hprepare]
  simp only [Action.Kind.run_eq]
  cases hcall : kind.call resolved.context begun.files with
  | error error => exact .uncalled error hcall
  | ok call =>
    cases hanswer : call.answer setting.services begun with
    | mk answer answered =>
      simp only [Call.run, hanswer, Answer.withFiles_write]
      cases hwrite : answered.withFiles fun files =>
          Action.Request.writeAll resolved.context files answer.outputs with
      | mk outcome acted =>
        cases outcome with
        | error error => exact .unwritten call answer answered acted error hcall hanswer hwrite
        | ok _ =>
          obtain ⟨outputs, ending⟩ := answer
          cases ending with
          | error error =>
            exact .interrupted call ⟨outputs, .error error⟩ answered acted error hcall hanswer hwrite
              rfl
          | ok _ => exact .acted call outputs answered acted hcall hanswer hwrite

/-- Every run goes one of the ways. -/
theorem run_course (setting : Setting ρ) (target : Target) (world : World ρ) :
    Course setting target world (run setting target world) := by
  rw [run]
  split
  · next failure after hresolve => exact .unresolved failure after hresolve
  · next resolved ready hresolve =>
    split
    · next failure hkind => exact .unknown resolved ready failure hresolve hkind
    · next kind hkind =>
      cases hprepare : ready.withFiles resolved.resultDir.prepare with
      | mk outcome begun =>
        cases outcome with
        | ok _ => exact .begun resolved ready begun kind hresolve hkind hprepare
        | error fault =>
          rw [performIn, hprepare]
          exact .unprepared resolved ready begun kind fault hresolve hkind hprepare

/-! ## Failures in a prepared directory -/

theorem not_isEarly_of_conclude {acted : World ρ} {failure : Failure}
    (h : (conclude setting resolved acted).1 = .error failure) : ¬ failure.IsEarly := by
  have hcourse := conclude_concluding setting resolved acted
  generalize conclude setting resolved acted = outcome at *
  cases hcourse <;> cases h <;> exact id

/-- A failure in a prepared directory is none of those that come before it. -/
theorem not_isEarly_of_performIn {ready begun : World ρ} {failure : Failure}
    (hprepare : ready.withFiles resolved.resultDir.prepare = (.ok (), begun))
    (h : (performIn setting resolved kind ready).1 = .error failure) : ¬ failure.IsEarly := by
  have hcourse := performIn_acting setting kind hprepare
  generalize performIn setting resolved kind ready = outcome at *
  cases hcourse with
  | acted => exact not_isEarly_of_conclude h
  | uncalled | unwritten | interrupted =>
    cases h
    exact id

end CallSheet.Cli
