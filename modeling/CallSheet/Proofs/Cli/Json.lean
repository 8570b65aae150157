import CallSheet.Proofs.Cli.Agreement
import CallSheet.Proofs.Context.Json
import CallSheet.Proofs.ResultDir.Values
import CallSheet.Proofs.Text.Utf8

/-!
# Values in JSON

The texts in which the values of a document are kept and printed.  Both record the
context: read as JSON they are the object of its names and values.

There are two groups.

* Texts.  What is in the file of the values, and what `resolve` prints.
* The whole.  `json_lossless` puts this together with what a JSON text has as its reading.
-/

namespace CallSheet.Cli

open Text

variable {ρ : Type} {setting : Setting ρ} {target : Target} {world : World ρ}

/-! ## Texts -/

/-- The file of the values has the context as its text. -/
theorem readText_of_writeVars {dir : ResultDir} {context : Context} {files after : Files}
    (hfile : files.has (dir.fileAt ResultDir.varsFile) = true →
      files.isFile (dir.fileAt ResultDir.varsFile) = true)
    (h : dir.writeVars context files = (.ok (), after)) :
    after.readText (dir.fileAt ResultDir.varsFile) = .ok context.toJson := by
  have hread := Files.read_of_write hfile h
  rw [Files.readText, hread]
  simp only [Utf8.decode_encode, String.ofList_toList]

/-- The values that `resolve` prints as JSON are the text of the context that the target
has. -/
theorem resolve_json_eq_ok {text : String} {after : World ρ}
    (h : resolve setting target .json world = (.ok text, after)) :
    ∃ resolved, resolveTarget setting target world = (.ok resolved, after) ∧
      text = resolved.context.toJson := by
  cases hresolve : resolveTarget setting target world with
  | mk outcome ready =>
    cases outcome with
    | error failure =>
      rw [resolve_eq_error_iff.2 hresolve] at h
      cases h
    | ok resolved =>
      rw [resolve_of_resolveTarget hresolve] at h
      cases h
      exact ⟨resolved, rfl, rfl⟩

/-! ## The whole -/

/-- The text in the file of the values and the text that `resolve` prints as JSON record
the context, whatever its names and values are, and no text is that of two contexts.  What
is there before the values are written can be a file or nothing; of what else can be written
to, such as a sink, nothing is read. -/
theorem json_lossless :
    (∀ (dir : ResultDir) context files after,
      (files.has (dir.fileAt ResultDir.varsFile) = true →
        files.isFile (dir.fileAt ResultDir.varsFile) = true) →
      dir.writeVars context files = (.ok (), after) →
      after.readText (dir.fileAt ResultDir.varsFile) = .ok context.toJson) ∧
    (∀ (ρ : Type) (setting : Setting ρ) target world text after,
      resolve setting target .json world = (.ok text, after) →
      ∃ resolved, resolveTarget setting target world = (.ok resolved, after) ∧
        text = resolved.context.toJson) ∧
    (∀ context : Context, Json.Records context.toJson context) ∧
    Function.Injective Context.toJson :=
  ⟨fun _ _ _ _ => readText_of_writeVars, fun _ _ _ _ _ _ => resolve_json_eq_ok,
    Json.records_toJson, Json.toJson_injective⟩

/-! ### A value with a quote and a line break -/

/-- An empty result directory. -/
def emptyResult : Files := ⟨[(["out"], .directory)], []⟩

/-- A value that could end its string, if it was not escaped. -/
def escapedContext : Context := Context.empty.insert "a" "\"\n\x7d"

/-- The value is written, and what is read records it. -/
theorem json_lossless_escaped :
    let dir : ResultDir := ⟨".", "api", "out"⟩
    ∃ after, dir.writeVars escapedContext emptyResult = (.ok (), after) ∧
      after.readText (dir.fileAt ResultDir.varsFile) = .ok escapedContext.toJson ∧
      Json.Records escapedContext.toJson escapedContext := by
  intro dir
  have hfree : emptyResult.has (dir.fileAt ResultDir.varsFile) = false := by decide +kernel
  have hwrite : dir.writeVars escapedContext emptyResult = (.ok (), emptyResult.put ["out", ".vars"]
      (.file (Utf8.encode escapedContext.toJson.toList))) := by decide +kernel
  refine ⟨_, hwrite, json_lossless.1 dir escapedContext emptyResult _ (fun hhas => ?_) hwrite,
    json_lossless.2.2.1 escapedContext⟩
  rw [hfree] at hhas
  cases hhas

end CallSheet.Cli
