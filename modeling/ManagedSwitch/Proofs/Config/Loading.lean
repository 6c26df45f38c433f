import ManagedSwitch.Config.Loading
import ManagedSwitch.Proofs.Config.Escape
import ManagedSwitch.Proofs.Text.StrictUtf8

/-!
# Configurations that are answered for

Loading is meant to give a configuration or a message that tells what is wrong.  Together with the
documents in which the reader is stuck there are two more kinds of files without either: those that
are no text, and those in which a well-formed part writes a value that does not exist.
-/

namespace ManagedSwitch
namespace Config

section Files

/-- The file gives no configuration, and no message tells why. -/
def StuckFile (bytes : Bytes) : Prop :=
  (∀ s, Text.Utf8.encode s ≠ bytes) ∨
    (∃ fault, Yaml.document bytes = .error (.faulty fault) ∧ fault ≠ .malformed) ∨
    ∃ d, Yaml.document bytes = .ok d ∧ Stuck d

/-- A configuration is loaded, or a message tells why not. -/
def Answered (result : Except LoadError Config) : Prop :=
  (∃ config, result = .ok config) ∨ ∃ e message, result = .error e ∧ e.message? = some message

@[simp] theorem answered_ok
    {config : Config} :
    Answered (.ok config) :=
  Or.inl ⟨config, rfl⟩

@[simp] theorem answered_error_iff
    {e : LoadError} :
    Answered (.error e) ↔ e.message?.isSome := by
  simp [Answered, Option.isSome_iff_exists]

/-- A file is no text exactly if its bytes encode none. -/
theorem document_eq_notText_iff
    {bytes : Bytes} :
    Yaml.document bytes = .error .notText ↔ ∀ s, Text.Utf8.encode s ≠ bytes := by
  have hdecode :
      Text.Utf8.decode? bytes = none ↔ ∀ s, Text.Utf8.encode s ≠ bytes := by
    simp only [Option.eq_none_iff_forall_ne_some, ne_eq, Text.Utf8.decode?_eq_some_iff]
  rw [← hdecode, Text.Utf8.decode?, Option.map_eq_none_iff, Yaml.document]
  cases Text.Utf8.decodeChars? bytes with
  | none =>
      simp
  | some cs =>
      dsimp only
      cases Yaml.ofChars (Yaml.unifyLineEnds cs) <;> simp [Except.mapError]

/-- A file is answered for unless it is stuck. -/
theorem answered_load_iff
    {path : String}
    {bytes : Bytes} :
    Answered (load path (.content bytes)).result ↔ ¬ StuckFile bytes := by
  rw [StuckFile, ← document_eq_notText_iff]
  cases hdocument : Yaml.document bytes with
  | error reason =>
      cases reason with
      | notText =>
          simp [load, fileDocument, hdocument, LoadError.message?]
      | faulty fault =>
          cases fault <;> simp [load, fileDocument, hdocument, LoadError.message?]
  | ok d =>
      simp only [load, fileDocument, hdocument, reduceCtorEq, false_and, exists_false, false_or]
      cases hread : read d with
      | error refusal =>
          have hstuck : Stuck d ↔ ∀ p, refusal ≠ .problem p := by
            rw [← escapes_read_iff, hread, escapes_error]
          cases refusal <;> simp [LoadError.message?, hstuck]
      | ok config =>
          have hstuck : ¬ Stuck d := by
            rw [← escapes_read_iff, hread]
            exact not_escapes_ok
          simp [hstuck]

end Files

section Answers

/-- A template with a list where the word for a VLAN belongs. -/
def listAsStatus : Document :=
  .map [
    (.text "vlans", .map [(.int 10, .text "data")]),
    (.text "templates", .map [(.text "t", .map [(.int 10, .list [])])]),
    (.text "switches", .map [])]

end Answers

end Config
end ManagedSwitch
