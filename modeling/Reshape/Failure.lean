/-
Module: Reshape.Failure
Layer: Data
Purpose: The failures that leave a resolution, and how they are marked with the places they cross.
Main exports: Failure, Failure.Kind, Failure.message, Failure.annotate, Failure.cause?
-/
import Reshape.Text.Bracketed

namespace Reshape

/-- A failure. Its message grows on the way out; its kind and its payload stay as they are. -/
inductive Failure where
  /-- An unknown entity, or an unknown type of entity. -/
  | lookup (message : String)
  /-- A value of the wrong type reached an entity. -/
  | wrongType (message : String)
  /-- A reducer failed. -/
  | resolution (message : String)
  /-- An error hook failed while it handled another failure. -/
  | recoveryExhausted (message : String) (cause : Failure)
  /-- The validator refused a value. -/
  | validation (message : String) (diagnostics : List String)
  /-- A definition or a reducer is malformed. -/
  | invalidSpec (message : String)
  deriving Repr, Inhabited, DecidableEq

namespace Failure

/-- The kinds of failure. -/
inductive Kind where
  | lookup
  | wrongType
  | resolution
  | recoveryExhausted
  | validation
  | invalidSpec
  deriving Repr, Inhabited, DecidableEq

/-- The stable name of a kind. -/
def Kind.name : Kind → String
  | .lookup => "lookup"
  | .wrongType => "type"
  | .resolution => "resolution"
  | .recoveryExhausted => "recovery_exhausted"
  | .validation => "validation"
  | .invalidSpec => "invalid_spec"

/-- The kind of a failure. -/
def kind : Failure → Kind
  | .lookup _ => .lookup
  | .wrongType _ => .wrongType
  | .resolution _ => .resolution
  | .recoveryExhausted _ _ => .recoveryExhausted
  | .validation _ _ => .validation
  | .invalidSpec _ => .invalidSpec

/-- The message of a failure. -/
def message : Failure → String
  | .lookup message => message
  | .wrongType message => message
  | .resolution message => message
  | .recoveryExhausted message _ => message
  | .validation message _ => message
  | .invalidSpec message => message

/-- The failure with another message. -/
def withMessage (message : String) : Failure → Failure
  | .lookup _ => .lookup message
  | .wrongType _ => .wrongType message
  | .resolution _ => .resolution message
  | .recoveryExhausted _ cause => .recoveryExhausted message cause
  | .validation _ diagnostics => .validation message diagnostics
  | .invalidSpec _ => .invalidSpec message

/-- The failure with `place` in front of its message. -/
def annotate (place : String) (failure : Failure) : Failure :=
  failure.withMessage (place ++ " " ++ failure.message)

/-- The failure that an exhausted recovery was handling. -/
def cause? : Failure → Option Failure
  | .recoveryExhausted _ cause => some cause
  | _ => none

/-- What the validator had to say. -/
def diagnostics : Failure → List String
  | .validation _ diagnostics => diagnostics
  | _ => []

/-- The description of a failure. -/
def describe : Failure → String
  | .lookup message => Text.record "Lookup" [("message", Text.quoted message)]
  | .wrongType message => Text.record "Type" [("message", Text.quoted message)]
  | .resolution message => Text.record "Resolution" [("message", Text.quoted message)]
  | .recoveryExhausted message cause =>
    Text.record "RecoveryExhausted"
      [("message", Text.quoted message), ("original", describe cause)]
  | .validation message diagnostics =>
    Text.record "Validation"
      [("message", Text.quoted message),
        ("diagnostics", Text.bracketed (diagnostics.map Text.quoted))]
  | .invalidSpec message => Text.record "InvalidSpec" [("message", Text.quoted message)]

/-! ### Marks change the message only -/

@[simp] theorem message_withMessage (message : String) (failure : Failure) :
    (failure.withMessage message).message = message := by
  cases failure <;> rfl

@[simp] theorem kind_annotate (place : String) (failure : Failure) :
    (failure.annotate place).kind = failure.kind := by
  cases failure <;> rfl

@[simp] theorem message_annotate (place : String) (failure : Failure) :
    (failure.annotate place).message = place ++ " " ++ failure.message := by
  rw [annotate, message_withMessage]

@[simp] theorem cause?_annotate (place : String) (failure : Failure) :
    (failure.annotate place).cause? = failure.cause? := by
  cases failure <;> rfl

@[simp] theorem diagnostics_annotate (place : String) (failure : Failure) :
    (failure.annotate place).diagnostics = failure.diagnostics := by
  cases failure <;> rfl

end Failure

end Reshape
