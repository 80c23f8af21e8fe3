/-
Module: Reshape.Proofs.Calls
Layer: Proofs
Purpose: What calling a function comes to, whatever its calling convention: one reply, in which a
  dropped continuation is a failure like any other.
Main exports: Function.Raises, Function.Drops, Function.reply, Function.apply_eq,
  Function.reply_ok, Function.reply_error
-/
import Reshape.Reducer.Function

namespace Reshape.Function

variable {function : Function} {acc next : Accumulator} {failure : Failure}

/-- The function, handed `acc`, answers with the failure. -/
def Raises (function : Function) (acc : Accumulator) (failure : Failure) : Prop :=
  match function with
  | .sync body => (body acc).result = .error failure
  | .future body => (body acc).result = .error failure
  | .callback body => (body acc).result = .error failure
  | .context body => (body acc).result = .error failure

/-- The function, handed `acc`, drops its continuation. -/
def Drops (function : Function) (acc : Accumulator) : Prop :=
  match function with
  | .callback body => (body acc).result = .ok none
  | _ => False

/-- What a call comes to, as a reply with the accumulator for the next step. -/
def reply (function : Function) (acc : Accumulator) : Reply Accumulator :=
  match function with
  | .sync body => ⟨(body acc).notes, (body acc).result.map acc.withValue⟩
  | .future body => ⟨(body acc).notes, (body acc).result.map acc.withValue⟩
  | .callback body =>
    ⟨(body acc).notes,
      match (body acc).result with
      | .ok (some value) => .ok (acc.withValue value)
      | .ok none => .error dropped
      | .error failure => .error failure⟩
  | .context body => body acc

/-- The step that a function makes is its reply. -/
theorem apply_eq : function.apply acc = run acc (function.reply acc) := by
  cases function with
  | sync body =>
      show ((sync body).call acc).bind _ = _
      cases result : (body acc).result <;>
        simp [call, reply, run, Run.bind, Run.pure, Run.ofExcept, Run.fail, Except.map, result]
  | future body =>
      show ((future body).call acc).bind _ = _
      cases result : (body acc).result <;>
        simp [call, reply, run, Run.bind, Run.pure, Run.ofExcept, Run.fail, Except.map, result]
  | callback body =>
      show ((callback body).call acc).bind _ = _
      rcases result : (body acc).result with failure | none | value <;>
        simp [call, reply, run, Run.bind, Run.pure, Run.ofExcept, Run.fail, result]
  | context body => rfl

/-- Only a function that answers with accumulators changes more than the value. -/
theorem reply_ok (ok : (function.reply acc).result = .ok next) :
    (∃ value, next = acc.withValue value) ∨
      ∃ body, function = .context body ∧ (body acc).result = .ok next := by
  cases function with
  | sync body =>
      obtain ⟨value, -, rfl⟩ : ∃ value, (body acc).result = .ok value ∧ acc.withValue value = next := by
        cases result : (body acc).result <;> simp_all [reply, Except.map]
      exact .inl ⟨value, rfl⟩
  | future body =>
      obtain ⟨value, -, rfl⟩ : ∃ value, (body acc).result = .ok value ∧ acc.withValue value = next := by
        cases result : (body acc).result <;> simp_all [reply, Except.map]
      exact .inl ⟨value, rfl⟩
  | callback body =>
      simp only [reply] at ok
      split at ok
      · exact .inl ⟨_, (Except.ok.inj ok).symm⟩
      · cases ok
      · cases ok
  | context body => exact .inr ⟨body, rfl, ok⟩

theorem reply_error (error : (function.reply acc).result = .error failure) :
    function.Raises acc failure ∨ (function.Drops acc ∧ failure = dropped) := by
  cases function with
  | sync body =>
      cases result : (body acc).result <;> simp_all [reply, Except.map, Raises]
  | future body =>
      cases result : (body acc).result <;> simp_all [reply, Except.map, Raises]
  | callback body =>
      simp only [reply] at error
      split at error
      · cases error
      · rename_i dropped
        exact .inr ⟨dropped, (Except.error.inj error).symm⟩
      · rename_i raised
        exact .inl (Except.error.inj error ▸ raised)
  | context body => exact .inl error

end Reshape.Function
