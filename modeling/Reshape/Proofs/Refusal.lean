/-
Module: Reshape.Proofs.Refusal
Layer: Proofs
Purpose: The kinds of failure with which compilation refuses a definition: a look-up that fails for an id
  whose type does not exist, and a malformed specification for everything else.
Main exports: FailsMalformed, Spec.failsMalformed, Entity.kind_of_compile_eq_error
-/
import Reshape.Proofs.Compilation

namespace Reshape

/-! ### Kinds of failure -/

/-- If the computation fails, something is malformed. -/
def FailsMalformed {α : Type} (result : Except Failure α) : Prop :=
  ∀ ⦃failure⦄, result = .error failure → failure.kind = .invalidSpec

namespace FailsMalformed

variable {α β : Type}

theorem ok (a : α) : FailsMalformed (.ok a) :=
  nofun

theorem error {failure : Failure} (kind : failure.kind = .invalidSpec) :
    FailsMalformed (.error failure : Except Failure α) := by
  intro other same
  cases same
  exact kind

theorem bind {first : Except Failure α} {rest : α → Except Failure β} (head : FailsMalformed first)
    (tail : ∀ a, FailsMalformed (rest a)) : FailsMalformed (first >>= rest) := by
  cases first with
  | error failure => exact error (head rfl)
  | ok a => exact tail a

theorem map {f : α → β} {result : Except Failure α} (fails : FailsMalformed result) :
    FailsMalformed (result.map f) := by
  cases result with
  | error failure => exact error (fails rfl)
  | ok a => exact ok _

theorem mapM {f : α → Except Failure β} (each : ∀ a, FailsMalformed (f a)) (members : List α) :
    FailsMalformed (members.mapM f) := by
  induction members with
  | nil => exact ok _
  | cons a rest ih =>
      rw [List.mapM_cons]
      exact (each a).bind fun _ => ih.bind fun _ => ok _

end FailsMalformed

mutual

theorem Spec.failsMalformed : ∀ spec : Spec, FailsMalformed spec.compile
  | .text written => by
      rw [compile]
      split
      · exact .ok _
      · exact .error rfl
  | .function f => by
      rw [compile]
      exact .ok _
  | .list specs => by
      rw [compile]
      split
      · exact .ok _
      · rename_i refused
        exact .error (failsMalformed_all specs refused)
  | .built reducer => by
      rw [compile]
      exact .ok _

theorem Spec.failsMalformed_all : ∀ specs : List Spec, FailsMalformed (compileAll specs)
  | [] => by
      rw [compileAll]
      exact .ok _
  | spec :: rest => by
      rw [compileAll]
      split
      · rename_i refused
        exact .error (failsMalformed spec refused)
      · split
        · rename_i refused
          exact .error (failsMalformed_all rest refused)
        · exact .ok _

end

namespace Entity

variable {id : String} {definition : Definition}

theorem compileSlot_failsMalformed (slot : String) (spec : Spec) :
    FailsMalformed (compileSlot id slot spec) := by
  unfold compileSlot
  split
  · exact .ok _
  · rename_i failure refused
    refine .error ?_
    rw [Failure.kind_annotate]
    exact spec.failsMalformed refused

theorem compileHook_failsMalformed (slot : String) (hook : Option Spec) :
    FailsMalformed (compileHook id slot hook) := by
  cases hook with
  | none => exact .ok _
  | some spec => exact (compileSlot_failsMalformed slot spec).map

theorem compileKeys_failsMalformed (step : String) (specs : Keyed Spec) :
    FailsMalformed (compileKeys id step specs) := by
  induction specs with
  | nil => exact .ok _
  | cons entry rest ih =>
      exact (compileSlot_failsMalformed _ entry.2).bind fun _ => ih.bind fun _ => .ok _

theorem compileHashStep_failsMalformed (modifier : Modifier) :
    FailsMalformed (compileHashStep id modifier) := by
  cases modifier with
  | mapKeys keys => exact (compileKeys_failsMalformed _ keys).map
  | addKeys keys => exact (compileKeys_failsMalformed _ keys).map
  | addValues values => exact .ok _
  | omitKeys keys => exact .ok _
  | pickKeys keys => exact .ok _
  | map spec => exact .error rfl
  | filter spec => exact .error rfl
  | find spec => exact .error rfl

theorem compileCollectionStep_failsMalformed (modifier : Modifier) :
    FailsMalformed (compileCollectionStep id modifier) := by
  cases modifier with
  | map spec => exact (compileSlot_failsMalformed _ spec).map
  | filter spec => exact (compileSlot_failsMalformed _ spec).map
  | find spec => exact (compileSlot_failsMalformed _ spec).map
  | mapKeys keys => exact .error rfl
  | addKeys keys => exact .error rfl
  | addValues values => exact .error rfl
  | omitKeys keys => exact .error rfl
  | pickKeys keys => exact .error rfl

theorem rejectCompose_failsMalformed (modifiers : List Modifier) :
    FailsMalformed (rejectCompose id modifiers) := by
  cases modifiers with
  | nil => exact .ok _
  | cons modifier rest => exact .error rfl

theorem objectOrEmpty_failsMalformed (field : String) (payload : Option Value) :
    FailsMalformed (objectOrEmpty id field payload) := by
  unfold objectOrEmpty
  split
  · exact .ok _
  · exact .ok _
  · exact .error rfl

theorem compileBody_failsMalformed (type : EntityType) (definition : Definition) :
    FailsMalformed (compileBody id type definition) := by
  cases type with
  | entry => exact (rejectCompose_failsMalformed _).bind fun _ => .ok _
  | hash => exact (FailsMalformed.mapM compileHashStep_failsMalformed _).bind fun _ => .ok _
  | collection => exact (FailsMalformed.mapM compileCollectionStep_failsMalformed _).bind fun _ => .ok _
  | schema =>
      exact (rejectCompose_failsMalformed _).bind fun _ =>
        (objectOrEmpty_failsMalformed _ _).bind fun _ =>
          (objectOrEmpty_failsMalformed _ _).bind fun _ => .ok _

theorem compileSlots_failsMalformed (name : String) (definition : Definition) (body : Body) :
    FailsMalformed (compileSlots id name definition body) := by
  rw [compileSlots_eq]
  exact (compileSlot_failsMalformed _ _).bind fun _ =>
    (compileHook_failsMalformed _ _).bind fun _ =>
      (compileHook_failsMalformed _ _).bind fun _ =>
        (compileHook_failsMalformed _ _).bind fun _ => .ok _

/-- Under an id with a known type, everything that a definition is refused for is malformed. -/
theorem compile_failsMalformed {type : EntityType} {name : String}
    (parts : Reference.splitId? id.toList = some (type.name.toList, name.toList)) :
    FailsMalformed (compile id definition) := by
  rw [compile_eq parts]
  split
  · exact .error rfl
  · exact (compileBody_failsMalformed _ _).bind fun _ => compileSlots_failsMalformed _ _ _

/-- A definition is refused because there is no type of the name in its id, or because it is malformed. -/
theorem kind_of_compile_eq_error {failure : Failure} (refused : compile id definition = .error failure) :
    (failure.kind = .lookup ∧ UnknownType id) ∨ (failure.kind = .invalidSpec ∧ ¬ UnknownType id) := by
  cases parts : Reference.splitId? id.toList with
  | none =>
      rw [compile_of_malformedId parts] at refused
      cases refused
      refine .inr ⟨rfl, ?_⟩
      rintro ⟨typeName, name, shape, -⟩
      rw [parts] at shape
      cases shape
  | some names =>
      obtain ⟨typeName, name⟩ := names
      cases known : EntityType.ofName? (String.ofList typeName) with
      | none =>
          rw [compile_of_unknownType parts known] at refused
          cases refused
          refine .inl ⟨rfl, typeName, name, parts, fun type same => ?_⟩
          apply EntityType.ofName?_eq_none_iff.mp known type
          rw [← same, String.ofList_toList]
      | some type =>
          obtain rfl : typeName = type.name.toList := by
            rw [EntityType.name_of_ofName? known, String.toList_ofList]
          rw [← String.toList_ofList (l := name)] at parts
          refine .inr ⟨compile_failsMalformed parts refused, ?_⟩
          rintro ⟨other, _, shape, unknown⟩
          rw [parts] at shape
          cases shape
          exact unknown type rfl

end Entity

end Reshape
