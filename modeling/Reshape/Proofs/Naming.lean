/-
Module: Reshape.Proofs.Naming
Layer: Proofs
Purpose: Which texts name an entity. A text is a single reference exactly if it holds no separator of chains
  and is, but for white space around it, the text of that reference. An id may hold the separator or end
  with the mark of a collection; every other registered entity is named by its id.
Main exports: Reference.WellFormed, Reference.parse?_eq_some_iff, Spec.compile_text_eq_entity_iff,
  Spec.mem_references_text_iff, Builder.naming_is_exact
-/
import Reshape.Proofs.Built
import Reshape.Proofs.Texts

namespace Reshape

namespace Reference

/-- The type and the name can stand in an id. -/
structure WellFormed (reference : Reference) : Prop where
  type : isTypeName reference.typeName.toList = true
  named : isName reference.name.toList = true

theorem toList_id (reference : Reference) :
    reference.id.toList = reference.typeName.toList ++ ':' :: reference.name.toList := by
  simp [id]

/-- A text is read as the reference whose id is left when the mark is taken off. -/
theorem parse?_eq_some_iff {text : List Char} {reference : Reference} :
    parse? text = some reference ↔
      Text.Closes text reference.id.toList reference.isCollection ∧ reference.WellFormed := by
  rw [Text.closes_iff, parse?]
  obtain ⟨⟨body, isCollection⟩, closed⟩ : ∃ parts, Text.splitMark text = parts := ⟨_, rfl⟩
  rw [closed]
  dsimp only
  rw [Option.map_eq_some_iff, Prod.mk.injEq]
  constructor
  · rintro ⟨⟨typeName, name⟩, parts, rfl⟩
    obtain ⟨whole, type, named⟩ := splitId?_eq_some_iff.mp parts
    refine ⟨⟨?_, rfl⟩, ?_, ?_⟩
    · rw [toList_id, String.toList_ofList, String.toList_ofList, whole]
    · rwa [String.toList_ofList]
    · rwa [String.toList_ofList]
  · rintro ⟨⟨whole, rfl⟩, type, named⟩
    rw [toList_id] at whole
    refine ⟨_, splitId?_eq_some_iff.mpr ⟨whole, type, named⟩, ?_⟩
    simp

variable {reference : Reference}

/-- An id starts with a letter, a digit, `_` or `-`. -/
theorem WellFormed.head (wellFormed : reference.WellFormed) :
    ∃ c rest, reference.id.toList = c :: rest ∧ isTypeChar c = true := by
  have type := wellFormed.type
  rw [toList_id]
  cases typeName : reference.typeName.toList with
  | nil =>
      rw [typeName] at type
      cases type
  | cons c rest =>
      rw [typeName, isTypeName, Bool.and_eq_true, List.all_cons, Bool.and_eq_true] at type
      exact ⟨c, _, rfl, type.2.1⟩

theorem not_blank_of_typeChar {c : Char} (char : isTypeChar c = true) : Text.isBlank c = false := by
  have within {first last : Char} (between : first.val.toNat ≤ c.val.toNat ∧ c.val.toNat ≤ last.val.toNat)
      (above : 0x20 < first.val.toNat) (below : last.val.toNat < 0x85) : Text.isBlank c = false :=
    Text.not_blank_of_ascii (Nat.lt_of_lt_of_le above between.1) (Nat.lt_of_le_of_lt between.2 below)
  unfold isTypeChar Char.isAlphanum Char.isAlpha Char.isUpper Char.isLower Char.isDigit at char
  simp only [Bool.or_eq_true, Bool.and_eq_true, beq_iff_eq, decide_eq_true_eq, ge_iff_le,
    UInt32.le_iff_toNat_le] at char
  rcases char with (((upper | lower) | digit) | rfl) | rfl
  · exact within upper (by decide) (by decide)
  · exact within lower (by decide) (by decide)
  · exact within digit (by decide) (by decide)
  · decide
  · decide

/-- No id holds white space. -/
theorem WellFormed.visible (wellFormed : reference.WellFormed) :
    ∀ c ∈ reference.id.toList, Text.isBlank c = false := by
  have typeChars := List.all_eq_true.mp (Bool.and_eq_true_iff.mp wellFormed.type).2
  have nameChars := (Bool.and_eq_true_iff.mp wellFormed.named).2
  rw [Bool.not_eq_true', List.any_eq_false] at nameChars
  rw [toList_id]
  intro c member
  rcases List.mem_append.mp member with inType | inRest
  · exact not_blank_of_typeChar (typeChars c inType)
  · rcases List.mem_cons.mp inRest with rfl | inName
    · decide
    · exact Bool.eq_false_iff.mpr (nameChars c inName)

/-- What is read as a reference without the mark does not end with it. -/
theorem unmarked_of_parse? {text : List Char} (read : parse? text = some reference)
    (plain : reference.isCollection = false) : ¬ ['[', ']'] <:+ reference.id.toList := by
  obtain ⟨closes, -⟩ := parse?_eq_some_iff.mp read
  rw [plain] at closes
  cases closes with
  | plain unmarked => exact unmarked

theorem toList_display (reference : Reference) :
    reference.display.toList = reference.id.toList ++ Text.mark reference.isCollection := by
  rw [display, String.toList_append, String.toList_ofList]

theorem mem_display {c : Char} (member : c ∈ reference.display.toList) :
    c ∈ reference.id.toList ∨ c = '[' ∨ c = ']' := by
  rw [toList_display, List.mem_append] at member
  refine member.imp_right fun inMark => ?_
  cases marked : reference.isCollection with
  | true => simpa [Text.mark, marked] using inMark
  | false => simp [Text.mark, marked] at inMark

theorem parse?_display (wellFormed : reference.WellFormed)
    (mark : reference.isCollection = true ∨ ¬ ['[', ']'] <:+ reference.id.toList) :
    parse? reference.display.toList = some reference := by
  rw [parse?_eq_some_iff, toList_display]
  refine ⟨?_, wellFormed⟩
  cases marked : reference.isCollection with
  | true => exact .marked _
  | false =>
      rw [Text.mark, if_neg Bool.false_ne_true, List.append_nil]
      exact .plain (mark.resolve_left (by rw [marked]; exact Bool.false_ne_true))

/-- A text that is read as a reference has no other meaning as a step. -/
theorem head_ne_dollar {text : List Char} (read : parse? text = some reference) :
    ∀ rest, text ≠ '$' :: rest := by
  rintro rest rfl
  obtain ⟨closes, wellFormed⟩ := parse?_eq_some_iff.mp read
  obtain ⟨c, more, first, char⟩ := wellFormed.head
  have whole := closes.whole
  rw [first, List.cons_append] at whole
  obtain rfl := (List.cons.inj whole).1
  exact absurd char (by decide)

end Reference

namespace Spec

variable {written : String} {reference : Reference} {reducer : Reducer}

theorem compile_text_eq_ok_iff :
    (Spec.text written).compile = .ok reducer ↔ parseText written = .ok reducer := by
  rw [compile]
  cases parseText written with
  | ok read => simp
  | error fault => simp

/-! ### Texts as references -/

/-- A step is a reference exactly if it can be read as one. -/
theorem parseStep_eq_entity_iff {step : List Char} :
    parseStep step = .ok (.entity reference) ↔ Reference.parse? step = some reference := by
  have asReference (noPath : ∀ rest, step ≠ '$' :: rest) :
      parseStep step = (parseReference step).map .entity := by
    rw [parseStep]
    exact noPath
  constructor
  · intro parsed
    cases step with
    | nil => cases parsed
    | cons c rest =>
        by_cases path : c = '$'
        · subst path
          rw [parseStep] at parsed
          split at parsed <;> cases parsed
        · rw [asReference fun _ same => path (List.cons.inj same).1] at parsed
          obtain ⟨found, parsed, same⟩ := ok_of_map parsed
          cases same
          rw [parseReference] at parsed
          split at parsed
          · rename_i read
            cases parsed
            exact read
          · cases parsed
  · intro read
    rw [asReference (Reference.head_ne_dollar read), parseReference, read]
    rfl

theorem parseText_of_single (single : '|' ∉ written.toList) :
    parseText written = parseStep (Text.trim written.toList) := by
  rw [parseText, Text.split_eq_self single]

theorem parseText_of_chain (chain : '|' ∈ written.toList) :
    parseText written = (parseSteps written (Text.split '|' written.toList)).map .list := by
  have pieces := Text.two_le_length_split chain
  rw [parseText]
  split
  · rename_i single parts
    rw [parts] at pieces
    exact absurd pieces (by simp)
  · rfl

/-- A text is a single reference exactly if it holds no separator of chains and can be read as that
    reference but for the white space around it. -/
theorem compile_text_eq_entity_iff :
    (Spec.text written).compile = .ok (.entity reference) ↔
      '|' ∉ written.toList ∧ Reference.parse? (Text.trim written.toList) = some reference := by
  rw [compile_text_eq_ok_iff]
  by_cases chain : '|' ∈ written.toList
  · rw [parseText_of_chain chain]
    refine ⟨fun parsed => ?_, fun read => absurd chain read.1⟩
    obtain ⟨steps, -, same⟩ := ok_of_map parsed
    cases same
  · rw [parseText_of_single chain, parseStep_eq_entity_iff]
    exact ⟨fun read => ⟨chain, read⟩, And.right⟩

/-- A reference is read from its own text, unless there is a separator in it or a mark too many at its
    end. -/
theorem compile_display (wellFormed : reference.WellFormed) (single : '|' ∉ reference.id.toList)
    (mark : reference.isCollection = true ∨ ¬ ['[', ']'] <:+ reference.id.toList) :
    (Spec.text reference.display).compile = .ok (.entity reference) := by
  have visible : ∀ c ∈ reference.display.toList, Text.isBlank c = false := by
    intro c member
    rcases Reference.mem_display member with inId | rfl | rfl
    · exact wellFormed.visible c inId
    · decide
    · decide
  have noSeparator : '|' ∉ reference.display.toList := by
    intro member
    rcases Reference.mem_display member with inId | same | same
    · exact single inId
    · exact absurd same (by decide)
    · exact absurd same (by decide)
  rw [compile_text_eq_entity_iff, Text.trim_eq_self visible]
  exact ⟨noSeparator, Reference.parse?_display wellFormed mark⟩

/-! ### References in texts -/

/-- A chain is read exactly if each of its pieces is, without the white space around it. A blank piece is
    no step. -/
theorem parseSteps_eq_ok_iff {chain : String} {pieces : List (List Char)} {steps : List Reducer} :
    parseSteps chain pieces = .ok steps ↔
      List.Forall₂ (fun piece step => parseStep (Text.trim piece) = .ok step) pieces steps := by
  induction pieces generalizing steps with
  | nil =>
      rw [List.forall₂_nil_left_iff]
      exact ⟨fun parsed => by cases parsed; rfl, fun none => by rw [none]; rfl⟩
  | cons piece rest ih =>
      rw [parseSteps, List.forall₂_cons_left_iff]
      dsimp only
      split
      · rename_i blank
        constructor
        · intro parsed
          cases parsed
        · rintro ⟨step, -, parsed, -⟩
          rw [List.isEmpty_iff.mp blank] at parsed
          cases parsed
      · constructor
        · intro parsed
          obtain ⟨step, stepParsed, parsed⟩ := ok_of_bind parsed
          obtain ⟨others, restParsed, built⟩ := ok_of_bind parsed
          cases built
          exact ⟨step, others, stepParsed, ih.mp restParsed, rfl⟩
        · rintro ⟨step, others, stepParsed, restParsed, rfl⟩
          exact bind_eq_ok_iff.mpr ⟨step, stepParsed, bind_eq_ok_iff.mpr ⟨others, ih.mpr restParsed, rfl⟩⟩

/-- A step has no reference but itself. -/
theorem mem_references_of_parseStep {step : List Char} (parsed : parseStep step = .ok reducer) :
    reference ∈ reducer.references ↔ Reference.parse? step = some reference := by
  rw [← parseStep_eq_entity_iff, parsed, Except.ok.injEq]
  refine ⟨fun refers => ?_, ?_⟩
  · unfold parseStep at parsed
    split at parsed
    · split at parsed
      · cases parsed
        cases refers
      · cases parsed
    · obtain ⟨found, -, rfl⟩ := ok_of_map parsed
      obtain rfl := List.mem_singleton.mp refers
      rfl
  · rintro rfl
    exact List.mem_singleton.mpr rfl

theorem mem_stepReferences_iff {pieces : List (List Char)} {steps : List Reducer}
    (parsed : List.Forall₂ (fun piece step => parseStep (Text.trim piece) = .ok step) pieces steps) :
    reference ∈ Reducer.stepReferences steps ↔
      ∃ piece ∈ pieces, Reference.parse? (Text.trim piece) = some reference := by
  induction parsed with
  | nil => simp [Reducer.stepReferences]
  | cons first _ ih =>
      rw [Reducer.stepReferences, List.mem_append, mem_references_of_parseStep first, ih,
        List.exists_mem_cons_iff]

/-- The references of a text are the pieces of it that are read as references. -/
theorem mem_references_text_iff (compiled : (Spec.text written).compile = .ok reducer) :
    reference ∈ reducer.references ↔
      ∃ piece ∈ Text.split '|' written.toList, Reference.parse? (Text.trim piece) = some reference := by
  rw [compile_text_eq_ok_iff] at compiled
  by_cases chain : '|' ∈ written.toList
  · rw [parseText_of_chain chain] at compiled
    obtain ⟨steps, parsed, rfl⟩ := ok_of_map compiled
    exact mem_stepReferences_iff (parseSteps_eq_ok_iff.mp parsed)
  · rw [parseText_of_single chain] at compiled
    rw [mem_references_of_parseStep compiled, Text.split_eq_self chain]
    simp

/-- No text has a reference whose id holds the separator of chains. -/
theorem not_mem_id_of_mem_references (compiled : (Spec.text written).compile = .ok reducer)
    (refers : reference ∈ reducer.references) : '|' ∉ reference.id.toList := by
  obtain ⟨piece, member, read⟩ := (mem_references_text_iff compiled).mp refers
  obtain ⟨closes, -⟩ := Reference.parse?_eq_some_iff.mp read
  intro separator
  refine Text.not_mem_of_mem_split member (Text.mem_of_mem_trim ?_)
  rw [closes.whole]
  exact List.mem_append_left _ separator

end Spec

namespace Builder

variable {builder : Builder} {store : Store} {id : String} {entity : Entity}

/-- A registered id is the id of a reference, with the mark or without. -/
theorem exists_reference_of_build (built : builder.build = .ok store)
    (found : store.get? id = some entity) (isCollection : Bool) :
    ∃ reference : Reference, reference.id = id ∧ reference.isCollection = isCollection ∧
      reference.WellFormed := by
  obtain ⟨definition, -, compiled⟩ := compiled_of_build built found
  obtain ⟨typeName, name, type, parts, -, -, -⟩ := Entity.parts_of_compile compiled
  obtain ⟨whole, shape⟩ := Reference.splitId?_eq_some_iff.mp parts
  refine ⟨⟨String.ofList typeName, String.ofList name, isCollection⟩, ?_, rfl, ?_⟩
  · rw [← String.toList_inj, Reference.toList_id, whole]
    simp
  · constructor <;> simp [shape]

theorem compile_registered (built : builder.build = .ok store) (found : store.get? id = some entity)
    (isCollection : Bool) (single : '|' ∉ id.toList)
    (mark : isCollection = true ∨ ¬ ['[', ']'] <:+ id.toList) :
    ∃ reference, (Spec.text (id ++ String.ofList (Text.mark isCollection))).compile =
        .ok (.entity reference) ∧
      reference.id = id ∧ reference.isCollection = isCollection := by
  obtain ⟨reference, rfl, rfl, wellFormed⟩ := exists_reference_of_build built found isCollection
  exact ⟨reference, Spec.compile_display wellFormed single mark, rfl, rfl⟩

/-- A registered entity is named by its id unless the id holds the separator of chains or ends with the mark
    of a collection, and by its id with the mark behind it unless the id holds the separator. If an id is read
    as a reference to another entity, it ends with the mark, and the reference is to what stands before it, for
    every item. Of all references in texts, one to the entity with the mark exists exactly if the id holds no
    separator, and one without the mark exactly if it does not end with the mark either. -/
theorem naming_is_exact (built : builder.build = .ok store) (found : store.get? id = some entity) :
    ((∃ reference, (Spec.text id).compile = .ok (.entity reference) ∧ reference.id = id ∧
        reference.isCollection = false) ↔
      '|' ∉ id.toList ∧ ¬ ['[', ']'] <:+ id.toList) ∧
    ((∃ reference, (Spec.text (id ++ "[]")).compile = .ok (.entity reference) ∧ reference.id = id ∧
        reference.isCollection = true) ↔
      '|' ∉ id.toList) ∧
    (∀ reference, (Spec.text id).compile = .ok (.entity reference) →
      '|' ∉ id.toList ∧
        (reference.id = id ∧ reference.isCollection = false ∨
          id = reference.id ++ "[]" ∧ reference.isCollection = true)) ∧
    ∀ isCollection,
      (∃ written reducer reference, (Spec.text written).compile = .ok reducer ∧
        reference ∈ reducer.references ∧ reference.id = id ∧ reference.isCollection = isCollection) ↔
      '|' ∉ id.toList ∧ (isCollection = true ∨ ¬ ['[', ']'] <:+ id.toList) := by
  refine ⟨⟨?_, ?_⟩, ⟨?_, ?_⟩, ?_, fun isCollection => ⟨?_, ?_⟩⟩
  · rintro ⟨reference, compiled, rfl, plain⟩
    obtain ⟨single, read⟩ := Spec.compile_text_eq_entity_iff.mp compiled
    exact ⟨single, Reference.unmarked_of_parse? read plain⟩
  · rintro ⟨single, unmarked⟩
    have named := compile_registered built found false single (.inr unmarked)
    rwa [show id ++ String.ofList (Text.mark false) = id from String.append_empty] at named
  · rintro ⟨reference, compiled, -⟩ separator
    refine (Spec.compile_text_eq_entity_iff.mp compiled).1 ?_
    rw [String.toList_append]
    exact List.mem_append_left _ separator
  · exact fun single => compile_registered built found true single (.inl rfl)
  · intro reference compiled
    obtain ⟨single, read⟩ := Spec.compile_text_eq_entity_iff.mp compiled
    obtain ⟨registered, rfl, -, wellFormed⟩ := exists_reference_of_build built found false
    rw [Text.trim_eq_self wellFormed.visible] at read
    have whole := (Reference.parse?_eq_some_iff.mp read).1.whole
    refine ⟨single, ?_⟩
    cases marked : reference.isCollection with
    | false =>
        rw [marked, Text.mark, if_neg Bool.false_ne_true, List.append_nil] at whole
        exact .inl ⟨(String.toList_inj.mp whole).symm, rfl⟩
    | true =>
        rw [marked] at whole
        refine .inr ⟨?_, rfl⟩
        rw [← String.toList_inj, whole, String.toList_append]
        rfl
  · rintro ⟨written, reducer, reference, compiled, refers, rfl, rfl⟩
    refine ⟨Spec.not_mem_id_of_mem_references compiled refers, ?_⟩
    obtain ⟨piece, -, read⟩ := (Spec.mem_references_text_iff compiled).mp refers
    cases marked : reference.isCollection with
    | true => exact .inl rfl
    | false => exact .inr (Reference.unmarked_of_parse? read marked)
  · rintro ⟨single, mark⟩
    obtain ⟨reference, compiled, same⟩ := compile_registered built found isCollection single mark
    exact ⟨_, _, reference, compiled, List.mem_singleton.mpr rfl, same⟩

end Builder

/-! ### Ids that are not names -/

namespace Separators

/-- An entity that keeps its value. -/
def keeping (name : String) : Entity :=
  ⟨name, .identity, none, none, none, false, .entry⟩

def builder : Builder :=
  (Builder.empty.add "entry:a|b" {}).add "entry:a[]" {}

def store : Store :=
  ⟨[("entry:a[]", keeping "a[]"), ("entry:a|b", keeping "a|b")], [], none⟩

theorem compile_keeping {id name : String} (entry : id = "entry:" ++ name)
    (named : Reference.isName name.toList = true) : Entity.compile id {} = .ok (keeping name) := by
  have whole : id.toList = "entry".toList ++ ':' :: name.toList := entry ▸ String.toList_append
  rw [Entity.compile, Reference.splitId?_eq_some_iff.mpr ⟨whole, by decide, named⟩]
  show Except.ok (keeping (String.ofList name.toList)) = _
  rw [String.ofList_toList]

/-- Both ids are accepted. -/
theorem build_eq : builder.build = .ok store := by
  have piped : Entity.compile "entry:a|b" {} = .ok (keeping "a|b") :=
    compile_keeping (by decide) (by decide)
  have marked : Entity.compile "entry:a[]" {} = .ok (keeping "a[]") :=
    compile_keeping (by decide) (by decide)
  refine Builder.build_eq_ok_iff.mpr ⟨store.entities, ?_, rfl, rfl⟩
  refine Builder.compileAll_cons_eq_ok_iff.mpr ⟨rfl, _, piped, ?_⟩
  exact Builder.compileAll_cons_eq_ok_iff.mpr ⟨rfl, _, marked, rfl⟩

end Separators

namespace Builder

/-- That every registered entity is named by its id is too much to say: the separator of chains and the mark
    of a collection may stand in ids. -/
theorem separators_hide_entities :
    ¬ ∀ (builder : Builder) (store : Store) (id : String) (entity : Entity),
      builder.build = .ok store → store.get? id = some entity →
      (∃ reference, (Spec.text id).compile = .ok (.entity reference) ∧ reference.id = id ∧
        reference.isCollection = false) ∧
      ∃ reference, (Spec.text (id ++ "[]")).compile = .ok (.entity reference) ∧ reference.id = id ∧
        reference.isCollection = true := by
  intro named
  obtain ⟨⟨reference, compiled, -⟩, -⟩ :=
    named Separators.builder Separators.store "entry:a|b" (Separators.keeping "a|b") Separators.build_eq rfl
  exact (Spec.compile_text_eq_entity_iff.mp compiled).1 (by decide)

/-- In the sample, `entry:a[]` is registered: its id is read as a reference to `entry:a`, and only its id with
    the mark behind it names it. -/
theorem naming_is_exact_sample :
    Separators.builder.build = .ok Separators.store ∧
      Separators.store.get? "entry:a[]" = some (Separators.keeping "a[]") ∧
      (¬ ∃ reference, (Spec.text "entry:a[]").compile = .ok (.entity reference) ∧
        reference.id = "entry:a[]" ∧ reference.isCollection = false) ∧
      ∃ reference, (Spec.text "entry:a[][]").compile = .ok (.entity reference) ∧
        reference.id = "entry:a[]" ∧ reference.isCollection = true := by
  have found : Separators.store.get? "entry:a[]" = some (Separators.keeping "a[]") := rfl
  obtain ⟨plain, marked, -⟩ := naming_is_exact Separators.build_eq found
  refine ⟨Separators.build_eq, found, fun named => ?_, marked.mpr (by decide)⟩
  exact (plain.mp named).2 (by decide)

end Builder

end Reshape
