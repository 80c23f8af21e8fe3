/-
Module: Reshape.Proofs.ReducerGrammar
Layer: Proofs
Purpose: The grammar of reducers that are given as text. A text without a separator is a path behind `$` or
  an id, with or without the mark of a collection; white space around it does not count. A chain is the list
  of its steps, and it is one exactly if all of them are reducers.
Main exports: Reference.Splits, Spec.Step, Spec.parseStep_eq_ok_iff, Spec.compile_chain_eq_ok_iff,
  Spec.compile_list_eq_ok_iff, Spec.texts_compile_as_written
-/
import Reshape.Proofs.Naming
import Reshape.Proofs.PathGrammar
import Reshape.Resolution.Basic

namespace Reshape

namespace Reference

/-- A letter or a digit of ASCII, `_` or `-`. -/
def TypeChar (c : Char) : Prop :=
  'a' ≤ c ∧ c ≤ 'z' ∨ 'A' ≤ c ∧ c ≤ 'Z' ∨ '0' ≤ c ∧ c ≤ '9' ∨ c = '_' ∨ c = '-'

theorem isTypeChar_iff {c : Char} : isTypeChar c = true ↔ TypeChar c := by
  unfold isTypeChar Char.isAlphanum Char.isAlpha Char.isUpper Char.isLower Char.isDigit TypeChar
  simp only [Bool.or_eq_true, Bool.and_eq_true, beq_iff_eq, decide_eq_true_eq, ge_iff_le, Char.le_def]
  constructor
  · rintro ((((upper | lower) | digit) | underscore) | dash)
    · exact .inr (.inl upper)
    · exact .inl lower
    · exact .inr (.inr (.inl digit))
    · exact .inr (.inr (.inr (.inl underscore)))
    · exact .inr (.inr (.inr (.inr dash)))
  · rintro (lower | upper | digit | underscore | dash)
    · exact .inl (.inl (.inl (.inr lower)))
    · exact .inl (.inl (.inl (.inl upper)))
    · exact .inl (.inl (.inr digit))
    · exact .inl (.inr underscore)
    · exact .inr dash

/-- `Splits id typeName name`: the first colon of `id` stands between a type and a name. -/
structure Splits (id typeName name : List Char) : Prop where
  whole : id = typeName ++ ':' :: name
  first : ':' ∉ typeName
  typed : typeName ≠ []
  typeChars : ∀ c ∈ typeName, TypeChar c
  named : name ≠ []
  visible : ∀ c ∈ name, Text.isBlank c = false

theorem isTypeName_eq_true_iff {text : List Char} :
    isTypeName text = true ↔ text ≠ [] ∧ ∀ c ∈ text, TypeChar c := by
  rw [isTypeName, Bool.and_eq_true, Bool.not_eq_true', List.isEmpty_eq_false_iff, List.all_eq_true]
  exact and_congr_right fun _ => forall₂_congr fun _ _ => isTypeChar_iff

theorem isName_eq_true_iff {text : List Char} :
    isName text = true ↔ text ≠ [] ∧ ∀ c ∈ text, Text.isBlank c = false := by
  rw [isName, Bool.and_eq_true, Bool.not_eq_true', List.isEmpty_eq_false_iff, Bool.not_eq_true',
    List.any_eq_false]
  exact and_congr_right fun _ => forall₂_congr fun _ _ => iff_of_eq (Bool.not_eq_true _)

variable {reference : Reference}

/-- Of all texts, only the id of a reference splits into the type and the name of it. -/
theorem splits_iff {id : List Char} :
    Splits id reference.typeName.toList reference.name.toList ↔
      id = reference.id.toList ∧ reference.WellFormed := by
  rw [toList_id]
  constructor
  · intro splits
    exact ⟨splits.whole, isTypeName_eq_true_iff.mpr ⟨splits.typed, splits.typeChars⟩,
      isName_eq_true_iff.mpr ⟨splits.named, splits.visible⟩⟩
  · rintro ⟨whole, wellFormed⟩
    obtain ⟨typed, typeChars⟩ := isTypeName_eq_true_iff.mp wellFormed.type
    obtain ⟨named, visible⟩ := isName_eq_true_iff.mp wellFormed.named
    refine ⟨whole, fun colon => ?_, typed, typeChars, named, visible⟩
    exact absurd (isTypeChar_iff.mpr (typeChars ':' colon)) (by decide)

/-- A text is read as a reference if what is left without the mark splits into its type and its name. -/
theorem parse?_eq_some_iff_splits {text : List Char} :
    parse? text = some reference ↔
      ∃ id, Text.Closes text id reference.isCollection ∧
        Splits id reference.typeName.toList reference.name.toList := by
  rw [parse?_eq_some_iff]
  constructor
  · rintro ⟨closes, wellFormed⟩
    exact ⟨_, closes, splits_iff.mpr ⟨rfl, wellFormed⟩⟩
  · rintro ⟨id, closes, splits⟩
    obtain ⟨rfl, wellFormed⟩ := splits_iff.mp splits
    exact ⟨closes, wellFormed⟩

/-- A reference is read back from its own text, which is the only text it is read from. -/
theorem parse?_display_of_parse? {text : List Char} (read : parse? text = some reference) :
    reference.display.toList = text ∧ parse? reference.display.toList = some reference := by
  obtain ⟨closes, -⟩ := parse?_eq_some_iff.mp read
  have same : reference.display.toList = text := by
    rw [toList_display]
    exact closes.whole.symm
  rw [same]
  exact ⟨rfl, read⟩

end Reference

namespace Spec

variable {written : String} {reference : Reference} {reducer : Reducer} {path : Path}

/-! ### Single steps -/

/-- `Step text reducer`: the text, with no white space around it, is the reducer. Either it is a path behind
    `$` or, but for a final `[]`, an id. -/
inductive Step : List Char → Reducer → Prop where
  | path {text : String} {path : Path} (parsed : Path.parse text = .ok path) :
      Step ('$' :: text.toList) (.path path)
  | entity {text id : List Char} {reference : Reference}
      (closes : Text.Closes text id reference.isCollection)
      (splits : Reference.Splits id reference.typeName.toList reference.name.toList) :
      Step text (.entity reference)

theorem parseStep_eq_ok_iff {step : List Char} : parseStep step = .ok reducer ↔ Step step reducer := by
  constructor
  · intro parsed
    have whole := parsed
    unfold parseStep at parsed
    split at parsed
    · rename_i rest
      split at parsed
      · rename_i path read
        cases parsed
        have step := Step.path read
        rwa [String.toList_ofList] at step
      · cases parsed
    · obtain ⟨reference, -, rfl⟩ := ok_of_map parsed
      have read := parseStep_eq_entity_iff.mp whole
      obtain ⟨id, closes, splits⟩ := Reference.parse?_eq_some_iff_splits.mp read
      exact .entity closes splits
  · rintro (read | ⟨closes, splits⟩)
    · rw [parseStep, String.ofList_toList, read]
    · exact parseStep_eq_entity_iff.mpr (Reference.parse?_eq_some_iff_splits.mpr ⟨_, closes, splits⟩)

/-- A text without a separator is the reducer that is left of it without the white space around it. -/
theorem compile_single_eq_ok_iff (single : '|' ∉ written.toList) :
    (Spec.text written).compile = .ok reducer ↔
      ∃ core, Text.Trims written.toList core ∧ Step core reducer := by
  rw [compile_text_eq_ok_iff, parseText_of_single single, parseStep_eq_ok_iff]
  constructor
  · exact fun step => ⟨_, Text.trims_trim _, step⟩
  · rintro ⟨core, trims, step⟩
    rwa [Text.trim_eq_iff.mpr trims]

/-! ### Chains and lists -/

theorem compileAll_eq_ok_iff {specs : List Spec} {reducers : List Reducer} :
    compileAll specs = .ok reducers ↔
      List.Forall₂ (fun spec reducer => spec.compile = .ok reducer) specs reducers := by
  induction specs generalizing reducers with
  | nil =>
      rw [compileAll, List.forall₂_nil_left_iff]
      exact ⟨fun ok => by cases ok; rfl, fun none => by rw [none]⟩
  | cons spec rest ih =>
      rw [compileAll, List.forall₂_cons_left_iff]
      constructor
      · intro ok
        split at ok
        · cases ok
        · rename_i first compiled
          split at ok
          · cases ok
          · rename_i others restCompiled
            cases ok
            exact ⟨first, others, compiled, ih.mp restCompiled, rfl⟩
      · rintro ⟨first, others, compiled, restCompiled, rfl⟩
        rw [compiled, ih.mpr restCompiled]

theorem compile_list_eq_ok_iff {specs : List Spec} :
    (Spec.list specs).compile = .ok reducer ↔
      ∃ steps, reducer = .list steps ∧
        List.Forall₂ (fun spec step => spec.compile = .ok step) specs steps := by
  rw [compile]
  constructor
  · intro ok
    split at ok
    · rename_i steps compiled
      cases ok
      exact ⟨steps, rfl, compileAll_eq_ok_iff.mp compiled⟩
    · cases ok
  · rintro ⟨steps, rfl, each⟩
    rw [compileAll_eq_ok_iff.mpr each]

/-- The text of a chain: its steps with a separator between them, and white space around that. -/
def chain (before behind : String) (texts : List String) : String :=
  (before ++ "|" ++ behind).intercalate texts

variable {before behind : String} {texts : List String}

theorem toList_chain : (chain before behind texts).toList =
    (before.toList ++ '|' :: behind.toList).intercalate (texts.map String.toList) := by
  rw [chain, String.toList_intercalate, String.toList_append, String.toList_append, List.append_assoc]
  rfl

theorem separator_mem_chain (several : 2 ≤ texts.length) : '|' ∈ (chain before behind texts).toList := by
  rw [toList_chain]
  rcases texts with _ | ⟨text, _ | ⟨next, rest⟩⟩
  · cases several
  · exact absurd several (by simp)
  · rw [List.map_cons, List.map_cons, List.intercalate_cons_cons]
    simp

/-- The pieces of a chain are its steps, but for the white space around them. -/
theorem pieces_of_chain (blank : ∀ c ∈ before.toList, Text.isBlank c = true)
    (blank' : ∀ c ∈ behind.toList, Text.isBlank c = true) (several : 2 ≤ texts.length)
    (free : ∀ text ∈ texts, '|' ∉ text.toList) :
    (Text.split '|' (chain before behind texts).toList).map Text.trim =
      texts.map fun text => Text.trim text.toList := by
  have some : texts.map String.toList ≠ [] := by
    intro none
    rw [List.map_eq_nil_iff.mp none] at several
    cases several
  rw [toList_chain, Text.map_trim_split (by decide) blank blank' some (List.forall_mem_map.mpr free),
    List.map_map]
  rfl

/-- A text that holds no separator is read as a step of a chain just as it is on its own. -/
theorem steps_of_texts_iff (free : ∀ text ∈ texts, '|' ∉ text.toList) {steps : List Reducer} :
    List.Forall₂ (fun text step => parseStep (Text.trim text.toList) = .ok step) texts steps ↔
      List.Forall₂ (fun text step => (Spec.text text).compile = .ok step) texts steps := by
  rw [List.forall₂_iff_zip, List.forall₂_iff_zip]
  refine and_congr_right fun _ => forall₂_congr fun text step => imp_congr_right fun member => ?_
  rw [compile_text_eq_ok_iff, parseText_of_single (free _ (List.of_mem_zip member).1)]

/-- A chain is the list of its steps, each compiled on its own. -/
theorem compile_chain_eq_ok_iff (blank : ∀ c ∈ before.toList, Text.isBlank c = true)
    (blank' : ∀ c ∈ behind.toList, Text.isBlank c = true) (several : 2 ≤ texts.length)
    (free : ∀ text ∈ texts, '|' ∉ text.toList) :
    (Spec.text (chain before behind texts)).compile = .ok reducer ↔
      ∃ steps, reducer = .list steps ∧
        List.Forall₂ (fun text step => (Spec.text text).compile = .ok step) texts steps := by
  have read {steps : List Reducer} :
      parseSteps (chain before behind texts) (Text.split '|' (chain before behind texts).toList) =
          .ok steps ↔
        List.Forall₂ (fun text step => (Spec.text text).compile = .ok step) texts steps := by
    rw [parseSteps_eq_ok_iff, ← steps_of_texts_iff free,
      ← List.forall₂_map_left_iff (f := Text.trim) (R := fun piece step => parseStep piece = .ok step),
      pieces_of_chain blank blank' several free, List.forall₂_map_left_iff]
  rw [compile_text_eq_ok_iff, parseText_of_chain (separator_mem_chain several), map_eq_ok_iff]
  simp only [read]
  exact exists_congr fun steps => and_comm.trans (and_congr_left fun _ => eq_comm)

/-- Both ways to write several steps compile to the same list, or neither compiles. -/
theorem compile_texts_eq_ok_iff :
    (Spec.list (texts.map .text)).compile = .ok reducer ↔
      ∃ steps, reducer = .list steps ∧
        List.Forall₂ (fun text step => (Spec.text text).compile = .ok step) texts steps := by
  rw [compile_list_eq_ok_iff]
  simp only [List.forall₂_map_left_iff]

/-! ### The grammar -/

/-- A text that compiles to a path is that path behind a `$`. -/
theorem path_of_compile_text (compiled : (Spec.text written).compile = .ok (.path path)) :
    ∃ text : String, Text.Trims written.toList ('$' :: text.toList) ∧ Path.parse text = .ok path := by
  by_cases separated : '|' ∈ written.toList
  · rw [compile_text_eq_ok_iff, parseText_of_chain separated] at compiled
    obtain ⟨steps, -, same⟩ := ok_of_map compiled
    cases same
  · obtain ⟨core, trims, step⟩ := (compile_single_eq_ok_iff separated).mp compiled
    cases step with
    | path parsed => exact ⟨_, trims, parsed⟩

/-- A text without a separator is compiled exactly if it is a step but for the white space around it. A path
    then reads, on every accumulator, what its text reads there; a reference prints the text, and is read back
    from it. A chain of texts is compiled exactly if each of them is, to the list of them in order, which is
    also what the list of the texts compiles to. -/
theorem texts_compile_as_written :
    (∀ (written : String) (reducer : Reducer), '|' ∉ written.toList →
      ((Spec.text written).compile = .ok reducer ↔
        ∃ core, Text.Trims written.toList core ∧ Step core reducer)) ∧
    (∀ (written : String) (path : Path), (Spec.text written).compile = .ok (.path path) →
      ∃ text : String, Text.Trims written.toList ('$' :: text.toList) ∧ Path.parse text = .ok path ∧
        ∀ acc : Accumulator, ∃ leaf, acc.readText text = .ok leaf ∧
          ∀ (store : Store) (depth : Nat),
            store.resolve (depth + 1) (.path path) acc = Run.pure (acc.withValue leaf)) ∧
    (∀ (written : String) (reference : Reference),
      (Spec.text written).compile = .ok (.entity reference) →
      Text.Trims written.toList reference.display.toList ∧
        Reference.parse? reference.display.toList = some reference) ∧
    ∀ (before behind : String) (texts : List String),
      (∀ c ∈ before.toList, Text.isBlank c = true) → (∀ c ∈ behind.toList, Text.isBlank c = true) →
      2 ≤ texts.length → (∀ text ∈ texts, '|' ∉ text.toList) →
      ((∃ reducer, (Spec.text (chain before behind texts)).compile = .ok reducer) ↔
        ∀ text ∈ texts, ∃ step, (Spec.text text).compile = .ok step) ∧
      ∀ reducer : Reducer,
        ((Spec.text (chain before behind texts)).compile = .ok reducer ↔
          ∃ steps, reducer = .list steps ∧
            List.Forall₂ (fun text step => (Spec.text text).compile = .ok step) texts steps) ∧
        ((Spec.text (chain before behind texts)).compile = .ok reducer ↔
          (Spec.list (texts.map .text)).compile = .ok reducer) := by
  refine ⟨fun written reducer single => compile_single_eq_ok_iff single, ?_, ?_, ?_⟩
  · intro written path compiled
    obtain ⟨text, trims, parsed⟩ := path_of_compile_text compiled
    refine ⟨text, trims, parsed, fun acc => ⟨acc.read path, ?_, fun store depth => ?_⟩⟩
    · rw [Accumulator.readText, parsed]
    · rw [Store.resolve]
  · intro written reference compiled
    obtain ⟨-, read⟩ := compile_text_eq_entity_iff.mp compiled
    obtain ⟨same, readBack⟩ := Reference.parse?_display_of_parse? read
    exact ⟨Text.trim_eq_iff.mp same.symm, readBack⟩
  · intro before behind texts blank blank' several free
    have asSteps (reducer : Reducer) :
        (Spec.text (chain before behind texts)).compile = .ok reducer ↔
          ∃ steps, reducer = .list steps ∧
            List.Forall₂ (fun text step => (Spec.text text).compile = .ok step) texts steps :=
      compile_chain_eq_ok_iff blank blank' several free
    refine ⟨?_, fun reducer => ⟨asSteps reducer, (asSteps reducer).trans compile_texts_eq_ok_iff.symm⟩⟩
    rw [← exists_forall₂_iff]
    constructor
    · rintro ⟨reducer, compiled⟩
      obtain ⟨steps, -, each⟩ := (asSteps reducer).mp compiled
      exact ⟨steps, each⟩
    · rintro ⟨steps, each⟩
      exact ⟨_, (asSteps (.list steps)).mpr ⟨steps, rfl, each⟩⟩

/-- In the sample, `" $a "` is a path, `"hash:[]"` is no reference, for the mark leaves no name, and the chain
    of `"$a"` and `"entry:b:c[]"` is the list of both. -/
theorem texts_compile_as_written_sample :
    let path : Path := ⟨"a", .value, [.key "a"], false⟩
    (Spec.text " $a ").compile = .ok (.path path) ∧
      (¬ ∃ reducer, (Spec.text "hash:[]").compile = .ok reducer) ∧
      (Spec.text (chain " " "" ["$a", "entry:b:c[]"])).compile =
        .ok (.list [.path path, .entity ⟨"entry", "b:c", true⟩]) := by
  intro path
  obtain ⟨single, -, -, chains⟩ := texts_compile_as_written
  have letter : ∀ c ∈ ['a'], Path.KeyChar c := List.forall_mem_singleton.mpr (by decide)
  have key : Path.Item ['a'] [] (.key "a") := .key (by decide) letter (by simp)
  have parsed : Path.parse "a" = .ok path :=
    Path.parse_of_parts (.value (by decide)) (.plain (by decide)) (.plain (.adjoined key .nil)) (by decide)
  have read : parseStep "entry:b:c[]".toList = .ok (.entity ⟨"entry", "b:c", true⟩) := rfl
  have trims (text : String) {core : List Char} (trimmed : Text.trim text.toList = core) :
      Text.Trims text.toList core := Text.trim_eq_iff.mp trimmed
  have first : (Spec.text "$a").compile = .ok (.path path) :=
    (single _ _ (by decide)).mpr ⟨_, trims "$a" (by decide), .path parsed⟩
  have second : (Spec.text "entry:b:c[]").compile = .ok (.entity ⟨"entry", "b:c", true⟩) :=
    (single _ _ (by decide)).mpr ⟨_, trims "entry:b:c[]" (by decide), parseStep_eq_ok_iff.mp read⟩
  refine ⟨(single _ _ (by decide)).mpr ⟨_, trims " $a " (by decide), .path parsed⟩, ?_, ?_⟩
  · rintro ⟨reducer, compiled⟩
    obtain ⟨core, left, step⟩ := (single _ _ (by decide)).mp compiled
    obtain rfl : "hash:[]".toList = core := (by decide : Text.trim "hash:[]".toList = _).symm.trans
      (Text.trim_eq_iff.mpr left)
    cases parseStep_eq_ok_iff.mpr step
  · have blank : ∀ c ∈ [' '], Text.isBlank c = true := List.forall_mem_singleton.mpr (by decide)
    have free : ∀ text ∈ ["$a", "entry:b:c[]"], '|' ∉ text.toList :=
      List.forall_mem_cons.mpr ⟨by decide, List.forall_mem_singleton.mpr (by decide)⟩
    obtain ⟨-, compiled⟩ := chains " " "" _ blank (List.forall_mem_nil _) (by decide) free
    exact (compiled _).1.mpr ⟨_, rfl, .cons first (.cons second .nil)⟩

end Spec

end Reshape
