/-
Module: Reshape.Proofs.NumericKeys
Layer: Proofs
Purpose: Indices and keys that are numbers. An index and the key with its digits read the same from every value,
  so a path may be written with either, at each place. Of other keys, arrays take every spelling of a number
  below their length, while objects take the exact text alone.
Main exports: Path.Segment.asKey, Path.withKeysAt, Path.Denotes, Path.Segment.ReadsLike,
  Path.Segment.readsLike_asKey, Accumulator.read_congr, Value.step?_array_eq_some_iff, Path.indices_read_as_keys
-/
import Mathlib.Data.Finset.Insert
import Reshape.Proofs.PathRendering
import Reshape.Proofs.RecordView

namespace Reshape

namespace Path

/-! ### Two spellings of a place -/

/-- The key with the digits of an index. Keys stay as they are. -/
def Segment.asKey : Segment → Segment
  | .index n => .key (String.ofList (Nat.toDigits 10 n))
  | .key text => .key text

/-- The segments, where those at the given positions are written as keys. -/
def withKeysAt (positions : Finset Nat) (segments : List Segment) : List Segment :=
  segments.mapIdx fun i segment => if i ∈ positions then segment.asKey else segment

/-- `Denotes text n`: one or more decimal digits of value `n`, with or without a plus sign in front. Zeros may
    lead, and the value may be of any size. -/
inductive Denotes : List Char → Nat → Prop where
  | plain {digits : List Char} (some : digits ≠ []) (digit : ∀ c ∈ digits, c.isDigit = true) :
      Denotes digits (Nat.ofDigitChars 10 digits 0)
  | signed {digits : List Char} (some : digits ≠ []) (digit : ∀ c ∈ digits, c.isDigit = true) :
      Denotes ('+' :: digits) (Nat.ofDigitChars 10 digits 0)

/-- The segments read the same from every value. -/
def Segment.ReadsLike (segment other : Segment) : Prop :=
  ∀ value : Value, value.step? segment = value.step? other

theorem numeral_iff {text : List Char} {n : Nat} :
    Numeral text n ↔ Denotes text n ∧ n < Nat.pow 2 64 := by
  constructor
  · intro numeral
    refine ⟨?_, numeral.fits⟩
    cases numeral with
    | plain digits =>
        obtain ⟨some, digit, rfl, -⟩ := digits
        exact .plain some digit
    | signed digits =>
        obtain ⟨some, digit, rfl, -⟩ := digits
        exact .signed some digit
  · rintro ⟨denotes, fits⟩
    cases denotes with
    | plain some digit => exact .plain ⟨some, digit, rfl, fits⟩
    | signed some digit => exact .signed ⟨some, digit, rfl, fits⟩

/-- An array turns the digits back into the index, an object turns the index into the digits. -/
theorem Segment.readsLike_asKey {n : Nat} (fits : n < Nat.pow 2 64) :
    (Segment.index n).ReadsLike (Segment.index n).asKey := by
  intro value
  cases value with
  | array items =>
      have read : index? (Nat.toDigits 10 n) = some n :=
        index?_eq_some_iff.mpr (.plain (digits_toDigits fits))
      rw [asKey, Value.step?, Value.step?, String.toList_ofList, read]
      rfl
  | _ => rfl

theorem Segment.WellFormed.asKey {segment : Segment} (wellFormed : segment.WellFormed) :
    segment.asKey.WellFormed := by
  cases segment with
  | key text => exact wellFormed
  | index n =>
      constructor
      · intro none
        exact absurd (String.ofList_eq_empty_iff.mp none) Nat.toDigits_ne_nil
      · intro c member
        rw [String.toList_ofList] at member
        exact keyChar_of_isDigit (Nat.isDigit_of_mem_toDigits (by decide) (by decide) member)

section Positions

variable {positions : Finset Nat} {segments : List Segment}

theorem length_withKeysAt : (withKeysAt positions segments).length = segments.length :=
  List.length_mapIdx

theorem wellFormed_withKeysAt (positions : Finset Nat)
    (wellFormed : ∀ segment ∈ segments, segment.WellFormed) :
    ∀ segment ∈ withKeysAt positions segments, segment.WellFormed := by
  intro segment member
  obtain ⟨i, inside, rfl⟩ := List.mem_mapIdx.mp member
  have own : segments[i].WellFormed := wellFormed _ (List.getElem_mem inside)
  by_cases chosen : i ∈ positions
  · rw [if_pos chosen]
    exact own.asKey
  · rw [if_neg chosen]
    exact own

/-- Where indices are written as keys, each segment reads as before. -/
theorem readsLike_withKeysAt
    (indices : ∀ i ∈ positions, ∃ n, segments[i]? = some (.index n) ∧ n < Nat.pow 2 64) :
    List.Forall₂ Segment.ReadsLike segments (withKeysAt positions segments) := by
  apply List.forall₂_iff_get.mpr
  refine ⟨length_withKeysAt.symm, ?_⟩
  intro i inside inside'
  have place : (withKeysAt positions segments).get ⟨i, inside'⟩ =
      if i ∈ positions then segments[i].asKey else segments[i] := List.getElem_mapIdx ..
  rw [place, List.get_eq_getElem]
  by_cases chosen : i ∈ positions
  · obtain ⟨n, found, fits⟩ := indices i chosen
    rw [if_pos chosen, (List.getElem_eq_iff inside).mpr found]
    exact Segment.readsLike_asKey fits
  · rw [if_neg chosen]
    intro value
    rfl

end Positions

end Path

/-! ### Reading through either spelling -/

namespace Value

variable {segments others : List Path.Segment}

theorem follow?_congr (alike : List.Forall₂ Path.Segment.ReadsLike segments others) (value : Value) :
    value.follow? segments = value.follow? others := by
  induction alike generalizing value with
  | nil => rfl
  | @cons segment other _ _ first _ ih =>
      rw [follow?_cons, follow?_cons, first value]
      cases value.step? other with
      | none => rfl
      | some next => exact ih next

theorem read_congr (alike : List.Forall₂ Path.Segment.ReadsLike segments others) (value : Value)
    (isCollection : Bool) : value.read segments isCollection = value.read others isCollection := by
  simp only [read, leaf, follow?_congr alike]

/-- A key reads the item of an array whose index it denotes, if that fits into 64 bits. -/
theorem step?_array_eq_some_iff {items : List Value} {key : String} {value : Value} :
    (Value.array items).step? (.key key) = some value ↔
      ∃ n, Path.Denotes key.toList n ∧ n < Nat.pow 2 64 ∧ items[n]? = some value := by
  simp only [step?, Option.bind_eq_some_iff, Path.index?_eq_some_iff, Path.numeral_iff, and_assoc]

/-- Below the count of at most `2 ^ 64` items every number fits. -/
theorem exists_step?_array_iff {items : List Value} (key : String) (counted : items.length ≤ Nat.pow 2 64) :
    (∃ value, (Value.array items).step? (.key key) = some value) ↔
      ∃ n, Path.Denotes key.toList n ∧ n < items.length := by
  constructor
  · rintro ⟨value, found⟩
    obtain ⟨n, denotes, -, item⟩ := step?_array_eq_some_iff.mp found
    exact ⟨n, denotes, (List.getElem?_eq_some_iff.mp item).1⟩
  · rintro ⟨n, denotes, below⟩
    refine ⟨items[n], step?_array_eq_some_iff.mpr ⟨n, denotes, ?_, List.getElem?_eq_getElem below⟩⟩
    exact Nat.lt_of_lt_of_le below counted

end Value

namespace Accumulator

/-- Paths read the same if their segments do, one by one. -/
theorem read_congr {segments others : List Path.Segment}
    (alike : List.Forall₂ Path.Segment.ReadsLike segments others) (acc : Accumulator) (root : Path.Root)
    (isCollection : Bool) (raw raw' : String) :
    acc.read ⟨raw, root, segments, isCollection⟩ = acc.read ⟨raw', root, others, isCollection⟩ := by
  cases root with
  | value => exact Value.read_congr alike acc.value isCollection
  | accumulator =>
      cases alike with
      | nil => rfl
      | cons first rest =>
          rw [read_of_cons rfl rfl, read_of_cons rfl rfl, first acc.record]
          simp only [Value.read_congr rest]

theorem readText_render (acc : Accumulator) (root : Path.Root) {segments : List Path.Segment}
    (isCollection : Bool) (short : segments.length ≤ Path.maxSegments)
    (wellFormed : ∀ segment ∈ segments, segment.WellFormed) :
    let text := String.ofList (Path.render root segments isCollection)
    acc.readText text = .ok (acc.read ⟨text, root, segments, isCollection⟩) := by
  intro text
  rw [readText, Path.parse_render_of_wellFormed root isCollection short wellFormed]

end Accumulator

namespace Path

/-- Indices and the keys with their digits are interchangeable. Take segments and any set of positions at which
    there are indices below `2 ^ 64`, and write these as keys. Then the same is found in every value, with the
    mark of a collection or without; every path with these segments reads the same from every accumulator; and
    if the segments can be written down, then so can the others, and their texts read the same.

    A key reads from an array the item whose index it denotes, in any spelling; so in an array of at most
    `2 ^ 64` items it reads one exactly if it denotes a number below their count. From an object it reads the
    entry whose key it is, in this spelling alone. -/
theorem indices_read_as_keys :
    (∀ (positions : Finset Nat) (segments : List Segment),
      (∀ i ∈ positions, ∃ n, segments[i]? = some (.index n) ∧ n < Nat.pow 2 64) →
      let others := withKeysAt positions segments
      (∀ (value : Value) (isCollection : Bool),
        value.follow? others = value.follow? segments ∧
          value.read others isCollection = value.read segments isCollection) ∧
        ∀ (acc : Accumulator) (root : Root) (isCollection : Bool),
          (∀ raw raw', acc.read ⟨raw', root, others, isCollection⟩ =
            acc.read ⟨raw, root, segments, isCollection⟩) ∧
          (segments.length ≤ maxSegments → (∀ segment ∈ segments, segment.WellFormed) →
            ∃ value, acc.readText (String.ofList (render root segments isCollection)) = .ok value ∧
              acc.readText (String.ofList (render root others isCollection)) = .ok value)) ∧
      (∀ (items : List Value) (key : String),
        (∀ value, (Value.array items).step? (.key key) = some value ↔
          ∃ n, Denotes key.toList n ∧ n < Nat.pow 2 64 ∧ items[n]? = some value) ∧
        (items.length ≤ Nat.pow 2 64 →
          ((∃ value, (Value.array items).step? (.key key) = some value) ↔
            ∃ n, Denotes key.toList n ∧ n < items.length))) ∧
      ∀ (entries : Keyed Value) (key : String) (value : Value), Keyed.Ordered entries →
        ((Value.object entries).step? (.key key) = some value ↔ (key, value) ∈ entries) := by
  refine ⟨?_, ?_, ?_⟩
  · intro positions segments indices others
    have alike : List.Forall₂ Segment.ReadsLike segments others := readsLike_withKeysAt indices
    have same (acc : Accumulator) (root : Root) (isCollection : Bool) (raw raw' : String) :
        acc.read ⟨raw', root, others, isCollection⟩ = acc.read ⟨raw, root, segments, isCollection⟩ :=
      (Accumulator.read_congr alike acc root isCollection raw raw').symm
    constructor
    · intro value isCollection
      exact ⟨(Value.follow?_congr alike value).symm, (Value.read_congr alike value isCollection).symm⟩
    · intro acc root isCollection
      refine ⟨same acc root isCollection, ?_⟩
      intro short wellFormed
      have written := acc.readText_render root isCollection short wellFormed
      have written' := acc.readText_render root isCollection (length_withKeysAt.le.trans short)
        (wellFormed_withKeysAt positions wellFormed)
      exact ⟨_, written, written'.trans (congrArg Except.ok (same acc root isCollection _ _))⟩
  · intro items key
    refine ⟨?_, Value.exists_step?_array_iff key⟩
    intro value
    exact Value.step?_array_eq_some_iff
  · intro entries key value ordered
    exact ordered.get?_eq_some_iff

/-- In the sample, the index in `a[0].b` is written as a key. The same is read from a value with an array in it and
    from one with an object in place of the array, and both texts read it. The key `+01` reads the second item of
    an array, but from an object only the entry of just that text. -/
theorem indices_read_as_keys_sample :
    let positions : Finset Nat := {1}
    let segments : List Segment := [.key "a", .index 0, .key "b"]
    let others : List Segment := [.key "a", .key "0", .key "b"]
    let inner := Value.object [("b", .int 7)]
    let withArray := Value.object [("a", .array [inner])]
    let withObject := Value.object [("a", .object [("0", inner)])]
    let items := [Value.int 5, .int 6]
    let entries : Keyed Value := [("+01", .int 5), ("1", .int 6)]
    (withKeysAt positions segments = others ∧
        (∀ i ∈ positions, ∃ n, segments[i]? = some (.index n) ∧ n < Nat.pow 2 64) ∧
        segments.length ≤ maxSegments ∧ (∀ segment ∈ segments, segment.WellFormed) ∧
        items.length ≤ Nat.pow 2 64 ∧ Keyed.Ordered entries) ∧
      (withArray.follow? others = some (.int 7) ∧ withObject.follow? others = some (.int 7)) ∧
      (∃ value, (Accumulator.ofValue withArray).readText ".a[0].b" = .ok value ∧
        (Accumulator.ofValue withArray).readText ".a.0.b" = .ok value) ∧
      (Value.array items).step? (.key "+01") = some (.int 6) ∧
      (∃ n, Denotes "+01".toList n ∧ n < items.length) ∧
      (Value.object entries).step? (.key "+01") = some (.int 5) := by
  intro positions segments others inner withArray withObject items entries
  have written : withKeysAt positions segments = others := by decide
  have indices : ∀ i ∈ positions, ∃ n, segments[i]? = some (.index n) ∧ n < Nat.pow 2 64 := by
    intro i member
    rw [Finset.mem_singleton.mp member]
    exact ⟨0, rfl, by decide⟩
  have short : segments.length ≤ maxSegments := by decide
  have wellFormed : ∀ segment ∈ segments, segment.WellFormed := by
    have letter (c : Char) (char : KeyChar c) : (Segment.key (String.ofList [c])).WellFormed := by
      refine ⟨by simp, ?_⟩
      rw [String.toList_ofList]
      exact List.forall_mem_singleton.mpr char
    have zero : (Segment.index 0).WellFormed := show 0 < Nat.pow 2 64 by decide
    refine List.forall_mem_cons.mpr ⟨letter 'a' (by decide), ?_⟩
    refine List.forall_mem_cons.mpr ⟨zero, ?_⟩
    exact List.forall_mem_singleton.mpr (letter 'b' (by decide))
  have counted : items.length ≤ Nat.pow 2 64 := by decide
  have ordered : Keyed.Ordered entries := List.pairwise_pair.mpr (by decide)
  have denotes : Denotes "+01".toList 1 :=
    .signed (List.cons_ne_nil '0' ['1'])
      (List.forall_mem_cons.mpr ⟨rfl, List.forall_mem_singleton.mpr rfl⟩)
  obtain ⟨interchange, inArrays, inObjects⟩ := indices_read_as_keys
  obtain ⟨sameValue, sameAcc⟩ := interchange positions segments indices
  obtain ⟨itemRead, anyRead⟩ := inArrays items "+01"
  have texts := (sameAcc (Accumulator.ofValue withArray) .value false).2 short wellFormed
  have text : String.ofList (render .value segments false) = ".a[0].b" := by decide
  have text' : String.ofList (render .value others false) = ".a.0.b" := by decide
  rw [written, text, text'] at texts
  rw [written] at sameValue
  refine ⟨⟨written, indices, short, wellFormed, counted, ordered⟩, ?_, texts, ?_, ?_, ?_⟩
  · exact ⟨(sameValue withArray false).1.trans rfl, (sameValue withObject false).1.trans rfl⟩
  · exact (itemRead _).mpr ⟨1, denotes, by decide, rfl⟩
  · exact (anyRead counted).mp ⟨_, (itemRead _).mpr ⟨1, denotes, by decide, rfl⟩⟩
  · exact (inObjects entries "+01" _ ordered).mpr List.mem_cons_self

end Path

end Reshape
