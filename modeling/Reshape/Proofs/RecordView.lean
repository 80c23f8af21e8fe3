/-
Module: Reshape.Proofs.RecordView
Layer: Proofs
Purpose: Paths into the accumulator and the record that shows it. A path finds its field without building the
  record, and yet it reads what following all of its segments through the record finds. With the mark it goes
  over the items of one field, and where it names none it reads null.
Main exports: Accumulator.Lacks, Accumulator.Misses, Accumulator.field?_eq_get?, Accumulator.read_of_cons,
  Accumulator.origin, Accumulator.read_eq_leaf, Accumulator.paths_read_the_record
-/
import Reshape.Accumulator.Reading

namespace Reshape

namespace Accumulator

variable {acc : Accumulator} {path : Path}

/-! ### Fields -/

/-- The accumulator has no field of that name. It has one for the failure while a failure is attached. -/
def Lacks (acc : Accumulator) (name : String) : Prop :=
  name ∉ ["value", "locals", "params", "values"] ∧ (name = "error" → acc.failure = none)

/-- The segments start, but not with a field of the accumulator. -/
def Misses (acc : Accumulator) : List Path.Segment → Prop
  | [] => False
  | .key name :: _ => acc.Lacks name
  | .index _ :: _ => True

/-- The record shows just the fields. -/
theorem field?_eq_get? (acc : Accumulator) (name : String) : acc.field? name = acc.record.get? name := by
  show _ = Keyed.get? _ name
  cases attached : acc.failure with
  | none =>
      simp only [field?, attached, Option.map_none, List.nil_append, Keyed.get?_cons, Keyed.get?_nil,
        eq_comm (b := name)]
      grind
  | some failure =>
      simp only [field?, attached, Option.map_some, List.singleton_append, Keyed.get?_cons, Keyed.get?_nil,
        eq_comm (b := name)]
      grind

theorem field?_eq_none_iff {name : String} : acc.field? name = none ↔ acc.Lacks name := by
  have attached : acc.failure.map Failure.view = none ↔ acc.failure = none := Option.map_eq_none_iff
  simp only [Lacks, field?, List.mem_cons, List.not_mem_nil, or_false]
  grind

/-- No field has a number for a name. -/
theorem lacks_digits (acc : Accumulator) (n : Nat) : acc.Lacks (String.ofList (Nat.toDigits 10 n)) := by
  have other {name : String} (c : Char) (letter : c ∈ name.toList) (noDigit : c.isDigit = false) :
      String.ofList (Nat.toDigits 10 n) ≠ name := by
    intro same
    rw [← same, String.toList_ofList] at letter
    have digit := Nat.isDigit_of_mem_toDigits (by decide) (by decide) letter
    rw [noDigit] at digit
    cases digit
  constructor
  · simp only [List.mem_cons, List.not_mem_nil, or_false, not_or]
    exact ⟨other 'v' (by decide) (by decide), other 'l' (by decide) (by decide),
      other 'p' (by decide) (by decide), other 'v' (by decide) (by decide)⟩
  · exact fun same => absurd same (other 'e' (by decide) (by decide))

/-! ### Reading -/

theorem read_of_value (fromValue : path.root = .value) :
    acc.read path = acc.value.read path.segments path.isCollection := by
  simp only [read, fromValue]

theorem read_of_nil (intoAccumulator : path.root = .accumulator) (bare : path.segments = []) :
    acc.read path = acc.record.read [] path.isCollection := by
  simp only [read, intoAccumulator, bare]

theorem read_of_field {name : String} {rest : List Path.Segment} {field : Value}
    (intoAccumulator : path.root = .accumulator) (named : path.segments = .key name :: rest)
    (found : acc.field? name = some field) : acc.read path = field.read rest path.isCollection := by
  simp only [read, intoAccumulator, named, found]

theorem read_of_misses (intoAccumulator : path.root = .accumulator) (misses : acc.Misses path.segments) :
    acc.read path = nothing path.isCollection := by
  cases segments : path.segments with
  | nil =>
      rw [segments] at misses
      exact misses.elim
  | cons segment rest =>
      rw [segments] at misses
      cases segment with
      | key name => simp only [read, intoAccumulator, segments, field?_eq_none_iff.mpr misses]
      | index n => simp only [read, intoAccumulator, segments]

/-- A path into the accumulator goes on from what its first segment finds in the record. -/
theorem read_of_cons {segment : Path.Segment} {rest : List Path.Segment}
    (intoAccumulator : path.root = .accumulator) (segments : path.segments = segment :: rest) :
    acc.read path =
      match acc.record.step? segment with
      | some field => field.read rest path.isCollection
      | none => nothing path.isCollection := by
  cases segment with
  | key name =>
      have found : acc.record.step? (.key name) = acc.field? name := (acc.field?_eq_get? name).symm
      rw [found]
      cases field : acc.field? name with
      | some value => exact read_of_field intoAccumulator segments field
      | none =>
          apply read_of_misses intoAccumulator
          rw [segments]
          exact field?_eq_none_iff.mp field
  | index n =>
      -- In an object an index is the key with its digits.
      have missing : acc.record.step? (.index n) = none :=
        (acc.field?_eq_get? _).symm.trans (field?_eq_none_iff.mpr (acc.lacks_digits n))
      rw [missing]
      apply read_of_misses intoAccumulator
      rw [segments]
      trivial

/-- A path into the accumulator is without segments, starts with a field, or misses. -/
theorem cases_of_segments (acc : Accumulator) (segments : List Path.Segment) :
    segments = [] ∨ (∃ name rest field, segments = .key name :: rest ∧ acc.field? name = some field) ∨
      acc.Misses segments := by
  cases segments with
  | nil => exact .inl rfl
  | cons segment rest =>
      cases segment with
      | key name =>
          cases found : acc.field? name with
          | some field => exact .inr (.inl ⟨name, rest, field, rfl, found⟩)
          | none => exact .inr (.inr (field?_eq_none_iff.mp found))
      | index n => exact .inr (.inr trivial)

/-! ### The record -/

/-- What paths from that root start from. -/
def origin (acc : Accumulator) : Path.Root → Value
  | .value => acc.value
  | .accumulator => acc.record

theorem follow?_record_of_field {name : String} {rest : List Path.Segment} {field : Value}
    (found : acc.field? name = some field) :
    acc.record.follow? (.key name :: rest) = field.follow? rest := by
  show (acc.record.get? name).bind _ = _
  rw [← field?_eq_get?, found]
  rfl

theorem follow?_record_of_misses {segments : List Path.Segment} (misses : acc.Misses segments) :
    acc.record.follow? segments = none := by
  have stops {name : String} {rest : List Path.Segment} (lacks : acc.Lacks name) :
      ((acc.record.get? name).bind fun next => next.follow? rest) = none := by
    rw [← field?_eq_get?, field?_eq_none_iff.mpr lacks]
    rfl
  cases segments with
  | nil => exact misses.elim
  | cons segment rest =>
      cases segment with
      | key name => exact stops misses
      -- In an object an index is the key with its digits.
      | index n => exact stops (acc.lacks_digits n)

/-- Without the mark, a path reads what following all of its segments finds. -/
theorem read_eq_leaf (plain : path.isCollection = false) :
    acc.read path = (acc.origin path.root).leaf path.segments := by
  cases root : path.root with
  | value =>
      rw [read_of_value root, plain]
      rfl
  | accumulator =>
      cases segments : path.segments with
      | nil =>
          rw [read_of_nil root segments, plain]
          rfl
      | cons segment rest =>
          rw [read_of_cons root segments, plain]
          show _ = Value.ofOption ((acc.record.step? segment).bind fun next => next.follow? rest)
          cases acc.record.step? segment <;> rfl

/-- With the mark, a value is read as null or as an array. -/
theorem read_marked (value : Value) (segments : List Path.Segment) :
    value.read segments true = .null ∨ ∃ items, value.read segments true = .array items := by
  cases value with
  | array items => exact .inr ⟨_, rfl⟩
  | _ => exact .inl rfl

/-- Paths into the accumulator read the record. Each field is what the record holds under its name, and there
    are the fields for value, locals, parameters and store values, and the one for the failure if there is a
    failure. A path without the mark reads what following its segments through the record finds, or the missing
    value; so it does if it starts with an index or with an unknown name, and the trace shows among the
    parameters. A path with the mark reads null if it has no segments, starts with an index or names no field.
    Otherwise it reads what the path of the segments after the name, with the mark, reads from that field in
    place of the value. So it reads null or an array, and never the missing value. -/
theorem paths_read_the_record (acc : Accumulator) {path : Path} (intoAccumulator : path.root = .accumulator) :
    (∀ name, acc.field? name = acc.record.get? name ∧ (acc.field? name = none ↔ acc.Lacks name)) ∧
      (path.isCollection = false →
        acc.read path = .ofOption (acc.record.follow? path.segments) ∧
          (acc.Misses path.segments → acc.read path = .undefined) ∧
          ∀ rest, path.segments = .key "params" :: .key "trace" :: rest →
            acc.read path = (Value.bool acc.params.trace).leaf rest) ∧
      (path.isCollection = true →
        (path.segments = [] ∨ acc.Misses path.segments → acc.read path = .null) ∧
          (∀ name rest field, path.segments = .key name :: rest → acc.field? name = some field →
            ∀ raw, acc.read path = (acc.withValue field).read ⟨raw, .value, rest, true⟩) ∧
          (acc.read path = .null ∨ ∃ items, acc.read path = .array items)) := by
  refine ⟨fun name => ⟨acc.field?_eq_get? name, field?_eq_none_iff⟩, fun plain => ?_, fun mark => ?_⟩
  · have followed : acc.read path = .ofOption (acc.record.follow? path.segments) := by
      rw [read_eq_leaf plain, intoAccumulator]
      rfl
    refine ⟨followed, fun misses => ?_, fun rest traced => ?_⟩
    · rw [followed, follow?_record_of_misses misses]
      rfl
    · have shown : Keyed.get? (Keyed.insert acc.params.values "trace" (.bool acc.params.trace)) "trace" =
          some (.bool acc.params.trace) := Keyed.get?_insert_self _ _ _
      have params : acc.field? "params" = some acc.params.view := rfl
      rw [followed, traced, follow?_record_of_field params]
      show Value.ofOption ((Keyed.get? _ "trace").bind _) = _
      rw [shown]
      rfl
  · have isNull : path.segments = [] ∨ acc.Misses path.segments → acc.read path = .null := by
      rintro (bare | misses)
      · rw [read_of_nil intoAccumulator bare, mark]
        rfl
      · rw [read_of_misses intoAccumulator misses, mark]
        rfl
    have inField : ∀ name rest field, path.segments = .key name :: rest → acc.field? name = some field →
        ∀ raw, acc.read path = (acc.withValue field).read ⟨raw, .value, rest, true⟩ := by
      intro name rest field named found raw
      rw [read_of_field intoAccumulator named found, mark, read_of_value rfl]
      rfl
    refine ⟨isNull, inField, ?_⟩
    rcases acc.cases_of_segments path.segments with bare | ⟨name, rest, field, named, found⟩ | misses
    · exact .inl (isNull (.inl bare))
    · rw [inField name rest field named found "", read_of_value rfl]
      exact read_marked field rest
    · exact .inl (isNull (.inr misses))

end Accumulator

/-! ### A sample -/

namespace Snapshot

/-- An accumulator with an array in work, a parameter with the name of the trace and an attached failure. -/
def given : Accumulator where
  value := .array [.object [("n", .bool true)], .null]
  locals := []
  params := ⟨true, false, [("trace", .null)]⟩
  values := []
  reference := none
  failure := some (.resolution "boom")

end Snapshot

open Snapshot in
/-- In the sample the path `..value.n[]` goes over the items of the value, `..params.trace` reads the trace and not
    the parameter of that name, and `..error.message` reads the message of the failure. -/
theorem Accumulator.paths_read_the_record_sample :
    let each : Path := ⟨"..value.n[]", .accumulator, [.key "value", .key "n"], true⟩
    let traced : Path := ⟨"..params.trace", .accumulator, [.key "params", .key "trace"], false⟩
    let message : Path := ⟨"..error.message", .accumulator, [.key "error", .key "message"], false⟩
    (each.root = .accumulator ∧ given.read each = .array [.bool true, .undefined]) ∧
      (traced.root = .accumulator ∧ given.read traced = .bool true) ∧
      message.root = .accumulator ∧ given.read message = .string "boom" := by
  intro each traced message
  have root : each.root = .accumulator := rfl
  have root' : traced.root = .accumulator := rfl
  have root'' : message.root = .accumulator := rfl
  obtain ⟨-, -, marked⟩ := paths_read_the_record given root
  obtain ⟨-, shown, -⟩ := paths_read_the_record given root'
  obtain ⟨-, followed, -⟩ := paths_read_the_record given root''
  refine ⟨⟨root, ?_⟩, ⟨root', (shown rfl).2.2 [] rfl⟩, root'', (followed rfl).1⟩
  exact (marked rfl).2.1 "value" [.key "n"] given.value rfl rfl ".n[]"

end Reshape
