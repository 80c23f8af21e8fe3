/-
Module: Reshape.Proofs.PathFusion
Layer: Proofs
Purpose: Two paths in a row. The second one starts from what the first one has read, and both together come to
  what one path with the segments of both comes to, also where there is nothing to read.
Main exports: Value.leaf_leaf, Value.read_read, Path.Joins, Path.exists_joined, Accumulator.read_joined,
  Store.paths_fuse
-/
import Reshape.Proofs.PathRendering
import Reshape.Proofs.RecordView
import Reshape.Resolution.Basic

namespace Reshape

/-! ### Reading on from what has been read -/

namespace Value

/-- There is nothing to follow in what is missing. -/
theorem leaf_undefined (segments : List Path.Segment) : undefined.leaf segments = undefined := by
  cases segments with
  | nil => rfl
  | cons segment rest => cases segment <;> rfl

theorem leaf_leaf (value : Value) (first second : List Path.Segment) :
    (value.leaf first).leaf second = value.leaf (first ++ second) := by
  show (ofOption (value.follow? first)).leaf second = ofOption (value.follow? (first ++ second))
  rw [follow?_append]
  cases value.follow? first with
  | none => exact leaf_undefined second
  | some next => rfl

/-- Going over the items twice is going over them once. -/
theorem read_read (value : Value) (first second : List Path.Segment) :
    (value.read first true).read second true = value.read (first ++ second) true := by
  cases value with
  | array items =>
      have both : (items.map fun item => item.leaf first).map (fun item => item.leaf second) =
          items.map fun item => item.leaf (first ++ second) := by
        simp only [List.map_map, Function.comp_def, leaf_leaf]
      exact congrArg array both
  | _ => rfl

/-- From nothing there is nothing to read. -/
theorem read_nothing (segments : List Path.Segment) (isCollection : Bool) :
    (Accumulator.nothing isCollection).read segments isCollection = Accumulator.nothing isCollection := by
  cases isCollection with
  | true => rfl
  | false => exact leaf_undefined segments

end Value

/-! ### Joined paths -/

namespace Path

/-- The path starts where the first one does, with or without the mark like it, and has the segments of both. -/
structure Joins (first second joined : Path) : Prop where
  root : joined.root = first.root
  segments : joined.segments = first.segments ++ second.segments
  mark : joined.isCollection = first.isCollection

/-- Two paths that have been read from texts can be joined in a text, if that is not too long. -/
theorem exists_joined {first second : Path} {raw raw' : String} (parsed : parse raw = .ok first)
    (parsed' : parse raw' = .ok second) (short : (first.segments ++ second.segments).length ≤ maxSegments) :
    ∃ text joined, parse text = .ok joined ∧ first.Joins second joined := by
  have wellFormed : ∀ segment ∈ first.segments ++ second.segments, segment.WellFormed :=
    List.forall_mem_append.mpr ⟨(wellFormed_of_parse parsed).2, (wellFormed_of_parse parsed').2⟩
  exact ⟨_, _, parse_render_of_wellFormed first.root first.isCollection short wellFormed, rfl, rfl, rfl⟩

end Path

namespace Accumulator

variable {acc : Accumulator} {first second joined : Path}

/-- What the second path reads from what the first one has read, one path reads at once. Only the whole record
    is no value to go over the items of, while one of its fields may be. -/
theorem read_joined (joins : first.Joins second joined) (fromValue : second.root = .value)
    (alike : second.isCollection = first.isCollection)
    (within : first.isCollection = true → first.root = .value ∨ first.segments ≠ []) :
    (acc.withValue (acc.read first)).read second = acc.read joined := by
  rw [read_of_value fromValue, value_withValue, alike]
  cases mark : first.isCollection with
  | false =>
      rw [read_eq_leaf mark, read_eq_leaf (joins.mark.trans mark), joins.root, joins.segments]
      exact Value.leaf_leaf _ _ _
  | true =>
      have mark' : joined.isCollection = true := joins.mark.trans mark
      cases root : first.root with
      | value =>
          rw [read_of_value root, read_of_value (joins.root.trans root), joins.segments, mark, mark']
          exact Value.read_read _ _ _
      | accumulator =>
          have root' : joined.root = .accumulator := joins.root.trans root
          cases segments : first.segments with
          | nil =>
              rcases within mark with fromValue | some
              · rw [root] at fromValue
                cases fromValue
              · exact absurd segments some
          | cons segment rest =>
              have segments' : joined.segments = segment :: (rest ++ second.segments) := by
                rw [joins.segments, segments, List.cons_append]
              rw [read_of_cons root segments, read_of_cons root' segments', mark, mark']
              cases acc.record.step? segment with
              | none => exact Value.read_nothing _ _
              | some field => exact Value.read_read _ _ _

/-- Where the first path reads nothing, neither do both together. -/
theorem read_joined_of_nothing (joins : first.Joins second joined) (fromValue : second.root = .value)
    (alike : second.isCollection = first.isCollection)
    (within : first.isCollection = true → first.root = .value ∨ first.segments ≠ [])
    (none : acc.read first = nothing first.isCollection) :
    acc.read joined = nothing first.isCollection := by
  rw [← read_joined joins fromValue alike within, read_of_value fromValue, value_withValue, none, alike]
  exact Value.read_nothing _ _

end Accumulator

namespace Store

/-- Two paths in a row leave what the second one reads from what the first one has read. -/
theorem resolve_paths (store : Store) (depth : Nat) (acc : Accumulator) (first second : Path) :
    store.resolve (depth + 2) (.list [.path first, .path second]) acc =
      Run.pure (acc.withValue ((acc.withValue (acc.read first)).read second)) := rfl

/-- Two paths in a row fuse. Let the second one start from the value, and both have the mark or neither. Then
    they finish with the accumulator with which every path finishes that joins them: it starts where the first
    one does and has the segments of both; with the mark, the first one has to start from the value or to have
    a segment. Where the first one reads nothing, which is the missing value without the mark and null with it,
    neither does the joined one. For paths that have been read from texts there is a joined one that is read
    from a text, unless there are too many segments. The whole record with the mark is the first path that is
    left out: whatever comes behind it, it leaves null. -/
theorem paths_fuse {first second : Path} (fromValue : second.root = .value)
    (alike : second.isCollection = first.isCollection) :
    (∀ joined, first.Joins second joined →
      (first.isCollection = true → first.root = .value ∨ first.segments ≠ []) →
      ∀ (store : Store) (depth : Nat) (acc : Accumulator),
        let next := acc.withValue (acc.read joined)
        store.resolve (depth + 2) (.list [.path first, .path second]) acc = Run.pure next ∧
          store.resolve (depth + 1) (.path joined) acc = Run.pure next ∧
          (acc.read first = Accumulator.nothing first.isCollection →
            acc.read joined = Accumulator.nothing first.isCollection)) ∧
      (∀ raw raw', Path.parse raw = .ok first → Path.parse raw' = .ok second →
        (first.segments ++ second.segments).length ≤ Path.maxSegments →
        ∃ text joined, Path.parse text = .ok joined ∧ first.Joins second joined) ∧
      (first.isCollection = true → first.root = .accumulator → first.segments = [] →
        ∀ (store : Store) (depth : Nat) (acc : Accumulator),
          store.resolve (depth + 2) (.list [.path first, .path second]) acc =
            Run.pure (acc.withValue .null)) := by
  refine ⟨?_, fun raw raw' parsed parsed' short => Path.exists_joined parsed parsed' short, ?_⟩
  · intro joined joins within store depth acc next
    refine ⟨?_, rfl, Accumulator.read_joined_of_nothing joins fromValue alike within⟩
    rw [resolve_paths, Accumulator.read_joined joins fromValue alike within]
  · intro mark intoAccumulator bare store depth acc
    have isNull : acc.read first = .null := by
      rw [Accumulator.read_of_nil intoAccumulator bare, mark]
      rfl
    rw [resolve_paths, isNull, Accumulator.read_of_value fromValue, alike, mark]
    rfl

open Snapshot in
/-- In the sample the path `..value[]` and the path `n[]` behind it read what `..value.n[]` reads. The path `..[]`
    in front of `value[]` leaves null, while `..value[]` reads an array. -/
theorem paths_fuse_sample :
    let items : Path := ⟨"..value[]", .accumulator, [.key "value"], true⟩
    let name : Path := ⟨"n[]", .value, [.key "n"], true⟩
    let joined : Path := ⟨"..value.n[]", .accumulator, [.key "value", .key "n"], true⟩
    let record : Path := ⟨"..[]", .accumulator, [], true⟩
    let field : Path := ⟨"value[]", .value, [.key "value"], true⟩
    let names := given.withValue (.array [.bool true, .undefined])
    (name.root = .value ∧ name.isCollection = items.isCollection ∧ items.Joins name joined ∧
        empty.resolve 2 (.list [.path items, .path name]) given = Run.pure names ∧
        empty.resolve 1 (.path joined) given = Run.pure names) ∧
      record.Joins field items ∧
      empty.resolve 2 (.list [.path record, .path field]) given = Run.pure (given.withValue .null) ∧
      empty.resolve 1 (.path items) given = Run.pure given := by
  intro items name joined record field names
  have joins : items.Joins name joined := ⟨rfl, rfl, rfl⟩
  have joins' : record.Joins field items := ⟨rfl, rfl, rfl⟩
  have alike : name.isCollection = items.isCollection := rfl
  have alike' : field.isCollection = record.isCollection := rfl
  obtain ⟨fuses, -, -⟩ := paths_fuse rfl alike
  obtain ⟨-, -, leavesNull⟩ := paths_fuse rfl alike'
  have within : items.isCollection = true → items.root = .value ∨ items.segments ≠ [] :=
    fun _ => .inr (List.cons_ne_nil _ _)
  obtain ⟨inARow, atOnce, -⟩ := fuses joined joins within empty 0 given
  exact ⟨⟨rfl, alike, joins, inARow, atOnce⟩, joins', leavesNull rfl rfl rfl empty 0 given, rfl⟩

end Store

end Reshape
