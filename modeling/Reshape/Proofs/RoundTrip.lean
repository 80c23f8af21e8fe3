/-
Module: Reshape.Proofs.RoundTrip
Layer: Proofs
Purpose: Reading what a value is written as. Values without finite numbers other than integers come back from
  their text as they come back from their document, unless they are nested deeper than the reader goes.
Main exports: Value.nesting, Value.FloatFree, Value.value_serializeChars, Value.text_comes_back
-/
import Reshape.Proofs.Encoding
import Reshape.Proofs.JsonTokens

namespace Reshape

namespace Value

/-! ### Depth and numbers -/

mutual

/-- How deep arrays and objects are nested in the value, itself included. -/
def nesting : Value → Nat
  | .array items => nestingItems items + 1
  | .object entries => nestingEntries entries + 1
  | _ => 0

/-- The greatest depth of an item. -/
def nestingItems : List Value → Nat
  | [] => 0
  | item :: rest => max (nesting item) (nestingItems rest)

/-- The greatest depth of an entry's value. -/
def nestingEntries : List (String × Value) → Nat
  | [] => 0
  | (_, value) :: rest => max (nesting value) (nestingEntries rest)

end

mutual

/-- At no depth is there a finite number that is not an integer. -/
def FloatFree : Value → Prop
  | .float x => x.isFinite = false
  | .array items => FloatFreeItems items
  | .object entries => FloatFreeEntries entries
  | _ => True

/-- `FloatFree` for every item. -/
def FloatFreeItems : List Value → Prop
  | [] => True
  | item :: rest => FloatFree item ∧ FloatFreeItems rest

/-- `FloatFree` for the value of every entry. -/
def FloatFreeEntries : List (String × Value) → Prop
  | [] => True
  | (_, value) :: rest => FloatFree value ∧ FloatFreeEntries rest

end

/-! ### What is written -/

theorem serializeItems_cons (item : Value) (more : List Value) (rest : List Char) :
    serializeItems true (item :: more) ++ rest =
      item.serializeChars ++ (serializeItems false more ++ rest) := by
  simp [serializeItems]

theorem serializeEntries_cons (key : String) (value : Value) (more : List (String × Value))
    (rest : List Char) :
    serializeEntries true ((key, value) :: more) ++ rest =
      Json.quoted key ++ ':' :: (value.serializeChars ++ (serializeEntries false more ++ rest)) := by
  simp [serializeEntries]

/-- A comma or the closing bracket stands behind each item. -/
theorem endsNumber_serializeItems (items : List Value) (rest : List Char) :
    Json.EndsNumber (serializeItems false items ++ rest) := by
  cases items <;> simp [serializeItems, Json.EndsNumber]

theorem endsNumber_serializeEntries (entries : List (String × Value)) (rest : List Char) :
    Json.EndsNumber (serializeEntries false entries ++ rest) := by
  cases entries <;> simp [serializeEntries, Json.EndsNumber]

theorem length_lt_serializeItems (items : List Value) :
    items.length < (serializeItems false items).length := by
  induction items with
  | nil => exact Nat.one_pos
  | cons item more ih =>
      simp only [serializeItems, List.length_append, List.length_cons, Bool.false_eq_true, if_false]
      omega

theorem length_lt_serializeEntries (entries : List (String × Value)) :
    entries.length < (serializeEntries false entries).length := by
  induction entries with
  | nil => exact Nat.one_pos
  | cons entry more ih =>
      simp only [serializeEntries, List.length_append, List.length_cons, Bool.false_eq_true, if_false]
      omega

/-- A value starts neither with white space nor with the bracket that closes an array. -/
theorem head_serializeChars {value : Value} (free : value.FloatFree) :
    ∃ c more, value.serializeChars = c :: more ∧ Json.StartsValue c := by
  cases value with
  | undefined => exact ⟨_, _, rfl, by decide⟩
  | null => exact ⟨_, _, rfl, by decide⟩
  | bool b => cases b <;> exact ⟨_, _, rfl, by decide⟩
  | int n =>
      obtain ⟨c, more, written, start⟩ := Json.head_printInt n.toInt
      exact ⟨c, more, written, Json.startsValue_of_number start⟩
  | float x =>
      have null : serializeChars (.float x) = ['n', 'u', 'l', 'l'] := by
        rw [serializeChars, Json.printNumber, if_neg (Bool.eq_false_iff.mp free)]
      exact ⟨_, _, null, by decide⟩
  | string s => exact ⟨_, _, rfl, by decide⟩
  | array items => exact ⟨_, _, rfl, by decide⟩
  | object entries => exact ⟨_, _, rfl, by decide⟩

theorem skipBlank_serializeChars {value : Value} (free : value.FloatFree) (rest : List Char) :
    Json.skipBlank (value.serializeChars ++ rest) = value.serializeChars ++ rest := by
  obtain ⟨c, more, written, start⟩ := head_serializeChars free
  rw [written, List.cons_append, Json.skipBlank_cons start.1]

/-! ### Reading what is written -/

theorem toJsonEntries_eq (entries : List (String × Value)) :
    toJsonEntries entries = Keyed.mapValues toJson entries := by
  induction entries with
  | nil => rfl
  | cons entry rest ih => simp [toJsonEntries, Keyed.mapValues, ih]

/-- Ascending entries are read as the members that they are. -/
theorem ofList_toJsonEntries {entries : List (String × Value)} (ascending : Keyed.Ordered entries) :
    Keyed.ofList (toJsonEntries entries) = toJsonEntries entries := by
  apply Keyed.Ordered.ofList_eq
  rw [toJsonEntries_eq]
  exact List.pairwise_map.mpr ascending

/-- An array that is not empty is read item by item, and there is room for all its items. -/
theorem value_of_items {item : Value} (free : item.FloatFree) (more : List Value) (depth : Nat)
    (rest : List Char) :
    ∃ limit, (item :: more).length ≤ limit ∧
      Json.value (depth + 1) (serializeChars (.array (item :: more)) ++ rest) =
        (Json.items (Json.value depth) limit (serializeItems true (item :: more) ++ rest)).map
          fun found => (.array found.1, found.2) := by
  obtain ⟨c, others, written, start⟩ := head_serializeChars free
  have text : serializeItems true (item :: more) ++ rest =
      c :: (others ++ (serializeItems false more ++ rest)) := by
    rw [serializeItems_cons, written, List.cons_append]
  refine ⟨(serializeItems true (item :: more) ++ rest).length, ?_, ?_⟩
  · have commas := length_lt_serializeItems more
    simp only [serializeItems_cons, List.length_append, List.length_cons]
    omega
  · rw [serializeChars, List.cons_append, text]
    exact Json.value_array depth (Json.skipBlank_cons start.1 _) start.2

/-- An object that is not empty is read member by member, and there is room for all its members. -/
theorem value_of_members (key : String) (value : Value) (more : List (String × Value)) (depth : Nat)
    (rest : List Char) :
    ∃ limit, ((key, value) :: more).length ≤ limit ∧
      Json.value (depth + 1) (serializeChars (.object ((key, value) :: more)) ++ rest) =
        (Json.members (Json.value depth) limit (serializeEntries true ((key, value) :: more) ++ rest)).map
          fun found => (.object (Keyed.ofList found.1), found.2) := by
  refine ⟨(serializeEntries true ((key, value) :: more) ++ rest).length, ?_, ?_⟩
  · have commas := length_lt_serializeEntries more
    simp only [serializeEntries_cons, List.length_append, List.length_cons]
    omega
  · rw [serializeChars, List.cons_append, serializeEntries_cons, Json.quoted, List.cons_append,
      List.cons_append]
    exact Json.value_object depth (Json.skipBlank_cons (by decide) _) (by decide)

mutual

/-- The document of a value is read from its text, whatever follows, if the depth is enough; otherwise nothing
    is read. -/
theorem value_serializeChars :
    ∀ value : Value, value.Ordered → value.FloatFree → ∀ (depth : Nat) (rest : List Char),
      Json.EndsNumber rest →
        Json.value depth (value.serializeChars ++ rest) =
          if value.nesting ≤ depth then some (value.toJson, rest) else none
  | .undefined, _, _, depth, rest, _ => by
      simp [serializeChars, Json.value_eq_leaf, Json.leaf, nesting, toJson]
  | .null, _, _, depth, rest, _ => by
      simp [serializeChars, Json.value_eq_leaf, Json.leaf, nesting, toJson]
  | .bool true, _, _, depth, rest, _ => by
      simp [serializeChars, Json.value_eq_leaf, Json.leaf, nesting, toJson]
  | .bool false, _, _, depth, rest, _ => by
      simp [serializeChars, Json.value_eq_leaf, Json.leaf, nesting, toJson]
  | .int n, _, _, depth, rest, ends => by
      rw [serializeChars, Json.value_printInt ⟨n.minValue_le_toInt, n.toInt_le⟩ depth ends]
      simp [nesting, toJson]
  | .float x, _, free, depth, rest, _ => by
      have infinite : x.isFinite = false := free
      simp [serializeChars, Json.printNumber, infinite, Json.value_eq_leaf, Json.leaf, nesting, toJson]
  | .string s, _, _, depth, rest, _ => by
      rw [serializeChars, Json.value_quoted]
      simp [nesting, toJson]
  | .array _, _, _, 0, rest, _ => by
      simp [serializeChars, Json.value_zero_of_bracket, nesting]
  | .array [], _, _, depth + 1, rest, _ => by
      simp [serializeChars, serializeItems, Json.value, Json.skipBlank, nesting, nestingItems, toJson,
        toJsonItems]
  | .array (item :: more), ordered, free, depth + 1, rest, _ => by
      obtain ⟨limit, enough, read⟩ := value_of_items free.1 more depth rest
      rw [read, items_serializeItems (item :: more) ordered free (List.cons_ne_nil _ _) depth limit rest enough]
      simp only [nesting, Nat.add_le_add_iff_right, toJson]
      split <;> rfl
  | .object _, _, _, 0, rest, _ => by
      simp [serializeChars, Json.value_zero_of_brace, nesting]
  | .object [], _, _, depth + 1, rest, _ => by
      simp [serializeChars, serializeEntries, Json.value, Json.skipBlank, nesting, nestingEntries, toJson,
        toJsonEntries]
  | .object ((key, value) :: more), ordered, free, depth + 1, rest, _ => by
      obtain ⟨limit, enough, read⟩ := value_of_members key value more depth rest
      rw [read, members_serializeEntries ((key, value) :: more) ordered.2 free (List.cons_ne_nil _ _) depth
        limit rest enough]
      simp only [nesting, Nat.add_le_add_iff_right, toJson]
      split
      · rw [Option.map_some, ofList_toJsonEntries ordered.1]
      · rfl

/-- The same for the items of an array, of which there is at least one. -/
theorem items_serializeItems :
    ∀ items : List Value, OrderedItems items → FloatFreeItems items → items ≠ [] →
      ∀ (depth limit : Nat) (rest : List Char), items.length ≤ limit →
        Json.items (Json.value depth) limit (serializeItems true items ++ rest) =
          if nestingItems items ≤ depth then some (toJsonItems items, rest) else none
  | [], _, _, filled, _, _, _, _ => absurd rfl filled
  | item :: more, _, _, _, _, 0, _, enough => absurd enough (Nat.not_succ_le_zero _)
  | item :: more, ordered, free, _, depth, limit + 1, rest, enough => by
      have others := items_serializeItems more ordered.2 free.2
      have read := value_serializeChars item ordered.1 free.1 depth (serializeItems false more ++ rest)
        (endsNumber_serializeItems more rest)
      rw [← skipBlank_serializeChars free.1, ← serializeItems_cons] at read
      cases more with
      | nil =>
          rw [Json.items_last read]
          simp [nestingItems, toJsonItems]
      | cons next more =>
          have comma : serializeItems false (next :: more) ++ rest =
              ',' :: (serializeItems true (next :: more) ++ rest) := by
            simp [serializeItems]
          rw [comma] at read
          exact Json.items_cons read
            (others (List.cons_ne_nil _ _) depth limit rest (Nat.le_of_succ_le_succ enough))

/-- The same for the members of an object, of which there is at least one. -/
theorem members_serializeEntries :
    ∀ entries : List (String × Value), OrderedEntries entries → FloatFreeEntries entries → entries ≠ [] →
      ∀ (depth limit : Nat) (rest : List Char), entries.length ≤ limit →
        Json.members (Json.value depth) limit (serializeEntries true entries ++ rest) =
          if nestingEntries entries ≤ depth then some (toJsonEntries entries, rest) else none
  | [], _, _, filled, _, _, _, _ => absurd rfl filled
  | (key, value) :: more, _, _, _, _, 0, _, enough => absurd enough (Nat.not_succ_le_zero _)
  | (key, value) :: more, ordered, free, _, depth, limit + 1, rest, enough => by
      have others := members_serializeEntries more ordered.2 free.2
      have read := value_serializeChars value ordered.1 free.1 depth (serializeEntries false more ++ rest)
        (endsNumber_serializeEntries more rest)
      have first : Json.member (Json.value depth) (serializeEntries true ((key, value) :: more) ++ rest) =
          if value.nesting ≤ depth then
            some ((key, value.toJson), serializeEntries false more ++ rest)
          else none := by
        rw [serializeEntries_cons, Json.member_quoted, skipBlank_serializeChars free.1, read]
        split <;> rfl
      cases more with
      | nil =>
          rw [Json.members_last first]
          simp [nestingEntries, toJsonEntries]
      | cons next more =>
          have comma : serializeEntries false (next :: more) ++ rest =
              ',' :: (serializeEntries true (next :: more) ++ rest) := by
            simp [serializeEntries]
          rw [comma] at first
          exact Json.members_cons first
            (others (List.cons_ne_nil _ _) depth limit rest (Nat.le_of_succ_le_succ enough))

end

/-- Within the depth that the reader goes to, a document is read back from the text of its value. -/
theorem jsonParse?_serialize {value : Value} (ordered : value.Ordered) (free : value.FloatFree)
    (depth : Nat) :
    Json.parse? depth value.serialize = if value.nesting ≤ depth then some value.toJson else none := by
  have read := value_serializeChars value ordered free depth [] nofun
  rw [← skipBlank_serializeChars free, List.append_nil] at read
  rw [Json.parse?, serialize, String.toList_ofList, read]
  by_cases within : value.nesting ≤ depth
  · rw [if_pos within, if_pos within]
    rfl
  · rw [if_neg within, if_neg within]

/-- The text of a value that has no finite numbers other than integers is read as the value itself, with null
    for what JSON cannot say, if arrays and objects are nested in it at most 127 deep; if they are nested
    deeper, the text is refused. Objects are read with ascending keys, as they are kept in all values. -/
theorem text_comes_back {value : Value} (ordered : value.Ordered) (free : value.FloatFree) :
    (value.nesting ≤ 127 → parse? value.serialize = some value.normal) ∧
      (128 ≤ value.nesting → parse? value.serialize = none) := by
  have read : parse? value.serialize = if value.nesting ≤ 127 then some value.normal else none := by
    rw [parse?, Json.nestingLimit, jsonParse?_serialize ordered free]
    split
    · rw [Option.map_some, ofJson_toJson]
    · rfl
  constructor
  · intro within
    rw [read, if_pos within]
  · intro deeper
    rw [read, if_neg (Nat.not_le.mpr deeper)]

/-! ### A sample -/

namespace Boxes

/-- A value in as many arrays. -/
def boxed (value : Value) : Nat → Value
  | 0 => value
  | depth + 1 => .array [boxed value depth]

/-- What text has to escape, the smallest integer, a missing value and an infinity. -/
def content : Value :=
  .object [("\"\\\n", .string "\x01/"), ("least", .array [.int Int64.minValue, .undefined]),
    ("most", .float ⟨0x7ff0000000000000⟩)]

theorem ordered_boxed {value : Value} (ordered : value.Ordered) (depth : Nat) :
    (boxed value depth).Ordered := by
  induction depth with
  | zero => exact ordered
  | succ depth ih => exact ⟨ih, trivial⟩

theorem floatFree_boxed {value : Value} (free : value.FloatFree) (depth : Nat) :
    (boxed value depth).FloatFree := by
  induction depth with
  | zero => exact free
  | succ depth ih => exact ⟨ih, trivial⟩

theorem nesting_boxed (value : Value) (depth : Nat) :
    (boxed value depth).nesting = value.nesting + depth := by
  induction depth with
  | zero => rfl
  | succ depth ih => simp [boxed, nesting, nestingItems, ih, Nat.add_assoc]

end Boxes

/-- The content of the sample comes back out of 125 arrays, but not out of 126. -/
theorem text_comes_back_sample :
    Boxes.content.Ordered ∧ Boxes.content.FloatFree ∧
      parse? (Boxes.boxed Boxes.content 125).serialize = some (Boxes.boxed Boxes.content 125).normal ∧
      parse? (Boxes.boxed Boxes.content 126).serialize = none := by
  have ordered : Boxes.content.Ordered := by
    refine ⟨?_, trivial, ⟨trivial, trivial, trivial⟩, trivial, trivial⟩
    unfold Keyed.Ordered
    decide
  have free : Boxes.content.FloatFree := by
    exact ⟨trivial, ⟨trivial, trivial, trivial⟩, rfl, trivial⟩
  refine ⟨ordered, free, ?_, ?_⟩
  · have deep : (Boxes.boxed Boxes.content 125).nesting = 127 := Boxes.nesting_boxed _ _
    exact (text_comes_back (Boxes.ordered_boxed ordered 125) (Boxes.floatFree_boxed free 125)).1
      (Nat.le_of_eq deep)
  · have deep : (Boxes.boxed Boxes.content 126).nesting = 128 := Boxes.nesting_boxed _ _
    exact (text_comes_back (Boxes.ordered_boxed ordered 126) (Boxes.floatFree_boxed free 126)).2
      (Nat.le_of_eq deep.symm)

end Value

end Reshape
