/-
Module: Reshape.Proofs.PathGrammar
Layer: Proofs
Purpose: The grammar of paths, said without the parser, and that the parser reads exactly the texts of the
  grammar: a mark for the root, a body of keys and bracketed indices, a mark for the collection.
Main exports: Path.KeyChar, Path.Numeral, Path.Item, Path.Items, Path.Body, Path.Opens,
  Path.scan_eq_ok_iff, Path.parse_of_parts, Path.parts_of_parse, Path.parse_iff_grammar
-/
import Mathlib.Data.List.TakeWhile
import Reshape.Path.Parser
import Reshape.Proofs.Outcomes
import Reshape.Proofs.Texts

namespace Reshape

namespace Path

/-! ### The grammar -/

/-- A character that keys are made of. -/
def KeyChar (c : Char) : Prop :=
  c ≠ '.' ∧ c ≠ '[' ∧ c ≠ ']' ∧ Text.isBlank c = false

instance (c : Char) : Decidable (KeyChar c) :=
  inferInstanceAs (Decidable (_ ∧ _))

/-- `Digits text n`: one or more decimal digits, whose value `n` fits into 64 bits. -/
structure Digits (text : List Char) (n : Nat) : Prop where
  some : text ≠ []
  digit : ∀ c ∈ text, c.isDigit = true
  value : Nat.ofDigitChars 10 text 0 = n
  fits : n < Nat.pow 2 64

/-- `Numeral text n`: digits, with or without a plus sign in front. -/
inductive Numeral : List Char → Nat → Prop where
  | plain {digits : List Char} {n : Nat} : Digits digits n → Numeral digits n
  | signed {digits : List Char} {n : Nat} : Digits digits n → Numeral ('+' :: digits) n

/-- `Item text rest segment`: `text` is a key or a bracketed index, with `rest` behind it. A key goes on as
    long as there are characters for it. -/
inductive Item : List Char → List Char → Segment → Prop where
  | key {text rest : List Char} (some : text ≠ []) (chars : ∀ c ∈ text, KeyChar c)
      (longest : ∀ c ∈ rest.head?, ¬ KeyChar c) : Item text rest (.key (String.ofList text))
  | index {text rest : List Char} {n : Nat} (numeral : Numeral text n) :
      Item ('[' :: text ++ [']']) rest (.index n)

/-- `Items text segments`: items one after the other, each with at most one dot in front. -/
inductive Items : List Char → List Segment → Prop where
  | nil : Items [] []
  | adjoined {item rest : List Char} {segment : Segment} {segments : List Segment} :
      Item item rest segment → Items rest segments → Items (item ++ rest) (segment :: segments)
  | dotted {item rest : List Char} {segment : Segment} {segments : List Segment} :
      Item item rest segment → Items rest segments →
        Items ('.' :: (item ++ rest)) (segment :: segments)

/-- `Body text segments`: items, with one more dot in front or not. -/
inductive Body : List Char → List Segment → Prop where
  | plain {text : List Char} {segments : List Segment} : Items text segments → Body text segments
  | dotted {text : List Char} {segments : List Segment} :
      Items text segments → Body ('.' :: text) segments

/-- `Opens text rest root`: two dots in front, wherever they stand, are the mark of the accumulator. -/
inductive Opens : List Char → List Char → Root → Prop where
  | accumulator (rest : List Char) : Opens ('.' :: '.' :: rest) rest .accumulator
  | value {text : List Char} (unmarked : ¬ ['.', '.'] <+: text) : Opens text text .value

/-! ### Tokens -/

theorem isKeyChar_iff {c : Char} : isKeyChar c = true ↔ KeyChar c := by
  simp [isKeyChar, KeyChar, and_assoc]

/-- Digits may stand in keys. -/
theorem keyChar_of_isDigit {c : Char} (digit : c.isDigit = true) : KeyChar c := by
  have other {d : Char} (noDigit : d.isDigit = false) : c ≠ d := by
    apply ne_of_apply_ne Char.isDigit
    rw [digit, noDigit]
    decide
  have visible : Text.isBlank c = false := by
    unfold Char.isDigit at digit
    simp only [Bool.and_eq_true, decide_eq_true_eq, ge_iff_le, UInt32.le_iff_toNat_le] at digit
    exact Text.not_blank_of_ascii (Nat.lt_of_lt_of_le (by decide) digit.1)
      (Nat.lt_of_le_of_lt digit.2 (by decide))
  exact ⟨other (by decide), other (by decide), other (by decide), visible⟩

theorem digits?_eq_some_iff {text : List Char} {n : Nat} : digits? text = some n ↔ Digits text n := by
  unfold digits?
  constructor
  · intro read
    split at read
    · rename_i digits
      dsimp only at read
      split at read
      · rename_i fits
        cases read
        exact ⟨digits.1, List.all_eq_true.mp digits.2, rfl, fits⟩
      · cases read
    · cases read
  · rintro ⟨some, digit, rfl, fits⟩
    rw [if_pos ⟨some, List.all_eq_true.mpr digit⟩]
    exact if_pos fits

theorem index?_eq_some_iff {text : List Char} {n : Nat} : index? text = some n ↔ Numeral text n := by
  constructor
  · intro read
    unfold index? at read
    split at read
    · exact .signed (digits?_eq_some_iff.mp read)
    · exact .plain (digits?_eq_some_iff.mp read)
  · rintro (digits | digits)
    · have noSign : ∀ rest, text ≠ '+' :: rest := by
        rintro rest rfl
        exact absurd (digits.digit '+' List.mem_cons_self) (by decide)
      rw [index?]
      · exact digits?_eq_some_iff.mpr digits
      · exact noSign
    · exact digits?_eq_some_iff.mpr digits

/-- A numeral holds no bracket. -/
theorem Numeral.ne_bracket {text : List Char} {n : Nat} (numeral : Numeral text n) :
    ∀ c ∈ text, c ≠ ']' := by
  have digit_ne {digits : List Char} (read : Digits digits n) : ∀ c ∈ digits, c ≠ ']' := by
    intro c member
    exact (keyChar_of_isDigit (read.digit c member)).2.2.1
  cases numeral with
  | plain digits => exact digit_ne digits
  | signed digits => exact List.forall_mem_cons.mpr ⟨by decide, digit_ne digits⟩

theorem Numeral.ne_nil {text : List Char} {n : Nat} (numeral : Numeral text n) : text ≠ [] := by
  cases numeral with
  | plain digits => exact digits.some
  | signed digits => exact List.cons_ne_nil _ _

/-! ### Scanning -/

theorem Item.ne_nil {text rest : List Char} {segment : Segment} (item : Item text rest segment) :
    text ≠ [] := by
  cases item with
  | key some => exact some
  | index numeral => exact List.cons_ne_nil _ _

/-- No item starts with a dot. -/
theorem Item.ne_dot {c : Char} {text rest : List Char} {segment : Segment}
    (item : Item (c :: text) rest segment) : c ≠ '.' := by
  generalize whole : c :: text = item at item
  cases item with
  | key some chars =>
      subst whole
      exact (chars c List.mem_cons_self).1
  | index numeral =>
      cases whole
      decide

/-- A bracketed token ends at the first closing bracket. -/
theorem scanItem_bracket {position : Nat} {inner left : List Char} (inside : ']' ∉ inner) :
    scanItem position '[' (inner ++ ']' :: left) =
      if inner = [] then .error (.misplacedMarker position)
      else
        match index? inner with
        | none => .error (.invalidIndex (position + 1) (String.ofList inner))
        | some n => (scan (position + inner.length + 2) left).map (.index n :: ·) := by
  have token : (inner ++ ']' :: left).takeWhile (· != ']') = inner := by
    have goesOn : ∀ c ∈ inner, (c != ']') = true := by
      intro c member
      exact bne_iff_ne.mpr fun same => inside (same ▸ member)
    rw [List.takeWhile_append_of_pos goesOn, List.takeWhile_cons_of_neg (by decide), List.append_nil]
  have closed : ¬ ']' ∉ inner ++ ']' :: left := by simp
  have behind : (inner ++ ']' :: left).drop (inner.length + 1) = left :=
    List.drop_length_add_append 1
  have opened := scanItem.eq_def position '[' (inner ++ ']' :: left)
  rw [if_pos rfl, if_neg closed, token, behind] at opened
  exact opened

/-- A bracketed token has to be the numeral of an index. -/
theorem scanItem_bracket_eq_ok_iff {position : Nat} {inner left : List Char} {segments : List Segment}
    (inside : ']' ∉ inner) :
    scanItem position '[' (inner ++ ']' :: left) = .ok segments ↔
      ∃ n others, Numeral inner n ∧ scan (position + inner.length + 2) left = .ok others ∧
        segments = .index n :: others := by
  rw [scanItem_bracket inside]
  constructor
  · intro scanned
    split at scanned
    · cases scanned
    · split at scanned
      · cases scanned
      · rename_i n read
        obtain ⟨others, goesOn, rfl⟩ := ok_of_map scanned
        exact ⟨n, others, index?_eq_some_iff.mp read, goesOn, rfl⟩
  · rintro ⟨n, others, numeral, goesOn, rfl⟩
    rw [if_neg numeral.ne_nil, index?_eq_some_iff.mpr numeral]
    exact map_eq_ok_iff.mpr ⟨others, goesOn, rfl⟩

/-- A key ends where no character for keys follows. -/
theorem scanItem_key {position : Nat} {c : Char} {more left : List Char}
    (chars : ∀ d ∈ c :: more, KeyChar d) (longest : ∀ d ∈ left.head?, ¬ KeyChar d) :
    scanItem position c (more ++ left) =
      (scan (position + more.length + 1) left).map (.key (String.ofList (c :: more)) :: ·) := by
  obtain ⟨first, others⟩ := List.forall_mem_cons.mp chars
  have goesOn : ∀ d ∈ more, isKeyChar d = true := fun d member => isKeyChar_iff.mpr (others d member)
  have token : left.takeWhile isKeyChar = [] ∧ left.dropWhile isKeyChar = left := by
    cases left with
    | nil => exact ⟨rfl, rfl⟩
    | cons d rest =>
        have stops : ¬ isKeyChar d = true := mt isKeyChar_iff.mp (longest d rfl)
        exact ⟨List.takeWhile_cons_of_neg stops, List.dropWhile_cons_of_neg stops⟩
  rw [scanItem, if_neg first.2.1, if_pos (isKeyChar_iff.mpr first), List.takeWhile_append_of_pos goesOn,
    List.dropWhile_append_of_pos goesOn, token.1, token.2, List.append_nil]

/-- Every text starts with a longest run of characters for keys, which may be empty. -/
theorem exists_run (text : List Char) :
    ∃ run left, text = run ++ left ∧ (∀ c ∈ run, KeyChar c) ∧ ∀ c ∈ left.head?, ¬ KeyChar c := by
  refine ⟨text.takeWhile isKeyChar, text.dropWhile isKeyChar, List.takeWhile_append_dropWhile.symm,
    fun c member => isKeyChar_iff.mp (List.mem_takeWhile_imp member), ?_⟩
  intro c next char
  have stops := List.head?_dropWhile_not isKeyChar text
  rw [Option.mem_def.mp next] at stops
  exact Bool.false_ne_true (stops.symm.trans (isKeyChar_iff.mpr char))

/-- Scanning an item reads one item of the grammar and goes on behind it. -/
theorem scanItem_eq_ok_iff {position : Nat} {c : Char} {rest : List Char} {segments : List Segment} :
    scanItem position c rest = .ok segments ↔
      ∃ item left segment others, c :: rest = item ++ left ∧ Item item left segment ∧
        scan (position + item.length) left = .ok others ∧ segments = segment :: others := by
  constructor
  · intro scanned
    by_cases bracket : c = '['
    · subst bracket
      by_cases closed : ']' ∈ rest
      · obtain ⟨inner, left, rfl, inside⟩ := List.eq_append_cons_of_mem closed
        obtain ⟨n, others, numeral, goesOn, rfl⟩ := (scanItem_bracket_eq_ok_iff inside).mp scanned
        refine ⟨'[' :: inner ++ [']'], left, .index n, others, by simp, .index numeral, ?_, rfl⟩
        rwa [List.length_append]
      · rw [scanItem, if_pos rfl, if_pos closed] at scanned
        cases scanned
    · by_cases char : isKeyChar c = true
      · obtain ⟨more, left, rfl, run, longest⟩ := exists_run rest
        have chars : ∀ d ∈ c :: more, KeyChar d :=
          List.forall_mem_cons.mpr ⟨isKeyChar_iff.mp char, run⟩
        rw [scanItem_key chars longest] at scanned
        obtain ⟨others, goesOn, rfl⟩ := ok_of_map scanned
        exact ⟨c :: more, left, _, others, rfl, .key (List.cons_ne_nil _ _) chars longest, goesOn, rfl⟩
      · rw [scanItem, if_neg bracket, if_neg char] at scanned
        cases scanned
  · rintro ⟨item, left, segment, others, whole, read, scanned, rfl⟩
    cases read with
    | key some chars longest =>
        obtain ⟨d, more, rfl⟩ := List.exists_cons_of_ne_nil some
        obtain ⟨rfl, rfl⟩ := List.cons.inj whole
        rw [List.append_eq, scanItem_key chars longest]
        exact map_eq_ok_iff.mpr ⟨others, scanned, rfl⟩
    | @index inner _ n numeral =>
        have whole : c = '[' ∧ rest = inner ++ ']' :: left := by simpa using whole
        obtain ⟨rfl, rfl⟩ := whole
        have inside : ']' ∉ inner := fun member => numeral.ne_bracket _ member rfl
        rw [List.length_append] at scanned
        exact (scanItem_bracket_eq_ok_iff inside).mpr ⟨n, others, numeral, scanned, rfl⟩

theorem scan_nil (position : Nat) : scan position [] = .ok [] := by
  rw [scan]

/-- Before an item, a dot is passed over. -/
theorem scan_dotted {position : Nat} {c : Char} {rest : List Char} (item : c ≠ '.') :
    scan position ('.' :: c :: rest) = scanItem (position + 1) c rest := by
  rw [scan]
  exact item

theorem scan_adjoined {position : Nat} {c : Char} {rest : List Char} (item : c ≠ '.') :
    scan position (c :: rest) = scanItem position c rest := by
  rw [scan]
  exact item

/-- No two dots stand between items, and none at the end. -/
theorem scan_stray {position : Nat} {rest : List Char} (stray : rest.head? = none ∨ rest.head? = some '.') :
    scan position ('.' :: rest) = .error (.emptyKey (position + 1)) := by
  cases rest with
  | nil => rw [scan]
  | cons c rest =>
      obtain rfl : c = '.' := by simpa using stray
      rw [scan]

theorem items_of_scan {position : Nat} {text : List Char} {segments : List Segment}
    (scanned : scan position text = .ok segments) : Items text segments := by
  -- Each item leaves less to be scanned.
  induction size : text.length using Nat.strong_induction_on generalizing position text segments with
  | _ n ih =>
  have item_of_scanItem {position : Nat} {c : Char} {rest : List Char} {segments : List Segment}
      (shorter : (c :: rest).length ≤ n) (scanned : scanItem position c rest = .ok segments) :
      ∃ item left segment others, c :: rest = item ++ left ∧ Item item left segment ∧
        Items left others ∧ segments = segment :: others := by
    obtain ⟨item, left, segment, others, whole, read, goesOn, rfl⟩ := scanItem_eq_ok_iff.mp scanned
    refine ⟨item, left, segment, others, whole, read, ih left.length ?_ goesOn rfl, rfl⟩
    have consumed : 0 < item.length := List.length_pos_iff.mpr read.ne_nil
    have total : (c :: rest).length = item.length + left.length := by rw [whole, List.length_append]
    omega
  cases text with
  | nil =>
      rw [scan_nil] at scanned
      cases scanned
      exact .nil
  | cons c rest =>
      by_cases dot : c = '.'
      · subst dot
        cases rest with
        | nil =>
            rw [scan_stray (.inl rfl)] at scanned
            cases scanned
        | cons d rest =>
            by_cases stray : d = '.'
            · rw [scan_stray (.inr (stray ▸ rfl))] at scanned
              cases scanned
            · rw [scan_dotted stray] at scanned
              obtain ⟨item, left, segment, others, whole, read, items, rfl⟩ :=
                item_of_scanItem (size ▸ Nat.le_succ _) scanned
              rw [whole]
              exact .dotted read items
      · rw [scan_adjoined dot] at scanned
        obtain ⟨item, left, segment, others, whole, read, items, rfl⟩ :=
          item_of_scanItem size.le scanned
        rw [whole]
        exact .adjoined read items

theorem scan_of_items {position : Nat} {text : List Char} {segments : List Segment}
    (items : Items text segments) : scan position text = .ok segments := by
  induction items generalizing position with
  | nil => exact scan_nil position
  | @adjoined item rest segment segments read _ ih =>
      obtain ⟨c, more, rfl⟩ := List.exists_cons_of_ne_nil read.ne_nil
      rw [List.cons_append, scan_adjoined read.ne_dot]
      exact scanItem_eq_ok_iff.mpr ⟨_, rest, segment, segments, rfl, read, ih, rfl⟩
  | @dotted item rest segment segments read _ ih =>
      obtain ⟨c, more, rfl⟩ := List.exists_cons_of_ne_nil read.ne_nil
      rw [List.cons_append, scan_dotted read.ne_dot]
      exact scanItem_eq_ok_iff.mpr ⟨_, rest, segment, segments, rfl, read, ih, rfl⟩

/-- Scanning reads the items of the grammar. -/
theorem scan_eq_ok_iff {position : Nat} {text : List Char} {segments : List Segment} :
    scan position text = .ok segments ↔ Items text segments :=
  ⟨items_of_scan, scan_of_items⟩

/-! ### Whole paths -/

/-- A dot in front of items may be left out. -/
theorem Items.of_dot {text : List Char} {segments : List Segment} (items : Items ('.' :: text) segments) :
    Items text segments := by
  generalize whole : '.' :: text = dotted at items
  cases items with
  | nil => cases whole
  | adjoined read items =>
      obtain ⟨c, more, rfl⟩ := List.exists_cons_of_ne_nil read.ne_nil
      exact absurd (List.cons.inj whole).1.symm read.ne_dot
  | dotted read items =>
      cases whole
      exact .adjoined read items

theorem scanBody_eq_ok_iff {offset : Nat} {text : List Char} {segments : List Segment} :
    scanBody offset text = .ok segments ↔ Body text segments := by
  unfold scanBody
  split
  · rw [scan_eq_ok_iff]
    refine ⟨.dotted, ?_⟩
    rintro (items | items)
    · exact items.of_dot
    · exact items
  · rename_i noDot
    rw [scan_eq_ok_iff]
    refine ⟨.plain, ?_⟩
    rintro (items | items)
    · exact items
    · exact absurd rfl (noDot _)

theorem opens_iff {text rest : List Char} {root : Root} :
    Opens text rest root ↔ ∃ offset, splitRoot text = (root, offset, rest) := by
  constructor
  · rintro (_ | unmarked)
    · exact ⟨2, rfl⟩
    · refine ⟨0, ?_⟩
      unfold splitRoot
      split
      · exact absurd (List.prefix_append ['.', '.'] _) unmarked
      · rfl
  · rintro ⟨offset, parts⟩
    unfold splitRoot at parts
    split at parts
    · cases parts
      exact .accumulator _
    · rename_i unmarked
      cases parts
      refine .value ?_
      rintro ⟨rest, rfl⟩
      exact unmarked rest rfl

variable {raw : String} {rest body : List Char} {root : Root} {segments : List Segment}
  {isCollection : Bool} {path : Path}

/-- What the grammar spells is read, as it is spelled. -/
theorem parse_of_parts (opens : Opens raw.toList rest root) (closes : Text.Closes rest body isCollection)
    (read : Body body segments) (short : segments.length ≤ maxSegments) :
    parse raw = .ok ⟨raw, root, segments, isCollection⟩ := by
  obtain ⟨offset, opened⟩ := opens_iff.mp opens
  rw [parse, opened]
  dsimp only
  rw [Text.closes_iff.mp closes]
  dsimp only
  rw [scanBody_eq_ok_iff.mpr read]
  exact if_pos short

/-- What is read is spelled by the grammar. -/
theorem parts_of_parse (parsed : parse raw = .ok path) :
    path.raw = raw ∧ ∃ rest body, Opens raw.toList rest path.root ∧
      Text.Closes rest body path.isCollection ∧ Body body path.segments ∧
      path.segments.length ≤ maxSegments := by
  obtain ⟨⟨root, offset, rest⟩, opened⟩ : ∃ parts, splitRoot raw.toList = parts := ⟨_, rfl⟩
  obtain ⟨⟨body, isCollection⟩, closed⟩ : ∃ parts, Text.splitMark rest = parts := ⟨_, rfl⟩
  rw [parse, opened] at parsed
  dsimp only at parsed
  rw [closed] at parsed
  dsimp only at parsed
  split at parsed
  · cases parsed
  · rename_i segments scanned
    split at parsed
    · rename_i short
      cases parsed
      exact ⟨rfl, rest, body, opens_iff.mpr ⟨offset, opened⟩, Text.closes_iff.mpr closed,
        scanBody_eq_ok_iff.mp scanned, short⟩
    · cases parsed

/-- The parser reads exactly the texts of the grammar, and reads them faithfully. The empty text and the
    single dot keep the value. Apart from them, a path is the mark of the root if the text starts with it, a
    body of at most `maxSegments` items, and the mark of the collection if the rest ends with it. The segments
    are the items, in order. -/
theorem parse_iff_grammar (raw : String) (path : Path) :
    parse raw = .ok path ↔
      path.raw = raw ∧
        ((raw = "" ∨ raw = ".") ∧ path.root = .value ∧ path.segments = [] ∧ path.isCollection = false ∨
          ∃ rest body, Opens raw.toList rest path.root ∧ Text.Closes rest body path.isCollection ∧
            Body body path.segments ∧ path.segments.length ≤ maxSegments) := by
  constructor
  · intro parsed
    exact ⟨(parts_of_parse parsed).1, .inr (parts_of_parse parsed).2⟩
  · obtain ⟨written, root, segments, isCollection⟩ := path
    rintro ⟨rfl, ⟨rfl | rfl, rfl, rfl, rfl⟩ | ⟨rest, body, opens, closes, read, short⟩⟩
    · exact parse_of_parts (.value (by decide)) (.plain (by decide)) (.plain .nil) (Nat.zero_le _)
    · exact parse_of_parts (.value (by decide)) (.plain (by decide)) (.dotted .nil) (Nat.zero_le _)
    · exact parse_of_parts opens closes read short

end Path

end Reshape
