/-
Module: Reshape.Proofs.PathRendering
Layer: Proofs
Purpose: Writing a path in normal form and reading it are inverse: every root, list of well-formed segments
  and mark comes back, and whatever is read consists of well-formed segments.
Main exports: Path.Segment.WellFormed, Path.items_displaySegments, Path.parse_render_of_wellFormed,
  Path.wellFormed_of_parse, Path.parse_inverts_render
-/
import Reshape.Proofs.PathGrammar

namespace Reshape

namespace Path

/-- The segment can be written down: a key has characters, all of them for keys, and an index fits into
    64 bits. -/
def Segment.WellFormed : Segment → Prop
  | .key text => text ≠ "" ∧ ∀ c ∈ text.toList, KeyChar c
  | .index n => n < Nat.pow 2 64

theorem Segment.WellFormed.ne_nil {text : String} (wellFormed : (Segment.key text).WellFormed) :
    text.toList ≠ [] :=
  fun none => wellFormed.1 (String.toList_eq_nil_iff.mp none)

/-! ### What is read is well-formed -/

theorem Numeral.fits {text : List Char} {n : Nat} (numeral : Numeral text n) : n < Nat.pow 2 64 := by
  cases numeral with
  | plain digits => exact digits.fits
  | signed digits => exact digits.fits

theorem Item.wellFormed {text rest : List Char} {segment : Segment} (item : Item text rest segment) :
    segment.WellFormed := by
  cases item with
  | key some chars =>
      refine ⟨fun none => some (String.ofList_eq_empty_iff.mp none), ?_⟩
      rwa [String.toList_ofList]
  | index numeral => exact numeral.fits

theorem Items.wellFormed {text : List Char} {segments : List Segment} (items : Items text segments) :
    ∀ segment ∈ segments, segment.WellFormed := by
  induction items with
  | nil => exact List.forall_mem_nil _
  | adjoined read _ ih => exact List.forall_mem_cons.mpr ⟨read.wellFormed, ih⟩
  | dotted read _ ih => exact List.forall_mem_cons.mpr ⟨read.wellFormed, ih⟩

/-- Whatever is read consists of at most `maxSegments` well-formed segments. -/
theorem wellFormed_of_parse {raw : String} {path : Path} (parsed : parse raw = .ok path) :
    path.segments.length ≤ maxSegments ∧ ∀ segment ∈ path.segments, segment.WellFormed := by
  obtain ⟨-, rest, body, -, -, read, short⟩ := parts_of_parse parsed
  refine ⟨short, ?_⟩
  cases read with
  | plain items => exact items.wellFormed
  | dotted items => exact items.wellFormed

/-! ### What is written is read -/

theorem digits_toDigits {n : Nat} (fits : n < Nat.pow 2 64) : Digits (Nat.toDigits 10 n) n where
  some := Nat.toDigits_ne_nil
  digit _ := Nat.isDigit_of_mem_toDigits (by decide) (by decide)
  value := Nat.ofDigitChars_ten_toDigits
  fits := fits

/-- A segment starts with a dot or a bracket, at which keys end. -/
theorem not_keyChar_of_display {segments : List Segment} :
    ∀ c ∈ (displaySegments segments).head?, ¬ KeyChar c := by
  cases segments with
  | nil => nofun
  | cons segment rest =>
      cases segment with
      | key text =>
          rintro _ ⟨⟩ char
          exact char.1 rfl
      | index n =>
          rintro _ ⟨⟩ char
          exact char.2.1 rfl

/-- The text of well-formed segments has them as its items. -/
theorem items_displaySegments {segments : List Segment}
    (wellFormed : ∀ segment ∈ segments, segment.WellFormed) :
    Items (displaySegments segments) segments := by
  induction segments with
  | nil => exact .nil
  | cons segment rest ih =>
      obtain ⟨first, others⟩ := List.forall_mem_cons.mp wellFormed
      cases segment with
      | key text =>
          have item : Item text.toList (displaySegments rest) (.key text) := by
            simpa using Item.key first.ne_nil first.2 not_keyChar_of_display
          exact .dotted item (ih others)
      | index n => exact .adjoined (.index (.plain (digits_toDigits first))) (ih others)

theorem two_le_length_display {segment : Segment} (wellFormed : segment.WellFormed) :
    2 ≤ segment.display.length := by
  cases segment with
  | key text =>
      have some : 0 < text.toList.length := List.length_pos_iff.mpr wellFormed.ne_nil
      rw [Segment.display, List.length_cons]
      omega
  | index n => simp [Segment.display]

/-- No well-formed segment ends with the mark of a collection. -/
theorem not_marked_display {segment : Segment} (wellFormed : segment.WellFormed) :
    ¬ ['[', ']'] <:+ segment.display := by
  intro marked
  cases segment with
  | key text =>
      have bracket : ']' ∈ '.' :: text.toList := marked.subset (by simp)
      have inText : ']' ∈ text.toList := (List.mem_cons.mp bracket).resolve_left (by decide)
      exact (wellFormed.2 _ inText).2.2.1 rfl
  | index n =>
      have opening : ['['] <:+ '[' :: Nat.toDigits 10 n := by
        obtain ⟨front, whole⟩ := marked
        exact ⟨front, List.append_cancel_right ((List.append_assoc front ['['] [']']).trans whole)⟩
      rcases List.suffix_cons_iff.mp opening with whole | inside
      · exact absurd (List.cons.inj whole).2.symm Nat.toDigits_ne_nil
      · have digit := Nat.isDigit_of_mem_toDigits (by decide) (by decide)
          (inside.subset List.mem_cons_self)
        exact absurd digit (by decide)

/-- Only the mark of the root is two dots: no text of well-formed segments starts with them. -/
theorem opens_render (root : Root) {segments : List Segment} (isCollection : Bool)
    (wellFormed : ∀ segment ∈ segments, segment.WellFormed) :
    Opens (render root segments isCollection) (displaySegments segments ++ Text.mark isCollection)
      root := by
  cases root with
  | accumulator => exact .accumulator _
  | value =>
      refine .value fun (marked : ['.', '.'] <+: displaySegments segments ++ Text.mark isCollection) => ?_
      cases segments with
      | nil => cases isCollection <;> exact absurd marked (by decide)
      | cons segment rest =>
          have first := wellFormed segment List.mem_cons_self
          cases segment with
          | key text =>
              obtain ⟨c, more, chars⟩ := List.exists_cons_of_ne_nil first.ne_nil
              rw [displaySegments, List.flatMap_cons, Segment.display, chars] at marked
              have dot : c = '.' := (List.cons_prefix_cons.mp (List.cons_prefix_cons.mp marked).2).1.symm
              exact (first.2 c (chars ▸ List.mem_cons_self)).1 dot
          | index n => exact absurd (List.cons_prefix_cons.mp marked).1 (by decide)

/-- Only the mark of the collection is two brackets: no text of well-formed segments ends with them. -/
theorem closes_displaySegments {segments : List Segment} (isCollection : Bool)
    (wellFormed : ∀ segment ∈ segments, segment.WellFormed) :
    Text.Closes (displaySegments segments ++ Text.mark isCollection) (displaySegments segments)
      isCollection := by
  cases isCollection with
  | true => exact .marked _
  | false =>
      rw [Text.mark, if_neg Bool.false_ne_true, List.append_nil]
      refine .plain fun marked => ?_
      rcases List.eq_nil_or_concat' segments with rfl | ⟨front, last, rfl⟩
      · exact absurd marked (by decide)
      · rw [displaySegments, List.flatMap_append, List.flatMap_singleton] at marked
        exact not_marked_display (wellFormed last (by simp)) <|
          List.suffix_of_suffix_length_le marked (List.suffix_append _ _)
            (two_le_length_display (wellFormed last (by simp)))

/-- Written and read again, a path of well-formed segments is the same. -/
theorem parse_render_of_wellFormed (root : Root) {segments : List Segment} (isCollection : Bool)
    (short : segments.length ≤ maxSegments)
    (wellFormed : ∀ segment ∈ segments, segment.WellFormed) :
    parse (String.ofList (render root segments isCollection)) =
      .ok ⟨String.ofList (render root segments isCollection), root, segments, isCollection⟩ := by
  refine parse_of_parts ?_ (closes_displaySegments isCollection wellFormed)
    (.plain (items_displaySegments wellFormed)) short
  rw [String.toList_ofList]
  exact opens_render root isCollection wellFormed

/-- Writing and reading are inverse. Every root, every list of at most `maxSegments` well-formed segments and
    every mark, written down, is read as exactly that. The other way round, whatever is read from any text
    consists of such segments, so that written down and read again it is the same, apart from its text. -/
theorem parse_inverts_render :
    (∀ root segments isCollection, segments.length ≤ maxSegments →
      (∀ segment ∈ segments, segment.WellFormed) →
      let text := String.ofList (render root segments isCollection)
      parse text = .ok ⟨text, root, segments, isCollection⟩) ∧
      ∀ raw path, parse raw = .ok path →
        path.segments.length ≤ maxSegments ∧ (∀ segment ∈ path.segments, segment.WellFormed) ∧
          let text := String.ofList (render path.root path.segments path.isCollection)
          parse text = .ok { path with raw := text } := by
  refine ⟨fun root segments isCollection => parse_render_of_wellFormed root isCollection, ?_⟩
  intro raw path parsed
  obtain ⟨short, wellFormed⟩ := wellFormed_of_parse parsed
  exact ⟨short, wellFormed, parse_render_of_wellFormed path.root path.isCollection short wellFormed⟩

/-- In the sample, a path on the accumulator with a key, an index and the mark is written and read. Another
    text is read as the same segments. -/
theorem parse_inverts_render_sample :
    let segments : List Segment := [.key "a", .index 7]
    (segments.length ≤ maxSegments ∧ ∀ segment ∈ segments, segment.WellFormed) ∧
      parse "...a[7][]" = .ok ⟨"...a[7][]", .accumulator, segments, true⟩ ∧
      parse "..a.[+7][]" = .ok ⟨"..a.[+7][]", .accumulator, segments, true⟩ ∧
      ∃ path, parse "..a.[+7][]" = .ok path ∧ ∀ segment ∈ path.segments, segment.WellFormed := by
  intro segments
  have short : segments.length ≤ maxSegments := by decide
  have letter : ∀ c ∈ ['a'], KeyChar c := List.forall_mem_singleton.mpr (by decide)
  have wellFormed : ∀ segment ∈ segments, segment.WellFormed := by
    refine List.forall_mem_cons.mpr ⟨⟨by decide, letter⟩, List.forall_mem_singleton.mpr ?_⟩
    show 7 < Nat.pow 2 64
    decide
  have key : Item ['a'] ['.', '[', '+', '7', ']'] (.key "a") := by
    refine .key (by decide) letter fun c next => ?_
    cases next
    decide
  have seven : Digits ['7'] 7 := ⟨by decide, List.forall_mem_singleton.mpr rfl, by decide, by decide⟩
  have index : Item ('[' :: ['+', '7'] ++ [']']) [] (.index 7) := .index (.signed seven)
  have other : parse "..a.[+7][]" = .ok ⟨"..a.[+7][]", .accumulator, segments, true⟩ :=
    parse_of_parts (.accumulator _) (.marked ['a', '.', '[', '+', '7', ']'])
      (.plain (.adjoined key (.dotted index .nil))) short
  have text : String.ofList (render .accumulator segments true) = "...a[7][]" := by decide
  obtain ⟨written, read⟩ := parse_inverts_render
  have again := written .accumulator segments true short wellFormed
  rw [text] at again
  exact ⟨⟨short, wellFormed⟩, again, other, ⟨_, other, (read _ _ other).2.1⟩⟩

end Path

end Reshape
