/-
Module: Reshape.Proofs.JsonTokens
Layer: Proofs
Purpose: The tokens of JSON text, read back from what is written: integers and strings, and the steps in which
  the items of an array and the members of an object are read.
Main exports: Json.EndsNumber, Json.number_printInt, Json.stringBody_quoted, Json.value_eq_leaf,
  Json.value_array, Json.value_object, Json.items_cons, Json.members_cons, Json.member_quoted
-/
import Mathlib.Data.List.TakeDrop
import Reshape.Json.Parser
import Reshape.Json.Printer

namespace Reshape

namespace Json

variable {rest text : List Char}

/-! ### Integers -/

/-- A number does not go on with the text: it is empty, or its first character stands in no number. -/
def EndsNumber (text : List Char) : Prop :=
  ∀ c ∈ text.head?, c.isDigit = false ∧ c ≠ '.' ∧ c ≠ 'e' ∧ c ≠ 'E'

/-- Digits are read to their end. -/
theorem digits_append {run : List Char} (some : run ≠ []) (digit : ∀ c ∈ run, c.isDigit = true)
    (ends : EndsNumber rest) : digits (run ++ rest) = .some (run, rest) := by
  have stops : rest.takeWhile Char.isDigit = [] ∧ rest.dropWhile Char.isDigit = rest := by
    cases rest with
    | nil => exact ⟨rfl, rfl⟩
    | cons c rest =>
        have noDigit := (ends c rfl).1
        simp [noDigit]
  have split : (run ++ rest).span Char.isDigit = (run, rest) := by
    rw [List.span_eq_takeWhile_dropWhile, List.takeWhile_append_of_pos digit,
      List.dropWhile_append_of_pos digit, stops.1, stops.2, List.append_nil]
  cases run with
  | nil => exact absurd rfl some
  | cons c run => simp only [digits, split]

/-- The decimal digits of a number start with a zero only if that is all. -/
theorem eq_nil_of_toDigits {n : Nat} {more : List Char} (zero : Nat.toDigits 10 n = '0' :: more) :
    more = [] := by
  induction n using Nat.strongRecOn generalizing more with
  | _ n ih =>
      by_cases small : n < 10
      · rw [Nat.toDigits_of_lt_base small] at zero
        exact (List.cons.inj zero).2.symm
      · rw [Nat.toDigits_of_base_le (by decide) (by omega)] at zero
        cases front : Nat.toDigits 10 (n / 10) with
        | nil => exact absurd front Nat.toDigits_ne_nil
        | cons c others =>
            rw [front, List.cons_append] at zero
            obtain rfl := (List.cons.inj zero).1
            obtain rfl := ih (n / 10) (by omega) front
            have value : Nat.ofDigitChars 10 ['0'] 0 = n / 10 := by
              rw [← front, Nat.ofDigitChars_ten_toDigits]
            have zero : Nat.ofDigitChars 10 ['0'] 0 = 0 := by decide
            omega

theorem wholeDigits_toDigits (n : Nat) (ends : EndsNumber rest) :
    wholeDigits (Nat.toDigits 10 n ++ rest) = some (Nat.toDigits 10 n, rest) := by
  have digit : ∀ c ∈ Nat.toDigits 10 n, c.isDigit = true :=
    fun c => Nat.isDigit_of_mem_toDigits (by decide) (by decide)
  have read := digits_append Nat.toDigits_ne_nil digit ends
  rw [wholeDigits, read]
  split
  · next c others _ found =>
    have front := congrArg Prod.fst (Option.some.inj found)
    exact absurd (eq_nil_of_toDigits front) (List.cons_ne_nil _ _)
  · rfl

theorem fractionDigits_of_endsNumber (ends : EndsNumber rest) :
    fractionDigits rest = some (none, rest) := by
  unfold fractionDigits
  split
  · exact absurd rfl (ends '.' rfl).2.1
  · rfl

theorem exponentPart_of_endsNumber (ends : EndsNumber rest) :
    exponentPart rest = some (none, rest) := by
  unfold exponentPart
  split
  · exact absurd rfl (ends 'e' rfl).2.2.1
  · exact absurd rfl (ends 'E' rfl).2.2.2
  · rfl

theorem unsignedNumber_toDigits (negative : Bool) (n : Nat) (ends : EndsNumber rest) :
    unsignedNumber negative (Nat.toDigits 10 n ++ rest) =
      (numberOf? negative (Nat.toDigits 10 n) none none).map fun json => (json, rest) := by
  simp only [unsignedNumber, wholeDigits_toDigits n ends, fractionDigits_of_endsNumber ends,
    exponentPart_of_endsNumber ends, Option.bind_eq_bind, Option.bind_some]
  cases numberOf? negative (Nat.toDigits 10 n) none none <;> rfl

theorem head_toDigits (n : Nat) : ∃ c more, Nat.toDigits 10 n = c :: more ∧ c.isDigit = true := by
  cases digits : Nat.toDigits 10 n with
  | nil => exact absurd digits Nat.toDigits_ne_nil
  | cons c more =>
      have digit := Nat.isDigit_of_mem_toDigits (n := n) (by decide) (by decide)
        (digits ▸ List.mem_cons_self)
      exact ⟨c, more, rfl, digit⟩

/-- Integers that fit in 64 bits with a sign are read back, the smallest of them too. -/
theorem number_printInt {n : Int} (fits : Int64.minValue.toInt ≤ n ∧ n ≤ Int64.maxValue.toInt)
    (ends : EndsNumber rest) : number (printInt n ++ rest) = some (.int n, rest) := by
  have lower : n.natAbs ≤ Nat.pow 2 63 := by
    rw [show Nat.pow 2 63 = 9223372036854775808 from rfl]
    have minimum : Int64.minValue.toInt = -9223372036854775808 := by decide
    have maximum : Int64.maxValue.toInt = 9223372036854775807 := by decide
    omega
  unfold printInt
  split
  · next negative =>
    have positive : 0 < n.natAbs := by omega
    have sign : (-(n.natAbs : Int)) = n := by omega
    have whole : numberOf? true (Nat.toDigits 10 n.natAbs) none none = some (.int n) := by
      simp only [numberOf?, Nat.ofDigitChars_ten_toDigits, sign]
      rw [if_neg nofun, if_pos ⟨rfl, rfl, trivial, positive, lower⟩]
    rw [List.cons_append, number, unsignedNumber_toDigits true _ ends, whole]
    rfl
  · next positive =>
    have fits64 : n.natAbs < Nat.pow 2 64 := by
      rw [show Nat.pow 2 64 = 2 * Nat.pow 2 63 from rfl]
      have : 0 < Nat.pow 2 63 := by decide
      omega
    have sign : (n.natAbs : Int) = n := by omega
    have unsigned : number (Nat.toDigits 10 n.natAbs ++ rest) =
        unsignedNumber false (Nat.toDigits 10 n.natAbs ++ rest) := by
      obtain ⟨c, more, digits, digit⟩ := head_toDigits n.natAbs
      rw [digits, List.cons_append]
      unfold number
      split
      · next same =>
        obtain rfl := (List.cons.inj same).1
        exact absurd digit (by decide)
      · rfl
    have whole : numberOf? false (Nat.toDigits 10 n.natAbs) none none = some (.int n) := by
      simp only [numberOf?, Nat.ofDigitChars_ten_toDigits, sign]
      rw [if_pos ⟨rfl, rfl, trivial, fits64⟩]
    rw [unsigned, unsignedNumber_toDigits false _ ends, whole]
    rfl

/-! ### Strings -/

/-- The hexadecimal digits of a control character are read back. -/
theorem unit?_control :
    ∀ n < 32, unit? '0' '0' (Nat.digitChar (n / 16)) (Nat.digitChar (n % 16)) = some n := by
  decide

/-- Each character is read back from the form in which it is written, whatever follows. -/
theorem stringBody_quotedChar (c : Char) (rest : List Char) :
    stringBody (quotedChar c ++ rest) = push c (stringBody rest) := by
  unfold quotedChar
  -- First come the seven characters that have an escape of their own.
  iterate 7
    split
    · next same => subst same; simp [stringBody, escape?]
  split
  · next control =>
    have high : isHighSurrogate c.toNat = false := by simp [isHighSurrogate]; omega
    have low : isLowSurrogate c.toNat = false := by simp [isLowSurrogate]; omega
    simp [stringBody, unit?_control c.toNat control, high, low]
  · next quote backslash _ _ _ _ _ visible =>
    have plain : stringBody (c :: rest) =
        if c.toNat < 32 then none else push c (stringBody rest) := by
      rw [stringBody.eq_def]
      split <;> simp_all
    rw [List.singleton_append, plain, if_neg visible]

theorem stringBody_quoted (s : String) (rest : List Char) :
    stringBody (s.toList.flatMap quotedChar ++ '"' :: rest) = some (s.toList, rest) := by
  induction s.toList with
  | nil => simp [stringBody]
  | cons c more ih => rw [List.flatMap_cons, List.append_assoc, stringBody_quotedChar, ih, push]; rfl

/-! ### Documents -/

/-- Text that starts with a visible character has no white space to skip. -/
theorem skipBlank_cons {c : Char} (visible : (c == ' ' || c == '\t' || c == '\n' || c == '\r') = false)
    (rest : List Char) : skipBlank (c :: rest) = c :: rest := by
  simp [skipBlank, List.dropWhile, visible]

/-- A value may start with the character: it is neither white space nor the bracket that closes an array. -/
def StartsValue (c : Char) : Prop :=
  (c == ' ' || c == '\t' || c == '\n' || c == '\r') = false ∧ c ≠ ']'

instance (c : Char) : Decidable (StartsValue c) :=
  inferInstanceAs (Decidable (_ ∧ _))

/-- A document that starts with no bracket is no container. -/
theorem value_eq_leaf {c : Char} (noArray : c ≠ '[') (noObject : c ≠ '\x7b') (depth : Nat) :
    value depth (c :: rest) = leaf (c :: rest) := by
  cases depth with
  | zero => rfl
  | succ depth =>
      rw [value]
      · exact fun _ same => noArray (List.cons.inj same).1
      · exact fun _ same => noObject (List.cons.inj same).1

/-- What starts like a number is read as one. -/
theorem value_eq_number {c : Char} (start : c = '-' ∨ c.isDigit = true) (depth : Nat) :
    value depth (c :: rest) = number (c :: rest) := by
  have other {d : Char} (noStart : d ≠ '-' ∧ d.isDigit = false) : c ≠ d := by
    intro same
    rcases start with sign | digit
    · exact noStart.1 (same ▸ sign)
    · exact absurd (same ▸ digit) (Bool.eq_false_iff.mp noStart.2)
  rw [value_eq_leaf (other (by decide)) (other (by decide))]
  unfold leaf
  split
  · next same => exact absurd (List.cons.inj same).1 (other (by decide))
  · next same => exact absurd (List.cons.inj same).1 (other (by decide))
  · next same => exact absurd (List.cons.inj same).1 (other (by decide))
  · next same => exact absurd (List.cons.inj same).1 (other (by decide))
  · rfl

theorem head_printInt (n : Int) :
    ∃ c more, printInt n = c :: more ∧ (c = '-' ∨ c.isDigit = true) := by
  unfold printInt
  split
  · exact ⟨_, _, rfl, .inl rfl⟩
  · obtain ⟨c, more, digits, digit⟩ := head_toDigits n.natAbs
    exact ⟨c, more, digits, .inr digit⟩

theorem startsValue_of_number {c : Char} (start : c = '-' ∨ c.isDigit = true) : StartsValue c := by
  rcases start with rfl | digit
  · decide
  · have other {d : Char} (noDigit : d.isDigit = false) : c ≠ d := by
      rintro rfl
      exact Bool.eq_false_iff.mp noDigit digit
    have blank := other (d := ' ') rfl
    have tab := other (d := '\t') rfl
    have newline := other (d := '\n') rfl
    have carriage := other (d := '\r') rfl
    exact ⟨by simp [blank, tab, newline, carriage], other (by decide)⟩

theorem value_printInt {n : Int} (fits : Int64.minValue.toInt ≤ n ∧ n ≤ Int64.maxValue.toInt)
    (depth : Nat) (ends : EndsNumber rest) :
    value depth (printInt n ++ rest) = some (.int n, rest) := by
  have read := number_printInt fits ends
  obtain ⟨c, more, written, start⟩ := head_printInt n
  rw [written, List.cons_append] at read ⊢
  rw [value_eq_number start, read]

theorem value_quoted (s : String) (depth : Nat) (rest : List Char) :
    value depth (quoted s ++ rest) = some (.string s, rest) := by
  have body := stringBody_quoted s rest
  rw [quoted, List.cons_append, List.cons_append, List.append_assoc, List.singleton_append,
    value_eq_leaf (by decide) (by decide)]
  simp only [leaf, body, Option.map_some, String.ofList_toList]

/-- Without any depth left there are no containers. -/
theorem value_zero_of_bracket : value 0 ('[' :: rest) = none := rfl

theorem value_zero_of_brace : value 0 ('\x7b' :: rest) = none := rfl

theorem value_array {c : Char} {more : List Char} (depth : Nat)
    (start : skipBlank rest = c :: more) (some : c ≠ ']') :
    value (depth + 1) ('[' :: rest) =
      (items (value depth) (c :: more).length (c :: more)).map fun found => (.array found.1, found.2) := by
  rw [value, start]
  split
  · next same => exact absurd (List.cons.inj same).1 some
  · rfl

theorem value_object {c : Char} {more : List Char} (depth : Nat)
    (start : skipBlank rest = c :: more) (some : c ≠ '\x7d') :
    value (depth + 1) ('\x7b' :: rest) =
      (members (value depth) (c :: more).length (c :: more)).map
        fun found => (.object (Keyed.ofList found.1), found.2) := by
  rw [value, start]
  split
  · next same => exact absurd (List.cons.inj same).1 some
  · rfl

/-! ### Items and members -/

variable {element : Reader Json} {limit depth first others : Nat} {json : Json} {found : List Json}
  {entry : String × Json} {entries : List (String × Json)} {behind : List Char}

/-- Something is read if the first part is not nested too deep and what is behind it is not either. -/
theorem map_within {α β : Type} (first others depth : Nat) (f : α → β) (a : α) :
    (if first ≤ depth then (if others ≤ depth then some a else none).map f else none) =
      if max first others ≤ depth then some (f a) else none := by
  by_cases within : first ≤ depth
  · by_cases within' : others ≤ depth
    · rw [if_pos within, if_pos within', if_pos (Nat.max_le.mpr ⟨within, within'⟩), Option.map_some]
    · rw [if_pos within, if_neg within', if_neg (mt (Nat.le_trans (Nat.le_max_right _ _)) within')]
      rfl
  · rw [if_neg within, if_neg (mt (Nat.le_trans (Nat.le_max_left _ _)) within)]

theorem items_last
    (read : element (skipBlank text) = if first ≤ depth then some (json, ']' :: rest) else none) :
    items element (limit + 1) text = if first ≤ depth then some ([json], rest) else none := by
  rw [items, read]
  split <;> rfl

theorem items_cons
    (read : element (skipBlank text) = if first ≤ depth then some (json, ',' :: rest) else none)
    (more : items element limit rest = if others ≤ depth then some (found, behind) else none) :
    items element (limit + 1) text =
      if max first others ≤ depth then some (json :: found, behind) else none := by
  rw [items, read, ← map_within first others depth (fun found => (json :: found.1, found.2)) (found, behind),
    ← more]
  split <;> rfl

theorem members_last
    (read : member element text = if first ≤ depth then some (entry, '\x7d' :: rest) else none) :
    members element (limit + 1) text = if first ≤ depth then some ([entry], rest) else none := by
  rw [members, read]
  split <;> rfl

theorem members_cons
    (read : member element text = if first ≤ depth then some (entry, ',' :: rest) else none)
    (more : members element limit rest = if others ≤ depth then some (entries, behind) else none) :
    members element (limit + 1) text =
      if max first others ≤ depth then some (entry :: entries, behind) else none := by
  rw [members, read,
    ← map_within first others depth (fun found => (entry :: found.1, found.2)) (entries, behind), ← more]
  split <;> rfl

/-- A member is its key and what is read behind the colon. -/
theorem member_quoted (key : String) (text : List Char) :
    member element (quoted key ++ ':' :: text) =
      (element (skipBlank text)).map fun found => ((key, found.1), found.2) := by
  have body := stringBody_quoted key (':' :: text)
  have start : skipBlank (quoted key ++ ':' :: text) =
      '"' :: (key.toList.flatMap quotedChar ++ '"' :: ':' :: text) := by
    rw [quoted, List.cons_append, List.cons_append, List.append_assoc, List.singleton_append,
      skipBlank_cons (by decide)]
  have colon : skipBlank (':' :: text) = ':' :: text := skipBlank_cons (by decide) text
  simp only [member, start, body, colon, Option.bind_eq_bind, Option.bind_some, String.ofList_toList]

end Json

end Reshape
