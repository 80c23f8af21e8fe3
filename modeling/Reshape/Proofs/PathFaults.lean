/-
Module: Reshape.Proofs.PathFaults
Layer: Proofs
Purpose: What the fault of a text that is no path says about the text. Scanning stops at the first token that
  cannot be read, names its place in the whole text, and has read everything before it.
Main exports: Path.Token, Path.Strikes, Path.strikes_of_scan, Path.Fault.Tells, Path.Fault.place?,
  Path.undotted, Path.faults_point_at_the_first
-/
import Reshape.Proofs.PathGrammar

namespace Reshape

namespace Path

/-! ### Where scanning stops -/

/-- `Token position text fault`: there should be an item at the front of `text`, which stands at `position`,
    and `fault` is what keeps it from being one. -/
inductive Token : Nat → List Char → Fault → Prop where
  | unclosed {position : Nat} {rest : List Char} (unended : ']' ∉ rest) :
      Token position ('[' :: rest) (.unclosedBracket position)
  | misplaced (position : Nat) (rest : List Char) :
      Token position ('[' :: ']' :: rest) (.misplacedMarker position)
  | invalid {position : Nat} {inner rest : List Char} (some : inner ≠ []) (inside : ']' ∉ inner)
      (noNumeral : ∀ n, ¬ Numeral inner n) :
      Token position ('[' :: (inner ++ ']' :: rest)) (.invalidIndex (position + 1) (String.ofList inner))
  | unexpected {position : Nat} {c : Char} {rest : List Char} (stray : c = ']' ∨ Text.isBlank c = true) :
      Token position (c :: rest) (.unexpectedChar c position)

/-- `Strikes position text fault`: the same at the front of what is left behind an item, where a dot may stand
    first. -/
inductive Strikes : Nat → List Char → Fault → Prop where
  | emptyKey {position : Nat} {rest : List Char} (stray : rest.head? = none ∨ rest.head? = some '.') :
      Strikes position ('.' :: rest) (.emptyKey (position + 1))
  | dotted {position : Nat} {text : List Char} {fault : Fault} (token : Token (position + 1) text fault) :
      Strikes position ('.' :: text) fault
  | adjoined {position : Nat} {text : List Char} {fault : Fault} (token : Token position text fault) :
      Strikes position text fault

/-- A character that neither opens an item nor stands between two. -/
theorem stray_of_not_keyChar {c : Char} (noKey : ¬ KeyChar c) (noDot : c ≠ '.') (noBracket : c ≠ '[') :
    c = ']' ∨ Text.isBlank c = true := by
  by_contra neither
  rw [not_or, Bool.not_eq_true] at neither
  exact noKey ⟨noDot, noBracket, neither.1, neither.2⟩

/-- If an item cannot be scanned, then because of itself or because of something behind it. -/
theorem token_of_scanItem {position : Nat} {c : Char} {rest : List Char} {fault : Fault} (noDot : c ≠ '.')
    (failed : scanItem position c rest = .error fault) :
    Token position (c :: rest) fault ∨
      ∃ item left segment, c :: rest = item ++ left ∧ Item item left segment ∧
        scan (position + item.length) left = .error fault := by
  by_cases bracket : c = '['
  · subst bracket
    by_cases closed : ']' ∈ rest
    · obtain ⟨inner, left, rfl, inside⟩ := List.eq_append_cons_of_mem closed
      rw [scanItem_bracket inside] at failed
      split at failed
      · rename_i empty
        cases failed
        subst empty
        exact .inl (.misplaced position left)
      · rename_i some
        split at failed
        · rename_i unread
          cases failed
          refine .inl (.invalid some inside fun n numeral => ?_)
          rw [index?_eq_some_iff.mpr numeral] at unread
          cases unread
        · rename_i n read
          refine .inr ⟨'[' :: inner ++ [']'], left, .index n, by simp,
            .index (index?_eq_some_iff.mp read), ?_⟩
          rw [List.length_append]
          exact map_eq_error_iff.mp failed
    · rw [scanItem, if_pos rfl, if_pos closed] at failed
      cases failed
      exact .inl (.unclosed closed)
  · by_cases char : isKeyChar c = true
    · obtain ⟨more, left, rfl, run, longest⟩ := exists_run rest
      have chars : ∀ d ∈ c :: more, KeyChar d :=
        List.forall_mem_cons.mpr ⟨isKeyChar_iff.mp char, run⟩
      rw [scanItem_key chars longest] at failed
      exact .inr ⟨c :: more, left, _, rfl, .key (List.cons_ne_nil _ _) chars longest,
        map_eq_error_iff.mp failed⟩
    · rw [scanItem, if_neg bracket, if_neg char] at failed
      cases failed
      exact .inl (.unexpected (stray_of_not_keyChar (mt isKeyChar_iff.mpr char) noDot bracket))

/-- An item is one also where less stands behind it. -/
theorem Item.cut {text rest left : List Char} {segment : Segment} (item : Item text (rest ++ left) segment) :
    Item text rest segment := by
  cases item with
  | key some chars longest =>
      refine .key some chars fun c first => longest c ?_
      cases rest with
      | nil => cases first
      | cons d rest => exact first
  | index numeral => exact .index numeral

/-- Where scanning fails, it has read items up to the fault. -/
theorem strikes_of_scan {position : Nat} {text : List Char} {fault : Fault}
    (failed : scan position text = .error fault) :
    ∃ good left segments, text = good ++ left ∧ Items good segments ∧
      Strikes (position + good.length) left fault := by
  -- Each item leaves less to be scanned.
  induction size : text.length using Nat.strong_induction_on generalizing position text with
  | _ n ih =>
  have behind {position : Nat} {c : Char} {rest : List Char} (noDot : c ≠ '.')
      (shorter : (c :: rest).length ≤ n) (failed : scanItem position c rest = .error fault) :
      Token position (c :: rest) fault ∨
        ∃ item good left segment segments, c :: rest = item ++ (good ++ left) ∧ Item item good segment ∧
          Items good segments ∧ Strikes (position + (item ++ good).length) left fault := by
    refine (token_of_scanItem noDot failed).imp_right ?_
    rintro ⟨item, rest', segment, whole, read, failed⟩
    have consumed : 0 < item.length := List.length_pos_iff.mpr read.ne_nil
    have total : (c :: rest).length = item.length + rest'.length := by rw [whole, List.length_append]
    obtain ⟨good, left, segments, rfl, items, strikes⟩ := ih rest'.length (by omega) failed rfl
    refine ⟨item, good, left, segment, segments, whole, read.cut, items, ?_⟩
    rwa [List.length_append, ← Nat.add_assoc]
  cases text with
  | nil =>
      rw [scan_nil] at failed
      cases failed
  | cons c rest =>
      by_cases dot : c = '.'
      · subst dot
        by_cases stray : rest.head? = none ∨ rest.head? = some '.'
        · rw [scan_stray stray] at failed
          cases failed
          exact ⟨[], _, [], rfl, .nil, .emptyKey stray⟩
        · cases rest with
          | nil => exact absurd (.inl rfl) stray
          | cons d rest =>
              have noDot : d ≠ '.' := fun same => stray (.inr (congrArg some same))
              rw [scan_dotted noDot] at failed
              rcases behind noDot (size ▸ Nat.le_succ _) failed with
                token | ⟨item, good, left, segment, segments, whole, read, items, strikes⟩
              · exact ⟨[], _, [], rfl, .nil, .dotted token⟩
              · refine ⟨'.' :: (item ++ good), left, segment :: segments, ?_, .dotted read items, ?_⟩
                · rw [whole, List.cons_append, List.append_assoc]
                · rwa [List.length_cons, Nat.add_comm _ 1, ← Nat.add_assoc]
      · rw [scan_adjoined dot] at failed
        rcases behind dot size.le failed with
          token | ⟨item, good, left, segment, segments, whole, read, items, strikes⟩
        · exact ⟨[], _, [], rfl, .nil, .adjoined token⟩
        · refine ⟨item ++ good, left, segment :: segments, ?_, .adjoined read items, strikes⟩
          rw [whole, List.append_assoc]

theorem strikes_of_scanBody {offset : Nat} {body : List Char} {fault : Fault}
    (failed : scanBody offset body = .error fault) :
    ∃ good left segments, body = good ++ left ∧ Body good segments ∧
      Strikes (offset + good.length) left fault := by
  unfold scanBody at failed
  split at failed
  · obtain ⟨good, left, segments, rfl, items, strikes⟩ := strikes_of_scan failed
    refine ⟨'.' :: good, left, segments, rfl, .dotted items, ?_⟩
    rwa [List.length_cons, Nat.add_comm _ 1, ← Nat.add_assoc]
  · obtain ⟨good, left, segments, rfl, items, strikes⟩ := strikes_of_scan failed
    exact ⟨good, left, segments, rfl, .plain items, strikes⟩

/-! ### What faults say -/

/-- The mark of a root in front of a path. -/
def Root.mark : Root → List Char
  | .value => []
  | .accumulator => ['.', '.']

theorem Opens.whole {text rest : List Char} {root : Root} (opens : Opens text rest root) :
    text = root.mark ++ rest := by
  cases opens with
  | accumulator => rfl
  | value unmarked => rfl

/-- What a fault says about a text whose body starts at `start`. Positions count the characters of the whole
    text. -/
def Fault.Tells (text : List Char) (start : Nat) (body : List Char) : Fault → Prop
  | .unexpectedChar c position =>
    text[position]? = some c ∧ (c = ']' ∨ Text.isBlank c = true)
  | .emptyKey position =>
    (∃ before, position = before + 1 ∧ text[before]? = some '.') ∧
      (position = start + body.length ∨ text[position]? = some '.')
  | .unclosedBracket position =>
    text[position]? = some '[' ∧ ']' ∉ body.drop (position - start)
  | .invalidIndex position token =>
    token.toList ≠ [] ∧ ']' ∉ token.toList ∧
      (∃ before, position = before + 1 ∧ '[' :: token.toList ++ [']'] <+: text.drop before) ∧
      ∀ n, ¬ Numeral token.toList n
  | .misplacedMarker position =>
    text[position]? = some '[' ∧ text[position + 1]? = some ']' ∧ position + 2 ≤ start + body.length
  | .tooLong count =>
    ∃ segments, Body body segments ∧ segments.length = count ∧ maxSegments < count

/-- Where the token stands that a fault is about; the fault of a text that is too long is about no token. -/
def Fault.place? : Fault → Option Nat
  | .unexpectedChar _ position => some position
  | .emptyKey position => some position
  | .unclosedBracket position => some position
  | .invalidIndex position _ => some (position - 1)
  | .misplacedMarker position => some position
  | .tooLong _ => none

/-- The text without a dot at its end. -/
def undotted (text : List Char) : List Char :=
  if text.getLast? = some '.' then text.dropLast else text

variable {front good lead body rest text : List Char} {fault : Fault} {segments : List Segment}

theorem getElem?_at {position : Nat} (here : position = front.length) :
    (front ++ text)[position]? = text[0]? := by
  rw [here, List.getElem?_append_right (Nat.le_refl _), Nat.sub_self]

/-- The fault of a token says what it should where the token stands in a body. -/
theorem Token.tells {position : Nat} (token : Token position text fault)
    (here : position = (front ++ lead).length) (back : List Char) :
    fault.Tells (front ++ (lead ++ text) ++ back) front.length (lead ++ text) ∧
      fault.place? = some position := by
  have split : front ++ (lead ++ text) ++ back = (front ++ lead) ++ (text ++ back) := by
    simp only [List.append_assoc]
  rw [split]
  cases token with
  | @unclosed rest unended =>
      refine ⟨⟨getElem?_at here, ?_⟩, rfl⟩
      have behind : (lead ++ '[' :: rest).drop (position - front.length) = '[' :: rest := by
        rw [here, List.length_append, Nat.add_sub_cancel_left, List.drop_left]
      rw [behind]
      exact List.not_mem_cons_of_ne_of_not_mem (by decide) unended
  | misplaced rest =>
      refine ⟨⟨getElem?_at here, ?_, ?_⟩, rfl⟩
      · rw [here, List.getElem?_append_right (Nat.le_add_right _ 1), Nat.add_sub_cancel_left]
        rfl
      · simp only [here, List.length_append, List.length_cons]
        omega
  | @invalid inner rest some inside noNumeral =>
      have behind : ((front ++ lead) ++ ('[' :: (inner ++ ']' :: rest) ++ back)).drop position =
          '[' :: (inner ++ ']' :: rest) ++ back := by
        rw [here, List.drop_left]
      simp only [Fault.Tells, Fault.place?, String.toList_ofList]
      refine ⟨⟨some, inside, ⟨position, rfl, ?_⟩, noNumeral⟩, rfl⟩
      rw [behind]
      exact ⟨rest ++ back, by simp⟩
  | unexpected stray => exact ⟨⟨getElem?_at here, stray⟩, rfl⟩

/-! ### What has been read before a fault -/

/-- Items do not end with a dot. -/
theorem Items.last_ne_dot (items : Items text segments) : text.getLast? ≠ some '.' := by
  have itemEnds {item rest : List Char} {segment : Segment} (read : Item item rest segment) :
      item.getLast? ≠ some '.' := by
    intro last
    cases read with
    | key some chars => exact (chars '.' (List.mem_of_getLast? last)).1 rfl
    | index numeral =>
        rw [List.getLast?_concat] at last
        cases last
  have rowEnds {item rest : List Char} {segment : Segment} (read : Item item rest segment)
      (ends : rest.getLast? ≠ some '.') : (item ++ rest).getLast? ≠ some '.' := by
    rw [List.getLast?_append]
    cases last : rest.getLast? with
    | none => exact itemEnds read
    | some c => rwa [last] at ends
  induction items with
  | nil => nofun
  | adjoined read _ ih => exact rowEnds read ih
  | @dotted item rest segment segments read _ ih =>
      rw [List.getLast?_cons_of_ne_nil]
      · exact rowEnds read ih
      · exact List.append_ne_nil_of_left_ne_nil read.ne_nil _

theorem undotted_concat (text : List Char) : undotted (text ++ ['.']) = text := by
  rw [undotted, List.getLast?_concat, if_pos rfl, List.dropLast_concat]

/-- A body is one also without a dot at its end. -/
theorem Body.undotted (read : Body text segments) : ∃ others, Body (Path.undotted text) others := by
  cases read with
  | plain items =>
      rw [Path.undotted, if_neg items.last_ne_dot]
      exact ⟨segments, .plain items⟩
  | @dotted text _ items =>
      cases text with
      | nil => exact ⟨[], .plain .nil⟩
      | cons c rest =>
          have ends : ('.' :: c :: rest).getLast? ≠ some '.' := by
            rw [List.getLast?_cons_of_ne_nil (List.cons_ne_nil c rest)]
            exact items.last_ne_dot
          rw [Path.undotted, if_neg ends]
          exact ⟨segments, .dotted items⟩

/-- What a fault at the front of `rest` says, and what has been read before it. -/
theorem Strikes.tells (read : Body good segments)
    (strikes : Strikes (front.length + good.length) rest fault) (back : List Char) :
    fault.Tells (front ++ (good ++ rest) ++ back) front.length (good ++ rest) ∧
      ∃ place, fault.place? = some place ∧ front.length ≤ place ∧
        place ≤ front.length + (good ++ rest).length ∧
        ∃ others, Body (undotted ((good ++ rest).take (place - front.length))) others := by
  -- `lead` is `good`, or `good` and the dot that separates the token from it.
  have placed {lead text : List Char} (whole : good ++ rest = lead ++ text)
      (before : ∃ others, Body (undotted lead) others) :
      front.length ≤ (front ++ lead).length ∧
        (front ++ lead).length ≤ front.length + (good ++ rest).length ∧
        ∃ others, Body (undotted ((good ++ rest).take ((front ++ lead).length - front.length))) others := by
    rw [whole]
    simp only [List.length_append, Nat.add_sub_cancel_left, List.take_left]
    exact ⟨by omega, by omega, before⟩
  have afterDot : ∃ others, Body (undotted (good ++ ['.'])) others := by
    rw [undotted_concat]
    exact ⟨segments, read⟩
  generalize at_eq : front.length + good.length = position at strikes
  cases strikes with
  | @emptyKey rest stray =>
      have whole : good ++ '.' :: rest = good ++ ['.'] ++ rest := by simp
      have here : position + 1 = (front ++ (good ++ ['.'])).length := by simp [← at_eq, Nat.add_assoc]
      refine ⟨⟨⟨position, rfl, ?_⟩, ?_⟩, position + 1, rfl, here ▸ placed whole afterDot⟩
      · have split : front ++ (good ++ '.' :: rest) ++ back = (front ++ good) ++ ('.' :: rest ++ back) := by
          simp
        rw [split, getElem?_at (by rw [List.length_append, at_eq])]
        rfl
      · cases rest with
        | nil =>
            left
            rw [here, whole]
            simp
        | cons c rest =>
            right
            have split : front ++ (good ++ '.' :: c :: rest) ++ back =
                (front ++ (good ++ ['.'])) ++ (c :: rest ++ back) := by simp
            rw [split, getElem?_at here]
            exact stray.resolve_left nofun
  | @dotted text fault token =>
      have whole : good ++ '.' :: text = good ++ ['.'] ++ text := by simp
      have here : position + 1 = (front ++ (good ++ ['.'])).length := by simp [← at_eq, Nat.add_assoc]
      obtain ⟨tells, place⟩ := token.tells here back
      rw [← whole] at tells
      exact ⟨tells, _, place, here ▸ placed whole afterDot⟩
  | adjoined token =>
      have here : position = (front ++ good).length := by rw [List.length_append, at_eq]
      obtain ⟨tells, place⟩ := token.tells here back
      exact ⟨tells, _, place, here ▸ placed rfl read.undotted⟩

theorem offset_of_splitRoot {root : Root} {offset : Nat} (opened : splitRoot text = (root, offset, rest)) :
    offset = root.mark.length := by
  unfold splitRoot at opened
  split at opened
  all_goals
    cases opened
    rfl

theorem parse_of_fault {raw : String} {root : Root} {offset : Nat} {body : List Char} {isCollection : Bool}
    (opened : splitRoot raw.toList = (root, offset, rest)) (closed : Text.splitMark rest = (body, isCollection))
    (failed : scanBody offset body = .error fault) : parse raw = .error fault := by
  rw [parse, opened]
  dsimp only
  rw [closed]
  dsimp only
  rw [failed]

/-- A text that is no path is rejected for its first fault. The fault says where it is and what is wrong
    there, in the characters of the whole text. Before the token it is about, apart from the dot that separates
    it from the rest, there stands a body without faults. Only a body that is too long is read to its end. -/
theorem faults_point_at_the_first {raw : String} (rejected : parse raw = .error fault) :
    ∃ root rest body isCollection, Opens raw.toList rest root ∧ Text.Closes rest body isCollection ∧
      raw.toList = root.mark ++ body ++ Text.mark isCollection ∧
      fault.Tells raw.toList root.mark.length body ∧
      ∀ place ∈ fault.place?, root.mark.length ≤ place ∧ place ≤ root.mark.length + body.length ∧
        ∃ segments, Body (undotted (body.take (place - root.mark.length))) segments := by
  obtain ⟨⟨root, offset, rest⟩, opened⟩ : ∃ parts, splitRoot raw.toList = parts := ⟨_, rfl⟩
  obtain ⟨⟨body, isCollection⟩, closed⟩ : ∃ parts, Text.splitMark rest = parts := ⟨_, rfl⟩
  have opens : Opens raw.toList rest root := opens_iff.mpr ⟨offset, opened⟩
  have closes : Text.Closes rest body isCollection := Text.closes_iff.mpr closed
  have whole : raw.toList = root.mark ++ body ++ Text.mark isCollection := by
    rw [List.append_assoc, ← closes.whole, ← opens.whole]
  refine ⟨root, rest, body, isCollection, opens, closes, whole, ?_⟩
  rw [parse, opened] at rejected
  dsimp only at rejected
  rw [closed, offset_of_splitRoot opened] at rejected
  dsimp only at rejected
  split at rejected
  · rename_i failed
    cases rejected
    obtain ⟨good, left, segments, rfl, read, strikes⟩ := strikes_of_scanBody failed
    obtain ⟨tells, place, placed, clean⟩ := strikes.tells read (Text.mark isCollection)
    rw [← whole] at tells
    refine ⟨tells, fun other here => ?_⟩
    obtain rfl : place = other := Option.some.inj (placed.symm.trans here)
    exact clean
  · rename_i segments scanned
    split at rejected
    · cases rejected
    · rename_i long
      cases rejected
      refine ⟨⟨segments, scanBody_eq_ok_iff.mp scanned, rfl, Nat.lt_of_not_le long⟩, fun place here => ?_⟩
      cases here

/-- The index is no number; the empty key behind it does not matter. -/
theorem faults_point_at_the_first_sample :
    ∃ root rest body isCollection, Opens "..é[-1]..b[]".toList rest root ∧
      Text.Closes rest body isCollection ∧
      "..é[-1]..b[]".toList = root.mark ++ body ++ Text.mark isCollection ∧
      (Fault.invalidIndex 4 "-1").Tells "..é[-1]..b[]".toList root.mark.length body ∧
      ∀ place ∈ (Fault.invalidIndex 4 "-1").place?,
        root.mark.length ≤ place ∧ place ≤ root.mark.length + body.length ∧
          ∃ segments, Body (undotted (body.take (place - root.mark.length))) segments := by
  have index : scanItem 3 '[' (['-', '1'] ++ ']' :: ['.', '.', 'b']) = .error (.invalidIndex 4 "-1") := by
    rw [scanItem_bracket (by decide)]
    rfl
  have key : scanItem 2 'é' ([] ++ ['[', '-', '1', ']', '.', '.', 'b']) = .error (.invalidIndex 4 "-1") := by
    have char : ∀ d ∈ ['é'], KeyChar d := List.forall_mem_singleton.mpr (isKeyChar_iff.mp rfl)
    have longest : ∀ d ∈ ['[', '-', '1', ']', '.', '.', 'b'].head?, ¬ KeyChar d := by
      intro d first
      cases first
      exact fun key => key.2.1 rfl
    rw [scanItem_key char longest, scan_adjoined (by decide)]
    exact map_eq_error_iff.mpr index
  have scanned : scanBody 2 ['é', '[', '-', '1', ']', '.', '.', 'b'] = .error (.invalidIndex 4 "-1") :=
    (scan_adjoined (by decide)).trans key
  exact faults_point_at_the_first (parse_of_fault rfl rfl scanned)

end Path

end Reshape
