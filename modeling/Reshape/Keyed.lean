/-
Module: Reshape.Keyed
Layer: Data
Purpose: Finite maps from text keys, kept as lists of entries in ascending key order.
Main exports: Keyed, Keyed.get?, Keyed.insert, Keyed.ofList, Keyed.merge, Keyed.without, Keyed.only,
  Keyed.Ordered
-/

namespace Reshape

/-- A map from text keys to `α`. Keys compare by code point, which is also the order of their UTF-8
    bytes; `Keyed.Ordered` says that the entries ascend and that no key occurs twice. -/
abbrev Keyed (α : Type) : Type :=
  List (String × α)

namespace Keyed

variable {α β : Type}

/-! ### Operations -/

/-- The entry of `key`, if there is one. -/
def get? : Keyed α → String → Option α
  | [], _ => none
  | (found, a) :: rest, key => if found = key then some a else get? rest key

/-- The map with `key` bound to `a`: a new key goes to its place in the order, an old one keeps its
    place. -/
def insert : Keyed α → String → α → Keyed α
  | [], key, a => [(key, a)]
  | (found, b) :: rest, key, a =>
    if key < found then (key, a) :: (found, b) :: rest
    else if found = key then (key, a) :: rest
    else (found, b) :: insert rest key a

/-- The map of `entries`; of two entries with one key the later wins. -/
def ofList (entries : List (String × α)) : Keyed α :=
  entries.foldl (fun map entry => Keyed.insert map entry.1 entry.2) []

/-- `base` with every entry of `extra` written over it. -/
def merge (base extra : Keyed α) : Keyed α :=
  extra.foldl (fun map entry => Keyed.insert map entry.1 entry.2) base

/-- The map without the listed keys. -/
def without (map : Keyed α) (keys : List String) : Keyed α :=
  map.filter fun entry => !keys.contains entry.1

/-- The map restricted to the listed keys. -/
def only (map : Keyed α) (keys : List String) : Keyed α :=
  map.filter fun entry => keys.contains entry.1

/-- The keys in ascending order. -/
def keys (map : Keyed α) : List String :=
  map.map Prod.fst

/-- The map with `f` applied to every entry's value. -/
def mapValues (f : α → β) (map : Keyed α) : Keyed β :=
  map.map fun entry => (entry.1, f entry.2)

/-- The entries ascend by key. -/
def Ordered (map : Keyed α) : Prop :=
  map.Pairwise fun left right => left.1 < right.1

/-! ### Look-up laws -/

@[simp] theorem get?_nil (key : String) : get? ([] : Keyed α) key = none := rfl

theorem get?_cons (found : String) (a : α) (rest : Keyed α) (key : String) :
    get? ((found, a) :: rest) key = if found = key then some a else get? rest key := rfl

theorem mem_of_get? {map : Keyed α} {key : String} {a : α} (found : get? map key = some a) :
    (key, a) ∈ map := by
  induction map with
  | nil => cases found
  | cons entry rest ih =>
      obtain ⟨other, b⟩ := entry
      rw [get?_cons] at found
      split at found
      · next same => cases found; subst same; exact List.mem_cons_self
      · exact List.mem_cons_of_mem _ (ih found)

@[simp] theorem get?_insert_self (map : Keyed α) (key : String) (a : α) :
    get? (insert map key a) key = some a := by
  induction map with
  | nil => simp [insert, get?]
  | cons entry rest ih =>
      obtain ⟨found, b⟩ := entry
      rw [insert]
      split
      · simp [get?]
      · split
        · simp [get?]
        · simp [get?, *]

theorem get?_insert_of_ne (map : Keyed α) {key other : String} (a : α) (h : key ≠ other) :
    get? (insert map key a) other = get? map other := by
  induction map with
  | nil => simp [insert, get?, h]
  | cons entry rest ih =>
      obtain ⟨found, b⟩ := entry
      rw [insert]
      split
      · simp [get?, h]
      · split
        · next hfound => subst hfound; simp [get?, h]
        · simp [get?, ih]

theorem get?_insert (map : Keyed α) (key other : String) (a : α) :
    get? (insert map key a) other = if key = other then some a else get? map other := by
  split
  · next h => subst h; exact get?_insert_self map key a
  · next h => exact get?_insert_of_ne map a h

theorem get?_insert_eq_none_iff {map : Keyed α} {key other : String} {a : α} :
    get? (insert map key a) other = none ↔ key ≠ other ∧ get? map other = none := by
  rw [get?_insert]
  by_cases same : key = other <;> simp [same]

/-- Dropping and keeping keys read as a condition on the key. -/
theorem get?_filter (map : Keyed α) (keep : String → Bool) (key : String) :
    get? (map.filter fun entry => keep entry.1) key = if keep key then get? map key else none := by
  induction map with
  | nil => simp
  | cons entry rest ih =>
      obtain ⟨found, a⟩ := entry
      by_cases hkeep : keep found
      · by_cases hkey : found = key
        · subst hkey; simp [hkeep, get?]
        · simp [hkeep, get?, hkey, ih]
      · by_cases hkey : found = key
        · subst hkey; simp [hkeep, ih]
        · simp [hkeep, get?, hkey, ih]

theorem get?_without (map : Keyed α) (keys : List String) (key : String) :
    get? (without map keys) key = if key ∈ keys then none else get? map key := by
  rw [without, get?_filter map fun found => !keys.contains found]
  by_cases h : key ∈ keys <;> simp [h]

theorem get?_only (map : Keyed α) (keys : List String) (key : String) :
    get? (only map keys) key = if key ∈ keys then get? map key else none := by
  rw [only, get?_filter map fun found => keys.contains found]
  by_cases h : key ∈ keys <;> simp [h]

theorem get?_mapValues (f : α → β) (map : Keyed α) (key : String) :
    get? (mapValues f map) key = (get? map key).map f := by
  induction map with
  | nil => rfl
  | cons entry rest ih =>
      obtain ⟨found, a⟩ := entry
      show (if found = key then some (f a) else get? (mapValues f rest) key) = _
      rw [get?_cons, ih]
      split <;> rfl

/-! ### Order -/

theorem ordered_nil : Ordered ([] : Keyed α) := List.Pairwise.nil

theorem mem_insert {map : Keyed α} {key : String} {a : α} {entry : String × α}
    (h : entry ∈ insert map key a) : entry = (key, a) ∨ entry ∈ map := by
  induction map with
  | nil => simpa [insert] using h
  | cons head rest ih =>
      obtain ⟨found, b⟩ := head
      rw [insert] at h
      split at h
      · simpa using h
      · split at h
        · rcases List.mem_cons.mp h with h | h
          · exact .inl h
          · exact .inr (List.mem_cons_of_mem _ h)
        · rcases List.mem_cons.mp h with h | h
          · exact .inr (h ▸ List.mem_cons_self)
          · rcases ih h with h | h
            · exact .inl h
            · exact .inr (List.mem_cons_of_mem _ h)

theorem Ordered.insert {map : Keyed α} (h : Ordered map) (key : String) (a : α) :
    Ordered (insert map key a) := by
  induction map with
  | nil => simp [Keyed.insert, Ordered]
  | cons head rest ih =>
      obtain ⟨found, b⟩ := head
      have hrest := List.pairwise_cons.mp h
      rw [Keyed.insert]
      split
      · next hlt =>
        refine List.Pairwise.cons ?_ h
        intro entry hentry
        rcases List.mem_cons.mp hentry with rfl | hentry
        · exact hlt
        · exact String.lt_trans hlt (hrest.1 entry hentry)
      · split
        · next hfound => subst hfound; exact List.Pairwise.cons hrest.1 hrest.2
        · next hge hne =>
          refine List.Pairwise.cons ?_ (ih hrest.2)
          intro entry hentry
          rcases mem_insert hentry with rfl | hentry
          · show found < key
            rcases Decidable.em (found < key) with hlt | hnot
            · exact hlt
            · exact absurd (String.le_antisymm (String.not_lt.mp hge) (String.not_lt.mp hnot)) hne
          · exact hrest.1 entry hentry

theorem Ordered.merge {base : Keyed α} (h : Ordered base) (extra : Keyed α) :
    Ordered (merge base extra) := by
  induction extra generalizing base with
  | nil => exact h
  | cons entry rest ih => exact ih (h.insert entry.1 entry.2)

theorem Ordered.without {map : Keyed α} (h : Ordered map) (keys : List String) :
    Ordered (without map keys) :=
  List.Pairwise.filter _ h

theorem Ordered.only {map : Keyed α} (h : Ordered map) (keys : List String) : Ordered (only map keys) :=
  List.Pairwise.filter _ h

theorem Ordered.mapValues {map : Keyed α} (h : Ordered map) (f : α → β) : Ordered (mapValues f map) :=
  List.pairwise_map.mpr h

/-- Below the least key there is no entry. -/
theorem get?_eq_none_of_below {map : Keyed α} {key : String} (below : ∀ entry ∈ map, key < entry.1) :
    get? map key = none := by
  rw [Option.eq_none_iff_forall_ne_some]
  intro a found
  exact String.lt_irrefl key (below _ (mem_of_get? found))

/-- Where the entries that are written over the base ascend, each of them is found. -/
theorem get?_merge {base extra : Keyed α} (h : Ordered extra) (key : String) :
    get? (merge base extra) key = (get? extra key).or (get? base key) := by
  induction extra generalizing base with
  | nil => rfl
  | cons entry rest ih =>
      obtain ⟨found, a⟩ := entry
      obtain ⟨below, hrest⟩ := List.pairwise_cons.mp h
      show get? (merge (insert base found a) rest) key = _
      rw [ih hrest, get?_insert, get?_cons]
      split
      · next same =>
        subst same
        rw [get?_eq_none_of_below below]
        rfl
      · rfl

/-- A key above all others goes to the end. -/
theorem insert_eq_append {map : Keyed α} {key : String} (last : ∀ entry ∈ map, entry.1 < key) (a : α) :
    insert map key a = map ++ [(key, a)] := by
  induction map with
  | nil => rfl
  | cons head rest ih =>
      obtain ⟨found, b⟩ := head
      obtain ⟨below, lastOfRest⟩ := List.forall_mem_cons.mp last
      rw [insert, if_neg (String.lt_asymm below), if_neg (String.ne_of_lt below), ih lastOfRest]
      rfl

/-- Entries that ascend, and start above the base, are written behind it one by one. -/
theorem merge_eq_append {base extra : List (String × α)} (h : Ordered (base ++ extra)) :
    merge base extra = base ++ extra := by
  induction extra generalizing base with
  | nil => exact (List.append_nil base).symm
  | cons entry rest ih =>
      have last : ∀ other ∈ base, other.1 < entry.1 := fun other member =>
        (List.pairwise_append.mp h).2.2 other member entry List.mem_cons_self
      rw [List.append_cons] at h ⊢
      rw [← ih h, ← insert_eq_append last entry.2]
      rfl

/-- Entries that ascend are the map that they make up. -/
theorem Ordered.ofList_eq {map : Keyed α} (h : Ordered map) : ofList map = map :=
  merge_eq_append h

/-- In ascending order no entry hides another one. -/
theorem Ordered.get?_eq_some_iff {map : Keyed α} (h : Ordered map) {key : String} {a : α} :
    get? map key = some a ↔ (key, a) ∈ map := by
  refine ⟨mem_of_get?, fun member => ?_⟩
  induction map with
  | nil => cases member
  | cons head rest ih =>
      obtain ⟨found, b⟩ := head
      obtain ⟨before, hrest⟩ := List.pairwise_cons.mp h
      rw [get?_cons]
      rcases List.mem_cons.mp member with same | inRest
      · cases same
        exact if_pos rfl
      · rw [if_neg (String.ne_of_lt (before _ inRest))]
        exact ih hrest inRest

/-- Dropping and keeping entries, where no entry hides another one. -/
theorem Ordered.get?_filter {map : Keyed α} (h : Ordered map) (keep : String × α → Bool) (key : String) :
    get? (map.filter keep) key = (get? map key).filter fun a => keep (key, a) := by
  have hfilter : Ordered (map.filter keep) := List.Pairwise.filter keep h
  ext a
  rw [hfilter.get?_eq_some_iff, List.mem_filter, Option.filter_eq_some_iff, h.get?_eq_some_iff]

theorem Ordered.nodup_keys {map : Keyed α} (h : Ordered map) : (keys map).Nodup :=
  List.pairwise_map.mpr (h.imp String.ne_of_lt)

theorem mem_keys_iff {map : Keyed α} {key : String} : key ∈ keys map ↔ ∃ a, get? map key = some a := by
  induction map with
  | nil => simp [keys]
  | cons head rest ih =>
      obtain ⟨found, b⟩ := head
      rw [get?_cons, keys, List.map_cons, List.mem_cons]
      by_cases same : found = key
      · simp [same]
      · rw [if_neg same, ← ih]
        exact or_iff_right (Ne.symm same)

/-- In ascending order maps are equal when they look alike. -/
theorem Ordered.ext {left right : Keyed α} (hleft : Ordered left) (hright : Ordered right)
    (same : ∀ key a, get? left key = some a ↔ get? right key = some a) : left = right := by
  have distinct {map : Keyed α} (h : Ordered map) : map.Nodup :=
    h.imp fun before eq => String.ne_of_lt before (congrArg Prod.fst eq)
  have members (entry : String × α) : entry ∈ left ↔ entry ∈ right := by
    rw [← hleft.get?_eq_some_iff, ← hright.get?_eq_some_iff, same]
  have permuted := (List.perm_ext_iff_of_nodup (distinct hleft) (distinct hright)).mpr members
  exact permuted.eq_of_pairwise (fun _ _ _ _ before after => absurd after (String.lt_asymm before))
    hleft hright

end Keyed

end Reshape
