/-!
# Maps in ascending key order

A finite map is the list of its entries with strictly ascending keys, so reading a map
out in order is reading its list, and two maps with the same look-ups are the same list.
Insertion keeps the order and replaces the value of a key that is already there.
-/

namespace RouteTree

/-- Put a value under a key of an ascending list of entries, replacing the one it
had. -/
def insertEntry {κ ν : Type} [LT κ] [DecidableEq κ] [DecidableLT κ] (key : κ) (value : ν) :
    List (κ × ν) → List (κ × ν)
  | [] => [(key, value)]
  | (k, v) :: rest =>
    if key = k then (key, value) :: rest
    else if key < k then (key, value) :: (k, v) :: rest
    else (k, v) :: insertEntry key value rest

/-- The value that the first entry of a key holds. -/
def lookupEntry {κ ν : Type} [DecidableEq κ] (key : κ) : List (κ × ν) → Option ν
  | [] => none
  | (k, v) :: rest => if key = k then some v else lookupEntry key rest

/-- Drop every entry of a key. -/
def eraseEntry {κ ν : Type} [DecidableEq κ] (key : κ) (entries : List (κ × ν)) : List (κ × ν) :=
  entries.filter fun entry => entry.1 ≠ key

/-- Keys ascend strictly from left to right. -/
def Ascending {κ ν : Type} [LT κ] (entries : List (κ × ν)) : Prop :=
  entries.Pairwise fun a b => a.1 < b.1

section Order

variable {κ ν : Type} [LE κ] [LT κ] [DecidableEq κ] [DecidableLT κ] [Std.IsLinearOrder κ]
  [Std.LawfulOrderLT κ]

omit [DecidableEq κ] [DecidableLT κ] in
theorem lt_of_not_eq_of_not_lt {a b : κ} (hne : a ≠ b) (hlt : ¬ a < b) : b < a := by
  rcases Std.lt_trichotomy a b with h | h | h
  · exact absurd h hlt
  · exact absurd h hne
  · exact h

omit [LE κ] [Std.IsLinearOrder κ] [Std.LawfulOrderLT κ] in
theorem eq_or_mem_of_mem_insertEntry {key : κ} {value : ν} {entries : List (κ × ν)} {e : κ × ν}
    (h : e ∈ insertEntry key value entries) : e = (key, value) ∨ e ∈ entries := by
  induction entries with
  | nil => simp only [insertEntry, List.mem_singleton] at h; exact Or.inl h
  | cons head rest ih =>
    obtain ⟨k, v⟩ := head
    simp only [insertEntry] at h
    split at h
    · rcases List.mem_cons.1 h with h | h
      · exact Or.inl h
      · exact Or.inr (List.mem_cons_of_mem _ h)
    · split at h
      · rcases List.mem_cons.1 h with h | h
        · exact Or.inl h
        · exact Or.inr h
      · rcases List.mem_cons.1 h with h | h
        · exact Or.inr (h ▸ List.mem_cons_self)
        · rcases ih h with h | h
          · exact Or.inl h
          · exact Or.inr (List.mem_cons_of_mem _ h)

theorem ascending_insertEntry (key : κ) (value : ν) {entries : List (κ × ν)}
    (h : Ascending entries) : Ascending (insertEntry key value entries) := by
  induction entries with
  | nil => exact List.pairwise_singleton _ _
  | cons head rest ih =>
    obtain ⟨k, v⟩ := head
    have hhead := (List.pairwise_cons.1 h).1
    have hrest := (List.pairwise_cons.1 h).2
    simp only [insertEntry]
    split
    · next heq =>
      subst heq
      exact List.pairwise_cons.2 ⟨hhead, hrest⟩
    · next hne =>
      split
      · next hlt =>
        refine List.pairwise_cons.2 ⟨fun e he => ?_, h⟩
        rcases List.mem_cons.1 he with he | he
        · exact he ▸ hlt
        · exact Std.lt_trans hlt (hhead e he)
      · next hlt =>
        refine List.pairwise_cons.2 ⟨fun e he => ?_, ih hrest⟩
        rcases eq_or_mem_of_mem_insertEntry he with he | he
        · exact he ▸ lt_of_not_eq_of_not_lt hne hlt
        · exact hhead e he

omit [LE κ] [Std.IsLinearOrder κ] [Std.LawfulOrderLT κ] in
@[simp]
theorem lookupEntry_insertEntry_self (key : κ) (value : ν) (entries : List (κ × ν)) :
    lookupEntry key (insertEntry key value entries) = some value := by
  induction entries with
  | nil => simp [insertEntry, lookupEntry]
  | cons head rest ih =>
    obtain ⟨k, v⟩ := head
    simp only [insertEntry]
    split
    · simp [lookupEntry]
    · next hne =>
      split
      · simp [lookupEntry]
      · simpa [lookupEntry, hne] using ih

omit [LE κ] [Std.IsLinearOrder κ] [Std.LawfulOrderLT κ] in
theorem lookupEntry_insertEntry_of_ne {key other : κ} (value : ν) (entries : List (κ × ν))
    (h : other ≠ key) :
    lookupEntry other (insertEntry key value entries) = lookupEntry other entries := by
  induction entries with
  | nil => simp [insertEntry, lookupEntry, h]
  | cons head rest ih =>
    obtain ⟨k, v⟩ := head
    simp only [insertEntry]
    split
    · next heq => simp [lookupEntry, h, ← heq]
    · split
      · simp [lookupEntry, h]
      · simp only [lookupEntry]
        split
        · rfl
        · exact ih

omit [DecidableLT κ] [Std.IsLinearOrder κ] in
/-- A key below all keys of a list has no value there. -/
theorem lookupEntry_eq_none_of_forall_lt {key : κ} {entries : List (κ × ν)}
    (h : ∀ e ∈ entries, key < e.1) : lookupEntry key entries = none := by
  induction entries with
  | nil => rfl
  | cons head rest ih =>
    obtain ⟨k, v⟩ := head
    obtain ⟨hhead, hrest⟩ := List.forall_mem_cons.1 h
    have hne : key ≠ k := by
      rintro rfl
      exact Std.lt_irrefl hhead
    rw [lookupEntry, if_neg hne, ih hrest]

omit [DecidableLT κ] [Std.IsLinearOrder κ] in
theorem lookupEntry_eq_some_iff {key : κ} {value : ν} {entries : List (κ × ν)}
    (h : Ascending entries) : lookupEntry key entries = some value ↔ (key, value) ∈ entries := by
  induction entries with
  | nil => simp [lookupEntry]
  | cons head rest ih =>
    obtain ⟨k, v⟩ := head
    obtain ⟨hhead, hrest⟩ := List.pairwise_cons.1 h
    rw [lookupEntry, List.mem_cons, Prod.mk.injEq]
    by_cases hk : key = k
    · subst hk
      have hnot : (key, value) ∉ rest := fun hmem => Std.lt_irrefl (hhead (key, value) hmem)
      simp [hnot, eq_comm]
    · simp [hk, ih hrest]

omit [LE κ] [LT κ] [DecidableLT κ] [Std.IsLinearOrder κ] [Std.LawfulOrderLT κ] in
theorem lookupEntry_eraseEntry (key other : κ) (entries : List (κ × ν)) :
    lookupEntry other (eraseEntry key entries) =
      if other = key then none else lookupEntry other entries := by
  have hcons (e : κ × ν) (rest : List (κ × ν)) : eraseEntry key (e :: rest) =
      if e.1 = key then eraseEntry key rest else e :: eraseEntry key rest := by
    simp [eraseEntry, List.filter_cons]
  induction entries with
  | nil => simp [eraseEntry, lookupEntry]
  | cons head rest ih =>
    obtain ⟨k, v⟩ := head
    rw [hcons]
    by_cases hk : k = key
    · subst hk
      rw [if_pos rfl, ih, lookupEntry]
      by_cases hother : other = k
      · rw [if_pos hother, if_pos hother]
      · rw [if_neg hother, if_neg hother, if_neg hother]
    · rw [if_neg hk, lookupEntry, lookupEntry, ih]
      by_cases hother : other = k
      · subst hother
        rw [if_pos rfl, if_pos rfl, if_neg hk]
      · rw [if_neg hother, if_neg hother]

/-- An entry whose key is above all keys of a list goes to its end. -/
theorem insertEntry_of_forall_lt {key : κ} (value : ν) {entries : List (κ × ν)}
    (h : ∀ e ∈ entries, e.1 < key) : insertEntry key value entries = entries ++ [(key, value)] := by
  induction entries with
  | nil => rfl
  | cons head rest ih =>
    obtain ⟨k, v⟩ := head
    obtain ⟨hhead, hrest⟩ := List.forall_mem_cons.1 h
    have hne : key ≠ k := by
      rintro rfl
      exact Std.lt_irrefl hhead
    have hnot : ¬ key < k := fun hlt => Std.lt_irrefl (Std.lt_trans hlt hhead)
    rw [insertEntry, if_neg hne, if_neg hnot, ih hrest, List.cons_append]

/-- Inserting the entries of an ascending list from left to right gives that list. -/
theorem foldl_insertEntry_of_ascending {before entries : List (κ × ν)}
    (h : Ascending (before ++ entries)) :
    entries.foldl (fun acc e => insertEntry e.1 e.2 acc) before = before ++ entries := by
  induction entries generalizing before with
  | nil => rw [List.foldl_nil, List.append_nil]
  | cons e rest ih =>
    have hbelow : ∀ b ∈ before, b.1 < e.1 := fun b hb =>
      (List.pairwise_append.1 h).2.2 b hb e List.mem_cons_self
    rw [List.append_cons] at h
    rw [List.foldl_cons, insertEntry_of_forall_lt e.2 hbelow, ih h, ← List.append_cons]

end Order

/-- A finite map whose entries are kept in ascending key order. -/
structure SortedMap (κ ν : Type) [LT κ] where
  entries : List (κ × ν)
  ascending : Ascending entries

namespace SortedMap

variable {κ ν : Type} [LE κ] [LT κ] [DecidableEq κ] [DecidableLT κ] [Std.IsLinearOrder κ]
  [Std.LawfulOrderLT κ]

/-- The map without entries. -/
def empty {κ ν : Type} [LT κ] : SortedMap κ ν := ⟨[], List.Pairwise.nil⟩

instance {κ ν : Type} [LT κ] : Inhabited (SortedMap κ ν) := ⟨empty⟩

/-- Set the value of a key. -/
def insert (m : SortedMap κ ν) (key : κ) (value : ν) : SortedMap κ ν :=
  ⟨insertEntry key value m.entries, ascending_insertEntry key value m.ascending⟩

/-- The value of a key, if it has one. -/
def get? {κ ν : Type} [LT κ] [DecidableEq κ] (m : SortedMap κ ν) (key : κ) : Option ν :=
  lookupEntry key m.entries

/-- Remove a key. -/
def erase {κ ν : Type} [LT κ] [DecidableEq κ] (m : SortedMap κ ν) (key : κ) : SortedMap κ ν :=
  ⟨eraseEntry key m.entries, List.Pairwise.filter _ m.ascending⟩

/-- Insert pairs from left to right: of two values of one key the later stays. -/
def insertAll (m : SortedMap κ ν) (pairs : List (κ × ν)) : SortedMap κ ν :=
  pairs.foldl (fun acc pair => acc.insert pair.1 pair.2) m

/-- The map of a list of pairs. -/
def ofList (pairs : List (κ × ν)) : SortedMap κ ν := empty.insertAll pairs

/-- Add every entry of `other`, whose values win over those already there. -/
def merge (m other : SortedMap κ ν) : SortedMap κ ν := m.insertAll other.entries

/-- Values in ascending key order. -/
def values {κ ν : Type} [LT κ] (m : SortedMap κ ν) : List ν := m.entries.map Prod.snd

@[simp]
theorem get?_insert_self (m : SortedMap κ ν) (key : κ) (value : ν) :
    (m.insert key value).get? key = some value :=
  lookupEntry_insertEntry_self key value m.entries

theorem get?_insert_of_ne (m : SortedMap κ ν) {key other : κ} (value : ν) (h : other ≠ key) :
    (m.insert key value).get? other = m.get? other :=
  lookupEntry_insertEntry_of_ne value m.entries h

@[simp]
theorem get?_empty {κ ν : Type} [LT κ] [DecidableEq κ] (key : κ) :
    (empty : SortedMap κ ν).get? key = none :=
  rfl

omit [LE κ] [DecidableLT κ] [Std.IsLinearOrder κ] [Std.LawfulOrderLT κ] in
theorem get?_erase (m : SortedMap κ ν) (key other : κ) :
    (m.erase key).get? other = if other = key then none else m.get? other :=
  lookupEntry_eraseEntry key other m.entries

omit [DecidableLT κ] [Std.IsLinearOrder κ] in
theorem get?_eq_some_iff {m : SortedMap κ ν} {key : κ} {value : ν} :
    m.get? key = some value ↔ (key, value) ∈ m.entries :=
  lookupEntry_eq_some_iff m.ascending

/-- Of an ascending list of entries, the value of a key wins over the one it had. -/
theorem get?_insertAll_of_ascending (m : SortedMap κ ν) {pairs : List (κ × ν)}
    (h : Ascending pairs) (key : κ) :
    (m.insertAll pairs).get? key = (lookupEntry key pairs).or (m.get? key) := by
  induction pairs generalizing m with
  | nil => rfl
  | cons pair rest ih =>
    obtain ⟨k, v⟩ := pair
    obtain ⟨hhead, hrest⟩ := List.pairwise_cons.1 h
    have hcons : m.insertAll ((k, v) :: rest) = (m.insert k v).insertAll rest := rfl
    rw [hcons, ih (m.insert k v) hrest, lookupEntry]
    by_cases hk : key = k
    · subst hk
      have hnone : lookupEntry key rest = none := lookupEntry_eq_none_of_forall_lt hhead
      simp [hnone]
    · rw [get?_insert_of_ne m v hk, if_neg hk]

/-- If no key comes twice, every pair is there afterwards, and what was under other
keys. -/
theorem get?_insertAll_eq_some_iff (m : SortedMap κ ν) {pairs : List (κ × ν)}
    (h : (pairs.map Prod.fst).Nodup) {key : κ} {value : ν} :
    (m.insertAll pairs).get? key = some value ↔
      (key, value) ∈ pairs ∨ key ∉ pairs.map Prod.fst ∧ m.get? key = some value := by
  induction pairs generalizing m with
  | nil => simp [insertAll]
  | cons pair rest ih =>
    obtain ⟨k, v⟩ := pair
    rw [List.map_cons, List.nodup_cons] at h
    obtain ⟨hk, hrest⟩ := h
    have hcons : m.insertAll ((k, v) :: rest) = (m.insert k v).insertAll rest := rfl
    rw [hcons, ih (m.insert k v) hrest]
    by_cases heq : key = k
    · subst heq
      have hnot : (key, value) ∉ rest := fun hmem => hk (List.mem_map.mpr ⟨_, hmem, rfl⟩)
      simp [hk, hnot, eq_comm]
    · rw [get?_insert_of_ne m v heq]
      simp [heq]

theorem get?_ofList_eq_some_iff {pairs : List (κ × ν)} (h : (pairs.map Prod.fst).Nodup) {key : κ}
    {value : ν} : (ofList pairs).get? key = some value ↔ (key, value) ∈ pairs := by
  rw [ofList, get?_insertAll_eq_some_iff empty h]
  simp

/-- The values of the map that is added win over those that are there. -/
theorem get?_merge (m other : SortedMap κ ν) (key : κ) :
    (m.merge other).get? key = (other.get? key).or (m.get? key) :=
  get?_insertAll_of_ascending m other.ascending key

end SortedMap

end RouteTree
