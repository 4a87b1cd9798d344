/-!
# Maps keyed by text, in key order

A `StringMap` is a finite map from strings whose entries stand in strictly increasing order of
their keys. The order on strings compares them character by character, which is also the order
of their UTF-8 bytes. Because the order is part of the type, two maps that answer every look-up
alike are equal, however they were built.

* `StringMap.get?_insert` : what an insertion does to every look-up.
* `StringMap.ext_get?` : look-ups determine the map.
* `StringMap.get?_ofList` : of several entries with one key, the last counts.
-/

namespace RedisControl

/-- A finite map from strings, its entries in strictly increasing order of the keys. -/
structure StringMap (α : Type) where
  entries : List (String × α)
  sorted : entries.Pairwise fun a b => a.1 < b.1

namespace StringMap

variable {α β : Type}

instance [DecidableEq α] : DecidableEq (StringMap α) := fun m n =>
  decidable_of_iff (m.entries = n.entries) (by cases m; cases n; simp)

/-- The map without entries. -/
def empty : StringMap α := ⟨[], .nil⟩

instance : EmptyCollection (StringMap α) := ⟨empty⟩
instance : Inhabited (StringMap α) := ⟨empty⟩

theorem lt_of_not_lt_of_ne {a b : String} (h : ¬ a < b) (hne : a ≠ b) : b < a :=
  Decidable.byContradiction fun h' => hne (String.le_antisymm h' h)

/-! ## Look-up -/

/-- The value that a list of entries gives to a key: that of the first entry with it. -/
def find? (key : String) : List (String × α) → Option α
  | [] => none
  | (k, v) :: rest => if k = key then some v else find? key rest

/-- The value for a key. -/
def get? (m : StringMap α) (key : String) : Option α := find? key m.entries

/-- Whether a key has a value. -/
def contains (m : StringMap α) (key : String) : Bool := (m.get? key).isSome

/-- The keys, in increasing order. -/
def keys (m : StringMap α) : List String := m.entries.map (·.1)

def isEmpty (m : StringMap α) : Bool := m.entries.isEmpty

theorem find?_eq_none {key : String} {l : List (String × α)} (h : ∀ e ∈ l, key < e.1) :
    find? key l = none := by
  induction l with
  | nil => rfl
  | cons e l ih =>
    have hne : e.1 ≠ key := fun he => String.lt_irrefl key (by simpa [he] using h e (by simp))
    simp [find?, hne, ih fun e' he' => h e' (by simp [he'])]

theorem mem_of_find? {key : String} {v : α} {l : List (String × α)}
    (h : find? key l = some v) : (key, v) ∈ l := by
  induction l with
  | nil => simp [find?] at h
  | cons e l ih =>
    obtain ⟨k, w⟩ := e
    by_cases hk : k = key
    · simp_all [find?]
    · simp only [find?, hk, if_false] at h
      simp [ih h]

theorem isSome_find?_iff {key : String} {l : List (String × α)} :
    (find? key l).isSome ↔ key ∈ l.map (·.1) := by
  induction l with
  | nil => simp [find?]
  | cons e l ih =>
    by_cases hk : e.1 = key
    · simp [find?, hk]
    · simp [find?, hk, Ne.symm hk, ih]

theorem mem_keys_iff {m : StringMap α} {key : String} : key ∈ m.keys ↔ (m.get? key).isSome :=
  isSome_find?_iff.symm

/-! ## Insertion -/

/-- Enter a value for a key in its place, over the value it had. -/
def insertEntry (key : String) (value : α) : List (String × α) → List (String × α)
  | [] => [(key, value)]
  | (k, v) :: rest =>
    if key < k then (key, value) :: (k, v) :: rest
    else if key = k then (key, value) :: rest
    else (k, v) :: insertEntry key value rest

theorem mem_insertEntry {key : String} {value : α} {e : String × α} {l : List (String × α)}
    (h : e ∈ insertEntry key value l) : e = (key, value) ∨ e ∈ l := by
  induction l with
  | nil => simpa [insertEntry] using h
  | cons d l ih =>
    obtain ⟨k, v⟩ := d
    simp only [insertEntry] at h
    split at h
    · simpa using h
    · split at h
      · rcases List.mem_cons.1 h with h | h
        · exact .inl h
        · exact .inr (List.mem_cons_of_mem _ h)
      · rcases List.mem_cons.1 h with h | h
        · exact .inr (by simp [h])
        · exact (ih h).imp id (List.mem_cons_of_mem _)

theorem sorted_insertEntry (key : String) (value : α) {l : List (String × α)}
    (h : l.Pairwise fun a b => a.1 < b.1) :
    (insertEntry key value l).Pairwise fun a b => a.1 < b.1 := by
  induction l with
  | nil => simp [insertEntry]
  | cons d l ih =>
    obtain ⟨k, v⟩ := d
    obtain ⟨hd, hl⟩ := List.pairwise_cons.1 h
    simp only [insertEntry]
    split
    · rename_i hlt
      refine List.pairwise_cons.2 ⟨fun e he => ?_, h⟩
      rcases List.mem_cons.1 he with rfl | he
      · exact hlt
      · exact String.lt_trans hlt (hd e he)
    · split
      · rename_i _ heq
        exact List.pairwise_cons.2 ⟨fun e he => by simpa [heq] using hd e he, hl⟩
      · rename_i hlt hne
        refine List.pairwise_cons.2 ⟨fun e he => ?_, ih hl⟩
        rcases mem_insertEntry he with rfl | he
        · exact lt_of_not_lt_of_ne hlt hne
        · exact hd e he

/-- The map with a value for a key, over the value that the key had. -/
def insert (m : StringMap α) (key : String) (value : α) : StringMap α :=
  ⟨insertEntry key value m.entries, sorted_insertEntry key value m.sorted⟩

theorem find?_insertEntry (key : String) (value : α) (k : String) (l : List (String × α)) :
    find? k (insertEntry key value l) = if key = k then some value else find? k l := by
  induction l with
  | nil => simp [insertEntry, find?]
  | cons d l ih =>
    obtain ⟨k', v'⟩ := d
    simp only [insertEntry]
    split
    · simp [find?]
    · split
      · rename_i _ heq
        subst heq
        by_cases hk : key = k <;> simp [find?, hk]
      · rename_i _ hne
        by_cases hk : k' = k
        · subst hk
          simp [find?, hne]
        · simp [find?, hk, ih]

/-- An insertion changes the look-up of its own key only. -/
@[simp] theorem get?_insert (m : StringMap α) (key : String) (value : α) (k : String) :
    (m.insert key value).get? k = if key = k then some value else m.get? k :=
  find?_insertEntry key value k m.entries

@[simp] theorem get?_empty (k : String) : (empty : StringMap α).get? k = none := rfl

/-! ## Building, erasing, mapping -/

/-- The map of a list of entries; of several with one key the last counts. -/
def ofList (l : List (String × α)) : StringMap α :=
  l.foldl (fun m e => m.insert e.1 e.2) empty

/-- The map without a key. -/
def erase (m : StringMap α) (key : String) : StringMap α :=
  ⟨m.entries.filter (·.1 != key), m.sorted.filter _⟩

/-- The map with each value replaced by its image. -/
def map (f : α → β) (m : StringMap α) : StringMap β :=
  ⟨m.entries.map fun e => (e.1, f e.2), by
    simpa [List.pairwise_map] using m.sorted⟩

/-- Erasing a key changes its own look-up only. -/
@[simp] theorem get?_erase (m : StringMap α) (key k : String) :
    (m.erase key).get? k = if key = k then none else m.get? k := by
  obtain ⟨l, hl⟩ := m
  simp only [get?, erase]
  clear hl
  induction l with
  | nil => simp [find?]
  | cons e l ih =>
    obtain ⟨k', v⟩ := e
    by_cases h : k' = key <;> by_cases hk : k' = k <;> grind [find?]

@[simp] theorem get?_map (f : α → β) (m : StringMap α) (k : String) :
    (m.map f).get? k = (m.get? k).map f := by
  obtain ⟨l, hl⟩ := m
  simp only [get?, map]
  clear hl
  induction l with
  | nil => rfl
  | cons e l ih =>
    obtain ⟨k', v⟩ := e
    by_cases hk : k' = k
    · simp [find?, hk]
    · simpa [find?, hk] using ih

theorem get?_foldl_insert (l : List (String × α)) (m : StringMap α) (k : String) :
    (l.foldl (fun m e => m.insert e.1 e.2) m).get? k
      = (find? k l.reverse).or (m.get? k) := by
  induction l generalizing m with
  | nil => simp [find?]
  | cons e l ih =>
    have happ : ∀ (xs ys : List (String × α)),
        find? k (xs ++ ys) = (find? k xs).or (find? k ys) := by
      intro xs ys
      induction xs with
      | nil => simp [find?]
      | cons x xs ihx => obtain ⟨a, b⟩ := x; by_cases h : a = k <;> simp [find?, h, ihx]
    simp only [List.foldl_cons, ih, List.reverse_cons, happ, get?_insert]
    by_cases h : e.1 = k <;> cases find? k l.reverse <;> simp [find?, h]

/-- Of several entries with one key the last counts. -/
theorem get?_ofList (l : List (String × α)) (k : String) :
    (ofList l).get? k = find? k l.reverse := by
  simp [ofList, get?_foldl_insert]

theorem get?_ofList_singleton (key : String) (value : α) :
    (ofList [(key, value)]).get? key = some value := by
  rw [get?_ofList, List.reverse_singleton, find?, if_pos rfl]

/-! ## Extensionality -/

theorem entries_eq_of_find? {l₁ l₂ : List (String × α)}
    (h₁ : l₁.Pairwise fun a b => a.1 < b.1) (h₂ : l₂.Pairwise fun a b => a.1 < b.1)
    (h : ∀ k, find? k l₁ = find? k l₂) : l₁ = l₂ := by
  induction l₁ generalizing l₂ with
  | nil =>
    cases l₂ with
    | nil => rfl
    | cons e l => obtain ⟨k, v⟩ := e; simpa [find?] using h k
  | cons e₁ l₁ ih =>
    obtain ⟨k₁, v₁⟩ := e₁
    cases l₂ with
    | nil => simpa [find?] using h k₁
    | cons e₂ l₂ =>
      obtain ⟨k₂, v₂⟩ := e₂
      obtain ⟨hd₁, hl₁⟩ := List.pairwise_cons.1 h₁
      obtain ⟨hd₂, hl₂⟩ := List.pairwise_cons.1 h₂
      -- The first keys agree: otherwise each would stand behind the other.
      have hk : k₁ = k₂ := by
        by_cases hk : k₁ = k₂
        · exact hk
        · have g₁ : find? k₁ l₂ = some v₁ := by
            simpa [find?, Ne.symm hk] using (h k₁).symm
          have g₂ : find? k₂ l₁ = some v₂ := by
            simpa [find?, hk] using h k₂
          exact absurd (String.lt_trans (hd₁ _ (mem_of_find? g₂)) (hd₂ _ (mem_of_find? g₁)))
            (String.lt_irrefl _)
      subst hk
      have hv : v₁ = v₂ := by simpa [find?] using h k₁
      subst hv
      congr 1
      -- Look-ups in the rest differ from those in the whole for the first key only, which the rest
      -- lacks.
      refine ih hl₁ hl₂ fun k => ?_
      by_cases hk : k₁ = k
      · subst hk
        rw [find?_eq_none hd₁, find?_eq_none hd₂]
      · simpa [find?, hk] using h k

/-- Two maps that answer every look-up alike are equal. -/
theorem ext_get? {m n : StringMap α} (h : ∀ k, m.get? k = n.get? k) : m = n := by
  cases m
  cases n
  simpa using entries_eq_of_find? ‹_› ‹_› h

end StringMap

end RedisControl
