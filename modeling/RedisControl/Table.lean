/-!
# Tables

A table is a finite map whose keys need no order. Its entries stand in the order in which their
keys were first entered, and no key is entered twice.

* `Table.get?_put` : what entering a value does to every look-up.
* `Table.get?_erase` : what erasing a key does to every look-up.
-/

namespace RedisControl

/-- A finite map, no two entries of which have the same key. -/
structure Table (κ α : Type) where
  entries : List (κ × α)
  distinct : entries.Pairwise fun a b => a.1 ≠ b.1

namespace Table

variable {κ α : Type} [DecidableEq κ]

def empty : Table κ α := ⟨[], .nil⟩

/-- The value of the first entry for a key. -/
def find? (key : κ) : List (κ × α) → Option α
  | [] => none
  | (k, v) :: rest => if k = key then some v else find? key rest

/-- The value for a key. -/
def get? (t : Table κ α) (key : κ) : Option α := find? key t.entries

/-- Whether a key has a value. -/
def contains (t : Table κ α) (key : κ) : Bool := (t.get? key).isSome

/-! ## Entering and erasing -/

/-- Enter a value for a key in the place that the key has, or else at the end. -/
def putEntry (key : κ) (value : α) : List (κ × α) → List (κ × α)
  | [] => [(key, value)]
  | (k, v) :: rest => if k = key then (key, value) :: rest else (k, v) :: putEntry key value rest

theorem key_of_mem_putEntry {key : κ} {value : α} {e : κ × α} {l : List (κ × α)}
    (h : e ∈ putEntry key value l) : e.1 = key ∨ e ∈ l := by
  induction l with
  | nil => simp_all [putEntry]
  | cons d l ih =>
    obtain ⟨k, v⟩ := d
    simp only [putEntry] at h
    split at h
    · rcases List.mem_cons.1 h with rfl | h
      · exact .inl rfl
      · exact .inr (List.mem_cons_of_mem _ h)
    · rcases List.mem_cons.1 h with rfl | h
      · exact .inr List.mem_cons_self
      · exact (ih h).imp id (List.mem_cons_of_mem _)

theorem distinct_putEntry (key : κ) (value : α) {l : List (κ × α)}
    (h : l.Pairwise fun a b => a.1 ≠ b.1) :
    (putEntry key value l).Pairwise fun a b => a.1 ≠ b.1 := by
  induction l with
  | nil => simp [putEntry]
  | cons d l ih =>
    obtain ⟨k, v⟩ := d
    obtain ⟨hd, hl⟩ := List.pairwise_cons.1 h
    simp only [putEntry]
    split
    · rename_i hk
      exact List.pairwise_cons.2 ⟨fun e he => by simpa [hk] using hd e he, hl⟩
    · rename_i hk
      refine List.pairwise_cons.2 ⟨fun e he => ?_, ih hl⟩
      rcases key_of_mem_putEntry he with he | he
      · exact fun hke => hk (hke.trans he)
      · exact hd e he

/-- The table with a value for a key. -/
def put (t : Table κ α) (key : κ) (value : α) : Table κ α :=
  ⟨putEntry key value t.entries, distinct_putEntry key value t.distinct⟩

/-- The table without a key. -/
def erase (t : Table κ α) (key : κ) : Table κ α :=
  ⟨t.entries.filter fun e => e.1 ≠ key, t.distinct.filter _⟩

/-- The keys in the order in which they were entered. -/
def keys (t : Table κ α) : List κ := t.entries.map (·.1)

/-- The table of a list of entries; of several with one key the last counts. -/
def ofList (l : List (κ × α)) : Table κ α := l.foldl (fun t e => t.put e.1 e.2) empty

/-! ## Look-up -/

@[simp] theorem get?_empty (k : κ) : (empty : Table κ α).get? k = none := rfl

/-- Entering a value changes the look-up of its own key only. -/
@[simp] theorem get?_put (t : Table κ α) (key : κ) (value : α) (k : κ) :
    (t.put key value).get? k = if key = k then some value else t.get? k := by
  obtain ⟨l, hl⟩ := t
  simp only [get?, put]
  clear hl
  induction l with
  | nil => simp [putEntry, find?]
  | cons e l ih =>
    obtain ⟨k', v'⟩ := e
    by_cases h : k' = key
    · subst h; by_cases hk : k' = k <;> simp [putEntry, find?, hk]
    · by_cases hk : k' = k
      · subst hk; simp [putEntry, find?, h, Ne.symm h]
      · simp [putEntry, find?, h, hk, ih]

/-- Erasing a key changes its own look-up only. -/
@[simp] theorem get?_erase (t : Table κ α) (key k : κ) :
    (t.erase key).get? k = if key = k then none else t.get? k := by
  obtain ⟨l, hl⟩ := t
  simp only [get?, erase]
  clear hl
  induction l with
  | nil => simp [find?]
  | cons e l ih =>
    obtain ⟨k', v'⟩ := e
    by_cases h : k' = key <;> by_cases hk : k' = k <;> grind [find?]

end Table

end RedisControl
