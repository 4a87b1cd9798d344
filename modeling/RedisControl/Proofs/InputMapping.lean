import RedisControl.InputHashes
import RedisControl.Proofs.ByteOrder

/-!
# Input hashes are the mapping that they were given

The hashes of the inputs come as pairs of a name and a hash, some of them in a list and others one
after the other. A name may come more than once, and then its last hash counts.

**Theorem (`collected_by_mapping`).** Two sequences of pairs that give every name the same last
hash lead to the same names, the same aggregate and the same result of every comparison, however
the pairs were collected. The names stand in strictly increasing order of their UTF-8 bytes, so
none stands twice, and they are the names that the sequence gives a hash. Insertions of different
names can be exchanged.

The aggregate is the hash of a text, so it is not enough that the two collections answer look-ups
alike: their entries have to stand in the same order. A map has its entries in key order, and so
look-ups leave no choice.

* `Collected.get?_byName` : what a collection answers is the last hash of its sequence.
* `Collected.eq_of_lastHash` : sequences with the same last hashes lead to one collection.
-/

namespace RedisControl.InputHashes

open Text

/-! ## What a sequence of pairs says -/

/-- The hash that a sequence of pairs gives to a name: that of the last pair with the name. -/
def lastHash (name : String) (pairs : List (String × String)) : Option String :=
  ((pairs.filter (·.1 == name)).getLast?).map (·.2)

theorem lastHash_append_singleton (name : String) (pairs : List (String × String))
    (newName hash : String) :
    lastHash name (pairs ++ [(newName, hash)]) =
      if newName = name then some hash else lastHash name pairs := by
  unfold lastHash
  rw [List.filter_append]
  by_cases hname : newName = name
  · have hfilter : [(newName, hash)].filter (·.1 == name) = [(newName, hash)] :=
      List.filter_cons_of_pos (beq_iff_eq.2 hname)
    rw [hfilter, List.getLast?_concat, if_pos hname, Option.map_some]
  · have hfilter : [(newName, hash)].filter (·.1 == name) = [] :=
      List.filter_cons_of_neg (by simpa using hname)
    rw [hfilter, List.append_nil, if_neg hname]

theorem find?_eq_head? (name : String) (pairs : List (String × String)) :
    StringMap.find? name pairs = ((pairs.filter (·.1 == name)).head?).map (·.2) := by
  induction pairs with
  | nil => rfl
  | cons pair pairs ih =>
    by_cases hname : pair.1 = name
    · have hfilter : (pair :: pairs).filter (·.1 == name) = pair :: pairs.filter (·.1 == name) :=
        List.filter_cons_of_pos (beq_iff_eq.2 hname)
      rw [StringMap.find?, if_pos hname, hfilter, List.head?_cons, Option.map_some]
    · have hfilter : (pair :: pairs).filter (·.1 == name) = pairs.filter (·.1 == name) :=
        List.filter_cons_of_neg (by simpa using hname)
      rw [StringMap.find?, if_neg hname, hfilter, ih]

/-- Input hashes that hold a sequence of pairs. The sequence may be split in any way into a list
that they are collected from and insertions that follow. -/
inductive Collected : List (String × String) → InputHashes → Prop
  | empty : Collected [] .empty
  | fromList (pairs : List (String × String)) : Collected pairs (.ofList pairs)
  | insert {pairs : List (String × String)} {inputs : InputHashes} (name hash : String) :
      Collected pairs inputs → Collected (pairs ++ [(name, hash)]) (inputs.insert name hash)

/-! ## Look-ups -/

theorem get?_byName_ofList (pairs : List (String × String)) (name : String) :
    (ofList pairs).byName.get? name = lastHash name pairs := by
  rw [ofList, StringMap.get?_ofList, find?_eq_head?, List.filter_reverse, List.head?_reverse,
    lastHash]

theorem get?_byName_insert (inputs : InputHashes) (newName hash name : String) :
    (inputs.insert newName hash).byName.get? name =
      if newName = name then some hash else inputs.byName.get? name :=
  StringMap.get?_insert ..

theorem eq_of_get?_byName {inputs inputs' : InputHashes}
    (h : ∀ name, inputs.byName.get? name = inputs'.byName.get? name) : inputs = inputs' :=
  congrArg mk (StringMap.ext_get? h)

section Collections

variable {pairs pairs' : List (String × String)} {inputs inputs' : InputHashes}

theorem Collected.get?_byName (h : Collected pairs inputs) (name : String) :
    inputs.byName.get? name = lastHash name pairs := by
  induction h with
  | empty => rfl
  | fromList pairs => exact get?_byName_ofList pairs name
  | insert newName hash _ ih =>
    rw [get?_byName_insert, ih, lastHash_append_singleton]

/-- Sequences with the same last hashes lead to one collection. -/
theorem Collected.eq_of_lastHash (h : Collected pairs inputs) (h' : Collected pairs' inputs')
    (hsame : ∀ name, lastHash name pairs = lastHash name pairs') : inputs = inputs' := by
  refine eq_of_get?_byName fun name => ?_
  rw [h.get?_byName, h'.get?_byName, hsame]

theorem Collected.mem_names_iff (h : Collected pairs inputs) {name : String} :
    name ∈ inputs.names ↔ (lastHash name pairs).isSome := by
  rw [names, StringMap.mem_keys_iff, h.get?_byName]

/-! ## Order and exchange -/

theorem pairwise_names (inputs : InputHashes) :
    inputs.names.Pairwise fun name next => utf8 name < utf8 next :=
  List.pairwise_map.2 (inputs.byName.sorted.imp utf8_lt_utf8_iff.2)

theorem nodup_names (inputs : InputHashes) : inputs.names.Nodup := by
  refine inputs.pairwise_names.imp fun {name next} hlt heq => ?_
  rw [heq] at hlt
  exact List.lt_irrefl _ hlt

theorem insert_exchange (inputs : InputHashes) {name name' : String} (hne : name ≠ name')
    (hash hash' : String) :
    (inputs.insert name hash).insert name' hash' =
      (inputs.insert name' hash').insert name hash := by
  refine eq_of_get?_byName fun k => ?_
  rw [get?_byName_insert, get?_byName_insert, get?_byName_insert, get?_byName_insert]
  by_cases hk : name = k
  · have hk' : name' ≠ k := fun h => hne (hk.trans h.symm)
    rw [if_neg hk', if_pos hk, if_pos hk]
  · rw [if_neg hk, if_neg hk]

/-! ## The main statement -/

/-- What is made of input hashes depends on the last hash of each name only: not on the order of
the pairs, not on the pairs that were overwritten, and not on how they were collected. -/
theorem collected_by_mapping (h : Collected pairs inputs) (h' : Collected pairs' inputs')
    (hsame : ∀ name, lastHash name pairs = lastHash name pairs') :
    inputs.names = inputs'.names ∧
      inputs.aggregate = inputs'.aggregate ∧
      (∀ recorded aggregate, inputs.compare recorded aggregate =
        inputs'.compare recorded aggregate) ∧
      (inputs.names.Pairwise fun name next => utf8 name < utf8 next) ∧
      inputs.names.Nodup ∧
      (∀ name, name ∈ inputs.names ↔ (lastHash name pairs).isSome) ∧
      (∀ name name' hash hash', name ≠ name' →
        (inputs.insert name hash).insert name' hash' =
          (inputs.insert name' hash').insert name hash) := by
  have heq : inputs = inputs' := h.eq_of_lastHash h' hsame
  refine ⟨congrArg names heq, congrArg aggregate heq, fun recorded a => ?_, inputs.pairwise_names,
    inputs.nodup_names, fun name => h.mem_names_iff, fun name name' hash hash' hne => ?_⟩
  · rw [heq]
  · exact inputs.insert_exchange hne hash hash'

end Collections

/-- A name outside ASCII is overwritten and the empty name comes last in one collection, first in
the other. -/
theorem collected_overwritten_name :
    let inputs := ofList [("é", "1"), ("z", "2"), ("é", "3"), ("", "4")]
    let inputs' := ((empty.insert "" "4").insert "é" "3").insert "z" "2"
    inputs.aggregate = inputs'.aggregate ∧ inputs.names = inputs'.names ∧
      inputs.names = ["", "z", "é"] := by
  have h := Collected.fromList [("é", "1"), ("z", "2"), ("é", "3"), ("", "4")]
  have h' := ((Collected.empty.insert "" "4").insert "é" "3").insert "z" "2"
  obtain ⟨hnames, haggregate, -⟩ := collected_by_mapping h h' fun name => by
    by_cases hempty : name = ""
    · rw [hempty]
      decide
    by_cases hplain : name = "z"
    · rw [hplain]
      decide
    by_cases haccent : name = "é"
    · rw [haccent]
      decide
    simp [lastHash, Ne.symm hempty, Ne.symm hplain, Ne.symm haccent]
  exact ⟨haggregate, hnames, by decide⟩

end RedisControl.InputHashes
