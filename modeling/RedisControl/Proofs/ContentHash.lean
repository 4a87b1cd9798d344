import Mathlib.Algebra.Group.Nat.Defs
import RedisControl.InputHashes
import RedisControl.Proofs.PrefixCode

/-!
# What a hash says about the content

Hashes are compared in place of the content.

**Theorem (`texts_tell_values_apart`).** The text of a value determines the value, and the text of
a string, an array or an object is not the beginning of another one. A hash is 64 hexadecimal
digits that write the digest of the text. So two values with one hash are the same value, unless
two different messages happen to have one digest. Such messages are then named: they are the texts
of the two values.

* `Collision` : two different messages with one digest.
* `Digest.value`, `ofHex` : a digest as a number, and the number that hexadecimal digits write.
* `contentHash_eq_iff` : values have one hash if they are equal, or their texts collide.
* `InputHashes.aggregate_eq` : inputs with one aggregate are the same.
-/

namespace RedisControl

namespace Sha256

/-- Two different messages with one digest. -/
def Collision (m n : List UInt8) : Prop := m ≠ n ∧ sha256 m = sha256 n

/-! ## Hexadecimal digits -/

/-- The number that hexadecimal digits write, after a number that was read before them. -/
def readHex (before : Nat) (cs : List Char) : Nat :=
  cs.foldl (fun n c => 16 * n + (Json.hexValue? c).getD 0) before

/-- The number that hexadecimal digits write. -/
def ofHex (cs : List Char) : Nat := readHex 0 cs

theorem readHex_append (before : Nat) (cs ds : List Char) :
    readHex before (cs ++ ds) = readHex (readHex before cs) ds := List.foldl_append

theorem readHex_digitChar {d : Nat} (hd : d < 16) (before : Nat) :
    readHex before [Nat.digitChar d] = 16 * before + d := by
  show 16 * before + (Json.hexValue? (Json.hexDigit d)).getD 0 = _
  rw [Json.hexValue?_hexDigit d hd, Option.getD_some]

theorem readHex_hexDigits {k n : Nat} (hn : n < 16 ^ k) (before : Nat) :
    readHex before (hexDigits k n) = 16 ^ k * before + n := by
  induction k generalizing n with
  | zero =>
    obtain rfl : n = 0 := by omega
    show before = _
    omega
  | succ k ih =>
    rw [hexDigits, readHex_append, readHex_digitChar (by omega), ih (by omega), Nat.pow_succ,
      Nat.mul_right_comm]
    omega

theorem hexDigits_injective {k m n : Nat} (hm : m < 16 ^ k) (hn : n < 16 ^ k)
    (h : hexDigits k m = hexDigits k n) : m = n := by
  have hread := readHex_hexDigits hm 0
  rw [h, readHex_hexDigits hn 0] at hread
  exact (Nat.add_left_cancel hread).symm

theorem exists_of_mem_hexDigits {k n : Nat} {c : Char} (h : c ∈ hexDigits k n) :
    ∃ d < 16, c = Nat.digitChar d := by
  induction k generalizing n with
  | zero => cases h
  | succ k ih =>
    rcases List.mem_append.1 h with h | h
    · exact ih h
    · exact ⟨n % 16, by omega, List.mem_singleton.1 h⟩

/-! ## Digests -/

/-- A digest as a number, the first word being the highest. -/
def Digest.value (s : Digest) : Nat := s.toList.foldl (fun n w => 4294967296 * n + w.toNat) 0

theorem readHex_flatMap (ws : List UInt32) (before : Nat) :
    readHex before (ws.flatMap fun w => hexDigits 8 w.toNat) =
      ws.foldl (fun n w => 4294967296 * n + w.toNat) before := by
  induction ws generalizing before with
  | nil => rfl
  | cons w ws ih =>
    rw [List.flatMap_cons, readHex_append, readHex_hexDigits w.toNat_lt, ih]
    rfl

theorem Digest.ofHex_hex (s : Digest) : ofHex s.hex.toList = s.value := by
  rw [Digest.hex, String.toList_ofList]
  exact readHex_flatMap s.toList 0

theorem Digest.mem_hex {s : Digest} {c : Char} (h : c ∈ s.hex.toList) :
    c ∈ ['0', '1', '2', '3', '4', '5', '6', '7', '8', '9', 'a', 'b', 'c', 'd', 'e', 'f'] := by
  have hdigits : ∀ d < 16, Nat.digitChar d ∈
      ['0', '1', '2', '3', '4', '5', '6', '7', '8', '9', 'a', 'b', 'c', 'd', 'e', 'f'] := by decide
  rw [Digest.hex, String.toList_ofList] at h
  obtain ⟨w, -, hc⟩ := List.mem_flatMap.1 h
  obtain ⟨d, hd, rfl⟩ := exists_of_mem_hexDigits hc
  exact hdigits d hd

theorem flatMap_hexDigits_injective {ws vs : List UInt32} (hl : ws.length = vs.length)
    (h : (ws.flatMap fun w => hexDigits 8 w.toNat) = vs.flatMap fun w => hexDigits 8 w.toNat) :
    ws = vs := by
  induction ws generalizing vs with
  | nil => exact (List.length_eq_zero_iff.1 hl.symm).symm
  | cons w ws ih =>
    cases vs with
    | nil => cases hl
    | cons v vs =>
      rw [List.flatMap_cons, List.flatMap_cons] at h
      obtain ⟨hword, hwords⟩ := List.append_inj h (by rw [length_hexDigits, length_hexDigits])
      rw [UInt32.toNat.inj (hexDigits_injective w.toNat_lt v.toNat_lt hword),
        ih (Nat.succ.inj hl) hwords]

theorem Digest.hex_injective {s t : Digest} (h : s.hex = t.hex) : s = t := by
  have hwords : s.toList = t.toList := flatMap_hexDigits_injective rfl (String.ofList_inj.1 h)
  cases s
  cases t
  cases hwords
  rfl

end Sha256

open Sha256

/-- Values have one hash if they are equal, or if their texts collide. -/
theorem contentHash_eq_iff {j k : Json} :
    contentHash j = contentHash k ↔ j = k ∨ Collision j.bytes k.bytes := by
  constructor
  · intro h
    by_cases hbytes : j.bytes = k.bytes
    · exact Or.inl (Json.bytes_inj.1 hbytes)
    · exact Or.inr ⟨hbytes, Digest.hex_injective h⟩
  · rintro (rfl | ⟨-, h⟩)
    · rfl
    · rw [contentHash, contentHash, h]

/-- Inputs with one aggregate are the same, or the texts of their maps collide. -/
theorem InputHashes.aggregate_eq {m n : InputHashes} (h : m.aggregate = n.aggregate) :
    m = n ∨ Collision (Json.ofStrings m.byName).bytes (Json.ofStrings n.byName).bytes := by
  rcases contentHash_eq_iff.1 h with he | hc
  · exact Or.inl (congrArg InputHashes.mk (Json.ofStrings_injective he))
  · exact Or.inr hc

/-! ## The theorem -/

/-- **Texts tell values apart**, and so do hashes, unless two texts collide. -/
theorem texts_tell_values_apart (j k : Json) :
    (j.bytes = k.bytes ↔ j = k) ∧
    (j.isEnclosed = true → j.bytes <+: k.bytes → j = k) ∧
    (contentHash j = contentHash k ↔ j = k ∨ Collision j.bytes k.bytes) ∧
    (contentHash j).length = 64 ∧
    (∀ c ∈ (contentHash j).toList, c ∈
      ['0', '1', '2', '3', '4', '5', '6', '7', '8', '9', 'a', 'b', 'c', 'd', 'e', 'f']) ∧
    ofHex (contentHash j).toList = (sha256 j.bytes).value :=
  ⟨Json.bytes_inj, Json.eq_of_bytes_isPrefix, contentHash_eq_iff, Digest.length_hex _,
    fun _ => Digest.mem_hex, Digest.ofHex_hex _⟩

end RedisControl
