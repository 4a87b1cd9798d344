import Mathlib.Algebra.Group.Nat.Defs
import Mathlib.Data.List.TakeWhile
import RedisControl.Wait

/-!
# A wait ends with the first probe that finds the resource

**Theorem (`wait_ends_when_served`).** Whatever the probes of a wait find, the wait is over right
after the first one that finds the resource served, and only then. Before the probe number `k + 1`
it has slept `k` times, and the sleep number `i`, counted from 0, took `min (10 * 2 ^ i) 60`
seconds. So the sleeps never get shorter, none takes more than a minute, and none is too long to be
doubled in 64 bits.

The delay is doubled and cut off anew after every sleep, while the rule doubles without limit and
cuts off once. One step from one delay to the next (`toNat_nextDelay`) keeps the two together, and
it is exact because it starts below the limit. What the probes find only decides how many steps
there are.

* `sleeps_onward` : the sleeps of a wait that is under way.
* `onward_append_served` : nothing happens after the probe that finds the resource.
-/

namespace RedisControl.Wait

open Api

/-- The sleep after a number of sleeps, in seconds: ten, doubled each time, but a minute at most. -/
def delayAfter (i : Nat) : Nat := min (10 * 2 ^ i) 60

/-- What a wait has come to after so many probes, given what each probe of a sequence finds. -/
def afterProbes (findings : Nat → Finding) (n : Nat) : Wait :=
  ofFindings ((List.range n).map findings)

variable {delay : UInt64} {i : Nat}

/-! ## From one delay to the next -/

theorem delayAfter_le (i : Nat) : delayAfter i ≤ 60 := Nat.min_le_right _ _

theorem delayAfter_succ (i : Nat) : delayAfter (i + 1) = min (2 * delayAfter i) 60 := by
  unfold delayAfter
  rw [pow_succ]
  omega

theorem delayAfter_mono {j : Nat} (h : i ≤ j) : delayAfter i ≤ delayAfter j := by
  induction h with
  | refl => exact Nat.le_refl _
  | step _ ih =>
    rw [Nat.succ_eq_add_one, delayAfter_succ]
    have hle := delayAfter_le i
    omega

theorem toNat_mul_two (h : delay.toNat ≤ 60) : (delay * 2).toNat = 2 * delay.toNat := by
  have htwo : (2 : UInt64).toNat = 2 := rfl
  rw [UInt64.toNat_mul, htwo, Nat.mod_eq_of_lt (by omega), Nat.mul_comm]

theorem toNat_min_word (a b : UInt64) : (min a b).toNat = min a.toNat b.toNat := by
  show (if a ≤ b then a else b).toNat = _
  by_cases h : a ≤ b
  · rw [if_pos h, Nat.min_eq_left (UInt64.le_iff_toNat_le.1 h)]
  · rw [UInt64.le_iff_toNat_le] at h
    rw [if_neg (mt UInt64.le_iff_toNat_le.1 h), Nat.min_eq_right (Nat.le_of_not_le h)]

theorem toNat_nextDelay (h : delay.toNat = delayAfter i) :
    (nextDelay delay).toNat = delayAfter (i + 1) := by
  have hdouble : (delay * 2).toNat = 2 * delay.toNat := toNat_mul_two (h ▸ delayAfter_le i)
  have hmax : maxDelay.toNat = 60 := rfl
  rw [nextDelay, toNat_min_word, hdouble, hmax, h, delayAfter_succ]

/-! ## A wait under way -/

/-- How many probes come before the first one that finds the resource served. -/
def unserved (findings : List Finding) : Nat := (findings.takeWhile (· != .served)).length

/-- There is a sleep after every probe before the one that finds the resource. -/
theorem sleeps_onward (h : delay.toNat = delayAfter i) (findings : List Finding) :
    (onward delay findings).sleeps.map UInt64.toNat =
      (List.range' i (unserved findings)).map delayAfter := by
  induction findings generalizing delay i with
  | nil => rfl
  | cons found rest ih =>
    have hstep : ∀ d : UInt64, d.toNat = delayAfter i →
        (d :: (onward (nextDelay d) rest).sleeps).map UInt64.toNat =
          (List.range' i (unserved rest + 1)).map delayAfter := by
      intro d hd
      rw [List.map_cons, ih (toNat_nextDelay hd), hd, List.range'_succ, List.map_cons]
    cases found with
    | served => rfl
    | notServed | failed => exact hstep delay h

theorem available_onward (delay : UInt64) (findings : List Finding) :
    (onward delay findings).available = true ↔ .served ∈ findings := by
  induction findings generalizing delay with
  | nil => simp [onward]
  | cons found rest ih => cases found <;> simp [onward, ih]

theorem onward_append_served (delay : UInt64) {before : List Finding} (h : .served ∉ before)
    (rest : List Finding) :
    onward delay (before ++ .served :: rest) = ⟨true, (onward delay before).sleeps⟩ := by
  induction before generalizing delay with
  | nil => rfl
  | cons found before ih =>
    obtain ⟨hfound, hbefore⟩ := not_or.1 (mt List.mem_cons.2 h)
    cases found with
    | served => exact absurd rfl hfound
    | notServed | failed =>
      rw [List.cons_append, onward, ih _ hbefore]
      · rfl
      · exact fun hserved => hfound hserved.symm

/-! ## The course of a wait -/

section Course

variable {findings : Nat → Finding} {k n : Nat}

theorem mem_firstFindings_iff :
    .served ∈ (List.range n).map findings ↔ ∃ k < n, findings k = .served := by
  simp [List.mem_map, List.mem_range]

theorem unserved_firstFindings (h : ∀ i < k, findings i ≠ .served) :
    unserved ((List.range k).map findings) = k := by
  have hall : ∀ found ∈ (List.range k).map findings, (found != .served) = true := by
    intro found hfound
    obtain ⟨i, hi, rfl⟩ := List.mem_map.1 hfound
    exact bne_iff_ne.2 (h i (List.mem_range.1 hi))
  rw [unserved, List.takeWhile_eq_self_iff.2 hall, List.length_map, List.length_range]

theorem sleeps_afterProbes (h : ∀ i < k, findings i ≠ .served) :
    (afterProbes findings k).sleeps.map UInt64.toNat = (List.range k).map delayAfter := by
  have hfirst : firstDelay.toNat = delayAfter 0 := rfl
  rw [afterProbes, ofFindings, sleeps_onward hfirst, unserved_firstFindings h,
    List.range_eq_range']

/-- The wait is over with the probe that finds the resource, however many could have followed. -/
theorem afterProbes_of_served (h : ∀ i < k, findings i ≠ .served) (hk : findings k = .served)
    (hn : k < n) : afterProbes findings n = ⟨true, (afterProbes findings k).sleeps⟩ := by
  obtain ⟨m, rfl⟩ := Nat.exists_eq_add_of_lt hn
  -- The findings split at the one that ends the wait.
  have hsplit : (List.range (k + m + 1)).map findings = (List.range k).map findings ++
      .served :: (List.range m).map fun j => findings (k + 1 + j) := by
    rw [Nat.add_right_comm, List.range_add, List.range_succ, List.map_append, List.map_append,
      List.map_singleton, hk, List.map_map, List.append_assoc, List.singleton_append]
    rfl
  have hbefore : .served ∉ (List.range k).map findings := by
    rw [mem_firstFindings_iff]
    rintro ⟨i, hi, hserved⟩
    exact h i hi hserved
  rw [afterProbes, ofFindings, hsplit, onward_append_served _ hbefore]
  rfl

theorem exists_sleeps_afterProbes (findings : Nat → Finding) (n : Nat) :
    ∃ k, (afterProbes findings n).sleeps.map UInt64.toNat = (List.range k).map delayAfter := by
  refine ⟨unserved ((List.range n).map findings), ?_⟩
  rw [List.range_eq_range']
  exact sleeps_onward rfl _

end Course

/-- **A wait ends with the first probe that finds the resource.** -/
theorem wait_ends_when_served (findings : Nat → Finding) :
    (∀ n, (afterProbes findings n).available = true ↔ ∃ k < n, findings k = .served) ∧
    (∀ k, (∀ i < k, findings i ≠ .served) →
      (afterProbes findings k).sleeps.map UInt64.toNat =
          (List.range k).map (fun i => min (10 * 2 ^ i) 60) ∧
        (findings k = .served → ∀ n, k < n →
          afterProbes findings n = ⟨true, (afterProbes findings k).sleeps⟩)) ∧
    ∀ n, (afterProbes findings n).sleeps.Pairwise (· ≤ ·) ∧
      ∀ delay ∈ (afterProbes findings n).sleeps,
        delay.toNat ≤ 60 ∧ (delay * 2).toNat = 2 * delay.toNat := by
  refine ⟨fun n => ?_, fun k hk => ⟨sleeps_afterProbes hk, ?_⟩, fun n => ?_⟩
  · rw [afterProbes, ofFindings, available_onward, mem_firstFindings_iff]
  · intro hserved n hn
    exact afterProbes_of_served hk hserved hn
  · obtain ⟨k, hsleeps⟩ := exists_sleeps_afterProbes findings n
    constructor
    · have hrule : ((List.range k).map delayAfter).Pairwise (· ≤ ·) :=
        List.pairwise_map.2 (List.pairwise_lt_range.imp fun h => delayAfter_mono (Nat.le_of_lt h))
      rw [← hsleeps, List.pairwise_map] at hrule
      exact hrule.imp UInt64.le_iff_toNat_le.2
    · intro delay hdelay
      have hmem : delay.toNat ∈ (List.range k).map delayAfter := by
        rw [← hsleeps]
        exact List.mem_map_of_mem hdelay
      obtain ⟨i, -, hi⟩ := List.mem_map.1 hmem
      have hle : delay.toNat ≤ 60 := hi ▸ delayAfter_le i
      exact ⟨hle, toNat_mul_two hle⟩

/-- Probes that fail and probes that do not find the resource are slept after alike, and what would
be found after the fifth probe makes no difference. -/
theorem wait_ends_when_served_fifth :
    let findings : Nat → Finding := fun i =>
      if i = 4 then .served else if i % 2 = 0 then .failed else .notServed
    (∀ i < 4, findings i ≠ .served) ∧ findings 4 = .served ∧
      (afterProbes findings 4).sleeps.map UInt64.toNat = [10, 20, 40, 60] ∧
      ∀ n, 4 < n → afterProbes findings n = ⟨true, (afterProbes findings 4).sleeps⟩ := by
  intro findings
  have hbefore : ∀ i < 4, findings i ≠ .served := by decide
  have hserved : findings 4 = .served := rfl
  obtain ⟨hsleeps, hends⟩ := (wait_ends_when_served findings).2.1 4 hbefore
  exact ⟨hbefore, hserved, hsleeps, hends hserved⟩

end RedisControl.Wait
