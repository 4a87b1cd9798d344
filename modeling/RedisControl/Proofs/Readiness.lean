import RedisControl.Proofs.Marks

/-!
# When an instance is ready

`Ready` is derived from the other entries of the ledger, whatever they are and however often a
type occurs. Deriving it anew leaves the others as they are, and afterwards `Ready` is true exactly
where all of them are: otherwise it shows the worst of them, and the worst of entries of which one
is not true is not true either.

* `Ledger.rank_worstFrom_le` : no entry is worse than the worst.
* `Ledger.isTrue_recomputeReady` : when `Ready` is true.
* `Ledger.status?_recomputeReady_of_false` : it is false where an entry is.
-/

namespace RedisControl

namespace Condition

theorem rank_le_four (c : Condition) : c.rank ≤ 4 := by
  unfold rank
  split <;> omega

theorem isTrue_iff_rank (c : Condition) : c.isTrue = true ↔ c.rank = 4 := by
  obtain ⟨type, status, reason, severity, message, time⟩ := c
  cases status with
  | true => exact ⟨fun _ => rfl, fun _ => rfl⟩
  | unknown => simp [isTrue, rank]
  | false =>
    rcases severity with _ | _ | _ | _ <;> simp [isTrue, rank]

theorem status_eq_false_iff_rank (c : Condition) : c.status = .false ↔ c.rank ≤ 2 := by
  obtain ⟨type, status, reason, severity, message, time⟩ := c
  cases status with
  | true | unknown => simp [rank]
  | false => rcases severity with _ | _ | _ | _ <;> simp [rank]

end Condition

namespace Ledger

theorem rank_worstFrom_le (c : Condition) (cs : List Condition) :
    ∀ d ∈ c :: cs, (worstFrom c cs).rank ≤ d.rank := by
  induction cs generalizing c with
  | nil =>
    intro d hd
    rw [List.mem_singleton.1 hd]
    exact Nat.le_refl _
  | cons e rest ih =>
    intro d hd
    rw [worstFrom]
    by_cases he : e.rank < c.rank
    · rw [if_pos he]
      rcases List.mem_cons.1 hd with rfl | hd
      · exact Nat.le_trans (ih e e List.mem_cons_self) (Nat.le_of_lt he)
      · exact ih e d hd
    · rw [if_neg he]
      rcases List.mem_cons.1 hd with rfl | hd
      · exact ih d d List.mem_cons_self
      rcases List.mem_cons.1 hd with rfl | hd
      · exact Nat.le_trans (ih c c List.mem_cons_self) (Nat.le_of_not_lt he)
      · exact ih c d (List.mem_cons_of_mem _ hd)

theorem isTrue_worstFrom {c : Condition} {cs : List Condition}
    (h : (c :: cs).all Condition.isTrue = false) : (worstFrom c cs).isTrue = false := by
  obtain ⟨d, hd, hfalse⟩ := List.all_eq_false.1 h
  have hrank : d.rank ≠ 4 := fun he => hfalse ((Condition.isTrue_iff_rank d).2 he)
  have hle := rank_worstFrom_le c cs d hd
  have hlast := d.rank_le_four
  rw [Bool.eq_false_iff, Ne, Condition.isTrue_iff_rank]
  omega

/-- What `Ready` says is true exactly where all other entries are. -/
theorem isTrue_derivedReady {l : Ledger} {c : Condition} (h : l.derivedReady = some c) :
    c.isTrue = l.allSubConditionsTrue := by
  unfold derivedReady at h
  by_cases hall : l.allSubConditionsTrue = true
  · rw [if_pos hall] at h
    rw [← Option.some.inj h, hall]
    rfl
  · rw [if_neg hall, worstAs, worst?] at h
    rw [Bool.not_eq_true] at hall
    rw [hall]
    rw [allSubConditionsTrue] at hall
    cases hs : l.subConditions with
    | nil =>
      rw [hs] at h
      cases h
    | cons d rest =>
      rw [hs] at h hall
      rw [← Option.some.inj h]
      exact isTrue_worstFrom hall

/-- **When `Ready` is true.** After it has been derived, the first entry of its type is true if and
only if all entries of other types are. -/
theorem isTrue_recomputeReady {l : Ledger} (h : l.isEmpty = false) (now : Time) :
    (l.recomputeReady now).isTrue Goal.ready.type = l.allSubConditionsTrue := by
  obtain ⟨c, hc, hr⟩ := recomputeReady_eq h now
  rw [hr, isTrue, ← type_derivedReady hc, get?_set_self, ← isTrue_derivedReady hc]
  cases l.get? c.type <;> rfl

theorem status?_recomputeReady_of_false {l : Ledger} {d : Condition} (hd : d ∈ l.subConditions)
    (hfalse : d.status = .false) (now : Time) :
    (l.recomputeReady now).status? Goal.ready.type = some .false := by
  have hall : ¬ l.allSubConditionsTrue = true := by
    intro hall
    have htrue := eq_of_beq (List.all_eq_true.1 hall d hd)
    cases hfalse.symm.trans htrue
  have hentries : l.isEmpty = false := by
    obtain ⟨_ | ⟨first, rest⟩⟩ := l
    · cases hd
    · rfl
  obtain ⟨c, hc, hr⟩ := recomputeReady_eq hentries now
  have hstatus : c.status = .false := by
    rw [derivedReady, if_neg hall, worstAs, worst?] at hc
    cases hs : l.subConditions with
    | nil =>
      rw [hs] at hd
      cases hd
    | cons first rest =>
      rw [hs] at hc hd
      obtain rfl := Option.some.inj hc
      have hrank := rank_worstFrom_le first rest d hd
      have hlow := (Condition.status_eq_false_iff_rank d).1 hfalse
      exact (Condition.status_eq_false_iff_rank (worstFrom first rest)).2 (Nat.le_trans hrank hlow)
  rw [hr, status?, ← type_derivedReady hc, get?_set_self, Option.map_some]
  cases l.get? c.type <;> exact congrArg some hstatus

theorem mem_subConditions {l : Ledger} {c : Condition} :
    c ∈ l.subConditions ↔ c ∈ l.entries ∧ c.type ≠ Goal.ready.type := by
  rw [subConditions, List.mem_filter, bne_iff_ne]

theorem allSubConditionsTrue_iff {l : Ledger} : l.allSubConditionsTrue = true ↔
    ∀ c ∈ l.entries, c.type ≠ Goal.ready.type → c.status = .true := by
  rw [allSubConditionsTrue, List.all_eq_true]
  constructor
  · intro h c hc hne
    exact eq_of_beq (h c (mem_subConditions.2 ⟨hc, hne⟩))
  · intro h c hc
    obtain ⟨hmem, hne⟩ := mem_subConditions.1 hc
    exact beq_iff_eq.2 (h c hmem hne)

/-- A ledger after `Ready` has been derived. -/
theorem isTrue_ready_iff {l : Ledger} (h : l.isEmpty = false) (now : Time) :
    (l.recomputeReady now).isTrue Goal.ready.type = true ↔
      ∀ c ∈ (l.recomputeReady now).entries, c.type ≠ Goal.ready.type → c.status = .true := by
  rw [isTrue_recomputeReady h, ← allSubConditionsTrue_iff, allSubConditionsTrue,
    allSubConditionsTrue, subConditions_recomputeReady]

end Ledger

end RedisControl
