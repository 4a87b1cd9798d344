import RedisControl.Proofs.Readiness

/-!
# What `Ready` shows

**Theorem (`ready_shows_worst`).** Whatever a ledger with entries holds, after `Ready` has been
derived its first entry is true exactly where all other conditions are. Otherwise it says what the
worst of them says, and of several that are equally bad the one that stands first.

How bad a condition is, is said here without ranks (`Condition.Worse`): the severity counts only
among conditions that are false. That the worst entry found is also the earliest does not follow
from its rank. So the search is followed with the entries before and after the one it has found so
far (`Ledger.exists_split_worstFrom`), and the split is then carried over from the entries that
`Ready` is derived from to the whole ledger.
-/

namespace RedisControl

namespace Condition

/-! ## Which of two conditions is worse -/

/-- One condition is worse than another: what is false is worse than what is not, what is unknown
is worse than what is true. Among false conditions an error is worse than the rest, and a warning
is worse than what is neither. -/
inductive Worse (c d : Condition) : Prop where
  | isFalse (status : c.status = .false) (other : d.status ≠ .false)
  | isUnknown (status : c.status = .unknown) (other : d.status = .true)
  | isError (status : c.status = .false) (other : d.status = .false)
      (severity : c.severity = some .error) (milder : d.severity ≠ some .error)
  | isWarning (status : c.status = .false) (other : d.status = .false)
      (severity : c.severity = some .warning) (milder : d.severity ≠ some .error)
      (noWarning : d.severity ≠ some .warning)

theorem rank_of_false {c : Condition} (h : c.status = .false) :
    c.rank = if c.severity = some .error then 0
      else if c.severity = some .warning then 1 else 2 := by
  unfold rank
  rw [h]
  rcases c.severity with _ | _ | _ | _ <;> rfl

theorem rank_of_unknown {c : Condition} (h : c.status = .unknown) : c.rank = 3 := by
  unfold rank
  rw [h]

theorem rank_of_true {c : Condition} (h : c.status = .true) : c.rank = 4 := by
  unfold rank
  rw [h]

theorem worse_iff_rank_lt {c d : Condition} : c.Worse d ↔ c.rank < d.rank := by
  -- Ranks put what is false first, by severity, then what is unknown, then what is true.
  constructor
  · intro h
    cases h with
    | isFalse hc hd =>
      have hlow := (status_eq_false_iff_rank c).1 hc
      have hhigh := mt (status_eq_false_iff_rank d).2 hd
      omega
    | isUnknown hc hd =>
      rw [rank_of_unknown hc, rank_of_true hd]
      omega
    | isError hc hd hsev hmild =>
      rw [rank_of_false hc, rank_of_false hd, if_pos hsev, if_neg hmild]
      split <;> omega
    | isWarning hc hd hsev hmild hwarn =>
      rw [rank_of_false hc, rank_of_false hd, if_neg (by simp [hsev]), if_pos hsev, if_neg hmild,
        if_neg hwarn]
      omega
  · intro h
    cases hc : c.status with
    | true =>
      rw [rank_of_true hc] at h
      exact absurd d.rank_le_four (Nat.not_le_of_lt h)
    | unknown =>
      rw [rank_of_unknown hc] at h
      have hd : d.rank = 4 := Nat.le_antisymm d.rank_le_four h
      exact .isUnknown hc (eq_of_beq ((isTrue_iff_rank d).2 hd))
    | false =>
      by_cases hd : d.status = .false
      · rw [rank_of_false hc, rank_of_false hd] at h
        grind [Worse]
      · exact .isFalse hc hd

/-! ## The worst entry -/

/-- A condition that counts for `Ready` and is the earliest of the worst: those before it are not
as bad, and those after it are not worse. -/
structure IsEarliestWorst (worst : Condition) (before after : List Condition) : Prop where
  counts : worst.type ≠ Goal.ready.type
  worse_before : ∀ c ∈ before, c.type ≠ Goal.ready.type → worst.Worse c
  not_worse_after : ∀ c ∈ after, c.type ≠ Goal.ready.type → ¬ c.Worse worst

theorem IsEarliestWorst.not_worse {worst c : Condition} {before after : List Condition}
    (h : worst.IsEarliestWorst before after) (hc : c ∈ before ++ worst :: after)
    (hcounts : c.type ≠ Goal.ready.type) : ¬ c.Worse worst := by
  rcases List.mem_append.1 hc with hc | hc
  · have hlt := worse_iff_rank_lt.1 (h.worse_before c hc hcounts)
    exact fun hworse => Nat.lt_asymm hlt (worse_iff_rank_lt.1 hworse)
  rcases List.mem_cons.1 hc with rfl | hc
  · exact fun hworse => Nat.lt_irrefl _ (worse_iff_rank_lt.1 hworse)
  · exact h.not_worse_after c hc hcounts

/-- What `Ready` says of the entries of a ledger: that all is well, or what the worst of the
others says. -/
structure SumsUp (ready : Condition) (entries : List Condition) : Prop where
  isTrue_iff : ready.status = .true ↔
    ∀ c ∈ entries, c.type ≠ Goal.ready.type → c.status = .true
  of_true : ready.status = .true →
    ready.reason = Reason.ready ∧ ready.severity = none ∧ ready.message = Goal.ready.readyMessage
  of_not_true : ready.status ≠ .true → ∃ before worst after,
    entries = before ++ worst :: after ∧ worst.IsEarliestWorst before after ∧
      ready.status = worst.status ∧ ready.severity = worst.severity ∧
      ready.reason = worst.reason ∧ ready.message = worst.message

namespace SumsUp

variable {ready c : Condition} {entries : List Condition}

theorem entered (h : ready.SumsUp entries) (now : Time) (before : Option Condition) :
    (ready.entered now before).SumsUp entries := by
  cases before with
  | none => exact ⟨h.isTrue_iff, h.of_true, h.of_not_true⟩
  | some old => exact ⟨h.isTrue_iff, h.of_true, h.of_not_true⟩

/-- Where a condition is not true, `Ready` has the status of one that is at least as bad. -/
theorem exists_not_worse (h : ready.SumsUp entries) (hc : c ∈ entries)
    (hcounts : c.type ≠ Goal.ready.type) (hstatus : c.status ≠ .true) :
    ∃ worst ∈ entries, worst.type ≠ Goal.ready.type ∧ ready.status = worst.status ∧
      ¬ c.Worse worst := by
  have hready : ready.status ≠ .true := fun htrue => hstatus (h.isTrue_iff.1 htrue c hc hcounts)
  obtain ⟨before, worst, after, rfl, hworst, hsame, -⟩ := h.of_not_true hready
  exact ⟨worst, List.mem_append_right before List.mem_cons_self, hworst.counts, hsame,
    hworst.not_worse hc hcounts⟩

theorem status_eq_false (h : ready.SumsUp entries) (hc : c ∈ entries)
    (hcounts : c.type ≠ Goal.ready.type) (hfalse : c.status = .false) : ready.status = .false := by
  obtain ⟨worst, -, -, hsame, hworst⟩ := h.exists_not_worse hc hcounts (by simp [hfalse])
  rw [hsame]
  exact Decidable.byContradiction fun hne => hworst (.isFalse hfalse hne)

theorem status_eq_unknown (h : ready.SumsUp entries)
    (hnone : ∀ d ∈ entries, d.type ≠ Goal.ready.type → d.status ≠ .false) (hc : c ∈ entries)
    (hcounts : c.type ≠ Goal.ready.type) (hunknown : c.status = .unknown) :
    ready.status = .unknown := by
  obtain ⟨worst, hmem, hwcounts, hsame, hworst⟩ :=
    h.exists_not_worse hc hcounts (by simp [hunknown])
  rw [hsame]
  cases hw : worst.status with
  | true => exact absurd (.isUnknown hunknown hw) hworst
  | false => exact absurd hw (hnone worst hmem hwcounts)
  | unknown => rfl

end SumsUp

end Condition

namespace Ledger

/-! ## The search for the worst entry -/

/-- The search ends at the earliest of the conditions of least rank. -/
theorem exists_split_worstFrom (c : Condition) (cs : List Condition) :
    ∃ before after, c :: cs = before ++ worstFrom c cs :: after ∧
      (∀ d ∈ before, (worstFrom c cs).rank < d.rank) ∧
      ∀ d ∈ after, (worstFrom c cs).rank ≤ d.rank := by
  induction cs generalizing c with
  | nil => exact ⟨[], [], rfl, List.forall_mem_nil _, List.forall_mem_nil _⟩
  | cons e rest ih =>
    rw [worstFrom]
    by_cases he : e.rank < c.rank
    · -- What was found so far comes to stand before the end of the search.
      rw [if_pos he]
      obtain ⟨before, after, hsplit, hbefore, hafter⟩ := ih e
      have hle := rank_worstFrom_le e rest e List.mem_cons_self
      refine ⟨c :: before, after, by rw [hsplit, List.cons_append], ?_, hafter⟩
      exact List.forall_mem_cons.2 ⟨Nat.lt_of_le_of_lt hle he, hbefore⟩
    · -- The entry that is passed over comes to stand right behind the first one.
      rw [if_neg he]
      have hce : c.rank ≤ e.rank := Nat.le_of_not_lt he
      obtain ⟨before, after, hsplit, hbefore, hafter⟩ := ih c
      cases before with
      | nil =>
        obtain ⟨hfirst, hrest⟩ := List.cons.inj hsplit
        rw [← hfirst, ← hrest] at hafter
        rw [← hfirst]
        exact ⟨[], e :: rest, rfl, List.forall_mem_nil _, List.forall_mem_cons.2 ⟨hce, hafter⟩⟩
      | cons first before =>
        obtain ⟨rfl, hrest⟩ := List.cons.inj hsplit
        obtain ⟨hlt, hbefore⟩ := List.forall_mem_cons.1 hbefore
        refine ⟨c :: e :: before, after, congrArg (c :: e :: ·) hrest, ?_, hafter⟩
        exact List.forall_mem_cons.2
          ⟨hlt, List.forall_mem_cons.2 ⟨Nat.lt_of_lt_of_le hlt hce, hbefore⟩⟩

theorem exists_split_worst? {l : Ledger} {worst : Condition} (h : l.worst? = some worst) :
    ∃ before after, l.entries = before ++ worst :: after ∧
      worst.IsEarliestWorst before after := by
  unfold worst? at h
  cases hs : l.subConditions with
  | nil =>
    rw [hs] at h
    cases h
  | cons c cs =>
    rw [hs] at h
    obtain rfl := Option.some.inj h
    obtain ⟨sub, more, hsplit, hbefore, hafter⟩ := exists_split_worstFrom c cs
    -- The split of the conditions that count lifts to all entries, those of type Ready being
    -- skipped.
    rw [hsplit, subConditions] at hs
    obtain ⟨before, rest, hentries, rfl, hrest⟩ := List.filter_eq_append_iff.1 hs
    obtain ⟨skipped, after, rfl, hskipped, hcounts, rfl⟩ := List.filter_eq_cons_iff.1 hrest
    refine ⟨before ++ skipped, after, by rw [hentries, List.append_assoc], ?_, ?_, ?_⟩
    · exact bne_iff_ne.1 hcounts
    · intro d hd hne
      rcases List.mem_append.1 hd with hd | hd
      · exact Condition.worse_iff_rank_lt.2
          (hbefore d (List.mem_filter.2 ⟨hd, bne_iff_ne.2 hne⟩))
      · exact absurd (bne_iff_ne.2 hne) (hskipped d hd)
    · intro d hd hne hworse
      have hle := hafter d (List.mem_filter.2 ⟨hd, bne_iff_ne.2 hne⟩)
      exact absurd (Condition.worse_iff_rank_lt.1 hworse) (Nat.not_lt_of_le hle)

theorem sumsUp_derivedReady {l : Ledger} {ready : Condition} (h : l.derivedReady = some ready) :
    ready.SumsUp l.entries := by
  have hiff : ready.status = .true ↔ l.allSubConditionsTrue = true := by
    rw [← isTrue_derivedReady h]
    exact beq_iff_eq.symm
  have hall := hiff.trans allSubConditionsTrue_iff
  unfold derivedReady at h
  by_cases htrue : l.allSubConditionsTrue = true
  · rw [if_pos htrue] at h
    obtain rfl := Option.some.inj h
    exact ⟨hall, fun _ => ⟨rfl, rfl, rfl⟩, fun hne => absurd rfl hne⟩
  · rw [if_neg htrue] at h
    obtain ⟨worst, hworst, rfl⟩ := Option.map_eq_some_iff.1 h
    obtain ⟨before, after, hsplit, hearliest⟩ := exists_split_worst? hworst
    exact ⟨hall, fun hready => absurd (hiff.1 hready) htrue,
      fun _ => ⟨before, worst, after, hsplit, hearliest, rfl, rfl, rfl, rfl⟩⟩

/-- **What `Ready` shows** after it has been derived. The other entries are what they were, so it
sums them up as they stand then. -/
theorem ready_shows_worst {l : Ledger} (h : l.isEmpty = false) (now : Time) :
    (l.recomputeReady now).subConditions = l.subConditions ∧
      ∃ ready, (l.recomputeReady now).get? Goal.ready.type = some ready ∧
        ready.SumsUp l.entries ∧
        ((∃ c ∈ l.entries, c.type ≠ Goal.ready.type ∧ c.status = .false) →
          ready.status = .false) ∧
        ((∀ c ∈ l.entries, c.type ≠ Goal.ready.type → c.status ≠ .false) →
          (∃ c ∈ l.entries, c.type ≠ Goal.ready.type ∧ c.status = .unknown) →
          ready.status = .unknown) := by
  obtain ⟨c, hderived, hset⟩ := recomputeReady_eq h now
  have hsums := (sumsUp_derivedReady hderived).entered now (l.get? c.type)
  refine ⟨subConditions_recomputeReady l now, c.entered now (l.get? c.type), ?_, hsums, ?_, ?_⟩
  · rw [hset, ← type_derivedReady hderived, get?_set_self]
  · rintro ⟨d, hd, hcounts, hfalse⟩
    exact hsums.status_eq_false hd hcounts hfalse
  · rintro hnone ⟨d, hd, hcounts, hunknown⟩
    exact hsums.status_eq_unknown hnone hd hcounts hunknown

/-- Two entries of an unknown type are equally bad, and the first of them is shown. `Ready` stands
between them and says that all is well. -/
theorem ready_shows_worst_tied :
    let l : Ledger := ⟨[⟨"Probe", .true, "", some .error, "", none⟩,
      ⟨"Disk", .false, "Full", some .info, "no space", none⟩,
      ⟨"Ready", .true, "Ready", none, "", some "noon"⟩,
      ⟨"Disk", .false, "Slow", none, "", none⟩, ⟨"Net", .unknown, "Init", none, "", none⟩]⟩
    l.isEmpty = false ∧
      ∃ ready, (l.recomputeReady "later").get? Goal.ready.type = some ready ∧
        ready.SumsUp l.entries ∧ ready.status = .false ∧ ready.reason = "Full" := by
  intro l
  obtain ⟨-, ready, hready, hsums, hfalse, -⟩ := ready_shows_worst (l := l) rfl "later"
  have hshown : (l.recomputeReady "later").get? Goal.ready.type =
      some ⟨"Ready", .false, "Full", some .info, "no space", some "later"⟩ := by decide
  obtain rfl := Option.some.inj (hshown.symm.trans hready)
  exact ⟨rfl, _, hready, hsums, hfalse ⟨⟨"Disk", .false, "Full", some .info, "no space", none⟩,
    by decide⟩, rfl⟩

end Ledger

end RedisControl
