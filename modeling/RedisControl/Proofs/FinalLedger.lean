import RedisControl.Proofs.Finalization
import RedisControl.Proofs.Verdicts

/-!
# The final ledger of a pass

A pass over an instance ends with the status that it has asked to be written; where it has not
asked, this is because nothing has changed, and the status is the one that it has read.

On its way a pass enters conditions in the ledger at up to eight places, but under each type at
most once: its marks are for different goals, none of which is `Ready`, and `Ready` is derived once
at the end. Where it fills an empty ledger, it declares every condition and derives `Ready` over
the one that it has just declared; this comes to the same as entering one condition where there
was none.

* `Trace.finalStatus` : the status that a pass ends with.
* `exists_final_of_runs` : it is what the steps leave, with `Ready` derived.
* `exists_marks_of_runs` : the marks of the steps, which are for different goals.
* `enteredOnce_of_runs` : each entry is as it was, or one condition has been entered over it.
* `nodup_types_of_runs` : types that are distinct before a pass are distinct after it.
-/

namespace RedisControl

open Program

/-! ## The final status -/

/-- The status that a pass over an instance ends with: the one that it has asked to be written, or
else the one that it has read. -/
def Trace.finalStatus (r : Redis) (t : Trace) : Status :=
  ((statusWrites t).getLast?.bind (·.1.status)).getD r.statusOrEmpty

section Runs

variable {settings : Settings} {ns name : String} {t : Trace} {e : Ending} {r : Redis}

/-- A pass that has read an instance ends with the status that its steps leave, with `Ready`
derived. -/
theorem exists_final_of_runs (run : Runs (pass settings ns name) t e)
    (hr : r ∈ Trace.redises t) :
    ∃ steps final x s now, t = ⟨.getRedis ns name, .ok (some r)⟩ :: (steps ++ final) ∧
      Runs (converge settings r r.statusOrEmpty) steps (x, s) ∧
      Runs (finalize r r.statusOrEmpty s x.ending) final e ∧
      Trace.times t = Trace.times steps ++ [now] ∧ Trace.finalStatus r t = s.finished now := by
  have hredises : Trace.redises t = (Trace.exchange t |>.head?.bind Event.redis?).toList := by
    rw [← Trace.redises_exchange, (runs_pass run).redises_eq]
  obtain ⟨failure, rfl, -⟩ | ⟨rfl, -⟩ | ⟨r', steps, final, x, s, rfl, hsteps, hfinal⟩ :=
    runs_pass_cases run
  · cases hr
  · cases hr
  -- A pass reads one instance, and only finalizing writes.
  obtain rfl : r = r' := by
    rw [hredises] at hr
    exact List.mem_singleton.1 hr
  have hwrites : Trace.statusWrites (⟨.getRedis ns name, .ok (some r)⟩ :: (steps ++ final)) =
      Trace.statusWrites final := by
    show Trace.statusWrites (steps ++ final) = _
    rw [Trace.statusWrites_append, statusWrites_converge hsteps, List.nil_append]
  have htimes : Trace.times (⟨.getRedis ns name, .ok (some r)⟩ :: (steps ++ final)) =
      Trace.times steps ++ Trace.times final := Trace.times_append steps final
  rw [Trace.finalStatus, hwrites]
  obtain ⟨now, ⟨same, rfl, -⟩ | ⟨-, a, rfl, -⟩⟩ := runs_finalize hfinal
  · exact ⟨steps, _, x, s, now, rfl, hsteps, hfinal, htimes, same.symm⟩
  · exact ⟨steps, _, x, s, now, rfl, hsteps, hfinal, htimes, rfl⟩

end Runs

/-! ## Entering conditions once -/

/-- What stands under a type stays as it is, or one condition is entered over it, at one of some
readings of the clock. -/
def EnteredOnce (readings : List Time) (before after : Option Condition) : Prop :=
  after = before ∨ ∃ τ ∈ readings, ∃ c : Condition, c.lastTransitionTime = none ∧
    after = some (c.entered τ before)

theorem EnteredOnce.mono {readings more : List Time} {before after : Option Condition}
    (h : EnteredOnce readings before after) (hsub : readings ⊆ more) :
    EnteredOnce more before after := by
  obtain h | ⟨τ, hτ, h⟩ := h
  · exact Or.inl h
  · exact Or.inr ⟨τ, hsub hτ, h⟩

namespace Ledger

variable {l : Ledger} {now : Time} {marks : List (Time × Mark)} {times : List Time}

/-- Of marks for different goals each is entered over what stood there at first. -/
theorem get?_enterAll_of_mem (h : (marks.map (·.2.goal)).Nodup) {τ : Time} {m : Mark}
    (hm : (τ, m) ∈ marks) (l : Ledger) : (l.enterAll marks).get? m.goal.type =
      some (m.condition.entered τ (l.get? m.goal.type)) := by
  induction marks generalizing l with
  | nil => cases hm
  | cons e marks ih =>
    rw [List.map_cons, List.nodup_cons] at h
    rcases List.mem_cons.1 hm with rfl | hm
    · rw [enterAll_cons, get?_enterAll_of_not_mem h.1]
      exact get?_set_self τ m.condition l
    · have hne : m.goal.type ≠ e.2.goal.type := by
        intro he
        rw [← Goal.type_injective he] at h
        exact h.1 (List.mem_map_of_mem (f := fun e => e.2.goal) hm)
      rw [enterAll_cons, ih h.2 hm, get?_enter_of_ne hne]

theorem nodup_types_enterAll (h : l.types.Nodup) : (l.enterAll marks).types.Nodup := by
  induction marks generalizing l with
  | nil => exact h
  | cons e marks ih => exact ih (nodup_types_set e.2.condition h)

theorem nodup_types_recomputeReady (h : l.types.Nodup) : (l.recomputeReady now).types.Nodup := by
  cases he : l.isEmpty with
  | true =>
    rw [recomputeReady_of_isEmpty he]
    exact h
  | false =>
    obtain ⟨c, -, hc⟩ := recomputeReady_eq he now
    rw [hc]
    exact nodup_types_set c h

theorem enteredOnce_enterAll (marks : List (Time × Mark)) (h : l.isEmpty = false)
    (hgoals : (marks.map (·.2.goal)).Nodup) (hready : Goal.ready ∉ marks.map (·.2.goal))
    (now : Time) (type : String) :
    EnteredOnce (marks.map (·.1) ++ [now]) (l.get? type)
      (((l.enterAll marks).recomputeReady now).get? type) := by
  by_cases htype : type = Goal.ready.type
  · have hentries : (l.enterAll marks).isEmpty = false := isEmpty_enterAll h
    obtain ⟨c, hc, hset⟩ := recomputeReady_eq hentries now
    have hbefore := get?_enterAll_of_not_mem hready l
    rw [← type_derivedReady hc] at htype hbefore
    rw [htype, hset, get?_set_self, hbefore]
    exact Or.inr ⟨now, by simp, c, lastTransitionTime_derivedReady hc, rfl⟩
  rw [get?_recomputeReady_of_ne htype]
  by_cases hmark : ∃ e ∈ marks, type = e.2.goal.type
  · obtain ⟨⟨τ, m⟩, hm, rfl⟩ := hmark
    have hτ : τ ∈ marks.map (·.1) := List.mem_map_of_mem hm
    exact Or.inr ⟨τ, List.mem_append_left _ hτ, m.condition, rfl, get?_enterAll_of_mem hgoals hm l⟩
  · exact Or.inl (get?_enterAll_of_ne (fun e he ht => hmark ⟨e, he, ht⟩) l)

theorem exists_of_mem_initial {d : Condition} (h : d ∈ (initial times).entries) :
    ∃ τ ∈ times, ∃ g, d = initialCondition τ g := by
  have hentries : (initial times).entries =
      (times.zip Goal.all).map fun e => initialCondition e.1 e.2 :=
    (List.map_zip_eq_zipWith (f := fun e => initialCondition e.1 e.2)).symm
  rw [hentries] at h
  obtain ⟨⟨τ, g⟩, hmem, rfl⟩ := List.mem_map.1 h
  exact ⟨τ, (List.of_mem_zip hmem).1, g, rfl⟩

theorem enteredOnce_initial (hl : times.length = Goal.all.length) (now : Time) (type : String) :
    EnteredOnce (times ++ [now]) none (((initial times).recomputeReady now).get? type) := by
  have hfilled : ∀ {type d}, (initial times).get? type = some d →
      ∃ τ ∈ times ++ [now], d.lastTransitionTime = some τ := by
    intro type d hd
    obtain ⟨τ, hτ, g, rfl⟩ := exists_of_mem_initial (List.mem_of_find?_eq_some hd)
    exact ⟨τ, List.mem_append_left _ hτ, rfl⟩
  cases hd : ((initial times).recomputeReady now).get? type with
  | none => exact Or.inl rfl
  | some d =>
    have htime : ∃ τ ∈ times ++ [now], d.lastTransitionTime = some τ := by
      by_cases htype : type = Goal.ready.type
      · obtain ⟨c, hc, hset⟩ := recomputeReady_eq (isEmpty_initial hl) now
        rw [htype, hset, ← type_derivedReady hc, get?_set_self] at hd
        obtain rfl := Option.some.inj hd
        have hnow : now ∈ times ++ [now] := by simp
        cases hold : (initial times).get? c.type with
        | none =>
          have hnone := lastTransitionTime_derivedReady hc
          exact ⟨now, hnow, Condition.lastTransitionTime_entered_none hnone⟩
        | some old =>
          by_cases hstatus : old.status = c.status
          · rw [Condition.lastTransitionTime_entered_of_eq hstatus]
            exact hfilled hold
          · exact ⟨now, hnow, Condition.lastTransitionTime_entered_of_ne hstatus⟩
      · rw [get?_recomputeReady_of_ne htype] at hd
        exact hfilled hd
    -- A condition with a time is what one without a time becomes where there was none.
    obtain ⟨τ, hτ, h⟩ := htime
    obtain ⟨type, status, reason, severity, message, time⟩ := d
    obtain rfl : time = some τ := h
    exact Or.inr ⟨τ, hτ, ⟨type, status, reason, severity, message, none⟩, rfl, rfl⟩

end Ledger

/-! ## The final ledger -/

section FinalLedger

variable {settings : Settings} {ns name : String} {t : Trace} {e : Ending} {r : Redis}

/-- The steps of a pass enter marks for different goals in a ledger with entries, each at a reading
of the clock. -/
theorem exists_marks_of_runs {s s' : Status} {x : Progress Outcome}
    (entries : s.conditions.isEmpty = false) (run : Runs (converge settings r s) t (x, s')) :
    ∃ marks : List (Time × Mark), marks.map (·.1) = Trace.times t ∧
      (marks.map (·.2.goal)).Nodup ∧ Goal.ready ∉ marks.map (·.2.goal) ∧
      s'.conditions = s.conditions.enterAll marks := by
  rcases runs_converge_cases run with ⟨hempty, -⟩ | ⟨-, hwork⟩
  · cases entries.symm.trans hempty
  rcases hwork with ⟨_, -, rfl, -, rfl⟩ | ⟨w, events, ms, hash, s₁, course, heff, rfl⟩
  · exact ⟨[], rfl, List.nodup_nil, List.not_mem_nil, rfl⟩
  · have htimes := List.map_fst_zip (Nat.le_of_eq heff.length_times)
    have hgoals := Ledger.goals_zip heff.length_times
    refine ⟨_, htimes, ?_, ?_, congrArg Status.conditions heff.noted⟩
    · rw [hgoals]
      exact course.nodup_goals
    · rw [hgoals]
      exact course.ready_not_mem

/-- **Over a pass each entry of the ledger stays as it is, or one condition is entered over it.** -/
theorem enteredOnce_of_runs (run : Runs (pass settings ns name) t e) (hr : r ∈ Trace.redises t)
    (type : String) : EnteredOnce (Trace.times t) (r.statusOrEmpty.conditions.get? type)
      ((Trace.finalStatus r t).conditions.get? type) := by
  obtain ⟨steps, final, x, s, now, -, hsteps, -, htimes, hfinal⟩ := exists_final_of_runs run hr
  rw [htimes, hfinal]
  -- An empty ledger is filled; in one with entries marks are entered.
  rcases runs_converge_cases hsteps with ⟨hempty, -, -, times, hl, hsub, rfl⟩ | ⟨entries, -⟩
  · have hnone : r.statusOrEmpty.conditions.get? type = none := by
      rw [Ledger.get?, List.isEmpty_iff.1 hempty]
      rfl
    rw [hnone]
    refine (Ledger.enteredOnce_initial hl now type).mono ?_
    intro τ hτ
    rcases List.mem_append.1 hτ with hτ | hτ
    · exact List.mem_append_left _ (hsub hτ)
    · exact List.mem_append_right _ hτ
  · obtain ⟨marks, hmarks, hgoals, hready, hconditions⟩ := exists_marks_of_runs entries hsteps
    rw [← hmarks, Status.finished, hconditions]
    exact Ledger.enteredOnce_enterAll marks entries hgoals hready now type

theorem nodup_types_of_runs (run : Runs (pass settings ns name) t e) (hr : r ∈ Trace.redises t)
    (h : r.statusOrEmpty.conditions.types.Nodup) :
    (Trace.finalStatus r t).conditions.types.Nodup := by
  obtain ⟨steps, final, x, s, now, -, hsteps, -, -, hfinal⟩ := exists_final_of_runs run hr
  rw [hfinal]
  refine Ledger.nodup_types_recomputeReady ?_
  rcases runs_converge_cases hsteps with ⟨-, -, -, times, hl, -, rfl⟩ | ⟨entries, -⟩
  · show (Ledger.initial times).types.Nodup
    rw [Ledger.types_initial hl]
    decide
  · obtain ⟨marks, -, -, -, hconditions⟩ := exists_marks_of_runs entries hsteps
    rw [hconditions]
    exact Ledger.nodup_types_enterAll h

end FinalLedger

end RedisControl
