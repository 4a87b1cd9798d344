import RedisControl.Proofs.FinalLedger

/-!
# Transition times follow the status

**Theorem (`transition_times_follow`).** Over a whole pass, however it goes, the time of a
condition changes only with its status: it is what it was if the status is what it was, and a
reading of the clock taken during the pass if the status is another. A condition that is new in the
ledger has a reading of the clock as its time.

This needs more than that each single step keeps the time of a condition whose status it does not
change. A condition that became false on the way and true again at the end would have a new time,
although its status is the old one. It does not happen because nothing is entered twice under one
type (`enteredOnce_of_runs`): what is entered last is compared with what stood there before the
pass. For `Ready` this holds too, since it is derived once, from a condition without a time.
-/

namespace RedisControl

open Program

namespace Ledger

/-- From one ledger to another the times follow the status. The readings are those of the clock in
between. -/
structure TimesFollow (readings : List Time) (before after : Ledger) : Prop where
  distinct : after.types.Nodup
  same : ∀ old ∈ before.entries, ∃ new ∈ after.entries, new.type = old.type ∧
    if new.status = old.status then new.lastTransitionTime = old.lastTransitionTime
    else ∃ τ ∈ readings, new.lastTransitionTime = some τ
  added : ∀ new ∈ after.entries, new.type ∉ before.types →
    ∃ τ ∈ readings, new.lastTransitionTime = some τ

theorem TimesFollow.of_enteredOnce {readings : List Time} {before after : Ledger}
    (hbefore : before.types.Nodup) (hafter : after.types.Nodup)
    (h : ∀ type, EnteredOnce readings (before.get? type) (after.get? type)) :
    before.TimesFollow readings after where
  distinct := hafter
  same old hold := by
    have honce := h old.type
    rw [get?_of_mem hbefore hold] at honce
    obtain hsame | ⟨τ, hτ, c, -, hentered⟩ := honce
    · exact ⟨old, (mem_of_get? hsame).1, rfl, by rw [if_pos rfl]⟩
    · refine ⟨_, (mem_of_get? hentered).1, (mem_of_get? hentered).2, ?_⟩
      rw [Condition.status_entered]
      -- What is entered keeps the time exactly where it has the status of the old entry.
      by_cases hstatus : c.status = old.status
      · rw [if_pos hstatus]
        exact Condition.lastTransitionTime_entered_of_eq hstatus.symm
      · rw [if_neg hstatus]
        exact ⟨τ, hτ, Condition.lastTransitionTime_entered_of_ne (Ne.symm hstatus)⟩
  added new hnew hfresh := by
    have honce := h new.type
    rw [get?_of_mem hafter hnew, get?_eq_none hfresh] at honce
    obtain hnone | ⟨τ, hτ, c, hc, hentered⟩ := honce
    · cases hnone
    · rw [Option.some.inj hentered]
      exact ⟨τ, hτ, Condition.lastTransitionTime_entered_none hc⟩

end Ledger

/-- **Over a pass the transition times follow the status.** -/
theorem transition_times_follow {settings : Settings} {ns name : String} {t : Trace} {e : Ending}
    (run : Runs (pass settings ns name) t e) {r : Redis} (hr : r ∈ Trace.redises t)
    (distinct : r.statusOrEmpty.conditions.types.Nodup) :
    r.statusOrEmpty.conditions.TimesFollow (Trace.times t) (Trace.finalStatus r t).conditions :=
  .of_enteredOnce distinct (nodup_types_of_runs run hr distinct) (enteredOnce_of_runs run hr)

/-- A pass in which applying the first object fails, over a ledger that says so already, but also
that the instance is ready. -/
theorem transition_times_follow_refused :
    let c := SteadyCluster.plain fun _ => .error (.missingKey "permission")
    let stored : Status := ⟨⟨[⟨"Ready", .true, "", none, "", some "noon"⟩,
      ⟨"ServiceAccountReady", .false, "", none, "", some "noon"⟩]⟩, .empty⟩
    let p := c.round toString .default "demo" "cache" (some stored) 0
    stored.conditions.types.Nodup ∧ Trace.times p.trace = ["0", "1"] ∧
      stored.conditions.TimesFollow (Trace.times p.trace)
        (Trace.finalStatus (c.redis (some stored)) p.trace).conditions := by
  intro c stored p
  have hread : c.redis (some stored) ∈ Trace.redises p.trace := by
    rw [SteadyCluster.redises_round]
    exact List.mem_singleton_self _
  have hdistinct : stored.conditions.types.Nodup := by decide
  exact ⟨hdistinct, by decide +kernel,
    transition_times_follow (SteadyCluster.runs_round 0) hread hdistinct⟩

end RedisControl
