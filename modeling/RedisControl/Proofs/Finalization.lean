import RedisControl.Proofs.Readiness
import RedisControl.Proofs.SteadyCluster

/-!
# Every pass is finalized

**Theorem (`pass_finalizes`).** A pass that has read an instance goes through its steps, which do
not write the status, and then finalizes, at whichever step it ended and whatever was stored. It
writes the status, as its last call and only then, if with `Ready` derived it is another than the
one observed. An error of the write is the result; otherwise the result is that of the steps.

So after a pass whose write did not fail, the stored ledger has entries, and `Ready` is true in it
exactly where all other entries are. Where the status was written, this is because `Ready` has just
been derived. Where it was not, the status with `Ready` derived is the one that is stored already;
and that is none but a stored one, since the steps leave no ledger empty.
-/

namespace RedisControl

open Program

/-- `Ready` is true in the ledger exactly where all other entries are, and there are entries. -/
structure Ledger.IsConsistent (l : Ledger) : Prop where
  nonempty : l.isEmpty = false
  isTrue_ready : l.isTrue Goal.ready.type = true ↔
    ∀ c ∈ l.entries, c.type ≠ Goal.ready.type → c.status = .true

theorem Status.isConsistent_finished {s : Status} (h : s.conditions.isEmpty = false) (now : Time) :
    (s.finished now).conditions.IsConsistent where
  nonempty := Ledger.isEmpty_recomputeReady h now
  isTrue_ready := Ledger.isTrue_ready_iff h now

theorem statusWrites_converge {settings : Settings} {r : Redis} {s s' : Status} {t : Trace}
    {x : Progress Outcome} (run : Runs (converge settings r s) t (x, s')) :
    Trace.statusWrites t = [] := by
  rw [← Trace.statusWrites_exchange]
  exact Trace.statusWrites_of_isWork (runs_converge run).isWork

namespace PassRecord

variable {p : PassRecord} {r : Redis} {s : Status} {e : Ending}

theorem Kept.storedAfter_of_failed (h : p.Kept r s e) (hf : p.writeFailed = true) :
    p.storedAfter = p.stored := by
  cases h with
  | unchanged _ after _ _ _ | failed after _ _ _ => exact after
  | written _ _ _ writeFailed _ =>
    rw [hf] at writeFailed
    cases writeFailed

/-- Otherwise the status with `Ready` derived is stored, whether it was written or not. -/
theorem Kept.exists_storedAfter (h : p.Kept r s e) (hf : p.writeFailed = false)
    (stored : r.status = p.stored) (hs : s.conditions.isEmpty = false) :
    ∃ now, p.storedAfter = some (s.finished now) := by
  cases h with
  | @unchanged now same after _ _ _ =>
    refine ⟨now, ?_⟩
    rw [after, same, Redis.statusOrEmpty, stored]
    cases hst : p.stored with
    | none =>
      rw [Redis.statusOrEmpty, stored, hst] at same
      exact absurd same (Status.finished_ne_empty hs now)
    | some st => rfl
  | @written now _ after _ _ _ => exact ⟨now, after⟩
  | failed _ _ writeFailed _ =>
    rw [hf] at writeFailed
    cases writeFailed

end PassRecord

theorem PassRecord.kept_of_runs {ns name : String} {p : PassRecord} {r : Redis} {s : Status}
    {e : Ending} {steps final : Trace}
    (ht : p.trace = ⟨.getRedis ns name, .ok (some r)⟩ :: (steps ++ final))
    (hwork : Trace.statusWrites steps = [])
    (hfinal : Runs (finalize r r.statusOrEmpty s e) final p.ending) : p.Kept r s e := by
  obtain ⟨writes, finalized, hexchange⟩ := finalRun_of_runs hfinal
  have hwrites : Trace.statusWrites p.trace = writes := by
    rw [ht]
    show Trace.statusWrites (steps ++ final) = writes
    rw [Trace.statusWrites_append, hwork, List.nil_append, ← Trace.statusWrites_exchange,
      hexchange, Trace.statusWrites_writeEvent]
  refine FinalRun.kept ?_
  rw [hwrites]
  exact finalized

/-- **Every pass is finalized.** -/
theorem pass_finalizes {ns name : String} {p : PassRecord} (h : p.IsPass ns name) {r : Redis}
    (hr : r ∈ Trace.redises p.trace) :
    (∃ steps x s now, Runs (converge p.settings r r.statusOrEmpty) steps (x, s) ∧
      Trace.statusWrites steps = [] ∧
      if s.finished now = r.statusOrEmpty then
        p.trace = ⟨.getRedis ns name, .ok (some r)⟩ :: (steps ++ [⟨.now, now⟩]) ∧
          p.ending = x.ending
      else ∃ a, p.trace = ⟨.getRedis ns name, .ok (some r)⟩ :: (steps ++
          [⟨.now, now⟩, ⟨.patchStatus { r with status := some (s.finished now) }, a⟩]) ∧
        p.ending = x.ending.afterWrite a) ∧
    (p.writeFailed = true → p.storedAfter = p.stored) ∧
    (p.writeFailed = false → ∃ s, p.storedAfter = some s ∧ s.conditions.IsConsistent) := by
  obtain ⟨run, stored⟩ := h
  obtain ⟨failure, ht, -⟩ | ⟨ht, -⟩ | ⟨r', steps, final, x, s, ht, hsteps, hfinal⟩ :=
    runs_pass_cases run
  · rw [ht] at hr
    cases hr
  · rw [ht] at hr
    cases hr
  -- The instance that was read is the one over which the steps ran.
  have hredises : Trace.redises p.trace = [r'] := by
    rw [← Trace.redises_exchange, (runs_pass run).redises_eq, ht]
    rfl
  obtain rfl : r = r' := by
    rw [hredises] at hr
    exact List.mem_singleton.1 hr
  have hwork := statusWrites_converge hsteps
  have hentries : s.conditions.isEmpty = false := (runs_converge hsteps).isEmpty_eq_false
  have hkept := PassRecord.kept_of_runs ht hwork hfinal
  refine ⟨?_, hkept.storedAfter_of_failed, ?_⟩
  · obtain ⟨now, ⟨same, rfl, hend⟩ | ⟨differs, a, rfl, hend⟩⟩ := runs_finalize hfinal
    · refine ⟨steps, x, s, now, hsteps, hwork, ?_⟩
      rw [if_pos same]
      exact ⟨ht, hend⟩
    · refine ⟨steps, x, s, now, hsteps, hwork, ?_⟩
      rw [if_neg differs]
      exact ⟨a, ht, hend⟩
  · intro hf
    obtain ⟨now, hafter⟩ := hkept.exists_storedAfter hf (stored r hr) hentries
    exact ⟨_, hafter, Status.isConsistent_finished hentries now⟩

theorem pass_finalizes_refused :
    let c := SteadyCluster.plain fun _ => .error (.missingKey "permission")
    let stored : Status := ⟨⟨[⟨"Ready", .true, "", none, "", none⟩,
      ⟨"RoleReady", .false, "", none, "", none⟩, ⟨"Ready", .true, "", none, "", none⟩]⟩, .empty⟩
    let p := c.round toString .default "demo" "cache" (some stored) 0
    ¬ stored.conditions.IsConsistent ∧
      ∃ s, p.storedAfter = some s ∧ s.conditions.IsConsistent := by
  intro c stored p
  refine ⟨?_, ?_⟩
  · intro h
    have hrole := h.isTrue_ready.1 (by decide) _ (List.mem_cons_of_mem _ List.mem_cons_self)
      (by decide)
    cases hrole
  · have hread : c.redis (some stored) ∈ Trace.redises p.trace := by
      rw [SteadyCluster.redises_round]
      exact List.mem_singleton_self _
    have hwritten : p.writeFailed = false := by decide +kernel
    exact (pass_finalizes (SteadyCluster.isPass_round 0) hread).2.2 hwritten

end RedisControl
