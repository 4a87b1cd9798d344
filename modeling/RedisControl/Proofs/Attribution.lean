import RedisControl.Proofs.FinalLedger
import RedisControl.Proofs.LastStep

/-!
# Failures are put down to the step that failed

**Theorem (`failures_attributed`).** Where the work of a pass ends with an error, the ledger says
so of the step at which it ended, with the message of the error, and `Ready` is false; only of the
workload nothing is said. Where it ends because an object is not in place yet, the ledger says so of
config maps and services, and leaves permissions and the workload as they were. All goals before
that step are true. Those after it, and conditions that are none of the controller's, keep their
entries in every field.

The step is told by the last call of the work, and so are the marks that the pass has left
(`WorkCourse.endsAt`). What follows is about the ledger only. Marks for different goals are all
there in the end and touch nothing else, and deriving `Ready` touches `Ready` only
(`Ledger.marked_enterAll`); a failed goal is false, so that the worst of the entries is false too.

* `Ledger.Marked` : what comes of entering marks.
* `Attributed` : what a pass says of its goals.
* `EndsAt.attributed` : it follows from the step at which the work ended.
-/

namespace RedisControl

open Program

/-! ## Entering marks -/

/-- What comes of a ledger in which marks have been entered and `Ready` has been derived. -/
structure Ledger.Marked (ms : List Mark) (before after : Ledger) : Prop where
  shows : ∀ m ∈ ms, after.Shows m
  kept : ∀ type, type ≠ Goal.ready.type → (∀ m ∈ ms, type ≠ m.goal.type) →
    after.get? type = before.get? type
  ready : ∀ m ∈ ms, m.status = .false → after.status? Goal.ready.type = some .false

theorem Ledger.marked_enterAll {marks : List (Time × Mark)} (hgoals : (marks.map (·.2.goal)).Nodup)
    (hready : Goal.ready ∉ marks.map (·.2.goal)) (l : Ledger) (now : Time) :
    Marked (marks.map (·.2)) l ((l.enterAll marks).recomputeReady now) := by
  have hne : ∀ m ∈ marks.map (·.2), m.goal ≠ .ready := by
    intro m hm he
    obtain ⟨entry, hentry, rfl⟩ := List.mem_map.1 hm
    exact hready (List.mem_map.2 ⟨entry, hentry, he⟩)
  refine ⟨fun m hm => ?_, fun type htype hother => ?_, fun m hm hfalse => ?_⟩
  · exact (shows_enterAll hgoals hm l).recomputeReady (hne m hm) now
  · rw [get?_recomputeReady_of_ne htype, get?_enterAll_of_ne]
    exact fun entry hentry => hother _ (List.mem_map_of_mem hentry)
  · obtain ⟨time, h⟩ := shows_enterAll hgoals hm l
    refine status?_recomputeReady_of_false (mem_subConditions.2 ⟨List.mem_of_find?_eq_some h, ?_⟩)
      hfalse now
    exact fun he => hne m hm (Goal.type_injective he)

/-! ## What a pass says of its goals -/

/-- How a pass whose work ended at the step of a goal, with some last call, has changed the ledger:
what it says of this goal, of the goals before and after it, and of any other type. -/
structure Attributed (g : Goal) (last : Event Cluster) (body : Ending) (before after : Ledger) :
    Prop where
  distinct : after.types.Nodup
  failed : ∀ e, body = .error e → g ≠ .deployment →
    after.Shows (.failed g (g.errorText e)) ∧ after.status? Goal.ready.type = some .false
  waiting : ∀ d, body = .ok (.requeueAfter d) → g = .serviceConfig ∨ g = .exposeService →
    ∃ message, after.Shows (.underWay g message)
  delayed : ∀ d, body = .ok (.requeueAfter d) → g ≠ .serviceConfig ∧ g ≠ .exposeService →
    after.get? g.type = before.get? g.type
  workloadFailed : ∀ e, body = .error e → g = .deployment →
    after.get? g.type = before.get? g.type
  recorded : body = .ok .requeue → g = .serviceConfig ∧ after.Shows (.reached g)
  reported : body = .ok .done → g = .deployment ∧ ∃ o change ready,
    last = ⟨.apply o, .ok (.converged change ready)⟩ ∧
    match ready with
    | none => after.get? g.type = before.get? g.type
    | some n => after.Shows (replicasMark n)
  reached : ∀ h ∈ g.earlier, after.Shows (.reached h)
  unreached : ∀ h ∈ g.later, after.get? h.type = before.get? h.type
  unknown : ∀ type, (∀ h : Goal, type ≠ h.type) → after.get? type = before.get? type

namespace EndsAt

section

variable {g : Goal} {last : Event Cluster} {body : Ending} {before after : Ledger} {events : Trace}
  {ms lastMs : List Mark}

theorem shows (h : EndsAt events ms body g last lastMs) (hmarked : before.Marked ms after)
    {m : Mark} (hm : m ∈ lastMs) : after.Shows m := by
  refine hmarked.shows m ?_
  rw [h.marks]
  exact List.mem_append_right _ hm

/-- From its last step on, a pass keeps the entries of the goals that the step leaves no mark
for. -/
theorem kept (h : EndsAt events ms body g last lastMs) (hmarked : before.Marked ms after)
    {g' : Goal} (hg' : g' ∈ g :: g.later) (hother : ∀ m ∈ lastMs, g' ≠ m.goal) :
    after.get? g'.type = before.get? g'.type := by
  have hready := Goal.ne_ready_of_mem h.order hg'
  refine hmarked.kept g'.type (fun he => hready (Goal.type_injective he)) fun m hm he => ?_
  obtain rfl := Goal.type_injective he
  rw [h.marks] at hm
  rcases List.mem_append.1 hm with hm | hm
  · obtain ⟨earlier, hearlier, rfl⟩ := List.mem_map.1 hm
    exact Goal.not_mem_earlier h.order hg' hearlier
  · exact hother m hm rfl

theorem attributed (h : EndsAt events ms body g last lastMs) (hmarked : before.Marked ms after)
    (hdistinct : after.types.Nodup) : Attributed g last body before after := by
  have hshows : ∀ {m}, m ∈ lastMs → after.Shows m := h.shows hmarked
  -- A step that leaves no mark keeps the entry of its own goal too.
  have hkeptHere : lastMs = [] → after.get? g.type = before.get? g.type := by
    rintro rfl
    exact h.kept hmarked List.mem_cons_self (by simp)
  have hlast := h.lastMarks
  -- Each way in which the pass can end leaves one or two rules for the marks of the last step.
  exact {
    distinct := hdistinct
    failed := by
      rintro e rfl hne
      cases hlast with
      | failed _ =>
        have hm := List.mem_singleton_self (Mark.failed g (g.errorText e))
        have hmem : Mark.failed g (g.errorText e) ∈ ms := h.marks ▸ List.mem_append_right _ hm
        exact ⟨hshows hm, hmarked.ready _ hmem rfl⟩
      | workloadFailed => exact absurd rfl hne
    waiting := by
      rintro d rfl hgroup
      cases hlast with
      | underWay _ => exact ⟨_, hshows (List.mem_singleton_self _)⟩
      | delayed single => exact absurd hgroup (not_or.2 single)
    delayed := by
      rintro d rfl hsingle
      cases hlast with
      | underWay group => exact absurd group (not_or.2 hsingle)
      | delayed _ => exact hkeptHere rfl
    workloadFailed := by
      rintro e rfl hworkload
      cases hlast with
      | failed notLast => exact absurd hworkload notLast
      | workloadFailed => exact hkeptHere rfl
    recorded := by
      rintro rfl
      cases hlast with
      | recorded => exact ⟨rfl, hshows (List.mem_singleton_self _)⟩
    reported := by
      rintro rfl
      cases hlast with
      | @reported o change ready =>
        refine ⟨rfl, o, change, ready, rfl, ?_⟩
        cases ready with
        | none => exact hkeptHere rfl
        | some n => exact hshows (List.mem_singleton_self _)
    reached := by
      intro g' hg'
      refine hmarked.shows (.reached g') ?_
      rw [h.marks]
      exact List.mem_append_left _ (List.mem_map_of_mem hg')
    unreached := by
      intro g' hg'
      refine h.kept hmarked (List.mem_cons_of_mem g hg') fun m hm => ?_
      rw [hlast.goal_eq hm]
      exact Goal.ne_of_mem_later h.order hg'
    unknown := fun type hunknown =>
      hmarked.kept type (hunknown .ready) fun m _ => hunknown m.goal }

end

end EndsAt

/-! ## The theorem -/

/-- **Failures are put down to the step that failed.** -/
theorem failures_attributed {settings : Settings} {ns name : String} {t : Trace} {e : Ending}
    (run : Runs (pass settings ns name) t e) {r : Redis} (hr : r ∈ Trace.redises t)
    (complete : r.IsComplete) (entries : r.statusOrEmpty.conditions.isEmpty = false)
    (distinct : r.statusOrEmpty.conditions.types.Nodup) :
    ∃ steps final x s g last,
      t = ⟨.getRedis ns name, .ok (some r)⟩ :: (steps ++ final) ∧
      Runs (converge settings r r.statusOrEmpty) steps (x, s) ∧
      Runs (finalize r r.statusOrEmpty s x.ending) final e ∧
      (Trace.exchange steps).getLast? = some last ∧ last.goal? = some g ∧
      Attributed g last x.ending r.statusOrEmpty.conditions
        (Trace.finalStatus r t).conditions := by
  have hdistinct := nodup_types_of_runs run hr distinct
  obtain ⟨steps, final, x, s, now, ht, hsteps, hfinalize, -, hfinal⟩ :=
    exists_final_of_runs run hr
  rw [hfinal] at hdistinct ⊢
  rcases runs_converge_cases hsteps with ⟨hempty, -⟩ | ⟨-, ⟨f, hf, -⟩ | hwork⟩
  · cases entries.symm.trans hempty
  · obtain ⟨w⟩ := Redis.owned_of_isComplete complete
    rw [w.permissionObjects_eq] at hf
    cases hf
  obtain ⟨w, events, ms, hash, s₁, course, heff, rfl⟩ := hwork
  obtain ⟨g, last, lastMs, hends⟩ := course.endsAt
  have hgoals := Ledger.goals_zip heff.length_times
  have hmarked := Ledger.marked_enterAll (by rw [hgoals]; exact course.nodup_goals)
    (by rw [hgoals]; exact course.ready_not_mem) r.statusOrEmpty.conditions now
  rw [Ledger.marks_zip heff.length_times] at hmarked
  refine ⟨steps, final, x, _, g, last, ht, hsteps, hfinalize, ?_, hends.goal?, ?_⟩
  · rw [heff.exchange]
    exact hends.getLast?
  · refine hends.attributed ?_ hdistinct
    rw [heff.noted]
    exact hmarked

/-- A pass in which applying config maps fails, over a ledger with an entry that is none of the
controller's and one for a step that is not reached. -/
theorem failures_attributed_refused :
    let c := SteadyCluster.plain fun o =>
      if o.kind = .configMap then .error (.missingKey "data") else .ok (.converged .unchanged none)
    let stored : Status := ⟨⟨[⟨"Audited", .true, "", none, "", none⟩,
      ⟨"DeploymentReady", .true, "", none, "", some "noon"⟩]⟩, .empty⟩
    let p := c.round toString .default "demo" "cache" (some stored) 0
    stored.conditions.types.Nodup ∧ ∃ g last body, last.goal? = some g ∧
      Attributed g last body stored.conditions
        (Trace.finalStatus (c.redis (some stored)) p.trace).conditions := by
  intro c stored p
  have hread : c.redis (some stored) ∈ Trace.redises p.trace := by
    rw [SteadyCluster.redises_round]
    exact List.mem_singleton_self _
  have hdistinct : stored.conditions.types.Nodup := by decide
  obtain ⟨steps, final, x, s, g, last, -, -, -, -, hgoal, hattributed⟩ :=
    failures_attributed (SteadyCluster.runs_round 0) hread ⟨rfl, rfl, rfl⟩ rfl hdistinct
  exact ⟨hdistinct, g, last, x.ending, hgoal, hattributed⟩

end RedisControl
