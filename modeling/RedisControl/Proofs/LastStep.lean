import RedisControl.Proofs.Verdicts

/-!
# The step at which a pass ends

The last call of a pass tells at which step its work ended: every step that can end a pass does so
right after a call of its own. What the marks of the pass say is then clear but for one step. All
earlier steps have been reached, no later one has been looked at, and the step itself leaves a mark
or none, depending on how the pass ended there (`LastMarks`).

The rules of `LastMarks` differ from step to step. A failure is entered for every step but the
last. A delay is entered where several objects make up one goal, but not for a permission object or
the workload.

* `Event.goal?` : the goal that a call works for.
* `Goal.earlier`, `Goal.later` : the goals before and after one in the order of work.
* `EndsAt` : the work of a pass ends at the step of a goal, with the marks that this leaves.
* `WorkCourse.endsAt` : it ends at the step of its last call.
-/

namespace RedisControl

open Program

/-! ## Calls and goals -/

/-- The goal that the objects of a kind are for. -/
def Kind.goal : Kind → Goal
  | .serviceAccount => .serviceAccount
  | .role => .role
  | .roleBinding => .roleBinding
  | .configMap => .serviceConfig
  | .service => .exposeService
  | .statefulSet => .deployment

/-- The goal that a call works for. -/
def Event.goal? : Event Cluster → Option Goal
  | ⟨.apply o, _⟩ => some o.kind.goal
  | ⟨.getSecret _ _, _⟩ => some .tlsInput
  | _ => none

theorem Event.goal?_of_isSecretRead {e : Event Cluster} (h : e.IsSecretRead) :
    e.goal? = some .tlsInput := by
  obtain ⟨call, answer⟩ := e
  cases call with
  | getSecret ns name => rfl
  | _ => cases h

namespace Goal

/-- The goals that a pass works on before a goal. -/
def earlier (g : Goal) : List Goal := inOrderOfWork.takeWhile (· != g)

/-- The goals that a pass works on after a goal. -/
def later (g : Goal) : List Goal := (inOrderOfWork.dropWhile (· != g)).tail

/-- A goal splits the order of work in what comes before it and what comes after it. -/
theorem earlier_and_later {g : Goal} {before after : List Goal}
    (h : inOrderOfWork = before ++ g :: after) : g.earlier = before ∧ g.later = after := by
  have hnodup : (before ++ g :: after).Nodup := by
    rw [← h]
    decide
  have hbefore : ∀ g' ∈ before, (g' != g) = true := by
    intro g' hg'
    exact bne_iff_ne.2 ((List.nodup_append.1 hnodup).2.2 g' hg' g List.mem_cons_self)
  constructor
  · rw [earlier, h, List.takeWhile_append_of_pos hbefore, List.takeWhile_cons_of_neg (by simp),
      List.append_nil]
  · rw [later, h, List.dropWhile_append_of_pos hbefore, List.dropWhile_cons_of_neg (by simp)]
    rfl

theorem not_mem_earlier {g : Goal} (order : inOrderOfWork = g.earlier ++ g :: g.later) {h : Goal}
    (hh : h ∈ g :: g.later) : h ∉ g.earlier := by
  intro hearlier
  have hnodup : (g.earlier ++ g :: g.later).Nodup := by
    rw [← order]
    decide
  exact (List.nodup_append.1 hnodup).2.2 h hearlier h hh rfl

theorem ne_of_mem_later {g : Goal} (order : inOrderOfWork = g.earlier ++ g :: g.later) {h : Goal}
    (hh : h ∈ g.later) : h ≠ g := by
  have hnodup : (g.earlier ++ g :: g.later).Nodup := by
    rw [← order]
    decide
  rintro rfl
  exact (List.nodup_cons.1 (List.nodup_append.1 hnodup).2.1).1 hh

theorem ne_ready_of_mem {g : Goal} (order : inOrderOfWork = g.earlier ++ g :: g.later) {h : Goal}
    (hh : h ∈ g :: g.later) : h ≠ .ready := by
  rintro rfl
  have hmem : Goal.ready ∈ inOrderOfWork := order ▸ List.mem_append_right g.earlier hh
  revert hmem
  decide

/-- What a pass says of a goal that failed. -/
def errorText (g : Goal) (e : ControlError) : String :=
  if g = .tlsInput then "Error with TLS input: " ++ e.message else e.message

end Goal

/-! ## The marks of the last step -/

/-- The marks that the step of a goal leaves if the pass ends at it, from the last call and the
end. -/
inductive LastMarks : Goal → Event Cluster → Ending → List Mark → Prop where
  | failed {g : Goal} {last : Event Cluster} {e : ControlError} (notLast : g ≠ .deployment) :
      LastMarks g last (.error e) [.failed g (g.errorText e)]
  | underWay {g : Goal} {last : Event Cluster} {d : Duration} {message : String}
      (group : g = .serviceConfig ∨ g = .exposeService) :
      LastMarks g last (.ok (.requeueAfter d)) [.underWay g message]
  | delayed {g : Goal} {last : Event Cluster} {d : Duration}
      (single : g ≠ .serviceConfig ∧ g ≠ .exposeService) :
      LastMarks g last (.ok (.requeueAfter d)) []
  | workloadFailed {last : Event Cluster} {e : ControlError} :
      LastMarks .deployment last (.error e) []
  | recorded {last : Event Cluster} :
      LastMarks .serviceConfig last (.ok .requeue) [.reached .serviceConfig]
  | reported {o : SubResource} {change : Change} {ready : Option Int32} :
      LastMarks .deployment ⟨.apply o, .ok (.converged change ready)⟩ (.ok .done)
        (ready.map replicasMark).toList

theorem LastMarks.goal_eq {g : Goal} {last : Event Cluster} {e : Ending} {ms : List Mark}
    (h : LastMarks g last e ms) {m : Mark} (hm : m ∈ ms) : m.goal = g := by
  cases h with
  | failed _ | underWay _ | recorded => rw [List.mem_singleton.1 hm]; rfl
  | delayed _ | workloadFailed => cases hm
  | @reported o change ready =>
    cases ready with
    | none => cases hm
    | some n =>
      rw [List.mem_singleton.1 hm]
      exact goal_replicasMark n

section Stops

variable {o : SubResource} {a : Except ControlError Applied} {e : Ending} {last : Event Cluster}
  {g : Goal}

/-- Only the message of the TLS inputs says more than the error. -/
theorem lastMarks_failed {f : ControlError} (hworkload : g ≠ .deployment) (htls : g ≠ .tlsInput) :
    LastMarks g last (.error f) [.failed g f.message] := by
  have htext : g.errorText f = f.message := if_neg htls
  rw [← htext]
  exact .failed hworkload

theorem lastMarks_permissionMark (hg : g ∈ [Goal.serviceAccount, .role, .roleBinding])
    (h : Applied.stop? a = some e) : LastMarks g last e (permissionMark g a).toList := by
  have hne : ∀ g' ∈ [Goal.deployment, .serviceConfig, .exposeService, .tlsInput], g ≠ g' := by
    cases g <;> revert hg <;> decide
  match a, h with
  | .ok (.pending d), h =>
    obtain rfl := Option.some.inj h
    exact .delayed ⟨hne _ (by decide), hne _ (by decide)⟩
  | .error f, h =>
    obtain rfl := Option.some.inj h
    exact lastMarks_failed (hne _ (by decide)) (hne _ (by decide))

theorem lastMarks_groupMark (inProgress : String) (hg : g = .serviceConfig ∨ g = .exposeService)
    (h : Applied.stop? a = some e) : LastMarks g last e [groupMark g inProgress (some e)] := by
  match a, h with
  | .ok (.pending d), h =>
    obtain rfl := Option.some.inj h
    exact .underWay hg
  | .error f, h =>
    obtain rfl := Option.some.inj h
    refine lastMarks_failed ?_ ?_ <;> rcases hg with rfl | rfl <;> decide

theorem lastMarks_workloadMark :
    LastMarks .deployment ⟨.apply o, a⟩ (Progress.ofStop Outcome.done (Applied.stop? a)).ending
      (workloadMark a).toList := by
  match a with
  | .ok (.converged change ready) => exact .reported
  | .ok (.pending d) => exact .delayed ⟨by decide, by decide⟩
  | .error f => exact .workloadFailed

end Stops

/-! ## Applying in order -/

namespace ApplyRun

variable {as : List (Except ControlError Applied)}

theorem exists_last {os : List SubResource} {stop : Option Ending} (h : ApplyRun os as stop)
    (hos : os ≠ []) : ∃ o ∈ os, ∃ a, (applyEvents os as).getLast? = some ⟨.apply o, a⟩ ∧
      Applied.stop? a = stop := by
  induction h with
  | done => exact absurd rfl hos
  | @next o os a as stop here rest ih =>
    cases rest with
    | done => exact ⟨o, List.mem_cons_self, a, rfl, here⟩
    | next _ _ | stop _ =>
      obtain ⟨o', ho', a', hlast, hstop⟩ := ih (List.cons_ne_nil _ _)
      refine ⟨o', List.mem_cons_of_mem _ ho', a', ?_, hstop⟩
      rw [applyEvents_cons, List.getLast?_cons, hlast]
      rfl
  | @stop o os a e here =>
    exact ⟨o, List.mem_cons_self, a, by rw [applyEvents_cons, applyEvents_nil]; rfl, here⟩

theorem permissionMarks_eq {os : List PermissionObject}
    (h : ApplyRun (os.map (·.resource)) as none) :
    permissionMarks os as = os.map fun o => .reached o.goal := by
  induction os generalizing as with
  | nil =>
    cases h
    rfl
  | cons o os ih =>
    cases h with
    | @next _ _ a as _ here rest =>
      rw [permissionMarks_cons, ih rest, List.map_cons]
      match a, here with
      | .ok (.converged _ _), _ => rfl

theorem exists_last_permission {os : List PermissionObject} {e : Ending}
    (h : ApplyRun (os.map (·.resource)) as (some e)) :
    ∃ before o after a, os = before ++ o :: after ∧
      (applyEvents (os.map (·.resource)) as).getLast? = some ⟨.apply o.resource, a⟩ ∧
      Applied.stop? a = some e ∧
      permissionMarks os as =
        (before.map fun o => .reached o.goal) ++ (permissionMark o.goal a).toList := by
  induction os generalizing as with
  | nil => cases h
  | cons o os ih =>
    cases h with
    | @next _ _ a as _ here rest =>
      obtain ⟨before, o', after, a', rfl, hlast, hstop, hmarks⟩ := ih rest
      refine ⟨o :: before, o', after, a', rfl, ?_, hstop, ?_⟩
      · rw [List.map_cons, applyEvents_cons, List.getLast?_cons, hlast]
        rfl
      · rw [permissionMarks_cons, hmarks]
        match a, here with
        | .ok (.converged _ _), _ => rfl
    | @stop _ _ a _ here =>
      refine ⟨[], o, os, a, rfl, ?_, here, ?_⟩
      · rw [List.map_cons, applyEvents_cons, applyEvents_nil]
        rfl
      · rw [permissionMarks_cons, permissionMarks_nil, List.append_nil]
        rfl

end ApplyRun

/-! ## Reading the TLS inputs -/

theorem runs_addSecretHash_nil {ns : String} {ref : Option String} {input : String}
    {hash : Secret → Except SecretProblem String} {inputs : InputHashes}
    {x : Except ControlError InputHashes}
    (run : Runs (addSecretHash ns ref input hash inputs) [] x) : x = .ok inputs := by
  cases ref with
  | none => exact (runs_done_iff.1 run).2
  | some name =>
    obtain ⟨a, h, -⟩ := runs_addSecretHash_some.1 run
    cases h

/-- Where reading the TLS inputs fails, the last call is the read of a secret. -/
theorem exists_last_tlsInputs {r : Redis} {reads : Trace} {e : ControlError}
    (run : Runs (tlsInputHashes r) reads (.error e)) :
    ∃ last, reads.getLast? = some last ∧ last.goal? = some .tlsInput := by
  cases hlast : reads.getLast? with
  | some last =>
    have hmem : last ∈ reads := List.mem_of_getLast? hlast
    exact ⟨last, rfl, Event.goal?_of_isSecretRead (runs_tlsInputHashes_reads run last hmem)⟩
  | none =>
    -- Without a read there is nothing to fail.
    obtain rfl := List.getLast?_eq_none_iff.1 hlast
    obtain ⟨t₁, t₂, y, ht, h₁, h⟩ := runs_tlsInputHashes.1 run
    obtain ⟨rfl, rfl⟩ := List.append_eq_nil_iff.1 ht.symm
    obtain rfl := runs_addSecretHash_nil h₁
    obtain ⟨f, hf, -⟩ | ⟨inputs, -, h₂⟩ := h
    · cases hf
    · cases runs_addSecretHash_nil h₂

/-! ## The course of the steps -/

/-- The work of a pass ends at the step of a goal: the last call is for it, the marks of this step
come last, and before them all earlier goals have been reached. -/
structure EndsAt (events : Trace) (ms : List Mark) (e : Ending) (g : Goal) (last : Event Cluster)
    (lastMs : List Mark) : Prop where
  getLast? : events.getLast? = some last
  goal? : last.goal? = some g
  lastMarks : LastMarks g last e lastMs
  order : Goal.inOrderOfWork = g.earlier ++ g :: g.later
  marks : ms = g.earlier.map .reached ++ lastMs

section Course

variable {settings : Settings} {r : Redis} {w : Owned r} {events : Trace} {ms : List Mark}

theorem Owned.goal_permission (w : Owned r) {o : PermissionObject} (ho : o ∈ w.permissions) :
    o.resource.kind.goal = o.goal := by
  simp only [Owned.permissions, List.mem_cons, List.not_mem_nil, or_false] at ho
  rcases ho with rfl | rfl | rfl <;> rfl

theorem Owned.permissions_split (w : Owned r) {before after : List PermissionObject}
    {o : PermissionObject} (h : w.permissions = before ++ o :: after) :
    Goal.inOrderOfWork = before.map (·.goal) ++ o.goal :: (after.map (·.goal) ++
      [.tlsInput, .serviceConfig, .exposeService, .deployment]) := by
  have hgoals : [Goal.serviceAccount, .role, .roleBinding] =
      before.map (·.goal) ++ o.goal :: after.map (·.goal) := by
    rw [← List.map_cons (f := fun p : PermissionObject => p.goal), ← List.map_append, ← h]
    rfl
  show [Goal.serviceAccount, .role, .roleBinding] ++ _ = _
  rw [hgoals, List.append_assoc]
  rfl

theorem Owned.goal_configMap (w : Owned r) {o : SubResource} (ho : o ∈ w.configMaps.map (·.1)) :
    o.kind.goal = .serviceConfig := by
  simp only [Owned.configMaps, List.map_cons, List.map_nil, List.mem_cons, List.not_mem_nil,
    or_false] at ho
  rcases ho with rfl | rfl <;> rfl

theorem Owned.goal_service (w : Owned r) {o : SubResource} (ho : o ∈ w.services) :
    o.kind.goal = .exposeService := by
  simp only [Owned.services, List.mem_cons, List.not_mem_nil, or_false] at ho
  rcases ho with rfl | rfl <;> rfl

/-- Where the inputs have been gathered, all goals up to then have been reached, and the last call
is for a config map. -/
theorem Gathering.reached {inputs : InputHashes} (h : Gathering w events ms (.proceed inputs)) :
    ms = (Goal.earlier .serviceConfig).map .reached ++ [.reached .serviceConfig] ∧
      ∃ last, events.getLast? = some last ∧ last.goal? = some .serviceConfig := by
  generalize hx : Progress.proceed inputs = x at h
  cases h with
  | permissions _ | tlsInputs _ _ => cases hx
  | configMaps permissions tlsInputs configMaps =>
    obtain ⟨rfl, -⟩ := Progress.ofStop_eq_proceed hx.symm
    obtain ⟨o, ho, a, hlast, -⟩ := configMaps.exists_last (List.cons_ne_nil _ _)
    refine ⟨?_, ⟨.apply o, a⟩, ?_, congrArg some (w.goal_configMap ho)⟩
    · rw [permissions.permissionMarks_eq]
      rfl
    · rw [List.getLast?_append, List.getLast?_append, hlast]
      rfl

theorem Gathering.endsAt {e : Ending} (h : Gathering w events ms (.finish e)) :
    ∃ g last lastMs, EndsAt events ms e g last lastMs := by
  generalize hx : Progress.finish e = x at h
  cases h with
  | permissions permissions =>
    -- Each permission has a goal of its own, so the object that is not in place splits the order.
    obtain rfl := Progress.finish.inj hx
    obtain ⟨before, o, after, a, hsplit, hlast, hstop, hmarks⟩ :=
      permissions.exists_last_permission
    have ho : o ∈ w.permissions := by simp [hsplit]
    have horder := w.permissions_split hsplit
    obtain ⟨hearlier, hlater⟩ := Goal.earlier_and_later horder
    have hgoal : o.goal ∈ [Goal.serviceAccount, .role, .roleBinding] :=
      List.mem_map_of_mem (f := fun p : PermissionObject => p.goal) ho
    refine ⟨o.goal, _, _, hlast, congrArg some (w.goal_permission ho),
      lastMarks_permissionMark hgoal hstop, ?_, ?_⟩
    · rw [hearlier, hlater]
      exact horder
    · rw [hmarks, hearlier, List.map_map]
      rfl
  | @tlsInputs as reads f permissions tlsInputs =>
    obtain rfl := Progress.finish.inj hx
    obtain ⟨last, hlast, hgoal⟩ := exists_last_tlsInputs tlsInputs
    refine ⟨.tlsInput, last, [tlsMark (.error f)], ?_, hgoal, .failed (by decide), rfl, ?_⟩
    · rw [List.getLast?_append, hlast]
      rfl
    · rw [permissions.permissionMarks_eq]
      rfl
  | configMaps permissions tlsInputs configMaps =>
    obtain rfl := Progress.ofStop_eq_finish hx.symm
    obtain ⟨o, ho, a, hlast, hstop⟩ := configMaps.exists_last (List.cons_ne_nil _ _)
    refine ⟨.serviceConfig, ⟨.apply o, a⟩,
      [groupMark .serviceConfig Progress.serviceConfig (some e)], ?_,
      congrArg some (w.goal_configMap ho), lastMarks_groupMark _ (.inl rfl) hstop, rfl, ?_⟩
    · rw [List.getLast?_append, List.getLast?_append, hlast]
      rfl
    · rw [permissions.permissionMarks_eq]
      rfl

/-- **The work of a pass ends at the step of its last call.** -/
theorem WorkCourse.endsAt {recorded hash : StringMap String} {x : Progress Outcome}
    (h : WorkCourse settings w recorded events ms hash x) :
    ∃ g last lastMs, EndsAt events ms x.ending g last lastMs := by
  cases h with
  | stopped gathering => exact gathering.endsAt
  | recorded gathered _ =>
    obtain ⟨hmarks, last, hlast, hgoal⟩ := gathered.reached
    exact ⟨.serviceConfig, last, _, hlast, hgoal, .recorded, rfl, hmarks⟩
  | @services _ _ _ _ e gathered _ services =>
    obtain ⟨hmarks, -⟩ := gathered.reached
    obtain ⟨o, ho, a, hlast, hstop⟩ := services.exists_last (List.cons_ne_nil _ _)
    refine ⟨.exposeService, ⟨.apply o, a⟩,
      [groupMark .exposeService Progress.exposeService (some e)], ?_,
      congrArg some (w.goal_service ho), lastMarks_groupMark _ (.inr rfl) hstop, rfl, ?_⟩
    · rw [List.getLast?_append, hlast]
      rfl
    · rw [hmarks]
      rfl
  | @workload _ _ inputs _ a gathered _ _ =>
    obtain ⟨hmarks, -⟩ := gathered.reached
    refine ⟨.deployment, ⟨.apply (w.workload settings inputs.aggregate), a⟩, _, ?_, rfl,
      lastMarks_workloadMark, rfl, ?_⟩
    · rw [List.getLast?_append, List.getLast?_append]
      rfl
    · rw [hmarks]
      exact (List.append_assoc ..).symm

end Course

end RedisControl
