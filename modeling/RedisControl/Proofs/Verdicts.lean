import RedisControl.Proofs.PassRuns

/-!
# Verdicts

What a pass says of each goal can be read off the answers that it got, without knowing its steps:
a permission object decides its goal as soon as it is answered with anything but a delay, the TLS
inputs decide theirs once the permissions are in place, a pair of objects decides its goal with
both in place or one not, and the workload where it reports its replicas.

* `Trace.verdict` : the verdict on a goal, from the answers.
* `Mark.decided` : the verdict on a goal, from the marks.
* `WorkCourse.decided_eq_verdict` : they are the same.
* `WorkCourse.goals_sublist` : the marks of a pass are for different goals.
-/

namespace RedisControl

open Program

/-! ## From the answers -/

/-- Whether an answer says that the object is in place. -/
def Applied.inPlace : Except ControlError Applied → Bool
  | .ok (.converged _ _) => true
  | _ => false

/-- What an answer says of the goal that the object stands for. -/
def Applied.verdict : Except ControlError Applied → Option Truth
  | .ok (.converged _ _) => some .true
  | .ok (.pending _) => none
  | .error _ => some .false

namespace Trace

/-- The verdict on a permission, by the answer to its application. -/
def permissionVerdict (k : Kind) (t : Trace) : Option Truth :=
  (answers k t).head?.bind Applied.verdict

/-- Whether all three permission objects are in place. -/
def permissionsInPlace (t : Trace) : Bool :=
  [Kind.serviceAccount, .role, .roleBinding].all fun k => (answers k t).any Applied.inPlace

/-- The verdict on the TLS inputs, which are looked at once the permissions are in place. -/
def tlsVerdict (r : Redis) (t : Trace) : Option Truth :=
  if permissionsInPlace t then
    match tlsResult r (secretAnswers t) with
    | .ok _ => some .true
    | .error _ => some .false
  else none

/-- The verdict on two objects that are applied one after the other. One of them that is not in
place is the last. -/
def pairVerdict (k : Kind) (t : Trace) : Option Truth :=
  if (answers k t).all Applied.inPlace then
    if (answers k t).length = 2 then some .true else none
  else some .false

/-- The verdict on the workload, by the replicas that it reports; without a report there is none. -/
def workloadVerdict (t : Trace) : Option Truth :=
  match (answers .statefulSet t).head? with
  | some (.ok (.converged _ (some ready))) => some (if 0 < ready then .true else .false)
  | _ => none

/-- The verdict on a goal, from the answers that a pass over an instance got. -/
def verdict (r : Redis) (t : Trace) : Goal → Option Truth
  | .ready => none
  | .tlsInput => tlsVerdict r t
  | .exposeService => pairVerdict .service t
  | .serviceConfig => pairVerdict .configMap t
  | .deployment => workloadVerdict t
  | .serviceAccount => permissionVerdict .serviceAccount t
  | .role => permissionVerdict .role t
  | .roleBinding => permissionVerdict .roleBinding t

/-! ## Answers of a run, part by part -/

@[simp] theorem answers_append (k : Kind) (t u : Trace) :
    answers k (t ++ u) = answers k t ++ answers k u := by
  simp only [answers, applicationsOf, applications_append, List.filter_append, List.map_append]

theorem answers_reads {t : Trace} (h : ∀ e ∈ t, e.IsSecretRead) (k : Kind) : answers k t = [] := by
  rw [answers, applicationsOf, applications_reads h]
  rfl

theorem answers_applyEvents_self {k : Kind} {os : List SubResource}
    (h : ∀ k' ∈ os.map (·.kind), k' = k) {as : List (Except ControlError Applied)}
    (hl : as.length ≤ os.length) : answers k (applyEvents os as) = as := by
  rw [answers, applicationsOf, applications_applyEvents, List.filter_eq_self.2]
  · exact List.map_snd_zip hl
  · intro e he
    rw [h e.1.kind (List.mem_map_of_mem (List.of_mem_zip he).1)]
    exact beq_self_eq_true k

theorem answers_applyEvents_of_not_mem {k : Kind} {os : List SubResource}
    (h : k ∉ os.map (·.kind)) (as : List (Except ControlError Applied)) :
    answers k (applyEvents os as) = [] := by
  rw [answers, applicationsOf, applications_applyEvents, List.filter_eq_nil_iff.2]
  · rfl
  · intro e he hk
    rw [← eq_of_beq hk] at h
    exact h (List.mem_map_of_mem (List.of_mem_zip he).1)

/-- The kinds of the objects that decide a goal. -/
def kindsOf : Goal → List Kind
  | .ready => []
  | .tlsInput => [.serviceAccount, .role, .roleBinding]
  | .exposeService => [.service]
  | .serviceConfig => [.configMap]
  | .deployment => [.statefulSet]
  | .serviceAccount => [.serviceAccount]
  | .role => [.role]
  | .roleBinding => [.roleBinding]

theorem permissionsInPlace_congr {t u : Trace}
    (h : ∀ k ∈ [Kind.serviceAccount, .role, .roleBinding], answers k t = answers k u) :
    permissionsInPlace t = permissionsInPlace u := by
  simp only [List.forall_mem_cons] at h
  simp only [permissionsInPlace, List.all_cons, List.all_nil, h.1, h.2.1, h.2.2.1]

/-- What a verdict depends on. -/
theorem verdict_congr {r : Redis} {t u : Trace} {g : Goal}
    (h : ∀ k ∈ kindsOf g, answers k t = answers k u)
    (hs : g = .tlsInput → secretAnswers t = secretAnswers u) :
    verdict r t g = verdict r u g := by
  cases g with
  | ready => rfl
  | tlsInput =>
    rw [verdict, verdict, tlsVerdict, tlsVerdict, permissionsInPlace_congr h, hs rfl]
  | exposeService | serviceConfig =>
    simp only [verdict, pairVerdict, h _ (List.mem_singleton_self _)]
  | deployment => simp only [verdict, workloadVerdict, h _ (List.mem_singleton_self _)]
  | serviceAccount | role | roleBinding =>
    simp only [verdict, permissionVerdict, h _ (List.mem_singleton_self _)]

/-- Where no object that decides a goal has been applied, nothing is said of it. -/
theorem verdict_eq_none {r : Redis} {t : Trace} {g : Goal} (h : ∀ k ∈ kindsOf g, answers k t = []) :
    verdict r t g = none := by
  cases g with
  | ready => rfl
  | tlsInput =>
    simp only [verdict, tlsVerdict, permissionsInPlace, List.all_cons,
      h _ List.mem_cons_self, List.any_nil, Bool.false_and]
    rfl
  | exposeService | serviceConfig =>
    simp only [verdict, pairVerdict, h _ (List.mem_singleton_self _)]
    rfl
  | deployment =>
    simp only [verdict, workloadVerdict, h _ (List.mem_singleton_self _)]
    rfl
  | serviceAccount | role | roleBinding =>
    simp only [verdict, permissionVerdict, h _ (List.mem_singleton_self _)]
    rfl

end Trace

/-! ## From the marks -/

/-- The verdict on a goal, from marks. -/
def Mark.decided (ms : List Mark) (g : Goal) : Option Truth :=
  (ms.find? fun m => m.goal == g).map (·.status)

namespace Mark

@[simp] theorem decided_nil (g : Goal) : decided [] g = none := rfl

theorem decided_cons (m : Mark) (ms : List Mark) (g : Goal) :
    decided (m :: ms) g = if m.goal = g then some m.status else decided ms g := by
  by_cases h : m.goal = g <;> simp [decided, h]

theorem decided_append (ms ns : List Mark) (g : Goal) :
    decided (ms ++ ns) g = (decided ms g).or (decided ns g) := by
  rw [decided, decided, decided, List.find?_append]
  cases ms.find? fun m => m.goal == g <;> rfl

theorem decided_eq_none {ms : List Mark} {g : Goal} (h : g ∉ ms.map (·.goal)) :
    decided ms g = none := by
  rw [decided, List.find?_eq_none.2]
  · rfl
  · intro m hm hg
    exact h (List.mem_map.2 ⟨m, hm, by simpa using hg⟩)

theorem decided_permissionMark (g g' : Goal) (a : Except ControlError Applied) :
    decided (permissionMark g a).toList g' = if g = g' then Applied.verdict a else none := by
  match a with
  | .ok (.converged _ _) | .error _ => exact decided_cons _ [] g'
  | .ok (.pending _) => exact (ite_self none).symm

end Mark

/-! ## Marks of a course -/

/-- The goals in the order in which a pass works on them. -/
def Goal.inOrderOfWork : List Goal :=
  [.serviceAccount, .role, .roleBinding, .tlsInput, .serviceConfig, .exposeService, .deployment]

theorem goals_permissionMark (g : Goal) (a : Except ControlError Applied) :
    ((permissionMark g a).toList.map (·.goal)).Sublist [g] := by
  match a with
  | .ok (.converged _ _) | .error _ => exact .refl _
  | .ok (.pending _) => exact List.nil_sublist _

theorem goals_permissionMarks (os : List PermissionObject)
    (as : List (Except ControlError Applied)) :
    ((permissionMarks os as).map (·.goal)).Sublist (os.map (·.goal)) := by
  induction os generalizing as with
  | nil => exact .refl _
  | cons o os ih =>
    cases as with
    | nil =>
      rw [permissionMarks_nil]
      exact List.nil_sublist _
    | cons a as =>
      rw [permissionMarks_cons, List.map_append]
      exact (goals_permissionMark o.goal a).append (ih as)

theorem goal_tlsMark (result : Except ControlError InputHashes) :
    (tlsMark result).goal = .tlsInput := by
  cases result <;> rfl

theorem goal_groupMark (g : Goal) (inProgress : String) (stop : Option Ending) :
    (groupMark g inProgress stop).goal = g := by
  match stop with
  | none | some (.ok _) | some (.error _) => rfl

theorem goal_replicasMark (ready : Int32) : (replicasMark ready).goal = .deployment := by
  rw [replicasMark]
  split <;> rfl

theorem goals_workloadMark (a : Except ControlError Applied) :
    ((workloadMark a).toList.map (·.goal)).Sublist [.deployment] := by
  match a with
  | .ok (.converged _ (some ready)) =>
    have h : [(replicasMark ready).goal] = [.deployment] :=
      congrArg (fun g => [g]) (goal_replicasMark ready)
    exact h ▸ .refl _
  | .ok (.converged _ none) | .ok (.pending _) | .error _ => exact List.nil_sublist _

variable {settings : Settings} {r : Redis} {w : Owned r}

theorem Gathering.goals_sublist {events : Trace} {ms : List Mark} {x : Progress InputHashes}
    (h : Gathering w events ms x) : (ms.map (·.goal)).Sublist
      ([Goal.serviceAccount, Goal.role, Goal.roleBinding] ++
        ([Goal.tlsInput] ++ [Goal.serviceConfig])) := by
  have hp : ∀ as, ((permissionMarks w.permissions as).map (·.goal)).Sublist
      [.serviceAccount, .role, .roleBinding] := goals_permissionMarks w.permissions
  cases h with
  | permissions _ => exact (hp _).trans (List.sublist_append_left _ _)
  | tlsInputs _ _ =>
    rw [List.map_append, List.map_cons, List.map_nil, goal_tlsMark]
    exact (hp _).append (List.sublist_append_left _ _)
  | configMaps _ _ _ =>
    rw [List.map_append, List.map_append, List.map_cons, List.map_cons, List.map_nil,
      goal_tlsMark, goal_groupMark]
    exact (hp _).append (.refl _)

/-- The marks of a pass are for different goals, in the order of the work. -/
theorem WorkCourse.goals_sublist {recorded hash : StringMap String} {events : Trace}
    {ms : List Mark} {x : Progress Outcome}
    (h : WorkCourse settings w recorded events ms hash x) :
    (ms.map (·.goal)).Sublist Goal.inOrderOfWork := by
  show (ms.map (·.goal)).Sublist (([Goal.serviceAccount, Goal.role, Goal.roleBinding] ++
    ([Goal.tlsInput] ++ [Goal.serviceConfig])) ++ ([Goal.exposeService] ++ [Goal.deployment]))
  cases h with
  | stopped gathering | recorded gathering _ =>
    exact gathering.goals_sublist.trans (List.sublist_append_left _ _)
  | services gathering _ _ =>
    rw [List.map_append, List.map_cons, List.map_nil, goal_groupMark]
    exact gathering.goals_sublist.append (List.sublist_append_left _ _)
  | workload gathering _ _ =>
    rw [List.map_append, List.map_append, List.map_cons, List.map_nil, goal_groupMark]
    exact gathering.goals_sublist.append ((List.Sublist.refl _).append (goals_workloadMark _))

theorem WorkCourse.nodup_goals {recorded hash : StringMap String} {events : Trace}
    {ms : List Mark} {x : Progress Outcome}
    (h : WorkCourse settings w recorded events ms hash x) : (ms.map (·.goal)).Nodup :=
  h.goals_sublist.nodup (by decide)

theorem WorkCourse.ready_not_mem {recorded hash : StringMap String} {events : Trace}
    {ms : List Mark} {x : Progress Outcome}
    (h : WorkCourse settings w recorded events ms hash x) : Goal.ready ∉ ms.map (·.goal) :=
  fun hmem => absurd (h.goals_sublist.mem hmem) (by decide)

/-! ## Both verdicts are the same -/

theorem Applied.stop?_isNone (a : Except ControlError Applied) :
    (Applied.stop? a).isNone = Applied.inPlace a := by
  match a with
  | .ok (.converged _ _) | .ok (.pending _) | .error _ => rfl

theorem ApplyRun.all_inPlace {os : List SubResource} {as : List (Except ControlError Applied)}
    {stop : Option Ending} (h : ApplyRun os as stop) : as.all Applied.inPlace = stop.isNone := by
  induction h with
  | done => rfl
  | next here _ ih => rw [List.all_cons, ← Applied.stop?_isNone, here, ih]; rfl
  | stop here => rw [List.all_cons, ← Applied.stop?_isNone, here]; rfl

/-- Where every object that is applied comes to be in place, nothing stops the pass. -/
theorem ApplyRun.stop_eq_none {os : List SubResource} {as : List (Except ControlError Applied)}
    {stop : Option Ending} (h : ApplyRun os as stop)
    (inPlace : ∀ o ∈ os, ∀ a, ⟨.apply o, a⟩ ∈ applyEvents os as → Applied.inPlace a = true) :
    stop = none := by
  induction h with
  | done => rfl
  | next _ _ ih =>
    rw [List.forall_mem_cons] at inPlace
    exact ih fun o ho a ha => inPlace.2 o ho a (List.mem_cons_of_mem _ ha)
  | stop here =>
    have hplace := inPlace _ List.mem_cons_self _ List.mem_cons_self
    rw [← Applied.stop?_isNone, here] at hplace
    cases hplace

theorem status_groupMark (g : Goal) (inProgress : String) (stop : Option Ending) :
    (groupMark g inProgress stop).status = if stop.isNone then .true else .false := by
  match stop with
  | none | some (.ok _) | some (.error _) => rfl

/-- A pair of objects of one kind that were applied in order. -/
theorem ApplyRun.pairVerdict_eq {os : List SubResource} {as : List (Except ControlError Applied)}
    {stop : Option Ending} (h : ApplyRun os as stop) (hos : os.length = 2) {k : Kind} {t : Trace}
    (ht : Trace.answers k t = as) (g : Goal) (inProgress : String) :
    Trace.pairVerdict k t = some (groupMark g inProgress stop).status := by
  rw [Trace.pairVerdict, ht, h.all_inPlace, status_groupMark]
  cases stop with
  | none => simp [h.length_eq, hos]
  | some e => rfl

theorem workloadVerdict_eq {t : Trace} {a : Except ControlError Applied}
    (ht : Trace.answers .statefulSet t = [a]) :
    Trace.workloadVerdict t = Mark.decided (workloadMark a).toList .deployment := by
  rw [Trace.workloadVerdict, ht]
  match a with
  | .ok (.converged _ (some ready)) =>
    show _ = Mark.decided [replicasMark ready] .deployment
    rw [Mark.decided_cons, if_pos (goal_replicasMark ready), replicasMark]
    by_cases h : 0 < ready <;> simp [h, Mark.reached, Mark.underWay]
  | .ok (.converged _ none) | .ok (.pending _) | .error _ => rfl

/-- Permission objects decide their own goals. -/
theorem permissionVerdict_eq (w : Owned r) {as : List (Except ControlError Applied)}
    (hl : as.length ≤ 3) {g : Goal} (hg : g ∈ [Goal.serviceAccount, .role, .roleBinding]) :
    Mark.decided (permissionMarks w.permissions as) g =
      Trace.verdict r (applyEvents (w.permissions.map (·.resource)) as) g := by
  rcases as with _ | ⟨a, _ | ⟨b, _ | ⟨c, _ | ⟨d, as⟩⟩⟩⟩
  case cons.cons.cons.cons => exact absurd hl (by simp)
  all_goals
    simp only [Owned.permissions, permissionMarks_cons, permissionMarks_nil, Mark.decided_append,
      Mark.decided_permissionMark, Mark.decided_nil]
    simp only [List.mem_cons, List.not_mem_nil, or_false] at hg
    rcases hg with rfl | rfl | rfl <;> simp <;> rfl

theorem permissionsInPlace_eq (w : Owned r) {as : List (Except ControlError Applied)}
    {stop : Option Ending} (h : ApplyRun (w.permissions.map (·.resource)) as stop) :
    Trace.permissionsInPlace (applyEvents (w.permissions.map (·.resource)) as) = stop.isNone := by
  have hl : as.length ≤ 3 := h.length_le
  have hfew : as.length ≠ 3 → stop.isNone = false := by
    intro hne
    cases stop with
    | none => exact absurd h.length_eq hne
    | some e => rfl
  rcases as with _ | ⟨a, _ | ⟨b, _ | ⟨c, _ | ⟨d, as⟩⟩⟩⟩
  case cons.cons.cons.cons => exact absurd hl (by simp)
  case cons.cons.cons.nil =>
    rw [← h.all_inPlace]
    show ((Applied.inPlace a || false) && ((Applied.inPlace b || false) &&
      ((Applied.inPlace c || false) && true))) = _
    simp only [Bool.or_false, List.all_cons, List.all_nil]
  all_goals
    rw [hfew (by simp)]
    simp only [Trace.permissionsInPlace, List.all_cons, List.all_nil]
    show (_ && (_ && (false && true))) = false
    simp only [Bool.false_and, Bool.and_false]

theorem kind_permissions (w : Owned r) :
    (w.permissions.map (·.resource)).map (·.kind) = [.serviceAccount, .role, .roleBinding] := rfl

theorem kind_configMaps (w : Owned r) :
    (w.configMaps.map (·.1)).map (·.kind) = [.configMap, .configMap] := rfl

theorem kind_services (w : Owned r) : w.services.map (·.kind) = [.service, .service] := rfl

/-- What is applied with the workload says nothing of the goals of other objects, and the TLS
inputs do not hang on it either. -/
theorem verdict_append_applyEvents {t : Trace} {os : List SubResource} {g : Goal}
    (h : ∀ k ∈ Trace.kindsOf g, k ∉ os.map (·.kind)) (as : List (Except ControlError Applied)) :
    Trace.verdict r (t ++ applyEvents os as) g = Trace.verdict r t g := by
  refine Trace.verdict_congr (fun k hk => ?_) fun _ => ?_
  · rw [Trace.answers_append, Trace.answers_applyEvents_of_not_mem (h k hk), List.append_nil]
  · rw [Trace.secretAnswers_append, secretAnswers_applyEvents, List.append_nil]

theorem verdict_append_reads {t reads : Trace} (h : ∀ e ∈ reads, e.IsSecretRead) {g : Goal}
    (hg : g ≠ .tlsInput) : Trace.verdict r (t ++ reads) g = Trace.verdict r t g := by
  refine Trace.verdict_congr (fun k _ => ?_) fun he => absurd he hg
  rw [Trace.answers_append, Trace.answers_reads h, List.append_nil]

theorem decided_permissionMarks_eq_none (w : Owned r) (as : List (Except ControlError Applied))
    {g : Goal} (hg : g ∉ [Goal.serviceAccount, .role, .roleBinding]) :
    Mark.decided (permissionMarks w.permissions as) g = none :=
  Mark.decided_eq_none fun h => hg ((goals_permissionMarks w.permissions as).mem h)

theorem decided_permissionMarks (w : Owned r) {as : List (Except ControlError Applied)}
    (hl : as.length ≤ 3) {g : Goal} (hg : g ≠ .tlsInput) :
    Mark.decided (permissionMarks w.permissions as) g =
      Trace.verdict r (applyEvents (w.permissions.map (·.resource)) as) g := by
  by_cases hperm : g ∈ [Goal.serviceAccount, .role, .roleBinding]
  · exact permissionVerdict_eq w hl hperm
  · rw [decided_permissionMarks_eq_none w as hperm, Trace.verdict_eq_none]
    intro k hk
    refine Trace.answers_applyEvents_of_not_mem ?_ as
    rw [kind_permissions]
    revert k
    cases g <;> first | decide | exact absurd rfl hg | exact absurd (by decide) hperm

theorem decided_tlsMark (w : Owned r) {as : List (Except ControlError Applied)} {reads : Trace}
    {result : Except ControlError InputHashes}
    (permissions : ApplyRun (w.permissions.map (·.resource)) as none)
    (tlsInputs : Runs (tlsInputHashes r) reads result) (g : Goal) :
    Mark.decided (permissionMarks w.permissions as ++ [tlsMark result]) g =
      Trace.verdict r (applyEvents (w.permissions.map (·.resource)) as ++ reads) g := by
  have hreads := runs_tlsInputHashes_reads tlsInputs
  rw [Mark.decided_append, Mark.decided_cons, goal_tlsMark, Mark.decided_nil]
  by_cases hg : g = .tlsInput
  · subst hg
    have hplace : Trace.permissionsInPlace
        (applyEvents (w.permissions.map (·.resource)) as ++ reads) = true := by
      rw [← Option.isNone_none, ← permissionsInPlace_eq w permissions]
      refine Trace.permissionsInPlace_congr ?_
      intro k _
      rw [Trace.answers_append, Trace.answers_reads hreads, List.append_nil]
    rw [decided_permissionMarks_eq_none w as (by decide), Option.none_or, if_pos rfl,
      Trace.verdict, Trace.tlsVerdict, if_pos hplace, Trace.secretAnswers_append,
      secretAnswers_applyEvents, List.nil_append, tlsResult_of_runs tlsInputs]
    cases result <;> rfl
  · rw [if_neg (Ne.symm hg), Option.or_none, verdict_append_reads hreads hg,
      decided_permissionMarks w permissions.length_le hg]

/-- The part of a pass that gathers the inputs. -/
theorem Gathering.decided_eq_verdict {events : Trace} {ms : List Mark} {x : Progress InputHashes}
    (h : Gathering w events ms x) (g : Goal) :
    Mark.decided ms g = Trace.verdict r events g := by
  cases h with
  | @permissions as e permissions =>
    by_cases hg : g = .tlsInput
    · subst hg
      rw [decided_permissionMarks_eq_none w as (by decide), Trace.verdict, Trace.tlsVerdict,
        permissionsInPlace_eq w permissions]
      rfl
    · exact decided_permissionMarks w permissions.length_le hg
  | tlsInputs permissions tlsInputs => exact decided_tlsMark w permissions tlsInputs g
  | @configMaps as cs reads secrets stop permissions tlsInputs configMaps =>
    -- The mark of the config maps comes last and is for one goal. On all others the parts before it
    -- decide, and so do the answers before those about config maps.
    rw [← List.append_assoc, ← List.append_assoc, Mark.decided_append, Mark.decided_cons,
      goal_groupMark, Mark.decided_nil]
    by_cases hg : g = .serviceConfig
    · subst hg
      have hcs : Trace.answers .configMap
          (applyEvents (w.permissions.map (·.resource)) as ++ reads ++
            applyEvents (w.configMaps.map (·.1)) cs) = cs := by
        rw [Trace.answers_append, Trace.answers_append,
          Trace.answers_reads (runs_tlsInputHashes_reads tlsInputs),
          Trace.answers_applyEvents_of_not_mem (by rw [kind_permissions]; decide),
          Trace.answers_applyEvents_self (by rw [kind_configMaps]; decide) configMaps.length_le]
        rfl
      rw [Mark.decided_append, decided_permissionMarks_eq_none w as (by decide), Mark.decided_cons,
        goal_tlsMark, if_neg (by decide), if_pos rfl]
      exact (configMaps.pairVerdict_eq rfl hcs _ _).symm
    · have hk : ∀ k ∈ Trace.kindsOf g, k ∉ (w.configMaps.map (·.1)).map (·.kind) := by
        rw [kind_configMaps]
        cases g <;> first | decide | exact absurd rfl hg
      rw [if_neg (Ne.symm hg), Option.or_none, verdict_append_applyEvents hk,
        decided_tlsMark w permissions tlsInputs]

/-- Gathering the inputs applies neither services nor the workload. -/
theorem Gathering.answers_eq_nil {events : Trace} {ms : List Mark} {x : Progress InputHashes}
    (h : Gathering w events ms x) {k : Kind} (hk : k ∈ [Kind.service, .statefulSet]) :
    Trace.answers k events = [] := by
  have hp : k ∉ (w.permissions.map (·.resource)).map (·.kind) := by
    rw [kind_permissions]
    cases k <;> revert hk <;> decide
  have hc : k ∉ (w.configMaps.map (·.1)).map (·.kind) := by
    rw [kind_configMaps]
    cases k <;> revert hk <;> decide
  cases h with
  | permissions _ => exact Trace.answers_applyEvents_of_not_mem hp _
  | tlsInputs _ tlsInputs =>
    rw [Trace.answers_append, Trace.answers_applyEvents_of_not_mem hp,
      Trace.answers_reads (runs_tlsInputHashes_reads tlsInputs)]
    rfl
  | configMaps _ tlsInputs _ =>
    rw [Trace.answers_append, Trace.answers_append, Trace.answers_applyEvents_of_not_mem hp,
      Trace.answers_reads (runs_tlsInputHashes_reads tlsInputs),
      Trace.answers_applyEvents_of_not_mem hc]
    rfl

/-- The services come after the inputs have been gathered. -/
theorem Gathering.decided_services {events : Trace} {ms : List Mark} {x : Progress InputHashes}
    (h : Gathering w events ms x) {as : List (Except ControlError Applied)} {stop : Option Ending}
    (services : ApplyRun w.services as stop) (g : Goal) :
    Mark.decided (ms ++ [groupMark .exposeService Progress.exposeService stop]) g =
      Trace.verdict r (events ++ applyEvents w.services as) g := by
  rw [Mark.decided_append, Mark.decided_cons, goal_groupMark, Mark.decided_nil]
  by_cases hg : g = .exposeService
  · subst hg
    have has : Trace.answers .service (events ++ applyEvents w.services as) = as := by
      rw [Trace.answers_append, h.answers_eq_nil (by decide),
        Trace.answers_applyEvents_self (by rw [kind_services]; decide) services.length_le]
      rfl
    have hnone : Mark.decided ms .exposeService = none :=
      Mark.decided_eq_none fun hmem => absurd (h.goals_sublist.mem hmem) (by decide)
    rw [hnone, if_pos rfl]
    exact (services.pairVerdict_eq rfl has _ _).symm
  · have hk : ∀ k ∈ Trace.kindsOf g, k ∉ w.services.map (·.kind) := by
      rw [kind_services]
      cases g <;> first | decide | exact absurd rfl hg
    rw [if_neg (Ne.symm hg), Option.or_none, verdict_append_applyEvents hk, h.decided_eq_verdict]

/-- **The marks of a pass are the verdicts that its answers imply.** -/
theorem WorkCourse.decided_eq_verdict {recorded hash : StringMap String} {events : Trace}
    {ms : List Mark} {x : Progress Outcome}
    (h : WorkCourse settings w recorded events ms hash x) (g : Goal) :
    Mark.decided ms g = Trace.verdict r events g := by
  cases h with
  | stopped gathering | recorded gathering _ => exact gathering.decided_eq_verdict g
  | services gathering _ services => exact gathering.decided_services services g
  | @workload events ms inputs as a gathering _ services =>
    have happly : [⟨.apply (w.workload settings inputs.aggregate), a⟩] =
        applyEvents [w.workload settings inputs.aggregate] [a] := rfl
    -- The mark of the workload, if it leaves one, comes last and is for one goal.
    rw [← List.append_assoc, ← List.append_assoc, Mark.decided_append, happly]
    by_cases hg : g = .deployment
    · subst hg
      -- The workload is applied once, and only if it reports replicas does it leave a mark. Nothing
      -- before it says anything of its goal.
      have ha : Trace.answers .statefulSet (events ++ applyEvents w.services as ++
          applyEvents [w.workload settings inputs.aggregate] [a]) = [a] := by
        rw [Trace.answers_append, Trace.answers_append, gathering.answers_eq_nil (by decide),
          Trace.answers_applyEvents_of_not_mem (by rw [kind_services]; decide)]
        rfl
      have hnone : Mark.decided (ms ++ [groupMark .exposeService Progress.exposeService none])
          .deployment = none := by
        rw [gathering.decided_services services, verdict_append_applyEvents
          (by rw [kind_services]; decide), ← gathering.decided_eq_verdict]
        exact Mark.decided_eq_none fun hmem =>
          absurd (gathering.goals_sublist.mem hmem) (by decide)
      rw [hnone, Option.none_or]
      exact (workloadVerdict_eq ha).symm
    -- Of any other goal neither the mark of the workload nor the answer about it says anything.
    · have hk : ∀ k ∈ Trace.kindsOf g,
          k ∉ [w.workload settings inputs.aggregate].map (·.kind) := by
        show ∀ k ∈ Trace.kindsOf g, k ∉ [Kind.statefulSet]
        cases g <;> first | decide | exact absurd rfl hg
      have hnone : Mark.decided (workloadMark a).toList g = none :=
        Mark.decided_eq_none fun hmem =>
          hg (List.mem_singleton.1 ((goals_workloadMark a).mem hmem))
      rw [hnone, Option.or_none, verdict_append_applyEvents hk,
        gathering.decided_services services]

end RedisControl
