import RedisControl.Proofs.StepRules

/-!
# What each step of a pass does

One lemma for each step gives its runs: the exchange with the cluster, the marks that it enters,
and whether it goes on. Later proofs cite these and do not look into a step again.

* `runs_ensurePermissions`, `runs_ensureConfigMaps`, `runs_ensureServices` : the steps that apply
  objects in order.
* `runs_ensureRecorded` : the comparison with the record.
* `runs_ensureWorkload` : the last step.
-/

namespace RedisControl

open Program

/-- Inputs with others added one after the other. -/
def InputHashes.insertAll (l : List (String × String)) (inputs : InputHashes) : InputHashes :=
  l.foldl (fun i e => i.insert e.1 e.2) inputs

theorem InputHashes.insertAll_append (l more : List (String × String)) (inputs : InputHashes) :
    inputs.insertAll (l ++ more) = (inputs.insertAll l).insertAll more := List.foldl_append

/-! ## Marks of the steps -/

/-- The mark that an answer leaves on the goal of a permission object. Where the cluster has not
gone along yet, none is left. -/
def permissionMark (g : Goal) : Except ControlError Applied → Option Mark
  | .ok (.converged _ _) => some (.reached g)
  | .ok (.pending _) => none
  | .error e => some (.failed g e.message)

/-- The marks of the permissions, one for each answer that enters one. -/
def permissionMarks (os : List PermissionObject) (as : List (Except ControlError Applied)) :
    List Mark :=
  (os.zip as).filterMap fun e => permissionMark e.1.goal e.2

theorem permissionMarks_cons (o : PermissionObject) (os : List PermissionObject)
    (a : Except ControlError Applied) (as : List (Except ControlError Applied)) :
    permissionMarks (o :: os) (a :: as) =
      (permissionMark o.goal a).toList ++ permissionMarks os as := by
  rw [permissionMarks, List.zip_cons_cons, List.filterMap_cons]
  cases permissionMark o.goal a <;> rfl

theorem permissionMarks_nil (os : List PermissionObject) : permissionMarks os [] = [] := by
  rw [permissionMarks, List.zip_nil_right]
  rfl

/-- The mark on a goal that takes several objects, from how applying them ended. -/
def groupMark (g : Goal) (inProgress : String) : Option Ending → Mark
  | none => .reached g
  | some (.ok _) => .underWay g inProgress
  | some (.error e) => .failed g e.message

/-- The mark of the TLS inputs. -/
def tlsMark : Except ControlError InputHashes → Mark
  | .ok _ => .reached .tlsInput
  | .error e => .failed .tlsInput ("Error with TLS input: " ++ e.message)

/-- The mark that a number of ready replicas leaves. -/
def replicasMark (ready : Int32) : Mark :=
  if 0 < ready then .reached .deployment else .underWay .deployment Progress.deployment

/-- The mark that an answer leaves on the workload: none, unless the workload is in place and
reports its replicas. -/
def workloadMark : Except ControlError Applied → Option Mark
  | .ok (.converged _ ready) => ready.map replicasMark
  | _ => none

/-! ## Permissions -/

theorem runs_ensurePermissions {os : List PermissionObject} {s s' : Status} {t : Trace}
    {x : Progress Unit} (run : Runs (ensurePermissions os s) t (x, s')) :
    ∃ as stop, ApplyRun (os.map (·.resource)) as stop ∧ x = .ofStop () stop ∧
      Effect t (applyEvents (os.map (·.resource)) as) (permissionMarks os as) s s' := by
  induction os generalizing s t with
  | nil =>
    obtain ⟨rfl, rfl, rfl⟩ := Step.runs_proceed.1 run
    exact ⟨[], none, .done, rfl, .nil _⟩
  | cons o os ih =>
    obtain ⟨a, t₁, rfl, h⟩ := Step.runs_apply_bind.1 run
    -- Each permission has a goal and a mark of its own, so a mark is entered before the next one is
    -- applied; a delay enters none.
    match a, h with
    | .ok (.converged change ready), h =>
      obtain ⟨τ, t₂, rfl, h'⟩ := (Step.runs_enter_bind (m := .reached o.goal)).1 h
      obtain ⟨as, stop, hrun, rfl, heff⟩ := ih h'
      refine ⟨.ok (.converged change ready) :: as, stop, .next rfl hrun, rfl, ?_⟩
      rw [permissionMarks_cons]
      exact .apply _ _ (.enter heff)
    | .ok (.pending after), h =>
      obtain ⟨rfl, rfl, rfl⟩ := Step.runs_finish.1 h
      refine ⟨[.ok (.pending after)], _, .stop rfl, rfl, ?_⟩
      rw [permissionMarks_cons, permissionMarks_nil, List.map_cons, applyEvents_cons,
        applyEvents_nil]
      exact .apply _ _ (.nil _)
    | .error e, h =>
      obtain ⟨τ, t₂, rfl, h'⟩ := (Step.runs_enter_bind (m := .failed o.goal e.message)).1 h
      obtain ⟨rfl, rfl, rfl⟩ := Step.runs_finish.1 h'
      refine ⟨[.error e], _, .stop rfl, rfl, ?_⟩
      rw [permissionMarks_cons, permissionMarks_nil, List.map_cons, applyEvents_cons,
        applyEvents_nil]
      exact .apply _ _ (.enter (.nil _))

/-! ## Groups of objects -/

theorem runs_failStep {α : Type} {g : Goal} {e : ControlError} {s s' : Status} {t : Trace}
    {x : Progress α} (run : Runs (failStep g e s) t (x, s')) :
    x = .finish (.error e) ∧ Effect t [] [.failed g e.message] s s' := by
  obtain ⟨τ, t', rfl, h⟩ := (Step.runs_enter_bind (m := .failed g e.message)).1 run
  obtain ⟨rfl, rfl, rfl⟩ := Step.runs_finish.1 h
  exact ⟨rfl, .enter (.nil _)⟩

theorem runs_underWay {α : Type} {g : Goal} {message : String} {e : Ending} {s s' : Status}
    {t : Trace} {x : Progress α}
    (run : Runs ((do Step.underWay g message; Step.finish e : Step α) s) t (x, s')) :
    x = .finish e ∧ Effect t [] [.underWay g message] s s' := by
  obtain ⟨τ, t', rfl, h⟩ := (Step.runs_enter_bind (m := .underWay g message)).1 run
  obtain ⟨rfl, rfl, rfl⟩ := Step.runs_finish.1 h
  exact ⟨rfl, .enter (.nil _)⟩

theorem Effect.applyStop {o : SubResource} {os : List SubResource}
    {a : Except ControlError Applied} {t : Trace} {ms : List Mark} {s s' : Status}
    (h : Effect t [] ms s s') : Effect (⟨.apply o, a⟩ :: t) (applyEvents (o :: os) [a]) ms s s' := by
  rw [applyEvents_cons, applyEvents_nil]
  exact .apply o a h

theorem runs_ensureConfigMaps {r : Redis} {ts : List ConfigTemplate}
    {built : List (SubResource × String)} (hb : ts.map r.configMap = built.map .ok)
    {inputs : InputHashes} {s s' : Status} {t : Trace} {x : Progress InputHashes}
    (run : Runs (ensureConfigMaps r ts inputs s) t (x, s')) :
    ∃ as stop, ApplyRun (built.map (·.1)) as stop ∧
      x = .ofStop (inputs.insertAll ((ts.map (·.name)).zip (built.map (·.2)))) stop ∧
      Effect t (applyEvents (built.map (·.1)) as)
        [groupMark .serviceConfig Progress.serviceConfig stop] s s' := by
  induction ts generalizing built inputs s t with
  | nil =>
    obtain rfl : built = [] := by simpa using hb
    obtain ⟨τ, t', rfl, h⟩ := (Step.runs_enter_bind (m := .reached .serviceConfig)).1 run
    obtain ⟨rfl, rfl, rfl⟩ := Step.runs_proceed.1 h
    exact ⟨[], none, .done, rfl, .enter (.nil _)⟩
  | cons template ts ih =>
    obtain _ | ⟨⟨o, hash⟩, built⟩ := built
    · cases hb
    rw [List.map_cons, List.map_cons, List.cons.injEq] at hb
    rw [ensureConfigMaps, hb.1] at run
    obtain ⟨a, t₁, rfl, h⟩ := Step.runs_apply_bind.1 run
    -- All config maps share one goal: its mark is entered at the end, or where they stop.
    match a, h with
    | .ok (.converged change ready), h =>
      obtain ⟨as, stop, hrun, rfl, heff⟩ := ih hb.2 h
      exact ⟨.ok (.converged change ready) :: as, stop, .next rfl hrun, rfl, .apply _ _ heff⟩
    | .ok (.pending after), h =>
      obtain ⟨rfl, heff⟩ := runs_underWay h
      exact ⟨[.ok (.pending after)], _, .stop rfl, rfl, heff.applyStop⟩
    | .error e, h =>
      obtain ⟨rfl, heff⟩ := runs_failStep h
      exact ⟨[.error e], _, .stop rfl, rfl, heff.applyStop⟩

theorem runs_ensureServices {os : List SubResource} {s s' : Status} {t : Trace}
    {x : Progress Unit} (run : Runs (ensureServices (os.map .ok) s) t (x, s')) :
    ∃ as stop, ApplyRun os as stop ∧ x = .ofStop () stop ∧
      Effect t (applyEvents os as) [groupMark .exposeService Progress.exposeService stop] s s' := by
  induction os generalizing s t with
  | nil =>
    obtain ⟨τ, rfl, rfl, rfl⟩ := (Step.runs_enter (m := .reached .exposeService)).1 run
    exact ⟨[], none, .done, rfl, .enter (.nil _)⟩
  | cons o os ih =>
    obtain ⟨a, t₁, rfl, h⟩ := Step.runs_apply_bind.1 run
    match a, h with
    | .ok (.converged change ready), h =>
      obtain ⟨as, stop, hrun, rfl, heff⟩ := ih h
      exact ⟨.ok (.converged change ready) :: as, stop, .next rfl hrun, rfl, .apply _ _ heff⟩
    | .ok (.pending after), h =>
      obtain ⟨rfl, heff⟩ := runs_underWay h
      exact ⟨[.ok (.pending after)], _, .stop rfl, rfl, heff.applyStop⟩
    | .error e, h =>
      obtain ⟨rfl, heff⟩ := runs_failStep h
      exact ⟨[.error e], _, .stop rfl, rfl, heff.applyStop⟩

/-! ## The workload -/

theorem reportReplicas_some (ready : Int32) :
    reportReplicas (some ready) = Step.enter (replicasMark ready) := by
  rw [reportReplicas, replicasMark]
  split <;> rfl

theorem runs_ensureWorkload {settings : Settings} {r : Redis} {hash : String} {o : SubResource}
    (ho : r.statefulSet settings hash = .ok o) {s s' : Status} {t : Trace} {x : Progress Outcome}
    (run : Runs (ensureWorkload settings r hash s) t (x, s')) :
    ∃ a, x = .ofStop .done (Applied.stop? a) ∧
      Effect t [⟨.apply o, a⟩] (workloadMark a).toList s s' := by
  rw [ensureWorkload, ho, Step.ofExcept_ok_bind] at run
  obtain ⟨a, t', rfl, h⟩ := Step.runs_apply_bind.1 run
  match a, h with
  | .ok (.converged change none), h =>
    obtain ⟨rfl, rfl, rfl⟩ := Step.runs_proceed.1 h
    exact ⟨.ok (.converged change none), rfl, .apply _ _ (.nil _)⟩
  | .ok (.converged change (some ready)), h =>
    simp only [reportReplicas_some] at h
    obtain ⟨τ, t₂, rfl, h'⟩ := Step.runs_enter_bind.1 h
    obtain ⟨rfl, rfl, rfl⟩ := Step.runs_proceed.1 h'
    exact ⟨.ok (.converged change (some ready)), rfl, .apply _ _ (.enter (.nil _))⟩
  | .ok (.pending after), h =>
    obtain ⟨rfl, rfl, rfl⟩ := Step.runs_finish.1 h
    exact ⟨.ok (.pending after), rfl, .apply _ _ (.nil _)⟩
  | .error e, h =>
    obtain ⟨rfl, rfl, rfl⟩ := Step.runs_finish.1 h
    exact ⟨.error e, rfl, .apply _ _ (.nil _)⟩

/-! ## The record -/

/-- Once recorded, inputs agree with the record. -/
theorem InputHashes.compare_updated {inputs : InputHashes} {recorded updated : StringMap String}
    {a : String} (h : inputs.compare recorded a = some updated) :
    inputs.compare updated a = none :=
  compare_eq_none_iff.2 (get?_of_compare h)

theorem runs_ensureRecorded {inputs : InputHashes} {s s' : Status} {t : Trace}
    {x : Progress Unit} (run : Runs (ensureRecorded inputs s) t (x, s')) :
    t = [] ∧
      ((inputs.compare s.hash inputs.aggregate = none ∧ x = .proceed () ∧ s' = s) ∨
        ∃ updated, inputs.compare s.hash inputs.aggregate = some updated ∧
          x = .finish (.ok .requeue) ∧ s' = { s with hash := updated }) := by
  have hrec : ∀ f : StringMap String → Step Unit, (Step.recorded >>= f) s = f s.hash s :=
    fun _ => rfl
  rw [ensureRecorded, hrec] at run
  cases hc : inputs.compare s.hash inputs.aggregate with
  | none =>
    rw [hc] at run
    obtain ⟨rfl, rfl, rfl⟩ := Step.runs_proceed.1 run
    exact ⟨rfl, Or.inl ⟨rfl, rfl, rfl⟩⟩
  | some updated =>
    rw [hc] at run
    obtain ⟨rfl, h⟩ := runs_done_iff.1 run
    obtain ⟨rfl, rfl⟩ := Prod.mk.inj h
    exact ⟨rfl, Or.inr ⟨updated, rfl, rfl, rfl⟩⟩

end RedisControl
