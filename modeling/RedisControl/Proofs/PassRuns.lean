import RedisControl.Proofs.OwnedObjects
import RedisControl.Proofs.SecretInputs

/-!
# The runs of a pass

All ways in which a pass can go. What the steps of a pass do depends on neither the ledger nor the
clock, so their course is told without them: the exchange with the cluster, the marks, the
recorded hashes afterwards, and the end. The steps up to the comparison with the record gather the
inputs (`Gathering`); the others depend on how the comparison turns out (`WorkCourse`). A pass as
a whole reads the instance, works or fills an empty ledger, and finalizes (`PassRun`).

* `exists_course` : every run of the steps follows a course.
* `runs_converge_cases`, `runs_converge` : a pass fills an empty ledger, gives up for lack of an
  owner, or works.
* `runs_pass` : every run of a pass is one of those described.
-/

namespace RedisControl

open Program

/-! ## The course of the steps -/

namespace Owned

variable {r : Redis} (w : Owned r)

/-- The inputs of an instance: the secrets, then the config maps. -/
def inputs (secrets : InputHashes) : InputHashes :=
  secrets.insertAll ((r.configTemplates.map (·.name)).zip (w.configMaps.map (·.2)))

end Owned

/-- The steps of a pass up to the comparison with the record: the exchange, the marks, and either
the inputs or the end. -/
inductive Gathering {r : Redis} (w : Owned r) :
    Trace → List Mark → Progress InputHashes → Prop where
  | permissions {as : List (Except ControlError Applied)} {e : Ending}
      (permissions : ApplyRun (w.permissions.map (·.resource)) as (some e)) :
      Gathering w (applyEvents (w.permissions.map (·.resource)) as)
        (permissionMarks w.permissions as) (.finish e)
  | tlsInputs {as : List (Except ControlError Applied)} {reads : Trace} {e : ControlError}
      (permissions : ApplyRun (w.permissions.map (·.resource)) as none)
      (tlsInputs : Runs (tlsInputHashes r) reads (.error e)) :
      Gathering w (applyEvents (w.permissions.map (·.resource)) as ++ reads)
        (permissionMarks w.permissions as ++ [tlsMark (.error e)]) (.finish (.error e))
  | configMaps {as cs : List (Except ControlError Applied)} {reads : Trace}
      {secrets : InputHashes} {stop : Option Ending}
      (permissions : ApplyRun (w.permissions.map (·.resource)) as none)
      (tlsInputs : Runs (tlsInputHashes r) reads (.ok secrets))
      (configMaps : ApplyRun (w.configMaps.map (·.1)) cs stop) :
      Gathering w
        (applyEvents (w.permissions.map (·.resource)) as ++
          (reads ++ applyEvents (w.configMaps.map (·.1)) cs))
        (permissionMarks w.permissions as ++
          ([tlsMark (.ok secrets)] ++ [groupMark .serviceConfig Progress.serviceConfig stop]))
        (.ofStop (w.inputs secrets) stop)

theorem Gathering.of_proceed {r : Redis} {w : Owned r} {events : Trace} {ms : List Mark}
    {inputs : InputHashes} (h : Gathering w events ms (.proceed inputs)) :
    ∃ as reads secrets cs, ApplyRun (w.permissions.map (·.resource)) as none ∧
      Runs (tlsInputHashes r) reads (.ok secrets) ∧
      ApplyRun (w.configMaps.map (·.1)) cs none ∧
      events = applyEvents (w.permissions.map (·.resource)) as ++
        (reads ++ applyEvents (w.configMaps.map (·.1)) cs) ∧
      inputs = w.inputs secrets := by
  generalize hx : Progress.proceed inputs = x at h
  cases h with
  | permissions _ | tlsInputs _ _ => cases hx
  | configMaps permissions tlsInputs configMaps =>
    obtain ⟨rfl, hinputs⟩ := Progress.ofStop_eq_proceed hx.symm
    exact ⟨_, _, _, _, permissions, tlsInputs, configMaps, rfl, hinputs.symm⟩

/-- The course of the steps of a pass, from the recorded hashes on: the exchange, the marks, the
hashes recorded afterwards, and the end. -/
inductive WorkCourse (settings : Settings) {r : Redis} (w : Owned r)
    (recorded : StringMap String) :
    Trace → List Mark → StringMap String → Progress Outcome → Prop where
  | stopped {events : Trace} {ms : List Mark} {e : Ending}
      (stopped : Gathering w events ms (.finish e)) :
      WorkCourse settings w recorded events ms recorded (.finish e)
  | recorded {events : Trace} {ms : List Mark} {inputs : InputHashes}
      {updated : StringMap String} (gathered : Gathering w events ms (.proceed inputs))
      (differs : inputs.compare recorded inputs.aggregate = some updated) :
      WorkCourse settings w recorded events ms updated (.finish (.ok .requeue))
  | services {events : Trace} {ms : List Mark} {inputs : InputHashes}
      {as : List (Except ControlError Applied)} {e : Ending}
      (gathered : Gathering w events ms (.proceed inputs))
      (agrees : inputs.compare recorded inputs.aggregate = none)
      (services : ApplyRun w.services as (some e)) :
      WorkCourse settings w recorded (events ++ applyEvents w.services as)
        (ms ++ [groupMark .exposeService Progress.exposeService (some e)]) recorded (.finish e)
  | workload {events : Trace} {ms : List Mark} {inputs : InputHashes}
      {as : List (Except ControlError Applied)} {a : Except ControlError Applied}
      (gathered : Gathering w events ms (.proceed inputs))
      (agrees : inputs.compare recorded inputs.aggregate = none)
      (services : ApplyRun w.services as none) :
      WorkCourse settings w recorded
        (events ++ (applyEvents w.services as ++
          [⟨.apply (w.workload settings inputs.aggregate), a⟩]))
        (ms ++ ([groupMark .exposeService Progress.exposeService none] ++
          (workloadMark a).toList))
        recorded (.ofStop .done (Applied.stop? a))

theorem exists_course_of_gathered {settings : Settings} {r : Redis} {w : Owned r} {s s₁ s' : Status}
    {t u events : Trace} {ms : List Mark} {inputs : InputHashes} {x : Progress Outcome}
    (gathered : Gathering w events ms (.proceed inputs)) (heff : Effect t events ms s s₁)
    (run : Runs ((do
      ensureRecorded inputs
      ensureServices [r.headlessService, r.clientService]
      ensureWorkload settings r inputs.aggregate : Step Outcome) s₁) u (x, s')) :
    ∃ events ms hash s₂, WorkCourse settings w s.hash events ms hash x ∧
      Effect (t ++ u) events ms s s₂ ∧ s' = { s₂ with hash } := by
  rcases Step.runs_bind.1 run with ⟨t₁, u₁, _, s₂, rfl, h₁, run₁⟩ | ⟨e, rfl, h₁⟩
  -- The comparison with the record lets the pass go on.
  · obtain ⟨rfl, ⟨agrees, -, rfl⟩ | ⟨_, -, h, -⟩⟩ := runs_ensureRecorded h₁
    · rw [heff.hash] at agrees
      rw [w.services_eq] at run₁
      rcases Step.runs_bind.1 run₁ with ⟨t₂, u₂, _, s₃, rfl, h₂, run₂⟩ | ⟨e, rfl, h₂⟩
      · obtain ⟨as, stop, services, hstop, heff₂⟩ := runs_ensureServices h₂
        obtain ⟨rfl, -⟩ := Progress.ofStop_eq_proceed hstop.symm
        obtain ⟨a, rfl, heff₃⟩ := runs_ensureWorkload (w.statefulSet_eq settings _) run₂
        refine ⟨_, _, s.hash, s', .workload gathered agrees services,
          heff.append (heff₂.append heff₃), ?_⟩
        rw [← heff.hash, ← heff₂.hash, ← heff₃.hash]
      · obtain ⟨as, stop, services, hstop, heff₂⟩ := runs_ensureServices h₂
        obtain rfl := Progress.ofStop_eq_finish hstop.symm
        refine ⟨_, _, s.hash, s', .services gathered agrees services, heff.append heff₂, ?_⟩
        rw [← heff.hash, ← heff₂.hash]
    · cases h
  -- It ends the pass, so other hashes have been recorded.
  · obtain ⟨rfl, ⟨-, h, -⟩ | ⟨updated, differs, h, rfl⟩⟩ := runs_ensureRecorded h₁
    · cases h
    · obtain rfl := Progress.finish.inj h
      rw [heff.hash] at differs
      refine ⟨events, ms, updated, s₁, .recorded gathered differs, ?_, rfl⟩
      rw [List.append_nil]
      exact heff

/-- **Every run of the steps follows a course.** -/
theorem exists_course {settings : Settings} {r : Redis} (w : Owned r) {s s' : Status} {t : Trace}
    {x : Progress Outcome} (run : Runs (workSteps settings r s) t (x, s')) :
    ∃ events ms hash s₁, WorkCourse settings w s.hash events ms hash x ∧
      Effect t events ms s s₁ ∧ s' = { s₁ with hash } := by
  unfold workSteps at run
  rw [w.permissionObjects_eq, Step.ofExcept_ok_bind] at run
  -- Step by step: each either goes on, or ends the pass and is the last of the course.
  rcases Step.runs_bind.1 run with ⟨t₁, u₁, _, s₁, rfl, h₁, run₁⟩ | ⟨e, rfl, h₁⟩
  · obtain ⟨as, stop, permissions, hstop, heff₁⟩ := runs_ensurePermissions h₁
    obtain ⟨rfl, -⟩ := Progress.ofStop_eq_proceed hstop.symm
    rcases Step.runs_bind.1 run₁ with ⟨t₂, u₂, secrets, s₂, rfl, h₂, run₂⟩ | ⟨e, rfl, h₂⟩
    · obtain ⟨reads, result, tlsInputs, hresult, heff₂⟩ := runs_ensureTlsInputs h₂
      obtain rfl := Progress.ofResult_eq_proceed hresult.symm
      rcases Step.runs_bind.1 run₂ with ⟨t₃, u₃, inputs, s₃, rfl, h₃, run₃⟩ | ⟨e, rfl, h₃⟩
      · obtain ⟨cs, stop, configMaps, hstop, heff₃⟩ := runs_ensureConfigMaps w.configMaps_eq h₃
        obtain ⟨rfl, rfl⟩ := Progress.ofStop_eq_proceed hstop.symm
        have h := exists_course_of_gathered (.configMaps permissions tlsInputs configMaps)
          (heff₁.append (heff₂.append heff₃)) run₃
        rwa [List.append_assoc, List.append_assoc] at h
      · obtain ⟨cs, stop, configMaps, hstop, heff₃⟩ := runs_ensureConfigMaps w.configMaps_eq h₃
        obtain rfl := Progress.ofStop_eq_finish hstop.symm
        refine ⟨_, _, s.hash, s', .stopped (.configMaps permissions tlsInputs configMaps),
          heff₁.append (heff₂.append heff₃), ?_⟩
        rw [← heff₁.hash, ← heff₂.hash, ← heff₃.hash]
    · obtain ⟨reads, result, tlsInputs, hresult, heff₂⟩ := runs_ensureTlsInputs h₂
      obtain ⟨e', rfl, rfl⟩ := Progress.ofResult_eq_finish hresult.symm
      refine ⟨_, _, s.hash, s', .stopped (.tlsInputs permissions tlsInputs),
        heff₁.append heff₂, ?_⟩
      rw [← heff₁.hash, ← heff₂.hash]
  · obtain ⟨as, stop, permissions, hstop, heff⟩ := runs_ensurePermissions h₁
    obtain rfl := Progress.ofStop_eq_finish hstop.symm
    refine ⟨_, _, s.hash, s', .stopped (.permissions permissions), heff, ?_⟩
    rw [← heff.hash]

/-! ## The first pass -/

theorem runs_forEach_now {α β : Type} {f : Time → α → β} {as : List α} {bs : List β} {t : Trace}
    (run : Runs (forEach (fun a => Cluster.now.bind fun τ => .done (f τ a)) as) t bs) :
    Trace.exchange t = [] ∧ (Trace.times t).length = as.length ∧
      bs = List.zipWith f (Trace.times t) as := by
  induction as generalizing t bs with
  | nil =>
    obtain ⟨rfl, rfl⟩ := runs_done_iff.1 run
    exact ⟨rfl, rfl, rfl⟩
  | cons a as ih =>
    rw [forEach, runs_bind_iff] at run
    obtain ⟨t₁, t₂, b, rfl, h₁, h₂⟩ := run
    rw [runs_bind_iff] at h₁ h₂
    obtain ⟨u₁, u₂, τ, rfl, h₁, h⟩ := h₁
    obtain ⟨rfl, rfl⟩ := runs_done_iff.1 h
    obtain rfl := (runs_ask (I := Cluster) (c := .now)).1 h₁
    obtain ⟨u₁, u₂, bs, rfl, h₂, h⟩ := h₂
    obtain ⟨rfl, rfl⟩ := runs_done_iff.1 h
    obtain ⟨he, hl, rfl⟩ := ih h₂
    rw [List.append_nil, List.append_nil]
    exact ⟨he, congrArg Nat.succ hl, rfl⟩

theorem runs_fillLedger {s s' : Status} (hs : s.conditions.isEmpty = true) {t : Trace}
    {x : Progress Unit} (run : Runs (fillLedger s) t (x, s')) :
    Trace.exchange t = [] ∧ x = .proceed () ∧ ∃ times : List Time,
      times.length = Goal.all.length ∧ times ⊆ Trace.times t ∧
        s' = { s with conditions := .initial times } := by
  unfold fillLedger at run
  rw [bind_eq, runs_bind_iff] at run
  obtain ⟨t₁, t₂, declared, rfl, h₁, h₂⟩ := run
  rw [bind_eq, runs_bind_iff] at h₂
  obtain ⟨t₂, t₃, entered, rfl, h₂, h₃⟩ := h₂
  obtain ⟨rfl, h⟩ := runs_done_iff.1 h₃
  obtain ⟨rfl, rfl⟩ := Prod.mk.inj h
  obtain ⟨he₁, hl₁, rfl⟩ := runs_forEach_now h₁
  obtain ⟨he₂, hl₂, rfl⟩ := runs_forEach_now h₂
  refine ⟨?_, rfl, Trace.times t₁, hl₁, ?_, ?_⟩
  · rw [List.append_nil, Trace.exchange_append, he₁, he₂, List.append_nil]
  · rw [List.append_nil, Trace.times_append]
    exact List.subset_append_left _ _
  · have hl : (Trace.times t₂).length = Goal.all.length := by
      rw [hl₂, List.length_zipWith, hl₁, Nat.min_self]
    rw [← Ledger.init_of_isEmpty hs hl₁ hl]

/-! ## All steps -/

/-- The ways in which the steps of a pass can go from a status: the exchange, the status
afterwards, and the end. -/
inductive ConvergeRun (settings : Settings) (r : Redis) (s : Status) :
    Trace → Status → Ending → Prop where
  | filled {times : List Time} (empty : s.conditions.isEmpty = true)
      (length : times.length = Goal.all.length) :
      ConvergeRun settings r s [] { s with conditions := .initial times } (.ok .requeue)
  | unowned {e : ControlError} (nonempty : s.conditions.isEmpty = false)
      (unowned : r.permissionObjects policyRules = .error e) :
      ConvergeRun settings r s [] s (.error e)
  | worked {w : Owned r} {events : Trace} {ms : List Mark} {hash : StringMap String}
      {x : Progress Outcome} {times : List Time} (nonempty : s.conditions.isEmpty = false)
      (course : WorkCourse settings w s.hash events ms hash x)
      (length : times.length = ms.length) :
      ConvergeRun settings r s events { s.noted (times.zip ms) with hash } x.ending

/-- The runs of the steps, with the readings of the clock: they fill an empty ledger, give up for
lack of an owner, or follow a course. -/
theorem runs_converge_cases {settings : Settings} {r : Redis} {s s' : Status} {t : Trace}
    {x : Progress Outcome} (run : Runs (converge settings r s) t (x, s')) :
    (s.conditions.isEmpty = true ∧ Trace.exchange t = [] ∧ x = .proceed .requeue ∧
      ∃ times : List Time, times.length = Goal.all.length ∧ times ⊆ Trace.times t ∧
        s' = { s with conditions := .initial times }) ∨
    s.conditions.isEmpty = false ∧
      ((∃ e, r.permissionObjects policyRules = .error e ∧ t = [] ∧ x = .finish (.error e) ∧
        s' = s) ∨
      ∃ (w : Owned r) (events : Trace) (ms : List Mark) (hash : StringMap String) (s₁ : Status),
        WorkCourse settings w s.hash events ms hash x ∧ Effect t events ms s s₁ ∧
        s' = { s₁ with hash }) := by
  unfold converge at run
  cases hs : s.conditions.isEmpty with
  | true =>
    rw [if_pos hs] at run
    rcases Step.runs_bind.1 run with ⟨t₁, t₂, _, s₁, rfl, h₁, h₂⟩ | ⟨e, rfl, h₁⟩
    · obtain ⟨rfl, rfl, rfl⟩ := Step.runs_proceed.1 h₂
      obtain ⟨he, -, hfilled⟩ := runs_fillLedger hs h₁
      rw [List.append_nil]
      exact Or.inl ⟨rfl, he, rfl, hfilled⟩
    · obtain ⟨-, h, -⟩ := runs_fillLedger hs h₁
      cases h
  | false =>
    rw [if_neg (by rw [hs]; exact Bool.false_ne_true)] at run
    refine Or.inr ⟨rfl, ?_⟩
    rcases r.owned_or_error policyRules with ⟨⟨w⟩⟩ | ⟨e, he⟩
    · exact Or.inr ⟨w, exists_course w run⟩
    · unfold workSteps at run
      rw [he, Step.ofExcept_error_bind] at run
      exact Or.inl ⟨e, he, Step.runs_finish.1 run⟩

theorem runs_converge {settings : Settings} {r : Redis} {s s' : Status} {t : Trace}
    {x : Progress Outcome} (run : Runs (converge settings r s) t (x, s')) :
    ConvergeRun settings r s (Trace.exchange t) s' x.ending := by
  rcases runs_converge_cases run with ⟨hs, he, rfl, times, hl, -, rfl⟩ | ⟨hs, hwork⟩
  · rw [he]
    exact .filled hs hl
  rcases hwork with ⟨e, he, rfl, rfl, rfl⟩ | ⟨w, events, ms, hash, s₁, course, heff, rfl⟩
  · exact .unowned hs he
  · rw [heff.exchange, heff.noted]
    exact .worked hs course heff.length_times

theorem ConvergeRun.isEmpty_eq_false {settings : Settings} {r : Redis} {s s' : Status}
    {events : Trace} {e : Ending} (h : ConvergeRun settings r s events s' e) :
    s'.conditions.isEmpty = false := by
  cases h with
  | filled _ length => exact Ledger.isEmpty_initial length
  | unowned nonempty _ => exact nonempty
  | worked nonempty _ _ => exact Ledger.isEmpty_enterAll nonempty

theorem ConvergeRun.events_of_none {settings : Settings} {r : Redis} (hr : r.status = none)
    {s : Status} {events : Trace} {e : Ending}
    (steps : ConvergeRun settings r r.statusOrEmpty events s e) : events = [] := by
  rw [Redis.statusOrEmpty, hr] at steps
  cases steps with
  | filled _ _ => rfl
  | unowned nonempty _ | worked nonempty _ _ => cases nonempty

/-! ## The pass -/

/-- The status with `Ready` derived anew. -/
def Status.finished (now : Time) (s : Status) : Status :=
  { s with conditions := s.conditions.recomputeReady now }

theorem Status.finished_finished (s : Status) (now later : Time) :
    (s.finished now).finished later = s.finished now :=
  congrArg (fun l => Status.mk l s.hash)
    (Ledger.recomputeReady_recomputeReady s.conditions now later)

theorem Status.finished_ne_empty {s : Status} (h : s.conditions.isEmpty = false) (now : Time) :
    s.finished now ≠ .empty := by
  intro he
  have hempty := Ledger.isEmpty_recomputeReady h now
  rw [show s.conditions.recomputeReady now = Ledger.empty from congrArg Status.conditions he]
    at hempty
  cases hempty

/-- How a pass ends whose status was to be written. -/
def Ending.afterWrite (e : Ending) : Except ControlError Unit → Ending
  | .ok () => e
  | .error failure => .error failure

/-- The write of a status, with its answer. -/
def writeEvent (write : Redis × Except ControlError Unit) : Event Cluster :=
  ⟨.patchStatus write.1, write.2⟩

/-- The ways in which a pass can finalize, from the end of its steps: the writes, and the end. -/
inductive FinalRun (r : Redis) (s : Status) (e : Ending) :
    List (Redis × Except ControlError Unit) → Ending → Prop where
  | unchanged {now : Time} (same : s.finished now = r.statusOrEmpty) : FinalRun r s e [] e
  | written {now : Time} {a : Except ControlError Unit} (differs : s.finished now ≠ r.statusOrEmpty) :
      FinalRun r s e [({ r with status := some (s.finished now) }, a)] (e.afterWrite a)

/-- The runs of finalizing: the clock is read, and the status is written where it is another. -/
theorem runs_finalize {r : Redis} {s : Status} {e e' : Ending} {t : Trace}
    (run : Runs (finalize r r.statusOrEmpty s e) t e') :
    ∃ now, (s.finished now = r.statusOrEmpty ∧ t = [⟨.now, now⟩] ∧ e' = e) ∨
      (s.finished now ≠ r.statusOrEmpty ∧ ∃ a,
        t = [⟨.now, now⟩, writeEvent ({ r with status := some (s.finished now) }, a)] ∧
        e' = e.afterWrite a) := by
  unfold finalize at run
  rw [bind_eq, runs_bind_iff] at run
  obtain ⟨t₁, t₂, now, rfl, h₁, h₂⟩ := run
  obtain rfl := (runs_ask (I := Cluster) (c := .now)).1 h₁
  change Runs (if s.finished now = r.statusOrEmpty then _ else _) t₂ e' at h₂
  refine ⟨now, ?_⟩
  by_cases hsame : s.finished now = r.statusOrEmpty
  · rw [if_pos hsame] at h₂
    obtain ⟨rfl, rfl⟩ := runs_done_iff.1 h₂
    exact Or.inl ⟨hsame, rfl, rfl⟩
  · rw [if_neg hsame, bind_eq, runs_bind_iff] at h₂
    obtain ⟨t₁, t₃, a, rfl, h₁, h₂⟩ := h₂
    obtain rfl := (runs_ask (I := Cluster) (c := .patchStatus _)).1 h₁
    have h : t₃ = [] ∧ e' = e.afterWrite a := by
      cases a with
      | ok u => exact runs_done_iff.1 h₂
      | error failure => exact runs_done_iff.1 h₂
    obtain ⟨rfl, rfl⟩ := h
    exact Or.inr ⟨hsame, a, rfl, rfl⟩

theorem finalRun_of_runs {r : Redis} {s : Status} {e e' : Ending} {t : Trace}
    (run : Runs (finalize r r.statusOrEmpty s e) t e') :
    ∃ writes, FinalRun r s e writes e' ∧ Trace.exchange t = writes.map writeEvent := by
  obtain ⟨now, ⟨same, rfl, rfl⟩ | ⟨differs, a, rfl, rfl⟩⟩ := runs_finalize run
  · exact ⟨[], .unchanged same, rfl⟩
  · exact ⟨_, .written differs, rfl⟩

/-- The ways in which a pass can go: the exchange and the end. -/
inductive PassRun (settings : Settings) (ns name : String) : Trace → Ending → Prop where
  | unread (e : ControlError) : PassRun settings ns name [⟨.getRedis ns name, .error e⟩] (.error e)
  | gone : PassRun settings ns name [⟨.getRedis ns name, .ok none⟩] (.ok .stop)
  | read {r : Redis} {s : Status} {e e' : Ending} {events : Trace}
      {writes : List (Redis × Except ControlError Unit)}
      (steps : ConvergeRun settings r r.statusOrEmpty events s e)
      (finalized : FinalRun r s e writes e') :
      PassRun settings ns name
        (⟨.getRedis ns name, .ok (some r)⟩ :: (events ++ writes.map writeEvent)) e'

/-- The runs of a pass: it reads the instance, and where there is one, it goes through its steps
and finalizes. -/
theorem runs_pass_cases {settings : Settings} {ns name : String} {t : Trace} {e : Ending}
    (run : Runs (pass settings ns name) t e) :
    (∃ failure, t = [⟨.getRedis ns name, .error failure⟩] ∧ e = .error failure) ∨
    (t = [⟨.getRedis ns name, .ok none⟩] ∧ e = .ok .stop) ∨
    ∃ r steps final x s, t = ⟨.getRedis ns name, .ok (some r)⟩ :: (steps ++ final) ∧
      Runs (converge settings r r.statusOrEmpty) steps (x, s) ∧
      Runs (finalize r r.statusOrEmpty s x.ending) final e := by
  unfold pass at run
  rw [bind_eq, runs_bind_iff] at run
  obtain ⟨t₁, t₂, a, rfl, h₁, h₂⟩ := run
  obtain rfl := (runs_ask (I := Cluster) (c := .getRedis ns name)).1 h₁
  match a, h₂ with
  | .error failure, h₂ =>
    obtain ⟨rfl, rfl⟩ := runs_done_iff.1 h₂
    exact Or.inl ⟨failure, rfl, rfl⟩
  | .ok none, h₂ =>
    obtain ⟨rfl, rfl⟩ := runs_done_iff.1 h₂
    exact Or.inr (Or.inl ⟨rfl, rfl⟩)
  | .ok (some r), h₂ =>
    obtain ⟨steps, final, ⟨x, s⟩, rfl, hsteps, hfinal⟩ := runs_bind_iff.1 h₂
    exact Or.inr (Or.inr ⟨r, steps, final, x, s, rfl, hsteps, hfinal⟩)

/-- **Every run of a pass is one of those described.** -/
theorem runs_pass {settings : Settings} {ns name : String} {t : Trace} {e : Ending}
    (run : Runs (pass settings ns name) t e) :
    PassRun settings ns name (Trace.exchange t) e := by
  obtain ⟨failure, rfl, rfl⟩ | ⟨rfl, rfl⟩ | ⟨r, steps, final, x, s, rfl, hsteps, hfinal⟩ :=
    runs_pass_cases run
  · exact .unread failure
  · exact .gone
  · show PassRun settings ns name
      (⟨.getRedis ns name, .ok (some r)⟩ :: Trace.exchange (steps ++ final)) e
    obtain ⟨writes, finalized, hwrites⟩ := finalRun_of_runs hfinal
    rw [Trace.exchange_append, hwrites]
    exact .read (runs_converge hsteps) finalized

end RedisControl
