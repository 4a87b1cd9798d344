import RedisControl.Proofs.Ownership
import RedisControl.Proofs.Postponement
import RedisControl.Proofs.WriteAhead
import RedisControl.Schedule

/-!
# What the scheduler learns from a pass

**Theorem (`step_schedules`).** The scheduler waits for a change of an instance exactly where the
cluster has answered that there is no such instance. In all other cases the instance is due again:
after the interval for errors where something failed, and otherwise after the usual interval where
the workload is in place, at once where the ledger was filled or other hashes were recorded, and
after the delay that the cluster asked for where an object is not in place yet. An instance without
a namespace is due after the interval for errors, and nothing is called.

The decision passes through four hands: the steps, finalizing, the outcome, and the treatment of
errors. So the causes are told by what was called and answered (`Trace.Failed`, `Due`), and it is
shown that the answers leave exactly one decision. That every way to end has a cause says that no
instance is forgotten; that a cause leads to one end says that the causes exclude each other.

* `ConvergeRun.error_iff`, `ConvergeRun.done_iff`, `ConvergeRun.requeue_iff`,
  `ConvergeRun.requeueAfter_iff` : how the steps end, and why.
* `failed_iff` : a pass ends with an error exactly where something failed.
* `due_iff` : a pass leaves one decision.
-/

namespace RedisControl

open Program

/-! ## Causes -/

/-- Something failed in a pass over the instance with a namespace and a name. -/
inductive Trace.Failed (ns name : String) (t : Trace) : Prop
  /-- The instance could not be read. -/
  | unread {failure : ControlError} (answered : ⟨.getRedis ns name, .error failure⟩ ∈ t)
  /-- The instance has entries in its ledger and cannot own objects. -/
  | unowned {r : Redis} (read : r ∈ redises t) (entries : ¬ r.IsNew) (incomplete : ¬ r.IsComplete)
  /-- An object could not be applied. -/
  | unapplied {o : SubResource} {failure : ControlError}
      (answered : ⟨.apply o, .error failure⟩ ∈ t)
  /-- The secrets that were read are not what the instance needs. -/
  | tlsInputs {r : Redis} {reads : Trace} {failure : ControlError} (read : r ∈ redises t)
      (refused : Runs (tlsInputHashes r) reads (.error failure))
      (answers : secretAnswers reads = secretAnswers t)
  /-- The status could not be written. -/
  | unwritten {r : Redis} {failure : ControlError}
      (answered : ⟨.patchStatus r, .error failure⟩ ∈ t)

/-- The status of an instance was written. -/
def Trace.Wrote (t : Trace) (r : Redis) (s : Status) : Prop :=
  ⟨.patchStatus { r with status := some s }, .ok ()⟩ ∈ t

/-- What a pass over the instance with a namespace and a name leaves for the scheduler to do. -/
inductive Due (settings : Settings) (ns name : String) (t : Trace) : Action → Prop
  | gone (answered : ⟨.getRedis ns name, .ok none⟩ ∈ t) : Due settings ns name t .awaitChange
  | failed (failed : Trace.Failed ns name t) :
      Due settings ns name t (.requeue settings.errorRequeue)
  /-- The workload is in place. -/
  | converged {o : SubResource} {change : Change} {ready : Option Int32}
      (ok : ¬ Trace.Failed ns name t) (workload : o.kind = .statefulSet)
      (answered : ⟨.apply o, .ok (.converged change ready)⟩ ∈ t) :
      Due settings ns name t (.requeue settings.resyncInterval)
  /-- The ledger was filled. -/
  | initialized {r : Redis} {s : Status} (ok : ¬ Trace.Failed ns name t)
      (read : r ∈ Trace.redises t) (written : Trace.Wrote t r s)
      (before : r.statusOrEmpty.conditions.isEmpty = true)
      (after : s.conditions.isEmpty = false) : Due settings ns name t (.requeue .zero)
  /-- Other hashes were recorded than before. -/
  | recorded {r : Redis} {s : Status} (ok : ¬ Trace.Failed ns name t)
      (read : r ∈ Trace.redises t) (written : Trace.Wrote t r s)
      (differs : s.hash ≠ r.statusOrEmpty.hash) : Due settings ns name t (.requeue .zero)
  /-- An object is not in place yet. -/
  | pending {o : SubResource} {d : Duration} (ok : ¬ Trace.Failed ns name t)
      (answered : ⟨.apply o, .ok (.pending d)⟩ ∈ t) : Due settings ns name t (.requeue d)

/-! ## How the steps end -/

theorem Trace.exists_of_mem_answers {k : Kind} {t : Trace} {a : Except ControlError Applied}
    (h : a ∈ answers k t) : ∃ o, o.kind = k ∧ (o, a) ∈ applications t := by
  obtain ⟨⟨o, a⟩, hm, rfl⟩ := List.mem_map.1 h
  obtain ⟨happlied, hkind⟩ := List.mem_filter.1 hm
  exact ⟨o, beq_iff_eq.1 hkind, happlied⟩

section Steps

variable {settings : Settings} {r : Redis} {w : Owned r} {recorded hash : StringMap String}
  {events : Trace} {ms : List Mark} {x : Progress Outcome}

/-- Secrets that are not what the instance needs end the pass. -/
theorem Gathering.exists_error {y : Progress InputHashes} (h : Gathering w events ms y)
    {reads : Trace} {failure : ControlError}
    (hreads : Runs (tlsInputHashes r) reads (.error failure))
    (hanswers : Trace.secretAnswers reads = Trace.secretAnswers events) :
    ∃ e, y = .finish (.error e) := by
  cases h with
  | permissions _ =>
    rw [secretAnswers_applyEvents] at hanswers
    exact absurd hanswers (Trace.secretAnswers_ne_nil hreads)
  | tlsInputs _ _ => exact ⟨_, rfl⟩
  | @configMaps as cs reads' secrets stop _ tlsInputs _ =>
    have hvalid : Trace.SecretsValid r reads' := .inr ⟨secrets, tlsResult_of_runs tlsInputs⟩
    refine (hvalid.not_error hreads (hanswers.trans ?_)).elim
    rw [Trace.secretAnswers_append, Trace.secretAnswers_append, secretAnswers_applyEvents,
      secretAnswers_applyEvents, List.nil_append, List.append_nil]

theorem WorkCourse.exists_error (h : WorkCourse settings w recorded events ms hash x)
    {reads : Trace} {failure : ControlError}
    (hreads : Runs (tlsInputHashes r) reads (.error failure))
    (hanswers : Trace.secretAnswers reads = Trace.secretAnswers events) :
    ∃ e, x.ending = .error e := by
  cases h with
  | stopped gathering =>
    obtain ⟨e, he⟩ := gathering.exists_error hreads hanswers
    exact ⟨e, Progress.finish.inj he⟩
  | recorded gathered _ =>
    obtain ⟨e, he⟩ := gathered.exists_error hreads hanswers
    cases he
  | services gathered _ _ =>
    rw [Trace.secretAnswers_append, secretAnswers_applyEvents, List.append_nil] at hanswers
    obtain ⟨e, he⟩ := gathered.exists_error hreads hanswers
    cases he
  | workload gathered _ _ =>
    rw [Trace.secretAnswers_append, Trace.secretAnswers_append, secretAnswers_applyEvents]
      at hanswers
    obtain ⟨e, he⟩ := gathered.exists_error hreads (hanswers.trans (List.append_nil _))
    cases he

/-- What comes of the workload decides whether the steps are done. -/
theorem WorkCourse.done_iff (h : WorkCourse settings w recorded events ms hash x) :
    x.ending = .ok .done ↔
      ∃ change ready, .ok (.converged change ready) ∈ Trace.answers .statefulSet events := by
  -- Only a course that comes to the workload has an answer about it.
  have hnone : ∀ t, Trace.answers .statefulSet t = [] → x.ending ≠ .ok .done →
      (x.ending = .ok .done ↔
        ∃ change ready, .ok (.converged change ready) ∈ Trace.answers .statefulSet t) := by
    intro t ht hx
    rw [ht]
    exact iff_of_false hx fun ⟨_, _, hmem⟩ => List.not_mem_nil hmem
  cases h with
  | stopped gathering =>
    refine hnone _ (gathering.answers_eq_nil (by decide)) ?_
    rcases gathering.follows.ending_cases with ⟨error, rfl⟩ | ⟨d, rfl⟩ <;> exact nofun
  | recorded gathering _ => exact hnone _ (gathering.answers_eq_nil (by decide)) nofun
  | services gathering _ services =>
    exact hnone _ (gathering.answers_services_eq_nil _) fun he =>
      services.stop_ne_done (congrArg some he)
  | @workload events _ inputs as a gathering _ _ =>
    have hanswers : Trace.answers .statefulSet (events ++ (applyEvents w.services as ++
        [⟨.apply (w.workload settings inputs.aggregate), a⟩])) = [a] := by
      rw [← List.append_assoc, Trace.answers_append, gathering.answers_services_eq_nil as]
      rfl
    rw [hanswers]
    match a with
    | .ok (.converged change ready) =>
      exact iff_of_true rfl ⟨change, ready, List.mem_singleton_self _⟩
    | .ok (.pending d) | .error failure =>
      refine iff_of_false nofun fun ⟨_, _, hmem⟩ => ?_
      cases List.mem_singleton.1 hmem

/-- The steps record other hashes and ask for another pass at once, or end in another way and
leave the hashes. -/
theorem WorkCourse.ending_cases (h : WorkCourse settings w recorded events ms hash x) :
    hash ≠ recorded ∧ x.ending = .ok .requeue ∨
      hash = recorded ∧ (x.ending = .ok .done ∨
        (∃ d, x.ending = .ok (.requeueAfter d)) ∨ ∃ e, x.ending = .error e) := by
  cases h with
  | stopped gathering => exact .inr ⟨rfl, .inr gathering.follows.ending_cases.symm⟩
  | @recorded _ _ inputs _ _ differs =>
    refine .inl ⟨?_, rfl⟩
    rintro rfl
    have hagrees : inputs.compare hash inputs.aggregate = none :=
      InputHashes.compare_eq_none_iff.2 (InputHashes.get?_of_compare differs)
    cases hagrees.symm.trans differs
  | services _ _ services => exact .inr ⟨rfl, .inr services.follows.ending_cases.symm⟩
  | @workload _ _ _ _ a _ _ _ =>
    match a with
    | .ok (.converged _ _) => exact .inr ⟨rfl, .inl rfl⟩
    | .ok (.pending d) => exact .inr ⟨rfl, .inr (.inl ⟨d, rfl⟩)⟩
    | .error e => exact .inr ⟨rfl, .inr (.inr ⟨e, rfl⟩)⟩

theorem WorkCourse.requeue_iff (h : WorkCourse settings w recorded events ms hash x) :
    x.ending = .ok .requeue ↔ hash ≠ recorded := by
  rcases h.ending_cases with ⟨hne, he⟩ | ⟨heq, he⟩
  · exact iff_of_true he hne
  · refine iff_of_false ?_ fun hne => hne heq
    rcases he with he | ⟨d, he⟩ | ⟨e, he⟩ <;> rw [he] <;> exact nofun

theorem WorkCourse.ne_stop (h : WorkCourse settings w recorded events ms hash x) :
    x.ending ≠ .ok .stop := by
  rcases h.ending_cases with ⟨-, he⟩ | ⟨-, he | ⟨d, he⟩ | ⟨e, he⟩⟩ <;> rw [he] <;> exact nofun

namespace ConvergeRun

variable {s : Status} {body : Ending}

/-- Without a name, an identifier and a namespace, nothing is called. -/
theorem idle_of_not_isComplete {s₀ : Status} (h : ConvergeRun settings r s₀ events s body)
    (hr : ¬ r.IsComplete) : events = [] ∧ (body = .ok .requeue ∨ ∃ e, body = .error e) := by
  cases h with
  | filled _ _ => exact ⟨rfl, .inl rfl⟩
  | unowned _ _ => exact ⟨rfl, .inr ⟨_, rfl⟩⟩
  | @worked w _ _ _ _ _ _ _ _ => exact absurd (Redis.isComplete_of_owned w) hr

theorem eq_requeue_of_isEmpty {s₀ : Status} (h : ConvergeRun settings r s₀ events s body)
    (hs : s₀.conditions.isEmpty = true) : body = .ok .requeue := by
  cases h with
  | filled _ _ => rfl
  | unowned nonempty _ | worked nonempty _ _ => cases hs.symm.trans nonempty

theorem exists_error {s₀ : Status} (h : ConvergeRun settings r s₀ events s body) {reads : Trace}
    {failure : ControlError} (hreads : Runs (tlsInputHashes r) reads (.error failure))
    (hanswers : Trace.secretAnswers reads = Trace.secretAnswers events) :
    ∃ e, body = .error e := by
  cases h with
  | filled _ _ => exact absurd hanswers (Trace.secretAnswers_ne_nil hreads)
  | unowned _ _ => exact ⟨_, rfl⟩
  | worked _ course _ => exact course.exists_error hreads hanswers

theorem ne_stop {s₀ : Status} (h : ConvergeRun settings r s₀ events s body) :
    body ≠ .ok .stop := by
  cases h with
  | filled _ _ | unowned _ _ => exact nofun
  | worked _ course _ => exact course.ne_stop

/-- The steps fail for want of an owner, for an application, or for the secrets. -/
theorem error_iff (h : ConvergeRun settings r r.statusOrEmpty events s body) :
    (∃ e, body = .error e) ↔
      (¬ r.IsNew ∧ ¬ r.IsComplete) ∨ ∃ e, Trace.HasError r events e := by
  constructor
  · rintro ⟨e, rfl⟩
    by_cases hcomplete : r.IsComplete
    · exact .inr ⟨e, h.hasError hcomplete⟩
    · exact .inl ⟨fun hnew => (nomatch h.eq_requeue_of_isEmpty hnew), hcomplete⟩
  · rintro (⟨hentries, hincomplete⟩ | ⟨e, ⟨o, hm⟩ | ⟨reads, hreads, hanswers⟩⟩)
    · obtain ⟨-, -, hbody⟩ :=
        h.of_not_isComplete (Bool.eq_false_iff.2 hentries) hincomplete
      exact ⟨_, hbody⟩
    · by_cases hcomplete : r.IsComplete
      · exact ⟨e, (h.planRun hcomplete).ending_of_apply_mem hm rfl⟩
      · rw [(h.idle_of_not_isComplete hcomplete).1] at hm
        cases hm
    · exact h.exists_error hreads hanswers

theorem done_iff {s₀ : Status} (h : ConvergeRun settings r s₀ events s body) :
    body = .ok .done ↔
      ∃ change ready, .ok (.converged change ready) ∈ Trace.answers .statefulSet events := by
  cases h with
  | filled _ _ | unowned _ _ => exact iff_of_false nofun fun ⟨_, _, hmem⟩ => List.not_mem_nil hmem
  | worked _ course _ => exact course.done_iff

theorem requeue_iff {s₀ : Status} (h : ConvergeRun settings r s₀ events s body) :
    body = .ok .requeue ↔ s₀.conditions.isEmpty = true ∨ s.hash ≠ s₀.hash := by
  cases h with
  | filled empty _ => exact iff_of_true rfl (.inl empty)
  | unowned nonempty _ =>
    rw [nonempty]
    exact iff_of_false nofun fun h => h.elim nofun fun hne => hne rfl
  | worked nonempty course _ =>
    rw [nonempty, course.requeue_iff]
    exact ⟨.inr, fun h => h.resolve_left nofun⟩

theorem requeueAfter_iff (h : ConvergeRun settings r r.statusOrEmpty events s body) (d : Duration) :
    body = .ok (.requeueAfter d) ↔ ∃ o, ⟨.apply o, .ok (.pending d)⟩ ∈ events := by
  by_cases hcomplete : r.IsComplete
  · have hplan := h.planRun hcomplete
    constructor
    · intro hbody
      obtain ⟨stage, o, hlast⟩ := (hplan.requeueAfter_iff d).1 hbody
      exact ⟨o, (List.of_mem_zip (List.mem_of_getLast? hlast)).2⟩
    · rintro ⟨o, hm⟩
      exact hplan.ending_of_apply_mem hm rfl
  · obtain ⟨rfl, hbody⟩ := h.idle_of_not_isComplete hcomplete
    refine iff_of_false ?_ fun ⟨_, hmem⟩ => List.not_mem_nil hmem
    rcases hbody with rfl | ⟨e, rfl⟩ <;> exact nofun

end ConvergeRun

end Steps

/-! ## A pass over an instance -/

/-- What a pass over an instance did: how its steps went and how it was finalized, with all that it
called. -/
structure PassOver (settings : Settings) (ns name : String) (t : Trace) (e : Ending) (r : Redis)
    (events : Trace) (s : Status) (body : Ending) : Prop where
  redises : Trace.redises t = [r]
  read : ∀ {a}, ⟨.getRedis ns name, a⟩ ∈ t → a = .ok (some r)
  applications : Trace.applications t = Trace.applications events
  secretAnswers : Trace.secretAnswers t = Trace.secretAnswers events
  steps : ConvergeRun settings r r.statusOrEmpty events s body
  finalized : FinalRun r s body (Trace.statusWrites t) e

section Pass

variable {settings : Settings} {ns name : String} {t : Trace} {e : Ending}

/-- A pass cannot read the instance, finds none, or goes over it. -/
theorem passOver_cases (run : Runs (pass settings ns name) t e) :
    (∃ failure, t = [⟨.getRedis ns name, .error failure⟩] ∧ e = .error failure) ∨
      (t = [⟨.getRedis ns name, .ok none⟩] ∧ e = .ok .stop) ∨
      ∃ r events s body, PassOver settings ns name t e r events s body := by
  obtain hunread | hgone | ⟨r, steps, final, x, s, ht, -, -⟩ := runs_pass_cases run
  · exact .inl hunread
  · exact .inr (.inl hgone)
  have hread : r ∈ Trace.redises t := by
    rw [ht]
    exact List.mem_cons_self
  obtain ⟨events, s, body, writes, steps, finalized, hexchange⟩ := exists_steps_of_runs run hread
  have hwork := steps.isWork
  refine .inr (.inr ⟨r, events, s, body, ?_⟩)
  exact {
    redises := Trace.redises_of_exchange hwork hexchange
    read := Trace.read_of_exchange hwork hexchange
    applications := Trace.applications_of_exchange hexchange
    secretAnswers := Trace.secretAnswers_of_exchange hexchange
    steps := steps
    finalized := by
      rw [Trace.statusWrites_of_exchange hwork hexchange]
      exact finalized }

theorem FinalRun.error_iff {r : Redis} {s : Status} {body : Ending}
    {writes : List (Redis × Except ControlError Unit)} (h : FinalRun r s body writes e) :
    (∃ failure, e = .error failure) ↔
      (∃ w ∈ writes, ∃ failure, w.2 = .error failure) ∨ ∃ failure, body = .error failure := by
  rcases h.ending_cases with ⟨w, hw, failure, hfailure, rfl⟩ | ⟨hok, rfl⟩
  · exact iff_of_true ⟨failure, rfl⟩ (.inl ⟨w, hw, failure, hfailure⟩)
  · refine ⟨.inr, fun h => h.resolve_left ?_⟩
    rintro ⟨w, hw, failure, hfailure⟩
    cases (hok w hw).symm.trans hfailure

namespace PassOver

variable {r : Redis} {events : Trace} {s : Status} {body : Ending}

theorem mem_apply_iff (h : PassOver settings ns name t e r events s body) {o : SubResource}
    {a : Except ControlError Applied} : ⟨.apply o, a⟩ ∈ t ↔ ⟨.apply o, a⟩ ∈ events := by
  rw [← Trace.mem_applications, ← Trace.mem_applications, h.applications]

theorem eq_of_mem_redises (h : PassOver settings ns name t e r events s body) {r' : Redis}
    (hr : r' ∈ Trace.redises t) : r' = r := by
  rw [h.redises] at hr
  exact List.mem_singleton.1 hr

theorem mem_redises (h : PassOver settings ns name t e r events s body) : r ∈ Trace.redises t := by
  rw [h.redises]
  exact List.mem_singleton_self r

theorem failed_iff (h : PassOver settings ns name t e r events s body) :
    Trace.Failed ns name t ↔ ∃ failure, e = .error failure := by
  rw [h.finalized.error_iff, h.steps.error_iff]
  constructor
  · intro failed
    cases failed with
    | unread answered => cases h.read answered
    | unowned read entries incomplete =>
      rw [h.eq_of_mem_redises read] at entries incomplete
      exact .inr (.inl ⟨entries, incomplete⟩)
    | unapplied answered => exact .inr (.inr ⟨_, .inl ⟨_, h.mem_apply_iff.1 answered⟩⟩)
    | tlsInputs read refused answers =>
      rw [h.eq_of_mem_redises read] at refused
      exact .inr (.inr ⟨_, .inr ⟨_, refused, answers.trans h.secretAnswers⟩⟩)
    | unwritten answered =>
      exact .inl ⟨_, Trace.mem_statusWrites.2 answered, _, rfl⟩
  · rintro (⟨⟨r', a⟩, hw, failure, rfl⟩ | ⟨entries, incomplete⟩ |
      ⟨failure, ⟨o, hm⟩ | ⟨reads, refused, answers⟩⟩)
    · exact .unwritten (Trace.mem_statusWrites.1 hw)
    · exact .unowned h.mem_redises entries incomplete
    · exact .unapplied (h.mem_apply_iff.2 hm)
    · exact .tlsInputs h.mem_redises refused (answers.trans h.secretAnswers.symm)

/-- Where nothing failed, the write of the status was accepted and the pass ended as its steps. -/
theorem settles (h : PassOver settings ns name t e r events s body)
    (ok : ¬ Trace.Failed ns name t) : (∀ w ∈ Trace.statusWrites t, w.2 = .ok ()) ∧ e = body := by
  rcases h.finalized.ending_cases with ⟨w, hw, failure, hfailure, he⟩ | hsettles
  · exact absurd (h.failed_iff.2 ⟨failure, he⟩) ok
  · exact hsettles

theorem exists_finished (h : PassOver settings ns name t e r events s body) {s' : Status}
    (hwrote : Trace.Wrote t r s') : ∃ now, s' = s.finished now := by
  have hmem := Trace.mem_statusWrites.2 hwrote
  have hfinal := h.finalized
  generalize Trace.statusWrites t = writes at hmem hfinal
  cases hfinal with
  | unchanged _ => cases hmem
  | @written now a _ =>
    have hwritten := congrArg (·.1.status) (List.mem_singleton.1 hmem)
    exact ⟨now, Option.some.inj hwritten⟩

/-- A status that cannot be the one that was read is written. -/
theorem exists_wrote (h : PassOver settings ns name t e r events s body)
    (ok : ¬ Trace.Failed ns name t) (hne : ∀ now, s.finished now ≠ r.statusOrEmpty) :
    ∃ now, Trace.Wrote t r (s.finished now) := by
  obtain ⟨hok, -⟩ := h.settles ok
  have hfinal := h.finalized
  generalize hwrites : Trace.statusWrites t = writes at hok hfinal
  cases hfinal with
  | unchanged same => exact absurd same (hne _)
  | @written now a _ =>
    have ha : a = .ok () := hok _ (List.mem_singleton_self _)
    refine ⟨now, Trace.mem_statusWrites.1 ?_⟩
    rw [hwrites, ha]
    exact List.mem_singleton_self _

theorem exists_filled (h : PassOver settings ns name t e r events s body)
    (ok : ¬ Trace.Failed ns name t) (hempty : r.statusOrEmpty.conditions.isEmpty = true) :
    ∃ s', Trace.Wrote t r s' ∧ s'.conditions.isEmpty = false := by
  have hfilled : ∀ now, (s.finished now).conditions.isEmpty = false :=
    Ledger.isEmpty_recomputeReady h.steps.isEmpty_eq_false
  obtain ⟨now, hwrote⟩ := h.exists_wrote ok fun now he => by
    have hfull := hfilled now
    rw [he, hempty] at hfull
    cases hfull
  exact ⟨_, hwrote, hfilled now⟩

theorem exists_recorded (h : PassOver settings ns name t e r events s body)
    (ok : ¬ Trace.Failed ns name t) (hne : s.hash ≠ r.statusOrEmpty.hash) :
    ∃ s', Trace.Wrote t r s' ∧ s'.hash ≠ r.statusOrEmpty.hash := by
  obtain ⟨now, hwrote⟩ := h.exists_wrote ok fun now he => by
    have hhash : (s.finished now).hash = r.statusOrEmpty.hash := congrArg Status.hash he
    exact hne hhash
  exact ⟨_, hwrote, hne⟩

theorem due_iff (h : PassOver settings ns name t e r events s body) {b : Action} :
    Due settings ns name t b ↔ b = e.toAction settings := by
  -- Each cause determines how the pass ended; conversely each end has its cause.
  constructor
  · intro due
    cases due with
    | gone answered => cases h.read answered
    | failed failed =>
      obtain ⟨failure, rfl⟩ := h.failed_iff.1 failed
      rfl
    | converged ok workload answered =>
      have hmem := Trace.mem_answers (Trace.mem_applications.2 (h.mem_apply_iff.1 answered))
      rw [workload] at hmem
      rw [(h.settles ok).2, h.steps.done_iff.2 ⟨_, _, hmem⟩]
      rfl
    | initialized ok read _ before _ =>
      rw [h.eq_of_mem_redises read] at before
      rw [(h.settles ok).2, h.steps.requeue_iff.2 (.inl before)]
      rfl
    | recorded ok read written differs =>
      rw [h.eq_of_mem_redises read] at written differs
      obtain ⟨now, rfl⟩ := h.exists_finished written
      rw [(h.settles ok).2, h.steps.requeue_iff.2 (.inr differs)]
      rfl
    | pending ok answered =>
      rw [(h.settles ok).2, (h.steps.requeueAfter_iff _).2 ⟨_, h.mem_apply_iff.1 answered⟩]
      rfl
  · rintro rfl
    cases e with
    | error failure => exact .failed (h.failed_iff.2 ⟨failure, rfl⟩)
    | ok outcome =>
      -- A pass that did not fail ended as its steps did, and these end in one of three ways.
      have ok : ¬ Trace.Failed ns name t := by
        rw [h.failed_iff]
        exact nofun
      have hbody : body = .ok outcome := (h.settles ok).2.symm
      cases outcome with
      | stop => exact absurd hbody h.steps.ne_stop
      | done =>
        obtain ⟨change, ready, hmem⟩ := h.steps.done_iff.1 hbody
        obtain ⟨o, hkind, happlied⟩ := Trace.exists_of_mem_answers hmem
        exact .converged ok hkind (h.mem_apply_iff.2 (Trace.mem_applications.1 happlied))
      | requeue =>
        rcases h.steps.requeue_iff.1 hbody with hempty | hne
        · obtain ⟨s', hwrote, hfilled⟩ := h.exists_filled ok hempty
          exact .initialized ok h.mem_redises hwrote hempty hfilled
        · obtain ⟨s', hwrote, hdiffers⟩ := h.exists_recorded ok hne
          exact .recorded ok h.mem_redises hwrote hdiffers
      | requeueAfter d =>
        obtain ⟨o, hm⟩ := (h.steps.requeueAfter_iff d).1 hbody
        exact .pending ok (h.mem_apply_iff.2 hm)

end PassOver

/-- **A pass leaves one decision**, the one that its end stands for. -/
theorem due_iff (run : Runs (pass settings ns name) t e) {b : Action} :
    Due settings ns name t b ↔ b = e.toAction settings := by
  -- A pass that reads no instance makes one call, and no other cause fits its answer.
  obtain ⟨failure, rfl, rfl⟩ | ⟨rfl, rfl⟩ | ⟨r, events, s, body, hover⟩ := passOver_cases run
  · have hfailed : Trace.Failed ns name [⟨.getRedis ns name, .error failure⟩] :=
      .unread (List.mem_singleton_self _)
    constructor
    · intro due
      cases due with
      | gone answered => cases List.mem_singleton.1 answered
      | failed _ => rfl
      | converged ok _ _ | initialized ok _ _ _ _ | recorded ok _ _ _ | pending ok _ =>
        exact absurd hfailed ok
    · rintro rfl
      exact .failed hfailed
  · constructor
    · intro due
      cases due with
      | gone _ => rfl
      | failed failed =>
        cases failed with
        | unread answered | unapplied answered | unwritten answered =>
          cases List.mem_singleton.1 answered
        | unowned read _ _ | tlsInputs read _ _ => cases read
      | converged _ _ answered | pending _ answered => cases List.mem_singleton.1 answered
      | initialized _ read _ _ _ | recorded _ read _ _ => cases read
    · rintro rfl
      exact .gone (List.mem_singleton_self _)
  · exact hover.due_iff

end Pass

/-! ## The scheduler -/

theorem runs_reconcile_of_none {settings : Settings} {known : Redis} {t : Trace} {a : Action}
    (hns : known.metadata.ns = none) (run : Runs (reconcile settings known) t a) :
    t = [] ∧ a = .requeue settings.errorRequeue := by
  unfold reconcile at run
  rw [hns] at run
  exact runs_done_iff.1 run

theorem runs_reconcile_of_some {settings : Settings} {known : Redis} {t : Trace} {a : Action}
    {ns : String} (hns : known.metadata.ns = some ns) :
    Runs (reconcile settings known) t a ↔
      ∃ e, Runs (pass settings ns known.name) t e ∧ a = e.toAction settings := by
  unfold reconcile
  rw [hns]
  show Runs ((pass settings ns known.name).bind _) t a ↔ _
  rw [runs_bind_iff]
  constructor
  · rintro ⟨t₁, t₂, e, rfl, hpass, hdone⟩
    obtain ⟨rfl, rfl⟩ := runs_done_iff.1 hdone
    rw [List.append_nil]
    exact ⟨e, hpass, rfl⟩
  · rintro ⟨e, hpass, rfl⟩
    exact ⟨t, [], e, (List.append_nil t).symm, hpass, .done _⟩

/-- **What the scheduler learns from a pass.** It waits for a change exactly where the instance is
gone, and in all other cases the instance is due again, after the one interval that the calls and
their answers stand for. -/
theorem step_schedules {settings : Settings} {known : Redis} {t : Trace} {a : Action}
    (run : Runs (reconcile settings known) t a) :
    (known.metadata.ns = none → t = [] ∧ a = .requeue settings.errorRequeue) ∧
      ∀ ns, known.metadata.ns = some ns →
        (a = .awaitChange ↔ ⟨.getRedis ns known.name, .ok none⟩ ∈ t) ∧
        ∀ b, Due settings ns known.name t b ↔ b = a := by
  refine ⟨fun hns => runs_reconcile_of_none hns run, fun ns hns => ?_⟩
  obtain ⟨e, hpass, rfl⟩ := (runs_reconcile_of_some hns).1 run
  refine ⟨⟨fun hawait => ?_, fun answered => ?_⟩, fun b => due_iff hpass⟩
  · cases (due_iff hpass).2 hawait.symm with
    | gone answered => exact answered
  · exact ((due_iff hpass).1 (.gone answered)).symm

open SteadyCluster

/-- An instance that is in place is due after the usual interval, and one that the scheduler knows
without a namespace after the interval for errors. -/
theorem step_schedules_cache :
    (∀ b, Due .default "demo" "cache" (thirdPass "cache").trace b ↔
      b = .requeue (.ofSeconds 300)) ∧
    ∀ t a, Runs (reconcile .default ⟨{ name := some "cache" }, {}, none⟩) t a →
      t = [] ∧ a = .requeue (.ofSeconds 60) := by
  have hknown : ((named "cache").redis none).metadata.ns = some "demo" := rfl
  have hrun : Runs (reconcile .default ((named "cache").redis none)) (thirdPass "cache").trace
      (.requeue (.ofSeconds 300)) :=
    (runs_reconcile_of_some hknown).2 ⟨_, runs_thirdPass "cache", rfl⟩
  refine ⟨((step_schedules hrun).2 "demo" hknown).2, fun t a run => ?_⟩
  exact (step_schedules run).1 rfl

end RedisControl
