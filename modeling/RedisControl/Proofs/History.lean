import RedisControl.Proofs.PassRuns

/-!
# Histories of an instance

A history is what becomes of one instance over any number of passes. Between two passes, and
during each, everything may change that a pass does not write itself: the spec and the metadata,
the secrets, what comes of applying objects, whether a write succeeds, even whether the instance
is there at all. Only the status is in one hand. What a pass reads of it is what is stored, and
what is stored is what the last successful write left.

* `PassRecord` : one pass, with all that was seen of it.
* `History` : passes one after the other, from one stored status to another.
* `PassRecord.IsPass.did` : what a pass in a history did.
-/

namespace RedisControl

open Program

/-- One pass over an instance: the settings, the status that was stored before, the calls with
their answers, and the end. -/
structure PassRecord where
  settings : Settings
  stored : Option Status
  trace : Trace
  ending : Ending

namespace PassRecord

/-- The record is one of a pass that read the status that was stored. -/
def IsPass (ns name : String) (p : PassRecord) : Prop :=
  Runs (pass p.settings ns name) p.trace p.ending ∧ ∀ r ∈ Trace.redises p.trace, r.status = p.stored

/-- What is stored once a write came back: the status that was written, if that succeeded. -/
def storedOf (stored : Option Status) : Redis × Except ControlError Unit → Option Status
  | (r, .ok ()) => r.status
  | (_, .error _) => stored

/-- The status that is stored after the pass. -/
def storedAfter (p : PassRecord) : Option Status :=
  (Trace.statusWrites p.trace).foldl storedOf p.stored

def wrote (p : PassRecord) : Bool := (Trace.statusWrites p.trace).any fun w => w.2.isOk

def writeFailed (p : PassRecord) : Bool := (Trace.statusWrites p.trace).any fun w => !w.2.isOk

end PassRecord

/-- Passes over an instance, one after the other, from one stored status to another. -/
inductive History (ns name : String) (first : Option Status) :
    List PassRecord → Option Status → Prop where
  | nil : History ns name first [] first
  | snoc {ps : List PassRecord} {p : PassRecord} (before : History ns name first ps p.stored)
      (isPass : p.IsPass ns name) : History ns name first (ps ++ [p]) p.storedAfter

theorem History.isPass_of_mem {ns name : String} {first last : Option Status}
    {ps : List PassRecord} (h : History ns name first ps last) {p : PassRecord} (hp : p ∈ ps) :
    p.IsPass ns name := by
  induction h with
  | nil => cases hp
  | snoc _ isPass ih =>
    rcases List.mem_append.1 hp with hp | hp
    · exact ih hp
    · rw [List.mem_singleton.1 hp]
      exact isPass

/-! ## What the steps do to the cluster -/

/-- An event that is the application of an object or the read of a secret. -/
def Event.IsWork (e : Event Cluster) : Prop := e.application?.isSome ∨ e.secretAnswer?.isSome

theorem isWork_applyEvents (os : List SubResource) (as : List (Except ControlError Applied)) :
    ∀ e ∈ applyEvents os as, e.IsWork := by
  induction os generalizing as with
  | nil => simp [applyEvents]
  | cons o os ih =>
    cases as with
    | nil => simp
    | cons a as =>
      intro e he
      rcases List.mem_cons.1 he with rfl | he
      · exact Or.inl rfl
      · exact ih as e he

theorem isWork_append {t u : Trace} (ht : ∀ e ∈ t, e.IsWork) (hu : ∀ e ∈ u, e.IsWork) :
    ∀ e ∈ t ++ u, e.IsWork := by
  intro e he
  rcases List.mem_append.1 he with he | he
  · exact ht e he
  · exact hu e he

theorem Gathering.isWork {r : Redis} {w : Owned r} {events : Trace} {ms : List Mark}
    {x : Progress InputHashes} (h : Gathering w events ms x) : ∀ e ∈ events, e.IsWork := by
  have hreads : ∀ {reads : Trace} {result}, Runs (tlsInputHashes r) reads result →
      ∀ e ∈ reads, e.IsWork := fun run e he => Or.inr (runs_tlsInputHashes_reads run e he)
  cases h with
  | permissions _ => exact isWork_applyEvents _ _
  | tlsInputs _ tlsInputs => exact isWork_append (isWork_applyEvents _ _) (hreads tlsInputs)
  | configMaps _ tlsInputs _ =>
    exact isWork_append (isWork_applyEvents _ _)
      (isWork_append (hreads tlsInputs) (isWork_applyEvents _ _))

theorem WorkCourse.isWork {settings : Settings} {r : Redis} {w : Owned r}
    {recorded hash : StringMap String} {events : Trace} {ms : List Mark} {x : Progress Outcome}
    (h : WorkCourse settings w recorded events ms hash x) : ∀ e ∈ events, e.IsWork := by
  cases h with
  | stopped gathering | recorded gathering _ => exact gathering.isWork
  | services gathering _ _ => exact isWork_append gathering.isWork (isWork_applyEvents _ _)
  | workload gathering _ _ =>
    exact isWork_append gathering.isWork
      (isWork_append (isWork_applyEvents _ _) (isWork_applyEvents [_] [_]))

theorem ConvergeRun.isWork {settings : Settings} {r : Redis} {s s' : Status} {events : Trace}
    {e : Ending} (h : ConvergeRun settings r s events s' e) : ∀ e ∈ events, e.IsWork := by
  cases h with
  | filled _ _ | unowned _ _ => simp
  | worked _ course _ => exact course.isWork

namespace Trace

theorem redises_of_isWork {t : Trace} (h : ∀ e ∈ t, e.IsWork) : redises t = [] := by
  refine List.filterMap_eq_nil_iff.2 ?_
  intro e he
  have hw := h e he
  rcases e with ⟨c, x⟩
  cases c with
  | getRedis _ _ => rcases hw with hw | hw <;> cases hw
  | _ => rfl

theorem statusWrites_of_isWork {t : Trace} (h : ∀ e ∈ t, e.IsWork) : statusWrites t = [] := by
  refine List.filterMap_eq_nil_iff.2 ?_
  intro e he
  have hw := h e he
  rcases e with ⟨c, x⟩
  cases c with
  | patchStatus _ => rcases hw with hw | hw <;> cases hw
  | _ => rfl

end Trace

/-! ## What a pass in a history did -/

/-- What a pass did: either nothing at all, for lack of an instance, or it went through its steps
and finalized. -/
inductive PassRecord.Did (ns name : String) (p : PassRecord) : Prop where
  | nothing (redises : Trace.redises p.trace = [])
      (applications : Trace.applications p.trace = [])
      (writes : Trace.statusWrites p.trace = [])
      (ending : p.ending = .ok .stop ∨ ∃ e, p.ending = .error e) : p.Did ns name
  | work {r : Redis} {s : Status} {e : Ending} {events : Trace}
      (redises : Trace.redises p.trace = [r]) (stored : r.status = p.stored)
      (steps : ConvergeRun p.settings r r.statusOrEmpty events s e)
      (finalized : FinalRun r s e (Trace.statusWrites p.trace) p.ending)
      (exchange : Trace.exchange p.trace = ⟨.getRedis ns name, .ok (some r)⟩ ::
        (events ++ (Trace.statusWrites p.trace).map writeEvent)) : p.Did ns name

namespace Trace

theorem filterMap_writeEvent {α : Type} {f : Event Cluster → Option α}
    (h : ∀ w, f (writeEvent w) = none) (writes : List (Redis × Except ControlError Unit)) :
    (writes.map writeEvent).filterMap f = [] :=
  List.filterMap_eq_nil_iff.2 fun e he => by
    obtain ⟨w, -, rfl⟩ := List.mem_map.1 he
    exact h w

theorem statusWrites_writeEvent (writes : List (Redis × Except ControlError Unit)) :
    statusWrites (writes.map writeEvent) = writes := by
  induction writes with
  | nil => rfl
  | cons w writes ih => exact congrArg (w :: ·) ih

end Trace

theorem PassRun.redises_read {ns name : String} {r : Redis} {events : Trace}
    (h : ∀ e ∈ events, e.IsWork) (writes : List (Redis × Except ControlError Unit)) :
    Trace.redises (⟨.getRedis ns name, .ok (some r)⟩ :: (events ++ writes.map writeEvent)) =
      [r] := by
  show r :: Trace.redises (events ++ writes.map writeEvent) = [r]
  rw [Trace.redises_append, Trace.redises_of_isWork h]
  exact congrArg (r :: ·) (Trace.filterMap_writeEvent (fun _ => rfl) writes)

theorem PassRun.redises_eq {settings : Settings} {ns name : String} {t : Trace} {e : Ending}
    (h : PassRun settings ns name t e) : Trace.redises t = (t.head?.bind Event.redis?).toList := by
  cases h with
  | unread _ | gone => rfl
  | read steps _ => exact redises_read steps.isWork _

/-- A pass that has read an instance goes through its steps and finalizes. -/
theorem exists_steps_of_runs {settings : Settings} {ns name : String} {t : Trace} {e : Ending}
    (run : Runs (pass settings ns name) t e) {r : Redis} (hr : r ∈ Trace.redises t) :
    ∃ events s body writes, ConvergeRun settings r r.statusOrEmpty events s body ∧
      FinalRun r s body writes e ∧
      Trace.exchange t = ⟨.getRedis ns name, .ok (some r)⟩ :: (events ++ writes.map writeEvent) := by
  have hrun := runs_pass run
  rw [← Trace.redises_exchange, hrun.redises_eq] at hr
  generalize Trace.exchange t = exchange at hrun hr
  cases hrun with
  | unread _ | gone => cases hr
  | @read r' s body _ events writes steps finalized =>
    obtain rfl : r = r' := List.mem_singleton.1 hr
    exact ⟨events, s, body, writes, steps, finalized, rfl⟩

/-! ## What is read off the exchange of a pass -/

namespace Trace

variable {ns name : String} {r : Redis} {t events : Trace}
  {writes : List (Redis × Except ControlError Unit)}

/-- The objects that a pass applied are those that its steps applied. -/
theorem applications_of_exchange
    (h : exchange t = ⟨.getRedis ns name, .ok (some r)⟩ :: (events ++ writes.map writeEvent)) :
    applications t = applications events := by
  rw [← applications_exchange, h]
  show applications (events ++ writes.map writeEvent) = applications events
  rw [applications_append]
  show _ ++ (writes.map writeEvent).filterMap _ = _
  rw [filterMap_writeEvent fun _ => rfl, List.append_nil]

/-- The secrets that a pass read are those that its steps read. -/
theorem secretAnswers_of_exchange
    (h : exchange t = ⟨.getRedis ns name, .ok (some r)⟩ :: (events ++ writes.map writeEvent)) :
    secretAnswers t = secretAnswers events := by
  rw [← secretAnswers_exchange, h]
  show secretAnswers (events ++ writes.map writeEvent) = secretAnswers events
  rw [secretAnswers_append]
  show _ ++ (writes.map writeEvent).filterMap _ = _
  rw [filterMap_writeEvent fun _ => rfl, List.append_nil]

theorem redises_of_exchange (hwork : ∀ e ∈ events, e.IsWork)
    (h : exchange t = ⟨.getRedis ns name, .ok (some r)⟩ :: (events ++ writes.map writeEvent)) :
    redises t = [r] := by
  rw [← redises_exchange, h]
  exact PassRun.redises_read hwork writes

/-- The only read of an instance in a pass is its first call. -/
theorem read_of_exchange (hwork : ∀ e ∈ events, e.IsWork)
    (h : exchange t = ⟨.getRedis ns name, .ok (some r)⟩ :: (events ++ writes.map writeEvent))
    {a : Except ControlError (Option Redis)} (ha : ⟨.getRedis ns name, a⟩ ∈ t) :
    a = .ok (some r) := by
  have hmem : ⟨.getRedis ns name, a⟩ ∈ exchange t := List.mem_filter.2 ⟨ha, rfl⟩
  rw [h] at hmem
  rcases List.mem_cons.1 hmem with heq | hmem
  · cases heq
    rfl
  rcases List.mem_append.1 hmem with hmem | hmem
  · rcases hwork _ hmem with happlied | hread
    · cases happlied
    · cases hread
  · obtain ⟨w, -, hw⟩ := List.mem_map.1 hmem
    cases hw

/-- The statuses that a pass was to write are those of finalizing. -/
theorem statusWrites_of_exchange (hwork : ∀ e ∈ events, e.IsWork)
    (h : exchange t = ⟨.getRedis ns name, .ok (some r)⟩ :: (events ++ writes.map writeEvent)) :
    statusWrites t = writes := by
  rw [← statusWrites_exchange, h]
  show statusWrites (events ++ writes.map writeEvent) = writes
  rw [statusWrites_append, statusWrites_of_isWork hwork, statusWrites_writeEvent, List.nil_append]

end Trace

/-! ## Every pass does something or nothing -/

theorem PassRecord.IsPass.did {ns name : String} {p : PassRecord} (h : p.IsPass ns name) :
    p.Did ns name := by
  obtain ⟨run, hstored⟩ := h
  have hrun := runs_pass run
  have hredises := Trace.redises_exchange p.trace
  have happlications := Trace.applications_exchange p.trace
  have hwrites := Trace.statusWrites_exchange p.trace
  generalize he : p.ending = e' at hrun
  generalize ht : Trace.exchange p.trace = t at hrun hredises happlications hwrites
  cases hrun with
  | unread e => exact .nothing hredises.symm happlications.symm hwrites.symm (.inr ⟨e, he⟩)
  | gone => exact .nothing hredises.symm happlications.symm hwrites.symm (.inl he)
  | @read r s e _ events writes steps finalized =>
    have hread := Trace.redises_of_exchange steps.isWork ht
    have hwritten := Trace.statusWrites_of_exchange steps.isWork ht
    subst he hwritten
    rw [hread] at hstored
    exact .work hread (hstored r (List.mem_singleton_self r)) steps finalized ht

/-- What became of the stored status at the end of a pass. -/
inductive PassRecord.Kept (p : PassRecord) (r : Redis) (s : Status) (e : Ending) : Prop where
  | unchanged {now : Time} (same : s.finished now = r.statusOrEmpty)
      (after : p.storedAfter = p.stored) (wrote : p.wrote = false)
      (writeFailed : p.writeFailed = false) (ending : p.ending = e) : p.Kept r s e
  | written {now : Time} (differs : s.finished now ≠ r.statusOrEmpty)
      (after : p.storedAfter = some (s.finished now)) (wrote : p.wrote = true)
      (writeFailed : p.writeFailed = false) (ending : p.ending = e) : p.Kept r s e
  | failed {failure : ControlError} (after : p.storedAfter = p.stored) (wrote : p.wrote = false)
      (writeFailed : p.writeFailed = true) (ending : p.ending = .error failure) : p.Kept r s e

theorem FinalRun.kept {p : PassRecord} {r : Redis} {s : Status} {e : Ending}
    (h : FinalRun r s e (Trace.statusWrites p.trace) p.ending) : p.Kept r s e := by
  generalize hw : Trace.statusWrites p.trace = writes at h
  generalize he : p.ending = e' at h
  cases h with
  | unchanged same =>
    refine .unchanged same ?_ ?_ ?_ he
    · rw [PassRecord.storedAfter, hw]; rfl
    · rw [PassRecord.wrote, hw]; rfl
    · rw [PassRecord.writeFailed, hw]; rfl
  | @written now a differs =>
    cases a with
    | ok u =>
      refine .written differs ?_ ?_ ?_ he
      · rw [PassRecord.storedAfter, hw]; rfl
      · rw [PassRecord.wrote, hw]; rfl
      · rw [PassRecord.writeFailed, hw]; rfl
    | error failure =>
      refine .failed ?_ ?_ ?_ he
      · rw [PassRecord.storedAfter, hw]; rfl
      · rw [PassRecord.wrote, hw]; rfl
      · rw [PassRecord.writeFailed, hw]; rfl

end RedisControl
