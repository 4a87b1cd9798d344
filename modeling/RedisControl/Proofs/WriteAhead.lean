import RedisControl.Proofs.History
import RedisControl.Proofs.Quiescence
import RedisControl.Proofs.SeenInputs

/-!
# The hash of the inputs is written ahead

**Theorem (`workload_hash_written_ahead`).** Over any history, a workload is only ever applied with
a hash of the inputs that was stored before the pass began, and that hash is the one of exactly the
inputs that the same pass has seen. A pass that records other hashes applies neither a service nor
a workload.

Only one way through a pass leads to the workload, and it leads past the comparison with the
record: the inputs that the pass has gathered agree with what it read of the status. A pass that
records something ends at the comparison, before the services.
-/

namespace RedisControl

open Program

/-- The hash of the inputs that a workload gives to its pods. -/
def SubResource.inputHash? (o : SubResource) : Option String :=
  match o.body with
  | .statefulSet (some spec) _ =>
    spec.template.metadata.bind fun m => m.annotations.bind fun a => a.get? inputHashKey
  | _ => none

theorem Owned.inputHash?_workload {r : Redis} (w : Owned r) (settings : Settings) (hash : String) :
    (w.workload settings hash).inputHash? = some hash :=
  StringMap.get?_ofList_singleton inputHashKey hash

theorem Trace.mem_answers {o : SubResource} {a : Except ControlError Applied} {t : Trace}
    (h : (o, a) ∈ applications t) : a ∈ answers o.kind t :=
  List.mem_map.2 ⟨(o, a), List.mem_filter.2 ⟨h, beq_self_eq_true o.kind⟩, rfl⟩

theorem Trace.kind_ne_of_answers {k : Kind} {t : Trace} (h : answers k t = [])
    {e : SubResource × Except ControlError Applied} (he : e ∈ applications t) : e.1.kind ≠ k := by
  rintro rfl
  have hmem := mem_answers he
  rw [h] at hmem
  cases hmem

/-! ## One pass -/

section Course

variable {settings : Settings} {r : Redis} {w : Owned r} {recorded hash : StringMap String}
  {events : Trace} {ms : List Mark} {x : Progress Outcome}

theorem Gathering.answers_services_eq_nil {y : Progress InputHashes} (h : Gathering w events ms y)
    (as : List (Except ControlError Applied)) :
    Trace.answers .statefulSet (events ++ applyEvents w.services as) = [] := by
  have hservices : Kind.statefulSet ∉ w.services.map (·.kind) := by
    rw [kind_services]
    decide
  rw [Trace.answers_append, h.answers_eq_nil (by decide),
    Trace.answers_applyEvents_of_not_mem hservices]
  rfl

theorem WorkCourse.inputHash_of_mem (h : WorkCourse settings w recorded events ms hash x)
    {o : SubResource} {a : Except ControlError Applied} (ho : (o, a) ∈ Trace.applications events)
    (hk : o.kind = .statefulSet) :
    o.inputHash? = some (Trace.inputs r events).aggregate ∧
      recorded.get? InputName.aggregate = some (Trace.inputs r events).aggregate ∧
      Trace.HasInputs r events := by
  have hno : ∀ t, Trace.answers .statefulSet t = [] → (o, a) ∉ Trace.applications t :=
    fun t ht hmem => Trace.kind_ne_of_answers ht hmem hk
  cases h with
  | stopped gathering | recorded gathering _ =>
    exact absurd ho (hno _ (gathering.answers_eq_nil (by decide)))
  | services gathering _ _ => exact absurd ho (hno _ (gathering.answers_services_eq_nil _))
  | @workload events ms inputs as b gathering agrees services =>
    obtain ⟨rfl, hall⟩ := gathering.inputs_eq
    -- The application of the workload comes last, and no config map is among the objects after the
    -- inputs were gathered: they leave the inputs of the trace as they are.
    have hlast : [⟨.apply (w.workload settings (Trace.inputs r events).aggregate), b⟩] =
      applyEvents [w.workload settings (Trace.inputs r events).aggregate] [b] := rfl
    have hservices : Kind.configMap ∉ w.services.map (·.kind) := by
      rw [kind_services]
      decide
    have hworkload : Kind.configMap ∉
        [w.workload settings (Trace.inputs r events).aggregate].map (·.kind) := by
      show Kind.configMap ∉ [Kind.statefulSet]
      decide
    rw [← List.append_assoc, Trace.applications_append, List.mem_append] at ho
    rcases ho with ho | ho
    · exact absurd ho (hno _ (gathering.answers_services_eq_nil _))
    · obtain ⟨rfl, rfl⟩ := Prod.mk.inj (List.mem_singleton.1 ho)
      rw [hlast, ← List.append_assoc, Trace.inputs_append_applyEvents hworkload,
        Trace.inputs_append_applyEvents hservices]
      exact ⟨w.inputHash?_workload settings _, InputHashes.compare_eq_none_iff.1 agrees,
        (hall.append_applyEvents hservices _).append_applyEvents hworkload _⟩

theorem WorkCourse.answers_of_hash_ne (h : WorkCourse settings w recorded events ms hash x)
    (hne : hash ≠ recorded) {k : Kind} (hk : k ∈ [Kind.service, .statefulSet]) :
    Trace.answers k events = [] := by
  cases h with
  | stopped _ | services _ _ _ | workload _ _ _ => exact absurd rfl hne
  | recorded gathering _ => exact gathering.answers_eq_nil hk

theorem ApplyRun.stop_ne_done {os : List SubResource} {as : List (Except ControlError Applied)}
    {stop : Option Ending} (h : ApplyRun os as stop) : stop ≠ some (.ok .done) := by
  induction h with
  | done => exact fun he => by cases he
  | next _ _ ih => exact ih
  | @stop o os a e here =>
    match a, here with
    | .ok (.pending after), here | .error failure, here =>
      obtain rfl := Option.some.inj here
      exact fun he => by cases he

/-- Only a pass that has applied the workload is done. -/
theorem WorkCourse.exists_workload (h : WorkCourse settings w recorded events ms hash x)
    (hx : x.ending = .ok .done) :
    ∃ o a, (o, a) ∈ Trace.applications events ∧ o.kind = .statefulSet := by
  cases h with
  | stopped gathering =>
    generalize hfinish : Progress.finish _ = y at gathering
    cases gathering with
    | permissions hp =>
      obtain rfl := Progress.finish.inj hfinish
      exact absurd (congrArg some hx) hp.stop_ne_done
    | tlsInputs _ _ =>
      obtain rfl := Progress.finish.inj hfinish
      cases hx
    | configMaps _ _ hm =>
      obtain rfl := Progress.ofStop_eq_finish hfinish.symm
      exact absurd (congrArg some hx) hm.stop_ne_done
  | recorded _ _ => cases hx
  | services _ _ services => exact absurd (congrArg some hx) services.stop_ne_done
  | @workload events ms inputs as a _ _ _ =>
    refine ⟨w.workload settings inputs.aggregate, a, ?_, rfl⟩
    rw [Trace.applications_append, Trace.applications_append]
    exact List.mem_append_right _ (List.mem_append_right _ (List.mem_singleton_self _))

end Course

/-! ## Every pass of a history -/

namespace Trace

variable {t events : Trace} {ns name : String} {r : Redis}
  {writes : List (Redis × Except ControlError Unit)}

theorem inputs_of_exchange
    (h : exchange t = ⟨.getRedis ns name, .ok (some r)⟩ :: (events ++ writes.map writeEvent)) :
    inputs r t = inputs r events := by
  rw [inputs, secretInputs, secrets, secretAnswers_of_exchange h, configInputs,
    applications_of_exchange h]
  rfl

theorem hasInputs_of_exchange
    (h : exchange t = ⟨.getRedis ns name, .ok (some r)⟩ :: (events ++ writes.map writeEvent))
    (hall : HasInputs r events) : HasInputs r t := by
  rw [HasInputs, secrets, secretAnswers_of_exchange h, configInputs, applications_of_exchange h]
  exact hall

end Trace

/-- Only a write that fails hides how the steps ended, and then the pass is not done. -/
theorem PassRecord.Kept.ending_eq_done {p : PassRecord} {r : Redis} {s : Status} {e : Ending}
    (h : p.Kept r s e) (hdone : p.ending = .ok .done) : e = .ok .done := by
  cases h with
  | unchanged _ _ _ _ ending | written _ _ _ _ ending => rw [← ending, hdone]
  | failed _ _ _ ending =>
    rw [hdone] at ending
    cases ending

theorem PassRecord.IsPass.exists_workload {ns name : String} {p : PassRecord}
    (h : p.IsPass ns name) (hdone : p.ending = .ok .done) :
    ∃ o a, (o, a) ∈ Trace.applications p.trace ∧ o.kind = .statefulSet := by
  cases h.did with
  | nothing _ _ _ ending =>
    rw [hdone] at ending
    rcases ending with h | ⟨e, h⟩ <;> cases h
  | @work r s e events _ _ steps finalized exchange =>
    rw [Trace.applications_of_exchange exchange]
    have he : e = .ok .done := finalized.kept.ending_eq_done hdone
    cases steps with
    | filled _ _ | unowned _ _ => cases he
    | worked _ course _ => exact course.exists_workload he

theorem FinalRun.hash_of_mem {r : Redis} {s : Status} {e e' : Ending}
    {writes : List (Redis × Except ControlError Unit)} (h : FinalRun r s e writes e')
    {write : Redis × Except ControlError Unit} (hw : write ∈ writes) :
    write.1.statusOrEmpty.hash = s.hash := by
  cases h with
  | unchanged _ => cases hw
  | written _ =>
    rw [List.mem_singleton.1 hw]
    rfl

/-- **The hash of the inputs is written ahead.** Whatever happens over a history: a workload that
a pass applies carries the hash that was stored when the pass read the instance, and that is the
hash of exactly the inputs that the pass has seen; a pass that is to write other recorded hashes
than it read has applied neither a service nor a workload. -/
theorem workload_hash_written_ahead {ns name : String} {first last : Option Status}
    {ps : List PassRecord} (h : History ns name first ps last) {p : PassRecord} (hp : p ∈ ps) :
    (∀ o a, (o, a) ∈ Trace.applications p.trace → o.kind = .statefulSet →
      ∃ r hash, Trace.redises p.trace = [r] ∧ r.status = p.stored ∧
        o.inputHash? = some hash ∧
        (p.stored.getD .empty).hash.get? InputName.aggregate = some hash ∧
        hash = (Trace.inputs r p.trace).aggregate ∧ Trace.HasInputs r p.trace) ∧
    (∀ write ∈ Trace.statusWrites p.trace,
      write.1.statusOrEmpty.hash ≠ (p.stored.getD .empty).hash →
      ∀ e ∈ Trace.applications p.trace, e.1.kind ≠ .service ∧ e.1.kind ≠ .statefulSet) := by
  -- Only one pass matters: what was stored before it is all that it knows of the history.
  cases (h.isPass_of_mem hp).did with
  | nothing _ applications writes _ =>
    rw [applications, writes]
    exact ⟨fun o a ho => absurd ho (List.not_mem_nil), fun w hw => absurd hw (List.not_mem_nil)⟩
  | @work r s e events redises stored steps finalized exchange =>
    have happlications := Trace.applications_of_exchange exchange
    have hstatus : r.statusOrEmpty = p.stored.getD .empty := by rw [Redis.statusOrEmpty, stored]
    rw [hstatus] at steps
    rw [happlications]
    constructor
    · intro o a ho hk
      cases steps with
      | filled _ _ | unowned _ _ => cases ho
      | worked _ course _ =>
        obtain ⟨hcarried, hrecorded, hall⟩ := course.inputHash_of_mem ho hk
        exact ⟨r, _, redises, stored, hcarried, hrecorded,
          by rw [Trace.inputs_of_exchange exchange], Trace.hasInputs_of_exchange exchange hall⟩
    · intro write hwrite hne
      cases steps with
      | filled _ _ | unowned _ _ =>
        intro e he
        cases he
      | worked _ course _ =>
        have hhash := finalized.hash_of_mem hwrite
        rw [hhash] at hne
        exact fun e he =>
          ⟨Trace.kind_ne_of_answers (course.answers_of_hash_ne hne (by decide)) he,
            Trace.kind_ne_of_answers (course.answers_of_hash_ne hne (by decide)) he⟩

/-- The third pass over a new instance in a cluster that goes along with everything. -/
theorem workload_hash_written_ahead_plain :
    let c := SteadyCluster.plain fun _ => .ok (.converged .created none)
    let third := c.round toString .default "demo" "cache" none 2
    ∃ o a hash, (o, a) ∈ Trace.applications third.trace ∧ o.kind = .statefulSet ∧
      o.inputHash? = some hash ∧
      (third.stored.getD .empty).hash.get? InputName.aggregate = some hash := by
  intro c third
  have hdone : third.ending = .ok .done :=
    SteadyCluster.plain_goesAlong.ending_eq_done (Nat.le_refl 2)
  have hpass : third.IsPass "demo" "cache" := SteadyCluster.isPass_round 2
  obtain ⟨o, a, ho, hk⟩ := hpass.exists_workload hdone
  have hmem : third ∈ (List.range 3).map (c.round toString .default "demo" "cache" none) :=
    List.mem_map_of_mem (List.mem_range.2 (by decide))
  obtain ⟨_, hash, -, -, hcarried, hstored, -⟩ :=
    (workload_hash_written_ahead (SteadyCluster.history_rounds 3) hmem).1 o a ho hk
  exact ⟨o, a, hash, ho, hk, hcarried, hstored⟩

end RedisControl
