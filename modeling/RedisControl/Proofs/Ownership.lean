import RedisControl.Proofs.Separation
import RedisControl.Proofs.SpecEdits

/-!
# Everything that a pass writes is owned

**Theorem (`pass_owns`).** Every object that a pass applies lies in the namespace of the instance
that it has read, carries the three labels, and has one owner reference, which makes the instance
its controller. No object is applied twice. Over an instance with entries in its ledger that lacks
a name, an identifier or a namespace, a pass applies nothing and reads no secret; in the status
only `Ready` may change, and the pass ends with the key that is missing, unless the write of the
status fails.

The objects come from four builders, and three of them can refuse. They refuse for one reason, and
the permissions are built before anything is applied. So an instance that cannot own objects is
found out at once, and for any other instance no builder refuses later on.

* `SubResource.BelongsTo` : an object is owned by an instance.
* `ConvergeRun.belongsTo` : what the steps apply belongs to the instance.
* `Redis.nodup_handles_plan` : the plan of an instance names eight different objects.
* `ConvergeRun.of_not_isComplete` : what the steps do over an incomplete instance.
-/

namespace RedisControl

open Program

/-! ## Owned objects -/

/-- An object belongs to an instance: it lies in its namespace, carries the three labels, and has
one owner reference, by which the instance is its controller. -/
structure SubResource.BelongsTo (o : SubResource) (r : Redis) : Prop where
  complete : r.IsComplete
  ns : o.metadata.ns = r.metadata.ns
  labels : ∃ labels, o.metadata.labels = some labels ∧
    labels.get? Label.software = some "redis" ∧
    labels.get? Label.instanceName = r.metadata.name ∧
    labels.get? Label.manager = some managerName
  owner : ∃ owner, o.metadata.ownerReferences = some [owner] ∧ owner.controller = some true ∧
    owner.apiVersion = Redis.apiVersion ∧ owner.kind = Redis.kind ∧
    r.metadata.name = some owner.name ∧ r.metadata.uid = some owner.uid

namespace Redis

variable {r : Redis}

theorem belongsTo_of_ownedMetadata {name : String} {m : ObjectMeta}
    (h : r.ownedMetadata name = .ok m) (body : Body) : (⟨m, body⟩ : SubResource).BelongsTo r := by
  have hcomplete := isComplete_of_ownedMetadata h
  obtain ⟨owner, ns, howner, hns, rfl⟩ := ownedMetadata_eq_ok h
  obtain ⟨name, hname, howner⟩ := Option.bind_eq_some_iff.1 howner
  obtain ⟨uid, huid, howner⟩ := Option.bind_eq_some_iff.1 howner
  obtain rfl := Option.some.inj howner
  refine ⟨hcomplete, hns.symm, ⟨_, rfl, ?_, ?_, ?_⟩, ⟨_, rfl, rfl, rfl, rfl, hname, huid⟩⟩
  · rw [get?_commonLabels, if_neg (by decide), get?_selectorLabels, if_neg (by decide), if_pos rfl]
  · rw [get?_commonLabels, if_neg (by decide), get?_selectorLabels, if_pos rfl, hcomplete.name_eq]
  · rw [get?_commonLabels, if_pos rfl]

end Redis

/-! ## What the steps apply -/

namespace Trace

theorem mem_of_mem_objects_applyEvents {os : List SubResource}
    {as : List (Except ControlError Applied)} {o : SubResource}
    (h : o ∈ objects (applyEvents os as)) : o ∈ os := by
  obtain ⟨⟨o, a⟩, ha, rfl⟩ := List.mem_map.1 h
  rw [applications_applyEvents] at ha
  exact (List.of_mem_zip ha).1

theorem objects_reads {t : Trace} (h : ∀ e ∈ t, e.IsSecretRead) : objects t = [] := by
  rw [objects, applications_reads h]
  rfl

end Trace

section Steps

variable {settings : Settings} {r : Redis} {w : Owned r}

theorem Owned.belongsTo (w : Owned r) (name : String) (body : Body) :
    (⟨w.metadata name, body⟩ : SubResource).BelongsTo r :=
  Redis.belongsTo_of_ownedMetadata (w.metadata_eq name) body

theorem Owned.belongsTo_permissions (w : Owned r) :
    ∀ o ∈ w.permissions.map (·.resource), o.BelongsTo r := by
  intro o ho
  simp only [permissions, List.map_cons, List.map_nil, List.mem_cons, List.not_mem_nil,
    or_false] at ho
  rcases ho with rfl | rfl | rfl <;> exact w.belongsTo _ _

theorem Owned.belongsTo_configMaps (w : Owned r) :
    ∀ o ∈ w.configMaps.map (·.1), o.BelongsTo r := by
  intro o ho
  simp only [configMaps, List.map_cons, List.map_nil, List.mem_cons, List.not_mem_nil,
    or_false] at ho
  rcases ho with rfl | rfl <;> exact w.belongsTo _ _

theorem Owned.belongsTo_services (w : Owned r) : ∀ o ∈ w.services, o.BelongsTo r := by
  intro o ho
  simp only [services, List.mem_cons, List.not_mem_nil, or_false] at ho
  rcases ho with rfl | rfl <;> exact w.belongsTo _ _

theorem Gathering.belongsTo {events : Trace} {ms : List Mark} {x : Progress InputHashes}
    (h : Gathering w events ms x) : ∀ o ∈ Trace.objects events, o.BelongsTo r := by
  have hpermissions : ∀ {as}, ∀ o ∈ Trace.objects
      (applyEvents (w.permissions.map (·.resource)) as), o.BelongsTo r := fun o ho =>
    w.belongsTo_permissions o (Trace.mem_of_mem_objects_applyEvents ho)
  cases h with
  | permissions _ => exact hpermissions
  | tlsInputs _ tlsInputs =>
    rw [Trace.objects_append, Trace.objects_reads (runs_tlsInputHashes_reads tlsInputs),
      List.append_nil]
    exact hpermissions
  | configMaps _ tlsInputs _ =>
    rw [Trace.objects_append, Trace.objects_append,
      Trace.objects_reads (runs_tlsInputHashes_reads tlsInputs), List.nil_append]
    exact List.forall_mem_append.2 ⟨hpermissions, fun o ho =>
      w.belongsTo_configMaps o (Trace.mem_of_mem_objects_applyEvents ho)⟩

theorem WorkCourse.belongsTo {recorded hash : StringMap String} {events : Trace} {ms : List Mark}
    {x : Progress Outcome} (h : WorkCourse settings w recorded events ms hash x) :
    ∀ o ∈ Trace.objects events, o.BelongsTo r := by
  have hservices : ∀ {as}, ∀ o ∈ Trace.objects (applyEvents w.services as), o.BelongsTo r :=
    fun o ho => w.belongsTo_services o (Trace.mem_of_mem_objects_applyEvents ho)
  cases h with
  | stopped gathering | recorded gathering _ => exact gathering.belongsTo
  | services gathering _ _ =>
    rw [Trace.objects_append]
    exact List.forall_mem_append.2 ⟨gathering.belongsTo, hservices⟩
  | workload gathering _ _ =>
    rw [Trace.objects_append, Trace.objects_append]
    refine List.forall_mem_append.2 ⟨gathering.belongsTo, List.forall_mem_append.2
      ⟨hservices, fun o ho => ?_⟩⟩
    obtain rfl := List.mem_singleton.1 ho
    exact w.belongsTo _ _

theorem ConvergeRun.belongsTo {s s' : Status} {events : Trace} {e : Ending}
    (h : ConvergeRun settings r s events s' e) : ∀ o ∈ Trace.objects events, o.BelongsTo r := by
  cases h with
  | filled _ _ | unowned _ _ => exact fun o ho => nomatch ho
  | worked _ course _ => exact course.belongsTo

end Steps

/-! ## The handles of a plan -/

/-- The handle of what is applied. -/
def Ask.handle? : Ask → Option Handle
  | .apply h => some h
  | .read _ _ => none

theorem Trace.handles_eq (t : Trace) : handles t = (asks t).filterMap Ask.handle? := by
  rw [handles, objects, applications, asks, List.map_map, List.map_filterMap,
    List.filterMap_filterMap]
  congr 1
  funext event
  rcases event with ⟨c, x⟩
  cases c <;> rfl

namespace Redis

variable (r : Redis)

theorem handles_plan : (r.plan.map Stage.ask).filterMap Ask.handle? =
    [⟨.serviceAccount, r.metadata.ns.getD "", r.serviceAccountName⟩,
      ⟨.role, r.metadata.ns.getD "", r.roleName⟩,
      ⟨.roleBinding, r.metadata.ns.getD "", r.roleBindingName⟩,
      ⟨.configMap, r.metadata.ns.getD "", r.scriptsName⟩,
      ⟨.configMap, r.metadata.ns.getD "", r.configDataName⟩,
      ⟨.service, r.metadata.ns.getD "", r.headlessServiceName⟩,
      ⟨.service, r.metadata.ns.getD "", r.name⟩,
      ⟨.statefulSet, r.metadata.ns.getD "", r.name⟩] := by
  have hreads : (r.readPlan.map Stage.ask).filterMap Ask.handle? = [] := by
    refine List.filterMap_eq_nil_iff.2 fun ask hask => ?_
    rw [readPlan, List.map_append, List.map_map, List.map_map, List.mem_append] at hask
    rcases hask with hask | hask <;> obtain ⟨name, -, rfl⟩ := List.mem_map.1 hask <;> rfl
  simp only [plan, gatheringPlan, deployingPlan, List.map_append, List.filterMap_append, hreads,
    List.nil_append]
  rfl

theorem headlessServiceName_ne_name : r.headlessServiceName ≠ r.name := by
  intro h
  have hlength := congrArg String.length h
  rw [headlessServiceName, String.length_append] at hlength
  exact absurd hlength (by simp)

theorem nodup_handles_plan : ((r.plan.map Stage.ask).filterMap Ask.handle?).Nodup := by
  rw [handles_plan]
  simp [scriptsName_ne_configDataName, headlessServiceName_ne_name]

end Redis

/-! ## Passes -/

section Pass

variable {settings : Settings} {ns name : String} {t : Trace} {e : Ending} {r : Redis}

theorem ConvergeRun.nodup_handles {s : Status} {events : Trace} {body : Ending}
    (h : ConvergeRun settings r r.statusOrEmpty events s body) : (Trace.handles events).Nodup := by
  by_cases hcomplete : r.IsComplete
  · rw [Trace.handles_eq]
    have hasked := (h.planRun hcomplete).asks_isPrefix
    exact r.nodup_handles_plan.sublist (hasked.sublist.filterMap Ask.handle?)
  · cases h with
    | filled _ _ | unowned _ _ => exact .nil
    | @worked w _ _ _ _ _ _ _ _ => exact absurd (Redis.isComplete_of_owned w) hcomplete

/-- Over an incomplete instance with entries in its ledger, the steps do nothing. -/
theorem ConvergeRun.of_not_isComplete {s s' : Status} {events : Trace} {body : Ending}
    (h : ConvergeRun settings r s events s' body) (hs : s.conditions.isEmpty = false)
    (hr : ¬ r.IsComplete) :
    events = [] ∧ s' = s ∧ body = .error (.missingKey r.lackingKey) := by
  cases h with
  | filled empty _ => exact absurd (empty.symm.trans hs) nofun
  | unowned _ unowned =>
    obtain ⟨hpermissions, -⟩ :=
      Redis.not_built (Redis.ownedMetadata_eq_error hr) policyRules settings ""
    rw [hpermissions] at unowned
    exact ⟨rfl, rfl, congrArg Except.error (Except.error.inj unowned).symm⟩
  | @worked w _ _ _ _ _ _ _ _ => exact absurd (Redis.isComplete_of_owned w) hr

/-- What finalizing may write: a status with the recorded hashes and with all entries but that of
`Ready` as they were. -/
theorem FinalRun.keeps {s : Status} {body : Ending}
    {writes : List (Redis × Except ControlError Unit)} (h : FinalRun r s body writes e) :
    ∀ w ∈ writes, ∃ s', w.1 = { r with status := some s' } ∧ s'.hash = s.hash ∧
      s'.conditions.subConditions = s.conditions.subConditions := by
  cases h with
  | unchanged _ => exact List.forall_mem_nil _
  | @written now _ _ =>
    exact List.forall_mem_singleton.2 ⟨s.finished now, rfl, rfl,
      s.conditions.subConditions_recomputeReady now⟩

theorem FinalRun.ending_cases {s : Status} {body : Ending}
    {writes : List (Redis × Except ControlError Unit)} (h : FinalRun r s body writes e) :
    (∃ w ∈ writes, ∃ failure, w.2 = .error failure ∧ e = .error failure) ∨
      (∀ w ∈ writes, w.2 = .ok ()) ∧ e = body := by
  cases h with
  | unchanged _ => exact .inr ⟨List.forall_mem_nil _, rfl⟩
  | @written now a _ =>
    cases a with
    | error failure => exact .inl ⟨_, List.mem_singleton_self _, failure, rfl, rfl⟩
    | ok u => exact .inr ⟨List.forall_mem_singleton.2 rfl, rfl⟩

/-- **Everything that a pass writes is owned**, nothing is applied twice, and an instance that
cannot own objects has only its `Ready` condition changed. -/
theorem pass_owns (run : Runs (pass settings ns name) t e) :
    (∀ o ∈ Trace.objects t, ∃ r ∈ Trace.redises t, o.BelongsTo r) ∧
      (Trace.handles t).Nodup ∧
      ∀ r ∈ Trace.redises t, r.statusOrEmpty.conditions.isEmpty = false → ¬ r.IsComplete →
        Trace.applications t = [] ∧ Trace.secretAnswers t = [] ∧
        (∀ w ∈ Trace.statusWrites t, ∃ s, w.1 = { r with status := some s } ∧
          s.hash = r.statusOrEmpty.hash ∧
          s.conditions.subConditions = r.statusOrEmpty.conditions.subConditions) ∧
        ((∃ w ∈ Trace.statusWrites t, ∃ failure, w.2 = .error failure ∧ e = .error failure) ∨
          (∀ w ∈ Trace.statusWrites t, w.2 = .ok ()) ∧
            e = .error (.missingKey r.lackingKey)) := by
  obtain ⟨failure, rfl, -⟩ | ⟨rfl, -⟩ | ⟨read, steps, final, x, s, ht, -, -⟩ := runs_pass_cases run
  · exact ⟨List.forall_mem_nil _, .nil, List.forall_mem_nil _⟩
  · exact ⟨List.forall_mem_nil _, .nil, List.forall_mem_nil _⟩
  -- From here on an instance has been read.
  have hread : read ∈ Trace.redises t := by
    rw [ht]
    exact List.mem_cons_self
  refine ⟨?_, ?_, ?_⟩
  · obtain ⟨events, s, body, writes, steps, -, hexchange⟩ := exists_steps_of_runs run hread
    rw [Trace.objects_of_exchange hexchange]
    exact fun o ho => ⟨read, hread, steps.belongsTo o ho⟩
  · obtain ⟨events, s, body, writes, steps, -, hexchange⟩ := exists_steps_of_runs run hread
    rw [Trace.handles, Trace.objects_of_exchange hexchange]
    exact steps.nodup_handles
  · intro r hr hentries hr'
    obtain ⟨events, s, body, writes, steps, finalized, hexchange⟩ := exists_steps_of_runs run hr
    -- Nothing was asked and no entry changed, so finalizing writes Ready alone.
    obtain ⟨rfl, rfl, rfl⟩ := steps.of_not_isComplete hentries hr'
    rw [Trace.applications_of_exchange hexchange, Trace.secretAnswers_of_exchange hexchange,
      Trace.statusWrites_of_exchange steps.isWork hexchange]
    exact ⟨rfl, rfl, finalized.keeps, finalized.ending_cases⟩

end Pass

open SteadyCluster

/-- An instance that has no identifier yet, in a cluster that goes along with everything. -/
def SteadyCluster.unidentified : SteadyCluster :=
  { plain fun _ => .ok (.converged .created none) with
    metadata := { name := some "cache", ns := some "demo" } }

/-- The second pass over it. -/
def SteadyCluster.unidentifiedPass : PassRecord :=
  unidentified.round toString .default "demo" "cache" none 1

/-- The third pass over an instance applies objects that belong to it, and the second pass over one
without an identifier applies none. -/
theorem pass_owns_cache :
    (∀ o ∈ Trace.objects (thirdPass "cache").trace,
      o.BelongsTo ((named "cache").redis (thirdPass "cache").stored)) ∧
    (Trace.handles (thirdPass "cache").trace).Nodup ∧
    Trace.applications unidentifiedPass.trace = [] ∧
    unidentifiedPass.ending = .error (.missingKey "metadata.uid") := by
  obtain ⟨howned, hnodup, -⟩ := pass_owns (runs_thirdPass "cache")
  have hrun : Runs (pass .default "demo" "cache") unidentifiedPass.trace unidentifiedPass.ending :=
    runs_round 1
  have hredises : Trace.redises unidentifiedPass.trace =
      [unidentified.redis unidentifiedPass.stored] := redises_round 1
  obtain ⟨-, -, hincomplete⟩ := pass_owns hrun
  rw [hredises] at hincomplete
  obtain ⟨happlications, -, -, hending⟩ :=
    hincomplete _ (List.mem_singleton_self _) rfl fun h => nomatch h.2.1
  refine ⟨fun o ho => ?_, hnodup, happlications, ?_⟩
  · obtain ⟨r, hr, hbelongs⟩ := howned o ho
    rw [thirdPass, redises_round] at hr
    rwa [List.mem_singleton.1 hr] at hbelongs
  · -- the status stays as it is, so that no write can fail
    have hwrites : Trace.statusWrites unidentifiedPass.trace = [] := rfl
    rw [hwrites] at hending
    rcases hending with ⟨w, hw, -⟩ | ⟨-, hending⟩
    · cases hw
    · exact hending

end RedisControl
