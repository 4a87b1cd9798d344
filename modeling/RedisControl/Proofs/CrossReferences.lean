import RedisControl.Proofs.PodVolumes
import RedisControl.Proofs.RenderedFiles

/-!
# What the objects of an instance refer to

The eight objects of an instance refer to each other by name, and each builder works the names out
anew.

**Theorem (`references_met`).** For an instance with a name, an identifier and a namespace, the
eight objects can be built, and every reference among them is met: the workload refers to the
headless service and the service account, the binding to the account and the role, the volumes to
the config maps. Every mount means one volume and every volume is mounted once. The commands of the
container are files of the scripts, and the start script names a file of the configuration. The
selectors of services and workload choose the pods of the instance, and those of no instance with
another name.

* `Objects.Linked` : the references, one field each.
* `Redis.wellMounted_podSpec` : mounts and volumes belong together.
* `Redis.selects_iff` : whose pods the selectors of an instance choose.
-/

namespace RedisControl

/-! ## References -/

/-- The subject of a binding is an object. -/
structure Subject.Names (s : Subject) (o : SubResource) : Prop where
  kind : s.kind = o.kind.name
  name : o.metadata.name = some s.name
  ns : s.ns = o.metadata.ns

/-- The role that a binding grants is an object. -/
structure RoleRef.Names (ref : RoleRef) (o : SubResource) : Prop where
  kind : ref.kind = o.kind.name
  name : o.metadata.name = some ref.name

/-- Every label that a selector asks for is there. -/
def Selects (selector labels : StringMap String) : Prop :=
  ∀ key value, selector.get? key = some value → labels.get? key = some value

namespace SubResource

/-- How a service or a workload selects pods. -/
def selector? (o : SubResource) : Option (StringMap String) :=
  match o.body with
  | .service spec => spec.bind (·.selector)
  | .statefulSet spec _ => spec.bind (·.selector.matchLabels)
  | _ => none

/-- The labels of the pods of a workload. -/
def podLabels? (o : SubResource) : Option (StringMap String) :=
  (o.workloadSpec?.bind (·.template.metadata)).bind (·.labels)

end SubResource

namespace PodSpec

variable (p : PodSpec)

/-- The mounts and the volumes of pods belong together. -/
structure WellMounted : Prop where
  /-- A mount means one volume. -/
  mount : ∀ m ∈ p.mounts, ∃ v, p.volumesOf m = [v]
  /-- A volume is mounted once. -/
  volume : ∀ v ∈ p.volumes.getD [], ∃ m, (p.mounts.filter fun m => m.name == v.name) = [m]
  /-- Nothing is mounted at one place twice. -/
  paths : (p.mounts.map (·.mountPath)).Nodup

/-- The files of a config map are at a directory in the pods. -/
def HasConfigMap (directory : String) (o : SubResource) : Prop :=
  ∃ v c, p.HasAt directory v ∧ v.configMap = some c ∧ o.metadata.name = some c.name

end PodSpec

/-! ## The objects of an instance -/

/-- The eight objects of an instance. -/
structure Objects where
  account : SubResource
  role : SubResource
  binding : SubResource
  scripts : SubResource
  config : SubResource
  headless : SubResource
  client : SubResource
  workload : SubResource

namespace Objects

variable (b : Objects) (r : Redis)

/-- The objects are what the builders make for an instance. -/
structure BuiltFor (settings : Settings) (rules : List PolicyRule) (inputHash : String) : Prop where
  permissions : r.permissionObjects rules =
    .ok [⟨b.account, .serviceAccount⟩, ⟨b.role, .role⟩, ⟨b.binding, .roleBinding⟩]
  configMaps : (r.configTemplates.map fun t => (r.configMap t).map (·.1)) =
    [.ok b.scripts, .ok b.config]
  headless : r.headlessService = .ok b.headless
  client : r.clientService = .ok b.client
  workload : r.statefulSet settings inputHash = .ok b.workload

/-- The references among the objects are met, where the workload, its pods and their container are
as given. -/
structure Linked (spec : StatefulSetSpec) (pods : PodSpec) (container : Container) : Prop where
  spec_eq : b.workload.workloadSpec? = some spec
  pods_eq : spec.template.spec = some pods
  containers_eq : pods.containers = [container]
  /-- The service that governs the workload. -/
  service : b.headless.metadata.name = some spec.serviceName
  /-- The account that the pods run under. -/
  account : ∃ name, pods.serviceAccountName = some name ∧ b.account.metadata.name = some name
  /-- The binding grants the role to the account, and to nobody else. -/
  binding : ∃ roleRef subject, b.binding.body = .roleBinding roleRef (some [subject]) ∧
    roleRef.Names b.role ∧ subject.Names b.account
  /-- The config maps in volumes are those of the templates, and were built. -/
  configMaps : ∀ v ∈ pods.volumes.getD [], ∀ c, v.configMap = some c →
    c.name ∈ r.configTemplates.map (·.name) ∧
      ∃ o ∈ [b.scripts, b.config], o.metadata.name = some c.name
  mounted : pods.WellMounted
  /-- The container starts with a script, which starts the server with its configuration. -/
  start : ∃ scriptsPath configPath script configuration,
    container.command = some [scriptsPath ++ "/start.sh"] ∧
      pods.HasConfigMap scriptsPath b.scripts ∧ b.scripts.file? "start.sh" = some script ∧
      Text.valuesOf "redis-server" script = [configPath ++ "/redis.conf"] ∧
      pods.HasConfigMap configPath b.config ∧ b.config.file? "redis.conf" = some configuration
  /-- The probe of the container runs a script. -/
  readiness : ∃ scriptsPath script,
    (container.readinessProbe.bind (·.exec)).bind (·.command) =
        some [scriptsPath ++ "/readiness.sh"] ∧
      pods.HasConfigMap scriptsPath b.scripts ∧ b.scripts.file? "readiness.sh" = some script
  /-- The selectors choose the pods of the workload. -/
  selected : ∀ o ∈ [b.headless, b.client, b.workload], ∃ selector labels,
    o.selector? = some selector ∧ b.workload.podLabels? = some labels ∧ Selects selector labels
  /-- Of the pods of all instances, they choose those of instances with this name. -/
  separate : ∀ o ∈ [b.headless, b.client, b.workload], ∀ selector, o.selector? = some selector →
    ∀ (other : Redis) settings inputHash workload labels,
      other.statefulSet settings inputHash = .ok workload → workload.podLabels? = some labels →
      (Selects selector labels ↔ other.metadata.name = r.metadata.name)

end Objects

/-! ## Mounts -/

namespace Redis

variable {r : Redis} {settings : Settings}

theorem wellMounted_podSpec : (r.podSpec settings).WellMounted where
  mount := by
    rw [mounts_podSpec]
    intro m hm
    obtain ⟨⟨v, path⟩, hv, rfl⟩ := List.mem_map.1 hm
    exact ⟨v, volumesOf_podSpec hv⟩
  volume := by
    rw [mounts_podSpec]
    intro v hv
    obtain ⟨e, he, rfl⟩ := List.mem_map.1 hv
    refine ⟨.readOnlyAt e.2 e.1.name, ?_⟩
    rw [volumeMounts, List.filter_map]
    show (r.mountedVolumes.filter fun d => d.1.name == e.1.name).map _ = _
    rw [filter_eq_singleton (fun d => d.1.name) r.nodup_names_mountedVolumes he]
    rfl
  paths := by
    rw [mounts_podSpec, volumeMounts, List.map_map]
    exact r.nodup_paths_mountedVolumes

theorem name_of_mem_volumes {v : Volume} (hv : v ∈ r.volumes) {c : ConfigMapSource}
    (hc : v.configMap = some c) : c.name = r.scriptsName ∨ c.name = r.configDataName := by
  rw [volumes, mountedVolumes, List.map_append, List.map_append, List.mem_append,
    List.mem_append] at hv
  rcases hv with (hv | hv) | hv
  · rcases List.mem_cons.1 hv with rfl | hv
    · exact Or.inl (congrArg ConfigMapSource.name (Option.some.inj hc)).symm
    · obtain rfl := List.mem_singleton.1 hv
      exact Or.inr (congrArg ConfigMapSource.name (Option.some.inj hc)).symm
  -- the other volumes are secrets
  all_goals
    obtain ⟨e, he, rfl⟩ := List.mem_map.1 hv
    obtain ⟨name, -, rfl⟩ := List.mem_map.1 he
    cases hc

/-! ## Selectors -/

/-- The selectors of an instance choose the pods of instances that are called like it. -/
theorem selects_iff {r' : Redis} : Selects r.selectorLabels r'.commonLabels ↔ r'.name = r.name := by
  have hne : Label.manager ≠ Label.instanceName ∧ Label.manager ≠ Label.software := by decide
  have hlabels : ∀ key value, r.selectorLabels.get? key = some value →
      r'.commonLabels.get? key = r'.selectorLabels.get? key := by
    intro key value hkey
    rw [commonLabels, StringMap.get?_insert, if_neg]
    rintro rfl
    rw [get?_selectorLabels, if_neg hne.1, if_neg hne.2] at hkey
    cases hkey
  constructor
  · intro h
    have hname : r.selectorLabels.get? Label.instanceName = some r.name := by
      rw [get?_selectorLabels, if_pos rfl]
    have hother := h _ _ hname
    rw [hlabels _ _ hname, get?_selectorLabels, if_pos rfl] at hother
    exact Option.some.inj hother
  · intro h key value hkey
    rw [hlabels key value hkey, get?_selectorLabels, h, ← get?_selectorLabels]
    exact hkey

end Redis

/-! ## The theorem -/

namespace Owned

variable {r : Redis} (w : Owned r)

/-- The eight objects, with any rules for the role. -/
def objects (settings : Settings) (rules : List PolicyRule) (inputHash : String) : Objects where
  account := w.account
  role := ⟨w.metadata r.roleName, .role (some rules)⟩
  binding := w.binding
  scripts := w.scripts
  config := w.config
  headless := w.headless
  client := w.client
  workload := w.workload settings inputHash

variable (settings : Settings) (rules : List PolicyRule) (inputHash : String)

theorem builtFor_objects :
    (w.objects settings rules inputHash).BuiltFor r settings rules inputHash where
  permissions := by
    unfold Redis.permissionObjects
    rw [w.metadata_eq, w.metadata_eq, w.metadata_eq]
    rfl
  configMaps := by
    show r.configTemplates.map (Except.map (·.1) ∘ r.configMap) = _
    rw [← List.map_map, w.configMaps_eq]
    rfl
  headless := (List.cons.inj w.services_eq).1
  client := (List.cons.inj (List.cons.inj w.services_eq).2).1
  workload := w.statefulSet_eq settings inputHash

theorem hasConfigMap_scripts : (r.podSpec settings).HasConfigMap MountPath.scripts w.scripts :=
  ⟨_, _, Redis.hasAt_podSpec_iff.2 r.scripts_mem_mountedVolumes, rfl, w.name_metadata _⟩

theorem hasConfigMap_config : (r.podSpec settings).HasConfigMap MountPath.config w.config :=
  ⟨_, _, Redis.hasAt_podSpec_iff.2 r.config_mem_mountedVolumes, rfl, w.name_metadata _⟩

theorem selector?_eq {o : SubResource}
    (ho : o ∈ [w.headless, w.client, w.workload settings inputHash]) :
    o.selector? = some r.selectorLabels := by
  simp only [List.mem_cons, List.not_mem_nil, or_false] at ho
  rcases ho with rfl | rfl | rfl <;> rfl

end Owned

/-- **What the objects of an instance refer to** is there, and is theirs. -/
theorem references_met {r : Redis} (complete : r.IsComplete) (settings : Settings)
    (rules : List PolicyRule) (inputHash : String) :
    ∃ b : Objects, b.BuiltFor r settings rules inputHash ∧
      ∃ spec pods container, b.Linked r spec pods container := by
  obtain ⟨w⟩ := Redis.owned_of_isComplete complete
  refine ⟨w.objects settings rules inputHash, w.builtFor_objects settings rules inputHash, _,
    r.podSpec settings, r.container settings, {
      spec_eq := rfl
      pods_eq := rfl
      containers_eq := rfl
      service := w.name_metadata _
      account := ⟨_, rfl, w.name_metadata _⟩
      binding := ⟨_, _, rfl, ⟨rfl, w.name_metadata _⟩, rfl, w.name_metadata _, ?_⟩
      configMaps := ?_
      mounted := Redis.wellMounted_podSpec
      start := ⟨_, _, _, _, rfl, w.hasConfigMap_scripts settings, w.file?_start,
        r.render_startScript.2, w.hasConfigMap_config settings, w.file?_config⟩
      readiness := ⟨_, _, rfl, w.hasConfigMap_scripts settings, w.file?_readiness⟩
      selected := ?_
      separate := ?_ }⟩
  · exact complete.ns_eq.symm.trans (w.ns_metadata _).symm
  · intro v hv c hc
    rcases Redis.name_of_mem_volumes hv hc with hname | hname
    · rw [hname]
      exact ⟨List.mem_cons_self, w.scripts, List.mem_cons_self, w.name_metadata _⟩
    · rw [hname]
      exact ⟨List.mem_cons_of_mem _ (List.mem_singleton_self _), w.config,
        List.mem_cons_of_mem _ (List.mem_singleton_self _), w.name_metadata _⟩
  · intro o ho
    exact ⟨_, r.commonLabels, w.selector?_eq settings inputHash ho, rfl, Redis.selects_iff.2 rfl⟩
  · intro o ho selector hselector other settings' inputHash' workload labels hworkload hlabels
    obtain rfl := Option.some.inj
      (hselector.symm.trans (w.selector?_eq settings inputHash ho))
    -- Any other workload carries the labels of its instance, so it is chosen only if that one is
    -- called like this one.
    obtain ⟨w', rfl⟩ := Redis.exists_owned_of_statefulSet hworkload
    obtain rfl : other.commonLabels = labels := Option.some.inj hlabels
    have hother := Redis.isComplete_of_owned w'
    rw [Redis.selects_iff, hother.name_eq, complete.name_eq, Option.some.injEq]

/-- An instance with a name and nothing special. -/
def Redis.called (name : String) : Redis where
  metadata := { name := some name, ns := some "demo", uid := some "1" }
  spec := {}
  status := none

/-- The workload of an instance `cache` is governed by its headless service, and its client service
does not choose the pods of an instance `store`. -/
theorem references_met_cache : ∃ b : Objects,
    b.BuiltFor (.called "cache") .default policyRules "" ∧
      (∃ spec, b.workload.workloadSpec? = some spec ∧
        b.headless.metadata.name = some spec.serviceName) ∧
      ∀ selector workload labels, b.client.selector? = some selector →
        (Redis.called "store").statefulSet .default "" = .ok workload →
        workload.podLabels? = some labels → ¬ Selects selector labels := by
  obtain ⟨b, hbuilt, spec, pods, container, hlinked⟩ :=
    references_met (r := .called "cache") ⟨rfl, rfl, rfl⟩ .default policyRules ""
  refine ⟨b, hbuilt, ⟨spec, hlinked.spec_eq, hlinked.service⟩, ?_⟩
  intro selector workload labels hselector hworkload hlabels hselects
  have hname := (hlinked.separate b.client (List.mem_cons_of_mem _ List.mem_cons_self) selector
    hselector _ _ _ _ _ hworkload hlabels).1 hselects
  exact absurd hname (by decide)

end RedisControl
