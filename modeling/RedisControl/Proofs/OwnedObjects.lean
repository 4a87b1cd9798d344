import RedisControl.Owned.Permissions
import RedisControl.Owned.Workload
import RedisControl.Proofs.ConfigData

/-!
# The objects of an instance can be built

Building the owned objects of an instance fails at one point only: where the instance lacks a
name, an identifier or a namespace, no object can name it as its owner. Where it lacks none of
them, all eight objects can be built, the config maps too, since the templates of this library
render whatever the spec says.

* `Owned` : what the objects of an instance are built from.
* `Redis.owned_or_error` : either all objects can be built or not even the first can.
* `Redis.owned_of_isComplete` : they can where name, identifier and namespace are there.
-/

namespace RedisControl

/-! ## The objects -/

/-- What the owned objects of an instance are built from: metadata for every name, and the data
of the two config maps. -/
structure Owned (r : Redis) where
  metadata : String → ObjectMeta
  scriptsData : StringMap String
  configData : StringMap String
  metadata_eq : ∀ name, r.ownedMetadata name = .ok (metadata name)
  name_metadata : ∀ name, (metadata name).name = some name
  scriptsData_eq : r.configData ⟨r.scriptsName, .scripts, .empty⟩ = .ok scriptsData
  configData_eq : r.configData ⟨r.configDataName, .config, r.customFiles⟩ = .ok configData

namespace Owned

variable {r : Redis} (w : Owned r)

theorem ns_metadata (name : String) : (w.metadata name).ns = r.metadata.ns := by
  obtain ⟨owner, ns, -, hns, hm⟩ := Redis.ownedMetadata_eq_ok (w.metadata_eq name)
  rw [hm, hns]

/-- The service account. -/
def account : SubResource := ⟨w.metadata r.serviceAccountName, .serviceAccount⟩

/-- The role, with the rules that all roles have. -/
def role : SubResource := ⟨w.metadata r.roleName, .role (some policyRules)⟩

/-- The binding of the role to the service account. -/
def binding : SubResource :=
  ⟨w.metadata r.roleBindingName, .roleBinding
    { apiGroup := "rbac.authorization.k8s.io", kind := "Role", name := r.roleName }
    (some [{ kind := "ServiceAccount", name := r.serviceAccountName,
             ns := some (r.metadata.ns.getD "") }])⟩

/-- The config map with the scripts. -/
def scripts : SubResource := ⟨w.metadata r.scriptsName, .configMap (some w.scriptsData)⟩

/-- The config map with the configuration. -/
def config : SubResource := ⟨w.metadata r.configDataName, .configMap (some w.configData)⟩

/-- The service that gives each pod a name. -/
def headless : SubResource :=
  ⟨w.metadata r.headlessServiceName, .service (some {
    clusterIp := some "None"
    ports := some [endpointPort]
    publishNotReadyAddresses := some true
    selector := some r.selectorLabels })⟩

/-- The service that clients connect to. -/
def client : SubResource :=
  ⟨w.metadata r.name, .service (some {
    ports := some [endpointPort]
    selector := some r.selectorLabels
    type := some "ClusterIP" })⟩

/-- The workload, with the hash of the inputs. -/
def workload (settings : Settings) (inputHash : String) : SubResource :=
  ⟨w.metadata r.name, .statefulSet (some {
    podManagementPolicy := some "Parallel"
    replicas := some r.spec.replicas
    selector := { matchLabels := some r.selectorLabels }
    serviceName := r.headlessServiceName
    template := r.podTemplate settings inputHash }) none⟩

/-- The objects of the permissions, each with its goal. -/
def permissions : List PermissionObject :=
  [⟨w.account, .serviceAccount⟩, ⟨w.role, .role⟩, ⟨w.binding, .roleBinding⟩]

/-- The config maps, each with the hash of its data. -/
def configMaps : List (SubResource × String) :=
  [(w.scripts, contentHash (.ofStrings w.scriptsData)),
    (w.config, contentHash (.ofStrings w.configData))]

/-- The services, in the order in which they are applied. -/
def services : List SubResource := [w.headless, w.client]

theorem permissionObjects_eq : r.permissionObjects policyRules = .ok w.permissions := by
  unfold Redis.permissionObjects
  rw [w.metadata_eq, w.metadata_eq, w.metadata_eq]
  rfl

theorem configMaps_eq : r.configTemplates.map r.configMap = w.configMaps.map .ok := by
  rw [Redis.configTemplates, List.map_cons, List.map_cons, List.map_nil, Redis.configMap,
    Redis.configMap, w.scriptsData_eq, w.configData_eq, w.metadata_eq, w.metadata_eq]
  rfl

theorem services_eq : [r.headlessService, r.clientService] = w.services.map .ok := by
  rw [Redis.headlessService, Redis.clientService, w.metadata_eq, w.metadata_eq]
  rfl

theorem statefulSet_eq (settings : Settings) (inputHash : String) :
    r.statefulSet settings inputHash = .ok (w.workload settings inputHash) := by
  rw [Redis.statefulSet, w.metadata_eq]
  rfl

end Owned

/-! ## When they can be built -/

namespace Redis

/-- The instance has a name, an identifier and a namespace. -/
def IsComplete (r : Redis) : Prop :=
  r.metadata.name.isSome ∧ r.metadata.uid.isSome ∧ r.metadata.ns.isSome

theorem owned_of_owner {r : Redis} {owner : OwnerReference} {ns : String}
    (ho : r.controllerReference? = some owner) (hn : r.metadata.ns = some ns) :
    Nonempty (Owned r) := by
  obtain ⟨scriptsData, hs⟩ := r.isOk_configData ⟨r.scriptsName, .scripts, .empty⟩
  obtain ⟨configData, hc⟩ := r.isOk_configData ⟨r.configDataName, .config, r.customFiles⟩
  refine ⟨{
    metadata := fun name => { name := some name, ns := some ns, labels := some r.commonLabels,
                              ownerReferences := some [owner] }
    scriptsData := scriptsData
    configData := configData
    metadata_eq := fun name => ?_
    name_metadata := fun name => rfl
    scriptsData_eq := hs
    configData_eq := hc }⟩
  rw [ownedMetadata, ho, hn]

/-- Either all owned objects can be built, or not even the first can. -/
theorem owned_or_error (r : Redis) (rules : List PolicyRule) :
    Nonempty (Owned r) ∨ ∃ e, r.permissionObjects rules = .error e := by
  cases ho : r.controllerReference? with
  | none =>
    refine Or.inr ⟨.missingKey "metadata.uid", ?_⟩
    rw [permissionObjects, ownedMetadata, ho]
    rfl
  | some owner =>
    cases hn : r.metadata.ns with
    | none =>
      refine Or.inr ⟨.missingKey "metadata.namespace", ?_⟩
      rw [permissionObjects, ownedMetadata, ho, hn]
      rfl
    | some ns => exact Or.inl (owned_of_owner ho hn)

/-- What a complete instance is called. -/
theorem IsComplete.name_eq {r : Redis} (h : r.IsComplete) : r.metadata.name = some r.name := by
  obtain ⟨name, hname⟩ := Option.isSome_iff_exists.1 h.1
  rw [Redis.name, ObjectMeta.nameOrGenerated, hname]
  rfl

theorem IsComplete.ns_eq {r : Redis} (h : r.IsComplete) :
    r.metadata.ns = some (r.metadata.ns.getD "") := by
  obtain ⟨ns, hns⟩ := Option.isSome_iff_exists.1 h.2.2
  rw [hns]
  rfl

theorem isComplete_of_ownedMetadata {r : Redis} {name : String} {m : ObjectMeta}
    (h : r.ownedMetadata name = .ok m) : r.IsComplete := by
  obtain ⟨owner, ns, howner, hns, -⟩ := ownedMetadata_eq_ok h
  obtain ⟨name, hname, h⟩ := Option.bind_eq_some_iff.1 howner
  obtain ⟨uid, huid, -⟩ := Option.bind_eq_some_iff.1 h
  exact ⟨Option.isSome_of_eq_some hname, Option.isSome_of_eq_some huid,
    Option.isSome_of_eq_some hns⟩

/-- What an instance that cannot own objects is told to lack. -/
def lackingKey (r : Redis) : String :=
  if r.metadata.name.isSome ∧ r.metadata.uid.isSome then "metadata.namespace" else "metadata.uid"

/-- An instance that lacks a part of its identity owns nothing. -/
theorem ownedMetadata_eq_error {r : Redis} (h : ¬ r.IsComplete) (name : String) :
    r.ownedMetadata name = .error (.missingKey r.lackingKey) := by
  unfold IsComplete at h
  unfold ownedMetadata controllerReference? lackingKey
  cases hname : r.metadata.name with
  | none => rfl
  | some instanceName =>
    cases huid : r.metadata.uid with
    | none => rfl
    | some uid =>
      cases hns : r.metadata.ns with
      | none => rfl
      | some ns => exact absurd (by rw [hname, huid, hns]; exact ⟨rfl, rfl, rfl⟩) h

theorem isComplete_of_owned {r : Redis} (w : Owned r) : r.IsComplete :=
  isComplete_of_ownedMetadata (w.metadata_eq "")

theorem owned_of_isComplete {r : Redis} (h : r.IsComplete) : Nonempty (Owned r) := by
  obtain ⟨hname, huid, hns⟩ := h
  obtain ⟨name, hname⟩ := Option.isSome_iff_exists.1 hname
  obtain ⟨uid, huid⟩ := Option.isSome_iff_exists.1 huid
  obtain ⟨ns, hns⟩ := Option.isSome_iff_exists.1 hns
  have ho : ∃ owner, r.controllerReference? = some owner := by
    rw [controllerReference?, hname, huid]
    exact ⟨_, rfl⟩
  obtain ⟨owner, ho⟩ := ho
  exact owned_of_owner ho hns

/-- A workload that was built is that of a complete instance. -/
theorem exists_owned_of_statefulSet {r : Redis} {settings : Settings} {inputHash : String}
    {o : SubResource} (h : r.statefulSet settings inputHash = .ok o) :
    ∃ w : Owned r, o = w.workload settings inputHash := by
  have hcomplete : r.IsComplete := by
    cases hm : r.ownedMetadata r.name with
    | error e =>
      rw [statefulSet, hm] at h
      cases h
    | ok m => exact isComplete_of_ownedMetadata hm
  obtain ⟨w⟩ := owned_of_isComplete hcomplete
  rw [w.statefulSet_eq] at h
  exact ⟨w, (Except.ok.inj h).symm⟩

end Redis

end RedisControl
