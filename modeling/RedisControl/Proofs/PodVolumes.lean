import RedisControl.Proofs.OwnedObjects

/-!
# What the pods of an instance mount

A pod names its volumes, and a container mounts a volume by its name at a path. So a path leads to
a volume only if the name of the mount is that of one volume (`PodSpec.HasAt`). The pods of an
instance are built from one list, which pairs each volume with its path (`Redis.mountedVolumes`);
no name and no path occurs twice in it. Hence a path leads to a volume exactly where the list says
so, and what the list says about secrets is what the spec refers to.

* `Redis.hasAt_podSpec_iff` : the paths in the pods of an instance, and where they lead.
* `Redis.secretNames_podSpec` : the pods mount the secrets that the instance refers to.
-/

namespace RedisControl

/-! ## Pods -/

namespace PodSpec

variable (p : PodSpec)

/-- The mounts of all containers. -/
def mounts : List VolumeMount := p.containers.flatMap fun c => c.volumeMounts.getD []

/-- The volumes that a mount can mean. -/
def volumesOf (m : VolumeMount) : List Volume := (p.volumes.getD []).filter (·.name == m.name)

/-- A path in the pods leads to a volume, and to no other. -/
def HasAt (path : String) (v : Volume) : Prop :=
  ∃ m ∈ p.mounts, m.mountPath = path ∧ p.volumesOf m = [v]

/-- The secrets that are mounted. -/
def secretNames : List String :=
  (p.mounts.flatMap p.volumesOf).filterMap fun v => v.secret.bind (·.secretName)

end PodSpec

namespace SubResource

/-- What a workload is asked to run. -/
def workloadSpec? (o : SubResource) : Option StatefulSetSpec :=
  match o.body with
  | .statefulSet spec _ => spec
  | _ => none

/-- What the pods of a workload are. -/
def podSpec? (o : SubResource) : Option PodSpec := o.workloadSpec?.bind (·.template.spec)

end SubResource

/-- In a list without repeated keys, an item is the only one with its key. -/
theorem filter_eq_singleton {α β : Type} [DecidableEq β] (key : α → β) {l : List α}
    (h : (l.map key).Nodup) {a : α} (ha : a ∈ l) : (l.filter fun b => key b == key a) = [a] := by
  induction l with
  | nil => cases ha
  | cons b l ih =>
    rw [List.map_cons, List.nodup_cons] at h
    rcases List.mem_cons.1 ha with rfl | ha
    · have hrest : (l.filter fun b => key b == key a) = [] := by
        refine List.filter_eq_nil_iff.2 ?_
        intro b hb hkey
        exact h.1 (eq_of_beq hkey ▸ List.mem_map_of_mem hb)
      rw [List.filter_cons, if_pos (beq_self_eq_true _), hrest]
    · have hne : ¬ (key b == key a) = true := fun hkey =>
        h.1 (eq_of_beq hkey ▸ List.mem_map_of_mem ha)
      rw [List.filter_cons, if_neg hne, ih h.2 ha]

/-! ## The pods of an instance -/

namespace Redis

variable {r : Redis} {settings : Settings}

/-- What the pods of an instance run. -/
def podSpec (r : Redis) (settings : Settings) : PodSpec where
  containers := [r.container settings]
  serviceAccountName := some r.rbacResourceName
  volumes := some r.volumes

theorem mounts_podSpec : (r.podSpec settings).mounts = r.volumeMounts := List.append_nil _

theorem nodup_names_mountedVolumes (r : Redis) : (r.mountedVolumes.map (·.1.name)).Nodup := by
  unfold mountedVolumes
  cases r.spec.tls.certificate? <;> cases r.spec.tls.caBundle? <;>
    simp [Volume.ofConfigMap, Volume.ofSecret]

theorem nodup_paths_mountedVolumes (r : Redis) : (r.mountedVolumes.map (·.2)).Nodup := by
  unfold mountedVolumes
  cases r.spec.tls.certificate? <;> cases r.spec.tls.caBundle? <;>
    simp [MountPath.scripts, MountPath.config, MountPath.certificate, MountPath.caBundle]

/-- The mount of a volume of the list means this volume. -/
theorem volumesOf_podSpec {v : Volume} {path : String} (h : (v, path) ∈ r.mountedVolumes) :
    (r.podSpec settings).volumesOf (.readOnlyAt path v.name) = [v] := by
  show (r.mountedVolumes.map (·.1)).filter _ = [v]
  rw [List.filter_map]
  show (r.mountedVolumes.filter fun w => w.1.name == v.name).map (·.1) = [v]
  rw [filter_eq_singleton (fun w => w.1.name) r.nodup_names_mountedVolumes h]
  rfl

/-- A path in the pods of an instance leads to a volume exactly where the list says so. -/
theorem hasAt_podSpec_iff {path : String} {v : Volume} :
    (r.podSpec settings).HasAt path v ↔ (v, path) ∈ r.mountedVolumes := by
  rw [PodSpec.HasAt, mounts_podSpec]
  constructor
  · rintro ⟨m, hm, rfl, hv⟩
    obtain ⟨⟨w, path⟩, hw, rfl⟩ := List.mem_map.1 hm
    rw [volumesOf_podSpec hw] at hv
    obtain rfl := List.singleton_inj.1 hv
    exact hw
  · intro h
    exact ⟨_, List.mem_map_of_mem h, rfl, volumesOf_podSpec h⟩

theorem scripts_mem_mountedVolumes (r : Redis) :
    (Volume.ofConfigMap "scripts" r.scriptsName 0o755, MountPath.scripts) ∈ r.mountedVolumes :=
  List.mem_append_left _ (List.mem_append_left _ List.mem_cons_self)

theorem config_mem_mountedVolumes (r : Redis) :
    (Volume.ofConfigMap "config-data" r.configDataName 0o644, MountPath.config) ∈
      r.mountedVolumes :=
  List.mem_append_left _ (List.mem_append_left _ (List.mem_cons_of_mem _ List.mem_cons_self))

theorem certificate_mem_mountedVolumes {name : String} (h : r.spec.tls.certificate? = some name) :
    (Volume.ofSecret "tls-certs" name, MountPath.certificate) ∈ r.mountedVolumes := by
  rw [mountedVolumes, h]
  exact List.mem_append_left _ (List.mem_append_right _ List.mem_cons_self)

theorem caBundle_mem_mountedVolumes {name : String} (h : r.spec.tls.caBundle? = some name) :
    (Volume.ofSecret "ca-bundle" name, MountPath.caBundle) ∈ r.mountedVolumes := by
  rw [mountedVolumes, h]
  exact List.mem_append_right _ List.mem_cons_self

/-! ## Secrets -/

/-- The pods mount the secrets that the instance refers to. -/
theorem secretNames_podSpec : (r.podSpec settings).secretNames = r.referencedSecrets := by
  have hvolumes : ∀ l : List (Volume × String), (∀ e ∈ l, e ∈ r.mountedVolumes) →
      (l.map fun e => VolumeMount.readOnlyAt e.2 e.1.name).flatMap
        (r.podSpec settings).volumesOf = l.map (·.1) := by
    intro l hl
    induction l with
    | nil => rfl
    | cons e l ih =>
      rw [List.forall_mem_cons] at hl
      rw [List.map_cons, List.flatMap_cons, volumesOf_podSpec hl.1, ih hl.2]
      rfl
  rw [PodSpec.secretNames, mounts_podSpec, volumeMounts, hvolumes _ fun _ he => he, mountedVolumes,
    referencedSecrets]
  cases r.spec.tls.certificate? <;> cases r.spec.tls.caBundle? <;> rfl

theorem podSpec?_of_statefulSet {inputHash : String} {o : SubResource}
    (h : r.statefulSet settings inputHash = .ok o) : o.podSpec? = some (r.podSpec settings) := by
  obtain ⟨w, rfl⟩ := exists_owned_of_statefulSet h
  rfl

end Redis

end RedisControl
