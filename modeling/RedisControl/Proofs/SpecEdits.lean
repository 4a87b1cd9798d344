import RedisControl.Proofs.PodVolumes

/-!
# What an edit of a spec changes

**Theorem (`spec_edits_confined`).** Take two instances with one name, namespace and identifier,
whatever their specs are. Their permissions and services are the same. Their workloads differ in
nothing but the number of replicas and the pods, which are the two parts that the cluster lets a
workload change; and the pods differ exactly if the images, the secrets that they mount or the
hashes of the inputs differ, so that nothing else rolls them. An image that is left empty is the
default of the settings; a secret for the certificate that is left empty is none.

All that is named after an instance is made from its identity (`SameIdentity.ownedMetadata_eq`).
For the pods one direction is a rewriting. In the other every input is read off the template again:
the hash from its annotation, the image from its container, and the secrets from the volumes. The
names of the volumes tell the two secrets apart (`secretOf?_volumes`), so a certificate cannot be
taken for a bundle.

* `Redis.SameIdentity` : two instances are one and the same but for their specs.
* `Redis.podTemplate_eq_iff` : when the pods are the same.
-/

namespace RedisControl

namespace Redis

variable {r r' : Redis}

/-! ## Identity -/

/-- Two instances have the same name, namespace and identifier. -/
structure SameIdentity (r r' : Redis) : Prop where
  name : r.metadata.name = r'.metadata.name
  ns : r.metadata.ns = r'.metadata.ns
  uid : r.metadata.uid = r'.metadata.uid

theorem selectorLabels_congr (h : r.name = r'.name) : r.selectorLabels = r'.selectorLabels := by
  rw [selectorLabels, selectorLabels, h]

theorem headlessServiceName_congr (h : r.name = r'.name) :
    r.headlessServiceName = r'.headlessServiceName := by
  rw [headlessServiceName, headlessServiceName, h]

theorem not_built {e : ControlError} (h : ∀ name, r.ownedMetadata name = .error e)
    (rules : List PolicyRule) (settings : Settings) (inputHash : String) :
    r.permissionObjects rules = .error e ∧ r.headlessService = .error e ∧
      r.clientService = .error e ∧ r.statefulSet settings inputHash = .error e := by
  rw [permissionObjects, headlessService, clientService, statefulSet, h, h, h, h, h]
  exact ⟨rfl, rfl, rfl, rfl⟩

namespace SameIdentity

theorem name_eq (h : SameIdentity r r') (complete : r.IsComplete) : r.name = r'.name := by
  obtain ⟨name, hname⟩ := Option.isSome_iff_exists.1 complete.1
  have hname' : r'.metadata.name = some name := h.name.symm.trans hname
  rw [Redis.name, Redis.name, ObjectMeta.nameOrGenerated, ObjectMeta.nameOrGenerated, hname, hname']
  rfl

/-- The labels show a name that may be a generated one, but then nothing is owned. -/
theorem ownedMetadata_eq (h : SameIdentity r r') (name : String) :
    r.ownedMetadata name = r'.ownedMetadata name := by
  have howner : r.controllerReference? = r'.controllerReference? := by
    rw [controllerReference?, controllerReference?, h.name, h.uid]
  rw [ownedMetadata, ownedMetadata, ← howner, ← h.ns]
  cases hreference : r.controllerReference? with
  | none => rfl
  | some owner =>
    cases hns : r.metadata.ns with
    | none => rfl
    | some ns =>
      obtain ⟨w⟩ := owned_of_owner hreference hns
      rw [commonLabels, commonLabels, selectorLabels_congr (h.name_eq (isComplete_of_owned w))]

theorem exists_error (h : SameIdentity r r') (incomplete : ¬ r.IsComplete) : ∃ e,
    (∀ name, r.ownedMetadata name = .error e) ∧ ∀ name, r'.ownedMetadata name = .error e := by
  have he := ownedMetadata_eq_error incomplete
  exact ⟨_, he, fun name => (h.ownedMetadata_eq name).symm.trans (he name)⟩

/-! ## Permissions and services -/

theorem permissionObjects_eq (h : SameIdentity r r') (hname : r.name = r'.name)
    (rules : List PolicyRule) : r.permissionObjects rules = r'.permissionObjects rules := by
  simp only [permissionObjects, roleName, roleBindingName, serviceAccountName, rbacResourceName,
    h.ownedMetadata_eq, hname, h.ns]

theorem services_eq (h : SameIdentity r r') (hname : r.name = r'.name) :
    r.headlessService = r'.headlessService ∧ r.clientService = r'.clientService := by
  rw [headlessService, headlessService, clientService, clientService,
    headlessServiceName_congr hname, selectorLabels_congr hname, h.ownedMetadata_eq,
    h.ownedMetadata_eq, hname]
  exact ⟨rfl, rfl⟩

end SameIdentity

end Redis

/-! ## What can be read off pods -/

/-- The secret in the volume of a name. -/
def Volume.secretOf? (volume : String) (volumes : List Volume) : Option String :=
  (volumes.find? fun v => v.name == volume).bind fun v => v.secret.bind (·.secretName)

namespace PodTemplate

/-- The hash of the inputs that pods are annotated with. -/
def inputHash? (p : PodTemplate) : Option String :=
  (p.metadata.bind (·.annotations)).bind (·.get? inputHashKey)

/-- The images of the containers. -/
def images (p : PodTemplate) : List (Option String) :=
  (p.spec.map fun s => s.containers.map (·.image)).getD []

/-- The volumes of the pods. -/
def volumes (p : PodTemplate) : List Volume := (p.spec.bind (·.volumes)).getD []

end PodTemplate

/-- Where there is no bundle its name is empty, so the names tell bundles apart. -/
theorem Tls.caBundle?_eq_iff {t t' : Tls} :
    t.caBundle? = t'.caBundle? ↔ t.caBundleSecretName = t'.caBundleSecretName := by
  unfold caBundle?
  by_cases h : t.caBundleSecretName = ""
  · by_cases h' : t'.caBundleSecretName = ""
    · rw [if_pos h, if_pos h', h, h']
      exact iff_of_true rfl rfl
    · rw [if_pos h, if_neg h', h]
      exact iff_of_false nofun (Ne.symm h')
  · by_cases h' : t'.caBundleSecretName = ""
    · rw [if_neg h, if_pos h', h']
      exact iff_of_false nofun h
    · rw [if_neg h, if_neg h', Option.some_inj]

namespace Redis

theorem inputHash?_podTemplate (r : Redis) (settings : Settings) (inputHash : String) :
    (r.podTemplate settings inputHash).inputHash? = some inputHash :=
  StringMap.get?_ofList_singleton inputHashKey inputHash

theorem secretOf?_volumes (r : Redis) :
    Volume.secretOf? "tls-certs" r.volumes = r.spec.tls.certificate? ∧
      Volume.secretOf? "ca-bundle" r.volumes = r.spec.tls.caBundle? := by
  unfold volumes mountedVolumes
  cases r.spec.tls.certificate? <;> cases r.spec.tls.caBundle? <;> exact ⟨rfl, rfl⟩

/-- The pods of two instances of one name are the same exactly if all that goes into them is. -/
theorem podTemplate_eq_iff {r r' : Redis} (hname : r.name = r'.name) {settings settings' : Settings}
    {inputHash inputHash' : String} :
    r.podTemplate settings inputHash = r'.podTemplate settings' inputHash' ↔
      r.image settings = r'.image settings' ∧ r.spec.tls.certificate? = r'.spec.tls.certificate? ∧
        r.spec.tls.caBundle? = r'.spec.tls.caBundle? ∧ inputHash = inputHash' := by
  constructor
  · intro h
    have himages : [some (r.image settings)] = [some (r'.image settings')] :=
      congrArg PodTemplate.images h
    have hvolumes : r.volumes = r'.volumes := congrArg PodTemplate.volumes h
    have hhash := congrArg PodTemplate.inputHash? h
    rw [inputHash?_podTemplate, inputHash?_podTemplate] at hhash
    obtain ⟨hcertificate, hbundle⟩ := r.secretOf?_volumes
    rw [hvolumes] at hcertificate hbundle
    refine ⟨Option.some.inj (List.singleton_inj.1 himages), ?_, ?_, Option.some.inj hhash⟩
    · rw [← hcertificate, r'.secretOf?_volumes.1]
    · rw [← hbundle, r'.secretOf?_volumes.2]
  · rintro ⟨himage, hcertificate, hbundle, rfl⟩
    have hmounted : r.mountedVolumes = r'.mountedVolumes := by
      rw [mountedVolumes, mountedVolumes, scriptsName, scriptsName, configDataName, configDataName,
        hname, hcertificate, hbundle]
    simp only [podTemplate, container, volumes, volumeMounts, commonLabels, rbacResourceName,
      selectorLabels_congr hname, hmounted, himage, hname]

end Redis

/-! ## The theorem -/

/-- **What an edit of a spec changes.** -/
theorem spec_edits_confined {r r' : Redis} (same : r.SameIdentity r') (rules : List PolicyRule)
    (settings settings' : Settings) (inputHash inputHash' : String) :
    r.permissionObjects rules = r'.permissionObjects rules ∧
    r.headlessService = r'.headlessService ∧ r.clientService = r'.clientService ∧
    (¬ r.IsComplete → ∃ e, r.statefulSet settings inputHash = .error e ∧
      r'.statefulSet settings' inputHash' = .error e) ∧
    (r.IsComplete → ∃ metadata spec spec',
      r.statefulSet settings inputHash = .ok ⟨metadata, .statefulSet (some spec) none⟩ ∧
      r'.statefulSet settings' inputHash' = .ok ⟨metadata, .statefulSet (some spec') none⟩ ∧
      spec' = { spec with replicas := spec'.replicas, template := spec'.template } ∧
      (spec.template = spec'.template ↔
        (if r.spec.containerImage = "" then settings.defaultImage else r.spec.containerImage) =
          (if r'.spec.containerImage = "" then settings'.defaultImage
            else r'.spec.containerImage) ∧
        r.spec.tls.secretName.filter (· != "") = r'.spec.tls.secretName.filter (· != "") ∧
        r.spec.tls.caBundleSecretName = r'.spec.tls.caBundleSecretName ∧
        inputHash = inputHash')) := by
  by_cases complete : r.IsComplete
  · have hname := same.name_eq complete
    obtain ⟨hheadless, hclient⟩ := same.services_eq hname
    refine ⟨same.permissionObjects_eq hname rules, hheadless, hclient,
      fun incomplete => absurd complete incomplete, fun _ => ?_⟩
    obtain ⟨w⟩ := Redis.owned_of_isComplete complete
    have hmetadata : r'.ownedMetadata r'.name = .ok (w.metadata r.name) := by
      rw [← same.ownedMetadata_eq, ← hname, w.metadata_eq]
    refine ⟨w.metadata r.name, _, _, w.statefulSet_eq settings inputHash,
      by rw [Redis.statefulSet, hmetadata]; rfl, ?_, ?_⟩
    · rw [Redis.selectorLabels_congr hname, Redis.headlessServiceName_congr hname]
    · rw [← Tls.caBundle?_eq_iff]
      exact Redis.podTemplate_eq_iff hname
  -- Where the instance is not complete, no metadata can be made, and nothing is built.
  · obtain ⟨e, he, he'⟩ := same.exists_error complete
    obtain ⟨hpermissions, hheadless, hclient, hworkload⟩ :=
      Redis.not_built he rules settings inputHash
    obtain ⟨hpermissions', hheadless', hclient', hworkload'⟩ :=
      Redis.not_built he' rules settings' inputHash'
    exact ⟨hpermissions.trans hpermissions'.symm, hheadless.trans hheadless'.symm,
      hclient.trans hclient'.symm, fun _ => ⟨e, hworkload, hworkload'⟩,
      fun h => absurd h complete⟩

namespace SpecEdits

/-- An instance with a spec, named and placed as all instances here. -/
def cache (spec : Spec) : Redis where
  metadata := { name := some "cache", ns := some "demo", uid := some "1" }
  spec := spec
  status := none

/-- The pods of the workload that is built for an instance, if there is one. -/
def pods? (r : Redis) (settings : Settings) (inputHash : String) : Option PodTemplate :=
  (r.statefulSet settings inputHash).toOption.bind fun o => o.workloadSpec?.map (·.template)

end SpecEdits

open SpecEdits in
/-- Another default, another image, another hash or a bundle rolls the pods. The default written
out, another default behind an image, more replicas, or an empty name of a secret do not. -/
theorem spec_edits_confined_images :
    let other := { Settings.default with defaultImage := "redis:7.4" }
    pods? (cache {}) other "a" ≠ pods? (cache {}) .default "a" ∧
    pods? (cache { containerImage := "redis:8" }) .default "a" ≠ pods? (cache {}) .default "a" ∧
    pods? (cache {}) .default "b" ≠ pods? (cache {}) .default "a" ∧
    pods? (cache { tls := { caBundleSecretName := "bundle" } }) .default "a" ≠
      pods? (cache {}) .default "a" ∧
    pods? (cache { containerImage := Settings.default.defaultImage }) .default "a" =
      pods? (cache {}) .default "a" ∧
    pods? (cache { containerImage := "redis:8", replicas := 3 }) other "a" =
      pods? (cache { containerImage := "redis:8" }) .default "a" ∧
    pods? (cache { tls := { secretName := some "" } }) .default "a" =
      pods? (cache {}) .default "a" := by
  have hpods : ∀ spec spec' : Spec, ∀ settings settings' : Settings, ∀ hash hash' : String,
      pods? (cache spec) settings hash = pods? (cache spec') settings' hash' ↔
        (if spec.containerImage = "" then settings.defaultImage else spec.containerImage) =
          (if spec'.containerImage = "" then settings'.defaultImage else spec'.containerImage) ∧
        spec.tls.secretName.filter (· != "") = spec'.tls.secretName.filter (· != "") ∧
        spec.tls.caBundleSecretName = spec'.tls.caBundleSecretName ∧ hash = hash' := by
    intro spec spec' settings settings' hash hash'
    have same : (cache spec).SameIdentity (cache spec') := ⟨rfl, rfl, rfl⟩
    obtain ⟨-, -, -, -, hbuilt⟩ := spec_edits_confined same [] settings settings' hash hash'
    obtain ⟨metadata, built, built', hset, hset', -, htemplate⟩ := hbuilt ⟨rfl, rfl, rfl⟩
    rw [pods?, pods?, hset, hset']
    exact Option.some_inj.trans htemplate
  simp only [ne_eq, hpods]
  decide

end RedisControl
