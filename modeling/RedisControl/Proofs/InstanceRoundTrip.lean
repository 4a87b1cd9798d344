import RedisControl.Proofs.Codecs
import RedisControl.Redis

/-!
# Instances read back

**Theorem (`instances_read_back`).** A spec, a status or a whole instance, written out, reads back
as it was; and whatever the reader accepts reads the same after it has been written. Members that
the reader does not know do not matter, and neither does it matter whether a field with a default
is left out, is null where that is allowed, or holds its default.

The records are nested four deep, and each field has its own rule: some must be there, some have a
default, some may be null, some are not written when they are empty. For each record the proof
gives the codec of every field and the rule by which it is read (`RedisControl.Proofs.Codecs`).

* `Condition.isCodec`, `Ledger.isCodec`, `Status.isCodec` : what a status holds.
* `Tls.isCodec`, `Spec.isCodec` : what a spec holds.
* `OwnerReference.isCodec`, `ObjectMeta.isCodec`, `Redis.isCodec` : whole instances.
-/

namespace RedisControl

open Json

/-! ## The status -/

theorem Condition.isCodec : IsCodec Condition.read? Condition.write := by
  refine IsCodec.ofRecord ["lastTransitionTime", "message", "reason", "severity", "status", "type"]
    (by decide) (fun _ => rfl) (fun c => ?_) fun c h => ?_
  · simp [Canonical]
  · have type : (record _).required "type" asString? = some c.type :=
      h.required isCodec_string (by simp)
    have status : (record _).required "status" (readName? Truth.ofName?) = some c.status :=
      h.required (isCodec_name Truth.ofName?_name) (by simp)
    have reason : (record _).required "reason" asString? = some c.reason :=
      h.required isCodec_string (by simp)
    have severity : (record _).optional "severity" (readName? Severity.ofName?) = some c.severity :=
      h.optional (isCodec_name Severity.ofName?_name) (by simp)
    have message : (record _).defaulted "message" asString? "" = some c.message :=
      h.defaulted isCodec_string (by simp)
    have time : (record _).optional "lastTransitionTime" asString? = some c.lastTransitionTime :=
      h.optional isCodec_string (by simp)
    simp only [Condition.read?, asRecord?_record, type, status, reason, severity, message, time,
      Option.bind_eq_bind, Option.bind_some]

/-- A ledger is written as the list of its entries. -/
theorem Ledger.isCodec : IsCodec Ledger.read? Ledger.write where
  read_write l := by
    have hentries : asList? Condition.read? l.write = some l.entries :=
      Condition.isCodec.list.read_write l.entries
    rw [Ledger.read?, hentries]
    rfl
  canonical l := Condition.isCodec.list.canonical l.entries
  ne_null l := Condition.isCodec.list.ne_null l.entries

theorem Status.isCodec : IsCodec Status.read? Status.write := by
  refine IsCodec.ofRecord ["conditions", "hash"] (by decide) (fun _ => rfl)
    (fun s => ?_) fun s h => ?_
  · simp [Ledger.isCodec.canonical, canonical_ofStrings]
  · have conditions : (record _).defaulted "conditions" Ledger.read? .empty = some s.conditions :=
      h.defaulted Ledger.isCodec (by simp)
    have hash : (record _).defaulted "hash" asStrings? .empty = some s.hash :=
      h.defaulted isCodec_strings (by simp)
    simp only [Status.read?, asRecord?_record, conditions, hash, Option.bind_eq_bind,
      Option.bind_some]

/-! ## The spec -/

theorem Tls.isCodec_service : IsCodec Tls.readService? fun secretName =>
    record [("secretName", secretName.map .str)] := by
  refine IsCodec.ofRecord ["secretName"] (by decide) (fun _ => rfl)
    (fun secretName => ?_) fun secretName h => ?_
  · simp [Canonical]
  · exact h.optional isCodec_string (by simp)

theorem Tls.isCodec_ca : IsCodec Tls.readCa? fun name =>
    record [("caBundleSecretName", some (.str name))] := by
  refine IsCodec.ofRecord ["caBundleSecretName"] (by decide) (fun _ => rfl)
    (fun name => ?_) fun name h => ?_
  · simp [Canonical]
  · have name : (record _).defaulted "caBundleSecretName" asString? "" = some name :=
      h.defaulted isCodec_string (by simp)
    exact name

theorem Tls.isCodec : IsCodec Tls.read? Tls.write := by
  refine IsCodec.ofRecord ["ca", "genericService"] (by decide) (fun _ => rfl)
    (fun t => ?_) fun t h => ?_
  · simp [Tls.isCodec_service.canonical, Tls.isCodec_ca.canonical]
  · have service : (record _).defaulted "genericService" Tls.readService? none = some t.secretName :=
      h.defaulted Tls.isCodec_service (by simp)
    have ca : (record _).defaulted "ca" Tls.readCa? "" = some t.caBundleSecretName :=
      h.defaulted Tls.isCodec_ca (by simp)
    simp only [Tls.read?, asRecord?_record, service, ca, Option.bind_eq_bind, Option.bind_some]

theorem Spec.isCodec : IsCodec Spec.read? Spec.write := by
  refine IsCodec.ofRecord ["containerImage", "customConfig", "replicas", "tls"]
    (by decide) (fun _ => rfl) (fun s => ?_) fun s h => ?_
  · simp [Canonical, Tls.isCodec.canonical]
  · have image : (record _).defaulted "containerImage" asString? "" = some s.containerImage :=
      h.defaulted isCodec_string (by simp)
    have replicas : (record _).defaulted "replicas" asInt32? 1 = some s.replicas :=
      h.defaulted isCodec_int32 (by simp)
    have tls : (record _).defaulted "tls" Tls.read? {} = some s.tls :=
      h.defaulted Tls.isCodec (by simp)
    have config : (record _).optional "customConfig" asString? = some s.customConfig :=
      h.optional isCodec_string (by simp)
    simp only [Spec.read?, asRecord?_record, image, replicas, tls, config, Option.bind_eq_bind,
      Option.bind_some]

/-! ## Whole instances -/

theorem OwnerReference.isCodec : IsCodec OwnerReference.read? OwnerReference.write := by
  refine IsCodec.ofRecord ["apiVersion", "blockOwnerDeletion", "controller", "kind", "name", "uid"]
    (by decide) (fun _ => rfl) (fun o => ?_) fun o h => ?_
  · obtain ⟨_, block, controller, _, _, _⟩ := o
    cases block <;> cases controller <;> simp [Canonical]
  · have apiVersion : (record _).lenient "apiVersion" asString? "" = some o.apiVersion :=
      h.lenient isCodec_string (by simp)
    have block : (record _).optional "blockOwnerDeletion" asBool? = some o.blockOwnerDeletion :=
      h.optional isCodec_bool (by simp)
    have controller : (record _).optional "controller" asBool? = some o.controller :=
      h.optional isCodec_bool (by simp)
    have kind : (record _).lenient "kind" asString? "" = some o.kind :=
      h.lenient isCodec_string (by simp)
    have name : (record _).lenient "name" asString? "" = some o.name :=
      h.lenient isCodec_string (by simp)
    have uid : (record _).lenient "uid" asString? "" = some o.uid :=
      h.lenient isCodec_string (by simp)
    simp only [OwnerReference.read?, asObject?_record, apiVersion, block, controller, kind, name,
      uid, Option.bind_eq_bind, Option.bind_some]

theorem ObjectMeta.isCodec : IsCodec ObjectMeta.read? ObjectMeta.write := by
  refine IsCodec.ofRecord ["annotations", "generateName", "generation", "labels", "name",
      "namespace", "ownerReferences", "resourceVersion", "uid"] (by decide) (fun _ => rfl)
    (fun m => ?_) fun m h => ?_
  · simp [Canonical, canonical_ofStrings, canonicalItems_map OwnerReference.isCodec.canonical]
  · have annotations : (record _).optional "annotations" asStrings? = some m.annotations :=
      h.optional isCodec_strings (by simp)
    have generateName : (record _).optional "generateName" asString? = some m.generateName :=
      h.optional isCodec_string (by simp)
    have generation : (record _).optional "generation" asInt64? = some m.generation :=
      h.optional isCodec_int64 (by simp)
    have labels : (record _).optional "labels" asStrings? = some m.labels :=
      h.optional isCodec_strings (by simp)
    have name : (record _).optional "name" asString? = some m.name :=
      h.optional isCodec_string (by simp)
    have ns : (record _).optional "namespace" asString? = some m.ns :=
      h.optional isCodec_string (by simp)
    have owners : (record _).optional "ownerReferences" (asList? OwnerReference.read?) =
        some m.ownerReferences :=
      h.optional OwnerReference.isCodec.list (by simp)
    have version : (record _).optional "resourceVersion" asString? = some m.resourceVersion :=
      h.optional isCodec_string (by simp)
    have uid : (record _).optional "uid" asString? = some m.uid :=
      h.optional isCodec_string (by simp)
    simp only [ObjectMeta.read?, asObject?_record, annotations, generateName, generation, labels,
      name, ns, owners, version, uid, Option.bind_eq_bind, Option.bind_some]

theorem Redis.isCodec : IsCodec Redis.read? Redis.write := by
  refine IsCodec.ofRecord ["apiVersion", "kind", "metadata", "spec", "status"]
    (by decide) (fun _ => rfl) (fun r => ?_) fun r h => ?_
  · simp [Canonical, ObjectMeta.isCodec.canonical, Spec.isCodec.canonical, Status.isCodec.canonical]
  · have metadata : (record _).required "metadata" ObjectMeta.read? = some r.metadata :=
      h.required ObjectMeta.isCodec (by simp)
    have spec : (record _).required "spec" Spec.read? = some r.spec :=
      h.required Spec.isCodec (by simp)
    have status : (record _).optional "status" Status.read? = some r.status :=
      h.optional Status.isCodec (by simp)
    simp only [Redis.read?, asRecord?_record, metadata, spec, status, Option.bind_eq_bind,
      Option.bind_some]

/-! ## Fields that nobody wrote -/

theorem asString?_empty : asString? (.str "") = some "" := rfl

theorem Condition.readsByName : ReadsByName Condition.read? (Condition.fields.map Field.key)
    [("severity", .null), ("message", .str ""), ("lastTransitionTime", .null)] where
  unknown members key v h := by
    simp only [Condition.fields, List.map_cons, List.map_nil, List.mem_cons, List.not_mem_nil,
      or_false, not_or] at h
    simp [Condition.read?, h]
  left_out members f hf h := by
    simp only [List.mem_cons, List.not_mem_nil, or_false] at hf
    rcases hf with rfl | rfl | rfl
    · simp [Condition.read?, optional_setMember_null h]
    · simp [Condition.read?, defaulted_setMember_default h asString?_empty]
    · simp [Condition.read?, optional_setMember_null h]

theorem Status.readsByName : ReadsByName Status.read? (Status.fields.map Field.key)
    [("conditions", .arr []), ("hash", .obj [])] where
  unknown members key v h := by
    simp only [Status.fields, List.map_cons, List.map_nil, List.mem_cons, List.not_mem_nil,
      or_false, not_or] at h
    simp [Status.read?, h]
  left_out members f hf h := by
    have hconditions : Ledger.read? (.arr []) = some .empty := rfl
    have hhash : asStrings? (.obj []) = some .empty := rfl
    simp only [List.mem_cons, List.not_mem_nil, or_false] at hf
    rcases hf with rfl | rfl
    · simp [Status.read?, defaulted_setMember_default h hconditions]
    · simp [Status.read?, defaulted_setMember_default h hhash]

theorem Tls.readsByName_service :
    ReadsByName Tls.readService? (Tls.serviceFields.map Field.key) [("secretName", .null)] where
  unknown members key v h := by
    have hne : key ≠ "secretName" := fun he => h (List.mem_singleton.2 he)
    simp [Tls.readService?, hne]
  left_out members f hf h := by
    obtain rfl := List.mem_singleton.1 hf
    simp [Tls.readService?, optional_setMember_null h]

theorem Tls.readsByName_ca :
    ReadsByName Tls.readCa? (Tls.caFields.map Field.key) [("caBundleSecretName", .str "")] where
  unknown members key v h := by
    have hne : key ≠ "caBundleSecretName" := fun he => h (List.mem_singleton.2 he)
    simp [Tls.readCa?, hne]
  left_out members f hf h := by
    obtain rfl := List.mem_singleton.1 hf
    simp [Tls.readCa?, defaulted_setMember_default h asString?_empty]

theorem Tls.readsByName : ReadsByName Tls.read? (Tls.fields.map Field.key)
    [("genericService", .obj []), ("ca", .obj [])] where
  unknown members key v h := by
    simp only [Tls.fields, List.map_cons, List.map_nil, List.mem_cons, List.not_mem_nil,
      or_false, not_or] at h
    simp [Tls.read?, h]
  left_out members f hf h := by
    have hservice : Tls.readService? (.obj []) = some none := rfl
    have hca : Tls.readCa? (.obj []) = some "" := rfl
    simp only [List.mem_cons, List.not_mem_nil, or_false] at hf
    rcases hf with rfl | rfl
    · simp [Tls.read?, defaulted_setMember_default h hservice]
    · simp [Tls.read?, defaulted_setMember_default h hca]

theorem Spec.readsByName : ReadsByName Spec.read? (Spec.fields.map Field.key)
    [("containerImage", .str ""), ("replicas", .num 1), ("tls", .obj []),
      ("customConfig", .null)] where
  unknown members key v h := by
    simp only [Spec.fields, List.map_cons, List.map_nil, List.mem_cons, List.not_mem_nil,
      or_false, not_or] at h
    simp [Spec.read?, h]
  left_out members f hf h := by
    have hreplicas : asInt32? (.num 1) = some 1 := rfl
    have htls : Tls.read? (.obj []) = some {} := rfl
    simp only [List.mem_cons, List.not_mem_nil, or_false] at hf
    rcases hf with rfl | rfl | rfl | rfl
    · simp [Spec.read?, defaulted_setMember_default h asString?_empty]
    · simp [Spec.read?, defaulted_setMember_default h hreplicas]
    · simp [Spec.read?, defaulted_setMember_default h htls]
    · simp [Spec.read?, optional_setMember_null h]

/-- Kind and version are among the members that a reader of instances does not look at. -/
theorem Redis.readsByName : ReadsByName Redis.read? (Redis.fields.map Field.key)
    [("status", .null)] where
  unknown members key v h := by
    simp only [Redis.fields, List.map_cons, List.map_nil, List.mem_cons, List.not_mem_nil,
      or_false, not_or] at h
    simp [Redis.read?, h]
  left_out members f hf h := by
    obtain rfl := List.mem_singleton.1 hf
    simp [Redis.read?, optional_setMember_null h]

/-- **Instances, specs and statuses, once written, read back as they were; and what was accepted
from any JSON value, with fields left out, null or unknown, reads the same once it has been
written.** -/
theorem instances_read_back :
    ReadsBack Spec.read? Spec.write ∧ ReadsBack Status.read? Status.write ∧
    ReadsBack Redis.read? Redis.write ∧
    ReadsByName Redis.read? (Redis.fields.map Field.key) [("status", .null)] ∧
    ReadsByName Spec.read? (Spec.fields.map Field.key)
      [("containerImage", .str ""), ("replicas", .num 1), ("tls", .obj []),
        ("customConfig", .null)] ∧
    ReadsByName Tls.read? (Tls.fields.map Field.key) [("genericService", .obj []), ("ca", .obj [])] ∧
    ReadsByName Tls.readService? (Tls.serviceFields.map Field.key) [("secretName", .null)] ∧
    ReadsByName Tls.readCa? (Tls.caFields.map Field.key) [("caBundleSecretName", .str "")] ∧
    ReadsByName Status.read? (Status.fields.map Field.key)
      [("conditions", .arr []), ("hash", .obj [])] ∧
    ReadsByName Condition.read? (Condition.fields.map Field.key)
      [("severity", .null), ("message", .str ""), ("lastTransitionTime", .null)] :=
  ⟨Spec.isCodec.readsBack, Status.isCodec.readsBack, Redis.isCodec.readsBack, Redis.readsByName,
    Spec.readsByName, Tls.readsByName, Tls.readsByName_service, Tls.readsByName_ca,
    Status.readsByName, Condition.readsByName⟩

/-- Nothing but unknown members: every field of the spec has its default. -/
example : Spec.read? (.obj [("colour", .str "red"), ("customConfig", .null)]) = some {} := rfl

end RedisControl
