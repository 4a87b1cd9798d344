import RedisControl.Error
import RedisControl.Redis

/-!
# Labels and metadata of owned objects

Every owned object lies in the namespace of its instance, carries the same three labels, and names
the instance as its controller, so that the cluster removes it together with the instance.

* `ownedMetadata` : the metadata of an owned object; it fails exactly when the instance lacks a
  name, an identifier or a namespace.
-/

namespace RedisControl

/-- The name under which this controller writes. -/
def managerName : String := "redis-operator"

namespace Label

/-- The label that says what the software is. -/
def software : String := "app.kubernetes.io/name"

/-- The label that says of which instance an object is. -/
def instanceName : String := "app.kubernetes.io/instance"

/-- The label that says who keeps the object. -/
def manager : String := "app.kubernetes.io/managed-by"

end Label

namespace Redis

/-- The labels that select the pods of an instance. -/
def selectorLabels (r : Redis) : StringMap String :=
  .ofList [(Label.software, "redis"), (Label.instanceName, r.name)]

/-- The labels that all owned objects carry. -/
def commonLabels (r : Redis) : StringMap String :=
  r.selectorLabels.insert Label.manager managerName

theorem get?_selectorLabels {r : Redis} (key : String) : r.selectorLabels.get? key =
    if key = Label.instanceName then some r.name
    else if key = Label.software then some "redis" else none := by
  rw [selectorLabels, StringMap.get?_ofList]
  simp only [List.reverse_cons, List.reverse_nil, List.nil_append, List.cons_append,
    StringMap.find?, eq_comm]

theorem get?_commonLabels {r : Redis} (key : String) : r.commonLabels.get? key =
    if key = Label.manager then some managerName else r.selectorLabels.get? key := by
  rw [commonLabels, StringMap.get?_insert]
  simp only [eq_comm]

/-- The reference that makes an instance the controller of an object. -/
def controllerReference? (r : Redis) : Option OwnerReference := do
  let name ← r.metadata.name
  let uid ← r.metadata.uid
  some {
    apiVersion, blockOwnerDeletion := none, controller := some true, kind, name, uid }

/-- The metadata of an owned object with a name. -/
def ownedMetadata (r : Redis) (name : String) : Except ControlError ObjectMeta :=
  match r.controllerReference?, r.metadata.ns with
  | none, _ => .error (.missingKey "metadata.uid")
  | some _, none => .error (.missingKey "metadata.namespace")
  | some owner, some ns =>
    .ok { name := some name, ns := some ns, labels := some r.commonLabels,
          ownerReferences := some [owner] }

theorem ownedMetadata_eq_ok {r : Redis} {name : String} {m : ObjectMeta}
    (h : r.ownedMetadata name = .ok m) :
    ∃ owner ns, r.controllerReference? = some owner ∧ r.metadata.ns = some ns ∧
      m = { name := some name, ns := some ns, labels := some r.commonLabels,
            ownerReferences := some [owner] } := by
  unfold ownedMetadata at h
  split at h
  · cases h
  · cases h
  · rename_i owner ns howner hns
    exact ⟨owner, ns, howner, hns, (Except.ok.inj h).symm⟩

end Redis

end RedisControl
