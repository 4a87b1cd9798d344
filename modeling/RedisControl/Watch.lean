import RedisControl.Api.Request
import RedisControl.Secret
import RedisControl.SecretIndex
import RedisControl.SubResource.Json
import RedisControl.Table

/-!
# Which instances a change concerns

The controller watches the instances themselves, the objects that it keeps for them, and all
secrets. A change concerns the instance that changed, or the instances that own the object that
changed, or those that refer to the secret that changed. Only instances that are known count.

* `Seen.read?` : an object that was seen at a path.
* `Seen.concerns` : the instances that a change concerns.
-/

namespace RedisControl

open Api

/-! ## Objects that are watched -/

/-- An object whose change was seen. -/
inductive Seen where
  | redis (r : Redis)
  | owned (o : SubResource)
  | secret (s : Secret)

/-- The instances that the metadata of an object names as its owners. They are in the namespace of
the object. -/
def ObjectMeta.owningInstances (m : ObjectMeta) : List InstanceRef :=
  ((m.ownerReferences.getD []).filter fun o =>
    o.apiVersion = Redis.apiVersion ∧ o.kind = Redis.kind).map fun o => ⟨m.ns, o.name⟩

namespace Seen

/-- Read an object of the resource that a path belongs to, with the namespace of the path. -/
def read? (path : String) (j : Json) : Option (String × Seen) :=
  match Resource.redises.place? path with
  | some (ns, _) => (Redis.read? j).map fun r => (ns, .redis r)
  | none =>
    match Resource.secrets.place? path with
    | some (ns, _) => (Secret.read? j).map fun s => (ns, .secret s)
    | none => Kind.all.findSome? fun kind =>
      ((Resource.ofKind kind).place? path).bind fun (ns, _) =>
        (SubResource.read? kind j).map fun o => (ns, .owned o)

/-- The instances that a change of an object concerns, among those that are known. -/
def concerns (known : Table InstanceRef Redis) : Seen → List InstanceRef
  | .redis r => r.ref?.toList.filter known.contains
  | .owned o => o.metadata.owningInstances.filter known.contains
  | .secret s => (referencingInstances (known.entries.map (·.2)) s).getD []

end Seen

end RedisControl
