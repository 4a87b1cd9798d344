import RedisControl.Redis
import RedisControl.Secret

/-!
# Which instances a secret belongs to

When a secret changes, the instances in its namespace that refer to it have to be looked at.

* `referencingInstances` : the instances that refer to a secret, in the order given.
* `InstanceRef.text` : a reference to an instance, in words.
-/

namespace RedisControl

/-- What the index knows of an instance. -/
structure InstanceRef where
  ns : Option String
  name : String
  deriving DecidableEq

/-- The text of a reference: kind, version and group, then name and namespace. -/
def InstanceRef.text (i : InstanceRef) : String :=
  Redis.kind ++ "." ++ Redis.version ++ "." ++ Redis.group ++ "/" ++ i.name
    ++ match i.ns with
      | none => ""
      | some ns => "." ++ ns

/-- The reference to an instance. One without a name cannot be referred to. -/
def Redis.ref? (r : Redis) : Option InstanceRef :=
  r.metadata.name.map fun name => ⟨r.metadata.ns, name⟩

/-- Whether a secret is one that the instance depends on, in its own namespace. -/
def Redis.refersTo (r : Redis) (s : Secret) : Bool :=
  r.metadata.ns = s.metadata.ns ∧ s.metadata.nameOrGenerated ∈ r.referencedSecrets

/-- References to the instances that refer to a secret, in order; none if one of them has no
name. -/
def referencingInstances (redises : List Redis) (s : Secret) : Option (List InstanceRef) :=
  (redises.filter (·.refersTo s)).mapM Redis.ref?

end RedisControl
