import RedisControl.Json.Reader

/-!
# Metadata of API objects

Name, namespace, labels and owners: what all objects of the cluster have in common.

* `ObjectMeta.nameOrGenerated` : the name that names derived from an object start from.
* `ObjectMeta.read?`, `ObjectMeta.write` : the JSON form, which shows only what is present.
-/

namespace RedisControl

/-- A reference from an object to one that owns it. -/
structure OwnerReference where
  apiVersion : String
  blockOwnerDeletion : Option Bool
  controller : Option Bool
  kind : String
  name : String
  uid : String
  deriving DecidableEq

/-- What an object of the cluster says about itself. -/
structure ObjectMeta where
  annotations : Option (StringMap String) := none
  generateName : Option String := none
  generation : Option Int64 := none
  labels : Option (StringMap String) := none
  name : Option String := none
  /-- The namespace. -/
  ns : Option String := none
  ownerReferences : Option (List OwnerReference) := none
  resourceVersion : Option String := none
  uid : Option String := none
  deriving DecidableEq

namespace OwnerReference

/-- Read a reference to an owner. -/
def read? (j : Json) : Option OwnerReference := do
  let j ← j.asObject?
  let apiVersion ← j.lenient "apiVersion" Json.asString? ""
  let blockOwnerDeletion ← j.optional "blockOwnerDeletion" Json.asBool?
  let controller ← j.optional "controller" Json.asBool?
  let kind ← j.lenient "kind" Json.asString? ""
  let name ← j.lenient "name" Json.asString? ""
  let uid ← j.lenient "uid" Json.asString? ""
  some ⟨apiVersion, blockOwnerDeletion, controller, kind, name, uid⟩

/-- Write a reference to an owner. -/
def write (o : OwnerReference) : Json :=
  .record [
    ("apiVersion", some (.str o.apiVersion)),
    ("blockOwnerDeletion", o.blockOwnerDeletion.map .bool),
    ("controller", o.controller.map .bool),
    ("kind", some (.str o.kind)),
    ("name", some (.str o.name)),
    ("uid", some (.str o.uid))]

end OwnerReference

namespace ObjectMeta

def empty : ObjectMeta := {}

/-- The name; for an object that has none yet, the text that its name will start with. -/
def nameOrGenerated (m : ObjectMeta) : String := (m.name.or m.generateName).getD ""

/-- Read metadata. Everything may be missing or null. -/
def read? (j : Json) : Option ObjectMeta := do
  let j ← j.asObject?
  let annotations ← j.optional "annotations" Json.asStrings?
  let generateName ← j.optional "generateName" Json.asString?
  let generation ← j.optional "generation" Json.asInt64?
  let labels ← j.optional "labels" Json.asStrings?
  let name ← j.optional "name" Json.asString?
  let ns ← j.optional "namespace" Json.asString?
  let ownerReferences ← j.optional "ownerReferences" (Json.asList? OwnerReference.read?)
  let resourceVersion ← j.optional "resourceVersion" Json.asString?
  let uid ← j.optional "uid" Json.asString?
  some ⟨annotations, generateName, generation, labels, name, ns, ownerReferences, resourceVersion,
    uid⟩

/-- Write metadata. What is missing is not shown. -/
def write (m : ObjectMeta) : Json :=
  .record [
    ("annotations", m.annotations.map .ofStrings),
    ("generateName", m.generateName.map .str),
    ("generation", m.generation.map fun n => .num n.toInt),
    ("labels", m.labels.map .ofStrings),
    ("name", m.name.map .str),
    ("namespace", m.ns.map .str),
    ("ownerReferences", m.ownerReferences.map fun os => .arr (os.map OwnerReference.write)),
    ("resourceVersion", m.resourceVersion.map .str),
    ("uid", m.uid.map .str)]

end ObjectMeta

end RedisControl
