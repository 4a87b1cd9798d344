import RedisControl.Ledger
import RedisControl.Meta

/-!
# Redis instances

The resource that this controller serves. Its spec says how an instance should run; its status
holds the ledger of conditions and the recorded hashes of the inputs.

* `Tls.certificate?`, `Tls.caBundle?` : the secrets that a spec refers to.
* `Redis.referencedSecrets` : both in order.
* `Redis.read?`, `Redis.write` : the JSON form.
-/

namespace RedisControl

/-- How clients reach an instance securely. -/
structure Tls where
  secretName : Option String := none
  /-- The secret with the bundle of trusted authorities; empty for none. -/
  caBundleSecretName : String := ""
  deriving DecidableEq

/-- What an instance asks for. -/
structure Spec where
  /-- The image of the server; empty for the configured default. -/
  containerImage : String := ""
  replicas : Int32 := 1
  tls : Tls := {}
  customConfig : Option String := none
  deriving DecidableEq

/-- What the controller has found out and recorded. -/
structure Status where
  conditions : Ledger
  hash : StringMap String
  deriving DecidableEq

/-- An instance as the cluster has it. -/
structure Redis where
  metadata : ObjectMeta
  spec : Spec
  status : Option Status
  deriving DecidableEq

/-! ## Secrets -/

namespace Tls

/-- The secret with the certificate, if transport security is on. -/
def certificate? (t : Tls) : Option String := t.secretName.filter (· != "")

/-- Whether clients are to connect with transport security. -/
def enabled (t : Tls) : Bool := t.certificate?.isSome

/-- The secret with the bundle of trusted authorities, if there is one. -/
def caBundle? (t : Tls) : Option String :=
  if t.caBundleSecretName = "" then none else some t.caBundleSecretName

end Tls

/-! ## Instances -/

namespace Status

/-- The status before the first pass. -/
def empty : Status := ⟨.empty, .empty⟩

end Status

namespace Redis

def group : String := "cache.geeko.me"

def version : String := "v1beta1"

def kind : String := "Redis"

/-- The group and the version of the resource. -/
def apiVersion : String := "cache.geeko.me/v1beta1"

/-- The name that the names of owned objects start from. -/
def name (r : Redis) : String := r.metadata.nameOrGenerated

/-- Namespace and name in one text. -/
def key (r : Redis) : String := r.metadata.ns.getD "" ++ "/" ++ r.name

/-- The name of the service account, from which the names of its role and binding start. -/
def rbacResourceName (r : Redis) : String := "redis-" ++ r.name

/-- The secrets that the instance depends on: certificate, then bundle. -/
def referencedSecrets (r : Redis) : List String :=
  r.spec.tls.certificate?.toList ++ r.spec.tls.caBundle?.toList

/-- The status; for an instance that has none yet, the empty one. -/
def statusOrEmpty (r : Redis) : Status := r.status.getD .empty

end Redis

/-! ## JSON form -/

namespace Tls

/-- The fields of the part about the server, in the order that they have by position. -/
def serviceFields : List Json.Field := [⟨"secretName", true⟩]

/-- The fields of the part about authorities, in the order that they have by position. -/
def caFields : List Json.Field := [⟨"caBundleSecretName", true⟩]

/-- The two parts, in the order that they have by position. -/
def fields : List Json.Field := [⟨"genericService", true⟩, ⟨"ca", true⟩]

/-- Read the part about the server. The name of the secret may be missing or null. -/
def readService? (j : Json) : Option (Option String) := do
  (← j.asRecord? serviceFields).optional "secretName" Json.asString?

/-- Read the part about authorities. The name of the bundle may be missing but not null. -/
def readCa? (j : Json) : Option String := do
  (← j.asRecord? caFields).defaulted "caBundleSecretName" Json.asString? ""

/-- Read what a spec says about transport security. A part that is missing asks for nothing. -/
def read? (j : Json) : Option Tls := do
  let j ← j.asRecord? fields
  let secretName ← j.defaulted "genericService" readService? none
  let caBundleSecretName ← j.defaulted "ca" readCa? ""
  some ⟨secretName, caBundleSecretName⟩

/-- Write what a spec says about transport security. -/
def write (t : Tls) : Json :=
  .record [
    ("ca", some (.record [("caBundleSecretName", some (.str t.caBundleSecretName))])),
    ("genericService", some (.record [("secretName", t.secretName.map .str)]))]

end Tls

namespace Spec

/-- The fields of a spec, in the order that they have by position. -/
def fields : List Json.Field :=
  [⟨"containerImage", true⟩, ⟨"replicas", true⟩, ⟨"tls", true⟩, ⟨"customConfig", true⟩]

/-- Read a spec. Everything may be missing. -/
def read? (j : Json) : Option Spec := do
  let j ← j.asRecord? fields
  let containerImage ← j.defaulted "containerImage" Json.asString? ""
  let replicas ← j.defaulted "replicas" Json.asInt32? 1
  let tls ← j.defaulted "tls" Tls.read? {}
  let customConfig ← j.optional "customConfig" Json.asString?
  some ⟨containerImage, replicas, tls, customConfig⟩

/-- Write a spec. -/
def write (s : Spec) : Json :=
  .record [
    ("containerImage", some (.str s.containerImage)),
    ("customConfig", s.customConfig.map .str),
    ("replicas", some (.num s.replicas.toInt)),
    ("tls", some s.tls.write)]

end Spec

namespace Status

/-- The fields of a status, in the order that they have by position. -/
def fields : List Json.Field := [⟨"conditions", true⟩, ⟨"hash", true⟩]

/-- Read a status, of which neither part has to be there. -/
def read? (j : Json) : Option Status := do
  let j ← j.asRecord? fields
  let conditions ← j.defaulted "conditions" Ledger.read? .empty
  let hash ← j.defaulted "hash" Json.asStrings? .empty
  some ⟨conditions, hash⟩

/-- Write a status. Both parts are always shown. -/
def write (s : Status) : Json :=
  .record [("conditions", some s.conditions.write), ("hash", some (.ofStrings s.hash))]

end Status

namespace Redis

/-- The fields of an instance, in the order that they have by position. -/
def fields : List Json.Field := [⟨"metadata", false⟩, ⟨"spec", false⟩, ⟨"status", false⟩]

/-- Read an instance. Kind and version are not looked at. -/
def read? (j : Json) : Option Redis := do
  let j ← j.asRecord? fields
  let metadata ← j.required "metadata" ObjectMeta.read?
  let spec ← j.required "spec" Spec.read?
  let status ← j.optional "status" Status.read?
  some ⟨metadata, spec, status⟩

/-- Write an instance with its kind and version. -/
def write (r : Redis) : Json :=
  .record [
    ("apiVersion", some (.str apiVersion)),
    ("kind", some (.str kind)),
    ("metadata", some r.metadata.write),
    ("spec", some r.spec.write),
    ("status", r.status.map Status.write)]

end Redis

end RedisControl
