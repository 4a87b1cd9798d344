import RedisControl.Meta
import RedisControl.Text.Base64

/-!
# Secrets

A secret is a map from keys to bytes. In JSON the bytes are written in base 64.

* `Secret.dataJson` : the JSON form of the data alone, which is what gets hashed.
-/

namespace RedisControl

/-- A secret, of which the pods mount the data. -/
structure Secret where
  data : Option (StringMap (List UInt8))
  immutable : Option Bool
  metadata : ObjectMeta
  stringData : Option (StringMap String)
  type : Option String
  deriving DecidableEq

namespace Secret

/-- Write bytes in base 64. -/
def writeBytes (bytes : List UInt8) : Json := .str (String.ofList (Text.Base64.encode bytes))

/-- Read bytes from base 64; null is the empty byte string. -/
def readBytes? : Json → Option (List UInt8)
  | .null => some []
  | .str s => Text.Base64.decode? s.toList
  | _ => none

/-- The data in JSON; null if there are none. -/
def dataJson (s : Secret) : Json :=
  match s.data with
  | none => .null
  | some d => .ofMap writeBytes d

/-- Read a secret. Everything may be missing or null. -/
def read? (j : Json) : Option Secret := do
  let j ← j.asObject?
  j.constant "apiVersion" "v1"
  j.constant "kind" "Secret"
  let data ← j.optional "data" (Json.asMap? readBytes?)
  let immutable ← j.optional "immutable" Json.asBool?
  let metadata ← j.lenient "metadata" ObjectMeta.read? .empty
  let stringData ← j.optional "stringData" Json.asStrings?
  let type ← j.optional "type" Json.asString?
  some ⟨data, immutable, metadata, stringData, type⟩

/-- Write a secret. What is missing is not shown. -/
def write (s : Secret) : Json :=
  .record [
    ("apiVersion", some (.str "v1")),
    ("data", s.data.map (.ofMap writeBytes)),
    ("immutable", s.immutable.map .bool),
    ("kind", some (.str "Secret")),
    ("metadata", some s.metadata.write),
    ("stringData", s.stringData.map .ofStrings),
    ("type", s.type.map .str)]

end Secret

end RedisControl
