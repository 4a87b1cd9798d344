import RedisControl.Redis
import RedisControl.Yaml

/-!
# The definition of the resource

Before instances can exist, the server has to be told what they look like: under which names they
are known, and which fields they have. The types and defaults are those with which instances are
read, so what the server accepts can be read, and what is left out has one meaning.

* `Definition.schema` : the fields of an instance.
* `Definition.write` : the definition in JSON.
* `Definition.text` : the definition in YAML, ready to be applied.
-/

namespace RedisControl

/-! ## Schemas -/

/-- What may stand in a field. -/
structure Schema where
  json : Json

namespace Schema

/-- The schema of a JSON type. -/
def ofType (type : String) : Schema := ⟨.obj [("type", .str type)]⟩

/-- Say more about a schema. -/
def saying (s : Schema) (key : String) (value : Json) : Schema := ⟨s.json.setMember key value⟩

def text : Schema := ofType "string"

/-- One of several names. -/
def oneOf (names : List String) : Schema := text.saying "enum" (.ofTexts names)

/-- The schema of a number of 32 bits. -/
def int32 : Schema := (ofType "integer").saying "format" (.str "int32")

/-- The schema of an array. -/
def list (item : Schema) : Schema := (ofType "array").saying "items" item.json

/-- The schema of an object with any keys. -/
def map (value : Schema) : Schema := (ofType "object").saying "additionalProperties" value.json

/-- An object with fields. They are given in order of their keys. -/
def record (fields : List (String × Schema)) : Schema :=
  (ofType "object").saying "properties" (.obj (fields.map fun f => (f.1, f.2.json)))

/-- A schema with keys that have to be there. -/
def requiring (s : Schema) (keys : List String) : Schema := s.saying "required" (.ofTexts keys)

/-- What a field means. -/
def described (s : Schema) (description : String) : Schema :=
  s.saying "description" (.str description)

/-- What a field holds that is left out. -/
def orElse (s : Schema) (default : Json) : Schema := s.saying "default" default

/-- A schema that lets null pass. -/
def nullable (s : Schema) : Schema := s.saying "nullable" (.bool true)

end Schema

namespace Definition

/-! ## The fields of an instance -/

/-- The schema of the names of secrets. -/
def tls : Schema :=
  .record [
    ("ca",
      (Schema.record [
        ("caBundleSecretName",
          (Schema.text.orElse (.str "")).described "Secret holding tls-ca-bundle.pem")]).orElse
        (.obj [("caBundleSecretName", .str "")])),
    ("genericService",
      (Schema.record [
        ("secretName",
          Schema.text.nullable.described
            "Secret holding tls.crt/tls.key for the service endpoint")]).orElse (.obj []))]

/-- The schema of what an instance asks for. -/
def spec : Schema :=
  .record [
    ("containerImage",
      (Schema.text.orElse (.str "")).described
        "Container image, the operator default is used when empty"),
    ("customConfig",
      Schema.text.nullable.described "Extra directives appended to the generated redis.conf"),
    ("replicas", Schema.int32.orElse (.num 1)),
    ("tls", tls.orElse (Tls.write {}))]

/-- The schema of a condition, which may lack a message, a severity and a time. -/
def condition : Schema :=
  (Schema.record [
    ("lastTransitionTime",
      Schema.text.nullable.described "RFC 3339 time of the last status change"),
    ("message", Schema.text.orElse (.str "")),
    ("reason", .text),
    ("severity",
      (Schema.oneOf ([Severity.error, .warning, .info].map Severity.name)).nullable.described
        "How bad a False condition is. Only meaningful when the status is False."),
    ("status", .oneOf ([Truth.true, .false, .unknown].map Truth.name)),
    ("type", .text)]).requiring ["reason", "status", "type"]

/-- The schema of the status. -/
def status : Schema :=
  (Schema.record [
    ("conditions", (Schema.list condition).orElse Ledger.empty.write),
    ("hash",
      ((Schema.map .text).orElse (.ofStrings .empty)).described
        "Content hashes of the inputs, keyed by logical input name")]).nullable

/-- The schema of an instance. -/
def schema : Schema :=
  (((Schema.record [("spec", spec), ("status", status)]).requiring ["spec"]).described
    "Auto-generated derived type for RedisSpec via `CustomResource`").saying "title"
    (.str Redis.kind)

/-! ## The whole definition -/

def plural : String := "redises"

/-- The names that the resource goes by. -/
def names : Json :=
  .obj [
    ("categories", .arr []),
    ("kind", .str Redis.kind),
    ("plural", .str plural),
    ("shortNames", .ofTexts ["rd"]),
    ("singular", .str "redis")]

/-- The column that lists of instances show. -/
def column : Json :=
  .obj [
    ("jsonPath", .str ".status.conditions[?(@.type==\"Ready\")].status"),
    ("name", .str Goal.ready.type),
    ("type", .str "string")]

/-- The one version of the resource. Its status is written apart from the rest. -/
def version : Json :=
  .obj [
    ("additionalPrinterColumns", .arr [column]),
    ("name", .str Redis.version),
    ("schema", .obj [("openAPIV3Schema", schema.json)]),
    ("served", .bool true),
    ("storage", .bool true),
    ("subresources", .obj [("status", .obj [])])]

/-- The definition in JSON. -/
def write : Json :=
  .obj [
    ("apiVersion", .str "apiextensions.k8s.io/v1"),
    ("kind", .str "CustomResourceDefinition"),
    ("metadata", .obj [("name", .str (plural ++ "." ++ Redis.group))]),
    ("spec", .obj [
      ("group", .str Redis.group),
      ("names", names),
      ("scope", .str "Namespaced"),
      ("versions", .arr [version])])]

/-- The definition in YAML, ready to be given to a cluster. -/
def text : String := Yaml.render write

end Definition

end RedisControl
