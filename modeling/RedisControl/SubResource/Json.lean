import RedisControl.SubResource.Basic

/-!
# The JSON form of owned objects

Every part has a reader and a writer. A reader takes absent and null fields for defaults and
ignores fields that it does not know; a writer shows what is present, in order of the keys.

* `SubResource.write` : an owned object in JSON.
* `SubResource.read?` : an owned object of a given kind from JSON.
-/

namespace RedisControl

open Json

/-- The array of the JSON forms of some values. -/
def Json.ofList {α : Type} (write : α → Json) (l : List α) : Json := .arr (l.map write)

/-- A number of 32 bits in JSON. -/
def Json.ofInt32 (n : Int32) : Json := .num n.toInt

/-! ## Permissions -/

namespace PolicyRule

/-- Read a rule. Without verbs it allows nothing. -/
def read? (j : Json) : Option PolicyRule := do
  let j ← j.asObject?
  let apiGroups ← j.optional "apiGroups" asTexts?
  let nonResourceUrls ← j.optional "nonResourceURLs" asTexts?
  let resourceNames ← j.optional "resourceNames" asTexts?
  let resources ← j.optional "resources" asTexts?
  let verbs ← j.lenient "verbs" asTexts? []
  some ⟨apiGroups, nonResourceUrls, resourceNames, resources, verbs⟩

/-- Write a rule. Its verbs are always shown. -/
def write (r : PolicyRule) : Json :=
  .record [
    ("apiGroups", r.apiGroups.map .ofTexts),
    ("nonResourceURLs", r.nonResourceUrls.map .ofTexts),
    ("resourceNames", r.resourceNames.map .ofTexts),
    ("resources", r.resources.map .ofTexts),
    ("verbs", some (.ofTexts r.verbs))]

end PolicyRule

namespace RoleRef

/-- Read a reference to a role. -/
def read? (j : Json) : Option RoleRef := do
  let j ← j.asObject?
  let apiGroup ← j.lenient "apiGroup" asString? ""
  let kind ← j.lenient "kind" asString? ""
  let name ← j.lenient "name" asString? ""
  some ⟨apiGroup, kind, name⟩

/-- Write a reference to a role, of which all fields are shown. -/
def write (r : RoleRef) : Json :=
  .record [("apiGroup", some (.str r.apiGroup)), ("kind", some (.str r.kind)),
    ("name", some (.str r.name))]

end RoleRef

namespace Subject

/-- Read a subject. Group and namespace may be missing or null. -/
def read? (j : Json) : Option Subject := do
  let j ← j.asObject?
  let apiGroup ← j.optional "apiGroup" asString?
  let kind ← j.lenient "kind" asString? ""
  let name ← j.lenient "name" asString? ""
  let ns ← j.optional "namespace" asString?
  some ⟨apiGroup, kind, name, ns⟩

/-- Write a subject. Kind and name are always shown. -/
def write (s : Subject) : Json :=
  .record [("apiGroup", s.apiGroup.map .str), ("kind", some (.str s.kind)),
    ("name", some (.str s.name)), ("namespace", s.ns.map .str)]

end Subject

/-! ## Services -/

namespace PortRef

/-- Read a port. -/
def read? (j : Json) : Option PortRef := (j.asInt32?.map .number).or (j.asString?.map .name)

/-- Write a port. -/
def write : PortRef → Json
  | .number n => ofInt32 n
  | .name s => .str s

end PortRef

namespace ServicePort

/-- Read a port of a service. -/
def read? (j : Json) : Option ServicePort := do
  let j ← j.asObject?
  let name ← j.optional "name" asString?
  let port ← j.lenient "port" asInt32? 0
  let protocol ← j.optional "protocol" asString?
  let targetPort ← j.optional "targetPort" PortRef.read?
  some ⟨name, port, protocol, targetPort⟩

/-- Write a port of a service. The port itself is always shown. -/
def write (p : ServicePort) : Json :=
  .record [("name", p.name.map .str), ("port", some (ofInt32 p.port)),
    ("protocol", p.protocol.map .str), ("targetPort", p.targetPort.map PortRef.write)]

end ServicePort

namespace ServiceSpec

/-- Read what a service is asked to offer. -/
def read? (j : Json) : Option ServiceSpec := do
  let j ← j.asObject?
  let clusterIp ← j.optional "clusterIP" asString?
  let ports ← j.optional "ports" (asList? ServicePort.read?)
  let publishNotReadyAddresses ← j.optional "publishNotReadyAddresses" asBool?
  let selector ← j.optional "selector" asStrings?
  let type ← j.optional "type" asString?
  some ⟨clusterIp, ports, publishNotReadyAddresses, selector, type⟩

/-- Write what a service is asked to offer. -/
def write (s : ServiceSpec) : Json :=
  .record [
    ("clusterIP", s.clusterIp.map .str),
    ("ports", s.ports.map (ofList ServicePort.write)),
    ("publishNotReadyAddresses", s.publishNotReadyAddresses.map .bool),
    ("selector", s.selector.map .ofStrings),
    ("type", s.type.map .str)]

end ServiceSpec

/-! ## Workloads -/

namespace ConfigMapSource

/-- Read a reference to a config map. -/
def read? (j : Json) : Option ConfigMapSource := do
  let j ← j.asObject?
  let defaultMode ← j.optional "defaultMode" asInt32?
  let name ← j.lenient "name" asString? ""
  some ⟨defaultMode, name⟩

/-- Write a reference to a config map, by its name. -/
def write (s : ConfigMapSource) : Json :=
  .record [("defaultMode", s.defaultMode.map ofInt32), ("name", some (.str s.name))]

end ConfigMapSource

namespace SecretSource

/-- Read a reference to a secret. -/
def read? (j : Json) : Option SecretSource := do
  let j ← j.asObject?
  let defaultMode ← j.optional "defaultMode" asInt32?
  let secretName ← j.optional "secretName" asString?
  some ⟨defaultMode, secretName⟩

/-- Write a reference to a secret. -/
def write (s : SecretSource) : Json :=
  .record [("defaultMode", s.defaultMode.map ofInt32), ("secretName", s.secretName.map .str)]

end SecretSource

namespace Volume

/-- Read a volume. One of another sort than config maps and secrets keeps its name only. -/
def read? (j : Json) : Option Volume := do
  let j ← j.asObject?
  let configMap ← j.optional "configMap" ConfigMapSource.read?
  let name ← j.lenient "name" asString? ""
  let secret ← j.optional "secret" SecretSource.read?
  some ⟨configMap, name, secret⟩

/-- Write a volume. -/
def write (v : Volume) : Json :=
  .record [("configMap", v.configMap.map ConfigMapSource.write), ("name", some (.str v.name)),
    ("secret", v.secret.map SecretSource.write)]

end Volume

namespace VolumeMount

/-- Read where a volume is mounted. -/
def read? (j : Json) : Option VolumeMount := do
  let j ← j.asObject?
  let mountPath ← j.lenient "mountPath" asString? ""
  let name ← j.lenient "name" asString? ""
  let readOnly ← j.optional "readOnly" asBool?
  some ⟨mountPath, name, readOnly⟩

/-- Write where a volume is mounted. Path and volume are always shown. -/
def write (m : VolumeMount) : Json :=
  .record [("mountPath", some (.str m.mountPath)), ("name", some (.str m.name)),
    ("readOnly", m.readOnly.map .bool)]

end VolumeMount

namespace ContainerPort

/-- Read a port of a container. -/
def read? (j : Json) : Option ContainerPort := do
  let j ← j.asObject?
  let containerPort ← j.lenient "containerPort" asInt32? 0
  let name ← j.optional "name" asString?
  some ⟨containerPort, name⟩

/-- Write a port of a container. -/
def write (p : ContainerPort) : Json :=
  .record [("containerPort", some (ofInt32 p.containerPort)), ("name", p.name.map .str)]

end ContainerPort

namespace ExecAction

/-- Read a command. -/
def read? (j : Json) : Option ExecAction := do
  let j ← j.asObject?
  let command ← j.optional "command" asTexts?
  some ⟨command⟩

/-- Write a command. -/
def write (e : ExecAction) : Json := .record [("command", e.command.map .ofTexts)]

end ExecAction

namespace Probe

/-- Read a probe. -/
def read? (j : Json) : Option Probe := do
  let j ← j.asObject?
  let exec ← j.optional "exec" ExecAction.read?
  let initialDelaySeconds ← j.optional "initialDelaySeconds" asInt32?
  let periodSeconds ← j.optional "periodSeconds" asInt32?
  let timeoutSeconds ← j.optional "timeoutSeconds" asInt32?
  some ⟨exec, initialDelaySeconds, periodSeconds, timeoutSeconds⟩

/-- Write a probe. -/
def write (p : Probe) : Json :=
  .record [
    ("exec", p.exec.map ExecAction.write),
    ("initialDelaySeconds", p.initialDelaySeconds.map ofInt32),
    ("periodSeconds", p.periodSeconds.map ofInt32),
    ("timeoutSeconds", p.timeoutSeconds.map ofInt32)]

end Probe

namespace Container

/-- Read a container. -/
def read? (j : Json) : Option Container := do
  let j ← j.asObject?
  let command ← j.optional "command" asTexts?
  let image ← j.optional "image" asString?
  let name ← j.lenient "name" asString? ""
  let ports ← j.optional "ports" (asList? ContainerPort.read?)
  let readinessProbe ← j.optional "readinessProbe" Probe.read?
  let volumeMounts ← j.optional "volumeMounts" (asList? VolumeMount.read?)
  some ⟨command, image, name, ports, readinessProbe, volumeMounts⟩

/-- Write a container. Its name is always shown. -/
def write (c : Container) : Json :=
  .record [
    ("command", c.command.map .ofTexts),
    ("image", c.image.map .str),
    ("name", some (.str c.name)),
    ("ports", c.ports.map (ofList ContainerPort.write)),
    ("readinessProbe", c.readinessProbe.map Probe.write),
    ("volumeMounts", c.volumeMounts.map (ofList VolumeMount.write))]

end Container

namespace PodSpec

/-- Read what pods run. -/
def read? (j : Json) : Option PodSpec := do
  let j ← j.asObject?
  let containers ← j.lenient "containers" (asList? Container.read?) []
  let serviceAccountName ← j.optional "serviceAccountName" asString?
  let volumes ← j.optional "volumes" (asList? Volume.read?)
  some ⟨containers, serviceAccountName, volumes⟩

/-- Write what pods run. The list of containers is always shown. -/
def write (p : PodSpec) : Json :=
  .record [
    ("containers", some (ofList Container.write p.containers)),
    ("serviceAccountName", p.serviceAccountName.map .str),
    ("volumes", p.volumes.map (ofList Volume.write))]

end PodSpec

namespace PodTemplate

/-- Read a template of pods. -/
def read? (j : Json) : Option PodTemplate := do
  let j ← j.asObject?
  let metadata ← j.optional "metadata" ObjectMeta.read?
  let spec ← j.optional "spec" PodSpec.read?
  some ⟨metadata, spec⟩

/-- Write a template of pods. -/
def write (t : PodTemplate) : Json :=
  .record [("metadata", t.metadata.map ObjectMeta.write), ("spec", t.spec.map PodSpec.write)]

end PodTemplate

namespace LabelSelector

/-- Read a selector. -/
def read? (j : Json) : Option LabelSelector := do
  let j ← j.asObject?
  let matchLabels ← j.optional "matchLabels" asStrings?
  some ⟨matchLabels⟩

/-- Write a selector. -/
def write (s : LabelSelector) : Json := .record [("matchLabels", s.matchLabels.map .ofStrings)]

end LabelSelector

namespace StatefulSetSpec

/-- Read what a workload is asked to run. Without a template the template is empty. -/
def read? (j : Json) : Option StatefulSetSpec := do
  let j ← j.asObject?
  let podManagementPolicy ← j.optional "podManagementPolicy" asString?
  let replicas ← j.optional "replicas" asInt32?
  let selector ← j.lenient "selector" LabelSelector.read? {}
  let serviceName ← j.lenient "serviceName" asString? ""
  let template ← j.lenient "template" PodTemplate.read? {}
  some ⟨podManagementPolicy, replicas, selector, serviceName, template⟩

/-- Write what a workload is asked to run. -/
def write (s : StatefulSetSpec) : Json :=
  .record [
    ("podManagementPolicy", s.podManagementPolicy.map .str),
    ("replicas", s.replicas.map ofInt32),
    ("selector", some s.selector.write),
    ("serviceName", some (.str s.serviceName)),
    ("template", some s.template.write)]

end StatefulSetSpec

namespace StatefulSetStatus

/-- Read what the cluster reports. Where no replicas are counted there are none. -/
def read? (j : Json) : Option StatefulSetStatus := do
  let j ← j.asObject?
  let readyReplicas ← j.optional "readyReplicas" asInt32?
  let replicas ← j.lenient "replicas" asInt32? 0
  some ⟨readyReplicas, replicas⟩

/-- Write what the cluster reports. -/
def write (s : StatefulSetStatus) : Json :=
  .record [("readyReplicas", s.readyReplicas.map ofInt32), ("replicas", some (ofInt32 s.replicas))]

end StatefulSetStatus

/-! ## Owned objects -/

namespace Body

/-- Read the body of an object of a kind, from the fields beside the metadata. -/
def read? (j : Json) : Kind → Option Body
  | .serviceAccount => some .serviceAccount
  | .role => do
    let rules ← j.optional "rules" (asList? PolicyRule.read?)
    some (.role rules)
  | .roleBinding => do
    let roleRef ← j.lenient "roleRef" RoleRef.read? {}
    let subjects ← j.optional "subjects" (asList? Subject.read?)
    some (.roleBinding roleRef subjects)
  | .configMap => do
    let data ← j.optional "data" asStrings?
    some (.configMap data)
  | .service => do
    let spec ← j.optional "spec" ServiceSpec.read?
    some (.service spec)
  | .statefulSet => do
    let spec ← j.optional "spec" StatefulSetSpec.read?
    let status ← j.optional "status" StatefulSetStatus.read?
    some (.statefulSet spec status)

/-- The fields of a body that come before the metadata in order of keys. -/
def early : Body → List (String × Option Json)
  | .configMap data => [("data", data.map .ofStrings)]
  | _ => []

/-- The fields of a body that come after the metadata in order of keys. -/
def late : Body → List (String × Option Json)
  | .serviceAccount => []
  | .role rules => [("rules", rules.map (ofList PolicyRule.write))]
  | .roleBinding roleRef subjects =>
    [("roleRef", some roleRef.write), ("subjects", subjects.map (ofList Subject.write))]
  | .configMap _ => []
  | .service spec => [("spec", spec.map ServiceSpec.write)]
  | .statefulSet spec status =>
    [("spec", spec.map StatefulSetSpec.write), ("status", status.map StatefulSetStatus.write)]

end Body

namespace SubResource

/-- Read an object of a kind. Version and kind may be missing, but must not be others. -/
def read? (kind : Kind) (j : Json) : Option SubResource := do
  let j ← j.asObject?
  j.constant "apiVersion" kind.apiVersion
  j.constant "kind" kind.name
  let metadata ← j.lenient "metadata" ObjectMeta.read? .empty
  let body ← Body.read? j kind
  some ⟨metadata, body⟩

/-- Write an object, its fields in order of keys. -/
def write (o : SubResource) : Json :=
  .record (
    [("apiVersion", some (.str o.kind.apiVersion))] ++ o.body.early ++
    [("kind", some (.str o.kind.name)), ("metadata", some o.metadata.write)] ++ o.body.late)

end SubResource

end RedisControl
