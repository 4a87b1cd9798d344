import RedisControl.Meta

/-!
# Owned objects

The objects that the controller keeps in the cluster for an instance. Each consists of metadata
and a body of one of six kinds. A field that may be absent is an `Option`.

* `SubResource.handle` : kind, namespace and name, by which an owned object is known.
-/

namespace RedisControl

/-! ## Permissions -/

/-- A set of actions on a set of resources. -/
structure PolicyRule where
  apiGroups : Option (List String) := none
  nonResourceUrls : Option (List String) := none
  resourceNames : Option (List String) := none
  resources : Option (List String) := none
  verbs : List String := []
  deriving DecidableEq

/-- The role that a binding grants. -/
structure RoleRef where
  apiGroup : String := ""
  kind : String := ""
  name : String := ""
  deriving DecidableEq

/-- One to whom a binding grants a role. -/
structure Subject where
  apiGroup : Option String := none
  kind : String := ""
  name : String := ""
  ns : Option String := none
  deriving DecidableEq

/-! ## Services -/

/-- A port given by number or by name. -/
inductive PortRef where
  | number (n : Int32)
  | name (s : String)
  deriving DecidableEq

/-- A port of a service, and the port of the pods behind it. -/
structure ServicePort where
  name : Option String := none
  port : Int32 := 0
  protocol : Option String := none
  targetPort : Option PortRef := none
  deriving DecidableEq

/-- How a service selects its pods and offers them. -/
structure ServiceSpec where
  clusterIp : Option String := none
  ports : Option (List ServicePort) := none
  publishNotReadyAddresses : Option Bool := none
  selector : Option (StringMap String) := none
  type : Option String := none
  deriving DecidableEq

/-! ## Workloads -/

/-- The config map that a volume shows, and with which permissions. -/
structure ConfigMapSource where
  defaultMode : Option Int32 := none
  name : String := ""
  deriving DecidableEq

/-- The secret that a volume shows, and with which permissions. -/
structure SecretSource where
  defaultMode : Option Int32 := none
  secretName : Option String := none
  deriving DecidableEq

/-- Files that a pod may mount, from a config map or a secret. -/
structure Volume where
  configMap : Option ConfigMapSource := none
  name : String := ""
  secret : Option SecretSource := none
  deriving DecidableEq

/-- Where a container mounts a volume. -/
structure VolumeMount where
  mountPath : String := ""
  name : String := ""
  readOnly : Option Bool := none
  deriving DecidableEq

/-- A port that a container listens on. -/
structure ContainerPort where
  containerPort : Int32 := 0
  name : Option String := none
  deriving DecidableEq

/-- A command that is run inside a container. -/
structure ExecAction where
  command : Option (List String) := none
  deriving DecidableEq

/-- How a container is asked whether it is ready. -/
structure Probe where
  exec : Option ExecAction := none
  initialDelaySeconds : Option Int32 := none
  periodSeconds : Option Int32 := none
  timeoutSeconds : Option Int32 := none
  deriving DecidableEq

/-- A container of a pod. -/
structure Container where
  command : Option (List String) := none
  image : Option String := none
  name : String := ""
  ports : Option (List ContainerPort) := none
  readinessProbe : Option Probe := none
  volumeMounts : Option (List VolumeMount) := none
  deriving DecidableEq

/-- What the pods of a workload run. -/
structure PodSpec where
  containers : List Container := []
  serviceAccountName : Option String := none
  volumes : Option (List Volume) := none
  deriving DecidableEq

/-- What the pods of a workload are made from. -/
structure PodTemplate where
  metadata : Option ObjectMeta := none
  spec : Option PodSpec := none
  deriving DecidableEq

/-- The labels by which pods are known. -/
structure LabelSelector where
  matchLabels : Option (StringMap String) := none
  deriving DecidableEq

/-- What a workload is asked to run. -/
structure StatefulSetSpec where
  podManagementPolicy : Option String := none
  replicas : Option Int32 := none
  selector : LabelSelector := {}
  serviceName : String := ""
  template : PodTemplate := {}
  deriving DecidableEq

/-- What the cluster reports about a workload. -/
structure StatefulSetStatus where
  readyReplicas : Option Int32 := none
  replicas : Int32 := 0
  deriving DecidableEq

/-! ## Owned objects -/

/-- The kinds of owned objects. -/
inductive Kind where
  | serviceAccount
  | role
  | roleBinding
  | configMap
  | service
  | statefulSet
  deriving DecidableEq, Repr

/-- What an owned object consists of besides its metadata. -/
inductive Body where
  | serviceAccount
  | role (rules : Option (List PolicyRule))
  | roleBinding (roleRef : RoleRef) (subjects : Option (List Subject))
  | configMap (data : Option (StringMap String))
  | service (spec : Option ServiceSpec)
  | statefulSet (spec : Option StatefulSetSpec) (status : Option StatefulSetStatus)
  deriving DecidableEq

/-- An object that the controller keeps for an instance. -/
structure SubResource where
  metadata : ObjectMeta
  body : Body
  deriving DecidableEq

namespace Kind

/-- All kinds, in the order of the type. -/
def all : List Kind := [.serviceAccount, .role, .roleBinding, .configMap, .service, .statefulSet]

/-- The name of a kind in JSON. -/
def name : Kind → String
  | .serviceAccount => "ServiceAccount"
  | .role => "Role"
  | .roleBinding => "RoleBinding"
  | .configMap => "ConfigMap"
  | .service => "Service"
  | .statefulSet => "StatefulSet"

/-- The version of the API that serves a kind. -/
def apiVersion : Kind → String
  | .serviceAccount | .configMap | .service => "v1"
  | .role | .roleBinding => "rbac.authorization.k8s.io/v1"
  | .statefulSet => "apps/v1"

/-- The kind with a name. -/
def ofName? (s : String) : Option Kind := all.find? fun k => k.name == s

@[simp] theorem ofName?_name (k : Kind) : ofName? k.name = some k := by cases k <;> decide

end Kind

/-- The kind of an object with this body. -/
def Body.kind : Body → Kind
  | .serviceAccount => .serviceAccount
  | .role _ => .role
  | .roleBinding _ _ => .roleBinding
  | .configMap _ => .configMap
  | .service _ => .service
  | .statefulSet _ _ => .statefulSet

/-- A reference to an owned object. -/
structure Handle where
  kind : Kind
  ns : String
  name : String
  deriving DecidableEq

namespace Handle

/-- A handle in one line. -/
def text (h : Handle) : String := h.kind.name ++ " " ++ h.ns ++ "/" ++ h.name

/-- Whether a handle comes before another or equals it: by kind, namespace and name. -/
def le (a b : Handle) : Bool :=
  a.kind.name < b.kind.name ∨ a.kind.name = b.kind.name ∧
    (a.ns < b.ns ∨ a.ns = b.ns ∧ ¬ b.name < a.name)

/-- Handles in order. -/
def sort (hs : List Handle) : List Handle := hs.mergeSort le

end Handle

namespace SubResource

/-- The kind of an owned object. -/
def kind (o : SubResource) : Kind := o.body.kind

/-- The handle of an owned object; what its metadata lacks is empty. -/
def handle (o : SubResource) : Handle :=
  ⟨o.kind, o.metadata.ns.getD "", o.metadata.name.getD ""⟩

/-- The number of replicas that a workload reports as ready. -/
def readyReplicas? (o : SubResource) : Option Int32 :=
  match o.body with
  | .statefulSet _ status => some ((status.bind (·.readyReplicas)).getD 0)
  | _ => none

end SubResource

end RedisControl
