/-!
# Goals

The eight conditions that the controller declares for an instance: that it is ready as a whole,
and one for each part of the work. Each has a type and the messages that it shows before the work
has started, while the cluster has not gone along yet, and when the part is done.

* `Goal.all` : the goals in the order in which they are declared.
-/

namespace RedisControl

/-- A condition that the controller decides. -/
inductive Goal where
  | ready
  | tlsInput
  | exposeService
  | serviceConfig
  | deployment
  | serviceAccount
  | role
  | roleBinding
  deriving DecidableEq, Repr

namespace Goal

/-- All goals, in the order in which they are declared. -/
def all : List Goal :=
  [.ready, .tlsInput, .exposeService, .serviceConfig, .deployment, .serviceAccount, .role,
    .roleBinding]

/-- The type of the condition that shows a goal. -/
def type : Goal → String
  | .ready => "Ready"
  | .tlsInput => "TLSInputReady"
  | .exposeService => "ExposeServiceReady"
  | .serviceConfig => "ServiceConfigReady"
  | .deployment => "DeploymentReady"
  | .serviceAccount => "ServiceAccountReady"
  | .role => "RoleReady"
  | .roleBinding => "RoleBindingReady"

/-- The message of a goal that nobody has worked on. -/
def initialMessage : Goal → String
  | .ready => "Setup started"
  | .tlsInput => "Input data not checked"
  | .exposeService => "Exposing service not started"
  | .serviceConfig => "Service config create not started"
  | .deployment => "Deployment not started"
  | .serviceAccount => "ServiceAccount create not started"
  | .role => "Role create not started"
  | .roleBinding => "RoleBinding create not started"

/-- The message of a goal that is reached. -/
def readyMessage : Goal → String
  | .ready => "Setup complete"
  | .tlsInput => "Input data complete"
  | .exposeService => "Exposing service completed"
  | .serviceConfig => "Service config create completed"
  | .deployment => "Deployment completed"
  | .serviceAccount => "ServiceAccount created"
  | .role => "Role created"
  | .roleBinding => "RoleBinding created"

theorem mem_all (g : Goal) : g ∈ all := by cases g <;> decide

theorem type_injective {g h : Goal} (he : g.type = h.type) : g = h := by
  cases g <;> cases h <;> first | rfl | (exact absurd he (by decide))

end Goal

/-! ## Reasons -/

namespace Reason

/-- The reason while nobody has worked on a goal. -/
def init : String := "Init"

/-- The reason once a goal is reached. -/
def ready : String := "Ready"

/-- The reason when the way to a goal is blocked. -/
def error : String := "Error"

/-- The cluster was asked and has not gone along yet. -/
def requested : String := "Requested"

end Reason

/-! ## Messages for work under way -/

namespace Progress

/-- The message while services are waited for. -/
def exposeService : String := "Exposing service in progress"

/-- The message while config maps are waited for. -/
def serviceConfig : String := "Service config create in progress"

/-- The message while replicas are waited for. -/
def deployment : String := "Deployment in progress"

end Progress

end RedisControl
