import RedisControl.Duration
import RedisControl.Error
import RedisControl.Program
import RedisControl.Redis
import RedisControl.Secret
import RedisControl.SubResource.Basic

/-!
# The cluster as a pass sees it

A pass reads instances and secrets, writes the status of an instance, applies owned objects, and
looks at the clock. Nothing else of the cluster matters to it.

* `Cluster` : the calls and their answers.
-/

namespace RedisControl

/-- What a write did to an object. -/
inductive Change where
  | created
  | updated
  | unchanged
  deriving DecidableEq, Repr

/-- What comes of applying an object. -/
inductive Applied where
  /-- The object in the cluster is as desired; a workload also reports its ready replicas. -/
  | converged (change : Change) (readyReplicas : Option Int32)
  /-- The write did not go through; it should be tried again after a delay. -/
  | pending (after : Duration)
  deriving DecidableEq

namespace Cluster

/-- What a pass can ask of the cluster. -/
inductive Call where
  | getRedis (ns name : String)
  | getSecret (ns name : String)
  /-- Replace the status of an instance by the one it carries. -/
  | patchStatus (r : Redis)
  | apply (o : SubResource)
  | now

/-- What the cluster answers. An instance or a secret may be missing, which is no error. -/
abbrev Answer : Call → Type
  | .getRedis _ _ => Except ControlError (Option Redis)
  | .getSecret _ _ => Except ControlError (Option Secret)
  | .patchStatus _ => Except ControlError Unit
  | .apply _ => Except ControlError Applied
  | .now => Time

end Cluster

/-- The calls to the cluster and their answers. -/
def Cluster : Interface := ⟨Cluster.Call, Cluster.Answer⟩

namespace Cluster

/-- Read an instance. -/
def getRedis (ns name : String) : Program Cluster (Except ControlError (Option Redis)) :=
  .ask (I := Cluster) (.getRedis ns name)

/-- Read a secret. -/
def getSecret (ns name : String) : Program Cluster (Except ControlError (Option Secret)) :=
  .ask (I := Cluster) (.getSecret ns name)

/-- Write the status that an instance carries. -/
def patchStatus (r : Redis) : Program Cluster (Except ControlError Unit) :=
  .ask (I := Cluster) (.patchStatus r)

/-- Bring an owned object into a desired form. -/
def apply (o : SubResource) : Program Cluster (Except ControlError Applied) :=
  .ask (I := Cluster) (.apply o)

def now : Program Cluster Time := .ask (I := Cluster) .now

end Cluster

end RedisControl
