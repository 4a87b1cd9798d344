import RedisControl.Pass

/-!
# When to look at an instance again

After every pass the scheduler learns when the next one is due, unless the instance is gone. A
pass that failed is tried again after the interval for errors.

* `Outcome.toAction` : what the outcome of a pass means for the scheduler.
* `reconcile` : what the scheduler runs for an instance that it knows.
-/

namespace RedisControl

/-- What the scheduler does next about an instance. -/
inductive Action where
  | awaitChange
  | requeue (after : Duration)
  deriving DecidableEq

/-- What an outcome means for the scheduler. -/
def Outcome.toAction (resyncInterval : Duration) : Outcome → Action
  | .stop => .awaitChange
  | .done => .requeue resyncInterval
  | .requeue => .requeue .zero
  | .requeueAfter after => .requeue after

/-- What a pass that ended like this means for the scheduler. -/
def Ending.toAction (settings : Settings) : Ending → Action
  | .ok outcome => outcome.toAction settings.resyncInterval
  | .error _ => .requeue settings.errorRequeue

/-- One step of the scheduler for an instance that it knows: a pass, if the instance has a
namespace, and what to do next. -/
def reconcile (settings : Settings) (known : Redis) : Program Cluster Action := do
  match known.metadata.ns with
  | none => return Ending.toAction settings (.error (.missingKey "metadata.namespace"))
  | some ns => return Ending.toAction settings (← pass settings ns known.name)

end RedisControl
