import RedisControl.Duration
import RedisControl.Text.Decimal

/-!
# Settings

What an operator of the cluster can set from outside, through environment variables: the namespace
to watch, the default image, and three durations in seconds. An unset variable means the default,
and so does an empty namespace or image; an empty duration is an error.

* `Settings.ofLookup` : the settings of an environment, or the first variable that is wrong.
-/

namespace RedisControl

/-- What can be set from outside. -/
structure Settings where
  watchNamespace : Option String
  defaultImage : String
  /-- How long after a converged pass to look again. -/
  resyncInterval : Duration
  /-- How long after a failed pass to try again. -/
  errorRequeue : Duration
  /-- How long to wait after a write that did not go through. -/
  subresourceTimeout : Duration
  deriving DecidableEq

namespace Settings

/-- The settings of an environment in which nothing is set. -/
def default : Settings where
  watchNamespace := none
  defaultImage := "docker.io/library/redis:7.2"
  resyncInterval := .ofSeconds 300
  errorRequeue := .ofSeconds 60
  subresourceTimeout := .ofSeconds 5

end Settings

/-! ## The environment -/

/-- A variable whose text is no number of seconds. -/
structure SettingsError where
  key : String
  text : String
  fault : Text.Decimal.Fault
  deriving DecidableEq

/-- What is said of a variable that is no duration. -/
def SettingsError.message (e : SettingsError) : String :=
  e.key ++ " must be a number of seconds, got '" ++ e.text ++ "': " ++ e.fault.message

namespace Settings

/-- The variable with the namespace to watch. -/
def namespaceKey : String := "WATCH_NAMESPACE"

/-- The variable with the default image. -/
def imageKey : String := "REDIS_DEFAULT_IMAGE"

/-- The variable with the interval between converged passes. -/
def resyncKey : String := "RESYNC_INTERVAL_SECS"

/-- The variable with the delay after a failed pass. -/
def errorKey : String := "ERROR_REQUEUE_SECS"

/-- The variable with the delay after a write that did not go through. -/
def timeoutKey : String := "SUBRESOURCE_TIMEOUT_SECS"

/-- The duration that a variable gives, or the default where it is unset. -/
def duration (lookup : String → Option String) (key : String) (unset : Duration) :
    Except SettingsError Duration :=
  match lookup key with
  | none => .ok unset
  | some text =>
    match Text.Decimal.read Text.Decimal.bound64 text.toList with
    | .ok n => .ok (.ofSeconds n)
    | .error fault => .error ⟨key, text, fault⟩

/-- The text that a variable gives, if it is set and not empty. -/
def nonEmpty (lookup : String → Option String) (key : String) : Option String :=
  (lookup key).filter (· != "")

/-- The settings that an environment gives. The first duration that cannot be read is the error. -/
def ofLookup (lookup : String → Option String) : Except SettingsError Settings := do
  let resyncInterval ← duration lookup resyncKey default.resyncInterval
  let errorRequeue ← duration lookup errorKey default.errorRequeue
  let subresourceTimeout ← duration lookup timeoutKey default.subresourceTimeout
  return {
    watchNamespace := nonEmpty lookup namespaceKey
    defaultImage := (nonEmpty lookup imageKey).getD default.defaultImage
    resyncInterval, errorRequeue, subresourceTimeout }

end Settings

end RedisControl
