import RedisControl.Api.Discovery

/-!
# Waiting for the resource

Before the controller starts, the server has to serve the resource. It probes until that is so, and
sleeps after every probe that does not find it, twice as long each time, up to a limit. Why a probe
did not find it makes no difference.

* `Wait.ofFindings` : what a wait does, given what its probes find.
-/

namespace RedisControl

open Api

/-- What a wait has come to. -/
structure Wait where
  available : Bool
  /-- The sleeps so far, in seconds. -/
  sleeps : List UInt64
  deriving DecidableEq

namespace Wait

/-- The first sleep in seconds. -/
def firstDelay : UInt64 := 10

/-- The longest sleep in seconds. -/
def maxDelay : UInt64 := 60

/-- The sleep after one of this length. -/
def nextDelay (delay : UInt64) : UInt64 := min (delay * 2) maxDelay

/-- What a wait does whose next sleep has this length, given what its probes find. -/
def onward (delay : UInt64) : List Finding → Wait
  | [] => ⟨false, []⟩
  | .served :: _ => ⟨true, []⟩
  | _ :: rest =>
    let later := onward (nextDelay delay) rest
    ⟨later.available, delay :: later.sleeps⟩

/-- What a wait does, given what its probes find. -/
def ofFindings (findings : List Finding) : Wait := onward firstDelay findings

/-- How long a wait has slept, in seconds. -/
def slept (w : Wait) : Nat := w.sleeps.foldl (fun n delay => n + delay.toNat) 0

end Wait

end RedisControl
