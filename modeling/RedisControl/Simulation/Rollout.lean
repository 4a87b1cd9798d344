import RedisControl.Simulation.ApiServer
import RedisControl.Wait

/-!
# A server that is being set up

A server whose replies change from one probe to the next, until they stay as they are in the end.
It serves to rehearse the wait for the resource, in virtual time and up to a limit.

* `Rollout.handler` : how it answers.
* `Rollout.wait` : a wait against it.
-/

namespace RedisControl

open Api

/-- A server that is being set up. -/
structure Rollout where
  /-- The replies at their paths, probe after probe; the last ones stay. -/
  stages : List (Table String Reply)
  probes : Nat
  /-- The requests so far, each with the number of its probe, the last one first. -/
  log : List (Nat × Request)

namespace Rollout

/-- The server before the first request. -/
def start (stages : List (Table String Reply)) : Rollout := ⟨stages, 0, []⟩

/-- The path of the request that a probe begins with. -/
def firstPath : String := "/apis"

/-- The replies during the current probe. -/
def current (s : Rollout) : Table String Reply :=
  ((s.stages.drop (s.probes - 1)).head?.or s.stages.getLast?).getD .empty

/-- The reply at a path that has none. -/
def notServed : Reply := ApiServer.replyOf 404 (ApiServer.notFoundBody "not served")

/-- The server as a handler. The request that a probe begins with moves it on. -/
def handler : Handler Api Rollout
  | .send r, s =>
    let probes := if r.target.path = firstPath then s.probes + 1 else s.probes
    let s := { s with probes, log := (probes, r) :: s.log }
    ((s.current.get? r.target.path).getD notServed, s)
  | .now, s => ("", s)

/-- What the probes of a wait find up to a limit, from a number of seconds on, with the sleep that comes
next. Every sleep takes ten seconds or more, which bounds their number. -/
def findingsUntil (limit : Nat) : Nat → Nat → UInt64 → Rollout → List Finding × Rollout
  | 0, _, _, s => ([], s)
  | fuel + 1, elapsed, delay, s =>
    if limit < elapsed then ([], s)
    else match probe.run handler s with
      | (.served, s) => ([.served], s)
      | (found, s) =>
        let (later, s) :=
          findingsUntil limit fuel (elapsed + delay.toNat) (Wait.nextDelay delay) s
        (found :: later, s)

/-- A wait against the server, up to a limit in seconds. -/
def wait (limit : Nat) (s : Rollout) : Wait × Rollout :=
  let (findings, s) := findingsUntil limit (limit / 10 + 1) 0 Wait.firstDelay s
  (Wait.ofFindings findings, s)

end Rollout

end RedisControl
