import RedisControl.Agenda
import RedisControl.Schedule
import RedisControl.Simulation.ApiServer
import RedisControl.Watch

/-!
# A controller in virtual time

A whole controller against an API server in memory. Time passes only between passes, and jumps to
whatever comes next: something that happens from outside, or an instance that is due. What happens
from outside comes first. The writes of the controller itself are not seen by its watches.

* `Rehearsal.start` : the controller when it has listed the instances.
* `rehearse` : a whole run up to an end.
* `Rehearsal.visits` : how often which instance was read in which second.
-/

namespace RedisControl

open Api

/-- What can happen from outside. -/
inductive Happening where
  | replant (planted : List PlantedReply)
  | write (path : String) (object : Json)
  /-- The object at a path is deleted; this is what it was. -/
  | delete (path : String) (object : Json)

/-- Happenings in the order given. One whose time has passed by then happens at once. -/
def Happening.inOrder (now : Duration) :
    List (Duration × Happening) → List (Duration × Happening)
  | [] => []
  | (time, h) :: rest =>
    let time := if time.millis < now.millis then now else time
    (time, h) :: inOrder time rest

/-- A controller in virtual time. -/
structure Rehearsal where
  settings : Settings
  server : ApiServer
  known : Table InstanceRef Redis
  agenda : Agenda InstanceRef
  /-- When which instance was read, the last time first. -/
  reads : List (Duration × String)

namespace Rehearsal

/-- Whether the settings let a namespace be watched. -/
def watches (settings : Settings) (ns : String) : Bool := settings.watchNamespace.all (· == ns)

/-- Get to know an instance. One without a name cannot be kept. -/
def meet (s : Rehearsal) (r : Redis) : Rehearsal :=
  match r.ref? with
  | none => s
  | some ref => { s with known := s.known.put ref r }

/-- Make instances due. -/
def call (s : Rehearsal) (time : Duration) (refs : List InstanceRef) : Rehearsal :=
  { s with agenda := refs.foldl (fun a ref => a.enter time ref) s.agenda }

/-! ## The start -/

/-- The instances of a server that can be seen. If one of them cannot be read, none can. -/
def listed (settings : Settings) (server : ApiServer) : List Redis :=
  ((server.store.entries.filter fun e =>
    ((Resource.redises.place? e.1).any fun place => watches settings place.1)).mapM fun e =>
      Redis.read? e.2).getD []

/-- The controller when it has listed the instances. All of them are due. -/
def start (settings : Settings) (server : ApiServer) : Rehearsal :=
  let redises := listed settings server
  let s := redises.foldl meet ⟨settings, server, .empty, .empty, []⟩
  s.call .zero (redises.filterMap Redis.ref?)

/-! ## What happens from outside -/

/-- Look at an object that was seen at a path. -/
def observe (s : Rehearsal) (time : Duration) (deleted : Bool) (path : String) (object : Json) :
    Rehearsal :=
  match Seen.read? path object with
  | none => s
  | some (ns, seen) =>
    if watches s.settings ns then
      let s := match seen with
        | .redis r =>
          if deleted then { s with known := (r.ref?.map s.known.erase).getD s.known } else s.meet r
        | _ => s
      s.call time (seen.concerns s.known)
    else s

/-- The object that is stored when one is written from outside. An instance keeps its status. -/
def stored (s : Rehearsal) (path : String) (object : Json) : Json :=
  if (Resource.redises.place? path).isSome then
    ApiServer.keepStatus (s.server.store.get? path) object
  else object

/-- Let something happen at the server, and let the controller see it. -/
def happen (s : Rehearsal) (time : Duration) : Happening → Rehearsal
  | .replant planted => { s with server.planted := planted }
  | .write path object =>
    let (object, server) := s.server.storeNext path (s.stored path object)
    { s with server }.observe time false path object
  | .delete path object =>
    let server := { s.server with store := s.server.store.erase path }
    { s with server }.observe time true path object

/-! ## Passes -/

/-- The instance that a request reads. -/
def readBy? : Request → Option String
  | .read t => (Resource.redises.place? t.path).map fun (ns, name) => ns ++ "/" ++ name
  | .patch _ _ => none

/-- Run a pass over an instance at a time, and make it due again. -/
def visit (s : Rehearsal) (time : Duration) (ref : InstanceRef) : Rehearsal :=
  let s := { s with agenda := s.agenda.strike ref }
  match s.known.get? ref with
  | none => s
  | some r =>
    let (action, requests, server) :=
      s.server.run (overApi s.settings.subresourceTimeout (reconcile s.settings r))
    let reads := (requests.filterMap readBy?).map fun id => (time, id)
    let s := { s with server, reads := reads.reverse ++ s.reads }
    match action with
    | .awaitChange => s
    | .requeue after => s.call ⟨time.millis + after.millis⟩ [ref]

/-! ## Running -/

/-- Run up to an end. What happens from outside at the end still counts, a pass that is due then
does not. Every step uses up fuel, which bounds a run that stands still. -/
def run (finish : Duration) : Nat → List (Duration × Happening) → Rehearsal → Rehearsal
  | 0, _, s => s
  | fuel + 1, upcoming, s =>
    let visitNext (s : Rehearsal) : Rehearsal :=
      match s.agenda.next? with
      | none => s
      | some (time, ref) =>
        if finish.millis ≤ time.millis then s
        else run finish fuel upcoming (s.visit time ref)
    match upcoming with
    | [] => visitNext s
    | (time, h) :: rest =>
      if finish.millis < time.millis ∨
          s.agenda.next?.any (fun e => e.1.millis < time.millis) then visitNext s
      else run finish fuel rest (s.happen time h)

/-! ## Results -/

/-- Count one more for a key. -/
def count (t : Table (Nat × String) Nat) (key : Nat × String) : Table (Nat × String) Nat :=
  t.put key ((t.get? key).getD 0 + 1)

/-- How often which instance was read in which second, in order of seconds and names. -/
def visits (s : Rehearsal) : List ((Nat × String) × Nat) :=
  ((s.reads.map fun (time, id) => (time.seconds, id)).foldl count .empty).entries.mergeSort
    fun a b => a.1.1 < b.1.1 ∨ a.1.1 = b.1.1 ∧ ¬ b.1.2 < a.1.2

/-- The statuses of the instances at the end, at their paths. -/
def statuses (s : Rehearsal) : List (String × Json) :=
  (s.server.store.entries.filter fun e => (Resource.redises.place? e.1).isSome).map fun e =>
    (e.1, ApiServer.statusOf e.2)

end Rehearsal

/-- A whole run up to an end. In one second an instance settles after few passes, which bounds the
number of steps. -/
def rehearse (settings : Settings) (server : ApiServer) (finish : Duration)
    (upcoming : List (Duration × Happening)) : Rehearsal :=
  let s := Rehearsal.start settings server
  let instances := s.known.entries.length + upcoming.length + 1
  let moments := finish.seconds + upcoming.length + 1
  s.run finish (8 * instances * moments) (Happening.inOrder .zero upcoming)

end RedisControl
