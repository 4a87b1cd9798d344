import RedisControl.Api.Reply
import RedisControl.Api.Request
import RedisControl.Cluster
import RedisControl.SubResource.Json

/-!
# The cluster behind an API server

Each call of a pass becomes requests to the API server. Reading is one request. Applying an object
reads it first and then patches it, always: the server leaves the version of an object alone if the
patch changes nothing, so two versions tell an update from none. A write that meets a conflict, or
an object that has just gone, is left for later.

* `Api` : requests, and the clock.
* `applyObject` : apply an owned object.
* `answer` : the requests behind each call.
* `overApi` : a program over the cluster as one over the API server.
-/

namespace RedisControl

namespace Api

/-- What can be asked of an API server. -/
inductive Call where
  | send (request : Request)
  | now

/-- A reply to a request, and the time. -/
abbrev Answer : Call → Type
  | .send _ => Reply
  | .now => Time

end Api

/-- Requests to an API server and its replies, and a clock. -/
def Api : Interface := ⟨Api.Call, Api.Answer⟩

namespace Api

def send (request : Request) : Program Api Reply := .ask (I := Api) (.send request)

def now : Program Api Time := .ask (I := Api) .now

/-! ## Single requests -/

/-- Send a request, if it could be built, and read the reply. -/
def fetch {α : Type} (read : Json → Option α) :
    Except RequestFault Request → Program Api (Except ClientError α)
  | .error fault => .done (.error (.request fault))
  | .ok request => (send request).bind fun reply => .done (reply.decode read)

/-- Read an object that may not be there. -/
def get {α : Type} (read : Json → Option α) (r : Resource) (ns name : String) :
    Program Api (Except ClientError (Option α)) :=
  (fetch read (Request.read? r ns name)).bind fun answer => .done (absentOr answer)

/-- Bring an object into a desired form; the answer is the object afterwards. -/
def patch {α : Type} (read : Json → Option α) (r : Resource) (ns name : String) (body : Json) :
    Program Api (Except ClientError α) :=
  fetch read (Request.patch? r ns name "" body)

/-! ## Writing the status -/

/-- The form that carries nothing but a status. -/
def statusBody (status : Option Status) : Json :=
  .obj [
    ("apiVersion", .str Redis.apiVersion),
    ("kind", .str Redis.kind),
    ("status", (status.map Status.write).getD .null)]

/-- What the answer to a status write means: an instance that has gone needs no status. -/
def statusWritten : Except ClientError Redis → Except ControlError Unit
  | .ok _ => .ok ()
  | .error e => if (ControlError.client e).isNotFound then .ok () else .error (.client e)

/-- Write the status of an instance; the rest of it is left alone. -/
def patchStatus (r : Redis) : Program Api (Except ControlError Unit) :=
  match r.metadata.ns with
  | none => .done (.error (.missingKey "metadata.namespace"))
  | some ns =>
    (fetch Redis.read? (Request.patch? .redises ns r.name "/status" (statusBody r.status))).bind
      fun answer => .done (statusWritten answer)

/-! ## Applying objects -/

/-- What a write did to an object, judged by the object before, if there was one, and after. -/
def changeBetween : Option SubResource → SubResource → Change
  | none, _ => .created
  | some before, after =>
    if before.metadata.resourceVersion = after.metadata.resourceVersion then .unchanged
    else .updated

/-- What an error means for a write: a conflict or a missing object lets it wait. -/
def postponed (timeout : Duration) (e : ControlError) : Except ControlError Applied :=
  if e.isConflict || e.isNotFound then .ok (.pending timeout) else .error e

/-- Read an object that has a name and a namespace, then bring it into the desired form. -/
def applyNamed (timeout : Duration) (o : SubResource) (ns name : String) :
    Program Api (Except ControlError Applied) := do
  match ← get (SubResource.read? o.kind) (.ofKind o.kind) ns name with
  | .error e => return postponed timeout (.client e)
  | .ok before =>
    match ← patch (SubResource.read? o.kind) (.ofKind o.kind) ns name o.write with
    | .error e => return postponed timeout (.client e)
    | .ok after => return .ok (.converged (changeBetween before after) after.readyReplicas?)

/-- Bring an object into the desired form. One without name or namespace is not asked for at all. -/
def applyObject (timeout : Duration) (o : SubResource) :
    Program Api (Except ControlError Applied) :=
  match o.metadata.name, o.metadata.ns with
  | none, _ => .done (.error (.missingKey "metadata.name"))
  | some _, none => .done (.error (.missingKey "metadata.namespace"))
  | some name, some ns => applyNamed timeout o ns name

/-! ## All calls -/

/-- The requests behind a call. -/
def answer (timeout : Duration) : (c : Cluster.Call) → Program Api (Cluster.Answer c)
  | .getRedis ns name =>
    (get Redis.read? .redises ns name).bind fun a => .done (a.mapError .client)
  | .getSecret ns name =>
    (get Secret.read? .secrets ns name).bind fun a => .done (a.mapError .client)
  | .patchStatus r => patchStatus r
  | .apply o => applyObject timeout o
  | .now => now

/-- A program over the cluster as a program over the API server. -/
def overApi {α : Type} (timeout : Duration) (p : Program Cluster α) : Program Api α :=
  p.lower (answer timeout)

end Api

end RedisControl
