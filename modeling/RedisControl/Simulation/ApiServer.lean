import RedisControl.Api.Client
import RedisControl.Json.Printer
import RedisControl.Table

/-!
# An API server in memory

A server that keeps objects in JSON at their paths. Every change gives an object a new version; a
patch that changes nothing leaves the version alone. The status of an object has a path of its own
and is not part of what a patch of the object compares or writes. Planted replies come first: they
answer requests to one path, as often as they say.

* `ApiServer.handler` : how it answers.
* `ApiServer.run` : run a program against it.
-/

namespace RedisControl

open Api

/-- A reply that is planted for the requests to a path. -/
structure PlantedReply where
  /-- The method that it is for; none for all. -/
  method : Option String
  path : String
  reply : Reply
  /-- How many requests it still answers; none for all. -/
  times : Option Nat

namespace PlantedReply

/-- Whether a planted reply is meant for a request. -/
def fits (p : PlantedReply) (r : Request) : Bool :=
  p.path == r.target.path && p.method.all (· == r.method)

/-- What is left of a planted reply after it has answered a request. -/
def used (p : PlantedReply) : Option PlantedReply :=
  match p.times with
  | none => some p
  | some n => if n ≤ 1 then none else some { p with times := some (n - 1) }

/-- The first planted reply that is meant for a request, and those that are left after it. -/
def take? (r : Request) : List PlantedReply → Option (Reply × List PlantedReply)
  | [] => none
  | p :: rest =>
    if p.fits r then some (p.reply, p.used.toList ++ rest)
    else (take? r rest).map fun (reply, rest) => (reply, p :: rest)

end PlantedReply

/-- An API server that keeps its objects as JSON. -/
structure ApiServer where
  /-- The objects at their paths. -/
  store : Table String Json
  version : Nat
  planted : List PlantedReply
  /-- The requests so far, the last one first. -/
  log : List Request
  clock : Time

namespace ApiServer

/-! ## Objects -/

/-- A reply with a value. -/
def replyOf (code : Nat) (j : Json) : Reply := .answered code j.text

/-- What the server says when there is no object. -/
def notFoundBody (message : String) : Json :=
  .obj [
    ("apiVersion", .str "v1"),
    ("code", .num 404),
    ("kind", .str "Status"),
    ("message", .str message),
    ("reason", .str "NotFound"),
    ("status", .str "Failure")]

/-- The reply for an object that is not there. -/
def notFound : Reply := replyOf 404 (notFoundBody "object not found")

/-- The status of an object; none is the same as null. -/
def statusOf (j : Json) : Json := (j.member? "status").getD .null

/-- What a patch of an object compares and writes: neither its status nor its version. -/
def content (j : Json) : Json :=
  let j := j.eraseMember "status"
  match j.member? "metadata" with
  | none => j
  | some m => j.setMember "metadata" (m.eraseMember "resourceVersion")

/-- The metadata of an object; none if they are missing or null. -/
def metadataOf (j : Json) : Json :=
  match j.member? "metadata" with
  | none | some .null => .obj []
  | some m => m

/-- Store an object under the next version. -/
def storeNext (s : ApiServer) (path : String) (j : Json) : Json × ApiServer :=
  let version := s.version + 1
  let j := j.setMember "metadata"
    ((metadataOf j).setMember "resourceVersion" (.str (toString version)))
  (j, { s with version, store := s.store.put path j })

/-! ## Requests -/

/-- The path of the object whose status lives at a path. -/
def statusOwner? (path : String) : Option String :=
  let part := ['/', 's', 't', 'a', 't', 'u', 's']
  let cs := path.toList
  let n := cs.length - part.length
  if cs.drop n = part then some (String.ofList (cs.take n)) else none

/-- Replace the status of an object. One that it has already makes no new version. -/
def patchStatus (s : ApiServer) (path : String) (body : Json) : Reply × ApiServer :=
  match s.store.get? path with
  | none => (notFound, s)
  | some j =>
    if statusOf body = statusOf j then (replyOf 200 j, s)
    else
      let (j, s) := s.storeNext path (j.setMember "status" (statusOf body))
      (replyOf 200 j, s)

/-- An object with the content of a new one and the status that the old one had. -/
def keepStatus (old : Option Json) (new : Json) : Json :=
  match old.bind (·.member? "status") with
  | none => new
  | some status => new.setMember "status" status

/-- Bring an object into a desired form, but leave its status alone. -/
def patchObject (s : ApiServer) (path : String) (body : Json) : Reply × ApiServer :=
  match s.store.get? path with
  | none =>
    let (j, s) := s.storeNext path (content body)
    (replyOf 201 j, s)
  | some old =>
    if content old = content body then (replyOf 200 old, s)
    else
      let (j, s) := s.storeNext path (keepStatus (some old) (content body))
      (replyOf 200 j, s)

/-- Serve a request from the objects. -/
def serve (s : ApiServer) : Request → Reply × ApiServer
  | .read t =>
    match s.store.get? t.path with
    | none => (notFound, s)
    | some j => (replyOf 200 j, s)
  | .patch t body =>
    match statusOwner? t.path with
    | some path => s.patchStatus path body
    | none => s.patchObject t.path body

/-- The server as a handler: planted replies come before the objects. -/
def handler : Handler Api ApiServer
  | .send r, s =>
    let s := { s with log := r :: s.log }
    match PlantedReply.take? r s.planted with
    | some (reply, planted) => (reply, { s with planted })
    | none => s.serve r
  | .now, s => (s.clock, s)

/-- Run a program, with the requests that it sends in order. -/
def run {α : Type} (p : Program Api α) (s : ApiServer) : α × List Request × ApiServer :=
  let (a, s) := p.run handler { s with log := [] }
  (a, s.log.reverse, s)

end ApiServer

end RedisControl
