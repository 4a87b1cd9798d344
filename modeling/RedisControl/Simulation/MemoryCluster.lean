import RedisControl.Cluster
import RedisControl.SubResource.Json
import RedisControl.Table

/-!
# A cluster in memory

A cluster that keeps everything in tables, answers at once and writes down every call. Faults can
be planted: calls that then fail or stay pending. It serves to rehearse passes.

* `MemoryCluster.handler` : how it answers calls.
* `MemoryCluster.run` : run a program against it.
-/

namespace RedisControl

/-- What a call does, as far as faults and the log are concerned. -/
inductive Operation where
  | get
  | status
  | apply
  deriving DecidableEq, Repr

/-- The name of an operation. -/
def Operation.name : Operation → String
  | .get => "get"
  | .status => "status"
  | .apply => "apply"

def Operation.ofName? (s : String) : Option Operation :=
  [.get, .status, .apply].find? fun o : Operation => o.name == s

/-- A call with the object it is about. -/
structure CallSite where
  operation : Operation
  kind : String
  ns : String
  name : String
  deriving DecidableEq

/-- A call in one line. -/
def CallSite.text (c : CallSite) : String :=
  c.operation.name ++ " " ++ c.kind ++ " " ++ c.ns ++ "/" ++ c.name

/-- A planted fault. What it leaves open fits every call. -/
structure Fault where
  operation : Option Operation
  kind : Option String
  name : Option String
  error : Option ControlError
  /-- The delay with which a write stays pending. -/
  pending : Option Duration

/-- Whether a fault is meant for a call. -/
def Fault.fits (f : Fault) (c : CallSite) : Bool :=
  f.operation.all (· == c.operation) && f.kind.all (· == c.kind) && f.name.all (· == c.name)

/-- A cluster that keeps its objects in memory and can be made to fail. -/
structure MemoryCluster where
  redises : Table (String × String) Redis
  secrets : Table (String × String) Secret
  /-- The owned objects in their JSON form. -/
  objects : Table Handle Json
  readyReplicas : Option Int32
  faults : List Fault
  /-- The calls so far, the last one first. -/
  log : List String
  clock : Time

namespace MemoryCluster

def empty (clock : Time) : MemoryCluster := ⟨.empty, .empty, .empty, none, [], [], clock⟩

/-- The key under which an object with some metadata is kept. -/
def keyOf (m : ObjectMeta) : String × String := (m.ns.getD "", m.nameOrGenerated)

/-- Put an instance in place. -/
def putRedis (m : MemoryCluster) (r : Redis) : MemoryCluster :=
  { m with redises := m.redises.put (keyOf r.metadata) r }

/-- Replace the spec of the instance that is stored under a key, if there is one. -/
def putSpec (m : MemoryCluster) (key : String × String) (spec : Spec) : MemoryCluster :=
  match m.redises.get? key with
  | none => m
  | some r => { m with redises := m.redises.put key { r with spec } }

/-- Put a secret in place. -/
def putSecret (m : MemoryCluster) (s : Secret) : MemoryCluster :=
  { m with secrets := m.secrets.put (keyOf s.metadata) s }

/-- Write down a call and what became of it. -/
def note (m : MemoryCluster) (c : CallSite) (suffix : String) : MemoryCluster :=
  { m with log := (c.text ++ suffix) :: m.log }

/-- The first fault that is meant for a call. -/
def fault? (m : MemoryCluster) (c : CallSite) : Option Fault := m.faults.find? (·.fits c)

/-- Answer a call that a fault may fail. -/
def failOr {α : Type} (c : CallSite)
    (answer : MemoryCluster → Except ControlError α × MemoryCluster) (m : MemoryCluster) :
    Except ControlError α × MemoryCluster :=
  match (m.fault? c).bind (·.error) with
  | some e => (.error e, m.note c ": failed")
  | none => answer m

/-- Replace the status of the instance that is stored, if there is one. -/
def storeStatus (m : MemoryCluster) (r : Redis) : MemoryCluster :=
  match m.redises.get? (keyOf r.metadata) with
  | none => m
  | some stored =>
    { m with redises := m.redises.put (keyOf r.metadata) { stored with status := r.status } }

/-- What applying an object does to what is stored. -/
def change (stored : Option Json) (desired : Json) : Change :=
  match stored with
  | none => .created
  | some j => if j = desired then .unchanged else .updated

/-- The name of a change. -/
def changeName : Change → String
  | .created => "created"
  | .updated => "updated"
  | .unchanged => "unchanged"

/-- Keep an object in its desired form, and tell what that changed. -/
def store (c : CallSite) (o : SubResource) (m : MemoryCluster) :
    Except ControlError Applied × MemoryCluster :=
  let change := change (m.objects.get? o.handle) o.write
  let ready := if o.kind = .statefulSet then m.readyReplicas else none
  (.ok (.converged change ready),
    { m with objects := m.objects.put o.handle o.write }.note c (": " ++ changeName change))

/-- The cluster as a handler. -/
def handler : Handler Cluster MemoryCluster
  | .getRedis ns name, m =>
    let c : CallSite := ⟨.get, Redis.kind, ns, name⟩
    m.failOr c fun m => (.ok (m.redises.get? (ns, name)), m.note c "")
  | .getSecret ns name, m =>
    let c : CallSite := ⟨.get, "Secret", ns, name⟩
    m.failOr c fun m => (.ok (m.secrets.get? (ns, name)), m.note c "")
  | .patchStatus r, m =>
    let c : CallSite := ⟨.status, Redis.kind, r.metadata.ns.getD "", r.name⟩
    m.failOr c fun m => (.ok (), (m.storeStatus r).note c "")
  | .apply o, m =>
    let c : CallSite := ⟨.apply, o.kind.name, o.handle.ns, o.handle.name⟩
    m.failOr c fun m =>
      match (m.fault? c).bind (·.pending) with
      | some after => (.ok (.pending after), m.note c ": pending")
      | none => store c o m
  | .now, m => (m.clock, m)

/-- Run a program, with the calls that it makes in order. -/
def run {α : Type} (p : Program Cluster α) (m : MemoryCluster) :
    α × List String × MemoryCluster :=
  let (a, m) := p.run handler { m with log := [] }
  (a, m.log.reverse, m)

end MemoryCluster

end RedisControl
