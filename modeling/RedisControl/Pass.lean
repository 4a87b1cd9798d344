import RedisControl.Owned.Permissions
import RedisControl.Owned.Workload
import RedisControl.TlsInput

/-!
# A pass over an instance

A pass brings the cluster closer to what the spec of an instance asks for. It goes through its
steps in order and ends at the first that is not in place: permissions, TLS inputs, config maps,
the comparison of the input hash with the record, services, the workload. Every step enters its
verdict in the ledger. However the steps end, the pass then derives `Ready` and writes the status,
unless it is what it was; an error of this write is the result of the pass.

* `Step` : a part of a pass, which works on the status and may end the pass.
* `converge` : all steps.
* `pass` : a whole pass.
-/

namespace RedisControl

/-- What the scheduler should do after a pass. -/
inductive Outcome where
  | stop
  /-- Look again after the usual interval. -/
  | done
  | requeue
  | requeueAfter (after : Duration)
  deriving DecidableEq

/-- How a pass ends. -/
abbrev Ending := Except ControlError Outcome

/-- Whether a step goes on to the next or ends the pass. -/
inductive Progress (α : Type) where
  | proceed (a : α)
  | finish (e : Ending)

/-- A part of a pass: it works on the status, may call the cluster, and may end the pass. -/
def Step (α : Type) : Type := Status → Program Cluster (Progress α × Status)

namespace Step

variable {α β : Type}

/-- Go on with a value. -/
def proceed (a : α) : Step α := fun s => .done (.proceed a, s)

/-- End the pass. -/
def finish (e : Ending) : Step α := fun s => .done (.finish e, s)

/-- One step after another; nothing comes after the end. -/
def bind (p : Step α) (f : α → Step β) : Step β := fun s =>
  (p s).bind fun
    | (.proceed a, s) => f a s
    | (.finish e, s) => .done (.finish e, s)

instance : Monad Step where
  pure := proceed
  bind := bind

/-- Run a program that does not touch the status. -/
def lift (p : Program Cluster α) : Step α := fun s => p.bind fun a => .done (.proceed a, s)

/-- Go on with a value that could be built, or end the pass with the error. -/
def ofExcept : Except ControlError α → Step α
  | .ok a => proceed a
  | .error e => finish (.error e)

/-- The recorded hashes. -/
def recorded : Step (StringMap String) := fun s => .done (.proceed s.hash, s)

/-- Record hashes. -/
def record (hash : StringMap String) : Step Unit := fun s => .done (.proceed (), { s with hash })

/-- Change the ledger, with the reading of the clock. -/
def modifyLedger (f : Time → Ledger → Ledger) : Step Unit := fun s =>
  Cluster.now.bind fun t => .done (.proceed (), { s with conditions := f t s.conditions })

/-- Enter that a goal is reached. -/
def reached (g : Goal) : Step Unit := modifyLedger fun t l => l.markTrue t g.type g.readyMessage

/-- Enter that the cluster has not gone along yet with a goal. -/
def underWay (g : Goal) (message : String) : Step Unit :=
  modifyLedger fun t l => l.markFalse t g.type Reason.requested .info message

/-- Enter that the way to a goal is blocked. -/
def failed (g : Goal) (message : String) : Step Unit :=
  modifyLedger fun t l => l.markFalse t g.type Reason.error .warning message

end Step

/-! ## The steps -/

/-- Enter every goal as one that nobody has worked on. -/
def fillLedger : Step Unit := fun s => do
  let initial ← Program.forEach
    (fun g => return Ledger.initialCondition (← Cluster.now) g) Goal.all
  let entered ← Program.forEach (fun c => return (← Cluster.now, c)) initial
  return (.proceed (), { s with conditions := s.conditions.init entered })

/-- Apply the objects of the permissions. The first one that is not in place ends the pass. -/
def ensurePermissions : List PermissionObject → Step Unit
  | [] => .proceed ()
  | o :: rest => do
    match ← Step.lift (Cluster.apply o.resource) with
    | .ok (.converged _ _) =>
      Step.reached o.goal
      ensurePermissions rest
    | .ok (.pending after) => Step.finish (.ok (.requeueAfter after))
    | .error e =>
      Step.failed o.goal e.message
      Step.finish (.error e)

/-- Read and hash the TLS inputs. -/
def ensureTlsInputs (r : Redis) : Step InputHashes := do
  match ← Step.lift (tlsInputHashes r) with
  | .ok inputs =>
    Step.reached .tlsInput
    return inputs
  | .error e =>
    Step.failed .tlsInput ("Error with TLS input: " ++ e.message)
    Step.finish (.error e)

/-- End the pass with a goal that failed. -/
def failStep {α : Type} (g : Goal) (e : ControlError) : Step α := do
  Step.failed g e.message
  Step.finish (.error e)

/-- Render and apply config maps. Each becomes an input under its name. -/
def ensureConfigMaps (r : Redis) : List ConfigTemplate → InputHashes → Step InputHashes
  | [], inputs => do
    Step.reached .serviceConfig
    return inputs
  | t :: rest, inputs => do
    match r.configMap t with
    | .error e => failStep .serviceConfig e
    | .ok (o, hash) =>
      match ← Step.lift (Cluster.apply o) with
      | .ok (.converged _ _) => ensureConfigMaps r rest (inputs.insert t.name hash)
      | .ok (.pending after) =>
        Step.underWay .serviceConfig Progress.serviceConfig
        Step.finish (.ok (.requeueAfter after))
      | .error e => failStep .serviceConfig e

/-- Compare the hash of the inputs with the record. If they differ, record the inputs and ask for
another pass. -/
def ensureRecorded (inputs : InputHashes) : Step Unit := do
  match inputs.compare (← Step.recorded) inputs.aggregate with
  | none => Step.proceed ()
  | some updated =>
    Step.record updated
    Step.finish (.ok .requeue)

/-- Apply services. The first one that cannot be built or is not in place ends the pass. -/
def ensureServices : List (Except ControlError SubResource) → Step Unit
  | [] => Step.reached .exposeService
  | .error e :: _ => failStep .exposeService e
  | .ok o :: rest => do
    match ← Step.lift (Cluster.apply o) with
    | .ok (.converged _ _) => ensureServices rest
    | .ok (.pending after) =>
      Step.underWay .exposeService Progress.exposeService
      Step.finish (.ok (.requeueAfter after))
    | .error e => failStep .exposeService e

/-- Enter what the workload reports. Where it reports nothing, nothing is entered. -/
def reportReplicas : Option Int32 → Step Unit
  | none => .proceed ()
  | some ready =>
    if 0 < ready then Step.reached .deployment
    else Step.underWay .deployment Progress.deployment

/-- Apply the workload. A failure leaves its goal as it was. -/
def ensureWorkload (settings : Settings) (r : Redis) (inputHash : String) : Step Outcome := do
  let o ← Step.ofExcept (r.statefulSet settings inputHash)
  match ← Step.lift (Cluster.apply o) with
  | .ok (.converged _ ready) =>
    reportReplicas ready
    return .done
  | .ok (.pending after) => Step.finish (.ok (.requeueAfter after))
  | .error e => Step.finish (.error e)

/-- The steps after the first pass has filled the ledger. -/
def workSteps (settings : Settings) (r : Redis) : Step Outcome := do
  ensurePermissions (← Step.ofExcept (r.permissionObjects policyRules))
  let secrets ← ensureTlsInputs r
  let inputs ← ensureConfigMaps r r.configTemplates secrets
  ensureRecorded inputs
  ensureServices [r.headlessService, r.clientService]
  ensureWorkload settings r inputs.aggregate

/-- All steps of a pass, from the status of the instance on. -/
def converge (settings : Settings) (r : Redis) : Step Outcome := fun s =>
  if s.conditions.isEmpty then
    (do fillLedger; return .requeue : Step Outcome) s
  else workSteps settings r s

/-! ## The pass -/

/-- How a pass ends whose steps went this far. -/
def Progress.ending : Progress Outcome → Ending
  | .proceed outcome => .ok outcome
  | .finish e => e

/-- Derive `Ready`, and write the status if it is not the one observed. An error of the write is
the result; otherwise the result is that of the steps. -/
def finalize (r : Redis) (observed status : Status) (ending : Ending) :
    Program Cluster Ending := do
  let t ← Cluster.now
  let status := { status with conditions := status.conditions.recomputeReady t }
  if status = observed then return ending
  else
    match ← Cluster.patchStatus { r with status := some status } with
    | .ok () => return ending
    | .error e => return .error e

/-- A pass over the instance with a namespace and a name. -/
def pass (settings : Settings) (ns name : String) : Program Cluster Ending := do
  match ← Cluster.getRedis ns name with
  | .error e => return .error e
  | .ok none => return .ok .stop
  | .ok (some r) =>
    let (progress, status) ← converge settings r r.statusOrEmpty
    finalize r r.statusOrEmpty status progress.ending

end RedisControl
