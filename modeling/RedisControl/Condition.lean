import RedisControl.Json.Reader

/-!
# Conditions

A condition says of one aspect of an instance whether it holds, why, how bad it is if not, and
since when. Conditions are told apart by their type, which is any text; the types that this
controller itself decides are the goals of `RedisControl.Goal`.

* `Condition.rank` : how bad a condition is; a smaller rank is worse.
* `Condition.read?`, `Condition.write` : the JSON form.
-/

namespace RedisControl

/-- An instant, as it is written in a status. -/
abbrev Time := String

/-- Whether a condition holds, as far as it is known. -/
inductive Truth where
  | true
  | false
  | unknown
  deriving DecidableEq, Repr

/-- How bad it is that a condition does not hold, the worst first. -/
inductive Severity where
  | error
  | warning
  | info
  deriving DecidableEq, Repr

/-- One aspect of an instance and whether it holds. -/
structure Condition where
  type : String
  status : Truth
  reason : String
  severity : Option Severity
  message : String
  lastTransitionTime : Option Time
  deriving DecidableEq, Repr

/-- The name of a status in JSON. -/
def Truth.name : Truth → String
  | .true => "True"
  | .false => "False"
  | .unknown => "Unknown"

/-- The status with a name. -/
def Truth.ofName? (s : String) : Option Truth :=
  if s = "True" then some .true
  else if s = "False" then some .false
  else if s = "Unknown" then some .unknown
  else none

/-- The name of a severity in JSON. -/
def Severity.name : Severity → String
  | .error => "Error"
  | .warning => "Warning"
  | .info => "Info"

/-- The severity with a name. -/
def Severity.ofName? (s : String) : Option Severity :=
  if s = "Error" then some .error
  else if s = "Warning" then some .warning
  else if s = "Info" then some .info
  else none

@[simp] theorem Truth.ofName?_name (t : Truth) : Truth.ofName? t.name = some t := by
  cases t <;> rfl

@[simp] theorem Severity.ofName?_name (s : Severity) : Severity.ofName? s.name = some s := by
  cases s <;> rfl

namespace Condition

/-- Whether a condition is known to hold. -/
def isTrue (c : Condition) : Bool := c.status == .true

/-- How bad a condition is: false before unknown before true, and among the false ones errors
before warnings before the rest. A smaller rank is worse. -/
def rank (c : Condition) : Nat :=
  match c.status, c.severity with
  | .false, some .error => 0
  | .false, some .warning => 1
  | .false, _ => 2
  | .unknown, _ => 3
  | .true, _ => 4

/-- A condition of which nothing is known yet. -/
def unknown (type reason message : String) (now : Time) : Condition :=
  ⟨type, .unknown, reason, none, message, some now⟩

/-! ## JSON form -/

/-- Read one of several names: as a string, or as an object with the name as its only key and
null as its value. -/
def readName? {α : Type} (ofName? : String → Option α) : Json → Option α
  | .str s => ofName? s
  | .obj [(s, .null)] => ofName? s
  | _ => none

/-- The fields of a condition, in the order that they have by position. -/
def fields : List Json.Field :=
  [⟨"type", false⟩, ⟨"status", false⟩, ⟨"reason", false⟩, ⟨"severity", true⟩, ⟨"message", true⟩,
    ⟨"lastTransitionTime", true⟩]

/-- Read a condition. A severity or a time may be null, a message may be missing. -/
def read? (j : Json) : Option Condition := do
  let j ← j.asRecord? fields
  let type ← j.required "type" Json.asString?
  let status ← j.required "status" (readName? Truth.ofName?)
  let reason ← j.required "reason" Json.asString?
  let severity ← j.optional "severity" (readName? Severity.ofName?)
  let message ← j.defaulted "message" Json.asString? ""
  let lastTransitionTime ← j.optional "lastTransitionTime" Json.asString?
  some ⟨type, status, reason, severity, message, lastTransitionTime⟩

/-- Write a condition. A message is always shown, a severity or a time where there is one. -/
def write (c : Condition) : Json :=
  .record [
    ("lastTransitionTime", c.lastTransitionTime.map .str),
    ("message", some (.str c.message)),
    ("reason", some (.str c.reason)),
    ("severity", c.severity.map fun s => .str s.name),
    ("status", some (.str c.status.name)),
    ("type", some (.str c.type))]

end Condition

end RedisControl
