import RedisControl.Condition
import RedisControl.Goal

/-!
# The ledger of conditions

The conditions of an instance, in the order in which they were first entered. Entering a condition
keeps its transition time as long as the status stays the same. The condition `Ready` is derived
from all others: it is true when they are all true, and otherwise shows the worst of them.

* `Ledger.set` : enter a condition over the first entry of its type, or at the end.
* `Ledger.worst?` : the earliest of the entries of least rank, the ready goal aside.
* `Ledger.recomputeReady` : derive `Ready` anew.
-/

namespace RedisControl

namespace Condition

/-- The condition as it is entered over an entry of its type: the time of the entry stays as long
as the status does. -/
def replacing (now : Time) (new old : Condition) : Condition :=
  { new with
    lastTransitionTime := if old.status = new.status then old.lastTransitionTime else some now }

/-- The condition as it is entered where there was none of its type. -/
def fresh (now : Time) (new : Condition) : Condition :=
  { new with lastTransitionTime := new.lastTransitionTime.or (some now) }

end Condition

/-- The conditions of an instance. -/
structure Ledger where
  entries : List Condition
  deriving DecidableEq, Repr

namespace Ledger

/-- The ledger without entries. -/
def empty : Ledger := ⟨[]⟩

def isEmpty (l : Ledger) : Bool := l.entries.isEmpty

/-- The first entry of a type. -/
def get? (l : Ledger) (type : String) : Option Condition :=
  l.entries.find? fun c => c.type == type

/-- Whether there is an entry of the type and the first one is true. -/
def isTrue (l : Ledger) (type : String) : Bool := (l.get? type).any Condition.isTrue

/-! ## Entering conditions -/

/-- Enter a condition in a list of entries. -/
def setEntry (now : Time) (new : Condition) : List Condition → List Condition
  | [] => [new.fresh now]
  | old :: rest =>
    if old.type = new.type then new.replacing now old :: rest
    else old :: setEntry now new rest

/-- Enter a condition over the first entry of its type, or at the end. -/
def set (now : Time) (c : Condition) (l : Ledger) : Ledger := ⟨setEntry now c l.entries⟩

/-- Enter that the condition of a type holds. -/
def markTrue (now : Time) (type message : String) (l : Ledger) : Ledger :=
  l.set now ⟨type, .true, Reason.ready, none, message, none⟩

/-- Enter that the condition of a type does not hold, for a reason and how bad that is. -/
def markFalse (now : Time) (type reason : String) (severity : Severity) (message : String)
    (l : Ledger) : Ledger :=
  l.set now ⟨type, .false, reason, some severity, message, none⟩

/-- Fill an empty ledger with conditions of which nothing is known, each with the instant at
which it is entered; leave any other ledger as it is. -/
def init (initial : List (Time × Condition)) (l : Ledger) : Ledger :=
  if l.isEmpty then
    initial.foldl (fun l e => l.set e.1 { e.2 with status := .unknown, severity := none }) l
  else l

/-- The entry of a goal that nobody has worked on. -/
def initialCondition (now : Time) (g : Goal) : Condition :=
  .unknown g.type Reason.init g.initialMessage now

/-! ## Readiness -/

/-- The entries that `Ready` is derived from. -/
def subConditions (l : Ledger) : List Condition :=
  l.entries.filter fun c => c.type != Goal.ready.type

/-- Whether all conditions but `Ready` hold. -/
def allSubConditionsTrue (l : Ledger) : Bool := l.subConditions.all Condition.isTrue

/-- The earliest condition of least rank in a list that starts with the given one. -/
def worstFrom : Condition → List Condition → Condition
  | c, [] => c
  | c, d :: rest => worstFrom (if d.rank < c.rank then d else c) rest

/-- The earliest of the entries of least rank, the ready goal aside. -/
def worst? (l : Ledger) : Option Condition :=
  match l.subConditions with
  | [] => none
  | c :: rest => some (worstFrom c rest)

/-- The worst of the entries under another type, without its time. -/
def worstAs (l : Ledger) (type : String) : Option Condition :=
  l.worst?.map fun c => { c with type, lastTransitionTime := none }

/-- Derive `Ready` from the other entries. An empty ledger stays empty. -/
def recomputeReady (now : Time) (l : Ledger) : Ledger :=
  if l.isEmpty then l
  else if l.allSubConditionsTrue then l.markTrue now Goal.ready.type Goal.ready.readyMessage
  else
    match l.worstAs Goal.ready.type with
    | some c => l.set now c
    | none => l

/-! ## JSON form -/

/-- Read a ledger. Entries of one type are all kept. -/
def read? (j : Json) : Option Ledger := (j.asList? Condition.read?).map Ledger.mk

/-- Write a ledger, its entries in order. -/
def write (l : Ledger) : Json := .arr (l.entries.map Condition.write)

end Ledger

end RedisControl
