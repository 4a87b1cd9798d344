import RedisControl.Json.Basic

/-!
# Readers of JSON values

A reader takes a JSON value apart and gives a value of some type, or refuses. The functions here
read scalars, lists and maps, and the fields of records in the four ways in which a field may be
left out.

A record is an object, or an array that holds its fields by position.
-/

namespace RedisControl

namespace Json

variable {α : Type}

def asString? : Json → Option String
  | .str s => some s
  | _ => none

def asBool? : Json → Option Bool
  | .bool b => some b
  | _ => none

/-- An integer within bounds. -/
def asIntIn? (low high : Int) : Json → Option Int
  | .num n => if low ≤ n ∧ n ≤ high then some n else none
  | _ => none

/-- An integer that fits into 32 bits. -/
def asInt32? (j : Json) : Option Int32 :=
  (asIntIn? (-2147483648) 2147483647 j).map Int32.ofInt

/-- An integer that fits into 64 bits. -/
def asInt64? (j : Json) : Option Int64 :=
  (asIntIn? (-9223372036854775808) 9223372036854775807 j).map Int64.ofInt

/-- A natural number up to a bound. -/
def asNatUpTo? (high : Nat) : Json → Option Nat
  | .num n => if 0 ≤ n ∧ n ≤ high then some n.toNat else none
  | _ => none

/-- A natural number that fits into 16 bits. -/
def asWord16? : Json → Option Nat := asNatUpTo? 65535

/-- A natural number that fits into 64 bits. -/
def asWord64? : Json → Option Nat := asNatUpTo? 18446744073709551615

/-- Read an array as a list, each item by the given reader. -/
def asList? (read : Json → Option α) : Json → Option (List α)
  | .arr items => items.mapM read
  | _ => none

/-- Read an object as a map, each value by the given reader. -/
def asMap? (read : Json → Option α) : Json → Option (StringMap α)
  | .obj members => (members.mapM fun m => (read m.2).map fun v => (m.1, v)).map StringMap.ofList
  | _ => none

/-- Read an object as a map of texts. -/
def asStrings? : Json → Option (StringMap String) := asMap? asString?

/-- Read an array as a list of texts. -/
def asTexts? : Json → Option (List String) := asList? asString?

/-! ## Fields -/

/-- A field that must be there. -/
def required (key : String) (read : Json → Option α) (j : Json) : Option α :=
  (j.member? key).bind read

/-- A field that may be left out or null. -/
def optional (key : String) (read : Json → Option α) (j : Json) : Option (Option α) :=
  match j.member? key with
  | none => some none
  | some .null => some none
  | some v => (read v).map some

/-- A field with a default, used when it is left out; null is read like any other value. -/
def defaulted (key : String) (read : Json → Option α) (default : α) (j : Json) : Option α :=
  match j.member? key with
  | none => some default
  | some v => read v

/-- A field with a default, used when it is left out or null. -/
def lenient (key : String) (read : Json → Option α) (default : α) (j : Json) : Option α :=
  (optional key read j).map (·.getD default)

/-- A field that may be left out, but if it is there holds one given string. -/
def constant (key value : String) (j : Json) : Option Unit :=
  match j.member? key with
  | none => some ()
  | some v => if v = .str value then some () else none

/-- An object as it is; any other value is refused, a record by position too. -/
def asObject? : Json → Option Json
  | .obj members => some (.obj members)
  | _ => none

/-- A field of a record, and whether it may be left out at the end of a record by position. -/
structure Field where
  key : String
  skippable : Bool

/-- The members of a record by position. -/
def byPosition : List Field → List Json → Option (List (String × Json))
  | [], [] => some []
  | [], _ :: _ => none
  | f :: fs, [] => if f.skippable then byPosition fs [] else none
  | f :: fs, j :: js => (byPosition fs js).map ((f.key, j) :: ·)

/-- A record as an object: one by name as it is, one by position with the names put in. -/
def asRecord? (fields : List Field) : Json → Option Json
  | .obj members => some (.obj members)
  | .arr items => (byPosition fields items).map .obj
  | _ => none

end Json

end RedisControl
