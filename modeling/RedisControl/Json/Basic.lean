import RedisControl.StringMap

/-!
# JSON values

Values built from null, booleans, integers, strings, arrays and objects. The members of an object
are a list; the objects that this library builds and reads have their keys in strictly increasing
order, which `Json.Canonical` states.

* `Json.decEq` : equality of values is decidable.
* `Json.Canonical` : every object inside the value has its keys in strictly increasing order.
-/

namespace RedisControl

/-- A JSON value. Numbers are integers. -/
inductive Json where
  | null
  | bool (b : Bool)
  | num (n : Int)
  | str (s : String)
  | arr (items : List Json)
  | obj (members : List (String × Json))

namespace Json

instance : Inhabited Json := ⟨.null⟩

/-! ## Equality -/

mutual

/-- Whether two values are the same, members in the same order. -/
def same : Json → Json → Bool
  | .null, .null => true
  | .bool a, .bool b => a == b
  | .num a, .num b => a == b
  | .str a, .str b => a == b
  | .arr a, .arr b => sameItems a b
  | .obj a, .obj b => sameMembers a b
  | _, _ => false

/-- Whether lists have the same values. -/
def sameItems : List Json → List Json → Bool
  | [], [] => true
  | a :: as, b :: bs => same a b && sameItems as bs
  | _, _ => false

/-- Whether lists have the same keys with the same values. -/
def sameMembers : List (String × Json) → List (String × Json) → Bool
  | [], [] => true
  | (k, a) :: as, (l, b) :: bs => k == l && same a b && sameMembers as bs
  | _, _ => false

end

mutual

theorem same_iff : ∀ a b : Json, same a b = true ↔ a = b
  | .null, b => by cases b <;> simp [same]
  | .bool _, b => by cases b <;> simp [same]
  | .num _, b => by cases b <;> simp [same]
  | .str _, b => by cases b <;> simp [same]
  | .arr as, b => by
    cases b with
    | arr bs => simp [same, sameItems_iff as bs]
    | _ => simp [same]
  | .obj as, b => by
    cases b with
    | obj bs => simp [same, sameMembers_iff as bs]
    | _ => simp [same]

theorem sameItems_iff : ∀ as bs : List Json, sameItems as bs = true ↔ as = bs
  | [], [] => by simp [sameItems]
  | [], _ :: _ => by simp [sameItems]
  | _ :: _, [] => by simp [sameItems]
  | a :: as, b :: bs => by simp [sameItems, same_iff a b, sameItems_iff as bs]

theorem sameMembers_iff : ∀ as bs : List (String × Json), sameMembers as bs = true ↔ as = bs
  | [], [] => by simp [sameMembers]
  | [], _ :: _ => by simp [sameMembers]
  | _ :: _, [] => by simp [sameMembers]
  | (k, a) :: as, (l, b) :: bs => by
    simp [sameMembers, same_iff a b, sameMembers_iff as bs, and_assoc]

end

instance decEq : DecidableEq Json := fun a b => decidable_of_iff _ (same_iff a b)

/-! ## Order of keys -/

mutual

/-- Every object inside the value has its keys in strictly increasing order. -/
def Canonical : Json → Prop
  | .arr items => CanonicalItems items
  | .obj members => (members.Pairwise fun a b => a.1 < b.1) ∧ CanonicalMembers members
  | _ => True

/-- Each item of a list is canonical. -/
def CanonicalItems : List Json → Prop
  | [] => True
  | j :: js => Canonical j ∧ CanonicalItems js

/-- Each value of a list of members is canonical. -/
def CanonicalMembers : List (String × Json) → Prop
  | [] => True
  | (_, j) :: js => Canonical j ∧ CanonicalMembers js

end

/-! ## Building -/

/-- The object with the entries of a map. -/
def ofMap {α : Type} (value : α → Json) (m : StringMap α) : Json :=
  .obj (m.entries.map fun e => (e.1, value e.2))

/-- The object with the texts of a map. -/
def ofStrings (m : StringMap String) : Json := ofMap .str m

/-- The array of some texts. -/
def ofTexts (l : List String) : Json := .arr (l.map .str)

/-- The object of those fields that are present. The fields are given in order of their keys. -/
def record (fields : List (String × Option Json)) : Json :=
  .obj (fields.filterMap fun f => f.2.map fun j => (f.1, j))

/-- A string, or null where there is none. -/
def ofText? : Option String → Json
  | none => .null
  | some s => .str s

/-! ## Members -/

/-- The value of an object for a key. -/
def member? (key : String) : Json → Option Json
  | .obj members => StringMap.find? key members
  | _ => none

/-- An object with one member set; any other value as it is. -/
def setMember (j : Json) (key : String) (value : Json) : Json :=
  match j with
  | .obj members => .obj (StringMap.insertEntry key value members)
  | j => j

/-- Setting a member of an object changes the look-up of its own key only. -/
@[simp] theorem member?_setMember (members : List (String × Json)) (key : String) (value : Json)
    (k : String) :
    ((Json.obj members).setMember key value).member? k
      = if key = k then some value else (Json.obj members).member? k :=
  StringMap.find?_insertEntry key value k members

/-- An object without a key. -/
def eraseMember (key : String) : Json → Json
  | .obj members => .obj (members.filter (·.1 != key))
  | j => j

end Json

end RedisControl
