import RedisControl.Text.Decimal

/-!
# Names of API versions

The name of a version tells how stable it is: `v2` is stable, `v2beta3` and `v2alpha3` are not yet.
The better of two versions is the more stable one, then the one with the higher number. All other
names come last, in order of their characters.

* `Version.ofText` : the version that a name tells of.
* `Version.best?` : the best of several names, the first of equals.
-/

namespace RedisControl.Api

/-- What the name of a version tells. -/
inductive Version where
  | stable (major : Nat)
  | beta (major : Nat) (minor : Option Nat)
  | alpha (major : Nat) (minor : Option Nat)
  | other (name : String)
  deriving DecidableEq

namespace Version

/-- A number that fits into 32 bits. -/
def number? (digits : List Char) : Option Nat :=
  (Text.Decimal.read Text.Decimal.bound32 digits).toOption

/-- The number after a stage, which may be missing. -/
def minor? : List Char → Option (Option Nat)
  | [] => some none
  | digits => (number? digits).map some

/-- The version with a major number, as the rest of its name tells. -/
def stage? (major : Nat) : List Char → Option Version
  | [] => some (.stable major)
  | 'a' :: 'l' :: 'p' :: 'h' :: 'a' :: digits => (minor? digits).map (.alpha major)
  | 'b' :: 'e' :: 't' :: 'a' :: digits => (minor? digits).map (.beta major)
  | _ => none

def ofChars? : List Char → Option Version
  | 'v' :: cs => do
    let major ← number? (cs.takeWhile Char.isDigit)
    stage? major (cs.dropWhile Char.isDigit)
  | _ => none

/-- The version that a name tells of; a name of another form is only a name. -/
def ofText (name : String) : Version := (ofChars? name.toList).getD (.other name)

/-- How good a version is, to be compared part by part. A stage with a number beats one
without. -/
def rank : Version → List Nat
  | .stable major => [3, major, 0]
  | .beta major minor => [2, major, (minor.map (· + 1)).getD 0]
  | .alpha major minor => [1, major, (minor.map (· + 1)).getD 0]
  | .other _ => [0, 0, 0]

/-- Whether a version is as good as another. Names of other forms go by their characters. -/
def atLeast : Version → Version → Bool
  | .other a, .other b => !(b < a)
  | a, b => !(a.rank < b.rank)

/-- The best of several names, the first of equals. -/
def best? (names : List String) : Option String :=
  (names.mergeSort fun a b => (ofText a).atLeast (ofText b)).head?

end Version

end RedisControl.Api
