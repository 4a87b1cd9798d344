/-!
# Decimal numbers in text

A number is written with ASCII digits, with a plus sign in front or without. Zeros in front do not
matter. Numbers are read below a bound; what is wrong with a text is found from left to right.

* `read` : the number that a text writes.
-/

namespace RedisControl.Text.Decimal

/-- What numbers of 32 bits stay below. -/
def bound32 : Nat := 4294967296

/-- What numbers of 64 bits stay below. -/
def bound64 : Nat := 18446744073709551616

/-- Why a text writes no number. -/
inductive Fault where
  | empty
  | invalidDigit
  | tooLarge
  deriving DecidableEq, Repr

/-- What is said of a fault. -/
def Fault.message : Fault → String
  | .empty => "cannot parse integer from empty string"
  | .invalidDigit => "invalid digit found in string"
  | .tooLarge => "number too large to fit in target type"

/-- The number that digits add to one already read, below a bound. The first fault counts. -/
def readDigits (bound : Nat) : Nat → List Char → Except Fault Nat
  | n, [] => .ok n
  | n, c :: cs =>
    if c.isDigit then
      let m := 10 * n + (c.toNat - '0'.toNat)
      if m < bound then readDigits bound m cs else .error .tooLarge
    else .error .invalidDigit

/-- The number that a text writes, below a bound. -/
def read (bound : Nat) : List Char → Except Fault Nat
  | [] => .error .empty
  | ['+'] => .error .invalidDigit
  | '+' :: digits => readDigits bound 0 digits
  | digits => readDigits bound 0 digits

end RedisControl.Text.Decimal
