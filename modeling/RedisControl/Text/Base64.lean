/-!
# Base 64

Bytes as text in the standard alphabet. Three bytes make four digits; one or two bytes at the end
are filled up with `=` to four. Reading is strict: the length is a multiple of four, nothing but
digits and the fill at the end may stand in the text, and the bits that the last digit has too
many are zero.

* `encode`, `decode?` : the two directions.
* `decode?_encode` : the text of bytes reads back as the bytes, so no two have one text.
-/

namespace RedisControl.Text.Base64

/-- The digit for six bits. -/
def digit (n : Nat) : Char :=
  if n < 26 then Char.ofNat ('A'.toNat + n)
  else if n < 52 then Char.ofNat ('a'.toNat + (n - 26))
  else if n < 62 then Char.ofNat ('0'.toNat + (n - 52))
  else if n = 62 then '+'
  else '/'

/-- The six bits that a digit stands for. -/
def value? (c : Char) : Option Nat :=
  if 'A' ≤ c ∧ c ≤ 'Z' then some (c.toNat - 'A'.toNat)
  else if 'a' ≤ c ∧ c ≤ 'z' then some (c.toNat - 'a'.toNat + 26)
  else if '0' ≤ c ∧ c ≤ '9' then some (c.toNat - '0'.toNat + 52)
  else if c = '+' then some 62
  else if c = '/' then some 63
  else none

/-- The text of bytes. -/
def encode : List UInt8 → List Char
  | [] => []
  | [x] => [digit (x.toNat / 4), digit (x.toNat % 4 * 16), '=', '=']
  | [x, y] =>
    [digit (x.toNat / 4), digit (x.toNat % 4 * 16 + y.toNat / 16), digit (y.toNat % 16 * 4), '=']
  | x :: y :: z :: rest =>
    digit (x.toNat / 4) :: digit (x.toNat % 4 * 16 + y.toNat / 16) ::
      digit (y.toNat % 16 * 4 + z.toNat / 64) :: digit (z.toNat % 64) :: encode rest

/-- The byte of two digits at the end. -/
def lastOne? (a b : Nat) : Option (List UInt8) :=
  if b % 16 = 0 then some [UInt8.ofNat (a * 4 + b / 16)] else none

/-- The bytes of three digits at the end. -/
def lastTwo? (a b c : Nat) : Option (List UInt8) :=
  if c % 4 = 0 then some [UInt8.ofNat (a * 4 + b / 16), UInt8.ofNat (b % 16 * 16 + c / 4)]
  else none

/-- The bytes of a text. -/
def decode? : List Char → Option (List UInt8)
  | [] => some []
  | a :: b :: c :: d :: rest => do
    let a ← value? a
    let b ← value? b
    if c = '=' ∧ d = '=' ∧ rest = [] then lastOne? a b
    else
      let c ← value? c
      if d = '=' ∧ rest = [] then lastTwo? a b c
      else
        let d ← value? d
        let bytes ← decode? rest
        some (UInt8.ofNat (a * 4 + b / 16) :: UInt8.ofNat (b % 16 * 16 + c / 4) ::
          UInt8.ofNat (c % 4 * 64 + d) :: bytes)
  | _ => none

/-! ## Round trip -/

theorem value?_digit : ∀ n < 64, value? (digit n) = some n := by decide

theorem digit_ne_fill : ∀ n < 64, digit n ≠ '=' := by decide

theorem ofNat_toNat_of_eq {n : Nat} {x : UInt8} (h : n = x.toNat) : UInt8.ofNat n = x := by
  rw [h, UInt8.ofNat_toNat]

/-- The text of bytes reads back as the bytes. -/
theorem decode?_encode (bytes : List UInt8) : decode? (encode bytes) = some bytes := by
  fun_induction encode bytes with
  | case1 => rfl
  | case2 x =>
    have hx := x.toNat_lt
    have hfirst := value?_digit (x.toNat / 4) (by omega)
    have hsecond := value?_digit (x.toNat % 4 * 16) (by omega)
    have hx' : UInt8.ofNat (x.toNat / 4 * 4 + x.toNat % 4 * 16 / 16) = x :=
      ofNat_toNat_of_eq (by omega)
    simp only [decode?, hfirst, hsecond, Option.bind_eq_bind, Option.bind_some, and_self, if_true,
      lastOne?, Nat.mul_mod_left, hx']
  | case3 x y =>
    have hx := x.toNat_lt
    have hy := y.toNat_lt
    have hfirst := value?_digit (x.toNat / 4) (by omega)
    have hsecond := value?_digit (x.toNat % 4 * 16 + y.toNat / 16) (by omega)
    have hthird := value?_digit (y.toNat % 16 * 4) (by omega)
    have hfill := digit_ne_fill (y.toNat % 16 * 4) (by omega)
    have hx' : UInt8.ofNat (x.toNat / 4 * 4 + (x.toNat % 4 * 16 + y.toNat / 16) / 16) = x :=
      ofNat_toNat_of_eq (by omega)
    have hy' : UInt8.ofNat ((x.toNat % 4 * 16 + y.toNat / 16) % 16 * 16 +
        y.toNat % 16 * 4 / 4) = y :=
      ofNat_toNat_of_eq (by omega)
    simp only [decode?, hfirst, hsecond, hthird, hfill, Option.bind_eq_bind, Option.bind_some,
      false_and, and_self, if_false, if_true, lastTwo?, Nat.mul_mod_left, hx', hy']
  -- Whole groups: four digits hold the three bytes, and none of them is the fill.
  | case4 x y z rest ih =>
    have hx := x.toNat_lt
    have hy := y.toNat_lt
    have hz := z.toNat_lt
    have hfirst := value?_digit (x.toNat / 4) (by omega)
    have hsecond := value?_digit (x.toNat % 4 * 16 + y.toNat / 16) (by omega)
    have hthird := value?_digit (y.toNat % 16 * 4 + z.toNat / 64) (by omega)
    have hfourth := value?_digit (z.toNat % 64) (by omega)
    have hfill := digit_ne_fill (y.toNat % 16 * 4 + z.toNat / 64) (by omega)
    have hfill' := digit_ne_fill (z.toNat % 64) (by omega)
    have hx' : UInt8.ofNat (x.toNat / 4 * 4 + (x.toNat % 4 * 16 + y.toNat / 16) / 16) = x :=
      ofNat_toNat_of_eq (by omega)
    have hy' : UInt8.ofNat ((x.toNat % 4 * 16 + y.toNat / 16) % 16 * 16 +
        (y.toNat % 16 * 4 + z.toNat / 64) / 4) = y :=
      ofNat_toNat_of_eq (by omega)
    have hz' : UInt8.ofNat ((y.toNat % 16 * 4 + z.toNat / 64) % 4 * 64 + z.toNat % 64) = z :=
      ofNat_toNat_of_eq (by omega)
    simp only [decode?, hfirst, hsecond, hthird, hfourth, hfill, hfill', Option.bind_eq_bind,
      Option.bind_some, false_and, if_false, hx', hy', hz', ih]

theorem encode_injective {x y : List UInt8} (h : encode x = encode y) : x = y := by
  have hread := decode?_encode x
  rw [h, decode?_encode y] at hread
  exact (Option.some.inj hread).symm

end RedisControl.Text.Base64
