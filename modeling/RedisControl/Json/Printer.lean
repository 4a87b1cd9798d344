import RedisControl.Json.Basic

/-!
# The compact text of a JSON value

The text has no blanks. In strings the quotation mark, the backslash and the characters below
U+0020 are escaped: the five that have a short escape by it, the others by four lower-case
hexadecimal digits. All other characters stand for themselves.

* `Json.chars` : the text as a list of characters, one equation for each kind of value.
* `Json.text`, `Json.bytes` : the text as a string and as UTF-8 bytes.
-/

namespace RedisControl

namespace Json

def hexDigit (n : Nat) : Char := Nat.digitChar n

/-- How a character is written inside a string. -/
def escapeChar (c : Char) : List Char :=
  if c = '"' then ['\\', '"']
  else if c = '\\' then ['\\', '\\']
  else if c = '\x08' then ['\\', 'b']
  else if c = '\x0c' then ['\\', 'f']
  else if c = '\n' then ['\\', 'n']
  else if c = '\r' then ['\\', 'r']
  else if c = '\t' then ['\\', 't']
  else if c.toNat < 0x20 then
    ['\\', 'u', '0', '0', hexDigit (c.toNat / 16), hexDigit (c.toNat % 16)]
  else [c]

/-- A text in quotes. -/
def stringChars (s : String) : List Char := '"' :: (s.toList.flatMap escapeChar ++ ['"'])

/-- An integer in decimal digits. -/
def intChars : Int → List Char
  | .ofNat n => Nat.toDigits 10 n
  | .negSucc n => '-' :: Nat.toDigits 10 (n + 1)

mutual

/-- The compact text of a value. -/
def chars : Json → List Char
  | .null => ['n', 'u', 'l', 'l']
  | .bool true => ['t', 'r', 'u', 'e']
  | .bool false => ['f', 'a', 'l', 's', 'e']
  | .num n => intChars n
  | .str s => stringChars s
  | .arr [] => ['[', ']']
  | .arr (j :: js) => '[' :: (chars j ++ itemsChars js)
  | .obj [] => ['{', '}']
  | .obj ((k, j) :: ms) => '{' :: (stringChars k ++ ':' :: (chars j ++ membersChars ms))

/-- The items after the first, up to the end of the array. -/
def itemsChars : List Json → List Char
  | [] => [']']
  | j :: js => ',' :: (chars j ++ itemsChars js)

/-- The members after the first, up to the end of the object. -/
def membersChars : List (String × Json) → List Char
  | [] => ['}']
  | (k, j) :: ms => ',' :: (stringChars k ++ ':' :: (chars j ++ membersChars ms))

end

/-- The compact text of a value. -/
def text (j : Json) : String := String.ofList j.chars

/-- The bytes of the compact text, which is what hashes are taken of. -/
def bytes (j : Json) : List UInt8 := j.text.toUTF8.data.toList

end Json

end RedisControl
