import RedisControl.Json.Basic

/-!
# Reading JSON text

Reading has two stages, and both go through their input once. `Json.lex` cuts the text into tokens
with a small state machine, one character at a time. `Json.build` puts the tokens together on a
stack of the arrays and objects that are still open. Of several members with one key the last
counts, and the members of every object end up in order of their keys.

Numbers are integers, since no field that is read holds any other. This leaves out some texts: one
with a fraction or an exponent in it is not read at all, even if the number stands in a field that
nobody asks for. Minus zero is read as zero.

* `Json.parse?` : the value of a text, if it is one.
-/

namespace RedisControl

namespace Json

/-! ## Tokens -/

/-- The pieces that a text is cut into. Texts, numbers and words are read at once. -/
inductive Token where
  | openArray
  | closeArray
  | openObject
  | closeObject
  | comma
  | colon
  | scalar (j : Json)

/-- Where the reader of characters stands. The characters read so far are kept in reverse. -/
inductive LexState where
  | between
  | number (read : List Char)
  | word (read : List Char)
  | string (read : List Char)
  | escape (read : List Char)
  /-- In the hexadecimal digits of an escape: how many are missing, the value so far, and the
  first half of the pair that this escape has to complete. -/
  | hex (read : List Char) (missing : Nat) (value : Nat) (half : Option Nat)
  /-- After the first half of a pair; another escape has to follow. -/
  | pair (read : List Char) (half : Nat) (sawBackslash : Bool)

/-- The value of a hexadecimal digit of either case. -/
def hexValue? (c : Char) : Option Nat :=
  if '0' ≤ c ∧ c ≤ '9' then some (c.toNat - '0'.toNat)
  else if 'a' ≤ c ∧ c ≤ 'f' then some (c.toNat - 'a'.toNat + 10)
  else if 'A' ≤ c ∧ c ≤ 'F' then some (c.toNat - 'A'.toNat + 10)
  else none

/-- The natural number that digits write, without superfluous zeros in front. -/
def digits? : List Char → Option Nat
  | [] => none
  | ['0'] => some 0
  | c :: cs =>
    if c ≠ '0' ∧ (c :: cs).all Char.isDigit then
      some ((c :: cs).foldl (fun n d => 10 * n + (d.toNat - '0'.toNat)) 0)
    else none

/-- The integer that characters write; a sign stands only in front of negative ones. -/
def number? : List Char → Option Int
  | '-' :: cs => (digits? cs).map fun n => -(n : Int)
  | cs => (digits? cs).map fun n => (n : Int)

/-- The value that a word stands for. -/
def word? (cs : List Char) : Option Json :=
  if cs = ['n', 'u', 'l', 'l'] then some .null
  else if cs = ['t', 'r', 'u', 'e'] then some (.bool true)
  else if cs = ['f', 'a', 'l', 's', 'e'] then some (.bool false)
  else none

/-- Whether a character may stand in a number; which of these are numbers, `number?` decides. -/
def isNumberChar (c : Char) : Bool :=
  c.isDigit || c == '-' || c == '+' || c == '.' || c == 'e' || c == 'E'

/-- The character that a short escape stands for. -/
def shortEscape? (c : Char) : Option Char :=
  if c = '"' ∨ c = '\\' ∨ c = '/' then some c
  else if c = 'b' then some '\x08'
  else if c = 'f' then some '\x0c'
  else if c = 'n' then some '\n'
  else if c = 'r' then some '\r'
  else if c = 't' then some '\t'
  else none

/-- The state after the last digit of an escape with this value. -/
def LexState.afterHex (read : List Char) (value : Nat) : Option Nat → Option LexState
  | none =>
    if 0xD800 ≤ value ∧ value < 0xDC00 then some (.pair read value false)
    else if 0xDC00 ≤ value ∧ value < 0xE000 then none
    else some (.string (Char.ofNat value :: read))
  | some half =>
    if 0xDC00 ≤ value ∧ value < 0xE000 then
      some (.string (Char.ofNat (0x10000 + (half - 0xD800) * 0x400 + (value - 0xDC00)) :: read))
    else none

/-- A character between two tokens: the tokens that it completes and the state after it. -/
def lexBetween (c : Char) : Option (List Token × LexState) :=
  if c = ' ' ∨ c = '\n' ∨ c = '\t' ∨ c = '\r' then some ([], .between)
  else if c = '[' then some ([.openArray], .between)
  else if c = ']' then some ([.closeArray], .between)
  else if c = '{' then some ([.openObject], .between)
  else if c = '}' then some ([.closeObject], .between)
  else if c = ',' then some ([.comma], .between)
  else if c = ':' then some ([.colon], .between)
  else if c = '"' then some ([], .string [])
  else if c.isLower then some ([], .word [c])
  else if c.isDigit ∨ c = '-' then some ([], .number [c])
  else none

/-- Read one character: the tokens that it completes and the state after it. -/
def LexState.step (c : Char) : LexState → Option (List Token × LexState)
  | .between => lexBetween c
  | .number read =>
    if isNumberChar c then some ([], .number (c :: read))
    else do
      let n ← number? read.reverse
      let (tokens, state) ← lexBetween c
      some (.scalar (.num n) :: tokens, state)
  | .word read =>
    if c.isLower then some ([], .word (c :: read))
    else do
      let j ← word? read.reverse
      let (tokens, state) ← lexBetween c
      some (.scalar j :: tokens, state)
  | .string read =>
    if c = '"' then some ([.scalar (.str (String.ofList read.reverse))], .between)
    else if c = '\\' then some ([], .escape read)
    else if c.toNat < 0x20 then none
    else some ([], .string (c :: read))
  | .escape read =>
    if c = 'u' then some ([], .hex read 4 0 none)
    else (shortEscape? c).map fun d => ([], .string (d :: read))
  | .hex read missing value half => do
    let d ← hexValue? c
    let value := 16 * value + d
    if missing ≤ 1 then
      let state ← LexState.afterHex read value half
      some ([], state)
    else some ([], .hex read (missing - 1) value half)
  | .pair read half false => if c = '\\' then some ([], .pair read half true) else none
  | .pair read half true => if c = 'u' then some ([], .hex read 4 0 (some half)) else none

/-- The tokens that are completed by the end of the text. -/
def LexState.finish : LexState → Option (List Token)
  | .between => some []
  | .number read => (number? read.reverse).map fun n => [.scalar (.num n)]
  | .word read => (word? read.reverse).map fun j => [.scalar j]
  | _ => none

/-- Cut a text into tokens, from some state on. -/
def lex : LexState → List Char → Option (List Token)
  | state, [] => state.finish
  | state, c :: cs => do
    let (tokens, state) ← state.step c
    let rest ← lex state cs
    some (tokens ++ rest)

/-! ## Values -/

/-- What has been read of an array or object that is still open. -/
inductive Frame where
  | array (items : List Json)
  | object (members : List (String × Json))
  /-- The members so far, and the key whose value is being read. -/
  | member (members : List (String × Json)) (key : String)

/-- What may come next. -/
inductive Expect where
  | value
  | firstItem
  | key
  | firstKey
  | colon
  | next
  | done (j : Json)

/-- Where the reader of tokens stands. -/
structure BuildState where
  expect : Expect
  frames : List Frame

/-- Put a value that is complete into the array or object that is open. -/
def BuildState.put (j : Json) : List Frame → Option BuildState
  | [] => some ⟨.done j, []⟩
  | .array items :: rest => some ⟨.next, .array (j :: items) :: rest⟩
  | .member members key :: rest =>
    some ⟨.next, .object (StringMap.insertEntry key j members) :: rest⟩
  | .object _ :: _ => none

/-- Read a token where a value has to start. -/
def BuildState.startValue (frames : List Frame) : Token → Option BuildState
  | .scalar j => BuildState.put j frames
  | .openArray => some ⟨.firstItem, .array [] :: frames⟩
  | .openObject => some ⟨.firstKey, .object [] :: frames⟩
  | _ => none

/-- Read a token: close what is open, go on to the next item or member, or start a value. -/
def BuildState.step (token : Token) (s : BuildState) : Option BuildState :=
  match s.expect, token, s.frames with
  | .firstItem, .closeArray, .array items :: rest => BuildState.put (.arr items.reverse) rest
  | .next, .closeArray, .array items :: rest => BuildState.put (.arr items.reverse) rest
  | .firstKey, .closeObject, .object members :: rest => BuildState.put (.obj members) rest
  | .next, .closeObject, .object members :: rest => BuildState.put (.obj members) rest
  | .next, .comma, .array items :: rest => some ⟨.value, .array items :: rest⟩
  | .next, .comma, .object members :: rest => some ⟨.key, .object members :: rest⟩
  | .key, .scalar (.str k), .object members :: rest => some ⟨.colon, .member members k :: rest⟩
  | .firstKey, .scalar (.str k), .object members :: rest =>
    some ⟨.colon, .member members k :: rest⟩
  | .colon, .colon, frames => some ⟨.value, frames⟩
  | .value, token, frames => BuildState.startValue frames token
  | .firstItem, token, frames => BuildState.startValue frames token
  | _, _, _ => none

/-- Put tokens together, from some state on. Nothing may come after the value. -/
def build : BuildState → List Token → Option Json
  | ⟨.done j, _⟩, [] => some j
  | _, [] => none
  | s, t :: ts => (s.step t).bind (build · ts)

/-- The value that a text writes. -/
def parse? (text : String) : Option Json :=
  (lex .between text.toList).bind (build ⟨.value, []⟩)

end Json

end RedisControl
