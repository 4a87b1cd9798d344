import RedisControl.Json.Printer

/-!
# YAML text of JSON values

The block style: every member of an object and every item of an array on lines of its own. The
members of an object that stands in another one are indented, the items of an array are not. A
string is written plain unless that would read as something else; then it is quoted.

* `Yaml.render` : the text of a value.
-/

namespace RedisControl.Yaml

/-! ## Strings -/

/-- The words that are read as null or as truth values. -/
def reserved : List String :=
  ["null", "Null", "NULL", "~", "true", "True", "TRUE", "false", "False", "FALSE"]

/-- Characters that mean something at the start of a value. -/
def indicators : List Char :=
  ['-', '?', ':', ',', '[', ']', '{', '}', '#', '&', '*', '!', '|', '>', '\'', '"', '%', '@', '\x60']

/-- Whether plain text would be taken for a number. -/
def isNumeric (cs : List Char) : Bool :=
  match cs with
  | '+' :: c :: _ => c.isDigit || c == '.'
  | '.' :: c :: _ => c.isDigit
  | c :: _ => c.isDigit && cs.all fun c => c.isAlphanum || c == '.' || c == '+' || c == '-'
  | [] => false

/-- Whether a colon or a number sign in a text would end it. -/
def hasBreak : List Char → Bool
  | [] => false
  | [c] => c == ':'
  | c :: d :: rest => (c == ':' && d == ' ') || (c == ' ' && d == '#') || hasBreak (d :: rest)

/-- Whether a text can stand as it is. -/
def isPlain (s : String) : Bool :=
  let cs := s.toList
  !s.isEmpty && !reserved.contains s && !isNumeric cs && !hasBreak cs
    && cs.head?.all (fun c => c != ' ' && !indicators.contains c)
    && cs.getLast?.all (· != ' ')

/-- A text in single quotes. -/
def singleQuoted (s : String) : String :=
  String.ofList ('\'' :: (s.toList.flatMap fun c => if c = '\'' then ['\'', '\''] else [c]) ++ ['\''])

/-- A string. One with control characters is written as in JSON. -/
def string (s : String) : String :=
  if s.any (fun c => c.toNat < 0x20 || c.toNat == 0x7F) then String.ofList (Json.stringChars s)
  else if isPlain s then s
  else singleQuoted s

/-! ## Values -/

/-- A value that fits on one line; an object or array does only if it is empty. -/
def inline? : Json → Option String
  | .str s => some (string s)
  | .arr (_ :: _) => none
  | .obj (_ :: _) => none
  | j => some j.text

/-- Lines moved to the right. -/
def indent (lines : List String) : List String := lines.map ("  " ++ ·)

/-- Lines as an item of an array. -/
def bullet : List String → List String
  | [] => []
  | first :: rest => ("- " ++ first) :: indent rest

/-- Whether a value is an array. -/
def isArray : Json → Bool
  | .arr _ => true
  | _ => false

mutual

/-- The lines of a value. -/
def lines : Json → List String
  | .arr (j :: js) => bullet (lines j) ++ itemLines js
  | .obj ((k, j) :: ms) => memberLines k j (lines j) ++ membersLines ms
  | .str s => [string s]
  | j => [j.text]

/-- The lines of the items of an array. -/
def itemLines : List Json → List String
  | [] => []
  | j :: js => bullet (lines j) ++ itemLines js

/-- The lines of the members of an object. -/
def membersLines : List (String × Json) → List String
  | [] => []
  | (k, j) :: ms => memberLines k j (lines j) ++ membersLines ms

/-- The lines of a member, given those of its value. -/
def memberLines (key : String) (value : Json) (valueLines : List String) : List String :=
  match inline? value with
  | some text => [string key ++ ": " ++ text]
  | none => (string key ++ ":") :: (if isArray value then valueLines else indent valueLines)

end

/-- A value in YAML. -/
def render (j : Json) : String := String.join ((lines j).map (· ++ "\n"))

end RedisControl.Yaml
