import RedisControl.Error
import RedisControl.Json.Parser

/-!
# Replies of the API server

A reply is a code with a body, unless the connection fails. Codes from 400 to 599 tell of an error,
which the body describes; if the body does not, the code does.

Replies whose body has a number with a fraction or an exponent, in whatever field, are left out:
`Json.parse?` reads integers only, so such a body counts as one that says nothing.

* `Reply.decode` : what a reply says, where an object of some kind was asked for.
* `absentOr` : an error that only says that there is no such object.
-/

namespace RedisControl.Api

/-- What comes back for a request: an answer, or word that the connection failed. -/
inductive Reply where
  | failed (text : String)
  | answered (code : Nat) (body : String)
  deriving DecidableEq

/-! ## Codes -/

/-- The phrases for the codes of errors. -/
def phrases : List (Nat × String) :=
  [(400, "Bad Request"), (401, "Unauthorized"), (402, "Payment Required"), (403, "Forbidden"),
    (404, "Not Found"), (405, "Method Not Allowed"), (406, "Not Acceptable"),
    (407, "Proxy Authentication Required"), (408, "Request Timeout"), (409, "Conflict"),
    (410, "Gone"), (411, "Length Required"), (412, "Precondition Failed"),
    (413, "Payload Too Large"), (414, "URI Too Long"), (415, "Unsupported Media Type"),
    (416, "Range Not Satisfiable"), (417, "Expectation Failed"), (418, "I'm a teapot"),
    (421, "Misdirected Request"), (422, "Unprocessable Entity"), (423, "Locked"),
    (424, "Failed Dependency"), (425, "Too Early"), (426, "Upgrade Required"),
    (428, "Precondition Required"), (429, "Too Many Requests"),
    (431, "Request Header Fields Too Large"), (451, "Unavailable For Legal Reasons"),
    (500, "Internal Server Error"), (501, "Not Implemented"), (502, "Bad Gateway"),
    (503, "Service Unavailable"), (504, "Gateway Timeout"), (505, "HTTP Version Not Supported"),
    (506, "Variant Also Negotiates"), (507, "Insufficient Storage"), (508, "Loop Detected"),
    (510, "Not Extended"), (511, "Network Authentication Required")]

/-- A code with its phrase. -/
def codeText (code : Nat) : String :=
  toString code ++ " " ++ (phrases.lookup code).getD "<unknown status code>"

def isErrorCode (code : Nat) : Bool := 400 ≤ code && code < 600

/-! ## Reading replies -/

/-- The error that a reply tells of: the one that the body describes, or else one made from the
code, with the body as its message. -/
def failureOf (code : Nat) (body : String) : ApiFailure :=
  match (Json.parse? body).bind ApiFailure.read? with
  | some f => f
  | none => ⟨codeText code, Text.quoted body, "Failed to parse error data", code⟩

/-- What a reply says, where an object of some kind was asked for. -/
def Reply.decode {α : Type} (read : Json → Option α) : Reply → Except ClientError α
  | .failed text => .error (.transport text)
  | .answered code body =>
    if isErrorCode code then .error (.api (failureOf code body))
    else match (Json.parse? body).bind read with
      | some a => .ok a
      | none => .error .undecodable

/-- An error with the reason `NotFound` says that there is no such object; its code does not
matter. -/
def absentOr {α : Type} : Except ClientError α → Except ClientError (Option α)
  | .ok a => .ok (some a)
  | .error (.api f) => if f.reason = "NotFound" then .ok none else .error (.api f)
  | .error e => .error e

end RedisControl.Api
