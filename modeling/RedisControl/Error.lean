import RedisControl.Json.Reader
import RedisControl.Text.Quoted

/-!
# Errors

What can go wrong between the controller and the cluster, and how it is told. An error of the API
server carries a code and a reason; the controller tells conflicts and missing objects apart by
the code, reading tells a missing object by the reason.

* `ControlError.message` : the text of an error.
* `ControlError.isConflict`, `ControlError.isNotFound` : the two codes that count as transient.
-/

namespace RedisControl

/-- An error as the API server reports it. -/
structure ApiFailure where
  status : String
  message : String
  reason : String
  code : Nat
  deriving DecidableEq

/-- Why a request cannot be built. -/
inductive RequestFault where
  | emptyName
  | badCharacter
  deriving DecidableEq

/-- What can go wrong with one request. -/
inductive ClientError where
  | api (failure : ApiFailure)
  | transport (text : String)
  | request (fault : RequestFault)
  /-- The answer is not an object of the kind asked for. -/
  | undecodable
  deriving DecidableEq

/-- What can go wrong in a pass. -/
inductive ControlError where
  | client (e : ClientError)
  | invalidTlsInput (text : String)
  | configGeneration (text : String)
  | inputHash (text : String)
  | serialization (text : String)
  | missingKey (key : String)
  deriving DecidableEq

namespace ApiFailure

/-- The fields of a failure, in the order that they have by position. -/
def fields : List Json.Field :=
  [⟨"status", false⟩, ⟨"message", true⟩, ⟨"reason", true⟩, ⟨"code", false⟩]

/-- Read a failure. A status and a code have to be there. -/
def read? (j : Json) : Option ApiFailure := do
  let j ← j.asRecord? fields
  let status ← j.required "status" Json.asString?
  let message ← j.defaulted "message" Json.asString? ""
  let reason ← j.defaulted "reason" Json.asString? ""
  let code ← j.required "code" Json.asWord16?
  some ⟨status, message, reason, code⟩

end ApiFailure

/-- A failure as it stands in messages. -/
def ApiFailure.text (f : ApiFailure) : String :=
  "ApiError: " ++ f.message ++ ": " ++ f.reason ++ " (ErrorResponse \x7b status: "
    ++ Text.quoted f.status ++ ", message: " ++ Text.quoted f.message ++ ", reason: "
    ++ Text.quoted f.reason ++ ", code: " ++ toString f.code ++ " \x7d)"

/-- A fault as it stands in messages. -/
def RequestFault.text : RequestFault → String
  | .emptyName => "failed to validate request: A non-empty name is required"
  | .badCharacter => "failed to build request: invalid uri character"

/-- An error of a request as it stands in messages. -/
def ClientError.text : ClientError → String
  | .api f => f.text
  | .transport t => "ServiceError: " ++ t
  | .request f => "Failed to build request: " ++ f.text
  | .undecodable => "Error deserializing response"

namespace ControlError

/-- The message of an error, as conditions show it. -/
def message : ControlError → String
  | .client e => "Kubernetes API error: " ++ e.text
  | .invalidTlsInput t => "Invalid TLS input: " ++ t
  | .configGeneration t => "Config generation failed: " ++ t
  | .inputHash t => "Error calculating input hash: " ++ t
  | .serialization t => "Serialization failed: " ++ t
  | .missingKey k => "Object is missing " ++ k

def hasCode (code : Nat) : ControlError → Bool
  | .client (.api f) => f.code == code
  | _ => false

/-- Whether a write met a change that somebody else made. -/
def isConflict (e : ControlError) : Bool := e.hasCode 409

/-- Whether the object, or something that a write needs, is missing. -/
def isNotFound (e : ControlError) : Bool := e.hasCode 404

end ControlError

end RedisControl
