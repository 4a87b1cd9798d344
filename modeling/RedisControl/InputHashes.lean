import RedisControl.Json.Printer
import RedisControl.Sha256

/-!
# Hashes of the inputs of an instance

Everything outside the spec that the pods of an instance depend on is an input: its TLS secrets
and its two config maps. Each input has a name and the hash of its content. The aggregate is the
hash of the whole map of names to hashes. It is recorded in the status under a name of its own,
beside the inputs that it sums up, and a pass compares against that record.

* `contentHash` : the SHA-256 digest of the compact text of a value, in hexadecimal.
* `InputHashes.aggregate` : one hash for all inputs.
* `InputHashes.compare` : what to record when the inputs have changed.
-/

namespace RedisControl

/-- The hash of a value: the digest of its compact text. -/
def contentHash (j : Json) : String := (sha256 j.bytes).hex

namespace InputName

/-- The name under which the aggregate is recorded. -/
def aggregate : String := "input"

/-- The name of the server's certificate. -/
def certificate : String := "Cert"

/-- The name of the bundle of authorities. -/
def caBundle : String := "CA"

end InputName

/-- The hash of each input, by its name. -/
structure InputHashes where
  byName : StringMap String
  deriving DecidableEq

namespace InputHashes

def empty : InputHashes := ⟨.empty⟩

/-- Enter the hash of an input, over the one that it had. -/
def insert (inputs : InputHashes) (name hash : String) : InputHashes :=
  ⟨inputs.byName.insert name hash⟩

/-- The inputs of a list; of several with one name the last counts. -/
def ofList (l : List (String × String)) : InputHashes := ⟨.ofList l⟩

/-- The names of the inputs, in order. -/
def names (inputs : InputHashes) : List String := inputs.byName.keys

/-- One hash for all inputs. -/
def aggregate (inputs : InputHashes) : String := contentHash (.ofStrings inputs.byName)

/-- What to record when the record does not hold the given aggregate: all inputs and the
aggregate, and nothing that was recorded before. -/
def compare (inputs : InputHashes) (recorded : StringMap String) (aggregate : String) :
    Option (StringMap String) :=
  if recorded.get? InputName.aggregate = some aggregate then none
  else some (inputs.byName.insert InputName.aggregate aggregate)

/-- Nothing is recorded exactly when the record holds the aggregate already. -/
theorem compare_eq_none_iff {inputs : InputHashes} {recorded : StringMap String} {a : String} :
    inputs.compare recorded a = none ↔ recorded.get? InputName.aggregate = some a := by
  unfold compare
  split <;> simp_all

theorem get?_of_compare {inputs : InputHashes} {recorded updated : StringMap String} {a : String}
    (h : inputs.compare recorded a = some updated) :
    updated.get? InputName.aggregate = some a := by
  unfold compare at h
  split at h
  · simp at h
  · simp [← Option.some.inj h]

end InputHashes

end RedisControl
