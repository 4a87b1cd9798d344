import RedisControl.Cluster
import RedisControl.InputHashes
import RedisControl.Owned.ConfigMaps

/-!
# TLS inputs

The secrets that an instance refers to, checked and hashed. A certificate secret needs the key
pair, and also the authority that issued it when there is no bundle of authorities; a bundle
secret needs the bundle. What is there but empty counts as missing.

* `Secret.certificateHash`, `Secret.caBundleHash` : the hash of a complete secret, or what it lacks.
* `tlsInputHashes` : the inputs of an instance that are secrets, read from the cluster.
-/

namespace RedisControl

/-- What is wrong with a secret. -/
inductive SecretProblem where
  | notFound (ns name : String)
  | noData (name : String)
  /-- The secret lacks a key, or the key is empty. -/
  | missingKey (name key : String)
  deriving DecidableEq

/-- What is said of a problem with a secret. -/
def SecretProblem.message : SecretProblem → String
  | .notFound ns name => "secret " ++ ns ++ "/" ++ name ++ " not found"
  | .noData name => "secret " ++ name ++ " has no data"
  | .missingKey name key => "secret " ++ name ++ " is missing key '" ++ key ++ "'"

/-- A problem with a secret as an error of a pass. -/
def SecretProblem.toError (p : SecretProblem) : ControlError := .invalidTlsInput p.message

namespace Secret

/-- The name under which a secret is spoken of. -/
def name (s : Secret) : String := s.metadata.nameOrGenerated

/-- Whether a secret has a value under a key that is not empty. -/
def hasValue (data : StringMap (List UInt8)) (key : String) : Bool :=
  (data.get? key).any fun bytes => !bytes.isEmpty

/-- Check that a secret has all of some keys. -/
def requireKeys (s : Secret) (keys : List String) : Except SecretProblem Unit :=
  match s.data with
  | none => .error (.noData s.name)
  | some data =>
    match keys.find? fun key => !hasValue data key with
    | none => .ok ()
    | some key => .error (.missingKey s.name key)

theorem requireKeys_eq_ok_iff {s : Secret} {keys : List String} :
    s.requireKeys keys = .ok () ↔
      ∃ data, s.data = some data ∧ ∀ key ∈ keys, hasValue data key = true := by
  unfold requireKeys
  cases s.data with
  | none => simp
  | some data =>
    simp only [Option.some.injEq, exists_eq_left']
    cases hfind : keys.find? fun key => !hasValue data key with
    | none =>
      have hall : ∀ key ∈ keys, hasValue data key = true := by
        simpa using List.find?_eq_none.1 hfind
      exact iff_of_true rfl hall
    | some key =>
      have hlacks : hasValue data key = false := by simpa using List.find?_some hfind
      refine iff_of_false (by simp) ?_
      intro hall
      rw [hall key (List.mem_of_find?_eq_some hfind)] at hlacks
      cases hlacks

/-- What is missing is reported by the first key that has no value. -/
theorem requireKeys_eq_error_iff {s : Secret} {keys : List String} {p : SecretProblem} :
    s.requireKeys keys = .error p ↔
      (s.data = none ∧ p = .noData s.name) ∨
        ∃ data before key after, s.data = some data ∧ keys = before ++ key :: after ∧
          (∀ k ∈ before, hasValue data k = true) ∧ hasValue data key = false ∧
          p = .missingKey s.name key := by
  constructor
  · intro herror
    unfold requireKeys at herror
    cases hdata : s.data with
    | none =>
      rw [hdata] at herror
      exact Or.inl ⟨rfl, (Except.error.inj herror).symm⟩
    | some data =>
      simp only [hdata] at herror
      cases hfind : keys.find? fun key => !hasValue data key with
      | none =>
        rw [hfind] at herror
        cases herror
      | some key =>
        simp only [hfind, Except.error.injEq] at herror
        obtain ⟨hlacks, before, after, hkeys, hbefore⟩ := List.find?_eq_some_iff_append.1 hfind
        exact Or.inr ⟨data, before, key, after, rfl, hkeys, by simpa using hbefore,
          by simpa using hlacks, herror.symm⟩
  · rintro (⟨hdata, rfl⟩ | ⟨data, before, key, after, hdata, hkeys, hbefore, hlacks, rfl⟩)
    · rw [requireKeys, hdata]
    · have hfind : keys.find? (fun key => !hasValue data key) = some key :=
        List.find?_eq_some_iff_append.2
          ⟨by simpa using hlacks, before, after, hkeys, by simpa using hbefore⟩
      simp only [requireKeys, hdata, hfind]

/-- The keys that a certificate secret needs. -/
def certificateKeys (needsIssuer : Bool) : List String :=
  [TlsKey.certificate, TlsKey.privateKey] ++ if needsIssuer then [TlsKey.issuer] else []

/-- The hash of a certificate secret that has what it needs. -/
def certificateHash (s : Secret) (needsIssuer : Bool) : Except SecretProblem String :=
  (s.requireKeys (certificateKeys needsIssuer)).map fun _ => contentHash s.dataJson

/-- The hash of a secret that has a bundle of authorities. -/
def caBundleHash (s : Secret) : Except SecretProblem String :=
  (s.requireKeys [TlsKey.caBundle]).map fun _ => contentHash s.dataJson

end Secret

/-- Read a secret that has to be there, and hash it. -/
def secretHash (ns name : String) (hash : Secret → Except SecretProblem String) :
    Program Cluster (Except ControlError String) := do
  match ← Cluster.getSecret ns name with
  | .error e => return .error e
  | .ok none => return .error (SecretProblem.notFound ns name).toError
  | .ok (some s) => return (hash s).mapError SecretProblem.toError

/-- Read and hash a secret if one is referred to, and add it to inputs. -/
def addSecretHash (ns : String) (ref : Option String) (input : String)
    (hash : Secret → Except SecretProblem String) (inputs : InputHashes) :
    Program Cluster (Except ControlError InputHashes) := do
  match ref with
  | none => return .ok inputs
  | some name =>
    match ← secretHash ns name hash with
    | .error e => return .error e
    | .ok h => return .ok (inputs.insert input h)

/-- The inputs of an instance that are secrets: the certificate, then the bundle. -/
def tlsInputHashes (r : Redis) : Program Cluster (Except ControlError InputHashes) := do
  let ns := r.metadata.ns.getD ""
  let tls := r.spec.tls
  let withCertificate ← addSecretHash ns tls.certificate? InputName.certificate
    (·.certificateHash tls.caBundle?.isNone) .empty
  match withCertificate with
  | .error e => return .error e
  | .ok inputs =>
    addSecretHash ns tls.caBundle? InputName.caBundle Secret.caBundleHash inputs

end RedisControl
