import RedisControl.Proofs.SecretInputs
import RedisControl.Proofs.SteadyCluster

/-!
# The TLS inputs are exact

**Theorem (`tls_inputs_exact`).** Whatever the cluster answers, the TLS inputs of an instance can be
read exactly where each secret that the spec names is there with all that it has to have: the
certificate with its key pair, and with its issuer if there is no bundle, the bundle with the
authorities. Then there is one input for each of them, the hash of the data of that secret.
Otherwise the error is that of the first flaw, the certificate before the bundle.

A secret that the spec may name is a demand (`SecretDemand`): the keys that the secret has to have,
and the input that it becomes. The certificate and the bundle are two demands that are read in one
way, so everything is shown once, of a demand. The cluster may change with each read; the bundle is
judged by what is answered after the read of the certificate.

* `Secret.Complete`, `Secret.Flaw` : an answer has what it has to have, or what is wrong with it.
* `SecretDemand.add_eq_ok_iff`, `SecretDemand.add_eq_error_iff` : what reading a demand comes to.
* `tlsInputHashes_eq` : the TLS inputs are those of two demands, one after the other.
-/

namespace RedisControl

open Program

/-! ## One answer -/

namespace Secret

/-- There is a value under a key, and it is not empty. -/
def Has (data : StringMap (List UInt8)) (key : String) : Prop :=
  ∃ bytes, data.get? key = some bytes ∧ bytes ≠ []

theorem hasValue_iff {data : StringMap (List UInt8)} {key : String} :
    hasValue data key = true ↔ Has data key := by
  simp [hasValue, Has, Option.any_eq_true]

theorem hasValue_eq_false_iff {data : StringMap (List UInt8)} {key : String} :
    hasValue data key = false ↔ ¬ Has data key := by
  rw [← hasValue_iff, Bool.not_eq_true]

/-- An answer to the read of a secret is one with these data, which have all of some keys. -/
def Complete (keys : List String) (a : Except ControlError (Option Secret))
    (data : StringMap (List UInt8)) : Prop :=
  ∃ s, a = .ok (some s) ∧ s.data = some data ∧ ∀ key ∈ keys, Has data key

/-- What is wrong with the answer to the read of a secret that has to have some keys, as the error
that it is reported with. -/
inductive Flaw (ns name : String) (keys : List String) :
    Except ControlError (Option Secret) → ControlError → Prop where
  /-- The read failed, and its own error is passed on. -/
  | unread (e : ControlError) : Flaw ns name keys (.error e) e
  | notFound : Flaw ns name keys (.ok none)
      (.invalidTlsInput ("secret " ++ ns ++ "/" ++ name ++ " not found"))
  | noData {s : Secret} (hdata : s.data = none) : Flaw ns name keys (.ok (some s))
      (.invalidTlsInput ("secret " ++ s.name ++ " has no data"))
  /-- A key has no value, and all keys before it have one. -/
  | lacks {s : Secret} {data : StringMap (List UInt8)} {before after : List String} {key : String}
      (hdata : s.data = some data) (hkeys : keys = before ++ key :: after)
      (hbefore : ∀ k ∈ before, Has data k) (hkey : ¬ Has data key) :
      Flaw ns name keys (.ok (some s))
        (.invalidTlsInput ("secret " ++ s.name ++ " is missing key '" ++ key ++ "'"))

/-- The hash of the data of a secret that has some keys. -/
def hashWith (keys : List String) (s : Secret) : Except SecretProblem String :=
  (s.requireKeys keys).map fun _ => contentHash s.dataJson

theorem hashWith_eq_error_iff {keys : List String} {s : Secret} {p : SecretProblem} :
    s.hashWith keys = .error p ↔ s.requireKeys keys = .error p := by
  unfold hashWith
  cases s.requireKeys keys <;> simp [Except.map]

end Secret

section

variable {ns name : String} {keys : List String} {a : Except ControlError (Option Secret)}

theorem secretHashOf_eq_ok_iff {digest : String} :
    secretHashOf ns name (Secret.hashWith keys) a = .ok digest ↔
      ∃ data, Secret.Complete keys a data ∧
        digest = contentHash (.ofMap Secret.writeBytes data) := by
  constructor
  · intro hok
    obtain ⟨s, rfl, hhash⟩ := secretHashOf_ok hok
    obtain ⟨hrequired, rfl⟩ := Secret.map_requireKeys_iff.1 hhash
    obtain ⟨data, hdata, hvalues⟩ := Secret.requireKeys_eq_ok_iff.1 hrequired
    refine ⟨data, ⟨s, rfl, hdata, fun key hkey => Secret.hasValue_iff.1 (hvalues key hkey)⟩, ?_⟩
    rw [Secret.dataHash, Secret.dataJson, hdata]
  · rintro ⟨data, ⟨s, rfl, hdata, hvalues⟩, rfl⟩
    have hrequired : s.requireKeys keys = .ok () :=
      Secret.requireKeys_eq_ok_iff.2
        ⟨data, hdata, fun key hkey => Secret.hasValue_iff.2 (hvalues key hkey)⟩
    simp only [secretHashOf, Secret.hashWith, hrequired, Secret.dataJson, hdata]
    rfl

theorem secretHashOf_eq_error_iff {e : ControlError} :
    secretHashOf ns name (Secret.hashWith keys) a = .error e ↔ Secret.Flaw ns name keys a e := by
  constructor
  · intro herror
    match a, herror with
    | .error e', herror =>
      obtain rfl := Except.error.inj herror
      exact .unread e'
    | .ok none, herror =>
      obtain rfl := Except.error.inj herror
      exact .notFound
    | .ok (some s), herror =>
      have hmapped : (s.hashWith keys).mapError SecretProblem.toError = .error e := herror
      cases hhash : s.hashWith keys with
      | ok digest =>
        rw [hhash] at hmapped
        cases hmapped
      | error p =>
        rw [hhash] at hmapped
        -- Keys are looked at in order, so the error is of the first one that is missing.
        obtain rfl := Except.error.inj hmapped
        rcases Secret.requireKeys_eq_error_iff.1 (Secret.hashWith_eq_error_iff.1 hhash) with
          ⟨hdata, rfl⟩ | ⟨data, before, key, after, hdata, hkeys, hbefore, hlacks, rfl⟩
        · exact .noData hdata
        · exact .lacks hdata hkeys (fun k hk => Secret.hasValue_iff.1 (hbefore k hk))
            (Secret.hasValue_eq_false_iff.1 hlacks)
  · intro hflaw
    have hproblem : ∀ {s : Secret} {p : SecretProblem}, s.requireKeys keys = .error p →
        secretHashOf ns name (Secret.hashWith keys) (.ok (some s)) = .error p.toError := by
      intro s p hrequired
      rw [secretHashOf, Secret.hashWith_eq_error_iff.2 hrequired]
      rfl
    cases hflaw with
    | unread e => rfl
    | notFound => rfl
    | noData hdata => exact hproblem (Secret.requireKeys_eq_error_iff.2 (Or.inl ⟨hdata, rfl⟩))
    | @lacks s data before after key hdata hkeys hbefore hkey =>
      refine hproblem (Secret.requireKeys_eq_error_iff.2 (Or.inr
        ⟨data, before, key, after, hdata, hkeys, ?_, Secret.hasValue_eq_false_iff.2 hkey, rfl⟩))
      exact fun k hk => Secret.hasValue_iff.2 (hbefore k hk)

end

/-! ## Demands -/

/-- A secret that a spec may name. -/
structure SecretDemand where
  /-- What the spec gives as the name. No name and the empty name stand for no secret. -/
  field : Option String
  keys : List String
  input : String

/-- What a cluster in some state answers to the read of a secret. -/
def secretAnswer {σ : Type} (h : Handler Cluster σ) (ns : String) (st : σ) (name : String) :
    Except ControlError (Option Secret) :=
  (h (.getSecret ns name) st).1

/-- The run of the read of a secret that has to be there. -/
theorem run_secretHash {σ : Type} {h : Handler Cluster σ} {ns name : String} {st : σ}
    {hash : Secret → Except SecretProblem String} :
    (secretHash ns name hash).run h st =
      (secretHashOf ns name hash (secretAnswer h ns st name), (h (.getSecret ns name) st).2) := by
  have hread : (Cluster.getSecret ns name).run h st = h (.getSecret ns name) st := rfl
  rw [secretHash, bind_eq, run_bind, hread, secretAnswer]
  rcases h (.getSecret ns name) st with ⟨e | _ | s, st'⟩ <;> rfl

namespace SecretDemand

def name? (d : SecretDemand) : Option String := d.field.filter (· != "")

/-- The secret is there with all that it has to have, if one is named. -/
def Met (d : SecretDemand) (answer : (name : String) → Except ControlError (Option Secret)) :
    Prop :=
  ∀ name ∈ d.name?, ∃ data, Secret.Complete d.keys (answer name) data

/-- There is a flaw in the secret that is named. -/
def Refused (d : SecretDemand) (ns : String)
    (answer : (name : String) → Except ControlError (Option Secret)) (e : ControlError) : Prop :=
  ∃ name ∈ d.name?, Secret.Flaw ns name d.keys (answer name) e

/-- The input of the demand is the hash of the data of the secret, if one is named. -/
def HashedIn (d : SecretDemand) (inputs : InputHashes)
    (answer : (name : String) → Except ControlError (Option Secret)) : Prop :=
  ∀ name ∈ d.name?, ∃ s data, answer name = .ok (some s) ∧ s.data = some data ∧
    inputs.byName.get? d.input = some (contentHash (.ofMap Secret.writeBytes data))

/-- Read the secret if one is named, and add its hash to inputs. -/
def add (d : SecretDemand) (ns : String) (inputs : InputHashes) :
    Program Cluster (Except ControlError InputHashes) :=
  addSecretHash ns d.name? d.input (Secret.hashWith d.keys) inputs

/-- The state of the cluster after the read. -/
def after {σ : Type} (d : SecretDemand) (h : Handler Cluster σ) (ns : String) (st : σ) : σ :=
  d.name?.elim st fun name => (h (.getSecret ns name) st).2

section

variable {d : SecretDemand} {σ : Type} {h : Handler Cluster σ} {ns : String} {st : σ}
  {inputs inputs' : InputHashes}

theorem run_add_none (hname : d.name? = none) : (d.add ns inputs).run h st = (.ok inputs, st) := by
  rw [add, hname]
  rfl

theorem run_add_some {name : String} (hname : d.name? = some name) :
    (d.add ns inputs).run h st =
      ((secretHashOf ns name (Secret.hashWith d.keys) (secretAnswer h ns st name)).map
        (inputs.insert d.input), (h (.getSecret ns name) st).2) := by
  rw [add, hname]
  show ((secretHash ns name (Secret.hashWith d.keys)).bind _).run h st = _
  rw [run_bind, run_secretHash]
  cases secretHashOf ns name (Secret.hashWith d.keys) (secretAnswer h ns st name) <;> rfl

theorem run_add_snd : ((d.add ns inputs).run h st).2 = d.after h ns st := by
  cases hname : d.name? with
  | none => rw [run_add_none hname, after, hname]; rfl
  | some name => rw [run_add_some hname, after, hname]; rfl

/-- The read succeeds where the demand is met. With no secret named the inputs stay as they are,
otherwise they get the hash of its data. -/
theorem add_eq_ok_iff : ((d.add ns inputs).run h st).1 = .ok inputs' ↔
    (d.name? = none ∧ inputs' = inputs) ∨
      ∃ name data, d.name? = some name ∧
        Secret.Complete d.keys (secretAnswer h ns st name) data ∧
        inputs' = inputs.insert d.input (contentHash (.ofMap Secret.writeBytes data)) := by
  cases hname : d.name? with
  | none => simp [run_add_none hname, eq_comm]
  | some name =>
    have hmap : ∀ x : Except ControlError String, x.map (inputs.insert d.input) = .ok inputs' ↔
        ∃ digest, x = .ok digest ∧ inputs' = inputs.insert d.input digest := by
      rintro (e | digest) <;> simp [Except.map, eq_comm]
    rw [run_add_some hname, hmap]
    constructor
    · rintro ⟨digest, hdigest, rfl⟩
      obtain ⟨data, hcomplete, rfl⟩ := secretHashOf_eq_ok_iff.1 hdigest
      exact Or.inr ⟨name, data, rfl, hcomplete, rfl⟩
    · rintro (⟨hnone, -⟩ | ⟨name', data, hname', hcomplete, rfl⟩)
      · cases hnone
      · obtain rfl := Option.some.inj hname'
        exact ⟨_, secretHashOf_eq_ok_iff.2 ⟨data, hcomplete, rfl⟩, rfl⟩

/-- Whether the read succeeds does not depend on the inputs that were there. -/
theorem exists_add_eq_ok_iff :
    (∃ inputs', ((d.add ns inputs).run h st).1 = .ok inputs') ↔ d.Met (secretAnswer h ns st) := by
  simp only [add_eq_ok_iff]
  unfold Met
  constructor
  · rintro ⟨_, ⟨hnone, -⟩ | ⟨name, data, hname, hcomplete, -⟩⟩ name' hname'
    · rw [hnone] at hname'
      cases hname'
    · obtain rfl := Option.some.inj (hname.symm.trans hname')
      exact ⟨data, hcomplete⟩
  · intro hmet
    cases hname : d.name? with
    | none => exact ⟨inputs, Or.inl ⟨rfl, rfl⟩⟩
    | some name =>
      obtain ⟨data, hcomplete⟩ := hmet name hname
      exact ⟨_, Or.inr ⟨name, data, rfl, hcomplete, rfl⟩⟩

theorem add_eq_error_iff {e : ControlError} : ((d.add ns inputs).run h st).1 = .error e ↔
    d.Refused ns (secretAnswer h ns st) e := by
  unfold Refused
  cases hname : d.name? with
  | none => simp [run_add_none hname]
  | some name =>
    simp only [run_add_some hname, Option.mem_some_iff, exists_eq_left',
      ← secretHashOf_eq_error_iff]
    cases secretHashOf ns name (Secret.hashWith d.keys) (secretAnswer h ns st name) <;>
      simp [Except.map]

theorem get?_of_add (hok : ((d.add ns inputs).run h st).1 = .ok inputs') {input : String}
    (hne : d.input ≠ input) : inputs'.byName.get? input = inputs.byName.get? input := by
  rcases add_eq_ok_iff.1 hok with ⟨-, rfl⟩ | ⟨name, data, -, -, rfl⟩
  · rfl
  · exact (StringMap.get?_insert ..).trans (if_neg hne)

theorem mem_names_of_add (hok : ((d.add ns inputs).run h st).1 = .ok inputs') {input : String} :
    input ∈ inputs'.names ↔ (input = d.input ∧ d.name?.isSome) ∨ input ∈ inputs.names := by
  rcases add_eq_ok_iff.1 hok with ⟨hname, rfl⟩ | ⟨name, data, hname, -, rfl⟩
  · simp [hname]
  · by_cases heq : d.input = input
    · simp [InputHashes.names, InputHashes.insert, StringMap.mem_keys_iff, hname, heq]
    · simp [InputHashes.names, InputHashes.insert, StringMap.mem_keys_iff, hname, heq, Ne.symm heq]

theorem hashedIn_of_add (hok : ((d.add ns inputs).run h st).1 = .ok inputs') :
    d.HashedIn inputs' (secretAnswer h ns st) := by
  intro name hname
  rcases add_eq_ok_iff.1 hok with ⟨hnone, -⟩ | ⟨name', data, hname', ⟨s, hs, hdata, -⟩, rfl⟩
  · rw [hnone] at hname
    cases hname
  · obtain rfl := Option.some.inj (hname'.symm.trans hname)
    exact ⟨s, data, hs, hdata, (StringMap.get?_insert ..).trans (if_pos rfl)⟩

end

end SecretDemand

/-! ## The two demands of an instance -/

namespace Redis

/-- The certificate has to come with its key, and with the authority that issued it where there is
no bundle. -/
def certificateDemand (r : Redis) : SecretDemand where
  field := r.spec.tls.secretName
  keys := ["tls.crt", "tls.key"] ++ if r.spec.tls.caBundleSecretName = "" then ["ca.crt"] else []
  input := "Cert"

def bundleDemand (r : Redis) : SecretDemand where
  field := some r.spec.tls.caBundleSecretName
  keys := ["tls-ca-bundle.pem"]
  input := "CA"

theorem name?_bundleDemand (r : Redis) : r.bundleDemand.name? = r.spec.tls.caBundle? := by
  by_cases hname : r.spec.tls.caBundleSecretName = "" <;>
    simp [SecretDemand.name?, bundleDemand, Tls.caBundle?, hname]

theorem keys_certificateDemand (r : Redis) :
    r.certificateDemand.keys = Secret.certificateKeys r.spec.tls.caBundle?.isNone := by
  by_cases hname : r.spec.tls.caBundleSecretName = "" <;>
    simp [certificateDemand, Secret.certificateKeys, Tls.caBundle?, hname, TlsKey.certificate,
      TlsKey.privateKey, TlsKey.issuer]

end Redis

theorem tlsInputHashes_eq (r : Redis) :
    tlsInputHashes r = (r.certificateDemand.add (r.metadata.ns.getD "") .empty).bind fun
      | .error e => .done (.error e)
      | .ok inputs => r.bundleDemand.add (r.metadata.ns.getD "") inputs := by
  unfold SecretDemand.add
  rw [r.name?_bundleDemand, r.keys_certificateDemand]
  rfl

section

variable {r : Redis} {σ : Type} {h : Handler Cluster σ} {st : σ}

theorem tlsInputHashes_eq_ok_iff {inputs : InputHashes} :
    ((tlsInputHashes r).run h st).1 = .ok inputs ↔ ∃ inputs₁,
      ((r.certificateDemand.add (r.metadata.ns.getD "") .empty).run h st).1 = .ok inputs₁ ∧
      ((r.bundleDemand.add (r.metadata.ns.getD "") inputs₁).run h
        (r.certificateDemand.after h (r.metadata.ns.getD "") st)).1 = .ok inputs := by
  rw [tlsInputHashes_eq, run_bind, SecretDemand.run_add_snd]
  cases ((r.certificateDemand.add (r.metadata.ns.getD "") .empty).run h st).1 <;> simp

theorem tlsInputHashes_eq_error_iff {e : ControlError} :
    ((tlsInputHashes r).run h st).1 = .error e ↔
      ((r.certificateDemand.add (r.metadata.ns.getD "") .empty).run h st).1 = .error e ∨
      ∃ inputs₁,
        ((r.certificateDemand.add (r.metadata.ns.getD "") .empty).run h st).1 = .ok inputs₁ ∧
        ((r.bundleDemand.add (r.metadata.ns.getD "") inputs₁).run h
          (r.certificateDemand.after h (r.metadata.ns.getD "") st)).1 = .error e := by
  rw [tlsInputHashes_eq, run_bind, SecretDemand.run_add_snd]
  cases ((r.certificateDemand.add (r.metadata.ns.getD "") .empty).run h st).1 <;> simp

end

/-! ## The theorem -/

/-- **The TLS inputs are exact.** -/
theorem tls_inputs_exact (r : Redis) {σ : Type} (h : Handler Cluster σ) (st : σ) :
    let ns := r.metadata.ns.getD ""
    let result := ((tlsInputHashes r).run h st).1
    let certificate := secretAnswer h ns st
    let bundle := secretAnswer h ns (r.certificateDemand.after h ns st)
    ((∃ inputs, result = .ok inputs) ↔
      r.certificateDemand.Met certificate ∧ r.bundleDemand.Met bundle) ∧
    (∀ inputs, result = .ok inputs →
      (∀ input, input ∈ inputs.names ↔ (input = "Cert" ∧ r.spec.tls.enabled = true) ∨
        (input = "CA" ∧ r.spec.tls.caBundle?.isSome)) ∧
      r.certificateDemand.HashedIn inputs certificate ∧ r.bundleDemand.HashedIn inputs bundle) ∧
    ∀ e, result = .error e ↔ r.certificateDemand.Refused ns certificate e ∨
      (r.certificateDemand.Met certificate ∧ r.bundleDemand.Refused ns bundle e) := by
  intro ns result certificate bundle
  refine ⟨?_, ?_, ?_⟩
  · simp only [result, tlsInputHashes_eq_ok_iff]
    rw [exists_comm]
    simp only [exists_and_left, SecretDemand.exists_add_eq_ok_iff, exists_and_right]
    rfl
  · intro inputs hok
    obtain ⟨inputs₁, hcertificate, hbundle⟩ := tlsInputHashes_eq_ok_iff.1 hok
    refine ⟨?_, ?_, SecretDemand.hashedIn_of_add hbundle⟩
    · intro input
      have hempty : input ∉ InputHashes.empty.names := List.not_mem_nil
      rw [SecretDemand.mem_names_of_add hbundle, SecretDemand.mem_names_of_add hcertificate,
        r.name?_bundleDemand, or_iff_left hempty, or_comm]
      rfl
    · intro name hname
      obtain ⟨s, data, hs, hdata, hget⟩ := SecretDemand.hashedIn_of_add hcertificate name hname
      refine ⟨s, data, hs, hdata, ?_⟩
      -- The bundle is entered later, under another name.
      have hne : r.bundleDemand.input ≠ r.certificateDemand.input := by
        show "CA" ≠ "Cert"
        decide
      rw [SecretDemand.get?_of_add hbundle hne, hget]
  · intro e
    simp only [result, tlsInputHashes_eq_error_iff, SecretDemand.add_eq_error_iff,
      exists_and_right, SecretDemand.exists_add_eq_ok_iff]
    rfl

/-- An instance with a bundle, in a cluster where that secret has no data. -/
def SteadyCluster.bareBundle : SteadyCluster :=
  { plain fun _ => .ok (.converged .created none) with
    spec := { tls := { caBundleSecretName := "bundle" } }
    secret := fun _ _ => .ok (some {
      data := none
      immutable := none
      metadata := { name := some "bundle", ns := some "demo" }
      stringData := none
      type := none }) }

open SteadyCluster in
/-- A secret without data lacks every key, but it is not one of them that is reported. -/
theorem bareBundle_reported_without_key :
    let h := bareBundle.handler toString
    let bundle := secretAnswer h "demo" (none, 0) "bundle"
    let result := ((tlsInputHashes (bareBundle.redis none)).run h (none, 0)).1
    (∃ s, bundle = .ok (some s)) ∧ (¬ ∃ data, Secret.Complete ["tls-ca-bundle.pem"] bundle data) ∧
      result = .error (.invalidTlsInput "secret bundle has no data") ∧
      ∀ key, result ≠
        .error (.invalidTlsInput ("secret bundle is missing key '" ++ key ++ "'")) := by
  intro h bundle result
  have hresult : result = .error (.invalidTlsInput "secret bundle has no data") := rfl
  refine ⟨⟨_, rfl⟩, ?_, hresult, ?_⟩
  · rintro ⟨data, s, hs, hdata, -⟩
    obtain rfl := Option.some.inj (Except.ok.inj hs)
    cases hdata
  · intro key hkey
    rw [hresult] at hkey
    have htext : "secret bundle has no data" = "secret bundle is missing key '" ++ key ++ "'" := by
      injection hkey with herror
      injection herror
    have hchars := congrArg (fun text => text.toList[14]?) htext
    simp [String.toList_append] at hchars

end RedisControl
