import RedisControl.Proofs.Steps

/-!
# The inputs that are secrets

The TLS inputs of an instance come of at most two reads, the certificate and then the bundle, and
of nothing else. So the answers to these reads determine the result, and where it is good, the
inputs are the hashes of exactly the data that was read.

* `tlsResult` : what reading the TLS inputs comes to, given the answers to the reads of secrets.
* `tlsResult_of_runs` : that is what every run with these answers comes to.
* `runs_tlsInputHashes_ok` : good inputs are the hashes of the secrets that were read.
* `runs_ensureTlsInputs` : the step of a pass that reads them.
-/

namespace RedisControl

open Program

/-- The names of the inputs of an instance that are secrets. -/
def Redis.secretInputNames (r : Redis) : List String :=
  (r.spec.tls.certificate?.toList.map fun _ => InputName.certificate) ++
    r.spec.tls.caBundle?.toList.map fun _ => InputName.caBundle

/-- The hash of the data of a secret, whatever keys it has. -/
def Secret.dataHash (s : Secret) : String := contentHash s.dataJson

/-! ## One secret -/

namespace Secret

/-- A secret that is checked for keys has a hash where it has them all, that of its data. -/
theorem map_requireKeys_iff {s : Secret} {keys : List String} {h : String} :
    (s.requireKeys keys).map (fun _ => contentHash s.dataJson) = .ok h ↔
      s.requireKeys keys = .ok () ∧ h = s.dataHash := by
  constructor
  · intro hs
    cases hk : s.requireKeys keys with
    | error p => rw [hk] at hs; cases hs
    | ok u => rw [hk] at hs; exact ⟨rfl, (Except.ok.inj hs).symm⟩
  · rintro ⟨hk, rfl⟩
    rw [hk]
    rfl

theorem hash_of_certificateHash {s : Secret} {needsIssuer : Bool} {h : String}
    (hs : s.certificateHash needsIssuer = .ok h) : h = s.dataHash :=
  (map_requireKeys_iff.1 hs).2

theorem hash_of_caBundleHash {s : Secret} {h : String} (hs : s.caBundleHash = .ok h) :
    h = s.dataHash :=
  (map_requireKeys_iff.1 hs).2

end Secret

/-- What the answer to the read of a secret that has to be there comes to. -/
def secretHashOf (ns name : String) (hash : Secret → Except SecretProblem String) :
    Except ControlError (Option Secret) → Except ControlError String
  | .error e => .error e
  | .ok none => .error (SecretProblem.notFound ns name).toError
  | .ok (some s) => (hash s).mapError SecretProblem.toError

theorem secretHashOf_ok {ns name : String} {hash : Secret → Except SecretProblem String}
    {a : Except ControlError (Option Secret)} {h : String}
    (ha : secretHashOf ns name hash a = .ok h) : ∃ s, a = .ok (some s) ∧ hash s = .ok h := by
  match a, ha with
  | .ok (some s), ha =>
    refine ⟨s, rfl, ?_⟩
    have hm : (hash s).mapError SecretProblem.toError = .ok h := ha
    cases hs : hash s with
    | error p => rw [hs] at hm; cases hm
    | ok h' => rw [hs] at hm; rw [Except.ok.inj hm]

theorem runs_secretHash {ns name : String} {hash : Secret → Except SecretProblem String}
    {t : Trace} {x : Except ControlError String} :
    Runs (secretHash ns name hash) t x ↔
      ∃ a, t = [⟨.getSecret ns name, a⟩] ∧ x = secretHashOf ns name hash a := by
  unfold secretHash
  show Runs ((Cluster.getSecret ns name).bind _) t x ↔ _
  rw [runs_bind_iff]
  constructor
  · rintro ⟨t₁, t₂, a, rfl, h₁, h₂⟩
    obtain rfl := (runs_ask (I := Cluster) (c := .getSecret ns name)).1 h₁
    match a, h₂ with
    | .error e, h₂ | .ok none, h₂ | .ok (some s), h₂ =>
      obtain ⟨rfl, rfl⟩ := runs_done_iff.1 h₂
      exact ⟨_, rfl, rfl⟩
  · rintro ⟨a, rfl, rfl⟩
    refine ⟨_, [], a, rfl, (runs_ask (I := Cluster) (c := .getSecret ns name)).2 rfl, ?_⟩
    match a with
    | .error e | .ok none | .ok (some s) => exact .done _

theorem runs_addSecretHash_some {ns name input : String}
    {hash : Secret → Except SecretProblem String} {inputs : InputHashes} {t : Trace}
    {x : Except ControlError InputHashes} :
    Runs (addSecretHash ns (some name) input hash inputs) t x ↔
      ∃ a, t = [⟨.getSecret ns name, a⟩] ∧
        x = (secretHashOf ns name hash a).map (inputs.insert input) := by
  show Runs ((secretHash ns name hash).bind _) t x ↔ _
  rw [runs_bind_iff]
  constructor
  · rintro ⟨t₁, t₂, h, rfl, h₁, h₂⟩
    obtain ⟨a, rfl, rfl⟩ := runs_secretHash.1 h₁
    -- With or without a hash, nothing is called after the read.
    refine ⟨a, ?_, ?_⟩ <;> cases hs : secretHashOf ns name hash a <;> rw [hs] at h₂ <;>
      obtain ⟨rfl, rfl⟩ := runs_done_iff.1 h₂ <;> rfl
  · rintro ⟨a, rfl, rfl⟩
    refine ⟨_, [], _, rfl, runs_secretHash.2 ⟨a, rfl, rfl⟩, ?_⟩
    cases secretHashOf ns name hash a <;> exact .done _

/-! ## All secrets -/

/-- An event that reads a secret. -/
def Event.IsSecretRead (e : Event Cluster) : Prop := e.secretAnswer?.isSome

theorem Trace.applications_reads {t : Trace} (h : ∀ e ∈ t, e.IsSecretRead) : applications t = [] := by
  refine List.filterMap_eq_nil_iff.2 ?_
  intro e he
  have hr := h e he
  rcases e with ⟨c, x⟩
  cases c <;> first | rfl | cases hr

theorem runs_addSecretHash_reads {ns : String} {ref : Option String} {input : String}
    {hash : Secret → Except SecretProblem String} {inputs : InputHashes} {t : Trace}
    {x : Except ControlError InputHashes} (run : Runs (addSecretHash ns ref input hash inputs) t x) :
    ∀ e ∈ t, e.IsSecretRead := by
  cases ref with
  | none =>
    obtain ⟨rfl, -⟩ := runs_done_iff.1 run
    simp
  | some name =>
    obtain ⟨a, rfl, -⟩ := runs_addSecretHash_some.1 run
    intro e he
    rw [List.mem_singleton.1 he]
    rfl

/-- The runs of reading the TLS inputs: the certificate, and the bundle unless that failed. -/
theorem runs_tlsInputHashes {r : Redis} {t : Trace} {x : Except ControlError InputHashes} :
    Runs (tlsInputHashes r) t x ↔
      ∃ t₁ t₂ y, t = t₁ ++ t₂ ∧
        Runs (addSecretHash (r.metadata.ns.getD "") r.spec.tls.certificate? InputName.certificate
          (·.certificateHash r.spec.tls.caBundle?.isNone) .empty) t₁ y ∧
        ((∃ e, y = .error e ∧ x = .error e ∧ t₂ = []) ∨
          ∃ inputs, y = .ok inputs ∧
            Runs (addSecretHash (r.metadata.ns.getD "") r.spec.tls.caBundle? InputName.caBundle
              Secret.caBundleHash inputs) t₂ x) := by
  unfold tlsInputHashes
  rw [bind_eq, runs_bind_iff]
  constructor
  · rintro ⟨t₁, t₂, y, rfl, h₁, h₂⟩
    refine ⟨t₁, t₂, y, rfl, h₁, ?_⟩
    cases y with
    | error e =>
      obtain ⟨rfl, rfl⟩ := runs_done_iff.1 h₂
      exact Or.inl ⟨e, rfl, rfl, rfl⟩
    | ok inputs => exact Or.inr ⟨inputs, rfl, h₂⟩
  · rintro ⟨t₁, t₂, y, rfl, h₁, ⟨e, rfl, rfl, rfl⟩ | ⟨inputs, rfl, h₂⟩⟩
    · exact ⟨t₁, [], .error e, rfl, h₁, .done _⟩
    · exact ⟨t₁, t₂, .ok inputs, rfl, h₁, h₂⟩

theorem runs_tlsInputHashes_reads {r : Redis} {t : Trace} {x : Except ControlError InputHashes}
    (run : Runs (tlsInputHashes r) t x) : ∀ e ∈ t, e.IsSecretRead := by
  obtain ⟨t₁, t₂, y, rfl, h₁, ⟨e, -, -, rfl⟩ | ⟨inputs, -, h₂⟩⟩ := runs_tlsInputHashes.1 run
  · rw [List.append_nil]
    exact runs_addSecretHash_reads h₁
  · intro e he
    rcases List.mem_append.1 he with he | he
    · exact runs_addSecretHash_reads h₁ e he
    · exact runs_addSecretHash_reads h₂ e he

theorem runs_addSecretHash_ok {ns : String} {ref : Option String} {input : String}
    {hash : Secret → Except SecretProblem String} (hhash : ∀ s h, hash s = .ok h → h = s.dataHash)
    {inputs inputs' : InputHashes} {t : Trace}
    (run : Runs (addSecretHash ns ref input hash inputs) t (.ok inputs')) :
    (Trace.secrets t).length = (ref.toList.map fun _ => input).length ∧
      inputs' = inputs.insertAll
        ((ref.toList.map fun _ => input).zip ((Trace.secrets t).map Secret.dataHash)) := by
  cases ref with
  | none =>
    obtain ⟨rfl, h⟩ := runs_done_iff.1 run
    exact ⟨rfl, Except.ok.inj h⟩
  | some name =>
    obtain ⟨a, rfl, h⟩ := runs_addSecretHash_some.1 run
    cases ha : secretHashOf ns name hash a with
    | error e => rw [ha] at h; cases h
    | ok digest =>
      rw [ha] at h
      obtain ⟨s, rfl, hs⟩ := secretHashOf_ok ha
      obtain rfl := hhash s digest hs
      exact ⟨rfl, Except.ok.inj h⟩

/-- Where reading the TLS inputs succeeds, the inputs are the hashes of the secrets that were
read, one for each that the instance refers to. -/
theorem runs_tlsInputHashes_ok {r : Redis} {t : Trace} {inputs : InputHashes}
    (run : Runs (tlsInputHashes r) t (.ok inputs)) :
    (Trace.secrets t).length = r.secretInputNames.length ∧
      inputs = InputHashes.empty.insertAll
        (r.secretInputNames.zip ((Trace.secrets t).map Secret.dataHash)) := by
  obtain ⟨t₁, t₂, y, rfl, h₁, ⟨e, -, h, -⟩ | ⟨withCert, rfl, h₂⟩⟩ := runs_tlsInputHashes.1 run
  · cases h
  obtain ⟨hl₁, rfl⟩ := runs_addSecretHash_ok (fun _ _ => Secret.hash_of_certificateHash) h₁
  obtain ⟨hl₂, rfl⟩ := runs_addSecretHash_ok (fun _ _ => Secret.hash_of_caBundleHash) h₂
  rw [Trace.secrets_append]
  constructor
  · rw [List.length_append, hl₁, hl₂, Redis.secretInputNames, List.length_append]
  · rw [Redis.secretInputNames, List.map_append, List.zip_append (by rw [← hl₁, List.length_map]),
      InputHashes.insertAll_append]

/-! ## The result, from the answers -/

/-- A cluster that answers the reads of secrets from a list. -/
def secretScript : Handler Cluster (List (Except ControlError (Option Secret)))
  | .getSecret _ _, a :: rest => (a, rest)
  | .getSecret _ _, [] => (.ok none, [])
  | .getRedis _ _, rest => (.ok none, rest)
  | .patchStatus _, rest => (.ok (), rest)
  | .apply _, rest => (.ok (.pending .zero), rest)
  | .now, rest => ("", rest)

/-- What a program that reads nothing but secrets comes to is determined by the answers. -/
theorem run_secretScript {α : Type} {p : Program Cluster α} {t : Trace} {a : α}
    (run : Runs p t a) (ht : ∀ e ∈ t, e.IsSecretRead)
    (rest : List (Except ControlError (Option Secret))) :
    p.run secretScript (Trace.secretAnswers t ++ rest) = (a, rest) := by
  induction run with
  | done a => rfl
  | @call c next x t a _ ih =>
    rw [List.forall_mem_cons] at ht
    cases c with
    | getSecret ns name => exact ih ht.2
    | _ => cases ht.1

/-- What reading the TLS inputs comes to, given the answers to the reads of secrets. -/
def tlsResult (r : Redis) (answers : List (Except ControlError (Option Secret))) :
    Except ControlError InputHashes :=
  ((tlsInputHashes r).run secretScript answers).1

theorem tlsResult_of_runs {r : Redis} {t : Trace} {x : Except ControlError InputHashes}
    (run : Runs (tlsInputHashes r) t x) : tlsResult r (Trace.secretAnswers t) = x := by
  have h := run_secretScript run (runs_tlsInputHashes_reads run) []
  rw [List.append_nil] at h
  rw [tlsResult, h]

/-! ## The step -/

/-- How a pass goes on after its TLS inputs. -/
def Progress.ofResult {α : Type} : Except ControlError α → Progress α
  | .ok a => .proceed a
  | .error e => .finish (.error e)

theorem Progress.ofResult_eq_proceed {α : Type} {result : Except ControlError α} {a : α}
    (h : ofResult result = .proceed a) : result = .ok a := by
  cases result with
  | ok b => rw [Progress.proceed.inj h]
  | error e => cases h

theorem Progress.ofResult_eq_finish {α : Type} {result : Except ControlError α} {e : Ending}
    (h : ofResult result = .finish e) : ∃ e', result = .error e' ∧ e = .error e' := by
  cases result with
  | ok b => cases h
  | error e' => exact ⟨e', rfl, (Progress.finish.inj h).symm⟩

/-- Reads of secrets come before what else is done. -/
theorem Effect.reads {reads t : Trace} {ms : List Mark} {s s' : Status}
    (h : ∀ e ∈ reads, e.IsSecretRead) (heff : Effect t [] ms s s') :
    Effect (reads ++ t) reads ms s s' := by
  have htimes : Trace.times reads = [] := by
    refine List.filterMap_eq_nil_iff.2 ?_
    intro e he
    have hr := h e he
    rcases e with ⟨c, x⟩
    cases c <;> first | rfl | cases hr
  refine ⟨?_, ?_, ?_⟩
  · rw [Trace.exchange_append, heff.exchange, List.append_nil]
    refine List.filter_eq_self.2 ?_
    intro e he
    rw [List.filterMap_eq_nil_iff.1 htimes e he]
    rfl
  · rw [Trace.times_append, htimes]
    exact heff.length_times
  · rw [Trace.times_append, htimes]
    exact heff.noted

theorem runs_ensureTlsInputs {r : Redis} {s s' : Status} {t : Trace} {x : Progress InputHashes}
    (run : Runs (ensureTlsInputs r s) t (x, s')) :
    ∃ reads result, Runs (tlsInputHashes r) reads result ∧ x = .ofResult result ∧
      Effect t reads [tlsMark result] s s' := by
  obtain ⟨reads, t₂, result, rfl, h₁, h₂⟩ := Step.runs_lift_bind.1 run
  refine ⟨reads, result, h₁, ?_⟩
  match result, h₁, h₂ with
  | .ok inputs, h₁, h₂ =>
    obtain ⟨τ, t₃, rfl, h₃⟩ := (Step.runs_enter_bind (m := .reached .tlsInput)).1 h₂
    obtain ⟨rfl, rfl, rfl⟩ := Step.runs_proceed.1 h₃
    exact ⟨rfl, .reads (runs_tlsInputHashes_reads h₁) (.enter (.nil _))⟩
  | .error e, h₁, h₂ =>
    obtain ⟨τ, t₃, rfl, h₃⟩ := (Step.runs_enter_bind
      (m := .failed .tlsInput ("Error with TLS input: " ++ e.message))).1 h₂
    obtain ⟨rfl, rfl, rfl⟩ := Step.runs_finish.1 h₃
    exact ⟨rfl, .reads (runs_tlsInputHashes_reads h₁) (.enter (.nil _))⟩

end RedisControl
