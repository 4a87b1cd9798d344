import RedisControl.Proofs.PassPlan
import RedisControl.Proofs.PodVolumes
import RedisControl.Proofs.RenderedFiles

/-!
# The TLS files that the configuration names are there

**Theorem (`tls_files_exist`).** Take an instance with transport security, and a cluster from which
its TLS inputs can be read. What its configuration gives to the three options for TLS files, and
its readiness script to `--cacert`, is one path each; in the pods a secret is mounted at its
directory, and that secret has a value under the name of the file.

Three places decide on the same two facts: the templates on the file with the authorities
(`Redis.caFile`), the pods on the secrets that they mount (`Redis.mountedVolumes`), and the reads
on the keys that a secret has to have (`Secret.certificateKeys`). The bundle and the issuer of the
certificate are one case distinction, made once for each of the three.

* `Redis.exists_secret_of_ok` : where the TLS inputs can be read, every secret is valid.
* `Redis.hasSecretFile_of_read` : a secret that is mounted and read has the files it is checked for.
* `Redis.hasSecretFile_caFile` : the file with the authorities.
-/

namespace RedisControl

open Program

/-- A path in the pods leads to a file of a secret: a secret is mounted at the directory and has a
value under the name of the file. -/
def PodSpec.HasSecretFile (p : PodSpec)
    (secrets : (name : String) → Except ControlError (Option Secret)) (path : String) : Prop :=
  ∃ mountPath key v name s data, path = mountPath ++ "/" ++ key ∧ p.HasAt mountPath v ∧
    v.secret.bind (·.secretName) = some name ∧ secrets name = .ok (some s) ∧
    s.data = some data ∧ Secret.hasValue data key = true

/-! ## Secrets that were read -/

section

variable {r : Redis} {σ : Type} {h : Handler Cluster σ} {st : σ} {inputs : InputHashes}

theorem Redis.exists_secret_of_ok (succeeds : ((tlsInputHashes r).run h st).1 = .ok inputs)
    {ns name : String} {hash : Secret → Except SecretProblem String}
    (hmem : .read ns name hash ∈ r.readPlan) :
    ∃ st' s digest, (h (.getSecret ns name) st').1 = .ok (some s) ∧ hash s = .ok digest := by
  have hfollows := follows_tlsInputHashes (runs_transcript h (tlsInputHashes r) st)
  rw [succeeds] at hfollows
  obtain ⟨e, he, hmeets⟩ := hfollows.exists_meets rfl hmem
  obtain ⟨answer, rfl, hstop⟩ := hmeets.exists_answer
  obtain ⟨st', hanswer⟩ := exists_of_mem_transcript he
  cases hhash : secretHashOf ns name hash answer with
  | error e =>
    rw [hhash] at hstop
    cases hstop
  | ok digest =>
    obtain ⟨s, rfl, hs⟩ := secretHashOf_ok hhash
    exact ⟨st', s, digest, hanswer.symm, hs⟩

end

/-! ## The files of an instance -/

namespace Redis

section

variable {r : Redis} {secrets : (ns name : String) → Except ControlError (Option Secret)}
  {σ : Type} {h : Handler Cluster σ} {st : σ} {inputs : InputHashes} {settings : Settings}

/-- A secret that is mounted, and checked for some keys when it is read, has files under them. -/
theorem hasSecretFile_of_read
    (fixed : ∀ ns name st, (h (.getSecret ns name) st).1 = secrets ns name)
    (succeeds : ((tlsInputHashes r).run h st).1 = .ok inputs) {volume name directory : String}
    (mounted : (Volume.ofSecret volume name, directory) ∈ r.mountedVolumes)
    {hash : Secret → Except SecretProblem String} (hread : r.readStage hash name ∈ r.readPlan)
    {keys : List String} (checked : ∀ s digest, hash s = .ok digest → s.requireKeys keys = .ok ())
    {key : String} (hkey : key ∈ keys) :
    (r.podSpec settings).HasSecretFile (secrets (r.metadata.ns.getD "")) (directory ++ "/" ++ key) := by
  obtain ⟨st', s, digest, hsecret, hhash⟩ := exists_secret_of_ok succeeds hread
  obtain ⟨data, hdata, hvalues⟩ := Secret.requireKeys_eq_ok_iff.1 (checked s digest hhash)
  exact ⟨_, key, _, name, s, data, rfl, hasAt_podSpec_iff.2 mounted, rfl,
    (fixed _ _ st').symm.trans hsecret, hdata, hvalues key hkey⟩

theorem hasSecretFile_certificate
    (fixed : ∀ ns name st, (h (.getSecret ns name) st).1 = secrets ns name)
    (succeeds : ((tlsInputHashes r).run h st).1 = .ok inputs)
    (secure : r.spec.tls.enabled = true) {key : String}
    (hkey : key ∈ Secret.certificateKeys r.spec.tls.caBundle?.isNone) :
    (r.podSpec settings).HasSecretFile (secrets (r.metadata.ns.getD ""))
      (MountPath.certificate ++ "/" ++ key) := by
  obtain ⟨name, hname⟩ := Option.isSome_iff_exists.1 secure
  exact hasSecretFile_of_read fixed succeeds (certificate_mem_mountedVolumes hname)
    (List.mem_append_left _ (List.mem_map_of_mem (Option.mem_toList.2 hname)))
    (fun _ _ hhash => (Secret.map_requireKeys_iff.1 hhash).1) hkey

theorem hasSecretFile_caBundle
    (fixed : ∀ ns name st, (h (.getSecret ns name) st).1 = secrets ns name)
    (succeeds : ((tlsInputHashes r).run h st).1 = .ok inputs) {name : String}
    (hname : r.spec.tls.caBundle? = some name) :
    (r.podSpec settings).HasSecretFile (secrets (r.metadata.ns.getD ""))
      (MountPath.caBundle ++ "/" ++ TlsKey.caBundle) :=
  hasSecretFile_of_read fixed succeeds (caBundle_mem_mountedVolumes hname)
    (List.mem_append_right _ (List.mem_map_of_mem (Option.mem_toList.2 hname)))
    (fun _ _ hhash => (Secret.map_requireKeys_iff.1 hhash).1) (List.mem_singleton_self _)

theorem hasSecretFile_caFile
    (fixed : ∀ ns name st, (h (.getSecret ns name) st).1 = secrets ns name)
    (succeeds : ((tlsInputHashes r).run h st).1 = .ok inputs)
    (secure : r.spec.tls.enabled = true) :
    (r.podSpec settings).HasSecretFile (secrets (r.metadata.ns.getD "")) r.caFile := by
  unfold caFile
  cases hbundle : r.spec.tls.caBundle? with
  | none =>
    refine hasSecretFile_certificate fixed succeeds secure ?_
    rw [hbundle]
    decide
  | some name => exact hasSecretFile_caBundle fixed succeeds hbundle

theorem ifSecure_eq {r : Redis} (secure : r.spec.tls.enabled = true) (path : String) :
    r.ifSecure path = [path] := if_pos secure

end

end Redis

/-! ## The theorem -/

/-- **The TLS files that the configuration names are there.** The configuration of the server is
what was generated and then the text of the user, which may be anything. -/
theorem tls_files_exist {r : Redis} (complete : r.IsComplete)
    (secure : r.spec.tls.enabled = true) {σ : Type} {h : Handler Cluster σ}
    {secrets : (ns name : String) → Except ControlError (Option Secret)}
    (fixed : ∀ ns name st, (h (.getSecret ns name) st).1 = secrets ns name) {st : σ}
    {inputs : InputHashes} (succeeds : ((tlsInputHashes r).run h st).1 = .ok inputs)
    (settings : Settings) (inputHash : String) :
    ∃ scripts config workload pods generated readiness,
      r.configTemplates.map r.configMap = [.ok scripts, .ok config] ∧
      r.statefulSet settings inputHash = .ok workload ∧ workload.podSpec? = some pods ∧
      config.1.file? "redis.conf" = some (generated ++ r.spec.customConfig.getD "") ∧
      scripts.1.file? "readiness.sh" = some readiness ∧
      ∀ e ∈ [("tls-cert-file", generated), ("tls-key-file", generated),
          ("tls-ca-cert-file", generated), ("--cacert", readiness)],
        ∃ path, Text.valuesOf e.1 e.2 = [path] ∧
          pods.HasSecretFile (secrets (r.metadata.ns.getD "")) path := by
  obtain ⟨w⟩ := Redis.owned_of_isComplete complete
  have hcertificate : ∀ key ∈ Secret.certificateKeys r.spec.tls.caBundle?.isNone,
      (r.podSpec settings).HasSecretFile (secrets (r.metadata.ns.getD ""))
        (MountPath.certificate ++ "/" ++ key) :=
    fun key hkey => Redis.hasSecretFile_certificate fixed succeeds secure hkey
  -- Options are looked up in the text that was generated; the text of the user comes after it.
  have hserver : ∀ option path, (option, r.ifSecure path) ∈ r.serverOptions →
      Text.valuesOf option r.serverText = [path] := by
    intro option path hmem
    rw [r.valuesOf_serverText hmem, Redis.ifSecure_eq secure]
  have hcaFile : (r.podSpec settings).HasSecretFile (secrets (r.metadata.ns.getD "")) r.caFile :=
    Redis.hasSecretFile_caFile fixed succeeds secure
  refine ⟨_, _, _, _, r.serverText, r.readinessText, w.configMaps_eq,
    w.statefulSet_eq settings inputHash, Redis.podSpec?_of_statefulSet (w.statefulSet_eq _ _),
    w.file?_config, w.file?_readiness, ?_⟩
  simp only [List.forall_mem_cons, List.not_mem_nil, false_implies, implies_true, and_true]
  refine ⟨⟨_, hserver _ _ ?_, hcertificate TlsKey.certificate ?_⟩,
    ⟨_, hserver _ _ ?_, hcertificate TlsKey.privateKey ?_⟩, ⟨_, hserver _ _ ?_, hcaFile⟩,
    ⟨_, ?_, hcaFile⟩⟩
  · exact List.mem_cons_self
  · exact List.mem_append_left _ List.mem_cons_self
  · exact List.mem_cons_of_mem _ List.mem_cons_self
  · exact List.mem_append_left _ (List.mem_cons_of_mem _ List.mem_cons_self)
  · exact List.mem_cons_of_mem _ (List.mem_cons_of_mem _ List.mem_cons_self)
  · rw [r.render_readinessScript.2, Redis.ifSecure_eq secure]

/-- An instance whose clients connect securely, in a cluster where its certificate is complete. -/
def SteadyCluster.secured : SteadyCluster :=
  { plain fun _ => .ok (.converged .created none) with
    spec := { tls := { secretName := some "cache-tls" } }
    secret := fun _ _ => .ok (some {
      data := some (.ofList [("ca.crt", [1]), ("tls.crt", [2]), ("tls.key", [3])])
      immutable := none
      metadata := .empty
      stringData := none
      type := none }) }

open SteadyCluster in
theorem tls_files_exist_secured : ∃ workload pods generated,
    (secured.redis none).statefulSet .default "" = .ok workload ∧ workload.podSpec? = some pods ∧
      ∀ option ∈ ["tls-cert-file", "tls-key-file", "tls-ca-cert-file"],
        ∃ path, Text.valuesOf option generated = [path] ∧
          pods.HasSecretFile (secured.secret "demo") path := by
  obtain ⟨_, _, workload, pods, generated, _, -, hworkload, hpods, -, -, hfiles⟩ :=
    tls_files_exist (r := secured.redis none) ⟨rfl, rfl, rfl⟩ rfl (h := secured.handler toString)
      (fun ns name _ => (rfl : _ = secured.secret ns name))
      (rfl : ((tlsInputHashes _).run _ (none, 0)).1 = .ok _) .default ""
  rw [List.forall_mem_cons, List.forall_mem_cons, List.forall_mem_cons] at hfiles
  obtain ⟨hcertificate, hkey, hauthority, -⟩ := hfiles
  refine ⟨workload, pods, generated, hworkload, hpods, ?_⟩
  exact List.forall_mem_cons.2
    ⟨hcertificate, List.forall_mem_cons.2 ⟨hkey, List.forall_mem_singleton.2 hauthority⟩⟩

end RedisControl
